import DistributedInference.Transition.System
import DistributedInference.Transition.Registry
import DistributedInference.Delivery.AtLeastOnce
import DistributedInference.StreamProcessing.Moves
import DistributedInference.StreamProcessing.InFlight
import DistributedInference.StreamProcessing.AtLeastOnce
import DistributedInference.StreamProcessing.Drain
import DistributedInference.StreamProcessing.Duplicates
import DistributedInference.StreamProcessing.PollLoop
import DistributedInference.CustomRouting.Router
import DistributedInference.CustomRouting.Choice
import DistributedInference.CustomRouting.Ranks
import DistributedInference.CustomRouting.Affinity
import DistributedInference.CustomRouting.Ranker
import DistributedInference.CustomRouting.Fleet
import DistributedInference.Caching.Cache
import DistributedInference.CustomRouting.CacheHits
import DistributedInference.Ranking.Model
import DistributedInference.Ranking.Batching
import DistributedInference.Ranking.Weights
import DistributedInference.Caching.Memo
import DistributedInference.CustomRouting.ReplicaRuns
import DistributedInference.CustomRouting.Answers
import DistributedInference.Balancing.Spread
import DistributedInference.CustomRouting.Skew
import DistributedInference.CustomRouting.Listing
import DistributedInference.CustomRouting.OverrideSignal
import DistributedInference.Control.Loop
import DistributedInference.CustomAutoscaling.Context
import DistributedInference.CustomAutoscaling.QueueLatency
import DistributedInference.CustomAutoscaling.ResourcePressure
import DistributedInference.Floating.Rounding
import DistributedInference.Python.Dict
import DistributedInference.Ranking.Ingress
import DistributedInference.Json.Strings
import DistributedInference.Json.Values
import DistributedInference.Json.Reading
import DistributedInference.Sse.Stream
import DistributedInference.LlmComposition.App
import DistributedInference.CustomRouting.Payload
import DistributedInference.AsyncInference.Scorer
import DistributedInference.AsyncInference.Client
import DistributedInference.CustomAutoscaling.ExternalTarget
import DistributedInference.StreamProcessing.DrainEnds
import DistributedInference.StreamProcessing.Backoff
import DistributedInference.LlmRouting.Verify
import DistributedInference.Concurrency.Pool
import DistributedInference.LlmEngine.LoadTest
import DistributedInference.StreamProcessing.Progress
import DistributedInference.Prometheus.Histogram
import DistributedInference.Ranking.Server
import DistributedInference.Ranking.Serving
import DistributedInference.Control.ClosedLoop
import DistributedInference.CustomAutoscaling.Deployment
import DistributedInference.Balancing.Rescale
import DistributedInference.CustomRouting.Reshuffle
import DistributedInference.Delivery.TaskQueue
import DistributedInference.LlmEngine.Clients
import DistributedInference.Transition.Timeline
import DistributedInference.AsyncInference.Jobs
import DistributedInference.AsyncInference.Tickets
import DistributedInference.LlmRouting.Experiment
import DistributedInference.LlmComposition.Streaming
import DistributedInference.CustomAutoscaling.LoadBlind
import DistributedInference.CustomAutoscaling.Worker
import DistributedInference.Tracing.Graph
import DistributedInference.CustomAutoscaling.CatchUp
import DistributedInference.Concurrency.Cluster
import DistributedInference.StreamProcessing.Restarts
