import DistributedInference.Ranking.Server

/-!
# Every call is answered once, as on its own

The invariant of the replica says where the calls are: together, the queue, the running
batches and the answers hold the accepted calls and nothing else.  A running batch is
not empty and carries the features of its own users, so its forward pass succeeds and
its results are the answers that the calls get on their own.
-/

namespace DistributedInference.Ranking

open Prometheus Tensor Transition

variable {K : Type} [CommSemiring K] [LinearOrder K] {ranker : Ranker K}
variable {state next start finish : Server K} {action : ServerAction}

/-- What `score_unbatched` returns. -/
theorem scoreUnbatched_eq_answer (ranker : Ranker K) (request : RankRequest) :
    ranker.scoreUnbatched request = some (ranker.answer request) := by
  rw [Ranker.scoreUnbatched, score_eq_map_answer ranker (List.cons_ne_nil request [])]
  rfl

/-- A running `_score` can go on to its end. -/
structure ScoreTask.Ready (ranker : Ranker K) (task : ScoreTask K) : Prop where
  nonempty : task.batch ≠ []
  features : ∀ userFeats, task.phase = .forwarding userFeats →
    userFeats = ranker.store.batchGet (task.batch.map (·.1.userId))

/-- Its forward pass answers the calls of the batch. -/
theorem ScoreTask.Ready.forward {batch : List Call} {userFeats : List (Fin embedDim → K)}
    (ready : ScoreTask.Ready ranker ⟨batch, .forwarding userFeats⟩) :
    ranker.forward (batch.map Prod.fst) userFeats =
      some (batch.map fun call => ranker.answer call.1) := by
  have requests : batch.map Prod.fst ≠ [] := by simpa using ready.nonempty
  have scored := score_eq_map_answer ranker requests
  rw [Ranker.score, List.map_map] at scored
  rw [ready.features userFeats rfl]
  exact scored.trans (congrArg some List.map_map)

/-! ## The metrics -/

/-- The metrics count these requests. -/
structure Metrics.Counts (metrics : Metrics) (requests : List RankRequest) : Prop where
  ranked : metrics.requestsRanked = requests.length
  sizes : metrics.candidateSetSize.Records Metrics.candidateSetBoundaries
    (requests.map (·.candidateIds.length))

theorem Metrics.counts_initial : Metrics.initial.Counts [] where
  ranked := rfl
  sizes := Histogram.records_empty _

/-- The loop of `_score`. -/
theorem Metrics.Counts.foldl {metrics : Metrics} {requests : List RankRequest}
    (counts : metrics.Counts requests) (later : List RankRequest) :
    (later.foldl Metrics.emit metrics).Counts (requests ++ later) := by
  induction later generalizing metrics requests with
  | nil => simpa using counts
  | cons request rest ih =>
      have one : (metrics.emit request).Counts (requests ++ [request]) := by
        constructor
        · simp [Metrics.emit, counts.ranked]
        · rw [List.map_append]
          exact counts.sizes.observe _
      have whole := ih one
      rwa [List.append_assoc, List.singleton_append] at whole

/-! ## Where the calls are -/

namespace Server

/-- The calls that are in the replica or were answered by it. -/
def calls (state : Server K) : List Call :=
  state.queue ++ state.scoring.flatMap ScoreTask.batch ++ state.answered.map Prod.fst

/-- The invariant of the replica. -/
structure Sound (ranker : Ranker K) (state : Server K) : Prop where
  conserved : state.calls.Perm state.accepted.zipIdx
  ready : ∀ task ∈ state.scoring, task.Ready ranker
  own : ∀ entry ∈ state.answered, entry.2 = ranker.answer entry.1.1
  failed : state.failed = []
  counted : state.metrics.Counts (state.answered.map (·.1.1))
  collecting : ∀ limit, state.collecting = some limit → 1 ≤ limit ∧ state.queue ≠ []

theorem sound_initial : (initial : Server K).Sound ranker where
  conserved := .refl _
  ready := by simp [initial]
  own := by simp [initial]
  failed := rfl
  counted := Metrics.counts_initial
  collecting := nofun

/-- A task taken out of a list, with what it held in front. -/
theorem perm_flatMap_eraseIdx {Task : Type} {Held : Type} (held : Task → List Held)
    {tasks : List Task} {index : Nat} {task : Task} (found : tasks[index]? = some task) :
    (tasks.flatMap held).Perm (held task ++ (tasks.eraseIdx index).flatMap held) := by
  rcases List.getElem?_eq_some_iff.mp found with ⟨inRange, rfl⟩
  have first := (List.getElem_cons_eraseIdx_perm inRange).symm.flatMap_right held
  rwa [List.flatMap_cons] at first

omit [CommSemiring K] [LinearOrder K] in
/-- A task replaced by one that holds the same. -/
theorem flatMap_batch_set {tasks : List (ScoreTask K)} {index : Nat}
    {before : ScoreTask K} (after : ScoreTask K) (found : tasks[index]? = some before)
    (same : after.batch = before.batch) :
    (tasks.set index after).flatMap ScoreTask.batch = tasks.flatMap ScoreTask.batch := by
  rcases List.getElem?_eq_some_iff.mp found with ⟨inRange, rfl⟩
  rcases List.exists_of_set inRange with ⟨earlier, later, whole, _, replaced⟩
  rw [replaced]
  conv => rhs; rw [whole]
  simp only [List.flatMap_append, List.flatMap_cons, same]

omit [CommSemiring K] [LinearOrder K] in
/-- A call is appended to the accepted ones and to one place. -/
theorem calls_call (request : RankRequest) (useBatching : Bool) :
    (state.call request useBatching).calls.Perm
      (state.calls ++ [(request, state.accepted.length)]) := by
  cases useBatching with
  | true =>
      simp only [calls, call, if_true, List.append_assoc]
      exact List.Perm.append_left _ (List.perm_append_comm.trans (by simp))
  | false =>
      simp only [calls, call, List.flatMap_append, List.append_assoc, Bool.false_eq_true,
        if_false]
      exact List.Perm.append_left _ (List.Perm.append_left _
        (List.perm_append_comm.trans (by simp)))

omit [CommSemiring K] [LinearOrder K] in
theorem accepted_call (request : RankRequest) (useBatching : Bool) :
    (state.call request useBatching).accepted = state.accepted ++ [request] := by
  cases useBatching <;> rfl

theorem Sound.call (sound : state.Sound ranker) (request : RankRequest)
    (useBatching : Bool) : (state.call request useBatching).Sound ranker where
  conserved := by
    rw [accepted_call, List.zipIdx_append, Nat.zero_add]
    exact (calls_call request useBatching).trans (sound.conserved.append_right _)
  ready := by
    cases useBatching with
    | true => exact sound.ready
    | false =>
        intro task member
        rcases List.mem_append.mp member with old | new
        · exact sound.ready task old
        · cases List.mem_singleton.mp new
          exact ⟨List.cons_ne_nil _ _, nofun⟩
  own := by
    cases useBatching with
    | true => exact sound.own
    | false => exact sound.own
  failed := by
    cases useBatching with
    | true => exact sound.failed
    | false => exact sound.failed
  counted := by
    cases useBatching with
    | true => exact sound.counted
    | false => exact sound.counted
  collecting := by
    intro limit reads
    cases useBatching with
    | true => exact ⟨(sound.collecting limit reads).1, by simp [Server.call]⟩
    | false => exact sound.collecting limit reads

/-- A batch is cut off the front of the queue. -/
theorem Sound.launch (sound : state.Sound ranker) {count : Nat} (positive : 1 ≤ count)
    (available : count ≤ state.queue.length) :
    Sound ranker { state with
      collecting := none
      queue := state.queue.drop count
      scoring := state.scoring ++ [⟨state.queue.take count, .fetching⟩] } where
  conserved := by
    refine .trans ?_ sound.conserved
    -- The batch moves from the end of the running ones to the front of the queue.
    have moved : (state.queue.drop count ++
          (state.scoring.flatMap ScoreTask.batch ++ state.queue.take count)).Perm
        (state.queue.take count ++
          (state.queue.drop count ++ state.scoring.flatMap ScoreTask.batch)) := by
      rw [← List.append_assoc]
      exact List.perm_append_comm
    rw [← List.append_assoc (state.queue.take count), List.take_append_drop] at moved
    simp only [calls, List.flatMap_append, List.flatMap_singleton]
    exact moved.append_right _
  ready := by
    intro task member
    rcases List.mem_append.mp member with old | new
    · exact sound.ready task old
    · cases List.mem_singleton.mp new
      refine ⟨?_, nofun⟩
      apply List.ne_nil_of_length_pos
      rw [List.length_take]
      omega
  own := sound.own
  failed := sound.failed
  counted := sound.counted
  collecting := nofun

/-- The features of a batch arrive. -/
theorem Sound.featuresArrive (sound : state.Sound ranker) {index : Nat}
    {batch : List Call} (suspended : state.scoring[index]? = some ⟨batch, .fetching⟩) :
    Sound ranker { state with
      scoring := state.scoring.set index
        ⟨batch, .forwarding (ranker.store.batchGet (batch.map (·.1.userId)))⟩ } where
  conserved := by
    have same := flatMap_batch_set ⟨batch, .forwarding
      (ranker.store.batchGet (batch.map (·.1.userId)))⟩ suspended rfl
    have conserved := sound.conserved
    rw [calls, ← same] at conserved
    exact conserved
  ready := by
    intro task member
    rcases List.mem_or_eq_of_mem_set member with old | new
    · exact sound.ready task old
    · cases new
      refine ⟨(sound.ready _ (List.mem_of_getElem? suspended)).nonempty, ?_⟩
      intro userFeats phase
      cases phase
      rfl
  own := sound.own
  failed := sound.failed
  counted := sound.counted
  collecting := sound.collecting

/-- A batch whose forward pass returns leaves with the answers to its calls. -/
theorem Sound.forwardReturns (sound : state.Sound ranker) {index : Nat}
    {batch : List Call} {userFeats : List (Fin embedDim → K)}
    (suspended : state.scoring[index]? = some ⟨batch, .forwarding userFeats⟩) :
    (state.finish index batch (ranker.forward (batch.map Prod.fst) userFeats)).Sound
      ranker := by
  have ready := sound.ready _ (List.mem_of_getElem? suspended)
  have answers : batch.zip (batch.map fun call => ranker.answer call.1) =
      batch.map fun call => (call, ranker.answer call.1) := by
    rw [List.zip, List.zipWith_map_right, List.zipWith_self]
  rw [ready.forward, finish, if_pos (List.length_map _), answers]
  constructor
  · refine .trans ?_ sound.conserved
    have taken := perm_flatMap_eraseIdx ScoreTask.batch suspended
    simp only [calls, List.map_append, List.map_map, Function.comp_def, List.map_id']
    rw [List.append_assoc state.queue, List.append_assoc state.queue]
    apply List.Perm.append_left
    refine .trans ?_ (taken.symm.append_right _)
    rw [← List.append_assoc, List.append_assoc batch]
    exact List.perm_append_comm
  · intro task member
    exact sound.ready task (List.mem_of_mem_eraseIdx member)
  · intro entry member
    rcases List.mem_append.mp member with old | new
    · exact sound.own entry old
    · rcases List.mem_map.mp new with ⟨call, _, rfl⟩
      rfl
  · exact sound.failed
  · have counted := sound.counted.foldl (batch.map Prod.fst)
    simpa [Function.comp_def] using counted
  · exact sound.collecting

/-- Every step keeps the replica sound. -/
theorem Sound.step (sound : state.Sound ranker)
    (taken : state.step ranker action = some next) : next.Sound ranker := by
  cases action with
  | call request useBatching =>
      cases taken
      exact sound.call request useBatching
  | reconfigure maxBatchSize batchWaitTimeoutS =>
      cases taken
      unfold reconfigure
      split
      · exact sound
      · exact ⟨sound.conserved, sound.ready, sound.own, sound.failed, sound.counted,
          sound.collecting⟩
  | collect =>
      simp only [step, Option.ite_none_right_eq_some] at taken
      rcases taken with ⟨idle, same⟩
      cases same
      refine ⟨sound.conserved, sound.ready, sound.own, sound.failed, sound.counted, ?_⟩
      intro limit reads
      cases reads
      exact ⟨state.config.maxBatchSize_ge, idle.2⟩
  | launch count =>
      simp only [step] at taken
      split at taken
      next limit collecting =>
        simp only [Option.ite_none_right_eq_some] at taken
        rcases taken with ⟨⟨positive, _, available⟩, same⟩
        cases same
        exact sound.launch positive available
      next => contradiction
  | featuresArrive index =>
      simp only [step] at taken
      split at taken
      next batch suspended =>
        cases taken
        exact sound.featuresArrive suspended
      next => contradiction
  | forwardReturns index =>
      simp only [step] at taken
      split at taken
      next batch userFeats suspended =>
        cases taken
        exact sound.forwardReturns suspended
      next => contradiction

theorem sound_of_reachable (reachable : (server ranker).Reachable state) :
    state.Sound ranker := by
  apply reachable.invariant (Sound ranker)
  · intro state start
    cases start
    exact sound_initial
  · intro state action next _ sound taken
    exact sound.step taken

end Server

/-! ## What the callers and the dashboard see -/

/-- The answers and the metrics of a replica. -/
structure Served (ranker : Ranker K) (state : Server K) : Prop where
  /-- An answer is given to an accepted call, and it is the one of the unbatched twin. -/
  own : ∀ call response, (call, response) ∈ state.answered →
    state.accepted[call.2]? = some call.1 ∧
      ranker.scoreUnbatched call.1 = some response
  /-- No call is answered twice. -/
  once : (state.answered.map (·.1.2)).Nodup
  /-- A call without an answer is still in the replica; none has failed. -/
  pending : ∀ position request, state.accepted[position]? = some request →
    (request, position) ∈ state.answered.map Prod.fst ∨ (request, position) ∈ state.queue ∨
      ∃ task ∈ state.scoring, (request, position) ∈ task.batch
  failed : state.failed = []
  /-- The counter is the number of answers, -/
  ranked : state.metrics.requestsRanked = state.answered.length
  /-- and the histogram is the one of the candidate sets that were answered. -/
  sizes : state.metrics.candidateSetSize.Records Metrics.candidateSetBoundaries
    (state.answered.map (·.1.1.candidateIds.length))

/-- Under every interleaving of calls, batches and retunings, each call is answered at
most once, as it is on its own, and is counted with its answer.  Scores are exact. -/
theorem served (reachable : (server ranker).Reachable state) : Served ranker state := by
  have sound := Server.sound_of_reachable reachable
  have positions : (state.accepted.zipIdx.map Prod.snd).Nodup := by
    rw [List.zipIdx_map_snd]
    exact List.nodup_range'
  constructor
  · intro call response member
    have known : call ∈ state.calls :=
      List.mem_append_right _ (List.mem_map.mpr ⟨_, member, rfl⟩)
    have accepted := sound.conserved.mem_iff.mp known
    refine ⟨List.mem_zipIdx_iff_getElem?.mp accepted, ?_⟩
    rw [scoreUnbatched_eq_answer, ← sound.own _ member]
  · have whole := (sound.conserved.map Prod.snd).nodup_iff.mpr positions
    rw [Server.calls, List.map_append, List.map_map] at whole
    exact (List.nodup_append.mp whole).2.1
  · intro position request found
    have listed : (request, position) ∈ state.accepted.zipIdx :=
      List.mem_zipIdx_iff_getElem?.mpr found
    have known := sound.conserved.mem_iff.mpr listed
    simp only [Server.calls, List.mem_append, List.mem_flatMap] at known
    rcases known with (queued | running) | answered
    · exact Or.inr (Or.inl queued)
    · exact Or.inr (Or.inr running)
    · exact Or.inl answered
  · exact sound.failed
  · exact sound.counted.ranked.trans (List.length_map _)
  · have sizes := sound.counted.sizes
    rwa [List.map_map] at sizes

/-- A ranker that scores all candidates alike. -/
def levelRanker : Ranker ℚ := ⟨⟨.constant 1⟩, ⟨fun _ _ => 1⟩⟩

/-- A batched call and an unbatched one, with a retuning that is refused between them. -/
def overlappingCalls : List ServerAction :=
  [.call ⟨"u1", ["a"]⟩ true, .collect, .reconfigure (some 0) none,
    .call ⟨"u2", ["b"]⟩ false, .launch 1, .featuresArrive 1, .featuresArrive 0,
    .forwardReturns 1]

theorem served_overlappingCalls :
    ∃ state, System.execute (Server.step levelRanker) .initial overlappingCalls =
        some state ∧
      state.answered.map Prod.fst = [(⟨"u1", ["a"]⟩, 0)] ∧ Served levelRanker state :=
  ⟨_, rfl, rfl, served (System.reachable_of_execute overlappingCalls rfl)⟩

/-! ## No call is stuck -/

/-- A run without new calls. -/
structure Works (ranker : Ranker K) (start finish : Server K) : Prop where
  run : ∃ actions, (server ranker).Run start actions finish
  accepted : finish.accepted = start.accepted

theorem Works.trans {middle : Server K} (first : Works ranker start middle)
    (second : Works ranker middle finish) : Works ranker start finish where
  run := by
    rcases first.run with ⟨earlier, before⟩
    rcases second.run with ⟨later, after⟩
    exact ⟨earlier ++ later, before.append after⟩
  accepted := second.accepted.trans first.accepted

end DistributedInference.Ranking
