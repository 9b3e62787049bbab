import DistributedInference.StreamProcessing.Moves

/-!
# Failures of the poll loop

Failures of a task stay in that task.  A failure in `run` itself is not caught: an
exception of `receive_messages`, or of a call to the model handle, leaves the
coroutine, and nothing starts it again.  The loop survives exactly the runs in
which no such exception occurs before the shutdown event is set.
-/

namespace DistributedInference.StreamProcessing

open Transition

variable {Pixels : Type} {state next : State Pixels} {action : Action Pixels}

/-- The loop ends only after the event is set, and until then it comes to a new
receive. -/
structure KeepsPolling (state : State Pixels) : Prop where
  ends : ∀ raised, state.poll = .ended raised → state.shutdownEvent = true
  polls : state.shutdownEvent = false → ∃ actions final gone,
    (poller Pixels).Run state actions final ∧ final.poll = .receiving gone

/-- While the event is not set, no receive raises and no call to the model handle
raises that the dispatch loop makes. -/
def NoPollFailure (state : State Pixels) : Action Pixels → Prop
  | .receiveRaises _ =>
      ∀ gone, state.poll = .receiving gone → state.shutdownEvent = true
  | .pollResumes remote =>
      ∀ messages, state.poll = .received (.ok messages) →
        state.shutdownEvent = true ∨ ∀ message ∈ messages,
          message.messageId ∉ state.inFlight.table →
            remote message.messageId = none
  | _ => True

/-- The dispatch loop runs to its end when no call it makes raises. -/
theorem forward_raised_eq_none_iff (remote : String → Option Failure)
    (inFlight : Registry String (Task Pixels)) (messages : List Message) :
    (forward remote inFlight messages).raised = none ↔
      ∀ message ∈ messages, message.messageId ∉ inFlight.table →
        remote message.messageId = none := by
  induction messages generalizing inFlight with
  | nil => simp [forward]
  | cons head rest ih =>
      simp only [forward]
      split
      next present => simp [ih, present]
      next absent =>
        split
        next failure raises => simp [absent, raises]
        next returns =>
          simp only [ih, Registry.start_table, AList.mem_insert, not_or,
            List.mem_cons, forall_eq_or_imp, returns, implies_true, true_and]
          constructor
          · intro later message member missing
            by_cases same : message.messageId = head.messageId
            · exact same ▸ returns
            · exact later message member ⟨same, missing⟩
          · intro all message member missing
            exact all message member missing.2

/-! ## A dead loop -/

/-- The loop has ended, or it will as soon as it resumes from a failed receive. -/
def PollPhase.Dead : PollPhase → Prop
  | .received (.error _) => True
  | .ended _ => True
  | _ => False

theorem dead_moves (dead : state.poll.Dead) (moves : Moves state action next) :
    next.poll.Dead := by
  cases moves with
  | pollWakes resting =>
      rcases resting with scheduled | ⟨milliseconds, sleeping⟩
      · simp [scheduled, PollPhase.Dead] at dead
      · simp [sleeping, PollPhase.Dead] at dead
  | receiveReturns receiving => simp [receiving, PollPhase.Dead] at dead
  | receiveRaises => trivial
  | dispatch received => simp [received, PollPhase.Dead] at dead
  | receiveFailed => trivial
  | responseRaises => simpa using dead
  | uploadReturns => simpa using dead
  | uploadRaises => simpa using dead
  | _ => exact dead

/-- A dead loop never receives again. -/
theorem not_keepsPolling_of_dead (dead : state.poll.Dead)
    (unset : state.shutdownEvent = false) : ¬KeepsPolling state := by
  intro keeps
  rcases keeps.polls unset with ⟨actions, final, gone, run, receiving⟩
  have stillDead := run.preserves (fun current => current.poll.Dead)
    (fun holds taken => dead_moves holds (moves_of_step taken)) dead
  simp [receiving, PollPhase.Dead] at stillDead

/-! ## A living loop -/

/-- The loop is dead only once the event is set. -/
def Alive (state : State Pixels) : Prop :=
  state.poll.Dead → state.shutdownEvent = true

theorem Alive.moves (alive : Alive state) (moves : Moves state action next)
    (noFailure : NoPollFailure state action) : Alive next := by
  cases moves with
  | pollWakes =>
      unfold State.checkShutdown
      split
      next set => exact fun _ => set
      next => exact nofun
  | receiveReturns => exact nofun
  | receiveRaises receiving => exact fun _ => noFailure _ receiving
  | @dispatch remote messages received =>
      rcases noFailure messages received with set | returns
      · exact fun _ => set
      · have completes :=
          (forward_raised_eq_none_iff remote state.inFlight messages).mpr returns
        simp [Alive, State.dispatch, completes, PollPhase.Dead]
  | receiveFailed received =>
      intro _
      exact alive (by simp [received, PollPhase.Dead])
  | responseRaises => simpa [Alive] using alive
  | uploadReturns => simpa [Alive] using alive
  | uploadRaises => simpa [Alive] using alive
  | shutdownRequested => exact fun _ => rfl
  | _ => exact alive

/-- Before the event is set, a waking loop receives. -/
theorem run_pollWakes (unset : state.shutdownEvent = false)
    (resting : state.poll = .scheduled ∨
      ∃ milliseconds, state.poll = .sleeping milliseconds) :
    (poller Pixels).Run state [.pollWakes]
      { state with poll := .receiving state.deleted } := by
  apply System.Run.single
  have checked : state.checkShutdown =
      { state with poll := .receiving state.deleted } := by
    simp [State.checkShutdown, unset]
  rcases resting with scheduled | ⟨milliseconds, sleeping⟩
  · simp [poller, System.ofFunction, State.step, scheduled, checked]
  · simp [poller, System.ofFunction, State.step, sleeping, checked]

/-- A living loop keeps polling: from each of its suspension points its own next
steps, with no failure in them, come to a new receive. -/
theorem Alive.keepsPolling (alive : Alive state) : KeepsPolling state where
  ends raised ended := alive (by simp [ended, PollPhase.Dead])
  polls unset := by
    have notDead : ¬state.poll.Dead := by
      intro dead
      simp [alive dead] at unset
    cases phase : state.poll with
    | scheduled =>
        exact ⟨_, _, _, run_pollWakes unset (Or.inl phase), rfl⟩
    | sleeping milliseconds =>
        exact ⟨_, _, _, run_pollWakes unset (Or.inr ⟨_, phase⟩), rfl⟩
    | receiving gone => exact ⟨[], state, gone, .nil state, phase⟩
    | ended raised => simp [phase, PollPhase.Dead] at notDead
    | received outcome =>
        cases outcome with
        | error failure => simp [phase, PollPhase.Dead] at notDead
        | ok messages =>
            have completes :=
              (forward_raised_eq_none_iff (fun _ => none) state.inFlight
                messages).mpr (by simp)
            have resumes : state.step (.pollResumes fun _ => none) =
                some (state.dispatch (fun _ => none) messages) := by
              simp only [State.step, phase]
            have asleep : (state.dispatch (fun _ => none) messages).poll =
                .sleeping (pollDelay state.backpressureCounter) := by
              simp [State.dispatch, completes]
            have wakes : (poller Pixels).Run
                (state.dispatch (fun _ => none) messages) [.pollWakes] _ :=
              run_pollWakes unset (Or.inr ⟨_, asleep⟩)
            exact ⟨_, _, _, .cons resumes wakes, rfl⟩

/-! ## Exactly the runs without a failure in the loop -/

/-- In a run that keeps polling, no step ends the loop while the event is not set. -/
theorem not_dead_of_eachState {actions earlier later : List (Action Pixels)}
    (keeps : (poller Pixels).EachState KeepsPolling .initial actions)
    (split : actions = earlier ++ action :: later)
    (run : (poller Pixels).Run .initial earlier state)
    (taken : (poller Pixels).Step state action next)
    (unset : next.shutdownEvent = false) : ¬next.poll.Dead := by
  intro dead
  have after := keeps (earlier ++ [action]) later next (by simp [split])
    (run.append (.single taken))
  exact not_keepsPolling_of_dead dead unset after

/-- In every run: the loop ends only after the event is set, and keeps polling
until then, if and only if no receive and no call to the model handle raises
while the event is not set. -/
theorem keepsPolling_iff (actions : List (Action Pixels)) :
    (poller Pixels).EachState KeepsPolling .initial actions ↔
      (poller Pixels).EachStep NoPollFailure .initial actions := by
  constructor
  · intro keeps earlier action later state split run
    cases action with
    | receiveRaises failure =>
        intro gone receiving
        by_contra unset
        have taken : (poller Pixels).Step state (.receiveRaises failure)
            { state with poll := .received (.error failure) } := by
          simp only [poller, System.ofFunction, State.step, receiving]
        exact not_dead_of_eachState keeps split run taken (by simpa using unset)
          trivial
    | pollResumes remote =>
        intro messages received
        by_contra both
        simp only [not_or, Bool.not_eq_true] at both
        have taken : (poller Pixels).Step state (.pollResumes remote)
            (state.dispatch remote messages) := by
          simp only [poller, System.ofFunction, State.step, received]
        have raises := mt (forward_raised_eq_none_iff remote state.inFlight
          messages).mp both.2
        have dead : (state.dispatch remote messages).poll.Dead := by
          rcases Option.ne_none_iff_exists'.mp raises with ⟨failure, raised⟩
          simp [State.dispatch, raised, PollPhase.Dead]
        exact not_dead_of_eachState keeps split run taken both.1 dead
    | _ => trivial
  · intro each earlier later state split run
    have before : (poller Pixels).EachStep NoPollFailure .initial earlier := by
      rw [split] at each
      exact each.segment (.nil _)
    have restricted := run.restrict before
    have alive : Alive state := by
      apply restricted.preserves Alive
      · intro current action next holds taken
        exact holds.moves (moves_of_step taken.2) taken.1
      · simp [Alive, State.initial, PollPhase.Dead]
    exact alive.keepsPolling

/-- The first receive raises. -/
def failedReceive : List (Action Unit) :=
  [.pollWakes, .receiveRaises .other, .pollResumes fun _ => none]

/-- The loop ends with the exception, although no shutdown was requested. -/
theorem failedReceive_ends :
    System.execute State.step .initial failedReceive =
        some { State.initial with poll := .ended (some .other) } ∧
      ¬(poller Unit).EachState KeepsPolling .initial failedReceive := by
  refine ⟨rfl, ?_⟩
  intro keeps
  have ended := keeps failedReceive [] { State.initial with
    poll := .ended (some .other) } rfl (System.run_of_execute rfl)
  have set := ended.ends _ rfl
  contradiction

end DistributedInference.StreamProcessing
