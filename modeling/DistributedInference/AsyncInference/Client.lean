import DistributedInference.Control.Deadline
import Mathlib.Algebra.Order.Archimedean.Basic
import Mathlib.Algebra.Order.Ring.Rat
import Mathlib.Data.Rat.Floor
import Mathlib.Tactic.Linarith

/-!
# The polling client

`poll` asks for the status of a job until the job is done or a deadline has passed.
How long its calls and sleeps take is a schedule, and the job goes on meanwhile.
Between two calls the loop sleeps, and it looks at the clock only afterwards.
-/

namespace DistributedInference.AsyncInference

open Control

/-- Celery's terminal states. -/
def DONE_STATES : List String := ["SUCCESS", "FAILURE", "REVOKED"]

/-- The answer to `GET /status/{task_id}`. -/
structure Payload (Result : Type) where
  taskId : String
  status : String
  result : Option Result
  deriving DecidableEq, Repr

def Payload.Done {Result : Type} (payload : Payload Result) : Prop :=
  payload.status ∈ DONE_STATES

instance {Result : Type} (payload : Payload Result) : Decidable payload.Done :=
  inferInstanceAs (Decidable (_ ∈ _))

/-- The service at every moment.  A terminal status stays. -/
structure Service (Result : Type) where
  answer : ℚ → Payload Result
  stays : ∀ {earlier later}, earlier ≤ later → (answer earlier).Done →
    answer later = answer earlier

/-- How long the calls and sleeps of `poll` take.  A call is served somewhere between
its start and its end; `time.sleep` takes the requested time or longer. -/
structure Schedule (intervalS : ℚ) where
  request : Nat → ℚ
  response : Nat → ℚ
  sleep : Nat → ℚ
  request_nonneg : ∀ pass, 0 ≤ request pass
  response_nonneg : ∀ pass, 0 ≤ response pass
  interval_le_sleep : ∀ pass, intervalS ≤ sleep pass
  interval_pos : 0 < intervalS

/-- What `poll` returns when the deadline has passed. -/
def timedOut {Result : Type} (taskId : String) : Payload Result where
  taskId := taskId
  status := "TIMEOUT"
  result := none

section

variable {Result : Type} {intervalS : ℚ}

/-- The loop of `poll` in a given pass and at a given time, for `fuel` passes at
most. -/
def pollLoop (service : Service Result) (schedule : Schedule intervalS)
    (taskId : String) (deadline : ℚ) :
    (fuel pass : Nat) → (now : ℚ) → Option (Payload Result)
  | 0, _, _ => none
  | fuel + 1, pass, now =>
      if now < deadline then
        let served := now + schedule.request pass
        let payload := service.answer served
        if payload.Done then some payload
        else
          let awake := served + schedule.response pass + schedule.sleep pass
          pollLoop service schedule taskId deadline fuel (pass + 1) awake
      else some (timedOut taskId)

/-- `poll` returns `outcome` when it is called at `start`. -/
def Polls (service : Service Result) (schedule : Schedule intervalS)
    (taskId : String) (timeoutS start : ℚ) (outcome : Payload Result) : Prop :=
  ∃ fuel, pollLoop service schedule taskId (start + timeoutS) fuel 0 start = some outcome

/-- `poll` returns.  If the job is terminal before the deadline, it returns the
terminal payload, and it returns the timeout only if the job is not terminal at the
deadline. -/
def FindsFinished (service : Service Result) (schedule : Schedule intervalS)
    (taskId : String) (timeoutS start : ℚ) : Prop :=
  (∃ outcome, Polls service schedule taskId timeoutS start outcome) ∧
    ∀ outcome, Polls service schedule taskId timeoutS start outcome →
      (∀ time < start + timeoutS, (service.answer time).Done →
        outcome = service.answer time) ∧
      (outcome = timedOut taskId → ¬ (service.answer (start + timeoutS)).Done)

namespace Schedule

/-- The time at which a pass looks at the clock, if it takes place. -/
def startAt (schedule : Schedule intervalS) (start : ℚ) : Nat → ℚ
  | 0 => start
  | pass + 1 =>
      schedule.startAt start pass + schedule.request pass + schedule.response pass +
        schedule.sleep pass

/-- The time at which the service serves the call of a pass. -/
def servedAt (schedule : Schedule intervalS) (start : ℚ) (pass : Nat) : ℚ :=
  schedule.startAt start pass + schedule.request pass

variable {schedule : Schedule intervalS} {start : ℚ}

theorem startAt_succ_ge (schedule : Schedule intervalS) (start : ℚ) (pass : Nat) :
    schedule.startAt start pass + intervalS ≤ schedule.startAt start (pass + 1) := by
  have request := schedule.request_nonneg pass
  have response := schedule.response_nonneg pass
  have sleep := schedule.interval_le_sleep pass
  rw [startAt]
  linarith

theorem monotone_startAt (schedule : Schedule intervalS) (start : ℚ) :
    Monotone (schedule.startAt start) := by
  apply monotone_nat_of_le_succ
  intro pass
  have positive := schedule.interval_pos
  have later := schedule.startAt_succ_ge start pass
  linarith

theorem startAt_ge (schedule : Schedule intervalS) (start : ℚ) (pass : Nat) :
    start + pass * intervalS ≤ schedule.startAt start pass := by
  induction pass with
  | zero => simp [startAt]
  | succ pass ih =>
      have later := schedule.startAt_succ_ge start pass
      push_cast
      linarith

/-- The passes reach every deadline. -/
theorem exists_le_startAt (schedule : Schedule intervalS) (start deadline : ℚ) :
    ∃ pass, deadline ≤ schedule.startAt start pass := by
  rcases Archimedean.arch (deadline - start) schedule.interval_pos with ⟨pass, reaches⟩
  refine ⟨pass, le_trans ?_ (schedule.startAt_ge start pass)⟩
  rw [nsmul_eq_mul] at reaches
  linarith

end Schedule

/-! ## Polling as attempts before the deadline -/

variable {service : Service Result} {schedule : Schedule intervalS}
variable {taskId : String} {timeoutS start : ℚ} {outcome : Payload Result}

/-- The payload that the call of a pass returns, if it is terminal. -/
def asked (service : Service Result) (schedule : Schedule intervalS) (start : ℚ)
    (pass : Nat) : Option (Payload Result) :=
  if (service.answer (schedule.servedAt start pass)).Done then
    some (service.answer (schedule.servedAt start pass))
  else none

theorem asked_eq_some_iff {pass : Nat} :
    asked service schedule start pass = some outcome ↔
      outcome.Done ∧ outcome = service.answer (schedule.servedAt start pass) := by
  simp only [asked]
  split
  next done =>
    rw [Option.some.injEq]
    constructor
    · intro same
      exact same ▸ ⟨done, rfl⟩
    · intro same
      exact same.2.symm
  next moving =>
    constructor
    · intro absurdly
      cases absurdly
    · intro same
      exact absurd (same.2 ▸ same.1) moving

theorem pollLoop_eq_attempts (fuel pass : Nat) (deadline : ℚ) :
    pollLoop service schedule taskId deadline fuel pass (schedule.startAt start pass) =
      (attempts deadline (schedule.startAt start) (asked service schedule start)
        fuel pass).map fun found => found.getD (timedOut taskId) := by
  induction fuel generalizing pass with
  | zero => rfl
  | succ fuel ih =>
      rw [pollLoop, attempts]
      split
      next before =>
        by_cases done : (service.answer (schedule.servedAt start pass)).Done
        · rw [asked, if_pos done]
          exact if_pos done
        · rw [asked, if_neg done]
          exact (if_neg done).trans (ih (pass + 1))
      next passed => rfl

/-- The two ways in which `poll` returns. -/
theorem polls_cases (polled : Polls service schedule taskId timeoutS start outcome) :
    (∃ pass, schedule.startAt start pass < start + timeoutS ∧ outcome.Done ∧
      outcome = service.answer (schedule.servedAt start pass)) ∨
    outcome = timedOut taskId ∧ ∀ pass,
      schedule.startAt start pass < start + timeoutS →
        ¬ (service.answer (schedule.servedAt start pass)).Done := by
  rcases polled with ⟨fuel, polled⟩
  have looped := @pollLoop_eq_attempts _ _ service schedule taskId start fuel 0
    (start + timeoutS)
  rw [Schedule.startAt, polled] at looped
  rcases Option.map_eq_some_iff.mp looped.symm with ⟨found, ended, returned⟩
  cases found with
  | some payload =>
      cases returned
      rcases exists_of_attempts ended with ⟨pass, before, found⟩
      exact .inl ⟨pass, before, asked_eq_some_iff.mp found⟩
  | none =>
      refine .inr ⟨returned.symm, ?_⟩
      intro pass before done
      have failed := failed_of_attempts (schedule.monotone_startAt start) ended
        pass.zero_le before
      cases failed.symm.trans (asked_eq_some_iff.mpr ⟨done, rfl⟩)

theorem exists_polls (service : Service Result) (schedule : Schedule intervalS)
    (taskId : String) (timeoutS start : ℚ) :
    ∃ outcome, Polls service schedule taskId timeoutS start outcome := by
  rcases schedule.exists_le_startAt start (start + timeoutS) with ⟨last, reached⟩
  have ends := @exists_attempts _ _ _ _ _ (asked service schedule start) 0 last reached
    last.zero_le
  rcases ends with ⟨fuel, found, ended⟩
  refine ⟨found.getD (timedOut taskId), fuel, ?_⟩
  have looped := @pollLoop_eq_attempts _ _ service schedule taskId start fuel 0
    (start + timeoutS)
  rwa [ended] at looped

theorem not_done_timedOut : ¬ (timedOut taskId : Payload Result).Done := by
  simp [Payload.Done, timedOut, DONE_STATES]

/-- A job is not missed exactly if it is still moving at the deadline, or terminal
when the service serves one of the calls that start before the deadline. -/
theorem findsFinished_iff :
    FindsFinished service schedule taskId timeoutS start ↔
      ((service.answer (start + timeoutS)).Done →
        ∃ pass, schedule.startAt start pass < start + timeoutS ∧
          (service.answer (schedule.servedAt start pass)).Done) := by
  constructor
  · intro finds done
    rcases finds.1 with ⟨outcome, polled⟩
    rcases polls_cases polled with ⟨pass, before, terminal, same⟩ | ⟨gaveUp, _⟩
    · exact ⟨pass, before, same ▸ terminal⟩
    · exact absurd done ((finds.2 outcome polled).2 gaveUp)
  · intro seen
    refine ⟨exists_polls service schedule taskId timeoutS start, ?_⟩
    intro outcome polled
    rcases polls_cases polled with ⟨pass, _, terminal, same⟩ | ⟨gaveUp, moving⟩
    · constructor
      · intro time _ done
        rw [same] at terminal ⊢
        rcases le_total time (schedule.servedAt start pass) with earlier | later
        · exact service.stays earlier done
        · exact (service.stays later terminal).symm
      · intro gaveUp
        exact absurd (gaveUp ▸ terminal) not_done_timedOut
    · have missed : ¬ (service.answer (start + timeoutS)).Done := by
        intro done
        rcases seen done with ⟨pass, before, terminal⟩
        exact moving pass before terminal
      constructor
      · intro time before done
        rw [← service.stays before.le done] at done
        exact absurd done missed
      · intro _
        exact missed

end

/-- A job that succeeds at a given time. -/
def succeedingAt (time : ℚ) : Service Nat where
  answer now :=
    if time ≤ now then ⟨"j1", "SUCCESS", some 42⟩ else ⟨"j1", "STARTED", none⟩
  stays := by
    intro earlier later ordered done
    have finished : time ≤ earlier := by
      apply le_of_not_gt
      intro before
      rw [if_neg before.not_ge] at done
      revert done
      decide
    rw [if_pos finished, if_pos (finished.trans ordered)]

/-- Calls of 20 ms, and sleeps of exactly one second. -/
def steadySchedule : Schedule 1 where
  request _ := 1 / 100
  response _ := 1 / 100
  sleep _ := 1
  request_nonneg _ := by decide +kernel
  response_nonneg _ := by decide +kernel
  interval_le_sleep _ := le_rfl
  interval_pos := by decide +kernel

/-- With a timeout of two seconds the calls are made at 0 s and 1.02 s, and the loop
wakes up at 2.04 s.  A job that succeeds at 1.5 s is reported as timed out. -/
theorem finishedDuringSleep_missed :
    Polls (succeedingAt (3 / 2)) steadySchedule "j1" 2 0 (timedOut "j1") ∧
    ¬ FindsFinished (succeedingAt (3 / 2)) steadySchedule "j1" 2 0 := by
  have polled : Polls (succeedingAt (3 / 2)) steadySchedule "j1" 2 0 (timedOut "j1") :=
    ⟨3, by decide +kernel⟩
  refine ⟨polled, ?_⟩
  intro finds
  have terminal : ((succeedingAt (3 / 2)).answer (0 + 2)).Done := by decide +kernel
  exact (finds.2 _ polled).2 rfl terminal

end DistributedInference.AsyncInference
