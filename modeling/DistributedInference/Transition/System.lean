import Mathlib.Logic.Relation
import Mathlib.Data.Set.Basic

/-!
# Labelled transition systems

A system is a set of initial states with a labelled step relation.  Concurrent
components are modelled by letting each label name the party that moves, so that
a run of the system is one interleaving and a statement about all runs is a
statement about all interleavings.

The rules below are the inductions over runs in the development: the invariant
rule, the lifting of a simulation from steps to runs, and the runs of an executable
step function.
-/

namespace DistributedInference.Transition

universe u v w x

/-- Initial states and labelled steps. -/
structure System (State : Type u) (Label : Type v) where
  Initial : State → Prop
  Step : State → Label → State → Prop

namespace System

variable {State : Type u} {Label : Type v}
variable {system : System State Label}

/-- A finite run, with the labels of its steps in order. -/
inductive Run (system : System State Label) : State → List Label → State → Prop
  | nil (state : State) : Run system state [] state
  | cons {start middle finish : State} {label : Label} {labels : List Label} :
      system.Step start label middle → Run system middle labels finish →
      Run system start (label :: labels) finish

/-- States on some run from an initial state. -/
def Reachable (system : System State Label) (state : State) : Prop :=
  ∃ start labels, system.Initial start ∧ system.Run start labels state

namespace Run

variable {start middle finish : State} {label : Label} {labels later : List Label}

theorem single (step : system.Step start label finish) :
    system.Run start [label] finish :=
  .cons step (.nil _)

theorem append (first : system.Run start labels middle)
    (second : system.Run middle later finish) :
    system.Run start (labels ++ later) finish := by
  induction first with
  | nil => exact second
  | cons step _ ih => exact .cons step (ih second)

/-- A property preserved by every step is preserved by every run. -/
theorem preserves (property : State → Prop)
    (step : ∀ {state label next}, property state →
      system.Step state label next → property next)
    (run : system.Run start labels finish) (holds : property start) :
    property finish := by
  induction run with
  | nil => exact holds
  | cons taken _ ih => exact ih (step holds taken)

end Run

namespace Reachable

variable {state next : State} {label : Label} {labels : List Label}

theorem initial (start : system.Initial state) : system.Reachable state :=
  ⟨state, [], start, .nil state⟩

theorem run (reachable : system.Reachable state)
    (run : system.Run state labels next) : system.Reachable next := by
  rcases reachable with ⟨start, earlier, initial, before⟩
  exact ⟨start, earlier ++ labels, initial, before.append run⟩

theorem step (reachable : system.Reachable state)
    (taken : system.Step state label next) : system.Reachable next :=
  reachable.run (.single taken)

/-- The invariant rule.  The step case may use that its source state is
reachable, so invariants proved earlier are available in later proofs. -/
theorem invariant (property : State → Prop)
    (initial : ∀ {state}, system.Initial state → property state)
    (step : ∀ {state label next}, system.Reachable state → property state →
      system.Step state label next → property next)
    (reachable : system.Reachable state) : property state := by
  rcases reachable with ⟨start, labels, begins, run⟩
  have both := run.preserves
    (fun state => system.Reachable state ∧ property state)
    (fun holds taken => ⟨holds.1.step taken, step holds.1 holds.2 taken⟩)
    ⟨Reachable.initial begins, initial begins⟩
  exact both.2

end Reachable

/-! ## Restricting the steps -/

/-- The runs of `system` all of whose steps meet `guard`, a condition on the
state before the step and on its label. -/
def restrict (system : System State Label) (guard : State → Label → Prop) :
    System State Label where
  Initial := system.Initial
  Step state label next := guard state label ∧ system.Step state label next

/-- Two restrictions are one. -/
theorem restrict_restrict (first second : State → Label → Prop) :
    (system.restrict first).restrict second =
      system.restrict fun state label => second state label ∧ first state label := by
  simp only [restrict, and_assoc]

variable {guard : State → Label → Prop} {start finish : State}
variable {labels : List Label}

theorem Run.of_restrict (run : (system.restrict guard).Run start labels finish) :
    system.Run start labels finish := by
  induction run with
  | nil state => exact .nil state
  | cons taken _ ih => exact .cons taken.2 ih

theorem Reachable.of_restrict
    (reachable : (system.restrict guard).Reachable finish) :
    system.Reachable finish := by
  rcases reachable with ⟨start, labels, initial, run⟩
  exact ⟨start, labels, initial, run.of_restrict⟩

/-- `condition` holds at every step of the run along `labels`. -/
def EachStep (system : System State Label) (condition : State → Label → Prop)
    (start : State) (labels : List Label) : Prop :=
  ∀ earlier label later state, labels = earlier ++ label :: later →
    system.Run start earlier state → condition state label

/-- `property` holds in every state of the run along `labels`. -/
def EachState (system : System State Label) (property : State → Prop)
    (start : State) (labels : List Label) : Prop :=
  ∀ earlier later state, labels = earlier ++ later →
    system.Run start earlier state → property state

/-- The condition on a run restricts to any of its segments. -/
theorem EachStep.segment {earlier later : List Label} {state : State}
    (each : system.EachStep guard start (earlier ++ (labels ++ later)))
    (before : system.Run start earlier state) :
    system.EachStep guard state labels := by
  intro front label back reached split run
  apply each (earlier ++ front) label (back ++ later) reached ?_ (before.append run)
  simp [split]

/-- A run whose steps all meet the condition is a run of the restricted system. -/
theorem Run.restrict (run : system.Run start labels finish)
    (each : system.EachStep guard start labels) :
    (system.restrict guard).Run start labels finish := by
  induction run with
  | nil state => exact .nil state
  | @cons start middle finish label labels taken _ ih =>
      have here : guard start label := each [] label labels start rfl (.nil start)
      refine .cons ⟨here, taken⟩ (ih ?_)
      intro earlier next later state split run
      exact each (label :: earlier) next later state (by simp [split])
        (.cons taken run)

/-! ## Executable systems -/

/-- The system of an executable step function; `none` means that the label is
not enabled. -/
def ofFunction (initial : State) (step : State → Label → Option State) :
    System State Label where
  Initial state := state = initial
  Step state label next := step state label = some next

/-- Execute a list of labels. -/
def execute (step : State → Label → Option State) (state : State) :
    List Label → Option State
  | [] => some state
  | label :: labels => (step state label).bind (execute step · labels)

theorem run_of_execute {initial : State} {step : State → Label → Option State}
    (executed : execute step start labels = some finish) :
    (ofFunction initial step).Run start labels finish := by
  induction labels generalizing start with
  | nil =>
      cases executed
      exact .nil _
  | cons label labels ih =>
      obtain ⟨middle, taken, rest⟩ := Option.bind_eq_some_iff.mp executed
      exact .cons taken (ih rest)

theorem reachable_of_execute {initial : State}
    {step : State → Label → Option State} (labels : List Label)
    (executed : execute step initial labels = some finish) :
    (ofFunction initial step).Reachable finish :=
  ⟨initial, labels, rfl, run_of_execute executed⟩

/-- A step function that only takes the steps that meet the guard. -/
def guarded (guard : State → Label → Prop)
    [∀ state label, Decidable (guard state label)]
    (step : State → Label → Option State) (state : State) (label : Label) :
    Option State :=
  if guard state label then step state label else none

theorem run_of_guarded [∀ state label, Decidable (guard state label)]
    {initial : State} {step : State → Label → Option State}
    (executed : execute (guarded guard step) start labels = some finish) :
    ((ofFunction initial step).restrict guard).Run start labels finish := by
  induction labels generalizing start with
  | nil =>
      cases executed
      exact .nil _
  | cons label labels ih =>
      obtain ⟨middle, taken, rest⟩ := Option.bind_eq_some_iff.mp executed
      simp only [guarded, Option.ite_none_right_eq_some] at taken
      exact .cons taken (ih rest)

theorem reachable_of_guarded [∀ state label, Decidable (guard state label)]
    {initial : State} {step : State → Label → Option State} (labels : List Label)
    (executed : execute (guarded guard step) initial labels = some finish) :
    ((ofFunction initial step).restrict guard).Reachable finish :=
  ⟨initial, labels, rfl, run_of_guarded executed⟩

/-! ## Simulation -/

/-- Every step of `concrete` out of a reachable state is matched by a run of
`abstract` between the abstractions of its two states.  The matching run may be
empty, so that internal steps need no abstract counterpart. -/
structure Simulation {Abstract : Type w} {Event : Type x}
    (concrete : System State Label) (abstract : System Abstract Event) where
  view : State → Abstract
  initial : ∀ {state}, concrete.Initial state → abstract.Initial (view state)
  step : ∀ {state label next}, concrete.Reachable state →
    concrete.Step state label next →
    ∃ events, abstract.Run (view state) events (view next)

/-- The abstraction of a reachable state is reachable. -/
theorem Simulation.reachable {Abstract : Type w} {Event : Type x}
    {abstract : System Abstract Event} (simulation : Simulation system abstract)
    {state : State} (reachable : system.Reachable state) :
    abstract.Reachable (simulation.view state) := by
  apply reachable.invariant
    (fun state => abstract.Reachable (simulation.view state))
  · intro state initial
    exact .initial (simulation.initial initial)
  · intro state label next reached viewed taken
    rcases simulation.step reached taken with ⟨events, run⟩
    exact viewed.run run

end System

end DistributedInference.Transition
