import Mathlib.Data.Set.Insert
import DistributedInference.Transition.System

/-!
# At-least-once delivery

What a worker on a queue is for, without the worker.  Requests are offered under
keys and stay pending until their key is acknowledged.  Results are produced for
requests, stored under keys, and a key may be acknowledged only once something is
stored under it.

The ledger says nothing about how often a request is computed or in which order:
a result may be produced any number of times and stored over an earlier one.
-/

namespace DistributedInference.Delivery

open Transition

universe u v w

/-- The requests, results and acknowledgements of one queue. -/
structure Ledger (Key : Type u) (Request : Type v) (Result : Type w) where
  offered : Set (Key × Request)
  pending : Set (Key × Request)
  produced : Set (Request × Result)
  stored : Key → Option Result
  acknowledged : Set Key

/-- The events of a ledger. -/
inductive Event (Key : Type u) (Request : Type v) (Result : Type w) where
  | offer (key : Key) (request : Request)
  | produce (request : Request) (result : Result)
  | store (key : Key) (result : Result)
  | acknowledge (key : Key)

namespace Ledger

variable {Key : Type u} {Request : Type v} {Result : Type w}

def empty : Ledger Key Request Result where
  offered := ∅
  pending := ∅
  produced := ∅
  stored := fun _ => none
  acknowledged := ∅

/-- Store a result under a key, over any earlier one. -/
def store [DecidableEq Key] (ledger : Ledger Key Request Result) (key : Key)
    (result : Result) : Ledger Key Request Result :=
  { ledger with stored := Function.update ledger.stored key (some result) }

/-- The rules of a ledger.  A key names one request, only a result produced for
the request of a key is stored under it, and only a key with a stored result is
acknowledged. -/
inductive Step [DecidableEq Key] : Ledger Key Request Result →
    Event Key Request Result → Ledger Key Request Result → Prop
  | offer {ledger : Ledger Key Request Result} {key : Key} {request : Request}
      (fresh : ∀ other, (key, other) ∉ ledger.offered) :
      Step ledger (.offer key request)
        { ledger with
          offered := insert (key, request) ledger.offered
          pending := insert (key, request) ledger.pending }
  | produce {ledger : Ledger Key Request Result} {request : Request}
      {result : Result} :
      Step ledger (.produce request result)
        { ledger with produced := insert (request, result) ledger.produced }
  | store {ledger : Ledger Key Request Result} {key : Key} {request : Request}
      {result : Result} (offered : (key, request) ∈ ledger.offered)
      (produced : (request, result) ∈ ledger.produced) :
      Step ledger (.store key result) (ledger.store key result)
  | acknowledge {ledger : Ledger Key Request Result} {key : Key}
      (stored : (ledger.stored key).isSome) :
      Step ledger (.acknowledge key)
        { ledger with
          pending := {entry ∈ ledger.pending | entry.1 ≠ key}
          acknowledged := insert key ledger.acknowledged }

/-- The ledger as a transition system. -/
def system [DecidableEq Key] :
    System (Ledger Key Request Result) (Event Key Request Result) where
  Initial ledger := ledger = empty
  Step := Step

/-- What at-least-once delivery promises. -/
structure Sound (ledger : Ledger Key Request Result) : Prop where
  /-- A key names one request. -/
  functional : ∀ {key left right}, (key, left) ∈ ledger.offered →
    (key, right) ∈ ledger.offered → left = right
  /-- What is stored under a key is a result of that key's own request. -/
  own : ∀ {key result}, ledger.stored key = some result →
    ∃ request, (key, request) ∈ ledger.offered ∧
      (request, result) ∈ ledger.produced
  /-- Nothing is acknowledged before its result is stored. -/
  kept : ∀ {key}, key ∈ ledger.acknowledged → (ledger.stored key).isSome
  /-- Exactly the unacknowledged requests are pending. -/
  outstanding : ∀ entry, entry ∈ ledger.pending ↔
    entry ∈ ledger.offered ∧ entry.1 ∉ ledger.acknowledged
  /-- Only offered keys are acknowledged. -/
  known : ∀ {key}, key ∈ ledger.acknowledged →
    ∃ request, (key, request) ∈ ledger.offered

theorem sound_empty : (empty : Ledger Key Request Result).Sound where
  functional := by simp [empty]
  own := by simp [empty]
  kept := by simp [empty]
  outstanding := by simp [empty]
  known := by simp [empty]

variable [DecidableEq Key] {ledger after : Ledger Key Request Result}
variable {event : Event Key Request Result}

namespace Sound

omit [DecidableEq Key] in
/-- A key that was never offered is not acknowledged either. -/
theorem offer (sound : ledger.Sound) {key : Key} {request : Request}
    (fresh : ∀ other, (key, other) ∉ ledger.offered) :
    Sound { ledger with
      offered := insert (key, request) ledger.offered
      pending := insert (key, request) ledger.pending } where
  functional := by
    intro query left right leftMem rightMem
    simp only [Set.mem_insert_iff, Prod.mk.injEq] at leftMem rightMem
    rcases leftMem with ⟨rfl, rfl⟩ | leftOld
    · rcases rightMem with ⟨-, rfl⟩ | rightOld
      · rfl
      · exact absurd rightOld (fresh _)
    · rcases rightMem with ⟨rfl, rfl⟩ | rightOld
      · exact absurd leftOld (fresh _)
      · exact sound.functional leftOld rightOld
  own := by
    intro query result stored
    obtain ⟨own, offered, produced⟩ := sound.own stored
    exact ⟨own, Set.mem_insert_of_mem _ offered, produced⟩
  kept := sound.kept
  outstanding := by
    intro entry
    simp only [Set.mem_insert_iff, sound.outstanding]
    constructor
    · rintro (rfl | ⟨offered, open_⟩)
      · refine ⟨Or.inl rfl, fun acknowledged => ?_⟩
        obtain ⟨other, offered⟩ := sound.known acknowledged
        exact fresh other offered
      · exact ⟨Or.inr offered, open_⟩
    · rintro ⟨rfl | offered, open_⟩
      · exact Or.inl rfl
      · exact Or.inr ⟨offered, open_⟩
  known := by
    intro query acknowledged
    obtain ⟨own, offered⟩ := sound.known acknowledged
    exact ⟨own, Set.mem_insert_of_mem _ offered⟩

omit [DecidableEq Key] in
theorem produce (sound : ledger.Sound) (request : Request) (result : Result) :
    Sound { ledger with produced := insert (request, result) ledger.produced } where
  functional := sound.functional
  own := by
    intro query found stored
    obtain ⟨own, offered, produced⟩ := sound.own stored
    exact ⟨own, offered, Set.mem_insert_of_mem _ produced⟩
  kept := sound.kept
  outstanding := sound.outstanding
  known := sound.known

theorem store (sound : ledger.Sound) {key : Key} {request : Request} {result : Result}
    (offered : (key, request) ∈ ledger.offered)
    (produced : (request, result) ∈ ledger.produced) :
    (ledger.store key result).Sound where
  functional := sound.functional
  own := by
    intro query found stored
    simp only [Ledger.store, Function.update_apply] at stored
    split at stored
    next same =>
      cases stored
      exact ⟨request, same ▸ offered, produced⟩
    next => exact sound.own stored
  kept := by
    intro query acknowledged
    simp only [Ledger.store, Function.update_apply]
    split
    · rfl
    · exact sound.kept acknowledged
  outstanding := sound.outstanding
  known := sound.known

omit [DecidableEq Key] in
theorem acknowledge (sound : ledger.Sound) {key : Key}
    (stored : (ledger.stored key).isSome) :
    Sound { ledger with
      pending := {entry ∈ ledger.pending | entry.1 ≠ key}
      acknowledged := insert key ledger.acknowledged } where
  functional := sound.functional
  own := sound.own
  kept := by
    intro query acknowledged
    rcases Set.mem_insert_iff.mp acknowledged with rfl | old
    · exact stored
    · exact sound.kept old
  outstanding := by
    intro entry
    simp only [Set.mem_ofPred_eq, Set.mem_insert_iff, sound.outstanding, not_or]
    exact ⟨fun ⟨⟨offered, open_⟩, other⟩ => ⟨offered, other, open_⟩,
      fun ⟨offered, other, open_⟩ => ⟨⟨offered, open_⟩, other⟩⟩
  known := by
    intro query acknowledged
    rcases Set.mem_insert_iff.mp acknowledged with rfl | old
    · obtain ⟨result, found⟩ := Option.isSome_iff_exists.mp stored
      obtain ⟨own, offered, -⟩ := sound.own found
      exact ⟨own, offered⟩
    · exact sound.known old

/-- Every rule preserves the promises. -/
theorem step (sound : ledger.Sound) (step : Step ledger event after) :
    after.Sound := by
  cases step with
  | offer fresh => exact sound.offer fresh
  | produce => exact sound.produce _ _
  | store offered produced => exact sound.store offered produced
  | acknowledge stored => exact sound.acknowledge stored

end Sound

/-- Every reachable ledger keeps the promises. -/
theorem sound_of_reachable (reachable : system.Reachable ledger) :
    ledger.Sound := by
  apply reachable.invariant Sound
  · intro start initial
    cases initial
    exact sound_empty
  · intro start event next _ sound step
    exact sound.step step

end Ledger

end DistributedInference.Delivery
