import DistributedInference.Transition.System
import Mathlib.Data.List.Basic
import Mathlib.Data.List.Induction
import Mathlib.Data.List.TakeWhile
import Mathlib.Data.Set.Insert

/-!
# One cache, filled on demand

A cache as an abstract machine: a lookup hits if the key was filled before and
misses otherwise, and a fill adds a key.  Nothing leaves the cache.  Looking up
and filling are separate steps, so several misses of one key can precede its
first fill; how many, is the number of lookups up to then.
-/

namespace DistributedInference.Caching

open Transition

universe u

/-- One access to a cache. -/
inductive Access (Key : Type u) where
  | hit (key : Key)
  | miss (key : Key)
  | fill (key : Key)
  deriving DecidableEq

/-- The keys in the cache, and the accesses so far in order. -/
structure Cache (Key : Type u) where
  keys : Set Key
  log : List (Access Key)

variable {Key : Type u}

namespace Access

/-- The access is a lookup of `key`. -/
def looksUp [DecidableEq Key] (key : Key) : Access Key → Bool
  | .hit found => found = key
  | .miss missing => missing = key
  | .fill _ => false

/-- What an access says about the accesses before it. -/
def Fits (earlier : List (Access Key)) : Access Key → Prop
  | .hit key => .fill key ∈ earlier
  | .miss key => .fill key ∉ earlier
  | .fill _ => True

end Access

namespace Cache

def empty : Cache Key where
  keys := ∅
  log := []

def record (cache : Cache Key) (access : Access Key) : Cache Key :=
  { cache with log := cache.log ++ [access] }

inductive Step : Cache Key → Access Key → Cache Key → Prop
  | hit {cache : Cache Key} {key : Key} :
      key ∈ cache.keys → Step cache (.hit key) (cache.record (.hit key))
  | miss {cache : Cache Key} {key : Key} :
      key ∉ cache.keys → Step cache (.miss key) (cache.record (.miss key))
  | fill {cache : Cache Key} {key : Key} :
      Step cache (.fill key)
        { cache.record (.fill key) with keys := insert key cache.keys }

def system : System (Cache Key) (Access Key) where
  Initial cache := cache = empty
  Step := Step

end Cache

/-! ## Logs -/

/-- Every access fits the accesses before it. -/
def Fitting (log : List (Access Key)) : Prop :=
  ∀ earlier access later, log = earlier ++ access :: later → access.Fits earlier

theorem fitting_nil : Fitting ([] : List (Access Key)) := by
  intro earlier access later split
  simp at split

theorem fitting_append_singleton_iff {log : List (Access Key)}
    {access : Access Key} :
    Fitting (log ++ [access]) ↔ Fitting log ∧ access.Fits log := by
  constructor
  · intro fitting
    constructor
    · intro earlier inner later split
      exact fitting earlier inner (later ++ [access]) (by simp [split])
    · exact fitting log access [] rfl
  · intro fitting earlier inner later split
    rcases List.eq_nil_or_concat later with last | ⟨front, last, rfl⟩
    · subst last
      rcases List.append_inj' split rfl with ⟨rfl, same⟩
      cases same
      exact fitting.2
    · rw [List.concat_eq_append, ← List.cons_append, ← List.append_assoc] at split
      rcases List.append_inj' split rfl with ⟨same, _⟩
      exact fitting.1 earlier inner front same

/-- A lookup after a fill hits. -/
theorem Fitting.hit_of_fill [DecidableEq Key] {log earlier later : List (Access Key)}
    {access : Access Key} {key : Key} (fitting : Fitting log)
    (split : log = earlier ++ access :: later) (lookup : access.looksUp key = true)
    (filled : .fill key ∈ earlier) : access = .hit key := by
  have fits := fitting earlier access later split
  cases access with
  | hit found =>
      simp only [Access.looksUp, decide_eq_true_eq] at lookup
      rw [lookup]
  | miss missing =>
      simp only [Access.looksUp, decide_eq_true_eq] at lookup
      exact absurd (lookup ▸ filled) fits
  | fill => cases lookup

theorem takeWhile_ne_append {α : Type u} [DecidableEq α] {values : List α} {value : α}
    (member : value ∈ values) (later : List α) :
    (values ++ later).takeWhile (· ≠ value) = values.takeWhile (· ≠ value) := by
  induction values with
  | nil => exact absurd member List.not_mem_nil
  | cons head rest ih =>
      by_cases same : head = value
      · simp [same]
      · have inRest : value ∈ rest :=
          (List.mem_cons.mp member).resolve_left (Ne.symm same)
        rw [List.cons_append, List.takeWhile_cons_of_pos (by simpa using same),
          List.takeWhile_cons_of_pos (by simpa using same), ih inRest]

/-- A key is missed as often as it is looked up before its first fill. -/
theorem Fitting.count_miss [DecidableEq Key] {log : List (Access Key)}
    (fitting : Fitting log) (key : Key) :
    log.count (.miss key) =
      (log.takeWhile (· ≠ .fill key)).countP (Access.looksUp key) := by
  induction log using List.reverseRecOn with
  | nil => rfl
  | append_singleton log access ih =>
      rcases fitting_append_singleton_iff.mp fitting with ⟨before, fits⟩
      by_cases filled : .fill key ∈ log
      · -- From the first fill on the key is not missed.
        have noMiss : access ≠ .miss key := by
          intro miss
          rw [miss] at fits
          exact fits filled
        rw [takeWhile_ne_append filled, List.count_append, ih before,
          List.count_singleton, if_neg (by simpa using noMiss), Nat.add_zero]
      · have unfilled : ∀ earlier ∈ log, decide (earlier ≠ .fill key) = true := by
          intro earlier member
          exact decide_eq_true fun same => filled (same ▸ member)
        have soFar := ih before
        rw [List.takeWhile_eq_self_iff.mpr unfilled] at soFar
        rw [List.takeWhile_append_of_pos unfilled, List.count_append,
          List.countP_append, soFar]
        congr 1
        cases access with
        | hit found =>
            have other : found ≠ key := fun same => filled (same ▸ fits)
            simp [Access.looksUp, other]
        | miss missing =>
            by_cases same : missing = key <;> simp [Access.looksUp, same]
        | fill added =>
            by_cases same : added = key <;> simp [Access.looksUp, same]

/-! ## Reachable caches -/

/-- The keys are those filled, and the log is fitting. -/
structure Coherent (cache : Cache Key) : Prop where
  mem_keys : ∀ key, key ∈ cache.keys ↔ .fill key ∈ cache.log
  fitting : Fitting cache.log

theorem Coherent.step {cache next : Cache Key} {access : Access Key}
    (coherent : Coherent cache) (step : Cache.Step cache access next) :
    Coherent next := by
  cases step with
  | hit found =>
      exact {
        mem_keys := by simpa [Cache.record] using coherent.mem_keys
        fitting := fitting_append_singleton_iff.mpr
          ⟨coherent.fitting, (coherent.mem_keys _).mp found⟩ }
  | miss missing =>
      exact {
        mem_keys := by simpa [Cache.record] using coherent.mem_keys
        fitting := fitting_append_singleton_iff.mpr
          ⟨coherent.fitting, mt (coherent.mem_keys _).mpr missing⟩ }
  | fill =>
      exact {
        mem_keys := by
          intro key
          simp [Cache.record, Set.mem_insert_iff, coherent.mem_keys key, or_comm]
        fitting := fitting_append_singleton_iff.mpr ⟨coherent.fitting, trivial⟩ }

theorem coherent_of_reachable {cache : Cache Key}
    (reachable : Cache.system.Reachable cache) : Coherent cache := by
  apply reachable.invariant Coherent
  · intro cache initial
    cases initial
    exact ⟨by simp [Cache.empty], fitting_nil⟩
  · intro cache access next _ coherent step
    exact coherent.step step

end DistributedInference.Caching
