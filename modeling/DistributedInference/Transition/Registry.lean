import Mathlib.Data.List.AList

/-!
# Registries of running jobs

A registry is an append-only list of jobs together with a table from keys to the
position of the job now running under that key.  Starting a job adds both; a job
may change while it runs; finishing it removes its key.

`Exact` says that the table lists the running jobs and nothing else.  It is
stated as one equivalence, from which the uniqueness of the running job of a key
and the presence of the key at the end of its job both follow.
-/

namespace DistributedInference.Transition

universe u v

/-- Jobs in starting order, and the position of the running job of each key. -/
structure Registry (Key : Type u) (Job : Type v) where
  table : AList fun _ : Key => Nat
  jobs : List Job

namespace Registry

variable {Key : Type u} {Job : Type v}
variable {running : Job → Option Key} {registry : Registry Key Job}

def empty : Registry Key Job := ⟨∅, []⟩

/-- Replace the job at a position. -/
def advance (registry : Registry Key Job) (index : Nat) (job : Job) :
    Registry Key Job where
  table := registry.table
  jobs := registry.jobs.set index job

@[simp] theorem empty_table :
    (empty : Registry Key Job).table = ∅ := rfl

@[simp] theorem empty_jobs : (empty : Registry Key Job).jobs = [] := rfl

@[simp] theorem advance_table (index : Nat) (job : Job) :
    (registry.advance index job).table = registry.table := rfl

@[simp] theorem advance_jobs (index : Nat) (job : Job) :
    (registry.advance index job).jobs = registry.jobs.set index job := rfl

variable [DecidableEq Key]

/-- Append a job and enter it in the table, over whatever the key held. -/
def start (registry : Registry Key Job) (key : Key) (job : Job) :
    Registry Key Job where
  table := registry.table.insert key registry.jobs.length
  jobs := registry.jobs ++ [job]

/-- Replace the job at a position and remove a key. -/
def retire (registry : Registry Key Job) (index : Nat) (job : Job) (key : Key) :
    Registry Key Job where
  table := registry.table.erase key
  jobs := registry.jobs.set index job

@[simp] theorem start_table (key : Key) (job : Job) :
    (registry.start key job).table =
      registry.table.insert key registry.jobs.length := rfl

@[simp] theorem start_jobs (key : Key) (job : Job) :
    (registry.start key job).jobs = registry.jobs ++ [job] := rfl

@[simp] theorem retire_table (index : Nat) (job : Job) (key : Key) :
    (registry.retire index job key).table = registry.table.erase key := rfl

@[simp] theorem retire_jobs (index : Nat) (job : Job) (key : Key) :
    (registry.retire index job key).jobs = registry.jobs.set index job := rfl

/-- The table holds exactly the running jobs: `running` gives the key of a job
until it has finished. -/
def Exact (running : Job → Option Key) (registry : Registry Key Job) : Prop :=
  ∀ key index, registry.table.lookup key = some index ↔
    ∃ job, registry.jobs[index]? = some job ∧ running job = some key

theorem exact_empty : (empty : Registry Key Job).Exact running := by
  intro key index
  simp

theorem Exact.lookup (exact : registry.Exact running) {index : Nat} {job : Job}
    {key : Key} (at_index : registry.jobs[index]? = some job)
    (runs : running job = some key) : registry.table.lookup key = some index :=
  (exact key index).mpr ⟨job, at_index, runs⟩

theorem Exact.mem_table (exact : registry.Exact running) {index : Nat}
    {job : Job} {key : Key} (at_index : registry.jobs[index]? = some job)
    (runs : running job = some key) : key ∈ registry.table :=
  AList.lookup_isSome.mp (Option.isSome_of_eq_some (exact.lookup at_index runs))

/-- The keys of the table are the keys of the running jobs. -/
theorem Exact.mem_table_iff (exact : registry.Exact running) (key : Key) :
    key ∈ registry.table ↔ ∃ job ∈ registry.jobs, running job = some key := by
  constructor
  · intro present
    obtain ⟨index, found⟩ := Option.isSome_iff_exists.mp
      (AList.lookup_isSome.mpr present)
    obtain ⟨job, at_index, runs⟩ := (exact key index).mp found
    exact ⟨job, List.mem_of_getElem? at_index, runs⟩
  · rintro ⟨job, member, runs⟩
    obtain ⟨index, at_index⟩ := List.getElem?_of_mem member
    exact exact.mem_table at_index runs

/-- At most one job runs under a key. -/
theorem Exact.unique (exact : registry.Exact running) {left right : Nat}
    {leftJob rightJob : Job} {key : Key}
    (at_left : registry.jobs[left]? = some leftJob)
    (at_right : registry.jobs[right]? = some rightJob)
    (leftRuns : running leftJob = some key)
    (rightRuns : running rightJob = some key) : left = right := by
  have found := exact.lookup at_left leftRuns
  rw [exact.lookup at_right rightRuns] at found
  exact (Option.some.inj found).symm

/-- Starting a job under an unused key keeps the table exact. -/
theorem Exact.start (exact : registry.Exact running) {key : Key} {job : Job}
    (unused : key ∉ registry.table) (runs : running job = some key) :
    (registry.start key job).Exact running := by
  intro query index
  simp only [start_table, start_jobs]
  by_cases same : query = key
  · subst same
    rw [AList.lookup_insert]
    constructor
    · intro found
      cases found
      exact ⟨job, by simp, runs⟩
    · rintro ⟨other, at_index, otherRuns⟩
      rcases Nat.lt_or_ge index registry.jobs.length with old | new
      · -- An older job under the key would have put the key in the table.
        rw [List.getElem?_append_left old] at at_index
        exact absurd (exact.mem_table at_index otherRuns) unused
      · have bound := (List.getElem?_eq_some_iff.mp at_index).1
        simp only [List.length_append, List.length_singleton] at bound
        exact congrArg some (by omega)
  · rw [AList.lookup_insert_ne same, exact query index]
    constructor
    · rintro ⟨other, at_index, otherRuns⟩
      have bound := (List.getElem?_eq_some_iff.mp at_index).1
      exact ⟨other, by rwa [List.getElem?_append_left bound], otherRuns⟩
    · rintro ⟨other, at_index, otherRuns⟩
      rcases Nat.lt_or_ge index registry.jobs.length with old | new
      · rw [List.getElem?_append_left old] at at_index
        exact ⟨other, at_index, otherRuns⟩
      · rw [List.getElem?_append_right new] at at_index
        simp only [List.getElem?_singleton] at at_index
        split at at_index
        · cases at_index
          exact absurd (Option.some.inj (otherRuns.symm.trans runs)) same
        · contradiction

/-- Changing a job that keeps running under its key keeps the table exact. -/
theorem Exact.advance (exact : registry.Exact running) {index : Nat}
    {before after : Job} (at_index : registry.jobs[index]? = some before)
    (same : running after = running before) :
    (registry.advance index after).Exact running := by
  intro key query
  rw [advance_table, advance_jobs, exact key query]
  by_cases here : index = query
  · subst here
    have bound := (List.getElem?_eq_some_iff.mp at_index).1
    rw [List.getElem?_set_self bound, at_index]
    simp [same]
  · rw [List.getElem?_set_ne here]

/-- Finishing the running job of a key and removing the key keeps the table
exact. -/
theorem Exact.retire (exact : registry.Exact running) {index : Nat}
    {before after : Job} {key : Key}
    (at_index : registry.jobs[index]? = some before)
    (runs : running before = some key) (finished : running after = none) :
    (registry.retire index after key).Exact running := by
  intro query position
  simp only [retire_table, retire_jobs]
  by_cases same : query = key
  · subst same
    rw [AList.lookup_erase]
    constructor
    · intro found
      contradiction
    · rintro ⟨job, at_position, jobRuns⟩
      by_cases here : index = position
      · subst here
        have bound := (List.getElem?_eq_some_iff.mp at_index).1
        rw [List.getElem?_set_self bound] at at_position
        cases at_position
        rw [finished] at jobRuns
        contradiction
      · rw [List.getElem?_set_ne here] at at_position
        exact absurd (exact.unique at_index at_position runs jobRuns) here
  · rw [AList.lookup_erase_ne same, exact query position]
    by_cases here : index = position
    · subst here
      have bound := (List.getElem?_eq_some_iff.mp at_index).1
      constructor
      · rintro ⟨job, at_position, jobRuns⟩
        rw [at_index] at at_position
        cases at_position
        exact absurd (Option.some.inj (jobRuns.symm.trans runs)) same
      · rintro ⟨job, at_position, jobRuns⟩
        rw [List.getElem?_set_self bound] at at_position
        cases at_position
        rw [finished] at jobRuns
        contradiction
    · rw [List.getElem?_set_ne here]

/-- The keys are those of the running jobs, each once. -/
theorem Exact.perm_keys (exact : registry.Exact running) :
    registry.table.keys.Perm (registry.jobs.filterMap running) := by
  have once : (registry.jobs.filterMap running).Nodup := by
    rw [List.Nodup, List.pairwise_filterMap, List.pairwise_iff_getElem]
    intro left right leftBound rightBound before key leftRuns other rightRuns same
    subst same
    have at_left := List.getElem?_eq_getElem leftBound
    have at_right := List.getElem?_eq_getElem rightBound
    exact Nat.ne_of_lt before (exact.unique at_left at_right leftRuns rightRuns)
  apply (List.perm_ext_iff_of_nodup registry.table.keys_nodup once).mpr
  intro key
  rw [← AList.mem_keys, exact.mem_table_iff, List.mem_filterMap]

/-- Every job has finished or has its key in the table. -/
theorem Exact.length_keys (exact : registry.Exact running) :
    registry.table.keys.length +
        registry.jobs.countP (fun job => (running job).isNone) =
      registry.jobs.length := by
  have complement : (fun job => (running job).isNone) =
      fun job => decide ¬(running job).isSome = true := by
    funext job
    cases running job <;> rfl
  rw [exact.perm_keys.length_eq, List.length_filterMap_eq_countP, complement,
    ← List.length_eq_countP_add_countP]

end Registry

/-! ## Counting jobs -/

/-- Replacing one job moves a count by what the job counted for before and after. -/
theorem countP_set_of_getElem? {Job : Type v} (counts : Job → Bool)
    {jobs : List Job} {index : Nat} {before : Job} (after : Job)
    (at_index : jobs[index]? = some before) :
    (jobs.set index after).countP counts + (if counts before then 1 else 0) =
      jobs.countP counts + (if counts after then 1 else 0) := by
  induction jobs generalizing index with
  | nil => contradiction
  | cons head rest ih =>
      cases index with
      | zero =>
          cases at_index
          simp only [List.set_cons_zero, List.countP_cons]
          omega
      | succ index =>
          have later := ih (by simpa using at_index)
          simp only [List.set_cons_succ, List.countP_cons]
          omega

end DistributedInference.Transition
