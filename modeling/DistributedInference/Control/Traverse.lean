import Mathlib.Data.List.Forall2

/-!
# A function that may fail, over a list

`mapM` in `Except` stops at the first failure.  It succeeds exactly if every call
does, and then its results stand in the order of the list.  `findSomeM?` also stops
at the first result, so it succeeds exactly if every call before that one does.
-/

namespace DistributedInference.Control

universe u v

variable {ε α : Type u} {β : Type v} {step : β → Except ε α}
variable {values : List β} {results : List α}

theorem mapM_eq_ok_iff :
    values.mapM step = .ok results ↔
      List.Forall₂ (fun value result => step value = .ok result) values results := by
  induction values generalizing results with
  | nil =>
      rw [List.forall₂_nil_left_iff]
      constructor
      · intro computed
        cases computed
        rfl
      · intro empty
        rw [empty]
        rfl
  | cons value rest ih =>
      rw [List.forall₂_cons_left_iff, List.mapM_cons]
      constructor
      · intro computed
        cases first : step value with
        | error failure =>
            rw [first] at computed
            cases computed
        | ok result =>
            cases others : rest.mapM step with
            | error failure =>
                rw [first, others] at computed
                cases computed
            | ok later =>
                rw [first, others] at computed
                cases computed
                exact ⟨result, later, rfl, ih.mp others, rfl⟩
      · intro computed
        rcases computed with ⟨result, later, first, others, rfl⟩
        rw [first, ih.mpr others]
        rfl

theorem exists_mapM_eq_ok_iff :
    (∃ results, values.mapM step = .ok results) ↔
      ∀ value ∈ values, ∃ result, step value = .ok result := by
  simp only [mapM_eq_ok_iff]
  induction values with
  | nil => simp
  | cons value rest ih =>
      rw [List.forall_mem_cons, ← ih]
      constructor
      · intro computed
        rcases computed with ⟨results, computed⟩
        cases computed with
        | cons first others => exact ⟨⟨_, first⟩, _, others⟩
      · intro computed
        rcases computed with ⟨⟨result, first⟩, later, others⟩
        exact ⟨_, .cons first others⟩

theorem length_of_mapM (computed : values.mapM step = .ok results) :
    results.length = values.length :=
  (mapM_eq_ok_iff.mp computed).length_eq.symm

/-- A search returns exactly if every call that it gets to returns. -/
theorem exists_findSomeM?_eq_ok_iff {search : β → Except ε (Option α)} :
    (∃ found, values.findSomeM? search = .ok found) ↔
      ∀ earlier value later, values = earlier ++ value :: later →
        (∀ other ∈ earlier, search other = .ok none) →
        ∃ found, search value = .ok found := by
  induction values with
  | nil => simp [List.findSomeM?, pure, Except.pure]
  | cons head rest ih =>
      cases first : search head with
      | error failure =>
          constructor
          · intro computed
            rcases computed with ⟨found, computed⟩
            rw [List.findSomeM?_cons, first] at computed
            cases computed
          · intro returns
            rcases returns [] head rest rfl (by simp) with ⟨found, computed⟩
            cases first.symm.trans computed
      | ok result =>
          cases result with
          | some result =>
              apply iff_of_true
              · exact ⟨some result, by rw [List.findSomeM?_cons, first]; rfl⟩
              · intro earlier value later split unfound
                cases earlier with
                | nil => exact ⟨_, (List.cons.inj split).1 ▸ first⟩
                | cons other earlier =>
                    have none := unfound other List.mem_cons_self
                    rw [← (List.cons.inj split).1, first] at none
                    cases none
          | none =>
              have onwards : (head :: rest).findSomeM? search =
                  rest.findSomeM? search := by
                rw [List.findSomeM?_cons, first]
                rfl
              rw [onwards, ih]
              constructor
              · intro returns earlier value later split unfound
                cases earlier with
                | nil => exact ⟨_, (List.cons.inj split).1 ▸ first⟩
                | cons other earlier =>
                    exact returns earlier value later (List.cons.inj split).2
                      fun other member => unfound other (List.mem_cons_of_mem _ member)
              · intro returns earlier value later split unfound
                exact returns (head :: earlier) value later (by rw [split]; rfl)
                  (List.forall_mem_cons.mpr ⟨first, unfound⟩)

end DistributedInference.Control
