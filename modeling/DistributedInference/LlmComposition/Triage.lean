import DistributedInference.Python.Text
import Mathlib.Data.List.AList
import Mathlib.Data.List.Infix

/-!
# Triage

The cheap path: a lookup table settles the common questions, and every other text
escalates.
-/

namespace DistributedInference.LlmComposition

open Python

/-- A `Dict[str, str]` of answers, in the order of its keys. -/
abbrev Faq := AList fun _ : String => String

/-- The table of the app. -/
def FAQ : Faq :=
  List.toAList
    [⟨"hours", "Support is staffed 09:00 to 17:00 UTC, Monday through Friday."⟩,
      ⟨"pricing", "Pricing is usage based and billed per GPU hour."⟩,
      ⟨"status", "Live service status is published on the status page."⟩]

/-- `str.lower`.  Nothing that is proved here depends on how letters are paired, so the
case tables of Unicode stay a parameter. -/
abbrev Lower := PyString → PyString

/-- `key in text`. -/
def Occurs (key : String) (text : PyString) : Prop :=
  (PyString.ofString key).codePoints <:+: text.codePoints

instance (key : String) (text : PyString) : Decidable (Occurs key text) :=
  inferInstanceAs (Decidable (_ <:+: _))

structure TriageLogic where
  faq : Faq

/-- The first key, in the order of the table, that occurs in the lowered text; `none`
escalates. -/
def TriageLogic.route (logic : TriageLogic) (lower : Lower) (text : PyString) :
    Option String :=
  logic.faq.keys.find? fun key => Occurs key (lower text)

/-- The table holds every key that a text is routed to. -/
theorem TriageLogic.mem_of_route {logic : TriageLogic} {lower : Lower} {text : PyString}
    {key : String} (routed : logic.route lower text = some key) : key ∈ logic.faq :=
  AList.mem_keys.mpr (List.mem_of_find?_eq_some routed)

end DistributedInference.LlmComposition
