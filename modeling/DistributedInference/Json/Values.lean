import DistributedInference.Json.Strings

/-!
# JSON values

The values of a JSON text and how `json.dumps` writes them with its default
separators.  A number is kept as its literal, so writing it loses nothing.
-/

namespace DistributedInference.Json

/-! ## Numbers -/

def isDigit (character : Char) : Bool :=
  '0' ≤ character && character ≤ '9'

/-- The characters that occur in a number. -/
def isNumeric (character : Char) : Bool :=
  isDigit character || character ∈ ['-', '+', '.', 'e', 'E']

def digits (text : List Char) : Bool :=
  !text.isEmpty && text.all isDigit

/-- What follows the digits of a number: nothing, or an exponent. -/
def exponent (text : List Char) : Bool :=
  match text with
  | [] => true
  | mark :: '+' :: power | mark :: '-' :: power =>
      mark ∈ ['e', 'E'] && digits power
  | mark :: power => mark ∈ ['e', 'E'] && digits power

def fraction (text : List Char) : Bool :=
  match text with
  | '.' :: decimals =>
      !(decimals.takeWhile isDigit).isEmpty && exponent (decimals.dropWhile isDigit)
  | rest => exponent rest

/-- No number but zero starts with the digit `0`. -/
def whole (text : List Char) : Bool :=
  match text with
  | '0' :: rest => fraction rest
  | rest => !(rest.takeWhile isDigit).isEmpty && fraction (rest.dropWhile isDigit)

/-- The number literals of JSON. -/
def isNumber (text : List Char) : Bool :=
  text.all isNumeric &&
    match text with
    | '-' :: rest => whole rest
    | rest => whole rest

/-- A number, as its literal. -/
structure Number where
  literal : List Char
  valid : isNumber literal = true
  deriving DecidableEq

theorem Number.isNumeric (number : Number) {character : Char}
    (member : character ∈ number.literal) : isNumeric character = true := by
  have valid := number.valid
  simp only [isNumber, Bool.and_eq_true, List.all_eq_true] at valid
  exact valid.1 character member

theorem Number.exists_literal_eq_cons (number : Number) :
    ∃ first rest, number.literal = first :: rest ∧ Json.isNumeric first = true := by
  cases starts : number.literal with
  | nil =>
      have valid := number.valid
      rw [starts] at valid
      cases valid
  | cons first rest =>
      have member : first ∈ number.literal := by
        rw [starts]
        exact List.mem_cons_self
      exact ⟨first, rest, rfl, number.isNumeric member⟩

/-! ## Values -/

inductive Value where
  | null
  | bool (value : Bool)
  | number (value : Number)
  | string (value : String)
  | array (items : List Value)
  | object (members : List (String × Value))

namespace Value

/-- Structural induction, with the hypothesis for every item and for the value of
every member. -/
@[elab_as_elim]
theorem induction {motive : Value → Prop} (null : motive null)
    (bool : ∀ value, motive (bool value)) (number : ∀ value, motive (number value))
    (string : ∀ value, motive (string value))
    (array : ∀ items, (∀ item ∈ items, motive item) → motive (array items))
    (object : ∀ members : List (String × Value),
      (∀ member ∈ members, motive member.2) → motive (object members))
    (value : Value) : motive value := by
  refine @Value.rec motive (fun items => ∀ item ∈ items, motive item)
    (fun members => ∀ member ∈ members, motive member.2) (fun member => motive member.2)
    null bool number string array object ?noItem ?items ?noMember ?members ?member value
  case noItem | noMember =>
    intro item member
    cases member
  case items | members =>
    intro first rest holdsFirst holdsRest
    exact List.forall_mem_cons.mpr ⟨holdsFirst, holdsRest⟩
  case member =>
    intro key value holds
    exact holds

/-- The value of a key; the last of several members with one key counts. -/
def get (key : String) : Value → Option Value
  | object members => (members.reverse.find? (·.1 = key)).map Prod.snd
  | _ => none

/-- The item at an index. -/
def item (index : Nat) : Value → Option Value
  | array items => items[index]?
  | _ => none

/-- The text of a string. -/
def text : Value → Option String
  | string value => some value
  | _ => none

/-! ## Writing -/

mutual
def dumps : Value → List Char
  | null => ['n', 'u', 'l', 'l']
  | bool true => ['t', 'r', 'u', 'e']
  | bool false => ['f', 'a', 'l', 's', 'e']
  | number value => value.literal
  | string value => quote value
  | array [] => ['[', ']']
  | array (item :: items) => '[' :: (dumps item ++ dumpsItems items)
  | object [] => ['\x7b', '\x7d']
  | object ((key, value) :: members) =>
      '\x7b' :: (quote key ++ ':' :: ' ' :: (dumps value ++ dumpsMembers members))

/-- What follows an item, up to the closing bracket. -/
def dumpsItems : List Value → List Char
  | [] => [']']
  | item :: items => ',' :: ' ' :: (dumps item ++ dumpsItems items)

/-- What follows a member, up to the closing brace. -/
def dumpsMembers : List (String × Value) → List Char
  | [] => ['\x7d']
  | (key, value) :: members =>
      ',' :: ' ' :: (quote key ++ ':' :: ' ' :: (dumps value ++ dumpsMembers members))
end

/-! ## Printable ASCII -/

theorem printable_dumpsItems {items : List Value}
    (printable : ∀ item ∈ items, Printable item.dumps) :
    Printable (dumpsItems items) := by
  induction items with
  | nil => decide
  | cons first rest ih =>
      obtain ⟨printableFirst, printableRest⟩ := List.forall_mem_cons.mp printable
      simp only [dumpsItems, printable_cons, printable_append, printableFirst,
        ih printableRest, and_true]
      decide

theorem printable_dumpsMembers {members : List (String × Value)}
    (printable : ∀ member ∈ members, Printable member.2.dumps) :
    Printable (dumpsMembers members) := by
  induction members with
  | nil => decide
  | cons first rest ih =>
      obtain ⟨printableFirst, printableRest⟩ := List.forall_mem_cons.mp printable
      simp only [dumpsMembers, printable_cons, printable_append, printable_quote,
        printableFirst, ih printableRest, true_and, and_true]
      decide

theorem isNumeric_printable {character : Char}
    (numeric : isNumeric character = true) : ' ' ≤ character ∧ character ≤ '~' := by
  simp only [isNumeric, isDigit, Bool.or_eq_true, Bool.and_eq_true, decide_eq_true_eq,
    List.mem_cons, List.not_mem_nil, or_false] at numeric
  rcases numeric with ⟨lower, upper⟩ | rfl | rfl | rfl | rfl | rfl
  · have first : ' ' ≤ '0' := by decide
    have last : '9' ≤ '~' := by decide
    exact ⟨Char.le_trans first lower, Char.le_trans upper last⟩
  all_goals decide

/-- `json.dumps` writes printable ASCII only. -/
theorem printable_dumps (value : Value) : Printable value.dumps := by
  induction value using induction with
  | null => decide
  | bool value => cases value <;> decide
  | number value =>
      intro character member
      exact isNumeric_printable (value.isNumeric member)
  | string value => exact printable_quote value
  | array items ih =>
      cases items with
      | nil => decide
      | cons first rest =>
          obtain ⟨printableFirst, printableRest⟩ := List.forall_mem_cons.mp ih
          simp only [dumps, printable_cons, printable_append, printableFirst,
            printable_dumpsItems printableRest, and_true]
          decide
  | object members ih =>
      cases members with
      | nil => decide
      | cons first rest =>
          obtain ⟨printableFirst, printableRest⟩ := List.forall_mem_cons.mp ih
          simp only [dumps, printable_cons, printable_append, printable_quote,
            printableFirst, printable_dumpsMembers printableRest, true_and, and_true]
          decide

end Value

end DistributedInference.Json
