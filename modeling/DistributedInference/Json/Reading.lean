import DistributedInference.Json.Values

/-!
# Reading JSON

A reader of JSON texts and its round trip with the writer.  The reader takes any
whitespace between the tokens; what the writer writes is one of many texts that it
accepts for a value.
-/

namespace DistributedInference.Json

/-! ## The reader -/

def isWhitespace (character : Char) : Bool :=
  character ∈ [' ', '\t', '\n', '\r']

def skip (text : List Char) : List Char :=
  text.dropWhile isWhitespace

/-- A number: the longest stretch of characters of numbers must be one. -/
def readNumber (text : List Char) : Option (Value × List Char) :=
  if valid : isNumber (text.takeWhile isNumeric) = true then
    some (.number ⟨text.takeWhile isNumeric, valid⟩, text.dropWhile isNumeric)
  else none

/-- A value that has no parts. -/
def readLiteral (text : List Char) : Option (Value × List Char) :=
  match text with
  | 'n' :: 'u' :: 'l' :: 'l' :: rest => some (.null, rest)
  | 't' :: 'r' :: 'u' :: 'e' :: rest => some (.bool true, rest)
  | 'f' :: 'a' :: 'l' :: 's' :: 'e' :: rest => some (.bool false, rest)
  | '\x22' :: rest => (readString rest).map (Prod.map .string id)
  | text => readNumber text

/-- A key and the colon behind it. -/
def readKey (text : List Char) : Option (String × List Char) :=
  match skip text with
  | '\x22' :: rest =>
      (readString rest).bind fun (key, rest) =>
        match skip rest with
        | ':' :: rest => some (key, rest)
        | _ => none
  | _ => none

mutual
/-- A value and what follows it. -/
def readValue : Nat → List Char → Option (Value × List Char)
  | 0, _ => none
  | fuel + 1, text =>
      match skip text with
      | '[' :: rest =>
          match skip rest with
          | ']' :: rest => some (.array [], rest)
          | rest => do
              let (item, rest) ← readValue fuel rest
              let (items, rest) ← readItems fuel rest
              return (.array (item :: items), rest)
      | '\x7b' :: rest =>
          match skip rest with
          | '\x7d' :: rest => some (.object [], rest)
          | rest => do
              let (key, rest) ← readKey rest
              let (value, rest) ← readValue fuel rest
              let (members, rest) ← readMembers fuel rest
              return (.object ((key, value) :: members), rest)
      | text => readLiteral text

/-- The items behind an item, up to the closing bracket. -/
def readItems : Nat → List Char → Option (List Value × List Char)
  | 0, _ => none
  | fuel + 1, text =>
      match skip text with
      | ']' :: rest => some ([], rest)
      | ',' :: rest => do
          let (item, rest) ← readValue fuel rest
          let (items, rest) ← readItems fuel rest
          return (item :: items, rest)
      | _ => none

/-- The members behind a member, up to the closing brace. -/
def readMembers : Nat → List Char → Option (List (String × Value) × List Char)
  | 0, _ => none
  | fuel + 1, text =>
      match skip text with
      | '\x7d' :: rest => some ([], rest)
      | ',' :: rest => do
          let (key, rest) ← readKey rest
          let (value, rest) ← readValue fuel rest
          let (members, rest) ← readMembers fuel rest
          return ((key, value) :: members, rest)
      | _ => none
end

/-- The value of a text.  Every call of the reader but the first follows a character
that was read, so the length of the text is enough fuel. -/
def loads (text : List Char) : Option Value := do
  let (value, rest) ← readValue text.length text
  if skip rest = [] then some value else none

/-! ## Reading what was written -/

theorem skip_cons {first : Char} (visible : isWhitespace first = false)
    (rest : List Char) : skip (first :: rest) = first :: rest := by
  apply List.dropWhile_cons_of_neg
  simp only [visible, Bool.false_eq_true, not_false_eq_true]

/-- What may stand behind a number. -/
def Ends (rest : List Char) : Prop :=
  ∀ first ∈ rest.head?, isNumeric first = false

theorem takeWhile_of_ends {rest : List Char} (ends : Ends rest) :
    rest.takeWhile isNumeric = [] := by
  cases rest with
  | nil => rfl
  | cons first rest =>
      apply List.takeWhile_cons_of_neg
      simp only [ends first rfl, Bool.false_eq_true, not_false_eq_true]

theorem readNumber_literal (number : Number) {rest : List Char} (ends : Ends rest) :
    readNumber (number.literal ++ rest) = some (.number number, rest) := by
  have taken : (number.literal ++ rest).takeWhile isNumeric = number.literal := by
    rw [List.takeWhile_append_of_pos fun _ => number.isNumeric, takeWhile_of_ends ends,
      List.append_nil]
  have dropped : (number.literal ++ rest).dropWhile isNumeric = rest := by
    have parts : (number.literal ++ rest).takeWhile isNumeric ++
        (number.literal ++ rest).dropWhile isNumeric = number.literal ++ rest :=
      List.takeWhile_append_dropWhile
    rw [taken] at parts
    exact List.append_cancel_left parts
  simp only [readNumber, taken, dropped, number.valid, dif_pos]

theorem isNumeric_visible {character : Char} (numeric : isNumeric character = true) :
    isWhitespace character = false := by
  rw [← Bool.not_eq_true]
  intro white
  simp only [isWhitespace, decide_eq_true_eq, List.mem_cons, List.not_mem_nil,
    or_false] at white
  rcases white with rfl | rfl | rfl | rfl
  all_goals cases numeric

/-- A number is no other literal. -/
theorem readLiteral_numeric {first : Char} (numeric : isNumeric first = true)
    (rest : List Char) : readLiteral (first :: rest) = readNumber (first :: rest) := by
  simp only [readLiteral]
  split
  case h_5 => rfl
  all_goals
    next other =>
      cases other
      cases numeric

theorem readValue_numeric {first : Char} (numeric : isNumeric first = true)
    (fuel : Nat) (rest : List Char) :
    readValue (fuel + 1) (first :: rest) = readNumber (first :: rest) := by
  simp only [readValue, skip_cons (isNumeric_visible numeric)]
  split
  case h_3 => exact readLiteral_numeric numeric rest
  all_goals
    next other =>
      cases other
      cases numeric

/-- A character with which no value starts. -/
def isOutside (character : Char) : Bool :=
  isWhitespace character || character == ']'

theorem isNumeric_notOutside {character : Char} (numeric : isNumeric character = true) :
    isOutside character = false := by
  have notClosed : character ≠ ']' := by
    rintro rfl
    cases numeric
  simp only [isOutside, isNumeric_visible numeric, beq_eq_false_iff_ne.mpr notClosed,
    Bool.or_false]

/-- The first character of a written value. -/
theorem exists_dumps_eq_cons (value : Value) :
    ∃ first rest, value.dumps = first :: rest ∧ isOutside first = false := by
  cases value with
  | null => exact ⟨'n', _, rfl, rfl⟩
  | bool value =>
      cases value with
      | false => exact ⟨'f', _, rfl, rfl⟩
      | true => exact ⟨'t', _, rfl, rfl⟩
  | number value =>
      obtain ⟨first, rest, literal, numeric⟩ := value.exists_literal_eq_cons
      exact ⟨first, rest, literal, isNumeric_notOutside numeric⟩
  | string value => exact ⟨'\x22', _, rfl, rfl⟩
  | array items =>
      cases items with
      | nil => exact ⟨'[', _, rfl, rfl⟩
      | cons first rest => exact ⟨'[', _, rfl, rfl⟩
  | object members =>
      cases members with
      | nil => exact ⟨'\x7b', _, rfl, rfl⟩
      | cons first rest => exact ⟨'\x7b', _, rfl, rfl⟩

/-- Reading a written value gives the value back, whatever follows it. -/
def ReadsBack (value : Value) : Prop :=
  ∀ fuel rest, value.dumps.length ≤ fuel → Ends rest →
    readValue fuel (value.dumps ++ rest) = some (value, rest)

theorem readValue_space (fuel : Nat) (text : List Char) :
    readValue fuel (' ' :: text) = readValue fuel text := by
  cases fuel with
  | zero => rfl
  | succ fuel => rfl

theorem readValue_string (fuel : Nat) (rest : List Char) :
    readValue (fuel + 1) ('\x22' :: rest) =
      (readString rest).map (Prod.map .string id) := rfl

/-- An array that starts with an item. -/
theorem readValue_array (item : Value) (fuel : Nat) (rest : List Char) :
    readValue (fuel + 1) ('[' :: (item.dumps ++ rest)) = do
      let (item, rest) ← readValue fuel (item.dumps ++ rest)
      let (items, rest) ← readItems fuel rest
      return (.array (item :: items), rest) := by
  obtain ⟨first, text, starts, inside⟩ := exists_dumps_eq_cons item
  obtain ⟨visible, notClosed⟩ := Bool.or_eq_false_iff.mp inside
  simp only [starts, List.cons_append, readValue]
  rw [skip_cons rfl]
  simp only [skip_cons visible]
  split
  next closed =>
    cases closed
    cases notClosed
  next => rfl

/-- An object that starts with a key. -/
theorem readValue_object (key : String) (fuel : Nat) (rest : List Char) :
    readValue (fuel + 1) ('\x7b' :: (quote key ++ rest)) = do
      let (key, rest) ← readKey (quote key ++ rest)
      let (value, rest) ← readValue fuel rest
      let (members, rest) ← readMembers fuel rest
      return (.object ((key, value) :: members), rest) := rfl

theorem ends_dumpsItems (items : List Value) (rest : List Char) :
    Ends (Value.dumpsItems items ++ rest) := by
  cases items
  all_goals
    intro first member
    cases member
    rfl

theorem ends_dumpsMembers (members : List (String × Value)) (rest : List Char) :
    Ends (Value.dumpsMembers members ++ rest) := by
  cases members
  all_goals
    intro first member
    cases member
    rfl

theorem readKey_quote (key : String) (rest : List Char) :
    readKey (quote key ++ ':' :: rest) = some (key, rest) := by
  have read := readString_quote key (':' :: rest)
  simp only [readKey, quote, List.cons_append, List.append_assoc, List.nil_append]
  rw [skip_cons rfl]
  simp only [read, Option.bind_some]
  rw [skip_cons rfl]
  rfl

theorem readKey_space (text : List Char) : readKey (' ' :: text) = readKey text := rfl

theorem readItems_dumpsItems {items : List Value}
    (readsBack : ∀ item ∈ items, ReadsBack item) (fuel : Nat) (rest : List Char)
    (enough : (Value.dumpsItems items).length ≤ fuel) :
    readItems fuel (Value.dumpsItems items ++ rest) = some (items, rest) := by
  induction items generalizing fuel with
  | nil =>
      cases fuel with
      | zero => cases enough
      | succ fuel => rfl
  | cons item items ih =>
      obtain ⟨itemReadsBack, itemsReadBack⟩ := List.forall_mem_cons.mp readsBack
      cases fuel with
      | zero => cases enough
      | succ fuel =>
          simp only [Value.dumpsItems, List.length_cons, List.length_append] at enough
          have readItem := itemReadsBack fuel (Value.dumpsItems items ++ rest)
            (by omega) (ends_dumpsItems items rest)
          have readRest := ih itemsReadBack fuel (by omega)
          simp only [Value.dumpsItems, List.cons_append, List.append_assoc, readItems]
          rw [skip_cons rfl]
          simp only [readValue_space, readItem, Option.bind_eq_bind, Option.bind_some,
            readRest]
          rfl

theorem readMembers_dumpsMembers {members : List (String × Value)}
    (readsBack : ∀ member ∈ members, ReadsBack member.2) (fuel : Nat) (rest : List Char)
    (enough : (Value.dumpsMembers members).length ≤ fuel) :
    readMembers fuel (Value.dumpsMembers members ++ rest) = some (members, rest) := by
  induction members generalizing fuel with
  | nil =>
      cases fuel with
      | zero => cases enough
      | succ fuel => rfl
  | cons member members ih =>
      obtain ⟨memberReadsBack, membersReadBack⟩ := List.forall_mem_cons.mp readsBack
      cases fuel with
      | zero => cases enough
      | succ fuel =>
          simp only [Value.dumpsMembers, List.length_cons, List.length_append] at enough
          have readMember := memberReadsBack fuel (Value.dumpsMembers members ++ rest)
            (by omega) (ends_dumpsMembers members rest)
          have readRest := ih membersReadBack fuel (by omega)
          simp only [Value.dumpsMembers, List.cons_append, List.append_assoc,
            readMembers]
          rw [skip_cons rfl]
          simp only [readKey_space, readKey_quote, readValue_space, readMember,
            Option.bind_eq_bind, Option.bind_some, readRest]
          rfl

/-- A written value is not empty, so there is fuel to read it. -/
theorem ReadsBack.of_succ {value : Value}
    (reads : ∀ fuel rest, value.dumps.length ≤ fuel + 1 → Ends rest →
      readValue (fuel + 1) (value.dumps ++ rest) = some (value, rest)) :
    ReadsBack value := by
  intro fuel rest enough ends
  cases fuel with
  | zero =>
      obtain ⟨first, text, starts, _⟩ := exists_dumps_eq_cons value
      rw [starts] at enough
      cases enough
  | succ fuel => exact reads fuel rest enough ends

theorem readsBack_number (number : Number) : ReadsBack (.number number) := by
  apply ReadsBack.of_succ
  intro fuel rest enough ends
  obtain ⟨first, literal, starts, numeric⟩ := number.exists_literal_eq_cons
  have read := readNumber_literal number ends
  rw [starts, List.cons_append] at read
  rw [Value.dumps, starts, List.cons_append, readValue_numeric numeric, read]

theorem readsBack_string (text : String) : ReadsBack (.string text) := by
  apply ReadsBack.of_succ
  intro fuel rest enough ends
  have read := readString_quote text rest
  simp only [Value.dumps, quote, List.cons_append, List.append_assoc,
    List.nil_append, readValue_string, read, Option.map_some]
  rfl

theorem readsBack_array {items : List Value}
    (readsBack : ∀ item ∈ items, ReadsBack item) : ReadsBack (.array items) := by
  apply ReadsBack.of_succ
  intro fuel rest enough ends
  cases items with
  | nil => rfl
  | cons item items =>
      obtain ⟨itemReadsBack, itemsReadBack⟩ := List.forall_mem_cons.mp readsBack
      simp only [Value.dumps, List.length_cons, List.length_append] at enough
      have readItem := itemReadsBack fuel (Value.dumpsItems items ++ rest) (by omega)
        (ends_dumpsItems items rest)
      have readRest := readItems_dumpsItems itemsReadBack fuel rest (by omega)
      simp only [Value.dumps, List.cons_append, List.append_assoc]
      rw [readValue_array item, readItem]
      simp only [Option.bind_eq_bind, Option.bind_some, readRest]
      rfl

theorem readsBack_object {members : List (String × Value)}
    (readsBack : ∀ member ∈ members, ReadsBack member.2) :
    ReadsBack (.object members) := by
  apply ReadsBack.of_succ
  intro fuel rest enough ends
  cases members with
  | nil => rfl
  | cons member members =>
      obtain ⟨memberReadsBack, membersReadBack⟩ := List.forall_mem_cons.mp readsBack
      simp only [Value.dumps, List.length_cons, List.length_append] at enough
      have readMember := memberReadsBack fuel (Value.dumpsMembers members ++ rest)
        (by omega) (ends_dumpsMembers members rest)
      have readRest := readMembers_dumpsMembers membersReadBack fuel rest (by omega)
      simp only [Value.dumps, List.cons_append, List.append_assoc]
      rw [readValue_object, readKey_quote]
      simp only [Option.bind_eq_bind, Option.bind_some, readValue_space,
        readMember, readRest]
      rfl

theorem readsBack (value : Value) : ReadsBack value := by
  induction value using Value.induction with
  | null =>
      apply ReadsBack.of_succ
      intro fuel rest enough ends
      rfl
  | bool value =>
      apply ReadsBack.of_succ
      intro fuel rest enough ends
      cases value <;> rfl
  | number value => exact readsBack_number value
  | string value => exact readsBack_string value
  | array items ih => exact readsBack_array ih
  | object members ih => exact readsBack_object ih

/-- A written value is read back, and nothing else is read. -/
theorem loads_dumps (value : Value) : loads value.dumps = some value := by
  have read := readsBack value value.dumps.length [] (Nat.le_refl _) (by
    intro first member
    cases member)
  rw [List.append_nil] at read
  simp only [loads, read, Option.bind_eq_bind, Option.bind_some]
  rfl

example :
    (loads "\x7b\"a\" :[ 1e3, \"\\u0041/\\/\"],\"b\":null\x7d\n".toList).map
      Value.dumps =
    some "\x7b\"a\": [1e3, \"A//\"], \"b\": null\x7d".toList := by
  decide +kernel

end DistributedInference.Json
