import Mathlib.Data.List.Basic

/-!
# JSON strings

Writing a string in ASCII, the default of `json.dumps`, and reading any JSON string.
An escape sequence stands for one code unit of UTF-16, so a character beyond the
basic plane is written as two of them, and a reader joins them again.
-/

namespace DistributedInference.Json

/-! ## UTF-16 -/

/-- The code units of a character. -/
def units (character : Char) : List Nat :=
  if character.toNat < 0x10000 then [character.toNat]
  else
    [0xd800 + (character.toNat - 0x10000) / 0x400,
      0xdc00 + (character.toNat - 0x10000) % 0x400]

def IsHigh (unit : Nat) : Prop := 0xd800 ≤ unit ∧ unit < 0xdc00

instance (unit : Nat) : Decidable (IsHigh unit) := inferInstanceAs (Decidable (_ ∧ _))

def IsLow (unit : Nat) : Prop := 0xdc00 ≤ unit ∧ unit < 0xe000

instance (unit : Nat) : Decidable (IsLow unit) := inferInstanceAs (Decidable (_ ∧ _))

/-- The characters of a list of code units; there are none if a surrogate is not one
of a pair. -/
def characters : List Nat → Option (List Char)
  | [] => some []
  | unit :: rest =>
      if IsHigh unit then
        match rest with
        | low :: rest =>
            if IsLow low then
              (characters rest).map
                (Char.ofNat (0x10000 + (unit - 0xd800) * 0x400 + (low - 0xdc00)) :: ·)
            else none
        | [] => none
      else if IsLow unit then none
      else (characters rest).map (Char.ofNat unit :: ·)

/-- No character is a surrogate. -/
theorem not_isHigh_toNat (character : Char) : ¬ IsHigh character.toNat := by
  have valid := character.valid
  simp only [UInt32.isValidChar, Nat.isValidChar] at valid
  simp only [IsHigh, Char.toNat]
  omega

theorem not_isLow_toNat (character : Char) : ¬ IsLow character.toNat := by
  have valid := character.valid
  simp only [UInt32.isValidChar, Nat.isValidChar] at valid
  simp only [IsLow, Char.toNat]
  omega

theorem toNat_lt (character : Char) : character.toNat < 0x110000 := by
  have valid := character.valid
  simp only [UInt32.isValidChar, Nat.isValidChar] at valid
  simp only [Char.toNat]
  omega

theorem characters_toNat (character : Char) (rest : List Nat) :
    characters (character.toNat :: rest) = (characters rest).map (character :: ·) := by
  rw [characters.eq_def]
  simp only [if_neg (not_isHigh_toNat character), if_neg (not_isLow_toNat character),
    Char.ofNat_toNat]

/-- A pair of surrogates is joined to the character that was split. -/
theorem characters_units (character : Char) (rest : List Nat) :
    characters (units character ++ rest) = (characters rest).map (character :: ·) := by
  simp only [units]
  split
  next => exact characters_toNat character rest
  next beyond =>
    have bound := toNat_lt character
    have high : IsHigh (0xd800 + (character.toNat - 0x10000) / 0x400) := by
      simp only [IsHigh]
      omega
    have low : IsLow (0xdc00 + (character.toNat - 0x10000) % 0x400) := by
      simp only [IsLow]
      omega
    have joined : 0x10000 + (0xd800 + (character.toNat - 0x10000) / 0x400 - 0xd800) *
        0x400 + (0xdc00 + (character.toNat - 0x10000) % 0x400 - 0xdc00) =
          character.toNat := by omega
    simp only [List.cons_append, List.nil_append, characters, if_pos high, if_pos low,
      joined, Char.ofNat_toNat]

theorem characters_flatMap_units (text : List Char) :
    characters (text.flatMap units) = some text := by
  induction text with
  | nil => rfl
  | cons character rest ih =>
      rw [List.flatMap_cons, characters_units, ih]
      rfl

/-- Each code unit of a character has 16 bits. -/
theorem lt_of_mem_units {character : Char} {unit : Nat}
    (member : unit ∈ units character) : unit < 0x10000 := by
  have bound := toNat_lt character
  simp only [units] at member
  split at member
  next small =>
    cases List.mem_singleton.mp member
    exact small
  next =>
    simp only [List.mem_cons, List.not_mem_nil, or_false] at member
    omega

/-! ## Writing -/

/-- Four lower case hexadecimal digits. -/
def hex4 (unit : Nat) : List Char :=
  [(unit / 0x1000 % 16).digitChar, (unit / 0x100 % 16).digitChar,
    (unit / 0x10 % 16).digitChar, (unit % 16).digitChar]

def unicodeEscape (unit : Nat) : List Char :=
  '\x5c' :: 'u' :: hex4 unit

/-- The letter after the backslash, for the characters that have one. -/
def shortEscape (character : Char) : Option Char :=
  match character with
  | '\x22' => some '\x22'
  | '\x5c' => some '\x5c'
  | '\n' => some 'n'
  | '\r' => some 'r'
  | '\t' => some 't'
  | '\x0c' => some 'f'
  | '\x08' => some 'b'
  | _ => none

/-- How `json.dumps` writes one character, with `ensure_ascii`. -/
def escape (character : Char) : List Char :=
  match shortEscape character with
  | some letter => ['\x5c', letter]
  | none =>
      if ' ' ≤ character ∧ character ≤ '~' then [character]
      else (units character).flatMap unicodeEscape

/-- A string between double quotes. -/
def quote (text : String) : List Char :=
  '\x22' :: (text.toList.flatMap escape ++ ['\x22'])

/-! ## Reading -/

def hexValue (digit : Char) : Option Nat :=
  if '0' ≤ digit ∧ digit ≤ '9' then some (digit.toNat - 48)
  else if 'a' ≤ digit ∧ digit ≤ 'f' then some (digit.toNat - 87)
  else if 'A' ≤ digit ∧ digit ≤ 'F' then some (digit.toNat - 55)
  else none

def readHex4 (first second third fourth : Char) : Option Nat := do
  let first ← hexValue first
  let second ← hexValue second
  let third ← hexValue third
  let fourth ← hexValue fourth
  return first * 0x1000 + second * 0x100 + third * 0x10 + fourth

/-- The code unit that a letter after a backslash stands for. -/
def escapedUnit (letter : Char) : Option Nat :=
  match letter with
  | '\x22' => some 0x22
  | '\x5c' => some 0x5c
  | '/' => some 0x2f
  | 'b' => some 0x08
  | 'f' => some 0x0c
  | 'n' => some 0x0a
  | 'r' => some 0x0d
  | 't' => some 0x09
  | _ => none

/-- The code units up to the closing quote, and what follows it.  A character that is
not escaped counts as one unit, whatever its size. -/
def readUnits : List Char → Option (List Nat × List Char)
  | [] => none
  | first :: rest =>
      if first = '\x22' then some ([], rest)
      else if first = '\x5c' then
        match rest with
        | [] => none
        | letter :: rest =>
            if letter = 'u' then
              match rest with
              | a :: b :: c :: d :: rest => do
                  let unit ← readHex4 a b c d
                  (readUnits rest).map (Prod.map (unit :: ·) id)
              | _ => none
            else do
              let unit ← escapedUnit letter
              (readUnits rest).map (Prod.map (unit :: ·) id)
      else if first.toNat < 0x20 then none
      else (readUnits rest).map (Prod.map (first.toNat :: ·) id)

/-- A string, from behind its opening quote. -/
def readString (text : List Char) : Option (String × List Char) := do
  let (units, rest) ← readUnits text
  let characters ← characters units
  return (String.ofList characters, rest)

/-! ## Reading what was written -/

theorem hexValue_digitChar : ∀ digit < 16, hexValue digit.digitChar = some digit := by
  decide

theorem readHex4_hex4 {unit : Nat} (small : unit < 0x10000) :
    readHex4 (unit / 0x1000 % 16).digitChar (unit / 0x100 % 16).digitChar
      (unit / 0x10 % 16).digitChar (unit % 16).digitChar = some unit := by
  have digit (number : Nat) : hexValue (number % 16).digitChar = some (number % 16) :=
    hexValue_digitChar _ (Nat.mod_lt _ (by decide))
  have sum : unit / 0x1000 % 16 * 0x1000 + unit / 0x100 % 16 * 0x100 +
      unit / 0x10 % 16 * 0x10 + unit % 16 = unit := by omega
  simp only [readHex4, digit, Option.bind_eq_bind, Option.bind_some, sum]
  rfl

theorem readUnits_unicodeEscape {unit : Nat} (small : unit < 0x10000)
    (rest : List Char) :
    readUnits (unicodeEscape unit ++ rest) =
      (readUnits rest).map (Prod.map (unit :: ·) id) := by
  have read := readHex4_hex4 small
  simp only [unicodeEscape, hex4, List.cons_append, List.nil_append, readUnits, read]
  rfl

theorem readUnits_unicodeEscapes {units : List Nat}
    (small : ∀ unit ∈ units, unit < 0x10000) (rest : List Char) :
    readUnits (units.flatMap unicodeEscape ++ rest) =
      (readUnits rest).map (Prod.map (units ++ ·) id) := by
  induction units with
  | nil => exact Option.map_id'.symm
  | cons unit units ih =>
      have smallRest : ∀ unit ∈ units, unit < 0x10000 := by
        intro unit member
        exact small unit (List.mem_cons_of_mem _ member)
      rw [List.flatMap_cons, List.append_assoc,
        readUnits_unicodeEscape (small unit List.mem_cons_self), ih smallRest,
        Option.map_map]
      rfl

/-- The letter of a short escape stands for the character that it was written for. -/
theorem escapedUnit_shortEscape {character letter : Char}
    (short : shortEscape character = some letter) :
    letter ≠ 'u' ∧ escapedUnit letter = some character.toNat ∧
      units character = [character.toNat] := by
  simp only [shortEscape] at short
  split at short
  all_goals
    cases short
    try decide

/-- A character that is written as itself. -/
theorem readUnits_plain {character : Char} (long : shortEscape character = none)
    (printable : ' ' ≤ character) (rest : List Char) :
    readUnits (character :: rest) =
      (readUnits rest).map (Prod.map (character.toNat :: ·) id) := by
  have notQuote : character ≠ '\x22' := by
    rintro rfl
    cases long
  have notBackslash : character ≠ '\x5c' := by
    rintro rfl
    cases long
  have notControl : ¬ character.toNat < 0x20 := Nat.not_lt.mpr printable
  rw [readUnits.eq_def]
  simp only [if_neg notQuote, if_neg notBackslash, if_neg notControl]

theorem readUnits_escape (character : Char) (rest : List Char) :
    readUnits (escape character ++ rest) =
      (readUnits rest).map (Prod.map (units character ++ ·) id) := by
  simp only [escape]
  split
  next letter short =>
    obtain ⟨notU, unit, single⟩ := escapedUnit_shortEscape short
    have notQuote : '\x5c' ≠ '\x22' := by decide
    rw [single, List.cons_append, readUnits.eq_def]
    simp only [List.cons_append, List.nil_append, if_neg notQuote, if_true, if_neg notU,
      unit]
    rfl
  next long =>
    split
    next printable =>
      have small : units character = [character.toNat] := by
        have bound : character.toNat ≤ 0x7e := printable.2
        simp only [units, if_pos (show character.toNat < 0x10000 by omega)]
      rw [small]
      exact readUnits_plain long printable.1 rest
    next => exact readUnits_unicodeEscapes (fun _ => lt_of_mem_units) rest

theorem readUnits_quote (text rest : List Char) :
    readUnits (text.flatMap escape ++ '\x22' :: rest) =
      some (text.flatMap units, rest) := by
  induction text with
  | nil =>
      rw [List.flatMap_nil, List.nil_append, readUnits.eq_def]
      rfl
  | cons character text ih =>
      rw [List.flatMap_cons, List.append_assoc, readUnits_escape, ih]
      rfl

/-- A string is read back as it was written. -/
theorem readString_quote (text : String) (rest : List Char) :
    readString (text.toList.flatMap escape ++ '\x22' :: rest) = some (text, rest) := by
  simp only [readString, readUnits_quote, Option.bind_eq_bind, Option.bind_some,
    characters_flatMap_units, String.ofList_toList]
  rfl

/-! ## Printable ASCII -/

/-- Characters that neither end a line nor leave ASCII. -/
def Printable (text : List Char) : Prop :=
  ∀ character ∈ text, ' ' ≤ character ∧ character ≤ '~'

instance (text : List Char) : Decidable (Printable text) :=
  List.decidableBAll _ text

theorem printable_nil : Printable [] := by
  intro character member
  cases member

theorem printable_append {front back : List Char} :
    Printable (front ++ back) ↔ Printable front ∧ Printable back :=
  List.forall_mem_append

theorem printable_cons {character : Char} {rest : List Char} :
    Printable (character :: rest) ↔
      (' ' ≤ character ∧ character ≤ '~') ∧ Printable rest :=
  List.forall_mem_cons

theorem printable_flatMap {α : Type*} {write : α → List Char} {items : List α}
    (printable : ∀ item ∈ items, Printable (write item)) :
    Printable (items.flatMap write) := by
  intro character member
  obtain ⟨item, found, written⟩ := List.mem_flatMap.mp member
  exact printable item found character written

theorem digitChar_printable :
    ∀ digit < 16, ' ' ≤ digit.digitChar ∧ digit.digitChar ≤ '~' := by
  decide

theorem printable_unicodeEscape (unit : Nat) : Printable (unicodeEscape unit) := by
  have digit (number : Nat) :=
    digitChar_printable (number % 16) (Nat.mod_lt _ (by decide))
  simp only [unicodeEscape, hex4, printable_cons, digit, printable_nil, and_true]
  decide

theorem printable_shortEscape {character letter : Char}
    (short : shortEscape character = some letter) : ' ' ≤ letter ∧ letter ≤ '~' := by
  simp only [shortEscape] at short
  split at short
  all_goals
    cases short
    try decide

theorem printable_escape (character : Char) : Printable (escape character) := by
  simp only [escape]
  split
  next letter short =>
    have backslash : ' ' ≤ '\x5c' ∧ '\x5c' ≤ '~' := by decide
    exact printable_cons.mpr ⟨backslash, printable_cons.mpr
      ⟨printable_shortEscape short, printable_nil⟩⟩
  next =>
    split
    next printable => exact printable_cons.mpr ⟨printable, printable_nil⟩
    next => exact printable_flatMap fun unit _ => printable_unicodeEscape unit

theorem printable_quote (text : String) : Printable (quote text) := by
  have mark : ' ' ≤ '\x22' ∧ '\x22' ≤ '~' := by decide
  exact printable_cons.mpr ⟨mark, printable_append.mpr
    ⟨printable_flatMap fun character _ => printable_escape character,
      printable_cons.mpr ⟨mark, printable_nil⟩⟩⟩

end DistributedInference.Json
