import Mathlib.Data.List.Basic

/-!
# The lines of a Python string

`str.splitlines` and the last field of `str.rsplit`.  A line ends at a line feed, but
also at every other character that Python takes for a line boundary, so a text whose
lines are ended by line feeds may fall into more pieces than it has lines.
-/

namespace DistributedInference.Python

/-! ## Lines -/

/-- The line boundaries of `str.splitlines`: line feed, carriage return, vertical tab,
form feed, the file, group and record separators, next line, and the line and paragraph
separators. -/
def isLineBoundary (character : Char) : Bool :=
  character ∈ ['\n', '\r', '\x0b', '\x0c', '\x1c', '\x1d', '\x1e', '\u0085', '\u2028',
    '\u2029']

/-- Put a character in front of the first line. -/
def extendFirst (first : Char) : List (List Char) → List (List Char)
  | [] => [[first]]
  | line :: others => (first :: line) :: others

/-- `text.splitlines()`.  A carriage return and a line feed are one boundary. -/
def splitlines : List Char → List (List Char)
  | [] => []
  | '\r' :: '\n' :: rest => [] :: splitlines rest
  | first :: rest =>
      if isLineBoundary first then [] :: splitlines rest
      else extendFirst first (splitlines rest)

/-- No line boundary but those at its end. -/
def Unbroken (text : List Char) : Prop :=
  ∀ character ∈ text, isLineBoundary character = false

instance (text : List Char) : Decidable (Unbroken text) :=
  List.decidableBAll _ text

theorem splitlines_plain {first : Char} (plain : isLineBoundary first = false)
    (rest : List Char) :
    splitlines (first :: rest) = extendFirst first (splitlines rest) := by
  rw [splitlines.eq_def]
  split
  case h_1 empty => cases empty
  case h_2 crlf =>
    cases crlf
    cases plain
  case h_3 same =>
    cases same
    rw [plain]
    rfl

theorem splitlines_boundary {first : Char} (boundary : isLineBoundary first = true)
    {rest : List Char} (alone : ∀ later, first :: rest ≠ '\r' :: '\n' :: later) :
    splitlines (first :: rest) = [] :: splitlines rest := by
  rw [splitlines.eq_def]
  split
  case h_1 empty => cases empty
  case h_2 later crlf => exact absurd crlf (alone later)
  case h_3 same =>
    cases same
    exact if_pos boundary

theorem splitlines_lineFeed (rest : List Char) :
    splitlines ('\n' :: rest) = [] :: splitlines rest :=
  splitlines_boundary rfl (by simp)

/-- A line without further boundaries is one piece. -/
theorem splitlines_unbroken {line : List Char} (unbroken : Unbroken line) :
    splitlines (line ++ ['\n']) = [line] := by
  induction line with
  | nil => rfl
  | cons first line ih =>
      rcases List.forall_mem_cons.mp unbroken with ⟨plain, unbrokenLine⟩
      rw [List.cons_append, splitlines_plain plain, ih unbrokenLine]
      rfl

/-- A text that is ended by a line feed has a first piece, and it is a prefix. -/
theorem exists_splitlines_eq_cons (line : List Char) :
    ∃ piece pieces, splitlines (line ++ ['\n']) = piece :: pieces ∧ piece <+: line := by
  induction line with
  | nil => exact ⟨[], [], rfl, List.nil_prefix⟩
  | cons first line ih =>
      cases plain : isLineBoundary first with
      | true =>
          by_cases crlf : ∃ later, (first :: line) ++ ['\n'] = '\r' :: '\n' :: later
          · rcases crlf with ⟨later, crlf⟩
            rw [crlf]
            exact ⟨[], _, rfl, List.nil_prefix⟩
          · have alone := not_exists.mp crlf
            exact ⟨[], _, splitlines_boundary plain alone, List.nil_prefix⟩
      | false =>
          rcases ih with ⟨piece, pieces, split, isPrefix⟩
          refine ⟨first :: piece, pieces, ?_, ?_⟩
          · rw [List.cons_append, splitlines_plain plain, split]
            rfl
          · exact List.cons_prefix_cons.mpr ⟨rfl, isPrefix⟩

/-- The first piece goes on at least up to the first boundary. -/
theorem exists_splitlines_append {start : List Char} (unbroken : Unbroken start)
    (rest : List Char) :
    ∃ piece pieces,
      splitlines (start ++ (rest ++ ['\n'])) = (start ++ piece) :: pieces := by
  induction start with
  | nil =>
      rcases exists_splitlines_eq_cons rest with ⟨piece, pieces, split, _⟩
      exact ⟨piece, pieces, split⟩
  | cons first start ih =>
      rcases List.forall_mem_cons.mp unbroken with ⟨plain, unbrokenStart⟩
      rcases ih unbrokenStart with ⟨piece, pieces, split⟩
      refine ⟨piece, pieces, ?_⟩
      rw [List.cons_append, splitlines_plain plain, split]
      rfl

/-- What stands behind a line feed is cut into pieces for itself. -/
theorem splitlines_append (line rest : List Char) :
    splitlines (line ++ '\n' :: rest) =
      splitlines (line ++ ['\n']) ++ splitlines rest := by
  induction line using splitlines.induct with
  | case1 => exact splitlines_lineFeed rest
  | case2 line ih => exact congrArg (List.cons []) ih
  | case3 first line notCrlf boundary ih =>
      by_cases crlf : first = '\r' ∧ line = []
      · -- The line feed belongs to the carriage return in front of it.
        rw [crlf.1, crlf.2]
        rfl
      · have alone : ∀ more later,
            first :: (line ++ '\n' :: more) ≠ '\r' :: '\n' :: later := by
          intro more later same
          rcases List.cons.inj same with ⟨isReturn, lineFeed⟩
          cases line with
          | nil => exact crlf ⟨isReturn, rfl⟩
          | cons second line =>
              exact notCrlf line isReturn
                (congrArg (· :: line) (List.cons.inj lineFeed).1)
        rw [List.cons_append, splitlines_boundary boundary (alone rest), ih,
          List.cons_append, splitlines_boundary boundary (alone [])]
        rfl
  | case4 first line notCrlf plain ih =>
      have plain : isLineBoundary first = false := by simpa using plain
      rcases exists_splitlines_eq_cons line with ⟨piece, pieces, split, _⟩
      rw [List.cons_append, splitlines_plain plain, ih, List.cons_append,
        splitlines_plain plain, split]
      rfl

/-- Lines ended by line feeds are cut into pieces one by one. -/
theorem splitlines_flatMap (lines : List (List Char)) :
    splitlines (lines.flatMap (· ++ ['\n'])) =
      lines.flatMap fun line => splitlines (line ++ ['\n']) := by
  induction lines with
  | nil => rfl
  | cons line lines ih =>
      rw [List.flatMap_cons, List.append_assoc, List.singleton_append,
        splitlines_append, ih, List.flatMap_cons]

/-! ## The last field -/

/-- `text.rsplit(separator, 1)[-1]`. -/
def lastField (separator : Char) (text : List Char) : List Char :=
  (text.reverse.takeWhile (· ≠ separator)).reverse

theorem lastField_append {separator : Char} {field : List Char}
    (absent : separator ∉ field) (text : List Char) :
    lastField separator (text ++ separator :: field) = field := by
  have whole : ∀ character ∈ field.reverse, decide (character ≠ separator) = true := by
    intro character member
    exact decide_eq_true fun same => absent (same ▸ List.mem_reverse.mp member)
  rw [lastField, List.reverse_append, List.reverse_cons, List.append_assoc,
    List.takeWhile_append_of_pos whole]
  simp

-- `"a\x85b\r\nc".splitlines()` and `"m 3 17".rsplit(" ", 1)[-1]`.
example : splitlines "a\u0085b\r\nc".toList = [['a'], ['b'], ['c']] ∧
    lastField ' ' "m 3 17".toList = ['1', '7'] := by decide

end DistributedInference.Python
