import DistributedInference.Floating.Rounding

/-!
# The text exposition format

The documents that a metrics endpoint serves: lines ended by line feeds, each a sample,
a comment or blank.  A sample is the name of a metric, its labels, a value and possibly
a timestamp.  Runs of blanks and tabs separate the tokens of a line, and may stand at
both of its ends.

What counts as a number literal is a parameter, the function that reads them, and
nothing is assumed of the addition of numbers.
-/

namespace DistributedInference.Prometheus

open Floating

universe u

/-! ## Blanks -/

def isBlank (character : Char) : Bool :=
  character ∈ [' ', '\t']

/-- A run of blanks and tabs, or nothing. -/
structure Blanks where
  characters : List Char
  valid : characters.all isBlank = true
  deriving DecidableEq

namespace Blanks

def none : Blanks := ⟨[], rfl⟩

end Blanks

/-- A run of blanks and tabs. -/
structure Gap where
  first : Char
  rest : List Char
  valid : (first :: rest).all isBlank = true
  deriving DecidableEq

namespace Gap

def characters (gap : Gap) : List Char := gap.first :: gap.rest

/-- One blank. -/
def blank : Gap := ⟨' ', [], rfl⟩

theorem first_mem (gap : Gap) : gap.first ∈ [' ', '\t'] :=
  of_decide_eq_true (List.all_eq_true.mp gap.valid gap.first List.mem_cons_self)

end Gap

/-! ## Names and numbers -/

def isNameStart (character : Char) : Bool :=
  character.isAlpha || character ∈ ['_', ':']

def isNameCharacter (character : Char) : Bool :=
  character.isAlphanum || character ∈ ['_', ':']

theorem isNameCharacter_of_isBlank {character : Char} (blank : isBlank character = true) :
    isNameCharacter character = false := by
  rcases List.mem_pair.mp (of_decide_eq_true blank) with rfl | rfl <;> rfl

/-- Neither the labels nor the blanks behind a name go on with it. -/
theorem isNameCharacter_of_follows {next : Char} (follows : next ∈ ['\x7b', ' ', '\t']) :
    isNameCharacter next = false := by
  rcases List.mem_cons.mp follows with rfl | blank
  · rfl
  · exact isNameCharacter_of_isBlank (decide_eq_true blank)

/-- A name of metrics or labels. -/
structure Name where
  first : Char
  rest : List Char
  startsName : isNameStart first = true
  valid : rest.all isNameCharacter = true
  deriving DecidableEq

namespace Name

def characters (name : Name) : List Char := name.first :: name.rest

theorem isNameCharacter_of_mem {name : Name} {character : Char}
    (member : character ∈ name.characters) : isNameCharacter character = true := by
  rcases List.mem_cons.mp member with isFirst | later
  · have starts := name.startsName
    simp only [isNameStart, Bool.or_eq_true] at starts
    simp only [isFirst, isNameCharacter, Char.isAlphanum, Bool.or_eq_true]
    exact starts.imp_left Or.inl
  · exact List.all_eq_true.mp name.valid character later

theorem ext_characters {left right : Name} (same : left.characters = right.characters) :
    left = right := by
  cases left
  cases right
  cases same
  rfl

/-- A name ends in front of the first character that no name has. -/
theorem takeWhile_characters (name : Name) {next : Char}
    (ends : isNameCharacter next = false) (rest : List Char) :
    (name.characters ++ next :: rest).takeWhile isNameCharacter = name.characters := by
  rw [List.takeWhile_append_of_pos fun _ => isNameCharacter_of_mem,
    List.takeWhile_cons_of_neg (by simp [ends]), List.append_nil]

end Name

variable {K : Type u}

/-- A literal with the number that it stands for. -/
structure Numeral (read : List Char → Option K) where
  characters : List Char
  number : K
  oneToken : ∀ character ∈ characters, character ∉ [' ', '\t', '\n']
  reads : read characters = some number

/-! ## Lines -/

/-- The text of a label value: any characters, three of them escaped. -/
def escape (value : List Char) : List Char :=
  value.flatMap fun character =>
    if character = '\x5c' then ['\x5c', '\x5c']
    else if character = '\x22' then ['\x5c', '\x22']
    else if character = '\n' then ['\x5c', 'n']
    else [character]

/-- `name="value"`, with blanks around each token. -/
structure Label where
  indent : Blanks := .none
  name : Name
  afterName : Blanks := .none
  beforeValue : Blanks := .none
  value : List Char
  trailing : Blanks := .none

def Label.text (label : Label) : List Char :=
  label.indent.characters ++ label.name.characters ++ label.afterName.characters ++
    '=' :: (label.beforeValue.characters ++
      '\x22' :: (escape label.value ++ '\x22' :: label.trailing.characters))

/-- The labels of a sample.  A comma may follow the last one. -/
structure Labels where
  indent : Blanks := .none
  entries : List Label
  lastComma : Bool := false
  needsEntry : lastComma = true → entries ≠ [] := by simp
  closing : Blanks := .none

/-- What stands behind the opening brace. -/
def Labels.inside (labels : Labels) : List Char :=
  [','].intercalate (labels.entries.map Label.text) ++
    ((if labels.lastComma then [','] else []) ++ (labels.closing.characters ++ ['\x7d']))

def Labels.text (labels : Labels) : List Char :=
  labels.indent.characters ++ '\x7b' :: labels.inside

/-- One sample of a metric. -/
structure Sample (read : List Char → Option K) where
  indent : Blanks := .none
  name : Name
  labels : Option Labels
  gap : Gap := .blank
  value : Numeral read
  timestamp : Option (Gap × ℤ) := none
  trailing : Blanks := .none

namespace Sample

variable {read : List Char → Option K}

def labelsText (sample : Sample read) : List Char :=
  match sample.labels with
  | none => []
  | some labels => labels.text

def timestampText (sample : Sample read) : List Char :=
  match sample.timestamp with
  | none => []
  | some (gap, timestamp) => gap.characters ++ (toString timestamp).toList

/-- `name[{labels}] value [timestamp]`. -/
def text (sample : Sample read) : List Char :=
  sample.indent.characters ++ (sample.name.characters ++
    (sample.labelsText ++ (sample.gap.characters ++
      (sample.value.characters ++ (sample.timestampText ++ sample.trailing.characters)))))

/-- The name of a sample is followed by its labels or by a blank. -/
theorem exists_text_eq (sample : Sample read) :
    ∃ next rest, sample.text =
        sample.indent.characters ++ (sample.name.characters ++ next :: rest) ∧
      next ∈ ['\x7b', ' ', '\t'] := by
  rw [text, labelsText]
  cases sample.labels with
  | none =>
      exact ⟨sample.gap.first, _, rfl, List.mem_cons_of_mem _ sample.gap.first_mem⟩
  | some labels =>
      simp only [Labels.text]
      cases labels.indent with
      | mk characters valid =>
          cases characters with
          | nil => exact ⟨'\x7b', _, rfl, by decide⟩
          | cons first rest =>
              have blank : first ∈ [' ', '\t'] :=
                of_decide_eq_true (List.all_eq_true.mp valid first List.mem_cons_self)
              exact ⟨first, _, rfl, List.mem_cons_of_mem _ blank⟩

/-- A sample as most exporters write it: nothing in front of the name, a brace or one
blank behind it, one blank in front of the value, and the value at the end. -/
def Plain (sample : Sample read) : Prop :=
  sample.indent = .none ∧ sample.labels.all (·.indent = .none) = true ∧
    sample.gap = .blank ∧ sample.timestamp = none ∧ sample.trailing = .none

instance (sample : Sample read) : Decidable sample.Plain :=
  inferInstanceAs (Decidable (_ ∧ _))

theorem text_of_plain {sample : Sample read} (plain : sample.Plain) :
    sample.text =
      (sample.name.characters ++ sample.labelsText) ++ ' ' :: sample.value.characters := by
  rcases plain with ⟨indent, _, gap, timestamp, trailing⟩
  rw [text, timestampText, indent, gap, timestamp, trailing, List.append_assoc]
  simp [Blanks.none, Gap.blank, Gap.characters]

/-- Behind the name of a plain sample is a brace or a blank. -/
theorem exists_text_eq_of_plain {sample : Sample read} (plain : sample.Plain) :
    ∃ next rest, sample.text = sample.name.characters ++ next :: rest ∧
      next ∈ ['\x7b', ' '] := by
  rw [text_of_plain plain, List.append_assoc, labelsText]
  cases labelled : sample.labels with
  | none => exact ⟨' ', _, rfl, by decide⟩
  | some labels =>
      have indent : labels.indent = .none := by
        have flush := plain.2.1
        rw [labelled] at flush
        exact of_decide_eq_true flush
      simp only [Labels.text, indent]
      exact ⟨'\x7b', _, rfl, by decide⟩

end Sample

/-- One line, without the line feed at its end. -/
inductive Line (read : List Char → Option K) where
  | sample (entry : Sample read)
  | comment (indent : Blanks) (text : List Char) (oneLine : '\n' ∉ text)
  | blank (text : Blanks)

variable {read : List Char → Option K}

def Line.body : Line read → List Char
  | .sample entry => entry.text
  | .comment indent text _ => indent.characters ++ '#' :: text
  | .blank text => text.characters

/-- The sample of a metric on a line. -/
def Line.sampleOf (name : Name) : Line read → Option (Sample read)
  | .sample entry => if entry.name = name then some entry else none
  | .comment _ _ _ => none
  | .blank _ => none

theorem Line.sampleOf_eq_some_iff {line : Line read} {name : Name} {entry : Sample read} :
    line.sampleOf name = some entry ↔ line = .sample entry ∧ entry.name = name := by
  cases line with
  | sample other =>
      simp only [sampleOf, Option.ite_none_right_eq_some, Option.some.injEq,
        Line.sample.injEq]
      constructor
      · intro named
        exact ⟨named.2, named.2 ▸ named.1⟩
      · intro named
        exact ⟨named.1 ▸ named.2, named.1⟩
  | comment | blank => simp [sampleOf]

/-- No name stands at the start of a line that is blank up to a character of no name. -/
theorem Blanks.takeWhile_append (blanks : Blanks) {rest : List Char}
    (unnamed : rest.takeWhile isNameCharacter = []) :
    (blanks.characters ++ rest).takeWhile isNameCharacter = [] := by
  rcases blanks with ⟨characters, valid⟩
  cases characters with
  | nil => exact unnamed
  | cons first characters =>
      have noName := isNameCharacter_of_isBlank
        (List.all_eq_true.mp valid first List.mem_cons_self)
      exact List.takeWhile_cons_of_neg (by simp [noName])

/-- A line that starts with a name that a blank or a brace follows is a sample of that
name: comments and blank lines start with no name, and a longer or shorter name ends
elsewhere. -/
theorem Line.exists_sample_of_body {line : Line read} {name : Name} {next : Char}
    {rest : List Char} (starts : line.body = name.characters ++ next :: rest)
    (ends : isNameCharacter next = false) :
    ∃ entry, line.sampleOf name = some entry := by
  simp only [sampleOf_eq_some_iff]
  have begins := congrArg (List.takeWhile isNameCharacter) starts
  rw [name.takeWhile_characters ends] at begins
  have named : name.characters ≠ [] := List.cons_ne_nil _ _
  cases line with
  | sample entry =>
      rcases entry.exists_text_eq with ⟨following, more, same, follows⟩
      have noName := isNameCharacter_of_follows follows
      rw [Line.body, same] at begins
      rcases indented : entry.indent with ⟨characters, valid⟩
      cases characters with
      | nil =>
          rw [indented, List.nil_append, entry.name.takeWhile_characters noName] at begins
          exact ⟨entry, rfl, Name.ext_characters begins⟩
      | cons first characters =>
          have blank := isNameCharacter_of_isBlank
            (List.all_eq_true.mp valid first List.mem_cons_self)
          rw [indented, List.cons_append, List.takeWhile_cons_of_neg (by simp [blank])]
            at begins
          exact absurd begins.symm named
  | comment indent text =>
      rw [Line.body, indent.takeWhile_append (List.takeWhile_cons_of_neg (by decide))]
        at begins
      exact absurd begins.symm named
  | blank text =>
      rw [Line.body, ← List.append_nil text.characters, text.takeWhile_append rfl]
        at begins
      exact absurd begins.symm named

/-! ## Documents -/

/-- The lines of a document. -/
abbrev Document (read : List Char → Option K) := List (Line read)

namespace Document

/-- The text that is served. -/
def text (document : Document read) : List Char :=
  (document.map Line.body).flatMap (· ++ ['\n'])

/-- The samples of a metric, in order. -/
def samples (document : Document read) (name : Name) : List (Sample read) :=
  document.filterMap (Line.sampleOf name)

/-- The values of a metric, in order. -/
def values (document : Document read) (name : Name) : List K :=
  (document.samples name).map fun sample => sample.value.number

/-- The values of a metric, added up in their order. -/
def total [Add K] [Zero K] (document : Document read) (name : Name) : K :=
  addUp (document.values name)

end Document

end DistributedInference.Prometheus
