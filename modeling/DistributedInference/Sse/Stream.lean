import Mathlib.Data.List.Basic

/-!
# Server-sent events

How a client reads an event stream: the stream is cut into lines, each line is a field
of the event in progress, and an empty line dispatches that event.
-/

namespace DistributedInference.Sse

/-! ## Lines -/

/-- The lines of a stream, which end at a line feed, a carriage return or the two in
that order.  What follows the last line end is not a line. -/
def lines : List Char → List (List Char)
  | [] => []
  | '\r' :: '\n' :: rest => [] :: lines rest
  | '\r' :: rest => [] :: lines rest
  | '\n' :: rest => [] :: lines rest
  | first :: rest =>
      match lines rest with
      | [] => []
      | line :: others => (first :: line) :: others

/-- A text within one line. -/
def Unbroken (text : List Char) : Prop :=
  ∀ character ∈ text, character ≠ '\r' ∧ character ≠ '\n'

instance (text : List Char) : Decidable (Unbroken text) :=
  List.decidableBAll _ text

theorem lines_cons {first : Char} (unbroken : first ≠ '\r' ∧ first ≠ '\n')
    {rest line : List Char} {others : List (List Char)}
    (linesRest : lines rest = line :: others) :
    lines (first :: rest) = (first :: line) :: others := by
  rw [lines.eq_def]
  split
  case h_1 empty => cases empty
  case h_2 broken | h_3 broken =>
    cases broken
    exact absurd rfl unbroken.1
  case h_4 broken =>
    cases broken
    exact absurd rfl unbroken.2
  case h_5 same =>
    cases same
    rw [linesRest]

theorem lines_append {line : List Char} (unbroken : Unbroken line)
    (rest : List Char) : lines (line ++ '\n' :: rest) = line :: lines rest := by
  induction line with
  | nil => rfl
  | cons first line ih =>
      obtain ⟨unbrokenFirst, unbrokenLine⟩ := List.forall_mem_cons.mp unbroken
      exact lines_cons unbrokenFirst (ih unbrokenLine)

/-! ## Fields -/

structure Event where
  type : List Char
  dataLines : List (List Char)
  lastEventId : List Char
  deriving DecidableEq

/-- What the fields since the last dispatch have set. -/
structure Buffers where
  type : List Char
  dataLines : List (List Char)
  lastEventId : List Char
  deriving DecidableEq

def Buffers.empty : Buffers where
  type := []
  dataLines := []
  lastEventId := []

/-- Fields of other names are ignored; `retry` says nothing about an event. -/
def Buffers.field (buffers : Buffers) (name value : List Char) : Buffers :=
  if name = ['d', 'a', 't', 'a'] then
    { buffers with dataLines := buffers.dataLines ++ [value] }
  else if name = ['e', 'v', 'e', 'n', 't'] then { buffers with type := value }
  else if name = ['i', 'd'] ∧ '\x00' ∉ value then { buffers with lastEventId := value }
  else buffers

/-- A line that is not empty.  The value of a field starts behind the first colon, or
behind the space that follows it. -/
def Buffers.line (buffers : Buffers) (line : List Char) : Buffers :=
  match line.takeWhile (· ≠ ':'), line.dropWhile (· ≠ ':') with
  | [], ':' :: _ => buffers
  | name, ':' :: ' ' :: value => buffers.field name value
  | name, ':' :: value => buffers.field name value
  | name, _ => buffers.field name []

/-- The event that an empty line dispatches: none without data. -/
def Buffers.dispatched (buffers : Buffers) : List Event :=
  if buffers.dataLines = [] then []
  else
    [{ type :=
        if buffers.type = [] then ['m', 'e', 's', 's', 'a', 'g', 'e'] else buffers.type
       dataLines := buffers.dataLines
       lastEventId := buffers.lastEventId }]

def Buffers.cleared (buffers : Buffers) : Buffers :=
  { buffers with type := [], dataLines := [] }

/-! ## The stream -/

/-- The events of the lines.  An event that no empty line ends is dropped. -/
def events (buffers : Buffers) : List (List Char) → List Event
  | [] => []
  | [] :: rest => buffers.dispatched ++ events buffers.cleared rest
  | line :: rest => events (buffers.line line) rest

/-- The events of a stream, which may start with a byte order mark. -/
def parse (stream : List Char) : List Event :=
  match stream with
  | '\ufeff' :: rest => events Buffers.empty (lines rest)
  | stream => events Buffers.empty (lines stream)

/-- A packet with one line of data. -/
def packet (data : List Char) : List Char :=
  'd' :: 'a' :: 't' :: 'a' :: ':' :: ' ' :: (data ++ ['\n', '\n'])

/-- A message with one line of data. -/
def message (data : List Char) : Event where
  type := ['m', 'e', 's', 's', 'a', 'g', 'e']
  dataLines := [data]
  lastEventId := []

theorem lines_packet {data : List Char} (unbroken : Unbroken data) (rest : List Char) :
    lines (packet data ++ rest) =
      ('d' :: 'a' :: 't' :: 'a' :: ':' :: ' ' :: data) :: [] :: lines rest := by
  have unbrokenLine : Unbroken ('d' :: 'a' :: 't' :: 'a' :: ':' :: ' ' :: data) := by
    have prefixed : Unbroken ['d', 'a', 't', 'a', ':', ' '] := by decide
    exact List.forall_mem_append.mpr ⟨prefixed, unbroken⟩
  have firstLine := lines_append unbrokenLine ('\n' :: rest)
  simp only [packet, List.cons_append, List.append_assoc,
    List.nil_append] at firstLine ⊢
  rw [firstLine]
  rfl

theorem events_packet {data : List Char} (unbroken : Unbroken data)
    (rest : List Char) :
    events Buffers.empty (lines (packet data ++ rest)) =
      message data :: events Buffers.empty (lines rest) := by
  rw [lines_packet unbroken]
  rfl

/-- A stream of packets is read as one message for each. -/
theorem parse_packets {payloads : List (List Char)}
    (unbroken : ∀ data ∈ payloads, Unbroken data) :
    parse (payloads.flatMap packet) = payloads.map message := by
  have noMark : parse (payloads.flatMap packet) =
      events Buffers.empty (lines (payloads.flatMap packet)) := by
    cases payloads with
    | nil => rfl
    | cons data rest => rfl
  rw [noMark]
  clear noMark
  induction payloads with
  | nil => rfl
  | cons data rest ih =>
      obtain ⟨unbrokenData, unbrokenRest⟩ := List.forall_mem_cons.mp unbroken
      rw [List.flatMap_cons, events_packet unbrokenData, ih unbrokenRest, List.map_cons]

/-- A comment, a field without a value, and an event that nothing ends. -/
example : parse ":c\r\nevent: x\rdata:b\ndata\n\ndata: lost\n".toList =
    [{ type := ['x'], dataLines := [['b'], []], lastEventId := [] }] := by
  decide +kernel

end DistributedInference.Sse
