import Mathlib.Data.List.Basic

/-!
# Python strings and checksums

The parts of the Python runtime that turn an identifier into a number.  A Python
string is any sequence of code points, lone surrogates included, so encoding it
can fail; a Lean `String` is a sequence of Unicode scalar values and always
encodes.  `crc32` is the checksum of `zlib`, computed bit by bit.
-/

namespace DistributedInference.Python

/-- A Unicode code point, possibly a surrogate. -/
abbrev CodePoint := Fin 0x110000

/-- A Python `str`. -/
structure PyString where
  codePoints : List CodePoint
  deriving DecidableEq, Repr

/-- The UTF-8 bytes of a string without lone surrogates. -/
def utf8 (text : String) : List UInt8 :=
  text.toList.flatMap String.utf8EncodeChar

/-- The UTF-8 bytes of one code point; a surrogate has none. -/
def encodeCodePoint (codePoint : CodePoint) : Option (List UInt8) :=
  if valid : codePoint.val.isValidChar then
    some (String.utf8EncodeChar (Char.ofNatAux codePoint.val valid))
  else none

/-- The code point of a character. -/
def codePointOf (character : Char) : CodePoint :=
  ⟨character.toNat, by
    have valid := character.valid
    simp only [Char.toNat, UInt32.isValidChar, Nat.isValidChar] at valid ⊢
    omega⟩

theorem encodeCodePoint_codePointOf (character : Char) :
    encodeCodePoint (codePointOf character) =
      some (String.utf8EncodeChar character) := by
  have valid : (codePointOf character).val.isValidChar := character.valid
  rw [encodeCodePoint, dif_pos valid]
  rfl

/-- The code points U+D800 to U+DFFF, which UTF-8 does not encode. -/
def IsSurrogate (codePoint : CodePoint) : Prop :=
  0xD800 ≤ codePoint.val ∧ codePoint.val ≤ 0xDFFF

instance (codePoint : CodePoint) : Decidable (IsSurrogate codePoint) :=
  inferInstanceAs (Decidable (_ ∧ _))

theorem isSome_encodeCodePoint_iff {codePoint : CodePoint} :
    (encodeCodePoint codePoint).isSome ↔ ¬ IsSurrogate codePoint := by
  have bound := codePoint.isLt
  have valid : codePoint.val.isValidChar ↔ ¬ IsSurrogate codePoint := by
    simp only [Nat.isValidChar, IsSurrogate]
    omega
  rw [← valid]
  constructor
  · intro encodes
    by_contra surrogate
    rw [encodeCodePoint, dif_neg surrogate] at encodes
    cases encodes
  · intro encodes
    rw [encodeCodePoint, dif_pos encodes]
    rfl

namespace PyString

/-- The Python string with the characters of a Lean string. -/
def ofString (text : String) : PyString :=
  ⟨text.toList.map codePointOf⟩

/-- `text.encode("utf-8")`; `none` is a `UnicodeEncodeError`. -/
def encode (text : PyString) : Option (List UInt8) :=
  (text.codePoints.mapM encodeCodePoint).map List.flatten

theorem mapM_encodeCodePoint (characters : List Char) :
    (characters.map codePointOf).mapM encodeCodePoint =
      some (characters.map String.utf8EncodeChar) := by
  induction characters with
  | nil => rfl
  | cons character rest ih =>
      simp [List.mapM_cons, encodeCodePoint_codePointOf, ih]

/-- A string without lone surrogates always encodes. -/
@[simp] theorem encode_ofString (text : String) :
    (ofString text).encode = some (utf8 text) := by
  simp only [encode, ofString, mapM_encodeCodePoint, Option.map_some, utf8,
    List.flatMap_def]

theorem isSome_mapM_encodeCodePoint_iff {codePoints : List CodePoint} :
    (codePoints.mapM encodeCodePoint).isSome ↔
      ∀ codePoint ∈ codePoints, ¬ IsSurrogate codePoint := by
  induction codePoints with
  | nil => simp
  | cons codePoint rest ih =>
      rw [List.forall_mem_cons, ← isSome_encodeCodePoint_iff, ← ih, List.mapM_cons]
      cases encodeCodePoint codePoint with
      | none => simp
      | some bytes => cases rest.mapM encodeCodePoint <;> simp

/-- A string encodes exactly if it has no lone surrogate. -/
theorem isSome_encode_iff {text : PyString} :
    text.encode.isSome ↔ ∀ codePoint ∈ text.codePoints, ¬ IsSurrogate codePoint := by
  rw [encode, Option.isSome_map, isSome_mapM_encodeCodePoint_iff]

end PyString

/-! ## CRC-32 -/

/-- One bit of the reflected CRC-32 with polynomial `0xEDB88320`. -/
def crc32Bit (crc : UInt32) : UInt32 :=
  if crc &&& 1 = 1 then (crc >>> 1) ^^^ 0xEDB88320 else crc >>> 1

def crc32Byte (crc : UInt32) (byte : UInt8) : UInt32 :=
  Nat.repeat crc32Bit 8 (crc ^^^ byte.toUInt32)

/-- `zlib.crc32`. -/
def crc32 (bytes : List UInt8) : Nat :=
  ((bytes.foldl crc32Byte 0xFFFFFFFF) ^^^ 0xFFFFFFFF).toNat

-- The check value of the CRC-32 standard.
example : crc32 (utf8 "123456789") = 0xCBF43926 := by decide +kernel

end DistributedInference.Python
