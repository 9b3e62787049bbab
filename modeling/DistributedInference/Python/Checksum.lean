import DistributedInference.Python.Text
import Mathlib.Logic.Function.Iterate

/-!
# Running checksums

`zlib.crc32(data, value)` goes on from the checksum of what came before.  Going on over
parts is the checksum of the whole, so a loop that feeds one payload again and again
computes the checksum of the payload repeated.
-/

namespace DistributedInference.Python

/-- The register of `crc32` behind some bytes that have the given checksum. -/
def crc32Register (value : Nat) : UInt32 :=
  UInt32.ofNat value ^^^ 0xFFFFFFFF

/-- `zlib.crc32(data, value)`. -/
def crc32From (bytes : List UInt8) (value : Nat) : Nat :=
  ((bytes.foldl crc32Byte (crc32Register value)) ^^^ 0xFFFFFFFF).toNat

theorem crc32From_zero (bytes : List UInt8) : crc32From bytes 0 = crc32 bytes := rfl

/-- The register can be restored from the checksum. -/
theorem crc32Register_toNat (register : UInt32) :
    crc32Register (register ^^^ 0xFFFFFFFF).toNat = register := by
  rw [crc32Register, UInt32.ofNat_toNat, UInt32.xor_assoc, UInt32.xor_self,
    UInt32.xor_zero]

theorem crc32From_crc32From (first second : List UInt8) (value : Nat) :
    crc32From second (crc32From first value) = crc32From (first ++ second) value := by
  rw [crc32From, crc32From, crc32Register_toNat, crc32From, List.foldl_append]

theorem crc32_append (first second : List UInt8) :
    crc32 (first ++ second) = crc32From second (crc32 first) := by
  rw [← crc32From_zero, ← crc32From_zero, crc32From_crc32From]

/-- A payload a number of times. -/
def repeated (payload : List UInt8) (count : Nat) : List UInt8 :=
  (List.replicate count payload).flatten

/-- The loop that feeds a payload again and again. -/
theorem iterate_crc32From (payload : List UInt8) (count : Nat) :
    (crc32From payload)^[count] 0 = crc32 (repeated payload count) := by
  induction count with
  | zero =>
      have nothing : crc32 [] = 0 := by decide
      exact nothing.symm
  | succ count ih =>
      rw [Function.iterate_succ_apply', ih, ← crc32_append, repeated, repeated,
        List.replicate_succ', List.flatten_append, List.flatten_singleton]

end DistributedInference.Python
