/-!
# Words on the wire

Unsigned numbers of a fixed number of bytes, the most significant byte first.
A number that does not fit is reduced modulo the range.  `decode_encode` says
that reading undoes writing and `encode_decode` the reverse.
-/

namespace ReliableDatagram

namespace Word

/-- The number in `width` bytes. -/
def encode : (width : Nat) → (value : Nat) → List UInt8
  | 0, _ => []
  | width + 1, value => encode width (value / 256) ++ [UInt8.ofNat value]

/-- The number that the bytes spell. -/
def decode (bytes : List UInt8) : Nat :=
  bytes.foldl (fun value byte => value * 256 + byte.toNat) 0

/-- How many numbers `width` bytes can spell. -/
def range : (width : Nat) → Nat
  | 0 => 1
  | width + 1 => 256 * range width

/-- The number in the first `width` bytes, and the bytes after them. -/
def split (width : Nat) (bytes : List UInt8) : Nat × List UInt8 :=
  (decode (bytes.take width), bytes.drop width)

@[simp] theorem length_encode (width value : Nat) : (encode width value).length = width := by
  induction width generalizing value with
  | zero => rfl
  | succ width ih => simp [encode, ih]

@[simp] theorem decode_concat (bytes : List UInt8) (byte : UInt8) :
    decode (bytes ++ [byte]) = decode bytes * 256 + byte.toNat := by
  simp [decode]

/-- Reading a written number gives it back, reduced to the range. -/
theorem decode_encode (width value : Nat) :
    decode (encode width value) = value % range width := by
  induction width generalizing value with
  | zero => simp [encode, decode, range, Nat.mod_one]
  | succ width ih =>
      have split : value % (256 * range width) =
          value % 256 + 256 * (value / 256 % range width) := Nat.mod_mul
      simp only [encode, decode_concat, ih, range, UInt8.toNat_ofNat']
      omega

/-- Writing a number that was read gives the bytes back. -/
theorem encode_decode (bytes : List UInt8) : encode bytes.length (decode bytes) = bytes := by
  generalize counted : bytes.length = width
  induction width generalizing bytes with
  | zero => simp [List.length_eq_zero_iff.mp counted, encode]
  | succ width ih =>
      have nonempty : bytes ≠ [] := by
        rintro rfl
        simp at counted
      have parts := List.dropLast_concat_getLast nonempty
      have front := ih bytes.dropLast (by simp [counted])
      have lastLt := (bytes.getLast nonempty).toNat_lt
      rw [← parts, decode_concat, encode]
      have quotient : (decode bytes.dropLast * 256 + (bytes.getLast nonempty).toNat) / 256 =
          decode bytes.dropLast := by omega
      rw [quotient, front]
      congr 2
      apply UInt8.toNat_inj.mp
      simp only [UInt8.toNat_ofNat']
      omega

end Word

end ReliableDatagram
