/-! # Little-endian numbers

Numbers of a fixed width as bytes, lowest byte first. -/

namespace MqAssembler.LittleEndian

/-- The lowest `width` bytes of a number. -/
def encode : Nat → Nat → List UInt8
  | 0, _ => []
  | width + 1, n => UInt8.ofNat n :: encode width (n / 256)

/-- The number that some bytes make up. -/
def decode : List UInt8 → Nat
  | [] => 0
  | b :: rest => b.toNat + 256 * decode rest

/-- How many numbers have a given width. -/
def capacity : Nat → Nat
  | 0 => 1
  | width + 1 => 256 * capacity width

@[simp] theorem length_encode (width n : Nat) : (encode width n).length = width := by
  induction width generalizing n with
  | zero => rfl
  | succ width ih => simp [encode, ih]

theorem decode_encode (width n : Nat) : decode (encode width n) = n % capacity width := by
  induction width generalizing n with
  | zero => simp [encode, decode, capacity, Nat.mod_one]
  | succ width ih =>
      simp only [encode, decode, ih, capacity, UInt8.toNat_ofNat', Nat.reducePow]
      rw [Nat.mod_mul]

theorem decode_lt (bytes : List UInt8) : decode bytes < capacity bytes.length := by
  induction bytes with
  | nil => simp [decode, capacity]
  | cons b rest ih =>
      have hb : b.toNat < 256 := b.toNat_lt
      simp only [decode, List.length_cons, capacity]
      omega

theorem encode_decode (bytes : List UInt8) : encode bytes.length (decode bytes) = bytes := by
  induction bytes with
  | nil => rfl
  | cons b rest ih =>
      have hb : b.toNat < 256 := b.toNat_lt
      have hdiv : (b.toNat + 256 * decode rest) / 256 = decode rest := by omega
      have hmod : UInt8.ofNat (b.toNat + 256 * decode rest) = b := by
        apply UInt8.toNat_inj.1
        simp only [UInt8.toNat_ofNat', Nat.reducePow]
        omega
      simp only [List.length_cons, encode, decode, hdiv, hmod, ih]

end MqAssembler.LittleEndian
