/-! # UTF-8

Decoding runs over the bytes once. Between two characters nothing is owed; inside a character the
state knows how many bytes are still owed and which values the next one may have.

## Implementation notes

An ill-formed part is the longest run of bytes that could have begun a character, or one byte
that begins none. Each such part yields one `none`, so the strict and the forgiving reading share
one pass. -/

namespace MqAssembler.Text.Utf8

/-- A character under way: bytes still owed, bounds of the next byte, bits read so far. -/
structure Owed where
  remaining : Nat
  low : Nat
  high : Nat
  bits : Nat
deriving DecidableEq, Repr

/-- What the first byte of a longer character promises. -/
def lead? (b : Nat) : Option Owed :=
  if 0xC2 ≤ b ∧ b ≤ 0xDF then some ⟨1, 0x80, 0xBF, b - 0xC0⟩
  else if b = 0xE0 then some ⟨2, 0xA0, 0xBF, 0⟩
  else if b = 0xED then some ⟨2, 0x80, 0x9F, 0xD⟩
  else if 0xE1 ≤ b ∧ b ≤ 0xEF then some ⟨2, 0x80, 0xBF, b - 0xE0⟩
  else if b = 0xF0 then some ⟨3, 0x90, 0xBF, 0⟩
  else if 0xF1 ≤ b ∧ b ≤ 0xF3 then some ⟨3, 0x80, 0xBF, b - 0xF0⟩
  else if b = 0xF4 then some ⟨3, 0x80, 0x8F, 4⟩
  else none

/-- State of the pass: the pieces read so far, latest first, and the character under way. -/
structure State where
  pieces : List (Option Char)
  owed : Option Owed

/-- A byte that stands between two characters. -/
def start (pieces : List (Option Char)) (b : Nat) : State :=
  if b < 0x80 then ⟨some (Char.ofNat b) :: pieces, none⟩
  else
    match lead? b with
    | some owed => ⟨pieces, some owed⟩
    | none => ⟨none :: pieces, none⟩

/-- One byte of the pass. -/
def step (s : State) (byte : UInt8) : State :=
  let b := byte.toNat
  match s.owed with
  | none => start s.pieces b
  | some o =>
      if o.low ≤ b ∧ b ≤ o.high then
        let bits := o.bits * 64 + (b - 0x80)
        if o.remaining = 1 then ⟨some (Char.ofNat bits) :: s.pieces, none⟩
        else ⟨s.pieces, some ⟨o.remaining - 1, 0x80, 0xBF, bits⟩⟩
      else
        start (none :: s.pieces) b

/-- The characters of some bytes, with `none` for each ill-formed part. -/
def pieces (bytes : List UInt8) : List (Option Char) :=
  let s := bytes.foldl step ⟨[], none⟩
  match s.owed with
  | none => s.pieces.reverse
  | some _ => (none :: s.pieces).reverse

/-- The text of well-formed bytes. -/
def decode? (bytes : List UInt8) : Option String :=
  let ps := pieces bytes
  if ps.all Option.isSome then some (String.ofList (ps.filterMap id)) else none

/-- The text of any bytes, with the replacement character for each ill-formed part. -/
def decodeLossy (bytes : List UInt8) : String :=
  String.ofList ((pieces bytes).map (·.getD '\ufffd'))

end MqAssembler.Text.Utf8
