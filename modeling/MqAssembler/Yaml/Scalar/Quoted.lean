import MqAssembler.Yaml.Scalar.Folding

/-! # Quoted scalars

Between single quotes only a doubled quote is special. Between double quotes a backslash starts an
escape sequence or joins two lines. -/

namespace MqAssembler.Yaml.Quoted

/-- The character of a one-letter escape. -/
def shortEscape? (c : Char) : Option Char :=
  match c with
  | '0' => some '\x00'
  | 'a' => some '\x07'
  | 'b' => some '\x08'
  | 't' => some '\t'
  | '\t' => some '\t'
  | 'n' => some '\n'
  | 'v' => some '\x0b'
  | 'f' => some '\x0c'
  | 'r' => some '\r'
  | 'e' => some '\x1b'
  | ' ' => some ' '
  | '"' => some '"'
  | '/' => some '/'
  | '\\' => some '\\'
  | 'N' => some '\u0085'
  | '_' => some '\u00a0'
  | 'L' => some '\u2028'
  | 'P' => some '\u2029'
  | _ => none

/-- The value of a hexadecimal digit. -/
def hexDigit? (c : Char) : Option Nat :=
  if '0' ≤ c ∧ c ≤ '9' then some (c.toNat - '0'.toNat)
  else if 'a' ≤ c ∧ c ≤ 'f' then some (c.toNat - 'a'.toNat + 10)
  else if 'A' ≤ c ∧ c ≤ 'F' then some (c.toNat - 'A'.toNat + 10)
  else none

/-- The character whose code point is written in hexadecimal digits. -/
def hexChar? (digits : List Char) : Option Char := do
  let values ← digits.mapM hexDigit?
  let n := values.foldl (fun n d => 16 * n + d) 0
  if n.isValidChar then some (Char.ofNat n) else none

/-- Reads on from a place between single quotes. -/
def readSingleFrom (f : Folding) (pos : Position) : List Char → Option (String × Input)
  | [] => none
  | '\r' :: '\n' :: rest => readSingleFrom (f.pushBreak '\n') (pos.nextLine 2) rest
  | '\'' :: '\'' :: rest => readSingleFrom (f.push '\'') (pos.advance 2) rest
  | c :: rest =>
      if isBreak c then readSingleFrom (f.pushBreak (foldBreak c)) (pos.nextLine 1) rest
      else if isBlank c then readSingleFrom (f.pushBlank c) (pos.advance 1) rest
      else if pos.column == 0 && startsWithMarker (c :: rest) then none
      else if c == '\'' then some (f.settle.toString, ⟨pos.advance 1, rest⟩)
      else readSingleFrom (f.push c) (pos.advance 1) rest

/-- Reads on from a place between double quotes. -/
def readDoubleFrom (f : Folding) (pos : Position) : List Char → Option (String × Input)
  | [] => none
  | '\r' :: '\n' :: rest => readDoubleFrom (f.pushBreak '\n') (pos.nextLine 2) rest
  | '\\' :: '\r' :: '\n' :: rest =>
      readDoubleFrom f.escapeBreak ((pos.advance 1).nextLine 2) rest
  | '\\' :: 'x' :: a :: b :: rest =>
      match hexChar? [a, b] with
      | some d => readDoubleFrom (f.push d) (pos.advance 4) rest
      | none => none
  | '\\' :: 'u' :: a :: b :: c :: d :: rest =>
      match hexChar? [a, b, c, d] with
      | some e => readDoubleFrom (f.push e) (pos.advance 6) rest
      | none => none
  | '\\' :: 'U' :: a :: b :: c :: d :: e :: g :: h :: k :: rest =>
      match hexChar? [a, b, c, d, e, g, h, k] with
      | some l => readDoubleFrom (f.push l) (pos.advance 10) rest
      | none => none
  | '\\' :: c :: rest =>
      if isBreak c then readDoubleFrom f.escapeBreak ((pos.advance 1).nextLine 1) rest
      else
        match shortEscape? c with
        | some d => readDoubleFrom (f.push d) (pos.advance 2) rest
        | none => none
  | c :: rest =>
      if isBreak c then readDoubleFrom (f.pushBreak (foldBreak c)) (pos.nextLine 1) rest
      else if isBlank c then readDoubleFrom (f.pushBlank c) (pos.advance 1) rest
      else if pos.column == 0 && startsWithMarker (c :: rest) then none
      else if c == '"' then some (f.settle.toString, ⟨pos.advance 1, rest⟩)
      else readDoubleFrom (f.push c) (pos.advance 1) rest

/-- Reads a scalar whose opening quote has been read. -/
def read (double : Bool) (i : Input) : Option (String × Input) :=
  if double then readDoubleFrom {} i.position i.rest else readSingleFrom {} i.position i.rest

end MqAssembler.Yaml.Quoted
