/-! # Numbers, padding and lines

How numbers are written, how short texts are padded, and how lines make up a printed text. -/

namespace MqAssembler.Text

/-- A text padded on the right with blanks to `width` characters. -/
def padRight (width : Nat) (s : String) : String :=
  s ++ String.ofList (List.replicate (width - s.length) ' ')

/-- A text padded on the left to `width` characters. -/
def padLeft (width : Nat) (fill : Char) (s : String) : String :=
  String.ofList (List.replicate (width - s.length) fill) ++ s

/-- A number in decimal digits. -/
def decimal (n : Nat) : String :=
  String.ofList (Nat.toDigits 10 n)

/-- A number in at least `width` upper-case hexadecimal digits. -/
def hex (width : Nat) (n : Nat) : String :=
  padLeft width '0' (String.ofList ((Nat.toDigits 16 n).map Char.toUpper))

/-- The text of printed lines, each ended by a line feed. -/
def printed (lines : List String) : String :=
  String.join (lines.map (· ++ "\n"))

/-- Characters of one line, without one carriage return that stands before its line feed.
The argument holds the line backwards. -/
def endLine : List Char → String
  | '\r' :: rest => String.ofList rest.reverse
  | cs => String.ofList cs.reverse

/-- Splits at line feeds; `line` holds the current line backwards, `done` the finished lines,
latest first. -/
def splitLines (line : List Char) (done : List String) : List Char → List String
  | [] => (if line.isEmpty then done else String.ofList line.reverse :: done).reverse
  | '\n' :: rest => splitLines [] (endLine line :: done) rest
  | c :: rest => splitLines (c :: line) done rest

/-- The lines of a text. A final line feed adds no line, and a carriage return is dropped only in
front of a line feed. -/
def lines (s : String) : List String :=
  splitLines [] [] s.toList

end MqAssembler.Text
