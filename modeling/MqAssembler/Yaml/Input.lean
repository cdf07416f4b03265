/-! # Positions and character kinds of a YAML text

The kinds of characters that steer the reading of a YAML text, and the text still to be read
together with its place. Lines and columns count characters from zero. -/

namespace MqAssembler.Yaml

/-- A place in a text. -/
structure Position where
  index : Nat := 0
  line : Nat := 0
  column : Nat := 0
deriving DecidableEq, Repr, Inhabited

namespace Position

/-- The place some characters further on the same line. -/
def advance (p : Position) (count : Nat) : Position :=
  ⟨p.index + count, p.line, p.column + count⟩

/-- The start of the next line, behind a line break of `width` characters. -/
def nextLine (p : Position) (width : Nat) : Position :=
  ⟨p.index + width, p.line + 1, 0⟩

end Position

/-- A blank within a line. -/
def isBlank (c : Char) : Bool := c == ' ' || c == '\t'

/-- A character that ends a line. -/
def isBreak (c : Char) : Bool :=
  c == '\n' || c == '\r' || c == '\u0085' || c == '\u2028' || c == '\u2029'

/-- A line break as part of a scalar. The line and paragraph separators stay what they are. -/
def foldBreak (c : Char) : Char :=
  if c == '\u2028' || c == '\u2029' then c else '\n'

/-- Whether a word ends here: at a blank, a line break or the end of the text. -/
def atWordEnd : List Char → Bool
  | [] => true
  | c :: _ => isBlank c || isBreak c

/-- Brackets and commas of flow collections. -/
def isFlowIndicator (c : Char) : Bool :=
  c == ',' || c == '[' || c == ']' || c == '\x7b' || c == '\x7d'

/-- Characters of anchor and directive names. -/
def isNameChar (c : Char) : Bool :=
  c.isAlphanum || c == '-' || c == '_'

/-- Whether a text begins with a document marker, `---` or `...`, as a word of its own. -/
def startsWithMarker : List Char → Bool
  | '-' :: '-' :: '-' :: rest => atWordEnd rest
  | '.' :: '.' :: '.' :: rest => atWordEnd rest
  | _ => false

/-- Characters that a YAML text may hold. -/
def isAllowed (c : Char) : Bool :=
  let n := c.toNat
  n == 0x9 || n == 0xA || n == 0xD || (0x20 ≤ n && n ≤ 0x7E) || n == 0x85 ||
    (0xA0 ≤ n && n ≤ 0xD7FF) || (0xE000 ≤ n && n ≤ 0xFFFD) || 0x10000 ≤ n

/-- The text still to be read, and its place. -/
structure Input where
  position : Position
  rest : List Char

namespace Input

/-- Skips some characters of the current line. -/
def skip (i : Input) (count : Nat) : Input :=
  ⟨i.position.advance count, i.rest.drop count⟩

/-- The longest run of characters with a property, and what follows it. The property must fail on
line breaks. -/
def span (p : Char → Bool) (i : Input) : List Char × Input :=
  let taken := i.rest.takeWhile p
  (taken, i.skip taken.length)

/-- Skips one line break, if the text begins with one. -/
def skipBreak (i : Input) : Input :=
  match i.rest with
  | '\r' :: '\n' :: rest => ⟨i.position.nextLine 2, rest⟩
  | c :: rest => if isBreak c then ⟨i.position.nextLine 1, rest⟩ else i
  | [] => i

/-- Skips blanks and a comment up to the end of the line, if nothing else stands there. -/
def skipLineEnd? (i : Input) : Option Input :=
  let i := (i.span isBlank).2
  let i := if i.rest.head? == some '#' then (i.span fun c => !isBreak c).2 else i
  match i.rest with
  | [] => some i
  | c :: _ => if isBreak c then some i.skipBreak else none

end Input

end MqAssembler.Yaml
