import MqAssembler.Yaml.Input

/-! # Block scalars

A literal or folded scalar takes the indented lines that follow its header. The header may fix the
indentation and says what happens to the line breaks at the end. -/

namespace MqAssembler.Yaml.Block

/-- What happens to the line breaks at the end. -/
inductive Chomping where
  /-- Drop all of them. -/
  | strip
  /-- Keep one. -/
  | clip
  /-- Keep all of them. -/
  | keep
deriving DecidableEq, Repr

/-- The first line of a block scalar. -/
structure Header where
  chomping : Chomping
  /-- Indentation against the surrounding block, if it is given. -/
  increment : Option Nat

/-- The chomping indicator at the start of some characters. -/
def chompingOf? : List Char → Option Chomping
  | '+' :: _ => some .keep
  | '-' :: _ => some .strip
  | _ => none

/-- The indentation digit at the start of some characters. -/
def incrementOf? : List Char → Option Nat
  | c :: _ => if c.isDigit then some (c.toNat - '0'.toNat) else none
  | [] => none

/-- Reads the indicators of a header in either order. An indentation of zero is refused. -/
def readHeader (i : Input) : Option (Header × Input) := do
  let (header, i) :=
    match chompingOf? i.rest with
    | some chomping =>
        let i := i.skip 1
        match incrementOf? i.rest with
        | some n => (Header.mk chomping (some n), i.skip 1)
        | none => (Header.mk chomping none, i)
    | none =>
        match incrementOf? i.rest with
        | some n =>
            let i := i.skip 1
            match chompingOf? i.rest with
            | some chomping => (Header.mk chomping (some n), i.skip 1)
            | none => (Header.mk .clip (some n), i)
        | none => (Header.mk .clip none, i)
  if header.increment == some 0 then none
  else return (header, ← i.skipLineEnd?)

/-- A block scalar under way. All lists are held backwards. -/
structure State where
  text : List Char := []
  /-- The break that ended the last line of content. -/
  lastBreak : Option Char := none
  /-- Breaks of the empty lines since then. -/
  emptyLines : List Char := []
  /-- Whether the last line of content began with a blank. -/
  afterBlank : Bool := false
  /-- The indentation, once it is known. -/
  indent : Option Nat := none
  /-- The deepest indentation seen while it is not known. -/
  deepest : Nat := 0
  /-- Whether the current line is content. -/
  inContent : Bool := false

namespace State

/-- Joins a new line of content, which begins with `c`, to the text. A single break between two
lines that do not begin with a blank is folded, unless the scalar is literal. -/
def startLine (literal : Bool) (s : State) (c : Char) : State :=
  let text :=
    if !literal && s.lastBreak == some '\n' && !s.afterBlank && !isBlank c then
      if s.emptyLines.isEmpty then ' ' :: s.text else s.emptyLines ++ s.text
    else s.emptyLines ++ (s.lastBreak.toList ++ s.text)
  { s with text := c :: text, lastBreak := none, emptyLines := [], afterBlank := isBlank c,
           inContent := true }

/-- The indentation, fixed now if it is not known: that of the deepest line so far, and at least
`least`. -/
def fixIndent (least : Nat) (s : State) : Nat :=
  s.indent.getD (max s.deepest least)

/-- The finished text. -/
def finish (chomping : Chomping) (s : State) : String :=
  let text :=
    match chomping with
    | .strip => s.text
    | .clip => s.lastBreak.toList ++ s.text
    | .keep => s.emptyLines ++ (s.lastBreak.toList ++ s.text)
  String.ofList text.reverse

end State

/-- Records a break. -/
def State.endLine (s : State) (c : Char) : State :=
  if s.inContent then { s with lastBreak := some c, inContent := false }
  else { s with emptyLines := c :: s.emptyLines }

/-- Whether a column is left of the content, as far as that is known. -/
def State.isLeft (s : State) (column : Nat) : Bool :=
  match s.indent with
  | none => true
  | some n => column < n

/-- Reads on from a place within a block scalar. -/
def readFrom (literal : Bool) (least : Nat) (s : State) (pos : Position) :
    List Char → Option (State × Input)
  | [] => some (s, ⟨pos, []⟩)
  | '\r' :: '\n' :: rest => readFrom literal least (s.endLine '\n') (pos.nextLine 2) rest
  | c :: rest =>
      if isBreak c then readFrom literal least (s.endLine (foldBreak c)) (pos.nextLine 1) rest
      else if s.inContent then
        readFrom literal least { s with text := c :: s.text } (pos.advance 1) rest
      else if s.isLeft pos.column && c == ' ' then
        readFrom literal least { s with deepest := max s.deepest (pos.column + 1) }
          (pos.advance 1) rest
      else if s.isLeft pos.column && c == '\t' then none
      else
        let indent := s.fixIndent least
        if pos.column == indent then
          readFrom literal least ({ s with indent := some indent }.startLine literal c)
            (pos.advance 1) rest
        else some (s, ⟨pos, c :: rest⟩)

/-- Reads a block scalar behind its indicator. `outer` is the indentation of the surrounding
block. -/
def read (literal : Bool) (outer : Int) (i : Input) : Option (String × Input) := do
  let (header, i) ← readHeader i
  let base := outer.toNat
  let least := max (outer + 1).toNat 1
  let start : State := { indent := header.increment.map fun n => base + n }
  let (s, next) ← readFrom literal least start i.position i.rest
  return (s.finish header.chomping, next)

end MqAssembler.Yaml.Block
