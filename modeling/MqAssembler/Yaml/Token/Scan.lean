import MqAssembler.Yaml.Scalar.Block
import MqAssembler.Yaml.Scalar.Plain
import MqAssembler.Yaml.Scalar.Quoted
import MqAssembler.Yaml.Token

/-! # From text to tokens

A key of a block mapping is only known as such when its value indicator comes. Until then the
place of a possible key is kept for each nesting level, and the key and mapping tokens are put in
behind its back.

## Implementation notes

A possible key must stay on one line and within 1024 characters. Where the indentation demands a
key, its failure to become one makes the whole text malformed. Every function answers `none` for a
malformed text; the causes are not told apart. -/

namespace MqAssembler.Yaml

/-- A place where a key may have begun. -/
structure PossibleKey where
  /-- How many tokens were there before it. -/
  number : Nat
  position : Position
  /-- Whether the indentation demands a key here. -/
  required : Bool

/-- The state between two tokens. -/
structure Scan where
  input : Input
  /-- The tokens so far, latest first. -/
  tokens : List Token := []
  /-- How many tokens there are so far. -/
  count : Nat := 0
  /-- The column of the innermost block collection, or `-1` outside of all. -/
  indent : Int := -1
  /-- The columns of the block collections around it. -/
  outerIndents : List Int := []
  /-- Whether a key may begin here. -/
  keyAllowed : Bool := true
  /-- The possible key of the block context. -/
  blockKey : Option PossibleKey := none
  /-- The possible key of each flow collection around this place, innermost first. -/
  flowKeys : List (Option PossibleKey) := []

namespace Scan

/-- The place of the next character. -/
def position (s : Scan) : Position := s.input.position

/-- Whether this place is inside a flow collection. -/
def inFlow (s : Scan) : Bool := !s.flowKeys.isEmpty

/-- The possible key of the current level. -/
def key? (s : Scan) : Option PossibleKey :=
  match s.flowKeys with
  | [] => s.blockKey
  | k :: _ => k

/-- Changes the possible key of the current level. -/
def setKey (s : Scan) (k : Option PossibleKey) : Scan :=
  match s.flowKeys with
  | [] => { s with blockKey := k }
  | _ :: outer => { s with flowKeys := k :: outer }

/-- Adds a token at the end. -/
def push (s : Scan) (kind : TokenKind) (start stop : Position) : Scan :=
  { s with tokens := ⟨kind, start, stop⟩ :: s.tokens, count := s.count + 1 }

/-- Adds a token behind the first `number` ones. -/
def insert (s : Scan) (number : Nat) (kind : TokenKind) (place : Position) : Scan :=
  let later := s.count - number
  { s with
    tokens := s.tokens.take later ++ ⟨kind, place, place⟩ :: s.tokens.drop later
    count := s.count + 1 }

/-- Whether a possible key can no longer become one. -/
def isStale (s : Scan) (k : PossibleKey) : Bool :=
  k.position.line < s.position.line || k.position.index + 1024 < s.position.index

/-- Gives up the possible key of the current level. -/
def dropKey (s : Scan) : Option Scan :=
  match s.key? with
  | some k => if k.required then none else some (s.setKey none)
  | none => some s

/-- Notes that a key may begin here. -/
def noteKey (s : Scan) : Option Scan := do
  if s.keyAllowed then
    let required := !s.inFlow && s.indent == (s.position.column : Int)
    let s ← s.dropKey
    return s.setKey (some ⟨s.count, s.position, required⟩)
  else
    return s

/-- Fails if a key that the indentation demands has become impossible. Such a key stands in block
context. -/
def checkKey (s : Scan) : Option Scan :=
  match s.blockKey with
  | some k => if k.required && s.isStale k then none else some s
  | none => some s

/-- Opens a block collection at a column, if it is deeper than the current one. Its token goes
behind the first `number` ones. -/
def openBlock (s : Scan) (column number : Nat) (kind : TokenKind) (place : Position) : Scan :=
  if !s.inFlow && s.indent < (column : Int) then
    { s with indent := column, outerIndents := s.indent :: s.outerIndents }.insert number kind place
  else s

/-- Closes block collections that are deeper than a column, given those around the innermost. -/
def closeBlocksFrom (column : Int) (s : Scan) : List Int → Scan
  | [] => s
  | outer :: rest =>
      if column < s.indent then
        closeBlocksFrom column
          ({ s with indent := outer, outerIndents := rest }.push .blockEnd s.position s.position)
          rest
      else s

/-- Closes the block collections that are deeper than a column. -/
def closeBlocks (s : Scan) (column : Int) : Scan :=
  if s.inFlow then s else closeBlocksFrom column s s.outerIndents

/-- Skips blanks, comments and line breaks in front of a token, and tells whether a key may begin
behind them. Tabs count as blanks only where no key may begin. -/
def skipBetween (inFlow keyAllowed inComment : Bool) (pos : Position) :
    List Char → Input × Bool
  | [] => (⟨pos, []⟩, keyAllowed)
  | '\r' :: '\n' :: rest =>
      skipBetween inFlow (keyAllowed || !inFlow) false (pos.nextLine 2) rest
  | c :: rest =>
      if isBreak c then skipBetween inFlow (keyAllowed || !inFlow) false (pos.nextLine 1) rest
      else if inComment || c == ' ' || (c == '\t' && (inFlow || !keyAllowed)) ||
          (c == '\ufeff' && pos.index == 0) then
        skipBetween inFlow keyAllowed inComment (pos.advance 1) rest
      else if c == '#' then skipBetween inFlow keyAllowed true (pos.advance 1) rest
      else (⟨pos, c :: rest⟩, keyAllowed)

/-- Skips to the next token. -/
def skipToToken (s : Scan) : Scan :=
  let (input, keyAllowed) := skipBetween s.inFlow s.keyAllowed false s.position s.input.rest
  { s with input, keyAllowed }

/-- Reads a token of `width` characters. -/
def take (s : Scan) (kind : TokenKind) (width : Nat) : Scan :=
  let next := s.input.skip width
  { s.push kind s.position next.position with input := next }

/-- The end of the text, which counts as the start of a line. -/
def streamEnd (s : Scan) : Option Scan := do
  let place := if s.position.column == 0 then s.position else s.position.nextLine 0
  let s := { s with input := ⟨place, []⟩ }.closeBlocks (-1)
  let s ← s.dropKey
  return { s with keyAllowed := false }.push .streamEnd place place

/-- A document marker. -/
def marker (s : Scan) (kind : TokenKind) : Option Scan := do
  let s ← (s.closeBlocks (-1)).dropKey
  return { s with keyAllowed := false }.take kind 3

/-- The number of a version directive: one to nine digits. -/
def versionNumber (i : Input) : Option (Nat × Input) :=
  let (digits, next) := i.span Char.isDigit
  if digits.isEmpty || digits.length > 9 then none
  else some (digits.foldl (fun n c => 10 * n + (c.toNat - '0'.toNat)) 0, next)

/-- A version directive behind its name. -/
def versionDirective (i : Input) : Option (TokenKind × Input) := do
  let (major, i) ← versionNumber (i.span isBlank).2
  if i.rest.head? != some '.' then none
  else
    let (minor, i) ← versionNumber (i.skip 1)
    return (.version major minor, i)

/-- A tag directive behind its name. -/
def tagDirective (i : Input) : Option (TokenKind × Input) := do
  let ((handle, beginning), i) ← Tag.readDirective i
  return (.tagDirective handle beginning, i)

/-- A directive. The version of the language and the handles of tags can be directed. -/
def directive (s : Scan) : Option Scan := do
  let s ← (s.closeBlocks (-1)).dropKey
  let start := s.position
  let (name, i) := (s.input.skip 1).span isNameChar
  if !atWordEnd i.rest then none
  else
    let (kind, i) ←
      if name == "YAML".toList then versionDirective i
      else if name == "TAG".toList then tagDirective i
      else none
    let next ← i.skipLineEnd?
    return { s with keyAllowed := false, input := next }.push kind start i.position

/-- The start of a flow collection. -/
def flowStart (s : Scan) (kind : TokenKind) : Option Scan := do
  let s ← s.noteKey
  return { s with flowKeys := none :: s.flowKeys, keyAllowed := true }.take kind 1

/-- The end of a flow collection. -/
def flowStop (s : Scan) (kind : TokenKind) : Option Scan := do
  let s ← s.dropKey
  return { s with flowKeys := s.flowKeys.drop 1, keyAllowed := false }.take kind 1

/-- A comma of a flow collection. -/
def flowEntry (s : Scan) : Option Scan := do
  let s ← s.dropKey
  return { s with keyAllowed := true }.take .flowEntry 1

/-- The indicator of a block sequence entry. -/
def blockEntry (s : Scan) : Option Scan := do
  if !s.inFlow && !s.keyAllowed then none
  else
    let s ← (s.openBlock s.position.column s.count .blockSequence s.position).dropKey
    return { s with keyAllowed := true }.take .blockEntry 1

/-- An explicit key indicator. -/
def explicitKey (s : Scan) : Option Scan := do
  if !s.inFlow && !s.keyAllowed then none
  else
    let s ← (s.openBlock s.position.column s.count .blockMapping s.position).dropKey
    return { s with keyAllowed := !s.inFlow }.take .key 1

/-- A value indicator. If a key was possible, its tokens are put in now. -/
def value (s : Scan) : Option Scan := do
  let s ← s.checkKey
  match s.key? with
  | none => valueWithoutKey s
  | some k =>
      let free := s.setKey none
      if s.isStale k then valueWithoutKey free
      else
        let s := free.insert k.number .key k.position
        let s := s.openBlock k.position.column k.number .blockMapping k.position
        return { s with keyAllowed := false }.take .value 1
where
  /-- A value indicator behind an explicit key, or behind none. -/
  valueWithoutKey (s : Scan) : Option Scan :=
    if !s.inFlow && !s.keyAllowed then none
    else
      let s := s.openBlock s.position.column s.count .blockMapping s.position
      some ({ s with keyAllowed := !s.inFlow }.take .value 1)

/-- Whether an anchor or alias name may end here. -/
def endsName : List Char → Bool
  | [] => true
  | c :: rest => atWordEnd (c :: rest) || c ∈ ['?', ':', ',', ']', '\x7d', '%', '@', '\x60']

/-- An anchor or an alias. -/
def name (s : Scan) (kind : String → TokenKind) : Option Scan := do
  let s ← s.noteKey
  let (name, next) := (s.input.skip 1).span isNameChar
  if name.isEmpty || !endsName next.rest then none
  else
    let s := s.push (kind (String.ofList name)) s.position next.position
    return { s with keyAllowed := false, input := next }

/-- A tag. -/
def tag (s : Scan) : Option Scan := do
  let s ← s.noteKey
  let (written, next) ← Tag.read s.inFlow s.input
  return { s.push (.tag written) s.position next.position with
           keyAllowed := false, input := next }

/-- A block scalar. -/
def blockScalar (s : Scan) (literal : Bool) : Option Scan := do
  let s ← s.dropKey
  let (text, next) ← Block.read literal s.indent (s.input.skip 1)
  let style := if literal then ScalarStyle.literal else .folded
  return { s.push (.scalar style text) s.position next.position with
           keyAllowed := true, input := next }

/-- A quoted scalar. -/
def quotedScalar (s : Scan) (double : Bool) : Option Scan := do
  let s ← s.noteKey
  let (text, next) ← Quoted.read double (s.input.skip 1)
  let style := if double then ScalarStyle.doubleQuoted else .singleQuoted
  return { s.push (.scalar style text) s.position next.position with
           keyAllowed := false, input := next }

/-- A plain scalar. A key may begin behind it if it is followed by a line break. -/
def plainScalar (s : Scan) : Option Scan := do
  let s ← s.noteKey
  let r ← Plain.read ⟨s.inFlow, s.indent + 1⟩ s.input
  return { s.push (.scalar .plain r.text) s.position r.next.position with
           keyAllowed := r.endsLine, input := r.next }

/-- Characters that cannot begin a plain scalar on their own. -/
def isIndicator (c : Char) : Bool :=
  c ∈ ['-', '?', ':', ',', '[', ']', '\x7b', '\x7d', '#', '&', '*', '!', '|', '>', '\'', '"',
       '%', '@', '\x60']

/-- Whether a plain scalar begins with `c` in front of `rest`. A blank is left over here only where
a tab stands in the way of a key. -/
def beginsPlain (inFlow : Bool) (c : Char) (rest : List Char) : Bool :=
  !(isIndicator c || isBlank c) || (c == '-' && !(rest.head?.any isBlank)) ||
    (!inFlow && (c == '?' || c == ':') && !atWordEnd rest)

/-- Reads the token that begins with `c` in front of `rest`. -/
def token (s : Scan) (c : Char) (rest : List Char) : Option Scan :=
  let atLineStart := s.position.column == 0
  let alone := atWordEnd rest
  if atLineStart && c == '%' then s.directive
  else if atLineStart && c == '-' && startsWithMarker (c :: rest) then s.marker .documentStart
  else if atLineStart && c == '.' && startsWithMarker (c :: rest) then s.marker .documentEnd
  else if c == '[' then s.flowStart .flowSequence
  else if c == '\x7b' then s.flowStart .flowMapping
  else if c == ']' then s.flowStop .flowSequenceEnd
  else if c == '\x7d' then s.flowStop .flowMappingEnd
  else if c == ',' then s.flowEntry
  else if c == '-' && alone then s.blockEntry
  else if c == '?' && (s.inFlow || alone) then s.explicitKey
  else if c == ':' && (s.inFlow || alone) then s.value
  else if c == '*' then s.name .reference
  else if c == '&' then s.name .anchor
  else if c == '!' then s.tag
  else if c == '|' && !s.inFlow then s.blockScalar true
  else if c == '>' && !s.inFlow then s.blockScalar false
  else if c == '\'' then s.quotedScalar false
  else if c == '"' then s.quotedScalar true
  else if beginsPlain s.inFlow c rest then s.plainScalar
  else none

/-- Reads tokens up to the end of the text. Each step but the last takes at least one character,
so that `fuel` need not exceed their number by more than one. -/
def run : Nat → Scan → Option (List Token)
  | 0, _ => none
  | fuel + 1, s => do
      let s := s.skipToToken
      let s := s.closeBlocks s.position.column
      match s.input.rest with
      | [] =>
          let s ← s.streamEnd
          return s.tokens.reverse
      | c :: rest =>
          let s ← s.token c rest
          let s ← s.checkKey
          run fuel s

end Scan

/-- The tokens of a text, unless it is malformed. -/
def scan (text : List Char) : Option (List Token) :=
  if text.all isAllowed then
    ({ input := ⟨{}, text⟩ } : Scan).run (text.length + 1)
  else none

end MqAssembler.Yaml
