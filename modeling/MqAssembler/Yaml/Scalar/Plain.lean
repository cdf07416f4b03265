import MqAssembler.Yaml.Scalar.Folding

/-! # Plain scalars

A plain scalar runs up to a character that means something else: a value indicator, a comment, a
flow indicator inside a flow collection, a document marker, or a line that is not indented. -/

namespace MqAssembler.Yaml.Plain

/-- Where a plain scalar stands. -/
structure Context where
  /-- Inside a flow collection. -/
  inFlow : Bool
  /-- The least column of a continuation line in block context. -/
  indent : Int

/-- A plain scalar that has been read. -/
structure Result where
  text : String
  /-- Whether a line break follows the last visible character. -/
  endsLine : Bool
  next : Input

/-- Whether a visible character that comes after blanks ends the scalar. -/
def endsAfterBlank (ctx : Context) (pos : Position) (cs : List Char) : Bool :=
  (!ctx.inFlow && decide ((pos.column : Int) < ctx.indent)) ||
    (pos.column == 0 && startsWithMarker cs) || cs.head? == some '#'

/-- Whether a value indicator stands directly before a flow indicator, which is not allowed. -/
def isMisplacedValue (ctx : Context) (c : Char) (rest : List Char) : Bool :=
  ctx.inFlow && c == ':' &&
    match rest with
    | [] => false
    | d :: _ => isFlowIndicator d || d == '?'

/-- Whether a visible character ends the scalar wherever it stands. -/
def endsAt (ctx : Context) (c : Char) (rest : List Char) : Bool :=
  (c == ':' && atWordEnd rest) || (ctx.inFlow && isFlowIndicator c)

/-- Reads on from a place within a plain scalar. -/
def readFrom (ctx : Context) (f : Folding) (pos : Position) : List Char → Option Result
  | [] => some ⟨f.toString, f.afterBreak, ⟨pos, []⟩⟩
  | '\r' :: '\n' :: rest => readFrom ctx (f.pushBreak '\n') (pos.nextLine 2) rest
  | c :: rest =>
      if isBreak c then readFrom ctx (f.pushBreak (foldBreak c)) (pos.nextLine 1) rest
      else if isBlank c then
        if f.afterBreak && decide ((pos.column : Int) < ctx.indent) && c == '\t' then none
        else readFrom ctx (f.pushBlank c) (pos.advance 1) rest
      else if f.isPending && endsAfterBlank ctx pos (c :: rest) then
        some ⟨f.toString, f.afterBreak, ⟨pos, c :: rest⟩⟩
      else if isMisplacedValue ctx c rest then none
      else if endsAt ctx c rest then some ⟨f.toString, f.afterBreak, ⟨pos, c :: rest⟩⟩
      else readFrom ctx (f.push c) (pos.advance 1) rest

/-- Reads a plain scalar. -/
def read (ctx : Context) (i : Input) : Option Result :=
  readFrom ctx {} i.position i.rest

end MqAssembler.Yaml.Plain
