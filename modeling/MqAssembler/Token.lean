import MqAssembler.Text.Layout
import MqAssembler.Text.Quoted
import MqAssembler.Text.Style

/-! # Tokens

Lexical units of assembly source: numbers, names and texts, some of which mark a jump target. -/

namespace MqAssembler

/-- What a token stands for. -/
inductive Literal where
  | number (n : Int)
  | name (s : String)
  | text (s : String)
deriving DecidableEq, Repr

/-- A number in decimal digits, with a sign if it is negative. -/
def Literal.signed : Int → String
  | .ofNat n => Text.decimal n
  | .negSucc n => "-" ++ Text.decimal (n + 1)

/-- A literal as written; only a text is quoted. -/
def Literal.render : Literal → String
  | number n => signed n
  | name s => s
  | text s => Text.Quoted.render s

/-- Whether a token is a target of jumps and references. -/
inductive TokenKind where
  | plain
  | label
deriving DecidableEq, Repr

/-- A lexical unit with its source line. -/
structure Token where
  kind : TokenKind
  literal : Literal
  line : Nat
deriving DecidableEq, Repr

namespace Token

open Text

/-- Whether the token is a label. -/
def isLabel (t : Token) : Bool :=
  t.kind == .label

/-- A token in plain text. -/
def render (t : Token) : String :=
  t.literal.render

/-- The colour that tells tokens apart. -/
def colour (t : Token) : Colour :=
  match t.kind, t.literal with
  | .label, _ => .green
  | .plain, .number _ => .yellow
  | .plain, .text _ => .cyan
  | .plain, .name _ => .blue

/-- A token in colour. -/
def renderStyled (t : Token) : String :=
  t.colour.paint t.render

end Token

end MqAssembler
