import MqAssembler.Yaml.Tag

/-! # Tokens of a YAML text

Indentation and brackets become tokens of their own, so that the structure of a document can be
read off its tokens without looking at the layout again. -/

namespace MqAssembler.Yaml

/-- How a scalar is written. Only a plain one may stand for something else than text. -/
inductive ScalarStyle where
  | plain
  | singleQuoted
  | doubleQuoted
  /-- A block whose line breaks are kept. -/
  | literal
  /-- A block whose lines are folded. -/
  | folded
deriving DecidableEq, Repr

/-- What a token means. -/
inductive TokenKind where
  /-- The end of the text. -/
  | streamEnd
  /-- A version directive. -/
  | version (major minor : Nat)
  /-- A directive on what a handle of tags stands for. -/
  | tagDirective (handle : String) (beginning : List UInt8)
  | documentStart
  | documentEnd
  | blockSequence
  | blockMapping
  /-- The end of a block collection. -/
  | blockEnd
  | flowSequence
  | flowSequenceEnd
  | flowMapping
  | flowMappingEnd
  | blockEntry
  | flowEntry
  | key
  | value
  | reference (name : String)
  | anchor (name : String)
  | tag (written : Tag.Written)
  | scalar (style : ScalarStyle) (text : String)
deriving DecidableEq, Repr

/-- A token with the places where it starts and where it stops. -/
structure Token where
  kind : TokenKind
  start : Position
  stop : Position
deriving DecidableEq, Repr

end MqAssembler.Yaml
