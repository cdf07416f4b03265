import MqAssembler.Text.Visible

/-! # Quoted text

A text between double quotes in which every character can be told apart: the usual short escapes,
and a number in braces for a character without a visible form of its own. -/

namespace MqAssembler.Text.Quoted

/-- A character spelled by its code point. -/
def spell (c : Char) : List Char :=
  ['\\', 'u', '\x7b'] ++ Nat.toDigits 16 c.toNat ++ ['\x7d']

/-- The form of one character between the quotes. -/
def escape (c : Char) : List Char :=
  match c with
  | '\x00' => ['\\', '0']
  | '\t' => ['\\', 't']
  | '\r' => ['\\', 'r']
  | '\n' => ['\\', 'n']
  | '"' => ['\\', '"']
  | '\\' => ['\\', '\\']
  | c =>
      if Visible.extending.contains c || Visible.unprintable.contains c then spell c else [c]

/-- A text in its quoted form. -/
def render (s : String) : String :=
  String.ofList (['"'] ++ s.toList.flatMap escape ++ ['"'])

end MqAssembler.Text.Quoted
