/-! # Brackets of scopes -/

namespace MqAssembler

/-- The pair of delimiters around a scope. -/
inductive Bracket where
  | none
  | round
  | curly
  | square
deriving DecidableEq, Repr, Inhabited

namespace Bracket

/-- The opening and the closing delimiter. -/
def delimiters? : Bracket → Option (Char × Char)
  | none => .none
  | round => some ('(', ')')
  | curly => some ('\x7b', '\x7d')
  | square => some ('[', ']')

/-- The name of a bracket kind. -/
def name : Bracket → String
  | none => "none"
  | round => "round"
  | curly => "curly"
  | square => "square"

/-- The bracket kind with a given name. -/
def ofName? (s : String) : Option Bracket :=
  [none, round, curly, square].find? fun b => b.name == s

/-- A text between the delimiters. -/
def wrap (b : Bracket) (s : String) : String :=
  match b.delimiters? with
  | .none => s
  | some (left, right) => left.toString ++ s ++ right.toString

@[simp] theorem ofName?_name (b : Bracket) : ofName? b.name = some b := by
  cases b <;> decide

end Bracket

end MqAssembler
