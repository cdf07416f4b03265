import MqAssembler.Text.CaseClass
import MqAssembler.Text.CaseTable

/-! # Lower-case text

The full lower-case mapping of Unicode. It is decided character by character except for the
capital sigma, whose small form depends on whether it ends a word.

## Implementation notes

One character, the dotted capital I, has a lower-case form of two characters, so the mapping of
a character is a list. A capital sigma looks at the text as written, never at the part that is
already lowered. -/

namespace MqAssembler.Text

/-- The code point of the simple lower-case form. -/
def lowerPoint (n : Nat) : Nat :=
  (CaseRun.table.findSome? (·.lower? n)).getD n

/-- The lower-case form of a character outside any context. -/
def lowerChar (c : Char) : List Char :=
  if c = '\u0130' then ['i', '\u0307'] else [Char.ofNat (lowerPoint c.toNat)]

/-- Whether the first character that is not case-ignorable exists and has case. -/
def nextIsCased (cs : List Char) : Bool :=
  match cs.dropWhile CaseClass.caseIgnorable.contains with
  | [] => false
  | c :: _ => CaseClass.cased.contains c

/-- The small form of a capital sigma: final after a letter of its word and before none.
`before` holds the preceding text, nearest character first. -/
def lowerSigma (before after : List Char) : Char :=
  if nextIsCased before && !nextIsCased after then 'ς' else 'σ'

/-- Lower-case form of `cs`, where `before` holds the preceding text, nearest character first. -/
def lowerAfter (before : List Char) : List Char → List Char
  | [] => []
  | c :: rest =>
      (if c = 'Σ' then [lowerSigma before rest] else lowerChar c) ++ lowerAfter (c :: before) rest

/-- The lower-case form of a text. -/
def lowercase (s : String) : String :=
  String.ofList (lowerAfter [] s.toList)

@[simp] theorem toList_lowercase (s : String) :
    (lowercase s).toList = lowerAfter [] s.toList := by
  simp [lowercase]

end MqAssembler.Text
