import MqAssembler.Text.CharClass

/-! # Blanks

Characters with the Unicode property `White_Space`, and text without them at its ends. -/

namespace MqAssembler.Text.Blank

/-- Characters that count as blank. -/
def blank : CharClass where
  ranges :=
    [(0x9, 0xd), (0x20, 0x20), (0x85, 0x85), (0xa0, 0xa0), (0x1680, 0x1680), (0x2000, 0x200a),
     (0x2028, 0x2029), (0x202f, 0x202f), (0x205f, 0x205f), (0x3000, 0x3000)]

/-- Characters without the blanks at both ends. -/
def trimChars (cs : List Char) : List Char :=
  ((cs.dropWhile blank.contains).reverse.dropWhile blank.contains).reverse

/-- A text without the blanks at both ends. -/
def trim (s : String) : String :=
  String.ofList (trimChars s.toList)

end MqAssembler.Text.Blank
