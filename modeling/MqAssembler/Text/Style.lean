/-! # Terminal styles

Coloured, bold and underlined text by terminal control sequences. A span opens its styles and
closes them again; of adjacent coloured spans only the last one closes the colour. -/

namespace MqAssembler.Text

/-- Foreground colours. -/
inductive Colour where
  | red
  | green
  | yellow
  | blue
  | cyan
deriving DecidableEq, Repr

namespace Colour

/-- The control sequence that switches a colour on. -/
def switchOn : Colour → String
  | red => "\x1b[31m"
  | green => "\x1b[32m"
  | yellow => "\x1b[33m"
  | blue => "\x1b[34m"
  | cyan => "\x1b[36m"

/-- The control sequence that switches back to the default colour. -/
def switchOff : String := "\x1b[39m"

/-- A coloured text. -/
def paint (colour : Colour) (s : String) : String :=
  colour.switchOn ++ s ++ switchOff

/-- Two adjacent coloured texts. -/
def paintBoth (first : Colour) (s : String) (second : Colour) (t : String) : String :=
  first.switchOn ++ s ++ second.switchOn ++ t ++ switchOff

/-- A text that is both coloured and bold. -/
def paintBold (colour : Colour) (s : String) : String :=
  colour.switchOn ++ "\x1b[1m" ++ s ++ switchOff ++ "\x1b[22m"

end Colour

/-- A bold text. -/
def bold (s : String) : String :=
  "\x1b[1m" ++ s ++ "\x1b[22m"

/-- An underlined text. -/
def underline (s : String) : String :=
  "\x1b[4m" ++ s ++ "\x1b[24m"

end MqAssembler.Text
