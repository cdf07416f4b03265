import MqAssembler.Yaml.Input

/-! # Folding of blanks and line breaks

Within plain and quoted scalars a single line break becomes a blank and further ones stay; blanks
around a break are dropped. What is pending is settled when the next visible character comes. -/

namespace MqAssembler.Yaml

/-- A scalar under way. All lists are held backwards. -/
structure Folding where
  /-- What is settled. -/
  text : List Char := []
  /-- Blanks since the last visible character, before any break. -/
  blanks : List Char := []
  /-- Whether a break has come since the last visible character. -/
  afterBreak : Bool := false
  /-- The first such break, unless it was escaped. -/
  firstBreak : Option Char := none
  /-- The breaks after the first one. -/
  moreBreaks : List Char := []

namespace Folding

/-- Whether blanks or breaks are pending. -/
def isPending (f : Folding) : Bool := f.afterBreak || !f.blanks.isEmpty

/-- Settles what is pending. -/
def settle (f : Folding) : Folding :=
  let text :=
    if f.afterBreak then
      match f.firstBreak with
      | none => f.moreBreaks ++ f.text
      | some c =>
          if c == '\n' then
            if f.moreBreaks.isEmpty then ' ' :: f.text else f.moreBreaks ++ f.text
          else f.moreBreaks ++ (c :: f.text)
    else f.blanks ++ f.text
  { text := text }

/-- A visible character. -/
def push (f : Folding) (c : Char) : Folding :=
  let s := f.settle
  { s with text := c :: s.text }

/-- A blank. -/
def pushBlank (f : Folding) (c : Char) : Folding :=
  if f.afterBreak then f else { f with blanks := c :: f.blanks }

/-- A line break. -/
def pushBreak (f : Folding) (c : Char) : Folding :=
  if f.afterBreak then { f with moreBreaks := c :: f.moreBreaks }
  else { f with blanks := [], afterBreak := true, firstBreak := some c }

/-- A line break that is escaped and leaves no trace. -/
def escapeBreak (f : Folding) : Folding :=
  { f.settle with afterBreak := true }

/-- The text so far, without what is pending. -/
def toString (f : Folding) : String := String.ofList f.text.reverse

end Folding

end MqAssembler.Yaml
