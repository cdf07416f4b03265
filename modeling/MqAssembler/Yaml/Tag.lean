import MqAssembler.Text.Utf8
import MqAssembler.Yaml.Scalar.Quoted

/-! # Tags

A tag tells what kind of thing a node is. It is written in full between angle brackets, or as a
handle and a suffix, where the handle stands for the beginning of the tag. A directive may choose
what a handle stands for.

## Implementation notes

A tag is kept as bytes, since the octets that are escaped in it need not make up text. Of a tag with
a zero octet only the part in front of it counts. -/

namespace MqAssembler.Yaml

/-- A tag. -/
structure Tag where
  bytes : List UInt8
deriving DecidableEq, Repr

namespace Tag

/-- The tag with a given text. -/
def ofText (s : String) : Tag := ⟨s.toUTF8.data.toList⟩

/-- The tag of truth values. -/
def boolean : Tag := ofText "tag:yaml.org,2002:bool"

/-- The tag of integers. -/
def integer : Tag := ofText "tag:yaml.org,2002:int"

/-- The tag of floating-point numbers. -/
def float : Tag := ofText "tag:yaml.org,2002:float"

/-- The tag of absent values. -/
def null : Tag := ofText "tag:yaml.org,2002:null"

/-- The tag that leaves a scalar without one. -/
def neutral : Tag := ofText "!"

/-- Whether a tag begins with an exclamation mark. -/
def isLocal (t : Tag) : Bool := t.bytes.head? == some 0x21

/-- The name in a tag, without an exclamation mark in front. An empty tag has none. -/
def name? (t : Tag) : Option String :=
  if t.bytes.isEmpty then none
  else Text.Utf8.decode? (if t.isLocal then t.bytes.drop 1 else t.bytes)

/-- What handles stand for. Of several entries the first one counts. -/
abbrev Handles := List (String × List UInt8)

/-- The handles that need no directive. -/
def defaultHandles : Handles :=
  [("!", neutral.bytes), ("!!", (ofText "tag:yaml.org,2002:").bytes)]

/-- A tag as it is written. The handle of a tag in full is empty. -/
structure Written where
  handle : String
  suffix : List UInt8
deriving DecidableEq, Repr

/-- The tag that is meant, unless its handle stands for nothing. -/
def Written.resolve (w : Written) (handles : Handles) : Option Tag :=
  if w.handle = "" then some ⟨w.suffix⟩
  else (handles.lookup w.handle).map fun beginning => ⟨beginning ++ w.suffix⟩

/-- Characters of a tag that stand for themselves. A tag in full may also hold flow indicators. -/
def isTagChar (full : Bool) (c : Char) : Bool :=
  isNameChar c ||
    c ∈ [';', '/', '?', ':', '@', '&', '=', '+', '$', '.', '!', '~', '*', '\'', '(', ')'] ||
    (full && c ∈ [',', '[', ']'])

/-- How many octets follow the first one of a character. -/
def trailing? (octet : Nat) : Option Nat :=
  if octet < 0x80 then some 0
  else if 0xC0 ≤ octet ∧ octet < 0xE0 then some 1
  else if 0xE0 ≤ octet ∧ octet < 0xF0 then some 2
  else if 0xF0 ≤ octet ∧ octet < 0xF8 then some 3
  else none

/-- How many octets are still owed behind an octet, if it may stand where `owed` octets are. -/
def owedAfter? (owed octet : Nat) : Option Nat :=
  if owed = 0 then trailing? octet
  else if 0x80 ≤ octet ∧ octet < 0xC0 then some (owed - 1)
  else none

/-- Reads the characters and escaped octets of a tag. The bytes so far are held backwards; `owed`
octets are missing from a character that is escaped. -/
def bytesFrom (full : Bool) (owed : Nat) (bytes : List UInt8) (pos : Position) :
    List Char → Option (List UInt8 × Input)
  | '%' :: high :: low :: rest => do
      let octet := 16 * (← Quoted.hexDigit? high) + (← Quoted.hexDigit? low)
      bytesFrom full (← owedAfter? owed octet) (UInt8.ofNat octet :: bytes) (pos.advance 3) rest
  | c :: rest =>
      if 0 < owed || c == '%' then none
      else if isTagChar full c then
        bytesFrom full 0 (UInt8.ofNat c.toNat :: bytes) (pos.advance 1) rest
      else some (bytes.reverse, ⟨pos, c :: rest⟩)
  | [] => if 0 < owed then none else some (bytes.reverse, ⟨pos, []⟩)

/-- The bytes of a tag, or of what a handle stands for. -/
def bytes? (full : Bool) (i : Input) : Option (List UInt8 × Input) :=
  bytesFrom full 0 [] i.position i.rest

/-- The part in front of a zero octet. -/
def upToZero (bytes : List UInt8) : List UInt8 := bytes.takeWhile (· != 0)

/-- Reads an exclamation mark and a name, and a second exclamation mark if there is one. Tells
whether the two marks enclose a handle. -/
def handle (i : Input) : String × Bool × Input :=
  let (name, next) := (i.skip 1).span isNameChar
  if next.rest.head? == some '!' then
    (String.ofList ('!' :: name ++ ['!']), true, next.skip 1)
  else (String.ofList ('!' :: name), false, next)

/-- Reads a tag in full, behind its angle bracket. -/
def readFull (i : Input) : Option (Written × Input) := do
  let (bytes, next) ← bytes? true i
  if bytes.isEmpty || next.rest.head? != some '>' then none
  else return (⟨"", upToZero bytes⟩, next.skip 1)

/-- Reads a tag with a handle. Without a second exclamation mark the name is part of the suffix, and
an exclamation mark alone is a tag in full. -/
def readShort (i : Input) : Option (Written × Input) := do
  let (name, enclosed, next) := handle i
  let (bytes, next) ← bytes? false next
  if enclosed then
    if bytes.isEmpty then none else return (⟨name, upToZero bytes⟩, next)
  else
    let suffix := upToZero ((ofText name).bytes.drop 1 ++ bytes)
    return (if suffix.isEmpty then ⟨"", neutral.bytes⟩ else ⟨"!", suffix⟩, next)

/-- Reads a tag, which must be followed by the end of a word or, in a flow collection, a comma. -/
def read (inFlow : Bool) (i : Input) : Option (Written × Input) := do
  let (written, next) ←
    if i.rest.take 2 == ['!', '<'] then readFull (i.skip 2) else readShort i
  if atWordEnd next.rest || (inFlow && next.rest.head? == some ',') then return (written, next)
  else none

/-- Reads what a directive says of a handle: blanks, the handle, blanks, and what it stands for. -/
def readDirective (i : Input) : Option ((String × List UInt8) × Input) := do
  let i := (i.span isBlank).2
  if i.rest.head? != some '!' then none
  else
    let (name, enclosed, next) := handle i
    if !(enclosed || name == "!") || !next.rest.head?.any isBlank then none
    else
      let (bytes, next) ← bytes? true (next.span isBlank).2
      if bytes.isEmpty || !atWordEnd next.rest then none
      else return ((name, upToZero bytes), next)

end Tag

end MqAssembler.Yaml
