import MqAssembler.Text.Utf8

/-! # Names of the include section

The include section holds names of ASCII text, each ended by a line feed. -/

namespace MqAssembler

/-- Whether a text may stand in the include section: one line of ASCII. -/
def IsIncludeName (name : String) : Prop :=
  ∀ c ∈ name.toList, c.toNat < 128 ∧ c ≠ '\n'

instance (name : String) : Decidable (IsIncludeName name) :=
  List.decidableBAll (fun c : Char => c.toNat < 128 ∧ c ≠ '\n') name.toList

namespace IncludeName

/-- The byte that ends a name. -/
def terminator : UInt8 := 10

/-- The bytes of an ASCII name. -/
def toBytes (name : String) : List UInt8 :=
  name.toList.map fun c => UInt8.ofNat c.toNat

/-- The bytes of an include section. -/
def encodeAll (names : List String) : List UInt8 :=
  names.flatMap fun name => toBytes name ++ [terminator]

/-- The pieces that are ended by a terminator; `current` holds the piece under way backwards,
`done` the finished ones, latest first. -/
def splitAfter (current : List UInt8) (done : List (List UInt8)) :
    List UInt8 → List (List UInt8)
  | [] => done.reverse
  | b :: rest =>
      if b = terminator then splitAfter [] (current.reverse :: done) rest
      else splitAfter (b :: current) done rest

/-- The names of an include section: nothing at all, or ASCII bytes of which the last one is a
terminator. -/
def decodeAll? (bytes : List UInt8) : Option (List String) :=
  if bytes.isEmpty then some []
  else if bytes.all (fun b => b.toNat < 128) && bytes.getLast? == some terminator then
    (splitAfter [] [] bytes).mapM Text.Utf8.decode?
  else none

end IncludeName

end MqAssembler
