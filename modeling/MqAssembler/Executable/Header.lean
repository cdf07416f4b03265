import MqAssembler.LittleEndian
import MqAssembler.Text.Blank
import MqAssembler.Text.Layout
import MqAssembler.Text.Style
import MqAssembler.Text.Utf8

/-! # Headers of executables

An executable starts with ten bytes: four of version, two with the size of the include section and
four with the size of the assembly section, lowest byte first. -/

namespace MqAssembler

/-- The four bytes that name a machine version. -/
structure Version where
  b0 : UInt8
  b1 : UInt8
  b2 : UInt8
  b3 : UInt8
deriving DecidableEq, Repr

namespace Version

/-- The one version in use, `1.1` and a blank. -/
def current : Version := ⟨0x31, 0x2E, 0x31, 0x20⟩

/-- The bytes in order. -/
def toBytes (v : Version) : List UInt8 := [v.b0, v.b1, v.b2, v.b3]

/-- The bytes read as text. -/
def text (v : Version) : String := Text.Utf8.decodeLossy v.toBytes

end Version

/-- Version and section sizes of an executable. -/
structure Header where
  version : Version
  includeSize : UInt16
  assemblySize : UInt32
deriving DecidableEq, Repr

namespace Header

open Text

/-- The number of bytes of a header. -/
def size : Nat := 10

/-- The header of sections with given sizes. -/
def ofSizes (includeSize assemblySize : Nat) : Header :=
  ⟨.current, UInt16.ofNat includeSize, UInt32.ofNat assemblySize⟩

/-- The size of the executable that a header announces. -/
def totalSize (h : Header) : Nat :=
  size + h.includeSize.toNat + h.assemblySize.toNat

/-- The bytes of a header. -/
def toBytes (h : Header) : List UInt8 :=
  h.version.toBytes ++ LittleEndian.encode 2 h.includeSize.toNat ++
    LittleEndian.encode 4 h.assemblySize.toNat

/-- The version as shown, without blanks around it. -/
def versionText (h : Header) : String := Blank.trim h.version.text

/-- A header in six lines. -/
def summary (h : Header) : List String :=
  [bold "Header start:",
   "\tcpuVersion:          " ++ Colour.yellow.paint h.versionText,
   "\tincludeSectionSize:  " ++ Colour.yellow.paint (decimal h.includeSize.toNat),
   "\tassemblySectionSize: " ++ Colour.yellow.paint (decimal h.assemblySize.toNat),
   bold "Header end.",
   "Total size: " ++ Colour.green.paint (decimal h.totalSize) ++ " bytes"]

end Header

end MqAssembler
