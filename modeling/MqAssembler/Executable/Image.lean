import MqAssembler.Executable.Header
import MqAssembler.Executable.IncludeName
import MqAssembler.Text.Quoted
import MqAssembler.Word

/-! # Executable images

After the header come the include section and the assembly section. `Image.layout` writes an
image from its contents; `Image.read` takes one apart and checks it. -/

namespace MqAssembler

/-- Why bytes are not an executable. -/
inductive ImageError where
  /-- Bytes are missing at the end. -/
  | truncated (expected found : Nat)
  /-- Bytes follow the last section. -/
  | trailingBytes (count : Nat)
  /-- The version is not the one in use. -/
  | unsupportedVersion (text : String)
  /-- The assembly section ends within a word. -/
  | misalignedAssembly (size : Nat)
  /-- The include section is not made of terminated ASCII names. -/
  | malformedIncludes
deriving DecidableEq, Repr

/-- The wording of a fault. -/
def ImageError.message : ImageError → String
  | truncated expected found =>
      "Executable truncated: expected " ++ Text.decimal expected ++ " bytes, found " ++
        Text.decimal found
  | trailingBytes count =>
      "Executable has " ++ Text.decimal count ++ " trailing bytes after the assembly section"
  | unsupportedVersion text => "Unsupported executable version: " ++ Text.Quoted.render text
  | misalignedAssembly size =>
      "Assembly section size " ++ Text.decimal size ++ " is not a multiple of 2"
  | malformedIncludes => "Include section is malformed"

/-- A decoded executable. -/
structure Image where
  header : Header
  includes : List String
  words : List Word
deriving DecidableEq, Repr

/-- The bytes of an executable with given contents. -/
def Image.layout (includes : List String) (words : List Word) : List UInt8 :=
  let names := IncludeName.encodeAll includes
  (Header.ofSizes names.length (2 * words.length)).toBytes ++ names ++
    words.flatMap Word.toBytes

/-- Reads the header in front of some bytes. The length is checked before the version. -/
def Header.read : List UInt8 → Except ImageError Header
  | v0 :: v1 :: v2 :: v3 :: i0 :: i1 :: a0 :: a1 :: a2 :: a3 :: _ =>
      let version : Version := ⟨v0, v1, v2, v3⟩
      if version = .current then
        .ok ⟨version, UInt16.ofNat (LittleEndian.decode [i0, i1]),
          UInt32.ofNat (LittleEndian.decode [a0, a1, a2, a3])⟩
      else
        .error (.unsupportedVersion version.text)
  | bytes => .error (.truncated Header.size bytes.length)

namespace Image

/-- Takes the sections behind a header apart. The length is checked first, then the evenness of
the assembly section, then the include section. -/
def readSections (header : Header) (bytes : List UInt8) : Except ImageError Image :=
  let expected := header.totalSize
  let found := bytes.length
  if found < expected then .error (.truncated expected found)
  else if expected < found then .error (.trailingBytes (found - expected))
  else if header.assemblySize.toNat % 2 ≠ 0 then
    .error (.misalignedAssembly header.assemblySize.toNat)
  else
    let sections := bytes.drop Header.size
    match IncludeName.decodeAll? (sections.take header.includeSize.toNat) with
    | none => .error .malformedIncludes
    | some includes =>
        .ok ⟨header, includes, Word.readAll (sections.drop header.includeSize.toNat)⟩

/-- Reads an executable. -/
def read (bytes : List UInt8) : Except ImageError Image :=
  match Header.read bytes with
  | .error e => .error e
  | .ok header => readSections header bytes

end Image

end MqAssembler
