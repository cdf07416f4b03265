/-! # Where the executable is written

Without an explicit output the executable goes next to its listing. A listing named
`NAME.mql.yaml` gives `NAME.mqa`; any other path has the extension of its last name replaced.

## Implementation notes

Replacing an extension takes two steps. The first drops as many characters from the end of the
path as the old extension has, the second puts the new extension behind the stem of the name that
is then the last one. The steps differ from a single one where dropping the extension leaves `..`,
which names no file. -/

namespace MqAssembler.OutputPath

/-- The extension of executables, with its dot. -/
def executable : List Char := ".mqa".toList

/-- The ending of program listings that is replaced as a whole. -/
def listing : List Char := ".mql.yaml".toList

/-- A path without the separators and `.` steps at its end. The argument and the result are held
backwards. -/
def skipTrailing : List Char → List Char
  | '/' :: rest => skipTrailing rest
  | ['.'] => []
  | '.' :: '/' :: rest => skipTrailing rest
  | cs => cs

/-- Directory part and last name of a path that ends in a name. -/
def lastName? (path : List Char) : Option (List Char × List Char) :=
  let kept := skipTrailing path.reverse
  let name := (kept.takeWhile (· != '/')).reverse
  if name = [] ∨ name = ['.', '.'] then none
  else some ((kept.dropWhile (· != '/')).reverse, name)

/-- The part of a name in front of its last dot and the part behind it. A dot in first place
divides nothing. -/
def splitName (name : List Char) : List Char × Option (List Char) :=
  match name.reverse.dropWhile (· != '.') with
  | _ :: c :: before => ((c :: before).reverse, some (name.reverse.takeWhile (· != '.')).reverse)
  | _ => (name, none)

/-- Puts the extension of executables behind the stem of the last name. -/
def setExtension (path : List Char) : List Char :=
  match lastName? path with
  | none => path
  | some (dir, name) => dir ++ (splitName name).1 ++ executable

/-- Drops as many characters from the end as the extension of the last name has. -/
def dropExtension (path : List Char) : List Char :=
  match lastName? path with
  | none => path
  | some (_, name) => path.take (path.length - ((splitName name).2.getD []).length)

/-- The characters of the output path for an input path. -/
def ofChars (input : List Char) : List Char :=
  if listing.isSuffixOf input then input.take (input.length - listing.length) ++ executable
  else setExtension (dropExtension input)

/-- The output path for an input path. -/
def ofInput (input : String) : String :=
  String.ofList (ofChars input.toList)

end MqAssembler.OutputPath
