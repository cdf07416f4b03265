import MqAssembler.Text.Layout
import MqAssembler.Text.Style

/-! # Messages

What is told to the user: a severity, a text, and the source line it points at if there is one. -/

namespace MqAssembler

/-- How serious a message is. -/
inductive Severity where
  | error
  | warn
  | note
deriving DecidableEq, Repr

/-- A line of a source file: its number, counted from one, and its text. -/
structure Location where
  file : String
  line : Nat
  raw : String
deriving DecidableEq, Repr

/-- A text for the user. -/
structure Message where
  severity : Severity
  text : String
  location : Option Location := none
deriving DecidableEq, Repr

namespace Severity

/-- The word in front of a message. -/
def name : Severity → String
  | error => "error"
  | warn => "warn"
  | note => "note"

/-- The colour of that word. -/
def colour : Severity → Text.Colour
  | error => .red
  | warn => .yellow
  | note => .green

end Severity

open Text

/-- A location in four lines, with the source line between two bars. -/
def Location.lines (loc : Location) : List String :=
  ["     " ++ Colour.blue.paint "-->" ++ " " ++
      underline (loc.file ++ ":" ++ decimal loc.line),
   "      " ++ Colour.blue.paint "|",
   " " ++ Colour.blue.paint (padLeft 4 ' ' (decimal loc.line) ++ " |") ++ " " ++ loc.raw,
   "      " ++ Colour.blue.paint "|"]

namespace Message

/-- Whether a message reports a failure. -/
def isError (m : Message) : Bool := m.severity == .error

/-- The lines of a message. -/
def lines (m : Message) : List String :=
  (m.severity.colour.paintBold m.severity.name ++ ": " ++ m.text) ::
    (m.location.map Location.lines).getD []

/-- The lines of several messages. -/
def linesOf (ms : List Message) : List String :=
  ms.flatMap lines

/-- Whether one of several messages reports a failure. -/
def anyError (ms : List Message) : Bool :=
  ms.any isError

/-- A warning and a note about a name that is listed again. -/
def repeatedInclude (name : String) : List Message :=
  [⟨.warn, "Duplicate include: `" ++ name ++ "`", none⟩,
   ⟨.note, "The name is emitted twice. Remove one if this is not intentional.", none⟩]

/-- Messages about names that are in `seen` or repeated in the list. -/
def repeatedAfter (seen : List String) : List String → List Message
  | [] => []
  | name :: rest =>
      if name ∈ seen then repeatedInclude name ++ repeatedAfter seen rest
      else repeatedAfter (name :: seen) rest

/-- Messages about include names that are listed more than once. -/
def repeatedIncludes (includes : List String) : List Message :=
  repeatedAfter [] includes

end Message

end MqAssembler
