import MqAssembler.Dictionary
import MqAssembler.FileSystem

/-! # File stores

A file store is a small file system in memory. It holds the files below one directory by their
names; the directories in it are those that its names imply.

## Implementation notes

Paths are resolved step by step against the store. A step back from the store's own directory
leads outside, where nothing is known but directories. Two device files are known by their
absolute names: one takes everything and one takes nothing. -/

namespace MqAssembler

/-- Files by their names, relative to one directory. -/
structure FileStore where
  files : Dictionary (List UInt8)

namespace FileStore

/-- Where a path leads. -/
inductive Place where
  /-- To a file with this name. -/
  | file (name : String)
  /-- To a name that is free in an existing directory. -/
  | vacant (name : String)
  | directory
  /-- To a device that takes and forgets everything. -/
  | sink
  /-- To a device that takes nothing. -/
  | full
  | nowhere
deriving DecidableEq, Repr

/-- The longest name of a file or directory, in bytes. -/
def nameMax : Nat := 255

/-- The name at the end of some steps, which are held backwards. -/
def nameOf (steps : List String) : String :=
  "/".intercalate steps.reverse

/-- Whether a file lies somewhere below some steps. -/
def isDirectory (store : FileStore) (steps : List String) : Bool :=
  store.files.toList.any fun p => (nameOf steps ++ "/").toList.isPrefixOf p.1.toList

/-- The steps of a path, which are divided by slashes. -/
def stepsOf (path : String) : List String :=
  (path.toList.splitOn '/').map String.ofList

/-- Whether a step stays where it is. -/
def isIdle (step : String) : Bool := step == "" || step == "."

/-- Follows steps from a directory of the store, whose own steps are held backwards. -/
def walk (store : FileStore) (here : List String) : List String → Place
  | [] => .directory
  | step :: rest =>
      if isIdle step then walk store here rest
      else if step == ".." then
        match here with
        | [] => if rest.all fun s => isIdle s || s == ".." then .directory else .nowhere
        | _ :: up => walk store up rest
      else
        let next := step :: here
        if store.isDirectory next then walk store next rest
        else if rest.isEmpty then
          if (store.files.get? (nameOf next)).isSome then .file (nameOf next)
          else if step.utf8ByteSize ≤ nameMax then .vacant (nameOf next)
          else .nowhere
        else .nowhere

/-- Where a path leads. -/
def locate (store : FileStore) (path : String) : Place :=
  if path = "/dev/null" then .sink
  else if path = "/dev/full" then .full
  else if path = "" ∨ path.toList.head? = some '/' then .nowhere
  else store.walk [] (stepsOf path)

/-- Files and devices that were opened for writing. -/
inductive Handle where
  /-- The file with this name. -/
  | file (name : String)
  /-- The device that takes and forgets everything. -/
  | sink
  /-- The device that takes nothing. -/
  | full
deriving DecidableEq, Repr

/-- The file behind a handle. -/
def Handle.target? : Handle → Option String
  | file name => some name
  | sink => none
  | full => none

/-- The store in which a file holds some bytes. -/
def put (store : FileStore) (name : String) (bytes : List UInt8) : FileStore :=
  ⟨store.files.insert name bytes⟩

/-- The file that a path leads to. -/
def file? (store : FileStore) (path : String) : Option String :=
  match store.locate path with
  | .file name => some name
  | _ => none

/-- Reads a file. -/
def read (store : FileStore) (path : String) : Except ReadError (List UInt8) :=
  match store.locate path with
  | .file name => .ok ((store.files.get? name).getD [])
  | .sink => .ok []
  | .directory => .error (.failed "Is a directory (os error 21)")
  | _ => .error .notFound

/-- Opens a file and empties it. -/
def create (store : FileStore) (path : String) : Option (Handle × FileStore) :=
  match store.locate path with
  | .file name => some (.file name, store.put name [])
  | .vacant name => some (.file name, store.put name [])
  | .sink => some (.sink, store)
  | .full => some (.full, store)
  | _ => none

/-- Writes bytes behind what an open file holds. -/
def fill (store : FileStore) (handle : Handle) (bytes : List UInt8) : Bool × FileStore :=
  match handle with
  | .file name => (true, store.put name ((store.files.get? name).getD [] ++ bytes))
  | .sink => (true, store)
  | .full => (bytes.isEmpty, store)

instance : FileSystem FileStore where
  File := String
  Handle := Handle
  target? := Handle.target?
  file? := file?
  content? store name := store.files.get? name
  read := read
  create := create
  fill := fill

end FileStore

end MqAssembler
