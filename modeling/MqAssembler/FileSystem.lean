/-! # File systems

What the assembler asks of files: to read one as a whole, to create one, and to fill one that was
created. A file system answers these requests and says where paths lead and what files hold. The
laws are those that a run relies on: reading changes nothing, creating fails without effect or
empties the one file that the path leads to, and filling adds all bytes to that file.

## Implementation notes

Files are told apart from the paths that lead to them, so two paths may lead to one file. A path may
also be opened that leads to a device; no file stands behind it.

Reading is a function of the file system, which is how it leaves the file system unchanged. -/

namespace MqAssembler

/-- Why a file cannot be read. -/
inductive ReadError where
  /-- It cannot be opened. -/
  | notFound
  /-- It was opened and cannot be read, for a reason that the system words. -/
  | failed (reason : String)
deriving DecidableEq, Repr

/-- Reading of whole files, and writing in the two steps of creating and filling. -/
class FileAccess (m : Type → Type) where
  /-- A file that was opened for writing. -/
  Handle : Type
  read : String → m (Except ReadError (List UInt8))
  /-- Opens a file and empties it. It is created if it is not there. -/
  create : String → m (Option Handle)
  /-- Writes bytes to a file that was created, and tells whether it took them all. -/
  fill : Handle → List UInt8 → m Bool

/-- A file system with states in `σ`. -/
class FileSystem (σ : Type) where
  /-- Files, whatever paths lead to them. -/
  File : Type
  /-- Files and devices that were opened for writing. -/
  Handle : Type
  /-- The file behind a handle, unless it is a device. -/
  target? : Handle → Option File
  /-- The file that a path leads to, if there is one. -/
  file? : σ → String → Option File
  /-- What a file holds, if it exists. -/
  content? : σ → File → Option (List UInt8)
  read : σ → String → Except ReadError (List UInt8)
  create : σ → String → Option (Handle × σ)
  fill : σ → Handle → List UInt8 → Bool × σ

namespace FileSystem

variable {σ : Type} [FileSystem σ]

instance : FileAccess (StateM σ) where
  Handle := Handle σ
  read path := fun s => (read s path, s)
  create path := fun s => (create s path).elim (none, s) fun p => (some p.1, p.2)
  fill handle bytes := fun s => fill s handle bytes

end FileSystem

open FileSystem in
/-- The laws of file systems. -/
class LawfulFileSystem (σ : Type) [FileSystem σ] : Prop where
  /-- A path to a file reads what the file holds, if it can be read. -/
  content?_of_read {s : σ} {path : String} {file : File σ} {bytes : List UInt8}
    (hfile : file? s path = some file) (hread : read s path = .ok bytes) :
    content? s file = some bytes
  /-- A file that is there is emptied and not replaced by another one. -/
  target?_of_file? {s opened : σ} {path : String} {handle : Handle σ} {file : File σ}
    (hcreate : create s path = some (handle, opened)) (hfile : file? s path = some file) :
    target? handle = some file
  /-- The path leads to what was created through it. -/
  file?_create {s opened : σ} {path : String} {handle : Handle σ}
    (hcreate : create s path = some (handle, opened)) : file? opened path = target? handle
  /-- The file that was created is empty. -/
  content?_create {s opened : σ} {path : String} {handle : Handle σ} {file : File σ}
    (hcreate : create s path = some (handle, opened)) (hfile : target? handle = some file) :
    content? opened file = some []
  /-- All other files are as before. -/
  content?_create_of_ne {s opened : σ} {path : String} {handle : Handle σ} {file : File σ}
    (hcreate : create s path = some (handle, opened)) (hfile : target? handle ≠ some file) :
    content? opened file = content? s file
  /-- Filling an open file leads no path elsewhere. -/
  file?_fill {s : σ} {handle : Handle σ}
    (hopen : ∀ file, target? handle = some file → ∃ held, content? s file = some held)
    (bytes : List UInt8) (path : String) : file? (fill s handle bytes).2 path = file? s path
  /-- An open file that takes the bytes holds them behind what it held. -/
  content?_fill {s : σ} {handle : Handle σ} {file : File σ} {held bytes : List UInt8}
    (hfill : (fill s handle bytes).1 = true) (hfile : target? handle = some file)
    (hheld : content? s file = some held) :
    content? (fill s handle bytes).2 file = some (held ++ bytes)
  /-- All other files are as before. -/
  content?_fill_of_ne {s : σ} {handle : Handle σ} {file : File σ}
    (hfile : target? handle ≠ some file) (bytes : List UInt8) :
    content? (fill s handle bytes).2 file = content? s file

end MqAssembler
