import Camcorder.Bytes
import Camcorder.Error

/-!
# A tree of files

`FileTree` holds the directories and files below one directory. Requests name their target by a path as it is
typed; they answer with the changed tree or the error of the file system.

A file has an identity besides its path, so that a writer that holds it open goes on writing into it after the
path is removed or names something else. A device may also refuse a creation for reasons of its own: `refusals`
says which of the creations to come it refuses.
-/

namespace Camcorder

/-- What a path can name. -/
inductive FileTree.Node where
  | directory
  /-- A file, its identity and its bytes. -/
  | file (id : Nat) (content : Bytes)
deriving DecidableEq, Repr

/-- The directories and files below the working directory. -/
structure FileTree where
  /-- Every path in use but the working directory itself, and what it names. -/
  entries : List (List String × FileTree.Node) := []
  /-- The identity of the next file. -/
  nextId : Nat := 0
  /-- For each creation to come, in order, the error with which the device refuses it, if it does. -/
  refusals : List (Option FileError) := []
deriving Repr

namespace FileTree

/-! ## Paths -/

/-- The steps of a path: what stands between the slashes. -/
def steps (path : String) : List String := ((path.toList.splitOn '/').map String.ofList).filter (· != "")

/-- Whether a path begins at the root of all files and not at the working directory. -/
def isAbsolute (path : String) : Bool := path.startsWith "/"

/-- The place where a path begins. The root of all files stands in the tree under the name `/`. -/
def origin (path : String) : List String := if isAbsolute path then ["/"] else []

/-- The place above `here`. Those above the working directory stand in the tree under the name `..`. -/
def climb (here : List String) : List String :=
  if here == ["/"] then here
  else if here.all (· == "..") then here ++ [".."]
  else here.dropLast

/-- What stands at a place. -/
def node? (t : FileTree) : List String → Option Node
  | [] => some .directory
  | place => t.entries.lookup place

/-- Goes one step, which only a directory allows. -/
def step (t : FileTree) (here : List String) (name : String) : Except FileError (List String) :=
  match t.node? here with
  | some .directory => .ok (if name == "." then here else if name == ".." then climb here else here ++ [name])
  | some (.file ..) => .error .notADirectory
  | none => .error .notFound

/-- The place that a path leads to, whether or not anything stands there. The empty path leads nowhere. -/
def locate (t : FileTree) (path : String) : Except FileError (List String) :=
  if path == "" then .error .notFound else (steps path).foldlM t.step (origin path)

/-- Whether a path asks for a directory by the way it ends. -/
def asksForDirectory (path : String) : Bool := path.endsWith "/"

/-- What a path names, or why it cannot be reached. -/
def resolve (t : FileTree) (path : String) : Except FileError Node := do
  match t.node? (← t.locate path) with
  | some (.file id content) => if asksForDirectory path then .error .notADirectory else .ok (.file id content)
  | some .directory => .ok .directory
  | none => .error .notFound

/-- The path of the directory that holds `path`. -/
def parent (path : String) : String :=
  (if isAbsolute path then "/" else "") ++ "/".intercalate (steps path).dropLast

/-- The path of `name` in a directory. -/
def join (folder name : String) : String :=
  if folder == "" || folder.endsWith "/" then folder ++ name else folder ++ "/" ++ name

/-- What follows the last point of a name, if there is one with something before it. -/
def extension? (name : String) : Option String :=
  let parts := name.splitOn "."
  if ".".intercalate parts.dropLast == "" then none else parts.getLast?

/-! ## Requests -/

/-- Whether the path names something. -/
def contains (t : FileTree) (path : String) : Bool := (t.resolve path).isOk

/-- Puts `n` at a place. -/
def insert (t : FileTree) (place : List String) (n : Node) : FileTree :=
  { t with entries := (place, n) :: t.entries.filter (·.1 != place) }

/-- The bytes that a directory itself takes up. -/
def directorySize : Nat := 4096

/-- The size of what a path names. -/
def size (t : FileTree) (path : String) : Except FileError Nat := do
  match ← t.resolve path with
  | .file _ content => .ok content.size
  | .directory => .ok directorySize

/-- The bytes of a file. -/
def read (t : FileTree) (path : String) : Except FileError Bytes :=
  match t.resolve path with
  | .ok (.file _ content) => .ok content
  | .ok .directory => .error .isADirectory
  | .error e => .error e

/-- The text of a file. -/
def readText (t : FileTree) (path : String) : Except FileError String := do
  match Bytes.toText? (← t.read path) with
  | some s => .ok s
  | none => .error .notText

/-- Opens a file for writing from its start, and answers its identity. An existing file is emptied and keeps its
identity; a directory is refused. -/
def create (t : FileTree) (path : String) : Except FileError Nat × FileTree :=
  let refusal := t.refusals.head?.join
  let t := { t with refusals := t.refusals.tail }
  match refusal with
  | some e => (.error e, t)
  | none =>
    match t.locate path with
    | .error e => (.error e, t)
    | .ok place =>
      if asksForDirectory path then (.error .isADirectory, t)
      else match t.node? place with
        | some .directory => (.error .isADirectory, t)
        | some (.file id _) => (.ok id, t.insert place (.file id #[]))
        | none => (.ok t.nextId, { t.insert place (.file t.nextId #[]) with nextId := t.nextId + 1 })

/-- Writes `content` at the start of the open file `id`, whatever path names it now, if any. -/
def store (t : FileTree) (id : Nat) (content : Bytes) : FileTree :=
  { t with entries := t.entries.map fun
      | (cs, .file i old) =>
        if i == id then (cs, .file i (content ++ old.extract content.size old.size)) else (cs, .file i old)
      | e => e }

/-- Replaces the file at `path`, or makes it. -/
def write (t : FileTree) (path : String) (content : Bytes) : Except FileError Unit × FileTree :=
  match t.create path with
  | (.ok id, t) => (.ok (), t.store id content)
  | (.error e, t) => (.error e, t)

/-- Removes a file; a directory is refused. -/
def remove (t : FileTree) (path : String) : Except FileError FileTree := do
  let place ← t.locate path
  match ← t.resolve path with
  | .file .. => .ok { t with entries := t.entries.filter (·.1 != place) }
  | .directory => .error .isADirectory

/-- Makes a directory and those above it that are missing; the empty path asks for nothing. -/
def makeFolders (t : FileTree) (path : String) : Except FileError FileTree := do
  let names := steps path
  let (t, _) ← (names.zipIdx 1).foldlM (fun (t, here) (name, i) => do
    let place ← t.step here name
    match t.node? place with
    | none => .ok (t.insert place .directory, place)
    | some .directory => .ok (t, place)
    | some (.file ..) => .error (if i == names.length then .exists else .notADirectory)) (t, origin path)
  return t

/-- The names in a directory, sorted. -/
def list (t : FileTree) (path : String) : Except FileError (List String) := do
  match ← t.resolve path with
  | .directory =>
    let place ← t.locate path
    let names := t.entries.filterMap fun (p, _) => if p.dropLast == place then p.getLast? else none
    .ok ((names.filter fun n => n != ".." && n != "/").mergeSort (fun a b => decide (a ≤ b)))
  | .file .. => .error .notADirectory

/-- Makes the directories above `path` as far as they are missing, then the file. -/
def writeDeep (t : FileTree) (path : String) (content : Bytes) : Except FileError FileTree := do
  let t ← t.makeFolders (parent path)
  match t.write path content with
  | (.ok (), t) => .ok t
  | (.error e, _) => .error e

end FileTree

end Camcorder
