import Camcorder.CommandLine.Program

/-!
# The command line program

Loads what the arguments name into a tree of files, runs the program on it, and carries out what the run changed.
-/

namespace Camcorder.CommandLine

/-- The name of a place as the system takes it. -/
def placePath : List String → String
  | "/" :: place => "/" ++ "/".intercalate place
  | place => "/".intercalate place

/-- The entry of a directory that a path stands for. -/
def entry (path : String) : IO.FS.DirEntry := { root := path, fileName := "" }

/-- Loads what stands at a place, if anything does. Of a directory the names are loaded, and the pictures. -/
def loadPlace (t : FileTree) (place : List String) : IO FileTree := do
  let path := placePath place
  if place.isEmpty || (t.node? place).isSome then return t
  if ← (entry path).root.isDir then return t.insert place .directory
  if ← (entry path).root.pathExists then
    let content ← IO.FS.readBinFile path
    return { t.insert place (.file t.nextId content.data) with nextId := t.nextId + 1 }
  return t

/-- Loads what a path leads to, and the directories on the way. -/
def loadPath (t : FileTree) (path : String) : IO FileTree := do
  let mut t := t
  let mut place := FileTree.origin path
  t ← loadPlace t place
  for name in FileTree.steps path do
    match t.step place name with
    | .ok next =>
      place := next
      t ← loadPlace t place
    | .error _ => return t
  return t

/-- Loads the pictures of a directory. -/
def loadPictures (t : FileTree) (folder : String) : IO FileTree := do
  let mut t := t
  if ← (entry folder).root.isDir then
    for e in ← (entry folder).root.readDir do
      if isPicture e.fileName then t ← loadPath t (FileTree.join folder e.fileName)
  return t

/-- Loads all that a run may look at: what the arguments name, and where undecodable frames are kept. -/
def loadFor (args : List String) : IO FileTree := do
  let mut t : FileTree := {}
  for a in args do
    t ← loadPath t a
  if args.head? == some "record-jpeg" then
    for a in args.tail do
      t ← loadPictures t a
  for a in args do
    match Preferences.load a t with
    | .ok p => match p.diagnostics.dumpFolder with
      | some folder =>
        t ← loadPath t folder
        for k in [0:Recorder.maxDumps] do
          t ← loadPath t (FileTree.join folder (Recorder.dumpName k))
      | none => pure ()
    | .error _ => pure ()
  return t

/-- Carries out what a run changed. -/
def storeChanges (before after : FileTree) : IO Unit := do
  for (place, node) in before.entries do
    match node, after.node? place with
    | .file .., none => IO.FS.removeFile (placePath place)
    | _, _ => pure ()
  for (place, node) in after.entries.reverse do
    match node, before.node? place with
    | .directory, none => IO.FS.createDirAll (placePath place)
    | .file _ content, old =>
      if old != some node then IO.FS.writeBinFile (placePath place) ⟨content⟩
    | _, _ => pure ()

/-- The time of day, as the system dates a file made for it. -/
def currentTime : IO Timestamp := do
  let (_, path) ← IO.FS.createTempFile
  let modified := (← path.metadata).modified
  IO.FS.removeFile path
  return { seconds := modified.sec, nanos := modified.nsec.toNat }

end Camcorder.CommandLine

open Camcorder CommandLine in
def main (args : List String) : IO UInt32 := do
  let disk ← loadFor args
  let outcome := run { startedAt := ← currentTime } args disk
  storeChanges disk outcome.around.disk
  for notice in outcome.around.journal do
    IO.eprintln notice.line
  for line in outcome.output do
    IO.println line
  for line in outcome.errors do
    IO.eprintln line
  return UInt32.ofNat outcome.status
