import Camcorder.Settings.Preferences
import Camcorder.Surroundings
import Camcorder.Toml.Reader

/-!
# The preferences file

Preferences are kept in a TOML document of three tables. Everything in it may be missing, and has its default
then; keys that mean nothing are passed over.
-/

namespace Camcorder.Preferences

/-! ## Reading -/

/-- A field that is either missing or there. -/
def optional {α : Type} (read? : Toml.Value → Option α) (v : Toml.Value) : Option (Option α) := (read? v).map some

def readEncoder? (v : Toml.Value) : Option EncoderPreferences := do
  let fields ← v.toFields? ["bitrate", "frame_rate", "key_frame_interval_secs", "layout"]
  let d : EncoderPreferences := {}
  return {
    bitrate := ← fields.field "bitrate" d.bitrate (Toml.Value.toNatBelow? halfWordLimit)
    frameRate := ← fields.field "frame_rate" d.frameRate (Toml.Value.toNatBelow? halfWordLimit)
    keyFrameSeconds := ← fields.field "key_frame_interval_secs" d.keyFrameSeconds (Toml.Value.toNatBelow? halfWordLimit)
    layout := ← fields.field "layout" d.layout (optional (Toml.Value.toName? Layout.ofName?)) }

def readOutput? (v : Toml.Value) : Option OutputPreferences := do
  let fields ← v.toFields? ["fast_start", "title"]
  let d : OutputPreferences := {}
  return {
    fastStart := ← fields.field "fast_start" d.fastStart Toml.Value.toBool?
    title := ← fields.field "title" d.title (optional Toml.Value.toText?) }

def readDiagnostics? (v : Toml.Value) : Option DiagnosticPreferences := do
  let fields ← v.toFields? ["debug_dump_dir", "stats_window", "min_healthy_fps"]
  let d : DiagnosticPreferences := {}
  return {
    dumpFolder := ← fields.field "debug_dump_dir" d.dumpFolder (optional Toml.Value.toText?)
    window := ← fields.field "stats_window" d.window (Toml.Value.toNatBelow? wordLimit)
    minimumRate := ← fields.field "min_healthy_fps" d.minimumRate Toml.Value.toFloat? }

/-- The preferences that a document writes. -/
def read? (text : String) : Option Preferences := do
  let fields ← (← Toml.read? text).toFields? ["encoder", "output", "diagnostics"]
  return {
    encoder := ← fields.field "encoder" {} readEncoder?
    output := ← fields.field "output" {} readOutput?
    diagnostics := ← fields.field "diagnostics" {} readDiagnostics? }

/-! ## Writing -/

/-- A line for a field that may be missing. -/
def optionalLine {α : Type} (key : String) (write : α → String) : Option α → List String
  | none => []
  | some a => [Toml.line key (write a)]

/-- The document of preferences, or the number in them that a document cannot hold. -/
def render (p : Preferences) : Except Nat String :=
  if Toml.greatestInteger < p.diagnostics.window then .error p.diagnostics.window
  else
    let encoder := Toml.tableText "encoder" ([
      Toml.line "bitrate" (Decimal.natText p.encoder.bitrate),
      Toml.line "frame_rate" (Decimal.natText p.encoder.frameRate),
      Toml.line "key_frame_interval_secs" (Decimal.natText p.encoder.keyFrameSeconds)] ++
      optionalLine "layout" (fun l => Toml.quote (Layout.name l)) p.encoder.layout)
    let output := Toml.tableText "output" (
      Toml.line "fast_start" (Toml.boolText p.output.fastStart) :: optionalLine "title" Toml.quote p.output.title)
    let diagnostics := Toml.tableText "diagnostics" (
      optionalLine "debug_dump_dir" Toml.quote p.diagnostics.dumpFolder ++ [
      Toml.line "stats_window" (Decimal.natText p.diagnostics.window),
      Toml.line "min_healthy_fps" (Toml.floatText p.diagnostics.minimumRate)])
    .ok ("\n".intercalate [encoder, output, diagnostics])

/-! ## Files -/

/-- Loads preferences. Where there is no file, they are the default ones. -/
def load (path : String) (disk : FileTree) : Except ConfigurationCause Preferences :=
  if !disk.contains path then .ok {}
  else match disk.readText path with
    | .error cause => .error (.settingsUnreadable cause)
    | .ok text =>
      match read? text with
      | some p => .ok p
      | none => .error .settingsMalformed

/-- Saves preferences; directories on the way are made. -/
def save (p : Preferences) (path : String) (disk : FileTree) : Attempt Unit × FileTree :=
  match disk.makeFolders (FileTree.parent path) with
  | .error cause => (Attempt.refuse (.file .createSettingsFolder cause), disk)
  | .ok disk =>
    match p.render with
    | .error n => (Attempt.refuse (.configuration (.settingsUnwritable s!"out of range: {n}")), disk)
    | .ok text =>
      match disk.write path (Bytes.ofText text) with
      | (.ok (), disk) => (.ok (), disk)
      | (.error cause, disk) => (Attempt.refuse (.file .writeSettings cause), disk)

/-- Where preferences are kept unless another path is given. -/
def defaultPath : String := "crabrecord.toml"

/-- Loads the preferences at the default path. If that fails, which is noted, they are the default ones. -/
def loadDefault (s : Surroundings) : Preferences × Surroundings :=
  match load defaultPath s.disk with
  | .ok p => (p, s)
  | .error cause => ({}, s.note (.settingsIgnored (.configuration cause)))

end Camcorder.Preferences
