import Camcorder.CommandLine.Arguments
import Camcorder.Invisible
import Camcorder.Settings.Preferences

/-!
# How commands fail

A `CommandFailure` names each cause for which a command ends without having done its work. What is printed then
and the exit status follow from the cause.
-/

namespace Camcorder.CommandLine

/-! ## Quoted text -/

/-- A number in hexadecimal digits. -/
def hexText (n : Nat) : String := String.ofList (Nat.toDigits 16 n)

/-- A character as it stands between double quotes. -/
def quoteChar (c : Char) : String :=
  if c == '"' then "\\\""
  else if c == '\\' then "\\\\"
  else if c == '\n' then "\\n"
  else if c == '\r' then "\\r"
  else if c == '\t' then "\\t"
  else if c == '\x00' then "\\0"
  else if isInvisible c then "\\u\x7b" ++ hexText c.toNat ++ "\x7d"
  else String.ofList [c]

/-- A text between double quotes, on a single line and with nothing invisible in it. -/
def quote (s : String) : String := "\"" ++ String.join (s.toList.map quoteChar) ++ "\""

/-! ## Failures -/

/-- The commands that record. -/
inductive RecordingCommand where
  /-- Records a dump of raw frames. -/
  | dump
  /-- Records the pictures in a directory. -/
  | pictures
deriving DecidableEq, Repr

namespace RecordingCommand

def usage : RecordingCommand → String
  | .dump => "Usage: crabrecord-cli record <input.raw> <width> <height> <output.mp4> " ++
      "[--format auto|yuyv|i422|nv12] [--frames N] [--interval-ms N] [--config file] [--json]"
  | .pictures => "Usage: crabrecord-cli record-jpeg <dir> <width> <height> <output.mp4> " ++
      "[--frames N] [--interval-ms N] [--config file] [--json]"

end RecordingCommand

/-- Why a command ends without having done its work. -/
inductive CommandFailure where
  | noCommand
  | unknownCommand (name : String)
  | missingOperands (command : RecordingCommand)
  | argument (e : ArgumentError)
  /-- A dump cannot hold compressed frames: they differ in length. -/
  | compressedDump
  /-- A dump is not made of whole frames, whatever their format. -/
  | unevenDump (size : Nat) (g : Geometry)
  | noPictures (folder : String)
  | file (cause : FileError)
  | settings (cause : ConfigurationCause)
  | unfitSettings (flaw : Preferences.Flaw)
  | notStarted
  | notRecording
  | fault (f : Fault)
deriving DecidableEq, Repr

namespace CommandFailure

/-- The wording of a failure, if a sentence describes it. -/
def message : CommandFailure → String
  | .noCommand => "Usage: crabrecord-cli <command> [args]"
  | .unknownCommand name => s!"Unknown command: {name}"
  | .missingOperands command => command.usage
  | .argument e => e.message
  | .compressedDump => "use record-jpeg for JPEG frames"
  | .unevenDump size g => s!"{size} bytes is not a whole number of {g.width}x{g.height} frames"
  | .noPictures folder => s!"No JPEG files in {folder}"
  | .file cause => cause.message
  | .settings cause => cause.message
  | .unfitSettings flaw => flaw.message
  | .notStarted => "Failed to start recording (see log for details)"
  | .notRecording => "Recorder was not recording"
  | .fault _ => "internal fault"

/-- A record: its name and its fields in braces. -/
def record (name fields : String) : String := name ++ " \x7b " ++ fields ++ " \x7d"

/-- The error of a file system: its number, its kind and the wording without the number. -/
def fileRecord : FileError → String
  | .notFound => record "Os" "code: 2, kind: NotFound, message: \"No such file or directory\""
  | .exists => record "Os" "code: 17, kind: AlreadyExists, message: \"File exists\""
  | .notADirectory => record "Os" "code: 20, kind: NotADirectory, message: \"Not a directory\""
  | .isADirectory => record "Os" "code: 21, kind: IsADirectory, message: \"Is a directory\""
  | .notText => record "Error" ("kind: InvalidData, message: " ++ quote FileError.notText.message)
  | .other text => record "Custom" ("kind: Other, error: " ++ quote text)

/-- The flaw of a numeral as a record. -/
def numeralRecord : Decimal.NumeralFlaw → String
  | .empty => record "ParseIntError" "kind: Empty"
  | .invalidDigit => record "ParseIntError" "kind: InvalidDigit"
  | .tooLarge => record "ParseIntError" "kind: PosOverflow"

/-- A failure as an error line shows it: by its kind where it has one, else by its quoted wording. -/
def shown : CommandFailure → String
  | .argument (.numeral flaw) => numeralRecord flaw
  | .file cause => fileRecord cause
  | .settings cause => "Configuration(" ++ quote cause.message ++ ")"
  | failure => quote failure.message

/-- What is printed for a failure. -/
def lines : CommandFailure → List String
  | .noCommand => [CommandFailure.noCommand.message, "Commands: record, record-jpeg, info"]
  | .unknownCommand name => [(CommandFailure.unknownCommand name).message]
  | .missingOperands command => [(CommandFailure.missingOperands command).message]
  | .fault f => [(CommandFailure.fault f).message]
  | failure => ["Error: " ++ failure.shown]

/-- The exit status. -/
def status : CommandFailure → Nat
  | .fault _ => 101
  | _ => 1

end CommandFailure

end Camcorder.CommandLine
