import Camcorder.Decimal.Numeral
import Camcorder.Frame.Format

/-!
# Arguments of the recording commands

The arguments are a sequence of groups: an operand, the switch `--json`, or an option with the value that follows
it. Whatever follows an option is its value, even if it looks like an option. The last of several groups for the
same option counts.
-/

namespace Camcorder.CommandLine

/-- An option that takes a value. -/
inductive ValueOption where
  | format
  | frames
  | interval
  | preferences
deriving DecidableEq, Repr

namespace ValueOption

def all : List ValueOption := [.format, .frames, .interval, .preferences]

def name : ValueOption → String
  | .format => "--format"
  | .frames => "--frames"
  | .interval => "--interval-ms"
  | .preferences => "--config"

def ofName? (s : String) : Option ValueOption := all.find? fun o => o.name == s

end ValueOption

/-- Why arguments are refused. -/
inductive ArgumentError where
  | missingValue (option : ValueOption)
  | unknownFormat (name : String)
  | numeral (flaw : Decimal.NumeralFlaw)
deriving DecidableEq, Repr

namespace ArgumentError

def message : ArgumentError → String
  | .missingValue option => s!"{option.name} needs a value"
  | .unknownFormat name => s!"Unknown format: {name} (auto, yuyv, i422, nv12)"
  | .numeral flaw => flaw.message

end ArgumentError

/-- A group of arguments. -/
inductive Argument where
  | operand (text : String)
  | json
  /-- The format of all frames; `none` lets each frame be recognised. -/
  | format (format : Option FrameFormat)
  | frames (limit : Nat)
  | interval (millis : Nat)
  | preferences (path : String)
deriving DecidableEq, Repr

namespace Argument

/-- The switch for a report in JSON. -/
def jsonSwitch : String := "--json"

/-- The format with a name in small letters. -/
def formatOfName? : String → Option (Option FrameFormat)
  | "auto" => some none
  | "yuyv" => some (some .packed422)
  | "i422" => some (some .planar422)
  | "nv12" => some (some .semiPlanar420)
  | "mjpeg" => some (some .compressed)
  | "jpeg" => some (some .compressed)
  | _ => none

/-- The group of an option and its value. -/
def ofValue (option : ValueOption) (value : String) : Except ArgumentError Argument :=
  match option with
  | .format =>
    let name := value.map Char.toLower
    match formatOfName? name with
    | some f => .ok (.format f)
    | none => .error (.unknownFormat name)
  | .frames => ((Decimal.readNumeral wordLimit value).map .frames).mapError .numeral
  | .interval => ((Decimal.readNumeral wordLimit value).map .interval).mapError .numeral
  | .preferences => .ok (.preferences value)

/-- Splits arguments into groups. -/
def groups : List String → Except ArgumentError (List Argument)
  | [] => .ok []
  | token :: rest =>
    if token = jsonSwitch then do return .json :: (← groups rest)
    else match ValueOption.ofName? token, rest with
      | none, rest => do return .operand token :: (← groups rest)
      | some option, [] => .error (.missingValue option)
      | some option, value :: rest => do
        let group ← ofValue option value
        return group :: (← groups rest)

end Argument

/-- What the arguments of a recording command ask for. -/
structure Arguments where
  operands : List String := []
  format : Option FrameFormat := none
  /-- How many frames are taken at most. -/
  limit : Option Nat := none
  /-- Milliseconds from one frame to the next. -/
  interval : Nat := 33
  preferences : Option String := none
  json : Bool := false
deriving DecidableEq, Repr

namespace Arguments

/-- Adds a group. -/
def add (a : Arguments) : Argument → Arguments
  | .operand text => { a with operands := a.operands ++ [text] }
  | .json => { a with json := true }
  | .format format => { a with format }
  | .frames limit => { a with limit := some limit }
  | .interval millis => { a with interval := millis }
  | .preferences path => { a with preferences := some path }

/-- Reads the arguments that follow the name of the command. -/
def read (tokens : List String) : Except ArgumentError Arguments := do
  return (← Argument.groups tokens).foldl add {}

end Arguments

end Camcorder.CommandLine
