import Camcorder.Picture.Layout

/-!
# What can go wrong

`RecordingError` names each cause for which a request is refused; its wording is `RecordingError.message` and
nowhere else. A `Fault` is different: a broken promise inside the pipeline, such as an access outside a buffer.
It ends the call that meets it, and no caller inside the library handles it.

An `Attempt` is a result that may be refused or end in a fault. Operations with a state return it beside the
state they leave, so that what happened before a failure is never lost.
-/

namespace Camcorder

/-! ## Files -/

/-- Why the file system refuses a request. -/
inductive FileError where
  | notFound
  | exists
  | notADirectory
  | isADirectory
  /-- The bytes of a file are no UTF-8 text. -/
  | notText
  /-- A cause known by its wording only. -/
  | other (text : String)
deriving DecidableEq, Repr

namespace FileError

/-- The wording of the system, with its error number. -/
def message : FileError → String
  | .notFound => "No such file or directory (os error 2)"
  | .exists => "File exists (os error 17)"
  | .notADirectory => "Not a directory (os error 20)"
  | .isADirectory => "Is a directory (os error 21)"
  | .notText => "stream did not contain valid UTF-8"
  | .other text => text

end FileError

/-! ## Causes of refusal -/

/-- Why a configuration is refused. -/
inductive ConfigurationCause where
  | zeroDimension (width height : Nat)
  | oddDimension (width height : Nat)
  | rateNotPositive
  /-- None of the layouts that the backend supports is acceptable. -/
  | noLayout (backend : String) (supported : List Layout)
  /-- The H.264 backend is handed dimensions it cannot code. -/
  | uncodableDimensions (backend : String) (width height : Nat)
  /-- The loopback backend is set up to refuse every instance. -/
  | instanceRefused (backend : String)
  | compressorRefused (reason : String)
  | settingsUnreadable (cause : FileError)
  | settingsMalformed
  /-- A number of the settings has no written form. -/
  | settingsUnwritable (detail : String)
  | other (text : String)
deriving DecidableEq, Repr

namespace ConfigurationCause

def message : ConfigurationCause → String
  | .zeroDimension w h => s!"invalid dimensions {w}x{h}"
  | .oddDimension w h => s!"4:2:0 encoding needs even dimensions, got {w}x{h}"
  | .rateNotPositive => "bitrate and frame rate must be positive"
  | .noLayout backend supported =>
    let names := ", ".intercalate (supported.map Layout.name)
    s!"no usable color layout on {backend} backend (supports [{names}])"
  | .uncodableDimensions backend w h => s!"{backend} needs even, non-zero dimensions, got {w}x{h}"
  | .instanceRefused backend => s!"{backend} backend refused to create an encoder"
  | .compressorRefused reason => s!"Failed to create encoder: {reason}"
  | .settingsUnreadable cause => s!"Failed to read config file: {cause.message}"
  | .settingsMalformed => "Failed to parse config file"
  | .settingsUnwritable detail => s!"Failed to serialize config: {detail}"
  | .other text => text

end ConfigurationCause

/-- Why a compressed frame cannot be decoded. -/
inductive DecodeCause where
  /-- The data does not begin as a JPEG image does. -/
  | noImage
  /-- The data ends before the picture is complete. -/
  | cutShort
  /-- A part of the image contradicts another one or itself. -/
  | inconsistent
  /-- The image uses a coding process other than the baseline one. -/
  | notBaseline
  | other (text : String)
deriving DecidableEq, Repr

namespace DecodeCause

def message : DecodeCause → String
  | .noImage => "no start of image"
  | .cutShort => "unexpected end of data"
  | .inconsistent => "inconsistent image"
  | .notBaseline => "coding process not supported"
  | .other text => text

end DecodeCause

/-- Why a frame or an encoder request is refused while encoding. -/
inductive EncodingCause where
  /-- The frame has not the length of the configured picture. -/
  | wrongLength (actual expected : Nat)
  | slotWithoutBuffer (slot : Nat)
  | slotTooShort (slot size needed : Nat)
  | formatWithoutParameters
  /-- Every output slot is in use. -/
  | outputSlotsExhausted
  /-- A queued input has not the length of a picture. -/
  | invalidFrameSize (expected actual : Nat)
  | encoderFailed
  | other (text : String)
deriving DecidableEq, Repr

namespace EncodingCause

def message : EncodingCause → String
  | .wrongLength actual expected => s!"input frame is {actual} bytes, encoder expects {expected}"
  | .slotWithoutBuffer slot => s!"input slot {slot} has no buffer"
  | .slotTooShort slot size needed => s!"input slot {slot} holds {size} bytes, frame needs {needed}"
  | .formatWithoutParameters => "format event without parameters"
  | .outputSlotsExhausted => "output slots exhausted"
  | .invalidFrameSize expected actual => s!"Invalid frame size: expected {expected} bytes, got {actual}"
  | .encoderFailed => "Encoding failed"
  | .other text => text

end EncodingCause

/-- Why a sample or a container is refused. -/
inductive MuxingCause where
  | trackNotBuilt (reason : String)
  | sampleRefused (reason : String)
  | notFinished (reason : String)
  | other (text : String)
deriving DecidableEq, Repr

namespace MuxingCause

def message : MuxingCause → String
  | .trackNotBuilt reason => s!"Failed to create muxer: {reason}"
  | .sampleRefused reason => s!"Failed to write frame: {reason}"
  | .notFinished reason => s!"Failed to finalize recording: {reason}"
  | .other text => text

end MuxingCause

/-- Which use of a file failed. -/
inductive FileUse where
  | createOutput (path : String)
  | removeOutput (path : String)
  | createSettingsFolder
  | writeSettings
deriving DecidableEq, Repr

namespace FileUse

def message : FileUse → String
  | .createOutput path => s!"Failed to create output file {path}"
  | .removeOutput path => s!"Failed to remove existing output {path}"
  | .createSettingsFolder => "Failed to create config directory"
  | .writeSettings => "Failed to write config file"

end FileUse

/-- Why a request is refused because of the state it meets. -/
inductive StateCause where
  /-- The encoder session does not take this request in the state it is in. -/
  | wrongState (request state : String)
  | notAllocated
  | noFormat
  | slotNotDequeued (slot : Nat)
  | trackRegistered
  | other (text : String)
deriving DecidableEq, Repr

namespace StateCause

def message : StateCause → String
  | .wrongState request state => s!"{request}() called while {state}"
  | .notAllocated => "encoder not allocated"
  | .noFormat => "no encoder format"
  | .slotNotDequeued slot => s!"input slot {slot} was not dequeued"
  | .trackRegistered => "video track already registered"
  | .other text => text

end StateCause

/-! ## Errors -/

/-- An error of the recording pipeline. -/
inductive RecordingError where
  | configuration (cause : ConfigurationCause)
  /-- A buffer of this length is no frame of the session. -/
  | frameUnrecognized (len : Nat)
  /-- A compressed frame cannot be decoded. -/
  | decode (cause : DecodeCause)
  | backpressure
  | muxerNotReady
  | encoding (cause : EncodingCause)
  | muxing (cause : MuxingCause)
  | file (use : FileUse) (cause : FileError)
  /-- A file error that carries no use of its own. -/
  | bareFile (cause : FileError)
  | invalidState (cause : StateCause)
deriving DecidableEq, Repr

namespace RecordingError

/-- The wording of an error. -/
def message : RecordingError → String
  | .configuration cause => s!"Configuration error: {cause.message}"
  | .frameUnrecognized len => s!"Unrecognized frame format: {len} bytes"
  | .decode cause => s!"Decode error: {cause.message}"
  | .backpressure => "Encoder backpressure: no input slot available"
  | .muxerNotReady => "Muxer not ready: track not registered yet"
  | .encoding cause => s!"Encoding error: {cause.message}"
  | .muxing cause => s!"Muxing error: {cause.message}"
  | .file use cause => s!"IO error: {use.message}: {cause.message}"
  | .bareFile cause => s!"IO error: {cause.message}"
  | .invalidState cause => s!"Invalid state: {cause.message}"

end RecordingError

/-! ## Attempts -/

/-- A broken promise inside the pipeline. -/
inductive Fault where
  /-- An access outside a buffer. -/
  | outOfBounds
  /-- A number that does not fit its word. -/
  | overflow
  /-- A request for more memory than can be addressed. -/
  | tooLarge
  /-- An encoder instance that gave up. -/
  | instanceBroke
  /-- A loop that would never end. -/
  | endless
  /-- A use of something that is gone. -/
  | gone
deriving DecidableEq, Repr

/-- How a request failed. -/
inductive Failure where
  | error (e : RecordingError)
  | fault (f : Fault)
deriving DecidableEq, Repr

/-- A result, or how it failed. -/
abbrev Attempt (α : Type) := Except Failure α

namespace Attempt

/-- Refuses with `e`. -/
def refuse {α : Type} (e : RecordingError) : Attempt α := .error (.error e)

/-- Ends in the fault `f`. -/
def halt {α : Type} (f : Fault) : Attempt α := .error (.fault f)

/-- The value, or the fault `f` in its absence. -/
def ofOption {α : Type} (f : Fault) : Option α → Attempt α
  | some a => .ok a
  | none => halt f

end Attempt

end Camcorder
