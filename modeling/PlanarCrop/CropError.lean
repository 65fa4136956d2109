import PlanarCrop.Resolution

/-!
# Errors

An error says what is wrong with what the caller handed in. Each cause is kept
as data, and the sentence about it is made in one place. Only a missing staging
buffer stops a stream for good.

`Failure` joins the errors with the faults: an operation that did not succeed
either refused its input with an error or stopped with a fault.
-/

namespace PlanarCrop

/-- Why the frames handed in do not fit the stream. -/
inductive InvalidData where
  /-- The frame has another size than the stream was set up for. -/
  | sizeMismatch (resolution : Resolution) (actual expected : Size)
  /-- The buffer is shorter than the frame's size asks for. -/
  | shortBuffer (size : Size) (needed held : Nat)
  /-- The staging buffer does not hold exactly one cropped frame. -/
  | stagingMismatch (resolution : Resolution) (held needed : Nat)
  /-- The stream has this resolution, and no frame of it was captured. -/
  | missingFrame (resolution : Resolution)
  /-- A frame was captured in a resolution that the stream does not have. -/
  | unexpectedFrame (resolution : Resolution)
  /-- A cause that the caller puts into words. -/
  | other (message : String)
deriving DecidableEq

def InvalidData.message : InvalidData → String
  | .sizeMismatch resolution actual expected =>
    s!"{resolution.name} frame is {actual.text}, crop was configured for {expected.text}"
  | .shortBuffer size needed held =>
    s!"{size.text} frame needs {needed} bytes, buffer holds {held}"
  | .stagingMismatch resolution held needed =>
    s!"{resolution.name} staging buffer holds {held} bytes, cropped frame needs {needed}"
  | .missingFrame resolution =>
    s!"stream is configured for {resolution.name} frames but none was captured"
  | .unexpectedFrame resolution =>
    s!"captured a {resolution.name} frame but the stream has no {resolution.name} variant"
  | .other message => message

/-- What is wrong with what the caller handed in. -/
inductive CropError where
  /-- No staging buffer of `bytes` bytes could be had. -/
  | allocation (resolution : Resolution) (bytes : Nat)
  /-- The frames do not fit the stream. -/
  | invalidData (cause : InvalidData)
  /-- The configuration could not be read. -/
  | configuration (message : String)
deriving DecidableEq

namespace CropError

def message : CropError → String
  | .allocation resolution bytes =>
    s!"failed to allocate {bytes} byte staging buffer for {resolution.name} frames"
  | .invalidData cause => s!"invalid data: {cause.message}"
  | .configuration message => s!"invalid configuration: {message}"

/-- Whether the error has to stop the stream on which it came up. -/
def isFatal : CropError → Bool
  | .allocation _ _ => true
  | _ => false

end CropError

/-- How an operation ends that does not succeed. -/
inductive Failure where
  | rejected (error : CropError)
  | fault (fault : Fault)
deriving DecidableEq

/-- A failure for frames that do not fit the stream. -/
def Failure.invalid (cause : InvalidData) : Failure := .rejected (.invalidData cause)

/-- The value of a computation that can only stop with a fault. -/
def Failure.ofFault {α : Type} : Except Fault α → Except Failure α :=
  Except.mapError .fault

end PlanarCrop
