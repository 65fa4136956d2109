import PlanarCrop.CropError
import PlanarCrop.Warning

/-!
# The log

Setting up a stream, cropping and releasing it leave a log of events. An event
is kept as data; its level, its message and its named fields are read off it,
each field as text.
-/

namespace PlanarCrop

/-- How much an event matters. -/
inductive Level where
  | error
  | warn
  | debug
  | trace
deriving DecidableEq

def Level.name : Level → String
  | .error => "ERROR"
  | .warn => "WARN"
  | .debug => "DEBUG"
  | .trace => "TRACE"

/-- Something that happened to a stream. -/
inductive Event where
  /-- The margins asked for are questionable. -/
  | warned (warning : Warning)
  /-- All margins are zero, so frames will pass unchanged. -/
  | disabled
  /-- A staging buffer was set up. -/
  | allocated (resolution : Resolution) (source cropped : Size) (bytes : Nat)
  /-- No staging buffer could be set up. -/
  | startFailed (error : CropError) (resolution : Resolution)
  /-- A frame was cropped. -/
  | frameCropped (resolution : Resolution) (source cropped : Size)
  /-- The staging buffers of a stream were given back. -/
  | released (buffers : Nat)
deriving DecidableEq

namespace Event

def level : Event → Level
  | .warned _ => .warn
  | .disabled => .debug
  | .allocated _ _ _ _ => .debug
  | .startFailed _ _ => .error
  | .frameCropped _ _ _ => .trace
  | .released _ => .debug

def message : Event → String
  | .warned (.negative _ _) =>
    "crop margin is not a positive number, cropping on this edge disabled"
  | .warned (.exceedsWidth _ _ _ _) =>
    "crop_left and crop_right take away more than the frame width"
  | .warned (.exceedsHeight _ _ _ _) =>
    "crop_top and crop_bottom take away more than the frame height"
  | .disabled => "crop margins are all zero, cropping disabled"
  | .allocated _ _ _ _ => "allocated crop staging buffer"
  | .startFailed _ _ => "crop initialization failed"
  | .frameCropped _ _ _ => "cropped frame"
  | .released _ => "released crop staging buffers"

/-- The named fields of an event. A warning about two margins that are too large
also says by how much they exceed the frame. -/
def fields : Event → List (String × String)
  | .warned (.negative edge value) => [("edge", edge.key), ("value", toString value)]
  | .warned w@(.exceedsWidth resolution left right width) =>
    [("variant", resolution.name), ("left", toString left), ("right", toString right),
      ("width", toString width), ("excess", toString w.excess)]
  | .warned w@(.exceedsHeight resolution top bottom height) =>
    [("variant", resolution.name), ("top", toString top), ("bottom", toString bottom),
      ("height", toString height), ("excess", toString w.excess)]
  | .disabled => []
  | .allocated resolution source cropped bytes =>
    [("variant", resolution.name), ("source", source.text), ("cropped", cropped.text),
      ("bytes", toString bytes)]
  | .startFailed error resolution =>
    [("error", error.message), ("variant", resolution.name)]
  | .frameCropped resolution source cropped =>
    [("variant", resolution.name), ("source", source.text), ("cropped", cropped.text)]
  | .released buffers => [("buffers", toString buffers)]

end Event

end PlanarCrop
