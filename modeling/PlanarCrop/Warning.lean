import PlanarCrop.Margin
import PlanarCrop.Resolution

/-!
# Warnings about margins

A bad margin never stops a stream. A negative margin is taken as zero; a pair of
opposite margins that takes away more than the frame leaves an empty side. Each
such case is reported as a warning that says what was asked for. Margins that
take away exactly the whole frame are silent.
-/

namespace PlanarCrop

/-- What is wrong with the margins a user asked for. -/
inductive Warning where
  /-- The margin at `edge` is negative and counts as zero. -/
  | negative (edge : Edge) (value : Int32)
  /-- Left and right margin together take away more than the frame width. -/
  | exceedsWidth (resolution : Resolution) (left right width : UInt32)
  /-- Top and bottom margin together take away more than the frame height. -/
  | exceedsHeight (resolution : Resolution) (top bottom height : UInt32)
deriving DecidableEq

namespace Warning

/-- By how many pixels a pair of margins exceeds the frame. -/
def excess : Warning → Nat
  | .negative _ _ => 0
  | .exceedsWidth _ left right width => left.toNat + right.toNat - width.toNat
  | .exceedsHeight _ top bottom height => top.toNat + bottom.toNat - height.toNat

/-- The warning as a sentence for the user. -/
def text : Warning → String
  | .negative edge value =>
    s!"config option \"{edge.key}\" not positive number: {value}"
  | .exceedsWidth resolution left right width =>
    s!"\"crop_left\" ({left}) and \"crop_right\" ({right}) take away more than the "
      ++ s!"{resolution.name} frame width: {width}"
  | .exceedsHeight resolution top bottom height =>
    s!"\"crop_top\" ({top}) and \"crop_bottom\" ({bottom}) take away more than the "
      ++ s!"{resolution.name} frame height: {height}"

end Warning

/-- One warning for each negative margin of a request, in the order of the edges. -/
def MarginRequest.warnings (m : MarginRequest) : List Warning :=
  Edge.all.filterMap fun edge =>
    if m.get edge < 0 then some (.negative edge (m.get edge)) else none

/-- Warnings about margins that take away more than a frame of `size` has, the
width before the height. -/
def Margins.extentWarnings (m : Margins) (resolution : Resolution) (size : Size) :
    List Warning :=
  (if size.width.toNat < m.horizontal then
    [.exceedsWidth resolution m.left m.right size.width] else []) ++
  (if size.height.toNat < m.vertical then
    [.exceedsHeight resolution m.top m.bottom size.height] else [])

/-- Everything there is to say about a request for a stream: first the negative
margins, then the margins that are too large for a resolution that is present. -/
def StreamSizes.marginWarnings (sizes : StreamSizes) (request : MarginRequest) :
    List Warning :=
  request.warnings ++ sizes.present.flatMap fun (resolution, size) =>
    (Margins.ofRequest request).extentWarnings resolution size

end PlanarCrop
