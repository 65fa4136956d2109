import PlanarCrop.Margin
import PlanarCrop.Resolution
import PlanarCrop.Window

/-!
# Crop plans

A plan fixes how the frames of one resolution are cropped: the size they arrive
with, the margins, and how the margins are applied to the chroma planes. From it
follow the size the frames leave with and, for each plane, the window that is
copied.

In full resolution the chroma planes lose the very margins of the luma plane,
counted in chroma bytes and rows, which is a larger share of them. Subsampled
margins are halved, and the chroma windows then have the shape of the chroma
planes of the cropped frame.
-/

namespace PlanarCrop

/-- How the margins are applied to the chroma planes. -/
inductive ChromaMode where
  /-- The margins as they are. -/
  | fullResolution
  /-- Half of every margin. -/
  | subsampled
deriving DecidableEq

namespace ChromaMode

/-- The modes, the default first. -/
def all : List ChromaMode := [.fullResolution, .subsampled]

def name : ChromaMode → String
  | .fullResolution => "full_resolution"
  | .subsampled => "subsampled"

def ofName? (name : String) : Option ChromaMode :=
  all.find? fun mode => mode.name == name

end ChromaMode

/-- How the frames of one resolution are cropped. -/
structure Plan where
  resolution : Resolution
  /-- The size frames arrive with. -/
  source : Size
  margins : Margins
  chroma : ChromaMode
deriving DecidableEq

namespace Plan

/-- The size frames leave with. -/
def cropped (p : Plan) : Size := p.source.crop p.margins

/-- Whether frames pass unchanged. -/
def isIdentity (p : Plan) : Bool := p.margins.isZero

/-- Bytes of a cropped frame. -/
def croppedBytes (p : Plan) : Except Fault Nat := p.cropped.frameBytes

/-- Bytes of a frame before cropping. -/
def sourceBytes (p : Plan) : Except Fault Nat := p.source.frameBytes

/-- The rectangle that is kept of a plane whose layouts before and after cropping
are given. -/
def keep (p : Plan) (plane : Plane) (source dest : Layout) : Window :=
  if plane.isChroma && p.chroma = .subsampled then
    { source, dest
      left := p.margins.halved.left.toNat
      top := p.margins.halved.top.toNat
      span := dest.rowWidth
      rows := dest.rows }
  else
    { source, dest
      left := p.margins.left.toNat
      top := p.margins.top.toNat
      span := source.rowWidth - p.margins.horizontal
      rows := source.rows - p.margins.vertical }

/-- The window of a plane. What is kept has to fit the slot in the cropped
frame. -/
def window (p : Plan) (plane : Plane) : Except Fault Window := do
  let source ← Layout.of p.source plane
  let dest ← Layout.of p.cropped plane
  let w := p.keep plane source dest
  let kept ← w.keptBytes
  if kept ≤ dest.len then return w else throw .outOfBounds

end Plan

end PlanarCrop
