import PlanarCrop.Cropper
import PlanarCrop.Json.Library

/-!
# Settings

The settings of a stream that concern cropping: the margins asked for, how they
apply to the chroma planes, and by how much frames are rotated before they
arrive. They are kept as one JSON object with a member for each of the six, and
what is declared here is what that object looks like: the key of each member, what
kind of value it has, and what holds where it is missing. Reading and writing is
done by a library, whichever it is.
-/

namespace PlanarCrop

open Json

/-- The crop settings of a stream. -/
structure Settings where
  margins : MarginRequest
  chroma : ChromaMode
  rotation : Rotation
deriving DecidableEq

/-! ## Margins -/

def Edge.plainKey (edge : Edge) : PlainText := ⟨edge.key, by cases edge <;> rfl⟩

theorem Edge.plainKey_injective {edge other : Edge} (h : edge.plainKey = other.plainKey) :
    edge = other :=
  key_injective (congrArg PlainText.text h)

namespace MarginRequest

/-- The margin at an edge, as a field of the request. -/
def field (edge : Edge) : RecordField MarginRequest where
  key := edge.plainKey
  Cell := Int32
  leaf := .signed32
  get m := m.get edge
  put m value := m.set edge value
  get_put m value := by rw [get_set, if_pos rfl]

theorem exists_edge_of_mem {f : RecordField MarginRequest} (h : f ∈ Edge.all.map field) :
    ∃ edge, f = field edge := by
  obtain ⟨edge, -, rfl⟩ := List.mem_map.1 h
  exact ⟨edge, rfl⟩

theorem field_mem (edge : Edge) : field edge ∈ Edge.all.map field :=
  List.mem_map_of_mem (by cases edge <;> decide)

/-- The margins, one entry for each edge. What is not asked for is zero. -/
def record : Record MarginRequest where
  name := "RawCropMargins"
  default := .zero
  fields := Edge.all.map field
  eq_of_key := by
    intro f hf g hg hkey
    obtain ⟨edge, rfl⟩ := exists_edge_of_mem hf
    obtain ⟨other, rfl⟩ := exists_edge_of_mem hg
    rw [Edge.plainKey_injective hkey]
  get_put_ne := by
    intro f hf g hg hkey m value
    obtain ⟨edge, rfl⟩ := exists_edge_of_mem hf
    obtain ⟨other, rfl⟩ := exists_edge_of_mem hg
    have hne : other ≠ edge := by
      rintro rfl
      exact hkey rfl
    exact (get_set m edge other value).trans (if_neg hne)
  ext := by
    intro m n h
    exact ext_get fun edge => h (field edge) (field_mem edge)

end MarginRequest

/-! ## Chroma mode and rotation -/

namespace ChromaMode

def plainName (mode : ChromaMode) : PlainText := ⟨mode.name, by cases mode <;> rfl⟩

/-- A mode is written as its name. -/
def leaf : Leaf ChromaMode := .names all plainName

end ChromaMode

/-- A rotation is written as its degrees. -/
def Rotation.leaf : Leaf Rotation :=
  .through .unsigned16 degrees fun d => (ofDegrees d).mapError BadAngle.message

namespace Settings

/-- Nothing is cut and nothing was rotated. -/
def default : Settings := ⟨.zero, .fullResolution, .upright⟩

/-- Default settings but for the margins. -/
def ofMargins (margins : MarginRequest) : Settings := { default with margins }

/-- The key that says how margins apply to the chroma planes. -/
def chromaKey : PlainText := ⟨"chroma_margins", rfl⟩

/-- The key of the rotation. -/
def rotationKey : PlainText := ⟨"rotation", rfl⟩

theorem chromaKey_ne_rotationKey : chromaKey ≠ rotationKey := by
  decide

def chromaField : RecordField (ChromaMode × Rotation) where
  key := chromaKey
  Cell := ChromaMode
  leaf := ChromaMode.leaf
  get s := s.1
  put s mode := (mode, s.2)
  get_put _ _ := rfl

def rotationField : RecordField (ChromaMode × Rotation) where
  key := rotationKey
  Cell := Rotation
  leaf := Rotation.leaf
  get s := s.2
  put s rotation := (s.1, rotation)
  get_put _ _ := rfl

/-- What the settings have beside the margins. -/
def own : Record (ChromaMode × Rotation) where
  name := "CropConfig"
  default := (default.chroma, default.rotation)
  fields := [chromaField, rotationField]
  eq_of_key := by
    intro f hf g hg hkey
    simp only [List.mem_cons, List.not_mem_nil, or_false] at hf hg
    obtain rfl | rfl := hf <;> obtain rfl | rfl := hg
    · rfl
    · exact absurd hkey chromaKey_ne_rotationKey
    · exact absurd hkey.symm chromaKey_ne_rotationKey
    · rfl
  get_put_ne := by
    intro f hf g hg hkey s a
    simp only [List.mem_cons, List.not_mem_nil, or_false] at hf hg
    obtain rfl | rfl := hf <;> obtain rfl | rfl := hg
    · exact absurd rfl hkey
    · rfl
    · rfl
    · exact absurd rfl hkey
  ext := by
    intro s t h
    exact Prod.ext (h chromaField (by simp)) (h rotationField (by simp))

/-- The settings, with the margins not set apart. -/
def declaration : Flattened Settings where
  Inner := MarginRequest
  Own := ChromaMode × Rotation
  inner := MarginRequest.record
  own := own
  join margins rest := ⟨margins, rest.1, rest.2⟩
  innerOf s := s.margins
  ownOf s := (s.chroma, s.rotation)

variable (lib : Library)

/-- The settings that a text holds. -/
def parseWith (text : String) : Except CropError Settings :=
  (lib.fromText (.flattened declaration) text).mapError fun problem =>
    .configuration (lib.message problem)

/-- The settings as a text. -/
def renderWith (s : Settings) : Except lib.Problem String :=
  lib.toText (.flattened declaration) s

end Settings

/-- Starts a cropper as the settings say. -/
def Cropper.ofSettings (allocator : Allocator) (capture : StreamSizes) (s : Settings) :
    Startup :=
  startRotated allocator capture s.rotation s.margins s.chroma

end PlanarCrop
