import PlanarCrop.Json.Derived
import PlanarCrop.Settings

/-!
# Reading and writing settings

The settings and their parts as texts, with the library that is made from the
declarations here. The parts can also stand alone.
-/

namespace PlanarCrop

open Json

namespace MarginRequest

/-- The margins that a text holds. -/
def parse (text : String) : Except Problem MarginRequest := library.fromText (.record record) text

def toValue (m : MarginRequest) : Value := (Declared.record record).toValue m

end MarginRequest

namespace ChromaMode

/-- The mode that a text holds. -/
def parse (text : String) : Except Problem ChromaMode := library.fromText (.leaf leaf) text

def toValue (mode : ChromaMode) : Value := leaf.toValue mode

end ChromaMode

namespace Rotation

/-- The rotation that a text holds. -/
def parse (text : String) : Except Problem Rotation := library.fromText (.leaf leaf) text

def toValue (r : Rotation) : Value := leaf.toValue r

end Rotation

namespace Settings

/-- The settings that a text holds. -/
def parse : String → Except CropError Settings := parseWith library

def toValue (s : Settings) : Value := (Declared.flattened declaration).toValue s

/-- The settings as a compact JSON text. -/
def render (s : Settings) : String := s.toValue.render

end Settings

end PlanarCrop
