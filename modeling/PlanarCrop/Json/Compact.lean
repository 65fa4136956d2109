/-!
# Compact texts

The compact text of an object has no blanks: its entries follow each other with
commas between them, each a quoted key, a colon and a value. Only entries with a
plain key and with a scalar for a value are spoken of here, which leaves nothing
in their texts that could be written in two ways.
-/

namespace PlanarCrop.Json

/-- Whether a character stands in a quoted text as it is: it is no quote, no
backslash and no control character. -/
def isPlain (c : Char) : Bool := c != '"' && c != '\\' && 0x20 ≤ c.toNat

/-- A text that stands between quotes as it is. -/
structure PlainText where
  text : String
  plain : text.toList.all isPlain = true
deriving DecidableEq

theorem PlainText.ext {t u : PlainText} (h : t.text = u.text) : t = u := by
  cases t
  cases u
  cases h
  rfl

def PlainText.quoted (t : PlainText) : String := "\"" ++ t.text ++ "\""

/-- A value that has no parts. -/
inductive Scalar where
  | null
  | boolean (b : Bool)
  | integer (i : Int)
  | text (t : PlainText)
deriving DecidableEq

namespace Scalar

/-- Every reader can hold the value: an integer is one of 64 bits, with or without
a sign. -/
def Fits : Scalar → Prop
  | .integer i => -0x8000000000000000 ≤ i ∧ i < 0x10000000000000000
  | _ => True

def write : Scalar → String
  | .null => "null"
  | .boolean b => toString b
  | .integer i => toString i
  | .text t => t.quoted

end Scalar

/-- A key and its value. -/
structure Entry where
  key : PlainText
  value : Scalar
deriving DecidableEq

def Entry.write (e : Entry) : String := e.key.quoted ++ ":" ++ e.value.write

/-- The compact text of an object. -/
def objectText (entries : List Entry) : String :=
  "\x7b" ++ ",".intercalate (entries.map Entry.write) ++ "\x7d"

example : objectText [⟨⟨"a", rfl⟩, .integer (-5)⟩, ⟨⟨"b", rfl⟩, .null⟩] =
    "\x7b\"a\":-5,\"b\":null\x7d" := by
  decide

end PlanarCrop.Json
