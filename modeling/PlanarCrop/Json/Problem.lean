import PlanarCrop.Decimal.Shortest
import PlanarCrop.Text.Quoted

/-!
# What can be wrong with a JSON text

A JSON text is read from left to right and the first problem ends the reading.
Some problems concern the form of the text, the others a well-formed value that
is not what was wanted in its place.
-/

namespace PlanarCrop.Json

/-- What was found where another value was wanted. Of a list or an object only the
kind is known. -/
inductive Found where
  | null
  | boolean (b : Bool)
  | integer (i : Int)
  | real (x : Float)
  | text (s : String)
  | list
  | object
deriving DecidableEq

def Found.describe : Found → String
  | .null => "null"
  | .boolean b => s!"boolean `{b}`"
  | .integer i => s!"integer `{i}`"
  | .real x => s!"floating point `{Decimal.text x}`"
  | .text s => s!"string {Text.quote s}"
  | .list => "sequence"
  | .object => "map"

/-- The first thing that is wrong with a JSON text. -/
inductive Problem where
  /-- The text ends where a value is due. -/
  | endBeforeValue
  /-- The text ends inside an object. -/
  | endInObject
  /-- The text ends inside a list. -/
  | endInList
  /-- The text ends inside a quoted text. -/
  | endInText
  /-- No value starts with the character that stands where one is due. -/
  | noValue
  /-- A word that starts like `null`, `true` or `false` goes on differently. -/
  | misspelt
  | keyNotText
  | noColon
  | noCommaInObject
  | noCommaInList
  | trailingComma
  | badNumber
  /-- The number is larger than every double. -/
  | numberTooLarge
  | badEscape
  | controlCharacter
  /-- The first half of a surrogate pair is not followed by an escaped code unit. -/
  | halfPair
  /-- A half of a surrogate pair stands where the other half is wanted. -/
  | loneSurrogate
  /-- Lists and objects are nested too deeply. -/
  | tooDeep
  /-- Something follows the value. -/
  | trailingText
  /-- A value of the wrong kind. -/
  | wrongKind (found : Found) (wanted : String)
  /-- An integer outside the range that is wanted. -/
  | outOfRange (value : Int) (wanted : String)
  /-- A key that may occur once occurs again. -/
  | repeatedKey (key : String)
  /-- A name that is none of those that are known. -/
  | unknownName (name : String) (known : List String)
  /-- A value that breaks a rule of the application. -/
  | refused (reason : String)
deriving DecidableEq

/-- Names between backticks, with `or` between the last two. -/
def nameList : List String → String
  | [] => ""
  | [a] => s!"`{a}`"
  | [a, b] => s!"`{a}` or `{b}`"
  | a :: rest => s!"`{a}`, " ++ nameList rest

def Problem.message : Problem → String
  | .endBeforeValue => "EOF while parsing a value"
  | .endInObject => "EOF while parsing an object"
  | .endInList => "EOF while parsing a list"
  | .endInText => "EOF while parsing a string"
  | .noValue => "expected value"
  | .misspelt => "expected ident"
  | .keyNotText => "key must be a string"
  | .noColon => "expected `:`"
  | .noCommaInObject => "expected `,` or `\x7d`"
  | .noCommaInList => "expected `,` or `]`"
  | .trailingComma => "trailing comma"
  | .badNumber => "invalid number"
  | .numberTooLarge => "number out of range"
  | .badEscape => "invalid escape"
  | .controlCharacter => "control character (\\u0000-\\u001F) found while parsing a string"
  | .halfPair => "unexpected end of hex escape"
  | .loneSurrogate => "lone leading surrogate in hex escape"
  | .tooDeep => "recursion limit exceeded"
  | .trailingText => "trailing characters"
  | .wrongKind found wanted => s!"invalid type: {found.describe}, expected {wanted}"
  | .outOfRange value wanted => s!"invalid value: integer `{value}`, expected {wanted}"
  | .repeatedKey key => s!"duplicate field `{key}`"
  | .unknownName name known => s!"unknown variant `{name}`, expected {nameList known}"
  | .refused reason => reason

end PlanarCrop.Json
