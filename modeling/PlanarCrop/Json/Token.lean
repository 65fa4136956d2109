import PlanarCrop.Json.Numeral
import PlanarCrop.Json.TextLiteral

/-!
# Tokens of JSON texts

A JSON text is a row of tokens with blanks between them. A number or a quoted
text can be read for its value or merely be passed over, and the two may find
different problems, so its token carries both outcomes. After a token that can
not even be passed over the row ends: whoever meets that token stops there.
-/

namespace PlanarCrop.Json

/-- The smallest parts of a JSON text. -/
inductive Token where
  | openList
  | closeList
  | openObject
  | closeObject
  | comma
  | colon
  | null
  | boolean (b : Bool)
  | number (value : Except Problem Number) (passing : Except Problem Unit)
  | text (content : Except Problem String) (passing : Except Problem Unit)
  /-- Something that is no token. -/
  | stray (problem : Problem)

/-- The characters that may stand between tokens. -/
def isBlank (c : Char) : Bool := c = ' ' || c = '\t' || c = '\n' || c = '\r'

namespace Token

/-- A number that can be passed over. -/
def ofNumeral (n : Numeral) : Token := .number n.value (.ok ())

/-- A number that can not. Where it is read for its value, the end of the text is
a problem of its own. -/
def ofFlaw : NumeralFlaw → Token
  | .cutOff => .number (.error .endBeforeValue) (.error .badNumber)
  | .malformed => .number (.error .badNumber) (.error .badNumber)

def ofLiteral (literal : TextLiteral) : Token := .text literal.content literal.passable

/-- The token of a word, if the text goes on with the letters of the word. -/
def word (token : Token) : List Char → List Char → Token × List Char
  | [], s => (token, s)
  | _ :: _, [] => (.stray .endBeforeValue, [])
  | expected :: letters, c :: s =>
    if c = expected then word token letters s else (.stray .misspelt, [])

/-- The number at the front of a text. -/
def readNumber (s : List Char) : Token × List Char :=
  match Numeral.read s with
  | .ok (n, rest) => (ofNumeral n, rest)
  | .error flaw => (ofFlaw flaw, [])

/-- The text behind an opening quote. -/
def readText (s : List Char) : Token × List Char :=
  let literal := TextLiteral.scan s
  (ofLiteral literal, if literal.ending = .closed then literal.rest else [])

/-- The tokens of a single character. -/
def mark? (c : Char) : Option Token :=
  if c = '[' then some .openList
  else if c = ']' then some .closeList
  else if c = '\x7b' then some .openObject
  else if c = '\x7d' then some .closeObject
  else if c = ',' then some .comma
  else if c = ':' then some .colon
  else none

/-- The token that starts with a letter. -/
def readWord (c : Char) (s : List Char) : Token × List Char :=
  if c = 'n' then word .null ['u', 'l', 'l'] s
  else if c = 't' then word (.boolean true) ['r', 'u', 'e'] s
  else if c = 'f' then word (.boolean false) ['a', 'l', 's', 'e'] s
  else (.stray .noValue, [])

/-- The token that starts with the character `c`, and what follows it. -/
def read (c : Char) (s : List Char) : Token × List Char :=
  match mark? c with
  | some token => (token, s)
  | none =>
    if c = '"' then readText s
    else if c = '-' ∨ c.isDigit then readNumber (c :: s)
    else readWord c s

theorem length_word (token : Token) (letters s : List Char) :
    (word token letters s).2.length ≤ s.length := by
  fun_induction word token letters s with
  | case1 => exact Nat.le_refl _
  | case2 => exact Nat.le_refl _
  | case3 letters c s ih => exact Nat.le_succ_of_le ih
  | case4 => exact Nat.zero_le _

theorem length_readNumber (c : Char) (s : List Char) :
    (readNumber (c :: s)).2.length ≤ s.length := by
  unfold readNumber
  split
  · next h => exact Nat.lt_succ_iff.1 (Numeral.length_read h)
  · exact Nat.zero_le _

theorem length_readText (s : List Char) : (readText s).2.length ≤ s.length := by
  simp only [readText]
  split
  · exact TextLiteral.length_rest_scan s
  · exact Nat.zero_le _

theorem length_readWord (c : Char) (s : List Char) : (readWord c s).2.length ≤ s.length := by
  unfold readWord
  split
  · exact length_word ..
  · split
    · exact length_word ..
    · split
      · exact length_word ..
      · exact Nat.zero_le _

/-- Reading a token takes at least its first character. -/
theorem length_read (c : Char) (s : List Char) : (read c s).2.length ≤ s.length := by
  unfold read
  split
  · exact Nat.le_refl _
  · split
    · exact length_readText s
    · split
      · exact length_readNumber c s
      · exact length_readWord c s

end Token

theorem length_of_dropWhile_eq_cons {p : Char → Bool} {s rest : List Char} {c : Char}
    (h : s.dropWhile p = c :: rest) : rest.length < s.length := by
  have hsplit := congrArg List.length (List.takeWhile_append_dropWhile (p := p) (l := s))
  rw [h, List.length_append, List.length_cons] at hsplit
  omega

/-- The tokens of a text. -/
def tokens (s : List Char) : List Token :=
  match _h : s.dropWhile isBlank with
  | [] => []
  | c :: rest => (Token.read c rest).1 :: tokens (Token.read c rest).2
termination_by s.length
decreasing_by
  exact Nat.lt_of_le_of_lt (Token.length_read c rest) (length_of_dropWhile_eq_cons _h)

theorem tokens_nil : tokens [] = [] := by
  rw [tokens]
  rfl

/-- Where no blank is in front, the first token starts at once. -/
theorem tokens_cons {c : Char} (h : isBlank c = false) (s : List Char) :
    tokens (c :: s) = (Token.read c s).1 :: tokens (Token.read c s).2 := by
  have hdrop : (c :: s).dropWhile isBlank = c :: s := by simp [List.dropWhile, h]
  rw [tokens.eq_def]
  split
  · next hd => rw [hdrop] at hd; cases hd
  · next hd => rw [hdrop] at hd; cases hd; rfl

end PlanarCrop.Json
