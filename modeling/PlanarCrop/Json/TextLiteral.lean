import PlanarCrop.Json.Problem

/-!
# Quoted texts in JSON

Behind its opening quote a text is a row of pieces up to the closing quote: plain
characters, escaped ones among them, and code units written in hexadecimal. Two
code units that are the halves of a surrogate pair make one character, and a half
without the other is a problem.

A text can be read for its content or merely be passed over. Passing over looks
at the pieces alone, so a half of a surrogate pair does no harm there. Reading
looks at the pieces in order, and the first problem counts.
-/

namespace PlanarCrop.Json

/-- A part of a quoted text. -/
inductive Piece where
  /-- A character, written as it is or as a short escape. -/
  | plain (c : Char)
  /-- A code unit, written as four hexadecimal digits. -/
  | unit (n : Nat)
deriving DecidableEq

/-- How the pieces of a quoted text end. -/
inductive Ending where
  /-- With the closing quote. -/
  | closed
  /-- With the end of the whole text. -/
  | cutOff
  | controlCharacter
  /-- With a backslash before a character that is no escape. -/
  | unknownEscape
  /-- With a code unit that is not written in four hexadecimal digits. -/
  | badUnit
deriving DecidableEq

/-- The pieces at the front of a text, how they end, and what follows. -/
structure TextLiteral where
  pieces : List Piece
  ending : Ending
  rest : List Char
deriving DecidableEq

namespace TextLiteral

/-- The character that a letter behind a backslash stands for. -/
def shortEscape? (c : Char) : Option Char :=
  if c = '"' ∨ c = '\\' ∨ c = '/' then some c
  else if c = 'b' then some '\x08'
  else if c = 'f' then some '\x0c'
  else if c = 'n' then some '\n'
  else if c = 'r' then some '\r'
  else if c = 't' then some '\t'
  else none

def hexDigit? (c : Char) : Option Nat :=
  if c.isDigit then some (c.toNat - '0'.toNat)
  else if 'a' ≤ c ∧ c ≤ 'f' then some (c.toNat - 'a'.toNat + 10)
  else if 'A' ≤ c ∧ c ≤ 'F' then some (c.toNat - 'A'.toNat + 10)
  else none

/-- The code unit written as four hexadecimal digits. -/
def unit? (a b c d : Char) : Option Nat := do
  return (((← hexDigit? a) * 16 + (← hexDigit? b)) * 16 + (← hexDigit? c)) * 16 + (← hexDigit? d)

/-- The literal with one more piece in front. -/
def cons (piece : Piece) (literal : TextLiteral) : TextLiteral :=
  { literal with pieces := piece :: literal.pieces }

/-- The pieces behind an opening quote. A code unit is four bytes long, so a text
that ends sooner is cut off, whatever its last characters are. -/
def scan : List Char → TextLiteral
  | [] => ⟨[], .cutOff, []⟩
  | c :: rest =>
    if c = '"' then ⟨[], .closed, rest⟩
    else if c = '\\' then
      match rest with
      | [] => ⟨[], .cutOff, []⟩
      | e :: rest =>
        if e = 'u' then
          match rest with
          | a :: b :: c :: d :: rest =>
            match unit? a b c d with
            | some n => cons (.unit n) (scan rest)
            | none => ⟨[], .badUnit, rest⟩
          | short => ⟨[], if (String.ofList short).utf8ByteSize < 4 then .cutOff else .badUnit, []⟩
        else
          match shortEscape? e with
          | some c => cons (.plain c) (scan rest)
          | none => ⟨[], .unknownEscape, rest⟩
    else if c.toNat < 0x20 then ⟨[], .controlCharacter, rest⟩
    else cons (.plain c) (scan rest)

/-- What an ending means to one who is not in the middle of a surrogate pair. -/
def Ending.check : Ending → Except Problem Unit
  | .closed => .ok ()
  | .cutOff => .error .endInText
  | .controlCharacter => .error .controlCharacter
  | .unknownEscape => .error .badEscape
  | .badUnit => .error .badEscape

/-- What an ending means behind the first half of a surrogate pair, where another
code unit is due. -/
def Ending.afterHalf : Ending → Problem
  | .closed => .halfPair
  | .cutOff => .endInText
  | .controlCharacter => .halfPair
  | .unknownEscape => .halfPair
  | .badUnit => .badEscape

def isFirstHalf (n : Nat) : Bool := 0xD800 ≤ n && n ≤ 0xDBFF

def isSecondHalf (n : Nat) : Bool := 0xDC00 ≤ n && n ≤ 0xDFFF

/-- The character of a surrogate pair. -/
def joinHalves (first second : Nat) : Char :=
  Char.ofNat (0x10000 + (first - 0xD800) * 0x400 + (second - 0xDC00))

/-- The characters that the pieces stand for. -/
def decode (ending : Ending) : List Piece → Except Problem (List Char)
  | [] => (Ending.check ending).map fun _ => []
  | .plain c :: rest => (decode ending rest).map (c :: ·)
  | [.unit n] =>
    if isSecondHalf n then .error .loneSurrogate
    else if isFirstHalf n then .error (Ending.afterHalf ending)
    else (Ending.check ending).map fun _ => [Char.ofNat n]
  | .unit n :: .plain c :: rest =>
    if isSecondHalf n then .error .loneSurrogate
    else if isFirstHalf n then .error .halfPair
    else (decode ending (.plain c :: rest)).map (Char.ofNat n :: ·)
  | .unit n :: .unit m :: rest =>
    if isSecondHalf n then .error .loneSurrogate
    else if isFirstHalf n then
      if isSecondHalf m then (decode ending rest).map (joinHalves n m :: ·)
      else .error .loneSurrogate
    else (decode ending (.unit m :: rest)).map (Char.ofNat n :: ·)

/-- The content of the text. -/
def content (literal : TextLiteral) : Except Problem String :=
  (decode literal.ending literal.pieces).map String.ofList

/-- Whether the text can be passed over. -/
def passable (literal : TextLiteral) : Except Problem Unit := Ending.check literal.ending

theorem length_rest_scan (s : List Char) : (scan s).rest.length ≤ s.length := by
  fun_induction scan s <;> simp_all [cons] <;> omega

theorem scan_quote (rest : List Char) : scan ('"' :: rest) = ⟨[], .closed, rest⟩ := by
  rw [scan.eq_def]
  simp

theorem scan_cons {c : Char} (hquote : c ≠ '"') (hslash : c ≠ '\\') (hcontrol : ¬c.toNat < 0x20)
    (s : List Char) : scan (c :: s) = cons (.plain c) (scan s) := by
  rw [scan.eq_def]
  simp only [hquote, hslash, hcontrol, if_false]

/-- A text without quotes, backslashes and control characters is read as it
stands. -/
theorem scan_plain {s : List Char}
    (h : ∀ c ∈ s, c ≠ '"' ∧ c ≠ '\\' ∧ ¬c.toNat < 0x20) (rest : List Char) :
    scan (s ++ '"' :: rest) = ⟨s.map .plain, .closed, rest⟩ := by
  induction s with
  | nil => exact scan_quote rest
  | cons c s ih =>
    obtain ⟨hquote, hslash, hcontrol⟩ := h c (List.mem_cons_self ..)
    rw [List.cons_append, scan_cons hquote hslash hcontrol,
      ih fun d hd => h d (List.mem_cons_of_mem c hd)]
    rfl

theorem decode_plain (s : List Char) : decode .closed (s.map .plain) = .ok s := by
  induction s with
  | nil => rfl
  | cons c s ih => simp [decode, ih, Except.map]

end TextLiteral

end PlanarCrop.Json
