import PlanarCrop.Json.Token
import PlanarCrop.Json.Value

/-!
# Reading JSON values from tokens

A value is put together token by token. The containers that are open around the
place that has been reached are held in a stack, each with what it holds so far,
and what may come next is a state of its own; one token leads from state to state
until the value is complete. What follows the value is left for the caller, who
may stand in the middle of an object of his own: `depth` counts the containers
that are open around the value, and no more than 127 may be open in all.

Whoever wants a single number or name looks at one token only, and of a list or
an object he sees no more than that it starts.
-/

namespace PlanarCrop.Json

/-- A container in the middle of which a value is being read, with what it holds so
far, the newest first. -/
inductive OpenContainer where
  | list (items : List Value)
  | object (members : List (String × Value)) (key : String)

/-- What may come next, with what the innermost container holds so far, the newest
first. -/
inductive Due where
  | value
  /-- An item of a list; where it would be the first, the list may end. -/
  | item (items : List Value) (first : Bool)
  | afterItem (items : List Value)
  /-- A key of an object; where it would be the first, the object may end. -/
  | key (members : List (String × Value)) (first : Bool)
  | colon (members : List (String × Value)) (key : String)
  | afterMember (members : List (String × Value))

/-- How far one token has led. -/
inductive Progress where
  | done (v : Value)
  | more (outer : List OpenContainer) (due : Due)

/-- The problem if the tokens end here. -/
def Due.atEnd : Due → Problem
  | .value => .endBeforeValue
  | .item _ true => .endInList
  | .item _ false => .endBeforeValue
  | .afterItem _ => .endInList
  | .key _ true => .endInObject
  | .key _ false => .endBeforeValue
  | .colon _ _ => .endInObject
  | .afterMember _ => .endInObject

/-- One container more than may be open. -/
def depthLimit : Nat := 128

namespace Value

/-- A complete value goes into the container around it. -/
def complete (v : Value) : List OpenContainer → Progress
  | [] => .done v
  | .list items :: outer => .more outer (.afterItem (v :: items))
  | .object members key :: outer => .more outer (.afterMember ((key, v) :: members))

/-- Opens a container inside those of `outer`. -/
def enter (depth : Nat) (outer : List OpenContainer) (due : Due) : Except Problem Progress :=
  if depth + outer.length + 1 < depthLimit then .ok (.more outer due) else .error .tooDeep

/-- The token where a value is due. -/
def startWith (depth : Nat) (outer : List OpenContainer) : Token → Except Problem Progress
  | .null => .ok (complete .null outer)
  | .boolean b => .ok (complete (.boolean b) outer)
  | .number value _ => value.map fun n => complete (.number n) outer
  | .text content _ => content.map fun s => complete (.text s) outer
  | .openList => enter depth outer (.item [] true)
  | .openObject => enter depth outer (.key [] true)
  | .stray problem => .error problem
  | _ => .error .noValue

/-- The token in any place. -/
def step (depth : Nat) (outer : List OpenContainer) : Due → Token → Except Problem Progress
  | .value, t => startWith depth outer t
  | .item items true, .closeList => .ok (complete (.list items.reverse) outer)
  | .item _ false, .closeList => .error .trailingComma
  | .item items _, t => startWith depth (.list items :: outer) t
  | .afterItem items, .comma => .ok (.more outer (.item items false))
  | .afterItem items, .closeList => .ok (complete (.list items.reverse) outer)
  | .afterItem _, _ => .error .noCommaInList
  | .key members true, .closeObject => .ok (complete (.object members.reverse) outer)
  | .key _ false, .closeObject => .error .trailingComma
  | .key members _, .text content _ => content.map fun key => .more outer (.colon members key)
  | .key _ _, _ => .error .keyNotText
  | .colon members key, .colon => .ok (.more (.object members key :: outer) .value)
  | .colon _ _, _ => .error .noColon
  | .afterMember members, .comma => .ok (.more outer (.key members false))
  | .afterMember members, .closeObject => .ok (complete (.object members.reverse) outer)
  | .afterMember _, _ => .error .noCommaInObject

/-- Reads on until the value is complete. -/
def readOn (depth : Nat) (outer : List OpenContainer) (due : Due) :
    List Token → Except Problem (Value × List Token)
  | [] => .error due.atEnd
  | t :: ts =>
    match step depth outer due t with
    | .error problem => .error problem
    | .ok (.done v) => .ok (v, ts)
    | .ok (.more outer due) => readOn depth outer due ts

/-- The value at the front of the tokens, inside `depth` containers. -/
def read (depth : Nat) : List Token → Except Problem (Value × List Token) :=
  readOn depth [] .value

theorem length_readOn {depth : Nat} {outer : List OpenContainer} {due : Due}
    {ts : List Token} {r : Value × List Token} (h : readOn depth outer due ts = .ok r) :
    r.2.length < ts.length := by
  induction ts generalizing outer due with
  | nil => cases h
  | cons t ts ih =>
    unfold readOn at h
    split at h
    · cases h
    · cases h
      exact Nat.lt_succ_self _
    · exact Nat.lt_succ_of_lt (ih h)

end Value

/-! ## Single tokens -/

/-- What a token shows where one certain kind of value is wanted. -/
def Token.found : Token → Except Problem Found
  | .null => .ok .null
  | .boolean b => .ok (.boolean b)
  | .number value _ => value.map fun n => (Value.number n).found
  | .text content _ => content.map .text
  | .openList => .ok .list
  | .openObject => .ok .object
  | .stray problem => .error problem
  | _ => .error .noValue

/-- A range of integers, with its name in messages. -/
structure IntegerRange where
  name : String
  least : Int
  greatest : Int

namespace IntegerRange

def signed32 : IntegerRange := ⟨"i32", -2147483648, 2147483647⟩

def unsigned16 : IntegerRange := ⟨"u16", 0, 65535⟩

/-- The integer that was found, if it is one of the range. -/
def take (range : IntegerRange) : Found → Except Problem Int
  | .integer i =>
    if range.least ≤ i ∧ i ≤ range.greatest then .ok i else .error (.outOfRange i range.name)
  | found => .error (.wrongKind found range.name)

/-- The integer at the front of the tokens. -/
def read (range : IntegerRange) : List Token → Except Problem (Int × List Token)
  | [] => .error .endBeforeValue
  | t :: ts => do
    let found ← t.found
    let i ← range.take found
    return (i, ts)

end IntegerRange

/-- What follows the colon behind a key. -/
def afterColon : List Token → Except Problem (List Token)
  | [] => .error .endInObject
  | .colon :: ts => .ok ts
  | _ :: _ => .error .noColon

/-- The next key of an object whose brace was passed, or nothing at its end, and
what follows either. -/
def nextKey (first : Bool) (ts : List Token) :
    Except Problem (Option String × List Token) :=
  match first, ts with
  | _, [] => .error .endInObject
  | _, .closeObject :: ts => .ok (none, ts)
  | true, .text content _ :: ts => content.map fun key => (some key, ts)
  | true, _ :: _ => .error .keyNotText
  | false, [.comma] => .error .endBeforeValue
  | false, .comma :: .closeObject :: _ => .error .trailingComma
  | false, .comma :: .text content _ :: ts => content.map fun key => (some key, ts)
  | false, .comma :: _ => .error .keyNotText
  | false, _ :: _ => .error .noCommaInObject

/-- What a reader makes of a text that holds nothing else. -/
def readWhole {α : Type} (reader : List Token → Except Problem (α × List Token)) (s : String) :
    Except Problem α := do
  let (a, rest) ← reader (tokens s.toList)
  if rest.isEmpty then return a else throw .trailingText

theorem length_nextKey {first : Bool} {ts : List Token} {r : Option String × List Token}
    (h : nextKey first ts = .ok r) : r.2.length < ts.length := by
  unfold nextKey at h
  split at h
  · cases h
  · cases h
    exact Nat.lt_succ_self _
  · next content _ ts =>
    cases content with
    | error problem => cases h
    | ok key => cases h; exact Nat.lt_succ_self _
  · cases h
  · cases h
  · cases h
  · next content _ ts =>
    cases content with
    | error problem => cases h
    | ok key => cases h; simp only [List.length_cons]; omega
  · cases h
  · cases h

theorem length_afterColon {ts r : List Token} (h : afterColon ts = .ok r) :
    r.length < ts.length := by
  unfold afterColon at h
  split at h
  · cases h
  · cases h
    exact Nat.lt_succ_self _
  · cases h

theorem length_readInteger {range : IntegerRange} {ts : List Token} {r : Int × List Token}
    (h : range.read ts = .ok r) : r.2.length < ts.length := by
  cases ts with
  | nil => cases h
  | cons t ts =>
    simp only [IntegerRange.read, bind, Except.bind] at h
    split at h
    · cases h
    · split at h
      · cases h
      · cases h
        exact Nat.lt_succ_self _

end PlanarCrop.Json
