import PlanarCrop.Json.Token

/-!
# Passing over JSON values

A value that nobody asks for is passed over: only the form of its tokens counts.
Numbers may be too large, halves of surrogate pairs may stand alone, and nesting
has no limit. It is enough to know of each open container whether it is a list or
an object.
-/

namespace PlanarCrop.Json.Passing

/-- What kind of container is open. -/
inductive Kind where
  | list
  | object
deriving DecidableEq

/-- What may come next. -/
inductive Due where
  | value
  | firstItem
  | firstKey
  | key
  | colon
  /-- A comma or the end of the innermost container. -/
  | separator
deriving DecidableEq

/-- The open containers and what may come next, or nothing once the value is
passed. -/
abbrev Progress := Option (List Kind × Due)

/-- The problem if the tokens end here. -/
def atEnd : List Kind → Due → Problem
  | _, .value => .endBeforeValue
  | _, .firstItem => .endInList
  | .list :: _, .separator => .endInList
  | _, _ => .endInObject

/-- A value inside the containers is complete. -/
def complete (outer : List Kind) : Progress :=
  if outer.isEmpty then none else some (outer, .separator)

/-- The token where a value is due. -/
def start (outer : List Kind) : Token → Except Problem Progress
  | .null => .ok (complete outer)
  | .boolean _ => .ok (complete outer)
  | .number _ passing => passing.map fun _ => complete outer
  | .text _ passing => passing.map fun _ => complete outer
  | .openList => .ok (some (.list :: outer, .firstItem))
  | .openObject => .ok (some (.object :: outer, .firstKey))
  | .stray problem => .error problem
  | _ => .error .noValue

/-- The token in any place. -/
def step (outer : List Kind) : Due → Token → Except Problem Progress
  | .value, t => start outer t
  | .firstItem, .closeList => .ok (complete outer.tail)
  | .firstItem, t => start outer t
  | .firstKey, .closeObject => .ok (complete outer.tail)
  | .firstKey, .text _ passing => passing.map fun _ => some (outer, .colon)
  | .firstKey, _ => .error .keyNotText
  | .key, .text _ passing => passing.map fun _ => some (outer, .colon)
  | .key, _ => .error .keyNotText
  | .colon, .colon => .ok (some (outer, .value))
  | .colon, _ => .error .noColon
  | .separator, t =>
    match outer, t with
    | .list :: _, .comma => .ok (some (outer, .value))
    | .list :: rest, .closeList => .ok (complete rest)
    | .list :: _, _ => .error .noCommaInList
    | .object :: _, .comma => .ok (some (outer, .key))
    | .object :: rest, .closeObject => .ok (complete rest)
    | _, _ => .error .noCommaInObject

/-- Goes on until the value is passed. -/
def passOn (outer : List Kind) (due : Due) : List Token → Except Problem (List Token)
  | [] => .error (atEnd outer due)
  | t :: ts =>
    match step outer due t with
    | .error problem => .error problem
    | .ok none => .ok ts
    | .ok (some (outer, due)) => passOn outer due ts

/-- What follows the value at the front of the tokens. -/
def pass : List Token → Except Problem (List Token) := passOn [] .value

theorem length_passOn {outer : List Kind} {due : Due} {ts r : List Token}
    (h : passOn outer due ts = .ok r) : r.length < ts.length := by
  induction ts generalizing outer due with
  | nil => cases h
  | cons t ts ih =>
    unfold passOn at h
    split at h
    · cases h
    · cases h
      exact Nat.lt_succ_self _
    · exact Nat.lt_succ_of_lt (ih h)

end PlanarCrop.Json.Passing
