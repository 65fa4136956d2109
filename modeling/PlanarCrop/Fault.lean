/-!
# Faults, and counts kept in 64 bits

Byte counts and byte positions are numbers below `2 ^ 64`. A count that would
reach that limit is an overflow, and a byte range that leaves its buffer is out
of bounds; in both cases the operation stops without an answer, which is a
different thing from an answer that says what is wrong with the input.
-/

namespace PlanarCrop

/-- Why an operation stopped without an answer. -/
inductive Fault where
  /-- A byte count or a byte position does not fit 64 bits. -/
  | overflow
  /-- A byte range does not lie inside its buffer. -/
  | outOfBounds
deriving DecidableEq

/-- Counts and positions stay below this number, which is `2 ^ 64`. -/
def countLimit : Nat := 0x10000000000000000

/-- The count itself, if it fits. -/
def checkedCount (n : Nat) : Except Fault Nat :=
  if n < countLimit then .ok n else .error .overflow

theorem checkedCount_of_lt {n : Nat} (h : n < countLimit) : checkedCount n = .ok n :=
  if_pos h

theorem checkedCount_of_le {n : Nat} (h : countLimit ≤ n) :
    checkedCount n = .error .overflow :=
  if_neg (Nat.not_lt.2 h)

theorem checkedCount_eq_ok_iff {n m : Nat} :
    checkedCount n = .ok m ↔ n < countLimit ∧ n = m := by
  unfold checkedCount
  split
  · next h => simp [h]
  · next h => simp [h]

/-- A computation in two parts succeeds when both parts do. -/
theorem bind_eq_ok_iff {ε α β : Type} {x : Except ε α} {f : α → Except ε β}
    {b : β} : (x >>= f) = .ok b ↔ ∃ a, x = .ok a ∧ f a = .ok b := by
  cases x with
  | error e =>
      constructor
      · intro h
        cases h
      · rintro ⟨a, ha, -⟩
        cases ha
  | ok a =>
      constructor
      · intro h
        exact ⟨a, rfl, h⟩
      · rintro ⟨a', ha, hb⟩
        cases ha
        exact hb

theorem map_eq_ok_iff {ε α β : Type} {x : Except ε α} {f : α → β} {b : β} :
    x.map f = .ok b ↔ ∃ a, x = .ok a ∧ f a = b := by
  cases x <;> simp [Except.map]

theorem mapError_eq_ok_iff {ε ε' α : Type} {x : Except ε α} {f : ε → ε'} {a : α} :
    x.mapError f = .ok a ↔ x = .ok a := by
  cases x with
  | error e =>
      constructor
      · intro h
        cases h
      · intro h
        cases h
  | ok b =>
      constructor
      · intro h
        cases h
        rfl
      · intro h
        cases h
        rfl

end PlanarCrop
