import GlBridge.Text.Decimal

/-!
# Slots and locations

Locations and bindings are numbers of 32 bits.  `UsedSlots` holds the ranges of one interface that
are taken.  `VaryingLocations` remembers which location each varying was given, so that two stages
which name the same varying agree on its location although they are laid out separately.

Sums and products are checked: one that does not fit 32 bits ends the whole computation with
`Overflow`, also where the number would only have been compared.

* `UsedSlots.firstFree` — the least start from a given one at which a width fits;
* `VaryingLocations.locate` — the location of a varying, new or remembered.
-/

namespace GlBridge

/-- A 32-bit sum or product that does not fit. -/
inductive Overflow where
  | overflow
deriving DecidableEq, Repr

namespace Word32

/-- A number, if it fits 32 bits. -/
def check (n : Nat) : Except Overflow Nat := if n < word32Limit then .ok n else .error .overflow

/-- The sum of two words. -/
def add (a b : Nat) : Except Overflow Nat := check (a + b)

/-- The product of two words. -/
def mul (a b : Nat) : Except Overflow Nat := check (a * b)

theorem check_eq_ok {n m : Nat} : check n = .ok m ↔ n = m ∧ n < word32Limit := by
  unfold check
  split
  · next h => simp [h]
  · next h => simp [h]

end Word32

namespace Layout

/-- The taken ranges of an interface. -/
abbrev UsedSlots := List Span

namespace UsedSlots

/-- Whether two ranges share a slot, or the second one is empty and lies inside the first. -/
def meets (taken wanted : Span) : Bool :=
  taken.start < wanted.stop && wanted.start < taken.stop

/-- The range of the given width from `start`. -/
def range (start slots : Nat) : Except Overflow Span :=
  (Word32.add start slots).map fun stop => { start := start, stop := stop }

/-- Whether no taken range is in the way of `slots` slots from `start`. -/
def isFree (used : UsedSlots) (start slots : Nat) : Except Overflow Bool :=
  (range start slots).map fun wanted => !used.any (meets · wanted)

/-- Taking `slots` slots from `start`. -/
def claim (used : UsedSlots) (start slots : Nat) : Except Overflow UsedSlots :=
  (range start slots).map fun wanted => used ++ [wanted]

/-- The least start, from `start` on, at which no taken range is in the way of `slots` slots.  A
range that is in the way stays in the way up to its end, so the search goes on there. -/
def firstFit (used : UsedSlots) (start slots : Nat) : Nat :=
  match _h : used.find? (meets · { start := start, stop := start + slots }) with
  | none => start
  | some taken => firstFit used taken.stop slots
termination_by (used.filter (start < ·.stop)).length
decreasing_by
  have hmeets := List.find?_some _h
  have hmem := List.mem_of_find?_eq_some _h
  simp only [meets, Bool.and_eq_true, decide_eq_true_eq] at hmeets
  have hsub : (used.filter (taken.stop < ·.stop)).length
      = ((used.filter (start < ·.stop)).filter (taken.stop < ·.stop)).length := by
    rw [List.filter_filter]
    congr 1
    apply List.filter_congr
    intro other _
    by_cases hlt : taken.stop < other.stop
    · have : start < other.stop := Nat.lt_trans hmeets.2 hlt
      simp [hlt, this]
    · simp [hlt]
  rw [hsub]
  exact List.length_filter_lt_length_iff_exists.2
    ⟨taken, List.mem_filter.2 ⟨hmem, by simpa using hmeets.2⟩, by simp⟩

/-- The least start, from `start` on, at which no taken range is in the way of `slots` slots, if
the slots it gives fit 32 bits. -/
def firstFree (used : UsedSlots) (start slots : Nat) : Except Overflow Nat :=
  (range (firstFit used start slots) slots).map Span.start

end UsedSlots

/-- No varying is given a location whose slots go past this number: every embedded driver has at
least so many varying vectors. -/
def varyingLimit : Nat := 15

/-- The locations given to varyings so far, for all shaders together. -/
structure VaryingLocations where
  /-- The location each name was last given, the latest first. -/
  assigned : List (Text × Nat) := []
  /-- The number from which the next new varying looks for a location. -/
  next : Nat := 0
deriving DecidableEq, Repr

namespace VaryingLocations

/-- The location a name was last given. -/
def location? (varyings : VaryingLocations) (name : Text) : Option Nat :=
  varyings.assigned.lookup name

/-- A new location for a varying: the first one that is free from `next` on, or from 0 on if that
one would go past the limit. -/
def locateNew (varyings : VaryingLocations) (name : Text) (slots : Nat) (used : UsedSlots) :
    Except Overflow (Nat × VaryingLocations) := do
  let location ← used.firstFree varyings.next slots
  let stop ← Word32.add location slots
  if stop > varyingLimit then
    let location ← used.firstFree 0 slots
    return (location, { varyings with assigned := (name, location) :: varyings.assigned })
  else
    return (location, { assigned := (name, location) :: varyings.assigned, next := stop })

/-- The location of a varying of the given width in a shader with the given slots in use: the one
it has, if that is free, or else a new one. -/
def locate (varyings : VaryingLocations) (name : Text) (slots : Nat) (used : UsedSlots) :
    Except Overflow (Nat × VaryingLocations) := do
  match varyings.location? name with
  | some location =>
    if ← used.isFree location slots then return (location, varyings)
    else varyings.locateNew name slots used
  | none => varyings.locateNew name slots used

end VaryingLocations
end Layout
end GlBridge
