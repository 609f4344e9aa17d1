import GlBridge.Text.Basic

/-!
# The order of a table

The variables of a function are listed in the order of the table that they are kept in.  Each one has
a favourite slot, which its number decides, and takes the first free slot from there on.  The table
grows when it is about to be full, and everything moves to the new one slot by slot.

* `favouriteSlot`, `putEntry` — where an entry goes;
* `growTable` — a larger table with the same entries;
* `tableOrder` — the order of so many entries.
-/

namespace GlBridge.Essl

/-- The factor that spreads neighbouring numbers over a table. -/
def spreadFactor : Nat := 0x517CC1B727220A95

/-- The slot that an entry would like to have; numbers count from one. -/
def favouriteSlot (slots entry : Nat) : Nat := (entry + 1) * spreadFactor % slots

/-- A table of slots. -/
abbrev SlotTable := List (Option Nat)

/-- An entry in the first free slot from its favourite one on, starting over at the end. -/
def putEntry (table : SlotTable) (entry : Nat) : SlotTable :=
  let slots := table.length
  let first := favouriteSlot slots entry
  let tried := (List.range slots).map fun step => (first + step) % slots
  match tried.find? fun slot => (table[slot]?).any Option.isNone with
  | some slot => table.set slot (some entry)
  | none => table

/-- How many entries a table has room for before it grows. -/
def roomOf (slots : Nat) : Nat := if slots ≤ 8 then slots - 1 else slots / 8 * 7

/-- The number of slots after a table has grown. -/
def grownSlots (slots : Nat) : Nat := if slots = 0 then 4 else 2 * slots

/-- The entries of a table, slot by slot. -/
def SlotTable.entries (table : SlotTable) : List Nat := table.filterMap id

/-- A larger table with the same entries. -/
def growTable (table : SlotTable) : SlotTable :=
  table.entries.foldl putEntry (List.replicate (grownSlots table.length) none)

/-- A table with one more entry. -/
def insertEntry (table : SlotTable) (entry : Nat) : SlotTable :=
  if table.entries.length < roomOf table.length then putEntry table entry
  else putEntry (growTable table) entry

/-- The order in which a table lists its entries after so many of them have been put in one after the
other. -/
def tableOrder (count : Nat) : List Nat :=
  ((List.range count).foldl insertEntry []).entries

end GlBridge.Essl
