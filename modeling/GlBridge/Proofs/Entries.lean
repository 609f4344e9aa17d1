import Mathlib.Data.List.Nodup
import Mathlib.Data.List.Perm.Basic

/-!
# Maps as lists of entries

A map is a list of entries, and what is looked up is the first entry of a key.

**Writing.**  Where a key is removed, all of its entries are, and a key is written by removing it and
putting a new entry in front.  Looking up another key does not notice either (`lookup_filter_ne`,
`lookup_insert`).

**Order.**  If a map has no key twice, looking up a key depends on the entries and not on their order
(`lookup_eq_some_iff_mem`, `lookup_perm`).
-/

namespace GlBridge

variable {α β : Type} [BEq α] [LawfulBEq α] {entries others : List (α × β)} {key : α} {value : β}

/-! ## Writing -/

/-- What is found after a key was removed. -/
lemma lookup_filter_ne [DecidableEq α] (entries : List (α × β)) (removed key : α) :
    (entries.filter (·.1 ≠ removed)).lookup key
      = if key = removed then none else entries.lookup key := by
  induction entries with
  | nil => simp
  | cons entry entries ih =>
      obtain ⟨other, value⟩ := entry
      by_cases hother : other = removed
      · rw [List.filter_cons_of_neg (by simpa using hother), ih, List.lookup_cons]
        by_cases hkey : key = removed
        · rw [if_pos hkey, if_pos hkey]
        · have hne : (key == other) = false := by simpa [hother] using hkey
          rw [if_neg hkey, if_neg hkey, hne]
      · rw [List.filter_cons_of_pos (by simpa using hother), List.lookup_cons, List.lookup_cons, ih]
        by_cases hkey : key = removed
        · have hne : (key == other) = false := by simpa [hkey] using Ne.symm hother
          rw [if_pos hkey, if_pos hkey, hne]
        · rw [if_neg hkey, if_neg hkey]

/-- What is found after a key was written. -/
lemma lookup_insert [DecidableEq α] (entries : List (α × β)) (written key : α) (value : β) :
    ((written, value) :: entries.filter (·.1 ≠ written)).lookup key
      = if key = written then some value else entries.lookup key := by
  by_cases hkey : key = written
  · rw [if_pos hkey, hkey, List.lookup_cons_self]
  · rw [if_neg hkey, List.lookup_cons, beq_eq_false_iff_ne.2 hkey]
    exact (lookup_filter_ne entries written key).trans (if_neg hkey)

/-! ## Order -/

/-- What is looked up is there. -/
lemma mem_of_lookup (h : entries.lookup key = some value) : (key, value) ∈ entries := by
  obtain ⟨before, after, rfl, _⟩ := List.lookup_eq_some_iff.1 h
  simp

/-- If no key is there twice, what is there is looked up. -/
lemma lookup_eq_some_iff_mem (hkeys : (entries.map Prod.fst).Nodup) :
    entries.lookup key = some value ↔ (key, value) ∈ entries := by
  refine ⟨mem_of_lookup, ?_⟩
  intro hmem
  obtain ⟨before, after, rfl⟩ := List.append_of_mem hmem
  refine List.lookup_eq_some_iff.2 ⟨before, after, rfl, ?_⟩
  intro entry hentry
  rw [List.map_append, List.map_cons, List.nodup_append] at hkeys
  rw [bne_iff_ne]
  intro heq
  exact hkeys.2.2 entry.1 (List.mem_map_of_mem hentry) key List.mem_cons_self heq.symm

/-- Looking up a key does not depend on the order of the entries. -/
lemma lookup_perm (hkeys : (entries.map Prod.fst).Nodup) (h : entries.Perm others) (key : α) :
    entries.lookup key = others.lookup key := by
  have hothers := (h.map Prod.fst).nodup_iff.1 hkeys
  refine Option.ext ?_
  intro value
  rw [lookup_eq_some_iff_mem hkeys, lookup_eq_some_iff_mem hothers, h.mem_iff]

end GlBridge
