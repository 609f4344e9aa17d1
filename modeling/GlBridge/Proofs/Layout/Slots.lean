import Mathlib
import GlBridge.Layout.Slots

/-!
# Taking slots

Everything the layout pass promises about locations rests on one set of taken ranges per
interface.  This file says what the operations on it do, in three groups.

**Apartness.**  `Span.Apart` is what `UsedSlots.meets` tests the failure of.  It is a little more
than sharing no number: an empty range inside another one is not apart from it.  Apartness passes
to parts (`Apart.mono_left`), which is what an argument about pins of two shaders needs, and it
implies disjointness (`Apart.disjoint`), which is what readers care about.

**First fit.**  `firstFit_free`: the start that is found is free, and no start before it is
(`not_free_of_lt_firstFit`).  A checked operation that ends well gives the exact sum, so `isFree`,
`claim` and `firstFree` each have one equation.

**The registry.**  `Located` lists the three things that asking for a varying can come to: the
remembered location, a new one below the limit, or one beyond it.  `locate_located` says that
nothing else happens, and in each case the location is free and is remembered afterwards.
-/

namespace GlBridge

/-! ## Checked computations -/

lemma bind_eq_ok {ε α β : Type} {x : Except ε α} {f : α → Except ε β} {b : β} :
    (x >>= f) = .ok b ↔ ∃ a, x = .ok a ∧ f a = .ok b := by
  cases x with
  | error e => simp [bind, Except.bind]
  | ok a => simp [bind, Except.bind]

lemma map_eq_ok {ε α β : Type} {x : Except ε α} {f : α → β} {b : β} :
    x.map f = .ok b ↔ ∃ a, x = .ok a ∧ f a = b := by
  cases x with
  | error e => simp [Except.map]
  | ok a => simp [Except.map]

lemma pure_eq_ok {ε α : Type} {a b : α} : (pure a : Except ε α) = .ok b ↔ a = b := by
  simp [pure, Except.pure]

/-- Checked steps that append to a list append all that they append, one after the other. -/
lemma foldlM_appends {ε σ α β : Type} {f : σ → α → Except ε σ} {view : σ → List β}
    {added : α → List β} {l : List α} {s s' : σ} (hfold : l.foldlM f s = .ok s')
    (h : ∀ s a s', f s a = .ok s' → view s' = view s ++ added a) :
    view s' = view s ++ l.flatMap added := by
  induction l generalizing s with
  | nil =>
      rw [List.foldlM_nil, pure_eq_ok] at hfold
      rw [hfold, List.flatMap_nil, List.append_nil]
  | cons a l ih =>
      rw [List.foldlM_cons, bind_eq_ok] at hfold
      obtain ⟨middle, ha, hl⟩ := hfold
      rw [ih hl, h s a middle ha, List.append_assoc, List.flatMap_cons]

/-! ## Apartness -/

namespace Span

/-- The numbers in a range. -/
def numbers (span : Span) : Set ℕ := Set.Ico span.start span.stop

/-- One of two ranges ends before the other one starts. -/
def Apart (a b : Span) : Prop := a.stop ≤ b.start ∨ b.stop ≤ a.start

/-- The first range lies inside the second one. -/
def Inside (a b : Span) : Prop := b.start ≤ a.start ∧ a.stop ≤ b.stop

instance (a b : Span) : Decidable (a.Inside b) := inferInstanceAs (Decidable (_ ∧ _))

lemma Apart.symm {a b : Span} (h : a.Apart b) : b.Apart a := Or.symm h

/-- What is apart from a range is apart from its parts. -/
lemma Apart.mono_left {a a' b : Span} (h : a.Apart b) (hin : a'.Inside a) : a'.Apart b := by
  obtain ⟨hstart, hstop⟩ := hin
  rcases h with h | h
  · exact Or.inl (hstop.trans h)
  · exact Or.inr (h.trans hstart)

lemma Apart.disjoint {a b : Span} (h : a.Apart b) : Disjoint a.numbers b.numbers := by
  rw [Set.disjoint_left]
  rintro n ⟨ha, ha'⟩ ⟨hb, hb'⟩
  rcases h with h | h <;> omega

/-- Ranges apart with at least one number each start at different numbers. -/
lemma Apart.start_ne {a b : Span} (h : a.Apart b) (ha : a.start < a.stop)
    (hb : b.start < b.stop) : a.start ≠ b.start := by
  rcases h with h | h <;> omega

end Span

namespace Layout

/-! ## First fit -/

namespace UsedSlots

/-- No taken range is in the way of a range. -/
def Free (used : UsedSlots) (wanted : Span) : Prop := ∀ taken ∈ used, taken.Apart wanted

lemma meets_eq_false {taken wanted : Span} : meets taken wanted = false ↔ taken.Apart wanted := by
  simp only [meets, Bool.and_eq_false_iff, decide_eq_false_iff_not, not_lt, Span.Apart]
  exact or_comm

lemma any_meets_eq_false {used : UsedSlots} {wanted : Span} :
    used.any (meets · wanted) = false ↔ used.Free wanted := by
  simp only [List.any_eq_false, Bool.not_eq_true, meets_eq_false, Free]

lemma range_eq_ok {start slots : ℕ} {span : Span} :
    range start slots = .ok span
      ↔ start + slots < word32Limit ∧ span = { start := start, stop := start + slots } := by
  simp only [range, Word32.add, map_eq_ok, Word32.check_eq_ok]
  constructor
  · rintro ⟨stop, ⟨rfl, hlt⟩, rfl⟩
    exact ⟨hlt, rfl⟩
  · rintro ⟨hlt, rfl⟩
    exact ⟨_, ⟨rfl, hlt⟩, rfl⟩

lemma isFree_eq_ok {used : UsedSlots} {start slots : ℕ} {free : Bool} :
    isFree used start slots = .ok free ↔ start + slots < word32Limit ∧
      (free = true ↔ used.Free { start := start, stop := start + slots }) := by
  simp only [isFree, map_eq_ok, range_eq_ok]
  constructor
  · rintro ⟨_, ⟨hlt, rfl⟩, rfl⟩
    exact ⟨hlt, by rw [Bool.not_eq_true', any_meets_eq_false]⟩
  · rintro ⟨hlt, hfree⟩
    refine ⟨_, ⟨hlt, rfl⟩, ?_⟩
    rw [Bool.eq_iff_iff, Bool.not_eq_true', any_meets_eq_false, hfree]

lemma claim_eq_ok {used after : UsedSlots} {start slots : ℕ} :
    claim used start slots = .ok after ↔ start + slots < word32Limit ∧
      after = used ++ [{ start := start, stop := start + slots }] := by
  simp only [claim, map_eq_ok, range_eq_ok]
  constructor
  · rintro ⟨_, ⟨hlt, rfl⟩, rfl⟩
    exact ⟨hlt, rfl⟩
  · rintro ⟨hlt, rfl⟩
    exact ⟨_, ⟨hlt, rfl⟩, rfl⟩

/-- The start that first fit finds is free. -/
lemma firstFit_free (used : UsedSlots) (start slots : ℕ) :
    used.Free { start := firstFit used start slots, stop := firstFit used start slots + slots } := by
  fun_induction firstFit used start slots with
  | case1 start hnone =>
      intro taken hmem
      rw [List.find?_eq_none] at hnone
      rw [← meets_eq_false, ← Bool.not_eq_true]
      exact hnone taken hmem
  | case2 start taken hfound ih => exact ih

/-- First fit does not go back. -/
lemma le_firstFit (used : UsedSlots) (start slots : ℕ) : start ≤ firstFit used start slots := by
  fun_induction firstFit used start slots with
  | case1 start _ => exact le_rfl
  | case2 start taken hfound ih =>
      have hmeets := List.find?_some hfound
      simp only [meets, Bool.and_eq_true, decide_eq_true_eq] at hmeets
      exact hmeets.2.le.trans ih

/-- First fit passes over no free start. -/
lemma not_free_of_lt_firstFit {used : UsedSlots} {start slots n : ℕ} (hstart : start ≤ n)
    (hn : n < firstFit used start slots) : ¬ used.Free { start := n, stop := n + slots } := by
  fun_induction firstFit used start slots with
  | case1 start _ => exact absurd hn (not_lt.2 hstart)
  | case2 start taken hfound ih =>
      rcases lt_or_ge n taken.stop with hbefore | hafter
      · have hmeets := List.find?_some hfound
        simp only [meets, Bool.and_eq_true, decide_eq_true_eq] at hmeets
        intro hfree
        rcases hfree taken (List.mem_of_find?_eq_some hfound) with hapart | hapart
        · exact absurd hapart (not_le.2 hbefore)
        · have hapart : n + slots ≤ taken.start := hapart
          omega
      · exact ih hafter hn

/-- A free start is not passed over. -/
lemma firstFit_le_of_free {used : UsedSlots} {start slots n : ℕ} (hstart : start ≤ n)
    (hfree : used.Free { start := n, stop := n + slots }) : firstFit used start slots ≤ n :=
  not_lt.1 fun hn => not_free_of_lt_firstFit hstart hn hfree

lemma firstFit_of_free {used : UsedSlots} {start slots : ℕ}
    (hfree : used.Free { start := start, stop := start + slots }) :
    firstFit used start slots = start :=
  le_antisymm (firstFit_le_of_free le_rfl hfree) (le_firstFit used start slots)

lemma firstFree_eq_ok {used : UsedSlots} {start slots location : ℕ} :
    firstFree used start slots = .ok location
      ↔ location + slots < word32Limit ∧ location = firstFit used start slots := by
  simp only [firstFree, map_eq_ok, range_eq_ok]
  constructor
  · rintro ⟨_, ⟨hlt, rfl⟩, rfl⟩
    exact ⟨hlt, rfl⟩
  · rintro ⟨hlt, rfl⟩
    exact ⟨_, ⟨hlt, rfl⟩, rfl⟩

end UsedSlots

/-! ## The registry -/

namespace VaryingLocations

variable {varyings after : VaryingLocations} {name other : Text} {slots location : ℕ}
  {used : UsedSlots}

/-- The name has no remembered location that is free. -/
def Stale (varyings : VaryingLocations) (name : Text) (slots : ℕ) (used : UsedSlots) : Prop :=
  ∀ location, varyings.location? name = some location →
    ¬ used.Free { start := location, stop := location + slots }

/-- What asking for a varying's location can come to. -/
inductive Located (varyings : VaryingLocations) (name : Text) (slots : ℕ) (used : UsedSlots) :
    ℕ → VaryingLocations → Prop where
  /-- The remembered location is free. -/
  | remembered {location : ℕ} (hknown : varyings.location? name = some location)
      (hfree : used.Free { start := location, stop := location + slots }) :
      Located varyings name slots used location varyings
  /-- A new location that stays below the limit. -/
  | fresh (hstale : varyings.Stale name slots used)
      (hfits : used.firstFit varyings.next slots + slots ≤ varyingLimit) :
      Located varyings name slots used (used.firstFit varyings.next slots)
        { assigned := (name, used.firstFit varyings.next slots) :: varyings.assigned
          next := used.firstFit varyings.next slots + slots }
  /-- The new location would pass the limit, so the search starts over from 0. -/
  | exhausted (hstale : varyings.Stale name slots used)
      (hpast : varyingLimit < used.firstFit varyings.next slots + slots) :
      Located varyings name slots used (used.firstFit 0 slots)
        { varyings with assigned := (name, used.firstFit 0 slots) :: varyings.assigned }

lemma locateNew_located (hstale : varyings.Stale name slots used)
    (h : varyings.locateNew name slots used = .ok (location, after)) :
    Located varyings name slots used location after := by
  simp only [locateNew, bind_eq_ok, UsedSlots.firstFree_eq_ok] at h
  obtain ⟨first, ⟨_, rfl⟩, stop, hstop, h⟩ := h
  obtain ⟨rfl, _⟩ := Word32.check_eq_ok.1 hstop
  split_ifs at h with hpast
  · simp only [bind_eq_ok, UsedSlots.firstFree_eq_ok, pure_eq_ok, Prod.mk.injEq] at h
    obtain ⟨_, ⟨_, rfl⟩, rfl, rfl⟩ := h
    exact .exhausted hstale hpast
  · simp only [pure_eq_ok, Prod.mk.injEq] at h
    obtain ⟨rfl, rfl⟩ := h
    exact .fresh hstale (not_lt.1 hpast)

/-- **Asking for a varying comes to one of three things.** -/
theorem locate_located (h : varyings.locate name slots used = .ok (location, after)) :
    Located varyings name slots used location after := by
  unfold locate at h
  split at h
  · next known hknown =>
      simp only [bind_eq_ok, UsedSlots.isFree_eq_ok] at h
      obtain ⟨free, ⟨_, hfree⟩, h⟩ := h
      split_ifs at h with hif
      · simp only [pure_eq_ok, Prod.mk.injEq] at h
        obtain ⟨rfl, rfl⟩ := h
        exact .remembered hknown (hfree.1 hif)
      · refine locateNew_located ?_ h
        intro other hother
        rw [hknown, Option.some.injEq] at hother
        exact hother ▸ fun hf => hif (hfree.2 hf)
  · next hknown =>
      refine locateNew_located ?_ h
      intro other hother
      rw [hknown] at hother
      exact absurd hother (by simp)

namespace Located

/-- The location is free. -/
lemma free (h : Located varyings name slots used location after) :
    used.Free { start := location, stop := location + slots } := by
  cases h with
  | remembered _ hfree => exact hfree
  | fresh _ _ => exact used.firstFit_free _ _
  | exhausted _ _ => exact used.firstFit_free _ _

/-- The location is remembered. -/
lemma location?_self (h : Located varyings name slots used location after) :
    after.location? name = some location := by
  cases h with
  | remembered hknown _ => exact hknown
  | fresh _ _ => simp [location?]
  | exhausted _ _ => simp [location?]

/-- What is remembered of other names does not change. -/
lemma location?_other (h : Located varyings name slots used location after)
    (hne : other ≠ name) : after.location? other = varyings.location? other := by
  have hbeq : (other == name) = false := by simpa using hne
  cases h with
  | remembered _ _ => rfl
  | fresh _ _ => simp [location?, List.lookup_cons, hbeq]
  | exhausted _ _ => simp [location?, List.lookup_cons, hbeq]

/-- A free remembered location is the one that is given, and the registry stays as it is. -/
lemma eq_of_free {known : ℕ} (h : Located varyings name slots used location after)
    (hknown : varyings.location? name = some known)
    (hfree : used.Free { start := known, stop := known + slots }) :
    location = known ∧ after = varyings := by
  cases h with
  | remembered hknown' _ => exact ⟨Option.some.inj (hknown'.symm.trans hknown), rfl⟩
  | fresh hstale _ => exact absurd hfree (hstale known hknown)
  | exhausted hstale _ => exact absurd hfree (hstale known hknown)

end Located

end VaryingLocations
end Layout
end GlBridge
