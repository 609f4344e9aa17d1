import GlBridge.Proofs.Layout.Room

/-!
# The search for room, slot by slot

First fit goes on from the end of a range that is in the way.  The plain search for room tries one
start after the other and ends at the first one that is free; it has no bound of its own, and each
test and each step can be one too many for 32 bits.

**The plain search.**  `UsedSlots.scan` is that search with all its checks.  The starts that first
fit jumps over are taken, so moving on by one does not change where first fit ends
(`firstFit_succ`), and the two come to the same (`scan_eq_firstFree`), be it a start or an overflow.

**How far it goes.**  Nothing is in the way from `UsedSlots.reach` on, the greatest end of a taken
range or the start itself.  If the slots wanted fit after it, no check before it fails.

* `UsedSlots.scan_eq_firstFree` — the plain search, for all taken ranges, starts and widths;
* **`UsedSlots.firstFree_isLeast`** — it ends at the least free start, and taking the slots there
  shares none with what was taken before.
-/

namespace GlBridge.Layout.UsedSlots

variable {used : UsedSlots} {start slots : ℕ}

/-! ## The plain search -/

/-- Testing one start after the other, from a given one on, for room for `slots` slots. -/
def scan (used : UsedSlots) (start slots : ℕ) : Except Overflow ℕ :=
  match used.isFree start slots with
  | .error e => .error e
  | .ok true => .ok start
  | .ok false =>
    match _h : Word32.add start 1 with
    | .error e => .error e
    | .ok next => scan used next slots
termination_by word32Limit - start
decreasing_by
  obtain ⟨rfl, hlt⟩ := Word32.check_eq_ok.1 _h
  omega

/-- A test fails only if the end of what it tests does not fit. -/
lemma isFree_eq_error {e : Overflow} :
    used.isFree start slots = .error e ↔ word32Limit ≤ start + slots := by
  cases e
  rw [← not_lt]
  by_cases h : start + slots < word32Limit <;>
    simp [isFree, range, Word32.add, Word32.check, Except.map, h]

lemma firstFree_eq_error {e : Overflow} :
    used.firstFree start slots = .error e ↔ word32Limit ≤ used.firstFit start slots + slots := by
  cases e
  rw [← not_lt]
  by_cases h : used.firstFit start slots + slots < word32Limit <;>
    simp [firstFree, range, Word32.add, Word32.check, Except.map, h]

/-- First fit goes past a start that is taken. -/
lemma lt_firstFit (h : ¬ used.Free { start := start, stop := start + slots }) :
    start < used.firstFit start slots := by
  refine lt_of_le_of_ne (used.le_firstFit start slots) fun heq => h ?_
  have hfree := used.firstFit_free start slots
  rwa [← heq] at hfree

/-- A start that is taken may as well be passed over by one. -/
lemma firstFit_succ (h : ¬ used.Free { start := start, stop := start + slots }) :
    used.firstFit (start + 1) slots = used.firstFit start slots :=
  le_antisymm (firstFit_le_of_free (lt_firstFit h) (used.firstFit_free start slots))
    (firstFit_mono (Nat.le_succ start))

/-- **The plain search comes to what first fit comes to**, be it a start or an overflow. -/
theorem scan_eq_firstFree (used : UsedSlots) (start slots : ℕ) :
    used.scan start slots = used.firstFree start slots := by
  fun_induction scan used start slots with
  | case1 start e hwide =>
      have hlimit := isFree_eq_error.1 hwide
      have hle := Nat.add_le_add_right (used.le_firstFit start slots) slots
      exact (firstFree_eq_error.2 (hlimit.trans hle)).symm
  | case2 start hfound =>
      obtain ⟨hlt, hfree⟩ := isFree_eq_ok.1 hfound
      have hfit := firstFit_of_free (hfree.1 rfl)
      exact (firstFree_eq_ok.2 ⟨hlt, hfit.symm⟩).symm
  | case3 start htaken e hlast =>
      -- the start after the last number of 32 bits: first fit would have to end there or later
      obtain ⟨_, hfree⟩ := isFree_eq_ok.1 htaken
      have hlt := lt_firstFit (mt hfree.2 Bool.false_ne_true)
      have hlimit : word32Limit ≤ start + 1 := by
        by_contra hfits
        rw [Word32.add, Word32.check_eq_ok.2 ⟨rfl, not_le.1 hfits⟩] at hlast
        cases hlast
      exact (firstFree_eq_error.2 (by omega)).symm
  | case4 start htaken next hnext ih =>
      obtain ⟨_, hfree⟩ := isFree_eq_ok.1 htaken
      obtain ⟨rfl, _⟩ := Word32.check_eq_ok.1 hnext
      rw [ih, firstFree, firstFree, firstFit_succ (mt hfree.2 Bool.false_ne_true)]

/-! ## How far it goes -/

/-- The greatest of a start and the ends of the taken ranges. -/
def reach (used : UsedSlots) (start : ℕ) : ℕ :=
  (start :: used.map Span.stop).max (List.cons_ne_nil _ _)

lemma le_reach (used : UsedSlots) (start : ℕ) : start ≤ used.reach start :=
  List.le_max_of_mem List.mem_cons_self

lemma stop_le_reach {taken : Span} (h : taken ∈ used) (start : ℕ) :
    taken.stop ≤ used.reach start :=
  List.le_max_of_mem (List.mem_cons_of_mem _ (List.mem_map_of_mem h))

lemma firstFit_le_reach (used : UsedSlots) (start slots : ℕ) :
    used.firstFit start slots ≤ used.reach start :=
  firstFit_le (used.le_reach start) fun _ h => stop_le_reach h start

/-! ## The result -/

/-- **The search for room ends at the least free start**, without overflow, if the slots wanted fit
after all that is taken and after the start.  It goes no further than these, and the range that is
taken there shares no slot with those taken before. -/
theorem firstFree_isLeast (used : UsedSlots) {start slots : ℕ}
    (h : used.reach start + slots < word32Limit) :
    ∃ location, used.firstFree start slots = .ok location ∧
      used.scan start slots = .ok location ∧
      IsLeast {n | start ≤ n ∧ used.isFree n slots = .ok true} location ∧
      location ≤ used.reach start ∧
      ∃ added : Span, added = { start := location, stop := location + slots } ∧
        used.claim location slots = .ok (used ++ [added]) ∧
        ∀ taken ∈ used, Disjoint taken.numbers added.numbers := by
  have hle := used.firstFit_le_reach start slots
  have hfits : used.firstFit start slots + slots < word32Limit :=
    (Nat.add_le_add_right hle slots).trans_lt h
  have hfound := firstFree_eq_ok.2 ⟨hfits, rfl⟩
  refine ⟨_, hfound, (used.scan_eq_firstFree start slots).trans hfound, ⟨⟨?_, ?_⟩, ?_⟩, hle,
    _, rfl, claim_eq_ok.2 ⟨hfits, rfl⟩, fun taken htaken => ?_⟩
  · exact used.le_firstFit start slots
  · exact isFree_eq_ok.2 ⟨hfits, iff_of_true rfl (used.firstFit_free start slots)⟩
  · rintro n ⟨hstart, hfree⟩
    exact firstFit_le_of_free hstart ((isFree_eq_ok.1 hfree).2.1 rfl)
  · exact (used.firstFit_free start slots taken htaken).disjoint

/-- Taken ranges in no order, two of which overlap, with a gap of one slot and one of six. -/
def scattered : UsedSlots := [⟨10, 14⟩, ⟨0, 2⟩, ⟨3, 4⟩, ⟨11, 13⟩]

/-- Three slots do not fit the first gap, and no slots at all do not fit inside a taken range. -/
theorem firstFree_isLeast_scattered :
    (scattered.reach 1 + 3 < word32Limit ∧ scattered.reach 11 + 0 < word32Limit) ∧
      (scattered.firstFree 1 3 = .ok 4 ∧ scattered.scan 1 3 = .ok 4 ∧
        IsLeast {n | 1 ≤ n ∧ scattered.isFree n 3 = .ok true} 4 ∧
        ∀ taken ∈ scattered, Disjoint taken.numbers (Set.Ico 4 7)) ∧
      scattered.scan 11 0 = .ok 14 ∧
        IsLeast {n | 11 ≤ n ∧ scattered.isFree n 0 = .ok true} 14 := by
  have hreach : scattered.reach 1 + 3 < word32Limit ∧ scattered.reach 11 + 0 < word32Limit := by
    decide
  have hends : scattered.firstFree 1 3 = .ok 4 ∧ scattered.firstFree 11 0 = .ok 14 := by
    decide +kernel
  obtain ⟨location, hfound, hscan, hleast, _, _, rfl, _, hdisjoint⟩ :=
    firstFree_isLeast scattered hreach.1
  obtain rfl : location = 4 := Except.ok.inj (hfound.symm.trans hends.1)
  obtain ⟨location, hfound', hscan', hleast', _⟩ := firstFree_isLeast scattered hreach.2
  obtain rfl : location = 14 := Except.ok.inj (hfound'.symm.trans hends.2)
  exact ⟨hreach, ⟨hfound, hscan, hleast, hdisjoint⟩, hscan', hleast'⟩

end GlBridge.Layout.UsedSlots
