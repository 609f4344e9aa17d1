import Mathlib
import GlBridge.Interface.Restore
import GlBridge.Proofs.Entries

/-!
# Finding what is free

Fresh names and binding points are found the same way: candidates are numbered, and one after the
other is tried until one is not taken.  The search has no bound of its own.  It ends because different
numbers give different candidates and only finitely many things are taken.

* `StopsAt` — where a search ends, if it does;
* **`exists_stopsAt`** — a search ends after at most as many failures as there are things taken;
* `find?_eq_some_iff_stopsAt` — a bounded search that goes that far finds the same number;
* `countedSearch_eq_ok_iff` — a search whose numbers have 32 bits with a sign finds it if it is one of
  these, and overflows otherwise.
-/

namespace GlBridge.Interface

open Text

section Searching

variable {α : Type} {candidates : ℕ → α} {taken others : List α} {start n m : ℕ}

/-- A search that tries the numbers from `start` on ends at `n`: its candidate is the first one that
is not taken. -/
structure StopsAt (candidates : ℕ → α) (taken : List α) (start n : ℕ) : Prop where
  start_le : start ≤ n
  free : candidates n ∉ taken
  tried : ∀ k, start ≤ k → k < n → candidates k ∈ taken

lemma StopsAt.unique (h : StopsAt candidates taken start n)
    (h' : StopsAt candidates taken start m) : n = m := by
  rcases lt_trichotomy n m with hlt | heq | hlt
  · exact absurd (h'.tried n h.start_le hlt) h.free
  · exact heq
  · exact absurd (h.tried m h'.start_le hlt) h'.free

/-- Where a search ends depends on what is taken, not on how it is listed. -/
lemma StopsAt.congr (h : StopsAt candidates taken start n)
    (hmem : ∀ k, candidates k ∈ taken ↔ candidates k ∈ others) :
    StopsAt candidates others start n where
  start_le := h.start_le
  free := fun hn => h.free ((hmem n).2 hn)
  tried := fun k hk hlt => (hmem k).1 (h.tried k hk hlt)

/-- Among one more candidates than there are things taken one is free. -/
lemma exists_free (hinjective : Function.Injective candidates) (taken : List α) (start : ℕ) :
    ∃ k ∈ List.range' start (taken.length + 1), candidates k ∉ taken := by
  by_contra h
  push Not at h
  have hsub : (List.range' start (taken.length + 1)).map candidates ⊆ taken := by
    intro a ha
    obtain ⟨k, hk, rfl⟩ := List.mem_map.1 ha
    exact h k hk
  have hnodup : ((List.range' start (taken.length + 1)).map candidates).Nodup :=
    (List.nodup_range' _).map hinjective
  have hlength := (hnodup.subperm hsub).length_le
  simp at hlength

/-- **A search ends.** -/
theorem exists_stopsAt (hinjective : Function.Injective candidates) (taken : List α) (start : ℕ) :
    ∃ n, StopsAt candidates taken start n ∧ n < start + (taken.length + 1) := by
  classical
  obtain ⟨k, hk, hfree⟩ := exists_free hinjective taken start
  rw [List.mem_range'_1] at hk
  have hexists : ∃ k, start ≤ k ∧ candidates k ∉ taken := ⟨k, hk.1, hfree⟩
  obtain ⟨hstart, hnot⟩ := Nat.find_spec hexists
  refine ⟨Nat.find hexists, ⟨hstart, hnot, ?_⟩, ?_⟩
  · intro j hj hlt
    by_contra hmem
    exact Nat.find_min hexists hlt ⟨hj, hmem⟩
  · exact lt_of_le_of_lt (Nat.find_min' hexists ⟨hk.1, hfree⟩) hk.2

/-- What a bounded search finds, if it tries enough candidates. -/
theorem find?_eq_some_iff_stopsAt {test : ℕ → Bool} (hinjective : Function.Injective candidates)
    (htest : ∀ k, test k = true ↔ candidates k ∉ taken) :
    (List.range' start (taken.length + 1)).find? test = some n ↔
      StopsAt candidates taken start n := by
  rw [List.find?_range'_eq_some, List.mem_range'_1, htest]
  simp only [Bool.not_eq_true', ← Bool.not_eq_true, htest, not_not]
  constructor
  · rintro ⟨hfree, ⟨hstart, _⟩, htried⟩
    exact ⟨hstart, hfree, htried⟩
  · intro h
    obtain ⟨m, hm, hlt⟩ := exists_stopsAt hinjective taken start
    obtain rfl := h.unique hm
    exact ⟨h.free, ⟨h.start_le, hlt⟩, h.tried⟩

/-- A search that counts in 32 bits with a sign. -/
def countedSearch [DecidableEq α] (candidates : ℕ → α) (taken : List α) (number : ℕ) :
    Except Overflow α :=
  if candidates number ∉ taken then .ok (candidates number)
  else if number + 1 < word32Limit / 2 then countedSearch candidates taken (number + 1)
  else .error .overflow
termination_by word32Limit / 2 - number

/-- **Counting in 32 bits makes no difference** exactly if the search ends at one of their numbers. -/
theorem countedSearch_eq_ok_iff [DecidableEq α] (h : StopsAt candidates taken start n)
    (hstart : start < word32Limit / 2) :
    countedSearch candidates taken start = .ok (candidates n) ↔ n < word32Limit / 2 := by
  fun_induction countedSearch candidates taken start with
  | case1 number hfree =>
      obtain rfl := h.unique ⟨le_rfl, hfree, fun k hle hlt => absurd hle hlt.not_ge⟩
      exact iff_of_true rfl hstart
  | case2 number htaken hnext ih =>
      have hne : number ≠ n := by
        rintro rfl
        exact htaken h.free
      have hle := h.start_le
      exact ih ⟨by omega, h.free, fun k hk hlt => h.tried k (by omega) hlt⟩ hnext
  | case3 number htaken hlast =>
      have hne : number ≠ n := by
        rintro rfl
        exact htaken h.free
      have hle := h.start_le
      exact iff_of_false nofun (by omega)

end Searching

end GlBridge.Interface
