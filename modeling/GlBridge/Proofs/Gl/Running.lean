import Mathlib.Data.Int.Lemmas
import GlBridge.Gl.Draw

/-!
# Running calls from a given state

A trace tells what calls were made.  What the calls change is another question, and to answer it the
native side has to be a particular one, with a state that says what its calls do.

* `Ends x s a s'` — from the state `s`, the calls `x` end with the result `a` in the state `s'`;
* `wordOf_signedOf` — a name survives being asked for as a number with a sign.
-/

namespace GlBridge.Gl

variable {σ α β : Type}

/-! ## Numbers that are asked for -/

/-- A word is itself again after it was read with a sign. -/
lemma wordOf_signedOf {n : ℕ} (h : n < word32Limit) : wordOf (signedOf n) = n := by
  rw [wordOf, signedOf, Int.bmod_emod, Int.emod_eq_of_lt (Int.natCast_nonneg n)
    (Int.ofNat_lt.2 h), Int.toNat_natCast]

lemma signedOf_zero : signedOf 0 = 0 := rfl

/-- Only zero is read as zero. -/
lemma signedOf_eq_zero_iff {n : ℕ} (h : n < word32Limit) : signedOf n = 0 ↔ n = 0 := by
  constructor
  · intro hzero
    rw [← wordOf_signedOf h, hzero]
    rfl
  · rintro rfl
    exact signedOf_zero

/-- A word below half the limit is read as it is. -/
lemma signedOf_of_lt {n : ℕ} (h : n < word32Limit / 2) : signedOf n = n := by
  rw [signedOf]
  refine Int.bmod_eq_of_le_mul_two ?_ ?_
  · omega
  · unfold word32Limit at *
    omega

/-! ## Sequences of calls -/

/-- From a state, calls end with a result in a state. -/
def Ends (x : NativeM σ α) (s : σ) (a : α) (s' : σ) : Prop := x s = (a, s')

namespace Ends

variable {x : NativeM σ α} {f : α → NativeM σ β} {s s' s'' : σ} {a : α} {b : β}

lemma pure (a : α) (s : σ) : Ends (Pure.pure a : NativeM σ α) s a s := rfl

lemma bind (hx : Ends x s a s') (hf : Ends (f a) s' b s'') : Ends (x >>= f) s b s'' := by
  have hrun : (x >>= f) s = f (x s).1 (x s).2 := rfl
  rw [Ends, hrun, hx]
  exact hf

end Ends

end GlBridge.Gl
