import GlBridge.Glsl.Source
import GlBridge.Proofs.Text.Slicing

/-!
# A source handed over in portions

An application may cut the bytes of a source wherever it likes, also within a character.  It may give
a portion's length, with any bytes after the portion in memory, or end the portion by a zero byte, and
leave null pointers in between.

**Portions.**  `Portion` lists the ways to hand over a part of a source, and `SourceArguments.ofPortions`
are the arguments that do so.

**What is read.**  Each portion is read as its bytes, as long as no zero byte stands in the way, and
null pointers are passed over (`fragments_ofPortions`).  Of the bytes of a text only NUL is zero
(`zero_mem_encode_iff`), so nothing stands in the way in a text without it, however it is cut.  Since
characters are read of the joined bytes alone, the text comes out as it was
(**`joinFragments_ofPortions`**).
-/

namespace GlBridge

/-! ## Zero bytes -/

namespace Text

lemma zero_mem_encodeChar_iff (c : Char) : 0 ∈ encodeChar c ↔ c = '\x00' := by
  constructor
  · intro hzero
    by_cases hc : 0x80 ≤ c.toNat
    · exact absurd (toNat_of_mem_encodeChar hc hzero) (by decide)
    · rw [encodeChar, if_pos (Nat.not_le.1 hc), List.mem_singleton] at hzero
      have hnumber := congrArg UInt8.toNat hzero
      rw [toNat_toUInt8 (by omega)] at hnumber
      exact Char.toNat_inj.1 hnumber.symm
  · rintro rfl
    decide

/-- **Only NUL has a zero byte.** -/
lemma zero_mem_encode_iff (text : Text) : 0 ∈ encode text ↔ '\x00' ∈ text := by
  simp [encode, zero_mem_encodeChar_iff]

end Text

namespace Glsl

/-! ## Portions -/

/-- A part of a source as it is handed over. -/
inductive Portion where
  /-- A null pointer, with a length that says nothing. -/
  | absent (length : Int)
  /-- Bytes whose number is given, whatever comes after them in memory. -/
  | measured (content after : Bytes)
  /-- Bytes that a zero byte ends.  Where lengths are given, theirs is negative. -/
  | terminated (content after : Bytes) (length : Int) (negative : length < 0)

namespace Portion

/-- The bytes that are handed over, unless there is only a null pointer. -/
def content? : Portion → Option Bytes
  | absent _ => none
  | measured content _ => some content
  | terminated content _ _ _ => some content

/-- The part of the source, which is empty for a null pointer. -/
def content (portion : Portion) : Bytes := portion.content?.getD []

/-- The memory at the portion's pointer. -/
def memory? : Portion → Option Bytes
  | absent _ => none
  | measured content after => some (content ++ after)
  | terminated content after _ _ => some (content ++ 0 :: after)

/-- The length given with the portion. -/
def length : Portion → Int
  | absent length => length
  | measured content _ => content.length
  | terminated _ _ length _ => length

/-- Whether the end of the portion is only known from its length. -/
def isMeasured : Portion → Bool
  | measured _ _ => true
  | _ => false

end Portion

/-- The arguments that hand portions over, with an array of lengths or without one. -/
def SourceArguments.ofPortions (portions : List Portion) (withLengths : Bool) : SourceArguments where
  count := portions.length
  strings := portions.map Portion.memory?
  lengths := if withLengths then some (portions.map Portion.length) else none

/-! ## What is read -/

lemma fragment_measured (content after : Bytes) :
    fragment (content ++ after) content.length = content := by
  rw [fragment, if_pos (Int.natCast_nonneg _), Int.toNat_natCast, List.take_left]

lemma fragment_terminated {content : Bytes} (hcontent : 0 ∉ content) (after : Bytes) {length : Int}
    (hlength : length < 0) : fragment (content ++ 0 :: after) length = content := by
  have hall : ∀ b ∈ content, decide (b ≠ 0) = true := by
    intro b hb
    exact decide_eq_true (ne_of_mem_of_not_mem hb hcontent)
  rw [fragment, if_neg (not_le.2 hlength), List.takeWhile_append_of_pos hall]
  simp

/-- The length that is read for a portion: it is as good as negative if there are no lengths. -/
def Portion.lengthRead (portion : Portion) (withLengths : Bool) : Int :=
  if withLengths then portion.length else -1

/-- **A portion is read as its bytes**, unless a zero byte ends it early. -/
lemma Portion.fragment_eq {portion : Portion} {withLengths : Bool}
    (hlengths : portion.isMeasured = true → withLengths = true) (hzero : 0 ∉ portion.content) :
    portion.memory?.map (fragment · (portion.lengthRead withLengths)) = portion.content? := by
  cases portion with
  | absent length => rfl
  | measured content after =>
      rw [lengthRead, if_pos (hlengths rfl)]
      exact congrArg some (fragment_measured content after)
  | terminated content after length negative =>
      have hread : (terminated content after length negative).lengthRead withLengths < 0 := by
        rw [lengthRead]
        split_ifs
        · exact negative
        · decide
      exact congrArg some (fragment_terminated hzero after hread)

/-- Going through a list by its indices is going through the list. -/
lemma filterMap_range_length {α β : Type} (list : List α) (f : α → Option β) :
    (List.range list.length).filterMap (fun index => list[index]?.bind f) = list.filterMap f := by
  induction list with
  | nil => rfl
  | cons a list ih =>
      rw [List.length_cons, List.range_succ_eq_map, List.filterMap_cons, List.filterMap_map,
        List.filterMap_cons, ← ih]
      rfl

section Arguments

variable {portions : List Portion} {withLengths : Bool} {index : ℕ}

lemma length_ofPortions {portion : Portion} (h : portions[index]? = some portion) :
    (SourceArguments.ofPortions portions withLengths).length index
      = portion.lengthRead withLengths := by
  cases withLengths with
  | false => rfl
  | true =>
      rw [SourceArguments.ofPortions, SourceArguments.length, if_pos rfl]
      dsimp only
      rw [List.getD_eq_getElem?_getD, List.getElem?_map, h]
      rfl

lemma strings_ofPortions (portions : List Portion) (withLengths : Bool) (index : ℕ) :
    (SourceArguments.ofPortions portions withLengths).strings[index]?
      = portions[index]?.map Portion.memory? :=
  List.getElem?_map

/-- **Portions are read one by one**, and null pointers are passed over. -/
theorem fragments_ofPortions
    (hlengths : ∀ portion ∈ portions, portion.isMeasured = true → withLengths = true)
    (hzero : ∀ portion ∈ portions, 0 ∉ portion.content) :
    (SourceArguments.ofPortions portions withLengths).fragments
      = portions.filterMap Portion.content? := by
  let arguments := SourceArguments.ofPortions portions withLengths
  have hread (index : ℕ) :
      (arguments.strings[index]?.getD none).map (fragment · (arguments.length index))
        = portions[index]?.bind Portion.content? := by
    rw [strings_ofPortions]
    cases hportion : portions[index]? with
    | none => rfl
    | some portion =>
        have hmem := List.mem_of_getElem? hportion
        rw [length_ofPortions hportion]
        exact Portion.fragment_eq (hlengths portion hmem) (hzero portion hmem)
  rw [SourceArguments.fragments, List.filterMap_congr fun index _ => hread index]
  exact filterMap_range_length portions Portion.content?

end Arguments

/-- A null pointer adds nothing to the bytes. -/
lemma flatten_content (portions : List Portion) :
    (portions.filterMap Portion.content?).flatten = (portions.map Portion.content).flatten := by
  induction portions with
  | nil => rfl
  | cons portion portions ih =>
      rw [List.map_cons, List.flatten_cons, ← ih, Portion.content]
      cases hcontent : portion.content? with
      | none => rw [List.filterMap_cons_none hcontent]; rfl
      | some content => rw [List.filterMap_cons_some hcontent, List.flatten_cons]; rfl

/-! ## The result -/

/-- **Cutting a source does not change it.**  However the bytes of a text without NUL are cut into
portions, given by their lengths or ended by zero bytes, with null pointers anywhere in between, the
text is read as it was.  An array of lengths can only be left out if no portion needs it. -/
theorem joinFragments_ofPortions (text : Text) (hnul : '\x00' ∉ text) (portions : List Portion)
    (hcut : (portions.map Portion.content).flatten = text.encode) (withLengths : Bool)
    (hlengths : ∀ portion ∈ portions, portion.isMeasured = true → withLengths = true) :
    joinFragments (SourceArguments.ofPortions portions withLengths).fragments = text := by
  have hzero : ∀ portion ∈ portions, 0 ∉ portion.content := by
    intro portion hportion hmem
    refine hnul ((Text.zero_mem_encode_iff text).1 ?_)
    rw [← hcut]
    exact List.mem_flatten_of_mem (List.mem_map_of_mem hportion) hmem
  rw [joinFragments, fragments_ofPortions hlengths hzero, flatten_content, hcut, Text.decode_encode]

/-- A source with a character of two bytes that is cut between them. -/
def accented : Text := "// é\n".toList

/-- The null pointers have lengths, and what is after a portion in memory looks like more of it. -/
def accentedPortions : List Portion :=
  [.measured [47, 47] [47], .absent 7, .terminated [32, 0xC3] [0xA9] (-5) (by decide),
    .measured [] [65], .absent (-1), .terminated [0xA9, 10] [] (-1) (by decide)]

theorem joinFragments_ofPortions_accented :
    '\x00' ∉ accented ∧ (accentedPortions.map Portion.content).flatten = accented.encode ∧
      (∀ portion ∈ accentedPortions, portion.isMeasured = true → true = true) ∧
      joinFragments (SourceArguments.ofPortions accentedPortions true).fragments = accented := by
  have hnul : '\x00' ∉ accented := by decide
  have hcut : (accentedPortions.map Portion.content).flatten = accented.encode := by decide
  exact ⟨hnul, hcut, fun _ _ _ => rfl,
    joinFragments_ofPortions accented hnul accentedPortions hcut true fun _ _ _ => rfl⟩

end Glsl
end GlBridge
