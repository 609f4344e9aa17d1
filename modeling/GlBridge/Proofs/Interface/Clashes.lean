import GlBridge.Proofs.Glsl.Respelling
import GlBridge.Proofs.Interface.Finding
import GlBridge.Proofs.Text.Decimal

/-!
# Making room for restored names

Names that are put back into a text may stand there for something else already.  Such an identifier
is given the first name of the form `name_1`, `name_2`, … that is nowhere in the text, not restored
itself and not given to another identifier before.

**Each name by itself.**  The part of a candidate behind its last underscore is its number, so
different names have no candidates in common (`candidate_inj`), however much they look like
candidates of each other.  Names given before are therefore never in the way: what a name becomes
depends on the text and on what is restored, not on the other clashes (`roomFor`,
`renameClashes_eq`).

**The text.**  New names are identifiers, so the text is read as before with the new names in it
(`respelled_renameClashes`).

The main result is **`renameClashes_makesRoom`**: no identifier of the new text is in the way, but
for swizzles, which are no names, and none becomes the same as another one.
-/

namespace GlBridge.Interface

open Text Glsl

variable {name other text : Text} {taken others occurring restored : List Text}
  {renames : List (Text × Text)} {m n : ℕ}

/-! ## Candidates -/

lemma underscore_notMem_ofNat (n : ℕ) : '_' ∉ ofNat n := by
  intro hmem
  have hdigit := List.all_eq_true.1 (ofNat_all_isDigit n) '_' hmem
  exact absurd hdigit (by decide)

/-- **A candidate tells the name and the number.** -/
theorem candidate_inj : candidate name m = candidate other n ↔ name = other ∧ m = n := by
  constructor
  · intro h
    rw [candidate, candidate, List.append_eq_append_iff] at h
    -- unless the names end at the same place, one number has the other one's underscore in it
    rcases h with ⟨gap, hother, htail⟩ | ⟨gap, hname, htail⟩
    · cases gap with
      | nil =>
          have hnumber := ofNat_injective (List.cons.inj htail).2
          exact ⟨by simpa using hother.symm, hnumber⟩
      | cons c gap =>
          have hdigits := (List.cons.inj htail).2
          exact absurd (by rw [hdigits]; simp) (underscore_notMem_ofNat m)
    · cases gap with
      | nil =>
          have hnumber := ofNat_injective (List.cons.inj htail).2
          exact ⟨by simpa using hname, hnumber.symm⟩
      | cons c gap =>
          have hdigits := (List.cons.inj htail).2
          exact absurd (by rw [hdigits]; simp) (underscore_notMem_ofNat n)
  · rintro ⟨rfl, rfl⟩
    rfl

/-- A name has a different candidate for every number. -/
lemma candidate_injective (name : Text) : Function.Injective (candidate name) := by
  intro m n h
  exact (candidate_inj.1 h).2

/-- The number behind the underscore goes on with an identifier. -/
lemma isIdentifier_candidate (h : isIdentifier name = true) (n : ℕ) :
    isIdentifier (candidate name n) = true := by
  cases name with
  | nil => simp [isIdentifier] at h
  | cons c rest =>
      rw [isIdentifier, Bool.and_eq_true] at h
      rw [candidate, List.cons_append, isIdentifier, List.all_append, List.all_cons, h.1, h.2,
        ofNat_all_isWordChar]
      decide

/-- The search for a fresh name ends after at most as many failures as there are names taken, and the
fresh name is where it ends. -/
lemma exists_freshName (taken : List Text) (name : Text) :
    ∃ n ≤ taken.length + 1, StopsAt (candidate name) taken 1 n ∧
      freshName taken name = candidate name n := by
  obtain ⟨n, hn, hlt⟩ := exists_stopsAt (candidate_injective name) taken 1
  refine ⟨n, by omega, hn, ?_⟩
  have htest : ∀ k, ((!taken.contains ·) ∘ candidate name) k = true ↔ candidate name k ∉ taken := by
    intro k
    simp
  rw [freshName, List.find?_map, (find?_eq_some_iff_stopsAt (candidate_injective name) htest).2 hn]
  rfl

/-- A fresh name is not taken. -/
lemma freshName_notMem (taken : List Text) (name : Text) : freshName taken name ∉ taken := by
  obtain ⟨n, _, hn, heq⟩ := exists_freshName taken name
  rw [heq]
  exact hn.free

/-- A fresh name depends on which candidates are taken and on nothing else. -/
lemma freshName_congr (h : ∀ n, candidate name n ∈ taken ↔ candidate name n ∈ others) :
    freshName taken name = freshName others name := by
  obtain ⟨n, _, hn, heq⟩ := exists_freshName taken name
  obtain ⟨m, _, hm, heq'⟩ := exists_freshName others name
  rw [heq, heq', (hn.congr h).unique hm]

/-- Fresh names of different names differ, whatever is taken. -/
lemma freshName_inj (h : freshName taken name = freshName others other) : name = other := by
  obtain ⟨n, _, _, heq⟩ := exists_freshName taken name
  obtain ⟨m, _, _, heq'⟩ := exists_freshName others other
  rw [heq, heq'] at h
  exact (candidate_inj.1 h).1

/-! ## The loop over the restored names -/

/-- Each name has been given the name that is fresh for the text and what is restored. -/
def Settled (occurring restored : List Text) (renames : List (Text × Text)) : Prop :=
  ∀ entry ∈ renames, entry.2 = freshName (occurring ++ restored) entry.1

/-- What other names have been given is no candidate of a name. -/
lemma Settled.freshName_eq (h : Settled occurring restored renames)
    (hname : name ∉ renames.map Prod.fst) :
    freshName (occurring ++ restored ++ renames.map Prod.snd) name
      = freshName (occurring ++ restored) name := by
  refine freshName_congr ?_
  intro n
  rw [List.mem_append, or_iff_left]
  intro hmem
  obtain ⟨entry, hentry, heq⟩ := List.mem_map.1 hmem
  obtain ⟨m, _, _, hfresh⟩ := exists_freshName (occurring ++ restored) entry.1
  rw [h entry hentry, hfresh] at heq
  obtain rfl := (candidate_inj.1 heq).1
  exact hname (List.mem_map_of_mem hentry)

lemma Settled.append (h : Settled occurring restored renames) (name : Text) :
    Settled occurring restored (renames ++ [(name, freshName (occurring ++ restored) name)]) := by
  intro entry hentry
  rcases List.mem_append.1 hentry with hentry | hentry
  · exact h entry hentry
  · obtain rfl := List.mem_singleton.1 hentry
    rfl

/-- What a settled name is renamed to is fresh. -/
lemma Settled.lookup (h : Settled occurring restored renames) (name : Text) :
    renames.lookup name
      = if name ∈ renames.map Prod.fst then some (freshName (occurring ++ restored) name)
        else none := by
  split_ifs with hmem
  · cases hlookup : renames.lookup name with
    | none =>
        rw [List.lookup_eq_none_iff] at hlookup
        obtain ⟨entry, hentry, rfl⟩ := List.mem_map.1 hmem
        exact absurd (hlookup entry hentry) (by simp)
    | some given =>
        have hgiven : given = freshName (occurring ++ restored) name := h _ (mem_of_lookup hlookup)
        rw [hgiven]
  · rw [Option.eq_none_iff_forall_ne_some]
    intro given hlookup
    exact hmem (List.mem_map_of_mem (mem_of_lookup hlookup))

lemma clashRenames_nil : clashRenames occurring restored renames [] = renames := rfl

lemma clashRenames_cons (list : List Text) :
    clashRenames occurring restored renames (name :: list)
      = if name ∈ renames.map Prod.fst ∨ name ∉ occurring then
          clashRenames occurring restored renames list
        else
          clashRenames occurring restored
            (renames
              ++ [(name, freshName (occurring ++ restored ++ renames.map Prod.snd) name)]) list :=
  rfl

/-- The loop keeps what has been given settled, and gives a name to every clash that it meets. -/
lemma clashRenames_settled (h : Settled occurring restored renames) (list : List Text) :
    Settled occurring restored (clashRenames occurring restored renames list) ∧
      ∀ name, name ∈ (clashRenames occurring restored renames list).map Prod.fst ↔
        name ∈ renames.map Prod.fst ∨ name ∈ list ∧ name ∈ occurring := by
  induction list generalizing renames with
  | nil =>
      rw [clashRenames_nil]
      exact ⟨h, fun name => by simp⟩
  | cons first rest ih =>
      rw [clashRenames_cons]
      split_ifs with hskip
      · obtain ⟨hsettled, hmem⟩ := ih h
        refine ⟨hsettled, ?_⟩
        intro name
        rw [hmem, List.mem_cons]
        constructor
        · rintro (hname | ⟨hname, hoccurs⟩)
          · exact .inl hname
          · exact .inr ⟨.inr hname, hoccurs⟩
        · rintro (hname | ⟨rfl | hname, hoccurs⟩)
          · exact .inl hname
          · exact .inl (hskip.resolve_right (not_not_intro hoccurs))
          · exact .inr ⟨hname, hoccurs⟩
      · rw [not_or, not_not] at hskip
        rw [h.freshName_eq hskip.1]
        obtain ⟨hsettled, hmem⟩ := ih (h.append first)
        refine ⟨hsettled, ?_⟩
        intro name
        rw [hmem, List.map_append, List.mem_append, List.map_singleton, List.mem_singleton,
          List.mem_cons]
        constructor
        · rintro ((hname | rfl) | ⟨hname, hoccurs⟩)
          · exact .inl hname
          · exact .inr ⟨.inl rfl, hskip.2⟩
          · exact .inr ⟨.inr hname, hoccurs⟩
        · rintro (hname | ⟨rfl | hname, hoccurs⟩)
          · exact .inl (.inl hname)
          · exact .inl (.inr rfl)
          · exact .inr ⟨hname, hoccurs⟩

/-- What the loop gives to a name. -/
lemma lookup_clashRenames (occurring restored : List Text) (name : Text) :
    (clashRenames occurring restored [] restored).lookup name
      = if name ∈ restored ∧ name ∈ occurring then some (freshName (occurring ++ restored) name)
        else none := by
  have hempty : Settled occurring restored [] := fun _ hentry => absurd hentry List.not_mem_nil
  obtain ⟨hsettled, hmem⟩ := clashRenames_settled hempty restored
  rw [hsettled.lookup]
  simp only [hmem, List.map_nil, List.not_mem_nil, false_or]

/-! ## The text with room in it -/

lemma isIdentifier_of_mem_identifiers (h : name ∈ identifiers text) : isIdentifier name = true := by
  rw [identifiers_eq_names, Lexeme.names, List.mem_filterMap] at h
  obtain ⟨lexeme, hlexeme, hname⟩ := h
  generalize false = afterDot at hlexeme
  fun_induction Lexeme.scanFrom afterDot text with
  | case1 => exact absurd hlexeme List.not_mem_nil
  | case2 afterDot c rest hc ih =>
      rcases List.mem_cons.1 hlexeme with rfl | hlexeme
      · obtain rfl := Option.some.inj hname
        rw [isIdentifier, hc, Bool.true_and]
        exact List.all_takeWhile
      · exact ih hlexeme
  | case3 afterDot c rest hc hdigit digits ih =>
      rcases List.mem_cons.1 hlexeme with rfl | hlexeme
      · simp [Lexeme.name?] at hname
      · exact ih hlexeme
  | case4 afterDot c rest hc hdigit ih =>
      rcases List.mem_cons.1 hlexeme with rfl | hlexeme
      · simp [Lexeme.name?] at hname
      · exact ih hlexeme

/-- Whether a text has something else in it that is called like a restored name. -/
def isClash (restored : List Text) (text name : Text) : Bool :=
  restored.contains name && containsIdentifier name text

/-- A name clashes if it is restored and occurs in the text. -/
lemma isClash_iff :
    isClash restored text name = true ↔ name ∈ restored ∧ name ∈ identifiers text := by
  rw [isClash, containsIdentifier, Bool.and_eq_true, List.contains_iff_mem, List.contains_iff_mem]

/-- What an identifier of a text is called once there is room for the restored names. -/
def roomFor (restored : List Text) (text name : Text) : Text :=
  if isClash restored text name then freshName (identifiers text ++ restored) name else name

/-- The new name of a use of an identifier, if it gets one. -/
def roomFor? (restored : List Text) (text name : Text) (afterDot : Bool) : Option Text :=
  if afterDot && isSwizzle name then none
  else if isClash restored text name then some (freshName (identifiers text ++ restored) name)
  else none

/-- What a use of an identifier becomes if the names change and swizzles do not. -/
def movedUse (rename : Text → Text) (use : Text × Bool) : Text × Bool :=
  if use.2 && isSwizzle use.1 then use else (rename use.1, use.2)

lemma getD_roomFor? (restored : List Text) (text : Text) (use : Text × Bool) :
    ((roomFor? restored text use.1 use.2).getD use.1, use.2)
      = movedUse (roomFor restored text) use := by
  rw [roomFor?, movedUse, roomFor]
  split_ifs <;> rfl

lemma isIdentifier_roomFor? {afterDot : Bool} {new : Text}
    (h : roomFor? restored text name afterDot = some new) : isIdentifier new = true := by
  rw [roomFor?] at h
  split_ifs at h with _ hclash
  obtain ⟨n, _, _, hfresh⟩ := exists_freshName (identifiers text ++ restored) name
  rw [← Option.some.inj h, hfresh]
  exact isIdentifier_candidate (isIdentifier_of_mem_identifiers (isClash_iff.1 hclash).2) n

/-- **Making room is one renaming**, in which each name is treated by itself. -/
theorem renameClashes_eq (restored : List Text) (text : Text) :
    renameClashes restored text = renameUses (roomFor? restored text) text := by
  simp only [renameClashes, lookup_clashRenames, ← isClash_iff]
  rfl

/-- The text with room is the text with other names, and between them stands what stood there
before. -/
lemma respelled_renameClashes (restored : List Text) (text : Text) :
    Respelled text ((identifierUses text).map (movedUse (roomFor restored text)))
      (renameClashes restored text) := by
  obtain ⟨huses, hgaps⟩ := identifierUses_renameUses
    (fun _ _ _ => isIdentifier_roomFor?) text
  rw [renameClashes_eq]
  refine ⟨huses.trans (List.map_congr_left ?_), hgaps⟩
  intro use _
  exact getD_roomFor? restored text use

/-! ## The result -/

/-- A map of names makes room in a text for restored names: it is one-to-one on what occurs there,
leaves names alone that are not restored, and gives the others names that are new. -/
structure MakesRoom (text : Text) (restored : List Text) (rename : Text → Text) : Prop where
  injOn : Set.InjOn rename {name | name ∈ identifiers text}
  fixes : ∀ name, name ∉ restored → rename name = name
  fresh : ∀ name ∈ restored, name ∈ identifiers text →
    rename name ∉ identifiers text ∧ rename name ∉ restored

/-- The names that make room are new, and apart from each other. -/
lemma roomFor_makesRoom (restored : List Text) (text : Text) :
    MakesRoom text restored (roomFor restored text) := by
  have hfixes : ∀ name, name ∉ restored → roomFor restored text name = name := by
    intro name hname
    rw [roomFor, if_neg fun h => hname (isClash_iff.1 h).1]
  have hfresh : ∀ name ∈ restored, name ∈ identifiers text →
      roomFor restored text name ∉ identifiers text ∧ roomFor restored text name ∉ restored := by
    intro name hname hoccurs
    have hnot := freshName_notMem (identifiers text ++ restored) name
    rw [List.mem_append, not_or] at hnot
    rwa [roomFor, if_pos (isClash_iff.2 ⟨hname, hoccurs⟩)]
  refine ⟨?_, hfixes, hfresh⟩
  intro a ha b hb heq
  by_cases har : a ∈ restored
  · by_cases hbr : b ∈ restored
    · rw [roomFor, roomFor, if_pos (isClash_iff.2 ⟨har, ha⟩),
        if_pos (isClash_iff.2 ⟨hbr, hb⟩)] at heq
      exact freshName_inj heq
    · rw [hfixes b hbr] at heq
      exact absurd (heq ▸ hb) (hfresh a har ha).1
  · rw [hfixes a har] at heq
    by_cases hbr : b ∈ restored
    · exact absurd (heq ▸ ha) (hfresh b hbr hb).1
    · rw [heq, hfixes b hbr]

namespace MakesRoom

variable {rename : Text → Text} {use : Text × Bool}

/-- What a use becomes is restored only if it is a swizzle. -/
lemma movedUse_restored (h : MakesRoom text restored rename) (huse : use ∈ identifierUses text)
    (hmem : (movedUse rename use).1 ∈ restored) :
    (movedUse rename use).2 = true ∧ isSwizzle (movedUse rename use).1 = true := by
  rw [movedUse] at hmem ⊢
  split_ifs at hmem ⊢ with hswizzle
  · exact Bool.and_eq_true_iff.1 hswizzle
  · have hoccurs : use.1 ∈ identifiers text := List.mem_map_of_mem huse
    by_cases hrestored : use.1 ∈ restored
    · exact absurd hmem (h.fresh use.1 hrestored hoccurs).2
    · rw [h.fixes use.1 hrestored] at hmem
      exact absurd hmem hrestored

/-- An identifier keeps its name or is given one that is nowhere in the text. -/
lemma rename_cases (h : MakesRoom text restored rename) (hoccurs : name ∈ identifiers text) :
    rename name = name ∨ rename name ∉ identifiers text := by
  by_cases hrestored : name ∈ restored
  · exact .inr (h.fresh name hrestored hoccurs).1
  · exact .inl (h.fixes name hrestored)

/-- Uses of different identifiers stay uses of different ones. -/
lemma movedUse_ne (h : MakesRoom text restored rename) {other : Text × Bool}
    (huse : use ∈ identifierUses text) (hother : other ∈ identifierUses text)
    (hne : use.1 ≠ other.1) : (movedUse rename use).1 ≠ (movedUse rename other).1 := by
  have hoccurs : use.1 ∈ identifiers text := List.mem_map_of_mem huse
  have hoccurs' : other.1 ∈ identifiers text := List.mem_map_of_mem hother
  rw [movedUse, movedUse]
  split_ifs
  · exact hne
  · rcases h.rename_cases hoccurs' with heq | hnew
    · rwa [heq]
    · intro heq
      have hrename : use.1 = rename other.1 := heq
      exact hnew (hrename ▸ hoccurs)
  · rcases h.rename_cases hoccurs with heq | hnew
    · rwa [heq]
    · intro heq
      have hrename : rename use.1 = other.1 := heq
      exact hnew (hrename ▸ hoccurs')
  · exact fun heq => hne (h.injOn hoccurs hoccurs' heq)

end MakesRoom

/-- **Making room captures nothing.**  The search for a fresh name ends at the first candidate that
is free, whatever is taken, and its number is at most one more than the names that are taken.  It may
as well count in 32 bits with a sign, as long as that number is one of theirs.  Some map of names makes
room in the text, and the new text is the old one under that map, swizzles apart.  So what is called
like a restored name in the new text is a swizzle after a dot, and different identifiers of the old
text are still different. -/
theorem renameClashes_makesRoom (restored : List Text) (text : Text) :
    (∀ taken name, ∃ n ≤ taken.length + 1, StopsAt (candidate name) taken 1 n ∧
      freshName taken name = candidate name n ∧
      (countedSearch (candidate name) taken 1 = .ok (freshName taken name)
        ↔ n < word32Limit / 2)) ∧
    ∃ rename, MakesRoom text restored rename ∧
      Respelled text ((identifierUses text).map (movedUse rename)) (renameClashes restored text) ∧
      (∀ use ∈ identifierUses (renameClashes restored text), use.1 ∈ restored →
        use.2 = true ∧ isSwizzle use.1 = true) ∧
      (∀ use ∈ identifierUses text, ∀ other ∈ identifierUses text, use.1 ≠ other.1 →
        (movedUse rename use).1 ≠ (movedUse rename other).1) := by
  have hroom := roomFor_makesRoom restored text
  have hrespelled := respelled_renameClashes restored text
  refine ⟨fun taken name => ?_, roomFor restored text, hroom, hrespelled, ?_, ?_⟩
  · obtain ⟨n, hle, hn, hfresh⟩ := exists_freshName taken name
    refine ⟨n, hle, hn, hfresh, ?_⟩
    rw [hfresh]
    exact countedSearch_eq_ok_iff hn (by decide)
  · intro use huse hrestored
    rw [hrespelled.uses_eq] at huse
    obtain ⟨old, hold, rfl⟩ := List.mem_map.1 huse
    exact hroom.movedUse_restored hold hrestored
  · intro use huse other hother hne
    exact hroom.movedUse_ne huse hother hne

/-- A text whose names look like candidates of each other, and the names that are to be restored. -/
def numberedVariants : Text × List Text :=
  ("vec4 color = color_1 + x.xxxx; x . x = l.color;".toList,
    ["color".toList, "color_1".toList, "x".toList, "color_2".toList, "color".toList])

/-- The first name cannot be numbered 1 or 2, the second one is numbered like any other, and the
swizzle is kept although there is a variable of that name. -/
theorem renameClashes_makesRoom_variants :
    renameClashes numberedVariants.2 numberedVariants.1
        = "vec4 color_3 = color_1_1 + x_1.xxxx; x_1 . x = l.color_3;".toList ∧
      ("x".toList, true) ∈ identifierUses (renameClashes numberedVariants.2 numberedVariants.1) ∧
      "x".toList ∈ numberedVariants.2 ∧ isSwizzle "x".toList = true ∧
      ∃ rename, MakesRoom numberedVariants.1 numberedVariants.2 rename ∧
        rename "color".toList = "color_3".toList ∧
        (movedUse rename ("color".toList, true)).1
          ≠ (movedUse rename ("color_1".toList, false)).1 := by
  have htext : renameClashes numberedVariants.2 numberedVariants.1
      = "vec4 color_3 = color_1_1 + x_1.xxxx; x_1 . x = l.color_3;".toList := by decide +kernel
  have hswizzle : ("x".toList, true) ∈
      identifierUses (renameClashes numberedVariants.2 numberedVariants.1) := by
    rw [htext]
    decide +kernel
  have huses : identifierUses numberedVariants.1
      = [("vec4".toList, false), ("color".toList, false), ("color_1".toList, false),
        ("x".toList, false), ("xxxx".toList, true), ("x".toList, false), ("x".toList, true),
        ("l".toList, false), ("color".toList, true)] := by decide +kernel
  obtain ⟨_, rename, hroom, hrespelled, hkept, hapart⟩ :=
    renameClashes_makesRoom numberedVariants.2 numberedVariants.1
  refine ⟨htext, hswizzle, by decide, (hkept _ hswizzle (by decide)).2, rename, hroom, ?_, ?_⟩
  · have hout : identifierUses (renameClashes numberedVariants.2 numberedVariants.1)
        = ("vec4".toList, false) :: ("color_3".toList, false) ::
          (identifierUses (renameClashes numberedVariants.2 numberedVariants.1)).drop 2 := by
      rw [htext]
      decide +kernel
    have hmoved := hrespelled.uses_eq
    rw [hout, huses] at hmoved
    have hsecond : ("color_3".toList, false) = (rename "color".toList, false) :=
      (List.cons.inj (List.cons.inj hmoved).2).1
    exact (congrArg Prod.fst hsecond).symm
  · exact hapart _ (by rw [huses]; simp) _ (by rw [huses]; simp) (by decide)

end GlBridge.Interface
