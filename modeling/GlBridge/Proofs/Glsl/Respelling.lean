import GlBridge.Proofs.Glsl.Identifier

/-!
# Respelled texts

A textual pass asks a callback about one identifier after the other and puts its answers into the
text.  The callback may remember what it was asked, as one that counts does.  All that the passes
need of each other follows from one law about such a text.

**The pass.**  `renameEach` is the pass for any callback.  The passes of the library are cases of it:
`renameUses` has a callback that remembers nothing, and counting has one that gives no new names.

**The law.**  If the new names are identifiers, a respelled text is read as the respelled lexemes
(`scan_renameEach`).  What follows a name starts with the same character as before, so the new name
ends where the old one did; and a name never ends in a dot, so what stands after one still does.

**Gaps.**  A text is the texts between its identifiers with the identifiers put in
(`weave_gapsOf`).  So two texts are the same if they have the same identifiers and the same gaps.
-/

namespace GlBridge.Glsl

open Text

/-! ## The pass -/

/-- The callback of a pass.  It is told an identifier and whether it stands after a dot, and gives a
new name or none.  `σ` is what it remembers. -/
abbrev Renamer (σ : Type) := σ → Text → Bool → Option Text × σ

namespace Renamer

variable {σ : Type}

/-- The new names are identifiers. -/
def Valid (rename : Renamer σ) : Prop :=
  ∀ state name afterDot new, (rename state name afterDot).1 = some new → isIdentifier new = true

/-- A callback that remembers nothing. -/
def forgetful (rename : Text → Bool → Option Text) : Renamer Unit :=
  fun _ name afterDot => (rename name afterDot, ())

/-- A callback that counts how often it is asked about a name. -/
def counting (counted : Text) : Renamer ℕ :=
  fun count name _ => (none, if name = counted then count + 1 else count)

/-- The uses of identifiers with new names, asked for one after the other. -/
def uses (rename : Renamer σ) : σ → List (Text × Bool) → List (Text × Bool)
  | _, [] => []
  | state, (name, afterDot) :: rest =>
    ((rename state name afterDot).1.getD name, afterDot)
      :: uses rename (rename state name afterDot).2 rest

/-- A renaming without a memory renames each use by itself. -/
lemma uses_forgetful (rename : Text → Bool → Option Text) (list : List (Text × Bool)) :
    (forgetful rename).uses () list
      = list.map fun use => ((rename use.1 use.2).getD use.1, use.2) := by
  induction list with
  | nil => rfl
  | cons use list ih =>
      rw [uses, List.map_cons]
      exact congrArg _ ih

/-- A renaming that keeps every name keeps all uses. -/
lemma uses_of_none {rename : Renamer σ}
    (h : ∀ state name afterDot, (rename state name afterDot).1 = none) (state : σ)
    (list : List (Text × Bool)) : rename.uses state list = list := by
  induction list generalizing state with
  | nil => rfl
  | cons use list ih => rw [uses, ih, h, Option.getD_none]

end Renamer

namespace Lexeme

variable {σ : Type} {rename : Renamer σ} {state : σ}

/-- Lexemes with new names for the identifiers, asked for one after the other, and what the callback
remembers in the end. -/
def respell (rename : Renamer σ) : σ → List Lexeme → List Lexeme × σ
  | state, [] => ([], state)
  | state, word name afterDot :: rest =>
    let answer := rename state name afterDot
    let later := respell rename answer.2 rest
    (word (answer.1.getD name) afterDot :: later.1, later.2)
  | state, number digits :: rest =>
    let later := respell rename state rest
    (number digits :: later.1, later.2)
  | state, other c :: rest =>
    let later := respell rename state rest
    (other c :: later.1, later.2)

end Lexeme

section Pass

variable {σ : Type}

/-- The text with every identifier renamed for which the callback gives a new name, and what the
callback remembers in the end. -/
def renameEach (rename : Renamer σ) (state : σ) (text : Text) : Text × σ :=
  let respelled := Lexeme.respell rename state (Lexeme.scan text)
  (respelled.1.flatMap Lexeme.text, respelled.2)

/-- Renaming is a pass with a callback that remembers nothing. -/
theorem renameUses_eq (rename : Text → Bool → Option Text) (text : Text) :
    renameUses rename text = (renameEach (Renamer.forgetful rename) () text).1 := by
  rw [renameUses, renameEach]
  induction Lexeme.scan text with
  | nil => rfl
  | cons lexeme lexemes ih =>
      rw [List.flatMap_cons, ih]
      cases lexeme <;> rfl

/-- Counting is a pass with a callback that gives no new names. -/
theorem renameEach_counting (name text : Text) :
    renameEach (Renamer.counting name) 0 text = (text, countIdentifier name text) := by
  have hpass : ∀ (lexemes : List Lexeme) (count : ℕ),
      Lexeme.respell (Renamer.counting name) count lexemes
        = (lexemes, count + (lexemes.filterMap Lexeme.name?).count name) := by
    intro lexemes
    induction lexemes with
    | nil => exact fun _ => rfl
    | cons lexeme lexemes ih =>
        intro count
        cases lexeme with
        | word found afterDot =>
            have hname : (Lexeme.word found afterDot :: lexemes).filterMap Lexeme.name?
                = found :: lexemes.filterMap Lexeme.name? := rfl
            simp only [Lexeme.respell, Renamer.counting, ih, Option.getD_none, hname,
              List.count_cons, beq_iff_eq]
            split_ifs <;> simp [Nat.add_assoc, Nat.add_comm 1]
        | number digits => simp only [Lexeme.respell, ih]; rfl
        | other c => simp only [Lexeme.respell, ih]; rfl
  rw [renameEach, hpass, countIdentifier, identifiers_eq_names, Lexeme.names, Lexeme.scan,
    Lexeme.flatMap_text_scanFrom, Nat.zero_add]

end Pass

/-! ## The law -/

lemma isWordStart_of_isWordChar_eq_false {c : Char} (h : isWordChar c = false) :
    isWordStart c = false := by
  rw [isWordChar, Bool.or_eq_false_iff] at h
  exact h.1

lemma isWordChar_of_isNumberChar_eq_false {c : Char} (h : isNumberChar c = false) :
    isWordChar c = false := by
  rw [isNumberChar, Bool.or_eq_false_iff] at h
  exact h.1

lemma head_dropWhile {keep : Char → Bool} {rest : Text} {c : Char}
    (h : (rest.dropWhile keep).head? = some c) : keep c = false := by
  rw [← Bool.not_eq_true]
  exact fun hc => head?_dropWhile_ne hc h

namespace Lexeme

variable {σ : Type} {rename : Renamer σ}

/-- A respelled text starts as before, if it did not start with a name. -/
lemma head?_respell (state : σ) (afterDot : Bool) {text : Text}
    (h : ∀ c, text.head? = some c → isWordStart c = false) :
    ((respell rename state (scanFrom afterDot text)).1.flatMap Lexeme.text).head? = text.head? := by
  cases text with
  | nil => rw [scanFrom]; rfl
  | cons c rest =>
      have hc : ¬ isWordStart c = true := by simp [h c rfl]
      rw [scanFrom, if_neg hc]
      split <;> rfl

/-- What is left after a run starts no name, respelled or not. -/
lemma head?_respell_dropWhile (rename : Renamer σ) (keep : Char → Bool) (state : σ)
    (afterDot : Bool) (rest : Text) (hkeep : ∀ c, keep c = false → isWordStart c = false) (c : Char)
    (hc : ((respell rename state (scanFrom afterDot (rest.dropWhile keep))).1.flatMap
      Lexeme.text).head? = some c) : keep c = false := by
  rw [head?_respell state afterDot fun d hd => hkeep d (head_dropWhile hd)] at hc
  exact head_dropWhile hc

/-- An identifier ends where a character follows that does not go on with it. -/
lemma scanFrom_identifier_append (afterDot : Bool) {name rest : Text} (hname : isIdentifier name)
    (hrest : ∀ c, rest.head? = some c → isWordChar c = false) :
    scanFrom afterDot (name ++ rest) = word name afterDot :: scanFrom false rest := by
  cases name with
  | nil => exact absurd hname (by simp [isIdentifier])
  | cons c name =>
      rw [isIdentifier, Bool.and_eq_true] at hname
      obtain ⟨hstart, hall⟩ := hname
      rw [List.cons_append, scanFrom, if_pos hstart, takeWhile_append_of_all hall hrest,
        dropWhile_append_of_all hall hrest]

/-- A number ends where a character follows that does not go on with it. -/
lemma scanFrom_number_append (afterDot : Bool) {c : Char} {tail rest : Text}
    (hc : isWordStart c = false) (hdigit : isDigit c = true) (htail : tail.all isNumberChar = true)
    (hrest : ∀ d, rest.head? = some d → isNumberChar d = false) :
    scanFrom afterDot (c :: tail ++ rest)
      = number (c :: tail) :: scanFrom ((c :: tail).getLast? == some '.') rest := by
  rw [List.cons_append, scanFrom, if_neg (by simp [hc]), if_pos hdigit,
    takeWhile_append_of_all htail hrest, dropWhile_append_of_all htail hrest]

lemma scanFrom_other (afterDot : Bool) {c : Char} {rest : Text} (hc : isWordStart c = false)
    (hdigit : isDigit c = false) :
    scanFrom afterDot (c :: rest) = other c :: scanFrom (dotAfter afterDot c) rest := by
  rw [scanFrom, if_neg (by simp [hc]), if_neg (by simp [hdigit])]

/-- A respelled text is read as the respelled lexemes, wherever it stands. -/
lemma scanFrom_respell (hvalid : rename.Valid) (state : σ) (afterDot : Bool) (text : Text) :
    scanFrom afterDot ((respell rename state (scanFrom afterDot text)).1.flatMap Lexeme.text)
      = (respell rename state (scanFrom afterDot text)).1 := by
  fun_induction scanFrom afterDot text generalizing state with
  | case1 => rw [respell, List.flatMap_nil, scanFrom]
  | case2 afterDot c rest hc ih =>
      have hold : isIdentifier (c :: rest.takeWhile isWordChar) = true := by
        rw [isIdentifier, hc, Bool.true_and]
        exact List.all_takeWhile
      have hname : isIdentifier ((rename state (c :: rest.takeWhile isWordChar) afterDot).1.getD
          (c :: rest.takeWhile isWordChar)) = true := by
        cases h : (rename state (c :: rest.takeWhile isWordChar) afterDot).1 with
        | none => exact hold
        | some new => exact hvalid _ _ _ _ h
      have hstop := head?_respell_dropWhile rename isWordChar
        (rename state (c :: rest.takeWhile isWordChar) afterDot).2 false rest
        fun _ => isWordStart_of_isWordChar_eq_false
      rw [respell, List.flatMap_cons, text, scanFrom_identifier_append afterDot hname hstop, ih]
  | case3 afterDot c rest hc hdigit digits ih =>
      have hstop := head?_respell_dropWhile rename isNumberChar state
        (digits.getLast? == some '.') rest fun _ h =>
          isWordStart_of_isWordChar_eq_false (isWordChar_of_isNumberChar_eq_false h)
      rw [respell, List.flatMap_cons, text,
        scanFrom_number_append afterDot (by simpa using hc) hdigit List.all_takeWhile hstop]
      exact congrArg (number digits :: ·) (ih state)
  | case4 afterDot c rest hc hdigit ih =>
      rw [respell, List.flatMap_cons, text, List.singleton_append,
        scanFrom_other afterDot (by simpa using hc) (by simpa using hdigit), ih]

end Lexeme

section Law

variable {σ : Type} {rename : Renamer σ}

/-- **A respelled text is read as the respelled lexemes**, if the new names are identifiers. -/
theorem scan_renameEach (hvalid : rename.Valid) (state : σ) (text : Text) :
    Lexeme.scan (renameEach rename state text).1
      = (Lexeme.respell rename state (Lexeme.scan text)).1 :=
  Lexeme.scanFrom_respell hvalid state false text

end Law

/-! ## Gaps -/

namespace Lexeme

variable {σ : Type}

/-- The use of an identifier that a lexeme is. -/
def use? : Lexeme → Option (Text × Bool)
  | word name afterDot => some (name, afterDot)
  | _ => none

/-- The texts between the identifiers among lexemes, one more than there are identifiers. -/
def gaps : List Lexeme → List Text
  | [] => [[]]
  | word _ _ :: rest => [] :: gaps rest
  | lexeme :: rest => (gaps rest).modifyHead (lexeme.text ++ ·)

/-- The uses of a respelled text are the renamed uses. -/
lemma filterMap_use?_respell (rename : Renamer σ) (state : σ) (lexemes : List Lexeme) :
    (respell rename state lexemes).1.filterMap use? = rename.uses state (lexemes.filterMap use?) := by
  induction lexemes generalizing state with
  | nil => rfl
  | cons lexeme lexemes ih =>
      cases lexeme with
      | word name afterDot => exact congrArg _ (ih _)
      | number digits => exact ih state
      | other c => exact ih state

/-- Renaming leaves the texts between the identifiers. -/
lemma gaps_respell (rename : Renamer σ) (state : σ) (lexemes : List Lexeme) :
    gaps (respell rename state lexemes).1 = gaps lexemes := by
  induction lexemes generalizing state with
  | nil => rfl
  | cons lexeme lexemes ih =>
      cases lexeme with
      | word name afterDot => exact congrArg ([] :: ·) (ih _)
      | number digits => exact congrArg (List.modifyHead (digits ++ ·)) (ih state)
      | other c => exact congrArg (List.modifyHead ([c] ++ ·)) (ih state)

end Lexeme

/-- The texts between the identifiers of a text. -/
def gapsOf (text : Text) : List Text := Lexeme.gaps (Lexeme.scan text)

/-- Texts put together again, with names between them. -/
def weave : List Text → List Text → Text
  | gap :: gaps, name :: names => gap ++ name ++ weave gaps names
  | gaps, _ => gaps.flatten

lemma weave_modifyHead (lead : Text) {gaps : List Text} (hgaps : gaps ≠ []) (names : List Text) :
    weave (gaps.modifyHead (lead ++ ·)) names = lead ++ weave gaps names := by
  obtain ⟨gap, gaps, rfl⟩ := List.exists_cons_of_ne_nil hgaps
  cases names <;> simp [weave]

lemma gaps_ne_nil (lexemes : List Lexeme) : Lexeme.gaps lexemes ≠ [] := by
  induction lexemes with
  | nil => exact List.cons_ne_nil _ _
  | cons lexeme lexemes ih => cases lexeme <;> simp [Lexeme.gaps, ih]

/-- **A text is its gaps with its identifiers between them.** -/
theorem weave_gapsOf (text : Text) : weave (gapsOf text) (identifiers text) = text := by
  have hweave : ∀ lexemes : List Lexeme, weave (Lexeme.gaps lexemes)
      (lexemes.filterMap Lexeme.name?) = lexemes.flatMap Lexeme.text := by
    intro lexemes
    induction lexemes with
    | nil => rfl
    | cons lexeme lexemes ih =>
        rw [List.flatMap_cons, ← ih]
        cases lexeme with
        | word name afterDot => rfl
        | number digits => exact weave_modifyHead digits (gaps_ne_nil lexemes) _
        | other c => exact weave_modifyHead [c] (gaps_ne_nil lexemes) _
  rw [gapsOf, identifiers_eq_names, Lexeme.names, ← Lexeme.scan, hweave, Lexeme.flatMap_text_scan]

/-- Texts with the same identifiers and gaps are the same. -/
lemma eq_of_gapsOf {text other : Text} (huses : identifierUses text = identifierUses other)
    (hgaps : gapsOf text = gapsOf other) : text = other := by
  rw [← weave_gapsOf text, ← weave_gapsOf other, hgaps, identifiers, identifiers, huses]

/-- Identifiers are read off the lexemes. -/
lemma identifierUses_eq (text : Text) :
    identifierUses text = (Lexeme.scan text).filterMap Lexeme.use? := by
  rw [identifierUses]
  congr 1

/-! ## What follows from the law -/

section Consequences

variable {σ : Type} {rename : Renamer σ} {old new text : Text}

/-- The identifiers of a respelled text are the new ones, and its gaps are the old ones. -/
lemma identifierUses_renameEach (hvalid : rename.Valid) (state : σ) (text : Text) :
    identifierUses (renameEach rename state text).1 = rename.uses state (identifierUses text) ∧
      gapsOf (renameEach rename state text).1 = gapsOf text := by
  rw [identifierUses_eq, identifierUses_eq, gapsOf, gapsOf, scan_renameEach hvalid]
  exact ⟨Lexeme.filterMap_use?_respell rename state _, Lexeme.gaps_respell rename state _⟩

lemma identifierUses_renameUses {rename : Text → Bool → Option Text}
    (hnew : ∀ name afterDot new, rename name afterDot = some new → isIdentifier new = true)
    (text : Text) :
    identifierUses (renameUses rename text)
        = (identifierUses text).map (fun use => ((rename use.1 use.2).getD use.1, use.2)) ∧
      gapsOf (renameUses rename text) = gapsOf text := by
  have hvalid : (Renamer.forgetful rename).Valid := fun _ name afterDot new =>
    hnew name afterDot new
  rw [renameUses_eq, ← Renamer.uses_forgetful]
  exact identifierUses_renameEach hvalid () text

/-- **A renamed text has the new names in place of the old ones**, if the new ones are
identifiers. -/
theorem identifiers_renameIdentifiers {rename : Text → Option Text} (text : Text)
    (hnew : ∀ old new, rename old = some new → isIdentifier new = true) :
    identifiers (renameIdentifiers rename text)
      = (identifiers text).map fun name => (rename name).getD name := by
  rw [identifiers, renameIdentifiers, (identifierUses_renameUses (fun name _ => hnew name) text).1,
    identifiers, List.map_map, List.map_map]
  rfl

/-- A callback that never renames gives the text back. -/
lemma renameEach_of_none (hnone : ∀ state name afterDot, (rename state name afterDot).1 = none)
    (state : σ) (text : Text) : (renameEach rename state text).1 = text := by
  have hvalid : rename.Valid := fun state name afterDot new h => by
    rw [hnone] at h
    exact absurd h (by simp)
  obtain ⟨huses, hgaps⟩ := identifierUses_renameEach hvalid state text
  exact eq_of_gapsOf (huses.trans (Renamer.uses_of_none hnone state _)) hgaps

/-- One name in the place of another. -/
def replaced (old new name : Text) : Text := if name = old then new else name

/-- Replacing an identifier renames its uses, and keeps what is between them. -/
lemma identifierUses_replaceIdentifier (old : Text) (hnew : isIdentifier new = true) (text : Text) :
    identifierUses (replaceIdentifier old new text)
        = (identifierUses text).map (fun use => (replaced old new use.1, use.2)) ∧
      gapsOf (replaceIdentifier old new text) = gapsOf text := by
  have hvalid : ∀ (name : Text) (afterDot : Bool) (given : Text),
      (if name = old then some new else none) = some given → isIdentifier given = true := by
    intro name _ given h
    split_ifs at h
    rwa [← Option.some.inj h]
  obtain ⟨huses, hgaps⟩ := identifierUses_renameUses hvalid text
  refine ⟨huses.trans (List.map_congr_left fun use _ => ?_), hgaps⟩
  rw [replaced]
  split_ifs <;> rfl

lemma identifiers_replaceIdentifier (old : Text) (hnew : isIdentifier new = true) (text : Text) :
    identifiers (replaceIdentifier old new text) = (identifiers text).map (replaced old new) := by
  rw [identifiers, (identifierUses_replaceIdentifier old hnew text).1, identifiers, List.map_map,
    List.map_map]
  rfl

/-- Replacing an identifier removes it and makes that many more of the other one. -/
lemma countIdentifier_replaceIdentifier (hnew : isIdentifier new = true) (hne : old ≠ new)
    (text : Text) : countIdentifier old (replaceIdentifier old new text) = 0 ∧
      countIdentifier new (replaceIdentifier old new text)
        = countIdentifier new text + countIdentifier old text := by
  rw [countIdentifier, countIdentifier, countIdentifier, countIdentifier,
    identifiers_replaceIdentifier old hnew]
  induction identifiers text with
  | nil => exact ⟨rfl, rfl⟩
  | cons name names ih =>
      simp only [List.map_cons, List.count_cons, ih.1, ih.2, replaced, beq_iff_eq]
      split_ifs <;> grind

/-- Replacing an identifier by a fresh one can be undone. -/
lemma replaceIdentifier_replaceIdentifier (hold : isIdentifier old = true)
    (hnew : isIdentifier new = true) (hfresh : containsIdentifier new text = false) :
    replaceIdentifier new old (replaceIdentifier old new text) = text := by
  obtain ⟨huses, hgaps⟩ := identifierUses_replaceIdentifier old hnew text
  obtain ⟨hback, hgaps'⟩ :=
    identifierUses_replaceIdentifier new hold (replaceIdentifier old new text)
  refine eq_of_gapsOf ?_ (hgaps'.trans hgaps)
  rw [hback, huses, List.map_map]
  refine (List.map_congr_left fun use huse => ?_).trans (List.map_id _)
  have hne : use.1 ≠ new := by
    rintro rfl
    have hmem : (identifiers text).contains use.1 = true :=
      List.contains_iff_mem.2 (List.mem_map_of_mem huse)
    exact Bool.false_ne_true (hfresh.symm.trans hmem)
  obtain ⟨name, afterDot⟩ := use
  simp only [Function.comp_apply, replaced, id_eq]
  split_ifs <;> simp_all

end Consequences

/-! ## The result -/

/-- What becomes of a text: the identifiers are `uses`, and between them stands what stood there
before. -/
structure Respelled (text : Text) (uses : List (Text × Bool)) (out : Text) : Prop where
  uses_eq : identifierUses out = uses
  gaps_eq : gapsOf out = gapsOf text

/-- **Renaming is a homomorphism on identifiers.**  A pass whose new names are identifiers puts each
in the place of the old one and changes nothing else, so that an identifier stands after a dot if it
did before.  Hence a callback that never renames gives the text back, replacing an identifier makes
it another one wherever it stands, and replacing it by a fresh one can be undone. -/
theorem renaming_homomorphic (text : Text) :
    (∀ rename, renameUses rename text = (renameEach (.forgetful rename) () text).1) ∧
    (∀ {σ : Type} (rename : Renamer σ) (state : σ), rename.Valid →
      Respelled text (rename.uses state (identifierUses text)) (renameEach rename state text).1) ∧
    (∀ {σ : Type} (rename : Renamer σ) (state : σ),
      (∀ state name afterDot, (rename state name afterDot).1 = none) →
        (renameEach rename state text).1 = text) ∧
    (∀ old new, isIdentifier new = true → old ≠ new →
      countIdentifier old (replaceIdentifier old new text) = 0 ∧
        countIdentifier new (replaceIdentifier old new text)
          = countIdentifier new text + countIdentifier old text) ∧
    (∀ old new, isIdentifier old = true → isIdentifier new = true →
      containsIdentifier new text = false →
        replaceIdentifier new old (replaceIdentifier old new text) = text) := by
  refine ⟨fun rename => renameUses_eq rename text, fun rename state hvalid => ?_,
    fun rename state hnone => renameEach_of_none hnone state text,
    fun old new hnew hne => countIdentifier_replaceIdentifier hnew hne text,
    fun old new hold hnew hfresh => replaceIdentifier_replaceIdentifier hold hnew hfresh⟩
  obtain ⟨huses, hgaps⟩ := identifierUses_renameEach hvalid state text
  exact ⟨huses, hgaps⟩

/-- Members after dots and blanks, numbers that go on with letters and dots, and characters that are
no ASCII characters. -/
def thicket : Text := "a.b+1.a .\u2003a\u00e9a 2. a a1/*a*/".toList

/-- A callback that has two names for `a` and changes between them each time it is asked. -/
def alternating : Renamer Bool := fun first name _ =>
  (if name = "a".toList then some (if first then "x".toList else "long_1".toList) else none, !first)

/-- The pass gives two names in turn, replacing an identifier leaves none of it, and both names are
put back. -/
theorem renaming_homomorphic_thicket :
    alternating.Valid ∧
      Respelled thicket (alternating.uses true (identifierUses thicket))
        (renameEach alternating true thicket).1 ∧
      (renameEach alternating true thicket).1
        = "x.b+1.a .\u2003x\u00e9long_1 2. x a1/*x*/".toList ∧
      (renameEach (Renamer.counting "a".toList) 0 thicket).1 = thicket ∧
      isIdentifier "b".toList = true ∧
      countIdentifier "a".toList (replaceIdentifier "a".toList "b".toList thicket) = 0 ∧
      countIdentifier "b".toList (replaceIdentifier "a".toList "b".toList thicket) = 1 + 5 ∧
      containsIdentifier "c".toList thicket = false ∧
      replaceIdentifier "c".toList "a".toList (replaceIdentifier "a".toList "c".toList thicket)
        = thicket := by
  obtain ⟨_, hrespelled, hnone, hcount, hundo⟩ := renaming_homomorphic thicket
  have hvalid : alternating.Valid := by
    intro first name afterDot new h
    simp only [alternating] at h
    split_ifs at h <;> obtain rfl := Option.some.inj h <;> decide
  have hfresh : containsIdentifier "c".toList thicket = false := by decide +kernel
  have hcounted : countIdentifier "b".toList thicket = 1 ∧
      countIdentifier "a".toList thicket = 5 := by
    decide +kernel
  obtain ⟨hgone, hmore⟩ := hcount "a".toList "b".toList (by decide) (by decide)
  rw [hcounted.1, hcounted.2] at hmore
  exact ⟨hvalid, hrespelled alternating true hvalid, by decide +kernel,
    hnone (Renamer.counting "a".toList) 0 (fun _ _ _ => rfl), by decide, hgone, hmore, hfresh,
    hundo "a".toList "c".toList (by decide) (by decide) hfresh⟩

end GlBridge.Glsl
