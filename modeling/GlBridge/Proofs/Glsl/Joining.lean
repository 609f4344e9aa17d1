import GlBridge.Proofs.Glsl.Renaming
import GlBridge.Proofs.Glsl.Respelling
import GlBridge.Proofs.Text.Affix

/-!
# Reading and renaming joined texts

Texts are put together from parts, and what is said of the parts should carry over to the whole.
That fails only where a number or an identifier runs from one part into the next.  `Parted` says
that none does.

* `Lexeme.scanFrom_append` — parted texts are read one after the other;
* `renameIdentifiers_append` — and renamed one by one.
-/

namespace GlBridge.Glsl

open Text

/-- No number and no identifier runs from one text into another. -/
def Parted (first rest : Text) : Prop :=
  ∀ c d, first.getLast? = some c → rest.head? = some d → isNumberChar c = true →
    isNumberChar d = false

section Joining

variable {c : Char} {first rest before text : Text} {keep : Char → Bool}

lemma parted_nil (rest : Text) : Parted [] rest := fun _ _ h => absurd h (by simp)

lemma parted_append_singleton {c : Char} (hc : isNumberChar c = false) (first rest : Text) :
    Parted (first ++ [c]) rest := by
  intro a d ha _ hnumber
  rw [List.getLast?_append_cons, List.getLast?_singleton, Option.some_inj] at ha
  rw [← ha, hc] at hnumber
  exact absurd hnumber (by simp)

lemma Parted.tail (h : Parted (c :: first) rest) : Parted first rest := by
  intro a d ha hd
  refine h a d ?_ hd
  cases first with
  | nil => exact absurd ha (by simp)
  | cons b first => rwa [List.getLast?_cons_cons]

lemma Parted.dropWhile (h : Parted first rest) (keep : Char → Bool) :
    Parted (first.dropWhile keep) rest := by
  induction first with
  | nil => exact h
  | cons b first ih =>
      rw [List.dropWhile_cons]
      split_ifs
      · exact ih h.tail
      · exact h

/-- A run that goes up to the end of the first text ends there. -/
lemma takeWhile_append_of_parted (hend : ∀ d, rest.head? = some d → first.all keep = true →
    keep d = false) : (first ++ rest).takeWhile keep = first.takeWhile keep ∧
      (first ++ rest).dropWhile keep = first.dropWhile keep ++ rest := by
  induction first with
  | nil =>
      have hall : ([] : Text).all keep = true := rfl
      exact ⟨takeWhile_append_of_all hall fun d hd => hend d hd rfl,
        dropWhile_append_of_all hall fun d hd => hend d hd rfl⟩
  | cons b first ih =>
      cases hb : keep b with
      | false => simp [hb]
      | true =>
          have hrest := ih fun d hd hall =>
            hend d hd (by rw [List.all_cons, hb, hall, Bool.and_self])
          simp [hb, hrest.1, hrest.2]

/-- A run of a name or number ends where the first text does. -/
lemma Parted.run (h : Parted (c :: first) rest) (hc : isNumberChar c = true)
    (hkeep : ∀ d, keep d = true → isNumberChar d = true) :
    (first ++ rest).takeWhile keep = first.takeWhile keep ∧
      (first ++ rest).dropWhile keep = first.dropWhile keep ++ rest := by
  refine takeWhile_append_of_parted fun d hd hall => ?_
  have hlast : isNumberChar ((c :: first).getLast (List.cons_ne_nil _ _)) = true := by
    rcases List.mem_cons.1 (List.getLast_mem (List.cons_ne_nil c first)) with heq | hmem
    · rwa [heq]
    · exact hkeep _ (List.all_eq_true.1 hall _ hmem)
  have hd := h _ d (List.getLast?_eq_some_getLast _) hd hlast
  cases hd' : keep d with
  | false => rfl
  | true => rw [hkeep d hd'] at hd; exact absurd hd (by simp)

/-- No blank is in an identifier or number. -/
lemma isNumberChar_of_isBlank {c : Char} (h : isBlank c = true) : isNumberChar c = false := by
  cases hc : isNumberChar c with
  | false => rfl
  | true => rw [isBlank_of_isNumberChar hc] at h; exact absurd h (by simp)

/-- **Parted texts are read one after the other.** -/
theorem Lexeme.scanFrom_append (h : Parted first rest) :
    scanFrom (endsIn '.' before) (first ++ rest)
      = scanFrom (endsIn '.' before) first ++ scanFrom (endsIn '.' (before ++ first)) rest := by
  generalize hdot : endsIn '.' before = afterDot
  fun_induction scanFrom afterDot first generalizing before with
  | case1 => rw [List.append_nil, hdot]; rfl
  | case2 afterDot c first hc ih =>
      have hnumber : isNumberChar c = true :=
        isNumberChar_iff.2 (.inl (by rw [isWordChar, hc, Bool.true_or]))
      have hword : ∀ d, isWordChar d = true → isNumberChar d = true := fun d hd =>
        isNumberChar_iff.2 (.inl hd)
      obtain ⟨htake, hdrop⟩ := h.run hnumber hword
      have hnext : endsIn '.' (before ++ c :: first.takeWhile isWordChar) = false := endsIn_name hc
      have hrest := ih (h.tail.dropWhile isWordChar) hnext
      rw [List.append_assoc, List.cons_append, List.takeWhile_append_dropWhile] at hrest
      rw [List.cons_append, scanFrom, if_pos hc, htake, hdrop, hrest, List.cons_append]
  | case3 afterDot c first hc hdigit digits =>
      rename_i ih
      have hnumber : isNumberChar c = true :=
        isNumberChar_iff.2 (.inl (by rw [isWordChar, hdigit, Bool.or_true]))
      obtain ⟨htake, hdrop⟩ := h.run hnumber fun _ hd => hd
      have hnext : endsIn '.' (before ++ c :: first.takeWhile isNumberChar)
          = (digits.getLast? == some '.') := endsIn_number hdigit
      have hrest := ih (h.tail.dropWhile isNumberChar) hnext
      rw [List.append_assoc, List.cons_append, List.takeWhile_append_dropWhile] at hrest
      rw [List.cons_append, scanFrom, if_neg hc, if_pos hdigit, htake, hdrop, List.cons_append]
      exact congrArg _ hrest
  | case4 afterDot c first hc hdigit ih =>
      have hnext : endsIn '.' (before ++ [c]) = dotAfter afterDot c :=
        (endsIn_character c).trans (by rw [hdot])
      have hrest := ih h.tail hnext
      rw [List.append_assoc, List.singleton_append] at hrest
      rw [List.cons_append, scanFrom, if_neg hc, if_neg hdigit, hrest, List.cons_append]

/-- The first of two parted texts is read as if it stood alone. -/
lemma Lexeme.scan_append (h : Parted first rest) :
    scan (first ++ rest) = scan first ++ scanFrom (endsIn '.' first) rest := by
  show scanFrom (endsIn '.' []) (first ++ rest) = _
  rw [scanFrom_append h]
  rfl

/-- A character that is in no identifier and in no number is read by itself. -/
lemma Lexeme.scanFrom_plain (afterDot : Bool) {c : Char} (hc : isNumberChar c = false)
    (rest : Text) :
    scanFrom afterDot (c :: rest) = other c :: scanFrom (dotAfter afterDot c) rest := by
  have hword := isWordChar_of_isNumberChar_eq_false hc
  have hdigit : isDigit c = false := by
    rw [isWordChar, Bool.or_eq_false_iff] at hword
    exact hword.2
  exact scanFrom_other afterDot (isWordStart_of_isWordChar_eq_false hword) hdigit

/-- A semicolon is read in the same way after a dot. -/
lemma Lexeme.scanFrom_semicolon (afterDot : Bool) (rest : Text) :
    scanFrom afterDot (';' :: rest) = scanFrom false (';' :: rest) := by
  rw [scanFrom_plain afterDot (by decide), scanFrom_plain false (by decide)]
  rfl

/-- Characters that are in no identifier and in no number are read one by one. -/
lemma Lexeme.exists_scanFrom_plain {text : Text} (h : ∀ c ∈ text, isNumberChar c = false)
    (afterDot : Bool) (rest : Text) :
    ∃ later, scanFrom afterDot (text ++ rest) = text.map other ++ scanFrom later rest := by
  induction text generalizing afterDot with
  | nil => exact ⟨afterDot, rfl⟩
  | cons c text ih =>
      rw [List.forall_mem_cons] at h
      obtain ⟨later, hlater⟩ := ih h.2 (dotAfter afterDot c)
      refine ⟨later, ?_⟩
      rw [List.cons_append, scanFrom_plain afterDot h.1, hlater, List.map_cons, List.cons_append]

lemma Lexeme.flatMap_map_other (text : Text) : (text.map other).flatMap Lexeme.text = text := by
  induction text with
  | nil => rfl
  | cons c text ih => rw [List.map_cons, List.flatMap_cons, ih]; rfl

lemma identifiers_append_of_parted (h : Parted first rest) :
    identifiers (first ++ rest) = identifiers first ++ identifiers rest := by
  have hrest : Lexeme.names (endsIn '.' first) rest = Lexeme.names false rest :=
    Lexeme.names_eq _ _ rest
  rw [Lexeme.names] at hrest
  rw [identifiers_eq_names, Lexeme.names, ← Lexeme.scan, Lexeme.scan_append h,
    List.filterMap_append, hrest, identifiers_eq_names, identifiers_eq_names]
  rfl

/-- Characters that are in no identifier and in no number are no identifiers. -/
lemma identifiers_plain (h : ∀ c ∈ text, isNumberChar c = false) : identifiers text = [] := by
  obtain ⟨later, hscan⟩ := Lexeme.exists_scanFrom_plain h false []
  rw [List.append_nil, Lexeme.scanFrom, List.append_nil] at hscan
  rw [identifiers_eq_names, Lexeme.names, hscan, List.filterMap_map, List.filterMap_eq_nil_iff]
  exact fun _ _ => rfl

lemma identifiers_of_isIdentifier (h : isIdentifier text = true) : identifiers text = [text] := by
  have hscan : Lexeme.scanFrom false (text ++ [])
      = .word text false :: Lexeme.scanFrom false [] :=
    Lexeme.scanFrom_identifier_append false h (by simp)
  rw [List.append_nil, Lexeme.scanFrom] at hscan
  rw [identifiers_eq_names, Lexeme.names, hscan]
  rfl

/-- Blanks at the ends are no identifiers. -/
lemma identifiers_trim (text : Text) : identifiers (trim text) = identifiers text := by
  obtain ⟨lead, hlead, hleadBlank⟩ := exists_trimStart text
  obtain ⟨tail, htail⟩ := exists_trimEndWhile isBlank (trimStart text)
  have htrim : trimStart text = trim text ++ tail := htail.1
  have hfirst : Parted lead (trimStart text) := by
    intro c d hc _ hnumber
    rw [isNumberChar_of_isBlank (hleadBlank c (List.mem_of_getLast? hc))] at hnumber
    exact absurd hnumber (by simp)
  have hlast : Parted (trim text) tail := fun _ d _ hd _ =>
    isNumberChar_of_isBlank (htail.2 d (List.mem_of_mem_head? hd))
  rw [hlead, identifiers_append_of_parted hfirst, ← hlead, htrim,
    identifiers_append_of_parted hlast,
    identifiers_plain fun c hc => isNumberChar_of_isBlank (hleadBlank c hc),
    identifiers_plain fun c hc => isNumberChar_of_isBlank (htail.2 c hc), List.nil_append,
    List.append_nil]

end Joining

/-! ## Renaming -/

section Renaming

variable {rename : Text → Option Text} {first rest : Text}

/-- A lexeme with its name renamed. -/
def Lexeme.renamed (rename : Text → Option Text) : Lexeme → Lexeme
  | word name afterDot => word ((rename name).getD name) afterDot
  | lexeme => lexeme

lemma renameIdentifiers_eq (rename : Text → Option Text) (text : Text) :
    renameIdentifiers rename text
      = ((Lexeme.scan text).map (Lexeme.renamed rename)).flatMap Lexeme.text := by
  rw [renameIdentifiers, renameUses, List.flatMap_map]
  congr 1
  funext lexeme
  cases lexeme <;> rfl

/-- **A renamed text is read as the renamed lexemes**, if the new names are identifiers. -/
theorem scan_renameIdentifiers (hnew : ∀ old new, rename old = some new → isIdentifier new = true)
    (text : Text) : Lexeme.scan (renameIdentifiers rename text)
      = (Lexeme.scan text).map (Lexeme.renamed rename) := by
  have hvalid : (Renamer.forgetful fun name _ => rename name).Valid := fun _ name _ new =>
    hnew name new
  have hrespell : ∀ lexemes, (Lexeme.respell (Renamer.forgetful fun name _ => rename name) ()
      lexemes).1 = lexemes.map (Lexeme.renamed rename) := by
    intro lexemes
    induction lexemes with
    | nil => rfl
    | cons lexeme lexemes ih => cases lexeme <;> exact congrArg _ ih
  rw [renameIdentifiers, renameUses_eq, scan_renameEach hvalid, hrespell]

/-- Whether a dot stands before a text does not change what it is renamed to. -/
lemma flatMap_renamed_eq (afterDot other : Bool) (text : Text) :
    ((Lexeme.scanFrom afterDot text).map (Lexeme.renamed rename)).flatMap Lexeme.text
      = ((Lexeme.scanFrom other text).map (Lexeme.renamed rename)).flatMap Lexeme.text := by
  fun_induction Lexeme.scanFrom afterDot text generalizing other with
  | case1 => rw [Lexeme.scanFrom]
  | case2 afterDot c rest hc => rw [Lexeme.scanFrom, if_pos hc]; rfl
  | case3 afterDot c rest hc hdigit => rw [Lexeme.scanFrom, if_neg hc, if_pos hdigit]
  | case4 afterDot c rest hc hdigit ih =>
      rw [Lexeme.scanFrom, if_neg hc, if_neg hdigit]
      exact congrArg (c :: ·) (ih _)

/-- **Parted texts are renamed one by one.** -/
theorem renameIdentifiers_append (h : Parted first rest) :
    renameIdentifiers rename (first ++ rest)
      = renameIdentifiers rename first ++ renameIdentifiers rename rest := by
  rw [renameIdentifiers_eq, Lexeme.scan_append h, List.map_append, List.flatMap_append, ← renameIdentifiers_eq,
    flatMap_renamed_eq _ false, ← Lexeme.scan, ← renameIdentifiers_eq]

@[simp] lemma renameIdentifiers_nil (rename : Text → Option Text) :
    renameIdentifiers rename [] = [] := by
  rw [renameIdentifiers_eq, Lexeme.scan, Lexeme.scanFrom]
  rfl

/-- A text stays if none of its identifiers is renamed. -/
lemma renameIdentifiers_eq_self {text : Text} (h : ∀ name ∈ identifiers text, rename name = none) :
    renameIdentifiers rename text = text := by
  have hkept : ∀ lexeme ∈ Lexeme.scan text, Lexeme.renamed rename lexeme = lexeme := by
    intro lexeme hlexeme
    cases lexeme with
    | word name afterDot =>
        have hname : name ∈ identifiers text := by
          rw [identifiers_eq_names]
          exact List.mem_filterMap.2 ⟨_, hlexeme, rfl⟩
        rw [Lexeme.renamed, h name hname, Option.getD_none]
    | number digits => rfl
    | other c => rfl
  rw [renameIdentifiers_eq, List.map_congr_left hkept, List.map_id', Lexeme.flatMap_text_scan]

/-- A character that is in no identifier and in no number stays. -/
lemma renameIdentifiers_cons {c : Char} (hc : isNumberChar c = false) (rest : Text) :
    renameIdentifiers rename (c :: rest) = c :: renameIdentifiers rename rest := by
  rw [renameIdentifiers_eq, Lexeme.scan, Lexeme.scanFrom_plain false hc, List.map_cons,
    List.flatMap_cons, flatMap_renamed_eq _ false, ← Lexeme.scan, ← renameIdentifiers_eq]
  rfl

end Renaming

end GlBridge.Glsl
