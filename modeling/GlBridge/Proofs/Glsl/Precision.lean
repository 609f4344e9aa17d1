import GlBridge.Glsl.Legacy
import GlBridge.Proofs.Glsl.Sparing

/-!
# Lines that set a precision

Whether a source sets a default precision for floats is asked of its lines, one by one.  What makes
a line such a one is said once (`setsFloatPrecision_iff`), and again in lexemes
(`setsFloatPrecision_iff_scan`): so a renaming that spares the words `precision` and `float` makes
no such line and destroys none (`hasDefaultFloatPrecision_renameIdentifiers`).

A version directive is no such line.  Hence a source sets a precision exactly if the part before its
directive or the part behind it does (`hasDefaultFloatPrecision_parts`).
-/

namespace GlBridge.Glsl

open Text VersionDirective VersionParts

/-! ## One line -/

/-- What may stand behind the type that a precision is set for: blanks, semicolons, blanks. -/
def Closing (tail : Text) : Prop :=
  ∃ gap ends last, tail = gap ++ (ends ++ last) ∧ (∀ c ∈ gap, isBlank c = true) ∧
    (∀ c ∈ ends, c = ';') ∧ ∀ c ∈ last, isBlank c = true

section Line

variable {line tail statement rest : Text}

lemma Closing.plain (h : Closing tail) : ∀ c ∈ tail, isNumberChar c = false := by
  obtain ⟨gap, ends, last, rfl, hgap, hends, hlast⟩ := h
  intro c hc
  rcases List.mem_append.1 hc with hc | hc
  · exact isNumberChar_of_isBlank (hgap c hc)
  rcases List.mem_append.1 hc with hc | hc
  · rw [hends c hc]
    decide
  · exact isNumberChar_of_isBlank (hlast c hc)

/-- What closes a statement is cut off in two steps, and nothing of the statement is. -/
lemma trimEnd_closing (hend : statement.getLast? = some 't') (h : Closing tail) :
    ∃ rest, trimEnd (statement ++ tail) = statement ++ rest ∧
      trimEnd (trimEndWhile (· == ';') (statement ++ rest)) = statement := by
  obtain ⟨gap, ends, last, rfl, hgap, hends, hlast⟩ := h
  have hkeep : ∀ drop : Char → Bool, drop 't' = false →
      ∀ c, statement.getLast? = some c → drop c = false := by
    intro drop ht c hc
    rwa [← Option.some.inj (hend.symm.trans hc)]
  rcases List.eq_nil_or_concat ends with rfl | ⟨front, c, rfl⟩
  · have hblank : ∀ c ∈ gap ++ ([] ++ last), isBlank c = true :=
      List.forall_mem_append.2 ⟨hgap, hlast⟩
    refine ⟨[], ?_, ?_⟩
    · rw [List.append_nil]
      exact trimEndWhile_append hblank (hkeep _ (by decide))
    · rw [List.append_nil, trimEndWhile_eq_self (hkeep _ (by decide))]
      exact trimEndWhile_eq_self (hkeep _ (by decide))
  · rw [List.concat_eq_append] at hends ⊢
    obtain rfl : c = ';' := hends c (by simp)
    refine ⟨gap ++ (front ++ [';']), ?_, ?_⟩
    · have hlastChar : ∀ d, (statement ++ (gap ++ (front ++ [';']))).getLast? = some d →
          isBlank d = false := by
        intro d hd
        rw [← List.append_assoc, ← List.append_assoc, List.getLast?_concat] at hd
        rw [← Option.some.inj hd]
        decide
      rw [← List.append_assoc gap, ← List.append_assoc statement]
      exact trimEndWhile_append hlast hlastChar
    · have hgapEnd : ∀ d, (statement ++ gap).getLast? = some d → (d == ';') = false := by
        intro d hd
        rcases eq_or_ne gap [] with rfl | hne
        · rw [List.append_nil] at hd
          exact hkeep (· == ';') (by decide) d hd
        · rw [List.getLast?_append_of_ne_nil _ hne] at hd
          have hd := hgap d (List.mem_of_getLast? hd)
          rw [beq_eq_false_iff_ne]
          rintro rfl
          exact absurd hd (by decide)
      rw [← List.append_assoc, trimEndWhile_append (fun d hd => by simp [hends d hd]) hgapEnd]
      exact trimEndWhile_append hgap (hkeep _ (by decide))

/-- The words at both ends of a statement do not overlap, though the blanks next to them may be
one. -/
lemma exists_gap (hfirst : "precision ".toList <+: statement ++ rest)
    (hlast : " float".toList <:+ statement) :
    ∃ gap, statement = "precision".toList ++ (gap ++ "float".toList) ∧ gap.head? = some ' ' ∧
      gap.getLast? = some ' ' := by
  obtain ⟨front, rfl⟩ := hlast
  obtain ⟨behind, hbehind⟩ := hfirst
  have hsplit : "precision".toList ++ ' ' :: behind = front ++ (" float".toList ++ rest) := by
    rw [← List.append_assoc, ← hbehind]
    rfl
  rcases List.append_eq_append_iff.1 hsplit with ⟨gap, rfl, hgap⟩ | ⟨common, hcommon, hrest⟩
  · refine ⟨gap ++ [' '], by simp, ?_, List.getLast?_concat⟩
    cases gap with
    | nil => rfl
    | cons c gap => rw [List.cons_append, List.head?_cons, (List.cons.inj hgap).1]
  · cases common with
    | nil =>
        rw [List.append_nil] at hcommon
        exact ⟨[' '], by rw [← hcommon]; simp, rfl, rfl⟩
    | cons c common =>
        -- the blank before the second word would stand in the first one
        have hc : c = ' ' := ((List.cons.inj hrest).1).symm
        have hmem : ' ' ∈ "precision".toList := by rw [hcommon, hc]; simp
        exact absurd hmem (by decide)

/-- **What a line looks like that sets a precision for floats.** -/
theorem setsFloatPrecision_iff : setsFloatPrecision line = true ↔
    ∃ lead gap tail, line
        = lead ++ ("precision".toList ++ (gap ++ ("float".toList ++ tail))) ∧
      (∀ c ∈ lead, isBlank c = true) ∧ gap.head? = some ' ' ∧ gap.getLast? = some ' ' ∧
        Closing tail := by
  constructor
  · intro h
    simp only [setsFloatPrecision, Bool.and_eq_true, List.isPrefixOf_iff_prefix,
      List.isSuffixOf_iff_suffix] at h
    obtain ⟨hfirst, hfloat⟩ := h
    obtain ⟨lead, hline, hlead⟩ := exists_trimStart line
    obtain ⟨last, hlast⟩ := exists_trimEndWhile isBlank (trimStart line)
    have htrimmed : trimStart line = trim line ++ last := hlast.1
    obtain ⟨ends, hends, hsemicolons⟩ := exists_trimEndWhile (· == ';') (trim line)
    obtain ⟨gap, hgap, hblank⟩ := exists_trimEndWhile isBlank (trimEndWhile (· == ';') (trim line))
    rw [hends, hgap, List.append_assoc] at hfirst
    obtain ⟨words, hstatement, hhead, hlastWord⟩ := exists_gap hfirst hfloat
    refine ⟨lead, words, gap ++ (ends ++ last), ?_, hlead, hhead, hlastWord, gap, ends, last, rfl,
      hblank, fun c hc => by simpa using hsemicolons c hc, hlast.2⟩
    rw [hends, hgap, hstatement] at htrimmed
    rw [hline, htrimmed]
    simp only [List.append_assoc]
  · rintro ⟨lead, gap, tail, rfl, hlead, hhead, hlastWord, hclosing⟩
    set statement : Text := "precision".toList ++ (gap ++ "float".toList) with hstatement
    have hend : statement.getLast? = some 't' := by
      rw [hstatement, ← List.append_assoc, List.getLast?_append_of_ne_nil _ (by decide)]
      rfl
    have hstart : trimStart (lead ++ ("precision".toList ++ (gap ++ ("float".toList ++ tail))))
        = statement ++ tail := by
      rw [trimStart_append_of_blank hlead (by rintro c ⟨rfl⟩; decide), hstatement]
      simp only [List.append_assoc]
    obtain ⟨rest, htrim, hkept⟩ := trimEnd_closing hend hclosing
    have hfirst : "precision ".toList <+: statement ++ rest := by
      obtain ⟨behind, rfl⟩ := List.head?_eq_some_iff.1 hhead
      exact ⟨behind ++ "float".toList ++ rest, by rw [hstatement]; simp⟩
    have hfloat : " float".toList <:+ statement := by
      obtain ⟨front, rfl⟩ := List.getLast?_eq_some_iff.1 hlastWord
      exact ⟨"precision".toList ++ front, by rw [hstatement]; simp⟩
    simp only [setsFloatPrecision, trim, hstart, htrim, hkept, Bool.and_eq_true,
      List.isPrefixOf_iff_prefix, List.isSuffixOf_iff_suffix]
    exact ⟨hfirst, hfloat⟩

end Line

/-! ## Renaming -/

section Renaming

variable {rename : Text → Option Text} {line source : Text} {lexemes : List Lexeme}

namespace Lexeme

/-- What a line that sets a precision for floats looks like in lexemes. -/
def FloatPrecision (lexemes : List Lexeme) : Prop :=
  ∃ (lead : Text) (before : Bool) (gap : List Lexeme) (behind : Bool) (tail : Text),
    lexemes = lead.map other ++ word "precision".toList before ::
        (gap ++ word "float".toList behind :: tail.map other) ∧
      (∀ c ∈ lead, isBlank c = true) ∧ gap.head? = some (other ' ') ∧
        gap.getLast? = some (other ' ') ∧ Closing tail

/-- A renaming that spares both words makes no such line and destroys none. -/
lemma floatPrecision_map_renamed (hprecision : Spares rename "precision".toList)
    (hfloat : Spares rename "float".toList) :
    FloatPrecision (lexemes.map (renamed rename)) ↔ FloatPrecision lexemes := by
  constructor
  · rintro ⟨lead, before, gap, behind, tail, hlexemes, hlead, hhead, hlast, htail⟩
    simp only [List.map_eq_append_iff, List.map_eq_cons_iff, map_renamed_eq_map_other,
      renamed_eq_word hprecision, renamed_eq_word hfloat] at hlexemes
    obtain ⟨_, _, rfl, rfl, _, _, rfl, rfl, gap, _, rfl, rfl, _, _, rfl, rfl, rfl⟩ := hlexemes
    simp only [List.head?_map, List.getLast?_map, Option.map_eq_some_iff, renamed_eq_other,
      exists_eq_right] at hhead hlast
    exact ⟨lead, before, gap, behind, tail, rfl, hlead, hhead, hlast, htail⟩
  · rintro ⟨lead, before, gap, behind, tail, rfl, hlead, hhead, hlast, htail⟩
    have hfirst : renamed rename (word "precision".toList before)
        = word "precision".toList before := (renamed_eq_word hprecision).2 rfl
    have hsecond : renamed rename (word "float".toList behind)
        = word "float".toList behind := (renamed_eq_word hfloat).2 rfl
    have hothers : ∀ text : Text, (text.map other).map (renamed rename) = text.map other :=
      fun text => map_renamed_eq_map_other.2 rfl
    refine ⟨lead, before, gap.map (renamed rename), behind, tail, ?_, hlead, ?_, ?_, htail⟩
    · simp only [List.map_append, List.map_cons, hothers, hfirst, hsecond]
    · rw [List.head?_map, hhead]
      rfl
    · rw [List.getLast?_map, hlast]
      rfl

/-- A text between blanks is read as lexemes between blanks. -/
lemma scanFrom_gap {gap : Text} (hhead : gap.head? = some ' ') (hlast : gap.getLast? = some ' ')
    (afterDot : Bool) : (scanFrom afterDot gap).head? = some (other ' ') ∧
      (scanFrom false gap).getLast? = some (other ' ') := by
  constructor
  · obtain ⟨rest, rfl⟩ := List.head?_eq_some_iff.1 hhead
    rw [scanFrom_plain afterDot (by decide)]
    rfl
  · obtain ⟨front, rfl⟩ := List.getLast?_eq_some_iff.1 hlast
    have hparted : Parted front [' '] := by
      rintro c d _ ⟨rfl⟩ _
      decide
    rw [← scan, scan_append hparted, scanFrom_plain _ (by decide), scanFrom, List.getLast?_concat]

end Lexeme

/-- A line sets a precision for floats exactly if its lexemes look like it. -/
lemma setsFloatPrecision_iff_scan :
    setsFloatPrecision line = true ↔ Lexeme.FloatPrecision (Lexeme.scan line) := by
  rw [setsFloatPrecision_iff]
  constructor
  · rintro ⟨lead, gap, tail, rfl, hlead, hhead, hlast, htail⟩
    have hplain : ∀ c ∈ lead, isNumberChar c = false := fun c hc =>
      isNumberChar_of_isBlank (hlead c hc)
    obtain ⟨before, hbefore⟩ := Lexeme.exists_scanFrom_plain hplain false
      ("precision".toList ++ (gap ++ ("float".toList ++ tail)))
    have hfirst : Lexeme.scanFrom before ("precision".toList ++ (gap ++ ("float".toList ++ tail)))
        = Lexeme.word "precision".toList before
          :: Lexeme.scanFrom false (gap ++ ("float".toList ++ tail)) := by
      refine Lexeme.scanFrom_identifier_append before (by decide) fun c hc => ?_
      obtain ⟨rest, rfl⟩ := List.head?_eq_some_iff.1 hhead
      rw [← Option.some.inj hc]
      decide
    have hparted : Parted gap ("float".toList ++ tail) := by
      obtain ⟨front, rfl⟩ := List.getLast?_eq_some_iff.1 hlast
      exact parted_append_singleton (by decide) front _
    have hgap : Lexeme.scanFrom false (gap ++ ("float".toList ++ tail))
        = Lexeme.scanFrom false gap
          ++ Lexeme.scanFrom (endsIn '.' gap) ("float".toList ++ tail) :=
      Lexeme.scan_append hparted
    have hsecond : Lexeme.scanFrom (endsIn '.' gap) ("float".toList ++ tail)
        = Lexeme.word "float".toList (endsIn '.' gap) :: Lexeme.scanFrom false tail :=
      Lexeme.scanFrom_identifier_append _ (by decide) fun c hc =>
        isWordChar_of_isNumberChar_eq_false (htail.plain c (List.mem_of_mem_head? hc))
    obtain ⟨_, hrest⟩ := Lexeme.exists_scanFrom_plain htail.plain false []
    rw [List.append_nil, Lexeme.scanFrom, List.append_nil] at hrest
    obtain ⟨hgapHead, hgapLast⟩ := Lexeme.scanFrom_gap hhead hlast false
    refine ⟨lead, before, Lexeme.scanFrom false gap, endsIn '.' gap, tail, ?_, hlead, hgapHead,
      hgapLast, htail⟩
    rw [Lexeme.scan, hbefore, hfirst, hgap, hsecond, hrest]
  · rintro ⟨lead, before, gap, behind, tail, hscan, hlead, hhead, hlast, htail⟩
    refine ⟨lead, gap.flatMap Lexeme.text, tail, ?_, hlead, ?_, ?_, htail⟩
    · rw [← Lexeme.flatMap_text_scan line, hscan]
      simp [Lexeme.flatMap_map_other, Lexeme.text]
    · obtain ⟨rest, rfl⟩ := List.head?_eq_some_iff.1 hhead
      rfl
    · obtain ⟨front, rfl⟩ := List.getLast?_eq_some_iff.1 hlast
      rw [List.flatMap_append, List.flatMap_singleton]
      exact List.getLast?_concat

/-- **A renaming that spares both words makes no line that sets a precision and destroys none.** -/
theorem setsFloatPrecision_renameIdentifiers
    (hnew : ∀ old new, rename old = some new → isIdentifier new = true)
    (hprecision : Spares rename "precision".toList) (hfloat : Spares rename "float".toList)
    (line : Text) :
    setsFloatPrecision (renameIdentifiers rename line) = setsFloatPrecision line := by
  rw [Bool.eq_iff_iff, setsFloatPrecision_iff_scan, setsFloatPrecision_iff_scan,
    scan_renameIdentifiers hnew, Lexeme.floatPrecision_map_renamed hprecision hfloat]

end Renaming

/-! ## All lines -/

section Lines

variable {rename : Text → Option Text} {source first : Text}

/-- The ends of lines are of no account. -/
lemma hasDefaultFloatPrecision_eq (source : Text) :
    hasDefaultFloatPrecision source = (inclusiveLines source).any setsFloatPrecision := by
  rw [hasDefaultFloatPrecision, lines, List.any_map]
  congr 1
  funext line
  obtain ⟨tail, hline, htail⟩ := exists_dropLineEnd line
  have htrim : trim line = trim (dropLineEnd line) := by
    rw [hline, trim_append_of_blank htail, ← hline]
  rw [Function.comp_apply, setsFloatPrecision, setsFloatPrecision, htrim]

lemma hasDefaultFloatPrecision_append (h : WholeLines first) (rest : Text) :
    hasDefaultFloatPrecision (first ++ rest)
      = (hasDefaultFloatPrecision first || hasDefaultFloatPrecision rest) := by
  simp only [hasDefaultFloatPrecision_eq, inclusiveLines_append h, List.any_append]

/-- **Renaming does not change whether a precision is set**, if it spares both words. -/
theorem hasDefaultFloatPrecision_renameIdentifiers
    (hnew : ∀ old new, rename old = some new → isIdentifier new = true)
    (hprecision : Spares rename "precision".toList) (hfloat : Spares rename "float".toList)
    (source : Text) :
    hasDefaultFloatPrecision (renameIdentifiers rename source)
      = hasDefaultFloatPrecision source := by
  rw [hasDefaultFloatPrecision_eq, hasDefaultFloatPrecision_eq,
    inclusiveLines_renameIdentifiers hnew, List.any_map]
  congr 1
  funext line
  exact setsFloatPrecision_renameIdentifiers hnew hprecision hfloat line

/-- A version directive sets no precision. -/
lemma setsFloatPrecision_of_isDirective {line : Text} (h : isDirective line = true) :
    setsFloatPrecision line = false := by
  obtain ⟨lead, gap, rest, hline, hlead, _, _⟩ := isDirective_iff.1 h
  rw [← Bool.not_eq_true, setsFloatPrecision_iff]
  rintro ⟨other, words, tail, hother, hblank, _, _, _⟩
  -- the first character that is no blank would be the number sign and a letter
  have hsign : trimStart line = '#' :: (gap ++ ("version".toList ++ rest)) := by
    rw [hline, trimStart_append_of_blank hlead (by rintro c ⟨rfl⟩; decide)]
  rw [hother, trimStart_append_of_blank hblank (by rintro c ⟨rfl⟩; decide)] at hsign
  exact absurd (List.cons.inj hsign).1 (by decide)

/-- **A source sets a precision before its version directive or behind it.** -/
theorem hasDefaultFloatPrecision_parts (source : Text) :
    hasDefaultFloatPrecision source = (hasDefaultFloatPrecision (ofSource source).before
      || hasDefaultFloatPrecision (ofSource source).after) := by
  have h := ofLines source
  generalize ofSource source = parts at h
  cases h with
  | unversioned hlines => rfl
  | @versioned skipped others line hlines hskipped hline =>
      obtain ⟨hbefore, hafter⟩ := inclusiveLines_around hlines
      simp only [hasDefaultFloatPrecision_eq, hlines, hbefore, hafter, List.any_append,
        List.any_cons, setsFloatPrecision_of_isDirective hline, Bool.false_or]

end Lines

end GlBridge.Glsl
