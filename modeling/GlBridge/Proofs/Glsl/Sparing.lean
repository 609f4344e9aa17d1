import GlBridge.Proofs.Glsl.Versioning

/-!
# Where the version directive is, after other passes

Passes insert lines behind the line of the version directive, and take the line out.  They look for
it in texts that other passes have changed before, so what matters is that these changes leave it
where it is.

**Inserting.**  Lines that are no directives go behind the directive, and it is found again
(`ofSource_insertAfterVersion`).

**Renaming.**  Whether a line is a directive hangs on the one word `version`.  A renaming that
spares the word, which it neither renames nor gives to anything else, makes no directive and
destroys none (`isDirective_renameIdentifiers`), and renames the parts of a source one by one
(`ofSource_renameIdentifiers`).
-/

namespace GlBridge.Glsl

open Text VersionDirective VersionParts

/-! ## Inserting -/

section Inserting

variable {source insertion line text : Text} {lines skipped others : List Text}

/-- What other lines follow is whole lines. -/
lemma wholeLines_flatten (h : Ended (skipped ++ line :: others)) : WholeLines skipped.flatten := by
  induction skipped with
  | nil => exact Or.inl rfl
  | cons first skipped ih =>
      rw [List.cons_append, ended_cons (by simp)] at h
      exact h.1.append (ih h.2)

/-- What stands before the directive is whole lines. -/
lemma wholeLines_before (source : Text) : WholeLines (ofSource source).before := by
  have h := ofLines source
  generalize ofSource source = parts at h
  cases h with
  | unversioned hlines => exact Or.inl rfl
  | versioned hlines hskipped hline =>
      exact wholeLines_flatten (hlines ▸ ended_inclusiveLines source)

/-- The line of a directive is ended when lines are put behind it, and stays a directive. -/
lemma ended_lineEnd (before after : Text) (h : line ∈ inclusiveLines text)
    (hline : isDirective line = true) :
    ∃ body, '\n' ∉ body ∧ line ++ (VersionParts.mk before line after).lineEnd = body ++ ['\n'] ∧
      isDirective (body ++ ['\n']) = true := by
  obtain ⟨body, hbody, rfl | ⟨rfl, hne⟩⟩ := exists_ended_line h
  · refine ⟨body, hbody, ?_, hline⟩
    rw [lineEnd, if_pos (Or.inr List.getLast?_concat), List.append_nil]
  · refine ⟨line, hbody, ?_, isDirective_append_lineFeed hline⟩
    have hlast : line.getLast? ≠ some '\n' := fun h => hbody (List.mem_of_getLast? h)
    rw [lineEnd, if_neg (by simp [hne, hlast])]

/-- **Lines that are no directives go behind the directive, which is found again.** -/
theorem ofSource_insertAfterVersion (hwhole : WholeLines insertion)
    (hinsertion : ∀ line ∈ inclusiveLines insertion, isDirective line = false) (source : Text) :
    ofSource (insertAfterVersion source insertion) = (ofSource source).insert insertion := by
  have h := ofLines source
  rw [insertAfterVersion_eq]
  generalize ofSource source = parts at h
  cases h with
  | unversioned hlines =>
      have htext : (VersionParts.insert insertion ⟨[], [], source⟩).text = insertion ++ source := by
        simp [VersionParts.insert, VersionParts.text, VersionParts.lineEnd]
      rw [htext, ofSource_of_unversioned]
      · simp [VersionParts.insert, VersionParts.lineEnd]
      · rw [inclusiveLines_append hwhole]
        exact List.forall_mem_append.2 ⟨hinsertion, hlines⟩
  | @versioned skipped others line hlines hskipped hline =>
      have hmem : line ∈ inclusiveLines source := by rw [hlines]; simp
      have hbefore : WholeLines skipped.flatten :=
        wholeLines_flatten (hlines ▸ ended_inclusiveLines source)
      obtain ⟨hskippedLines, hothersLines⟩ := inclusiveLines_around hlines
      obtain ⟨body, hbody, hended, hdirective⟩ := ended_lineEnd skipped.flatten others.flatten hmem hline
      simp only [VersionParts.insert, VersionParts.text]
      rw [hended]
      have hjoined : inclusiveLines
          (skipped.flatten ++ (body ++ ['\n']) ++ (insertion ++ others.flatten))
          = skipped ++ (body ++ ['\n']) :: (inclusiveLines insertion ++ others) := by
        rw [List.append_assoc, List.append_assoc, inclusiveLines_append hbefore,
          List.singleton_append, inclusiveLines_line hbody, inclusiveLines_append hwhole,
          hskippedLines, hothersLines]
      rw [ofSource_of_lines hjoined hskipped hdirective, List.flatten_append,
        flatten_inclusiveLines]

end Inserting

/-! ## Renaming -/

/-- A renaming spares a name if it stays what it is and nothing else is given it. -/
def Spares (rename : Text → Option Text) (name : Text) : Prop :=
  ∀ old, (rename old).getD old = name ↔ old = name

section Renaming

variable {rename : Text → Option Text} {name source line : Text} {lexemes : List Lexeme}

lemma spares_of_fresh (hname : rename name = none) (hfresh : ∀ old, rename old ≠ some name) :
    Spares rename name := by
  intro old
  constructor
  · intro h
    cases hold : rename old with
    | none => rwa [hold] at h
    | some new =>
        rw [hold, Option.getD_some] at h
        exact absurd (h ▸ hold) (hfresh old)
  · rintro rfl
    rw [hname, Option.getD_none]

namespace Lexeme

lemma renamed_eq_other {lexeme : Lexeme} {c : Char} :
    lexeme.renamed rename = other c ↔ lexeme = other c := by
  cases lexeme <;> simp [renamed]

lemma renamed_eq_word (h : Spares rename name) {lexeme : Lexeme} {afterDot : Bool} :
    lexeme.renamed rename = word name afterDot ↔ lexeme = word name afterDot := by
  cases lexeme <;> simp [renamed, h _]

lemma map_renamed_eq_map_other {text : Text} :
    lexemes.map (renamed rename) = text.map other ↔ lexemes = text.map other := by
  induction text generalizing lexemes with
  | nil => simp
  | cons c text ih =>
      cases lexemes with
      | nil => simp
      | cons lexeme lexemes => simp [renamed_eq_other, ih]

/-- What a version directive looks like in lexemes. -/
def Directive (lexemes : List Lexeme) : Prop :=
  ∃ (lead gap : Text) (afterDot : Bool) (later : List Lexeme),
    lexemes = lead.map other ++ other '#' :: (gap.map other ++ word "version".toList afterDot :: later)
      ∧ (∀ c ∈ lead, isBlank c = true) ∧ (∀ c ∈ gap, isBlank c = true) ∧
        ∀ lexeme, later.head? = some lexeme → ∃ c, lexeme = other c ∧ isBlank c = true

/-- A renaming that spares the word makes no directive and destroys none. -/
lemma directive_map_renamed (h : Spares rename "version".toList) :
    Directive (lexemes.map (renamed rename)) ↔ Directive lexemes := by
  constructor
  · rintro ⟨lead, gap, afterDot, later, hlexemes, hlead, hgap, hlater⟩
    simp only [List.map_eq_append_iff, List.map_eq_cons_iff, map_renamed_eq_map_other,
      renamed_eq_other, renamed_eq_word h] at hlexemes
    obtain ⟨_, _, rfl, rfl, _, _, rfl, rfl, _, _, rfl, rfl, _, later, rfl, rfl, rfl⟩ := hlexemes
    refine ⟨lead, gap, afterDot, later, rfl, hlead, hgap, fun lexeme hhead => ?_⟩
    obtain ⟨c, hc, hblank⟩ := hlater (lexeme.renamed rename) (by simp [hhead])
    exact ⟨c, renamed_eq_other.1 hc, hblank⟩
  · rintro ⟨lead, gap, afterDot, later, rfl, hlead, hgap, hlater⟩
    refine ⟨lead, gap, afterDot, later.map (renamed rename), ?_, hlead, hgap, fun lexeme hhead => ?_⟩
    · have hversion : renamed rename (word "version".toList afterDot)
          = word "version".toList afterDot := (renamed_eq_word h).2 rfl
      have hothers : ∀ text : Text, (text.map other).map (renamed rename) = text.map other :=
        fun text => map_renamed_eq_map_other.2 rfl
      simp only [List.map_append, List.map_cons, hothers, hversion]
      rfl
    · rw [List.head?_map, Option.map_eq_some_iff] at hhead
      obtain ⟨old, hold, rfl⟩ := hhead
      obtain ⟨c, rfl, hblank⟩ := hlater old hold
      exact ⟨c, rfl, hblank⟩

end Lexeme

/-- A line is a version directive exactly if its lexemes look like one. -/
lemma isDirective_iff_scan : isDirective line = true ↔ Lexeme.Directive (Lexeme.scan line) := by
  rw [isDirective_iff]
  constructor
  · rintro ⟨lead, gap, rest, rfl, hlead, hgap, hrest⟩
    have hplain : ∀ text : Text, (∀ c ∈ text, isBlank c = true) →
        ∀ c ∈ text, isNumberChar c = false :=
      fun text h c hc => isNumberChar_of_isBlank (h c hc)
    obtain ⟨before, hbefore⟩ := Lexeme.exists_scanFrom_plain (hplain lead hlead) false
      ('#' :: (gap ++ ("version".toList ++ rest)))
    obtain ⟨behind, hbehind⟩ := Lexeme.exists_scanFrom_plain (hplain gap hgap)
      (Lexeme.dotAfter before '#') ("version".toList ++ rest)
    have hword : Lexeme.scanFrom behind ("version".toList ++ rest)
        = Lexeme.word "version".toList behind :: Lexeme.scanFrom false rest :=
      Lexeme.scanFrom_identifier_append behind (by decide) fun c hc =>
        isWordChar_of_isNumberChar_eq_false (isNumberChar_of_isBlank (hrest c hc))
    refine ⟨lead, gap, behind, Lexeme.scanFrom false rest, ?_, hlead, hgap, fun lexeme hhead => ?_⟩
    · rw [Lexeme.scan, hbefore, Lexeme.scanFrom_plain before (by decide), hbehind, hword]
    · cases rest with
      | nil =>
          rw [Lexeme.scanFrom] at hhead
          exact absurd hhead (by simp)
      | cons c rest =>
          have hc := hrest c rfl
          rw [Lexeme.scanFrom_plain false (isNumberChar_of_isBlank hc)] at hhead
          exact ⟨c, (Option.some.inj hhead).symm, hc⟩
  · rintro ⟨lead, gap, afterDot, later, hscan, hlead, hgap, hlater⟩
    refine ⟨lead, gap, later.flatMap Lexeme.text, ?_, hlead, hgap, fun c hc => ?_⟩
    · rw [← Lexeme.flatMap_text_scan line, hscan]
      simp [Lexeme.flatMap_map_other, Lexeme.text]
    · cases later with
      | nil => exact absurd hc (by simp)
      | cons lexeme later =>
          obtain ⟨d, rfl, hblank⟩ := hlater lexeme rfl
          rwa [← show d = c from Option.some.inj hc]

/-- **A renaming that spares the word makes no directive and destroys none.** -/
theorem isDirective_renameIdentifiers
    (hnew : ∀ old new, rename old = some new → isIdentifier new = true)
    (hversion : Spares rename "version".toList) (line : Text) :
    isDirective (renameIdentifiers rename line) = isDirective line := by
  rw [Bool.eq_iff_iff, isDirective_iff_scan, isDirective_iff_scan, scan_renameIdentifiers hnew,
    Lexeme.directive_map_renamed hversion]

/-- The parts of a source, each renamed. -/
def VersionParts.renamed (rename : Text → Option Text) (parts : VersionParts) : VersionParts where
  before := renameIdentifiers rename parts.before
  line := renameIdentifiers rename parts.line
  after := renameIdentifiers rename parts.after

/-- **A renamed source has the same parts, renamed**, if the renaming spares the word. -/
theorem ofSource_renameIdentifiers
    (hnew : ∀ old new, rename old = some new → isIdentifier new = true)
    (hversion : Spares rename "version".toList) (source : Text) :
    ofSource (renameIdentifiers rename source) = (ofSource source).renamed rename := by
  have hsame := isDirective_renameIdentifiers hnew hversion
  have h := ofLines source
  generalize ofSource source = parts at h
  rw [ofSource_eq_iff]
  cases h with
  | unversioned hlines =>
      rw [VersionParts.renamed, renameIdentifiers_nil]
      refine .unversioned fun line hline => ?_
      rw [inclusiveLines_renameIdentifiers hnew, List.mem_map] at hline
      obtain ⟨old, hold, rfl⟩ := hline
      rw [hsame, hlines old hold]
  | @versioned skipped others line hlines hskipped hline =>
      have hbefore : skipped.Sublist (inclusiveLines source) :=
        hlines ▸ List.sublist_append_left _ _
      have hafter : others.Sublist (inclusiveLines source) :=
        hlines ▸ (List.sublist_cons_self _ _).trans (List.sublist_append_right _ _)
      rw [VersionParts.renamed, renameIdentifiers_flatten hnew hbefore,
        renameIdentifiers_flatten hnew hafter]
      refine .versioned ?_ ?_ ?_
      · rw [inclusiveLines_renameIdentifiers hnew, hlines, List.map_append, List.map_cons]
      · intro line hmem
        obtain ⟨old, hold, rfl⟩ := List.mem_map.1 hmem
        rw [hsame, hskipped old hold]
      · rw [hsame, hline]

/-- A renamed directive lacks a line feed if the directive does. -/
lemma lineEnd_renamed (hnew : ∀ old new, rename old = some new → isIdentifier new = true)
    (source : Text) : ((ofSource source).renamed rename).lineEnd = (ofSource source).lineEnd := by
  have h := ofLines source
  generalize ofSource source = parts at h
  cases h with
  | unversioned hlines => simp [VersionParts.renamed, lineEnd]
  | @versioned skipped others line hlines hskipped hline =>
      have hmem : line ∈ inclusiveLines source := by rw [hlines]; simp
      obtain ⟨body, hbody, rfl | ⟨rfl, hne⟩⟩ := exists_ended_line hmem
      · have hfeed : renameIdentifiers rename (body ++ ['\n'])
            = renameIdentifiers rename body ++ ['\n'] := by
          rw [renameIdentifiers_lineFeed, renameIdentifiers_nil]
        simp [VersionParts.renamed, lineEnd, hfeed]
      · have hrenamed : renameIdentifiers rename line ≠ [] := fun h =>
          hne (renameIdentifiers_eq_nil hnew h)
        have hlast : ∀ {text : Text}, '\n' ∉ text → text.getLast? ≠ some '\n' :=
          fun hfeed h => hfeed (List.mem_of_getLast? h)
        simp [VersionParts.renamed, lineEnd, hne, hrenamed, hlast hbody,
          hlast (lineFeed_notMem_renameIdentifiers hnew hbody)]

end Renaming

end GlBridge.Glsl
