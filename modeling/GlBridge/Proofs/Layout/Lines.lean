import GlBridge.Proofs.Layout.Idempotence

/-!
# Preprocessor lines of a source that is laid out

When a source is laid out, every preprocessor line stays that stands between declarations, and so
does every one within a declaration that is edited as a whole.  A declaration that is split keeps
its lines exactly if it has the same ones afterwards, in the same order.

**What goes wrong.**  The new declarations repeat the lines among the qualifiers, and leave out
those between declarators.  What one declaration leaves out another one may repeat, and so it can be
told from all lines together only if no declaration has more lines than before, or none has fewer.

* `redirected_laidOut` — the lines of a clean source that is laid out;
* `aloneDirectives_sublist` — each new declaration has lines of the old one;
* `directivesOf_laidOut_of_outside` — lines outside of declarations stay;
* `directivesOf_laidOut` — all lines stay, and when they do not.
-/

namespace GlBridge.Layout

open Text Glsl Piece

variable {stage : Stage} {source : Text} {d : InterfaceDeclaration} {varyings : VaryingLocations}
  {out : LaidOut}

/-! ## All lines -/

lemma mem_edited : d ∈ edited stage (statementsOf source) ↔
    d ∈ InterfaceDeclaration.all source ∧ d.Wants stage := by
  rw [edited, InterfaceDeclaration.all_eq, List.mem_flatMap, List.mem_filterMap]
  simp only [Option.mem_toList, Option.filter_eq_some_iff, decide_eq_true_eq]
  constructor
  · rintro ⟨statement, hstatement, hd, hwants⟩
    exact ⟨⟨statement, hstatement, hd⟩, hwants⟩
  · rintro ⟨⟨statement, hstatement, hd⟩, hwants⟩
    exact ⟨statement, hstatement, hd, hwants⟩

/-- **The preprocessor lines of a clean source that is laid out** are those it has but for
declarations that are edited. -/
theorem redirected_laidOut (hclean : AllClean stage source)
    (h : assignLayouts stage source varyings = .ok out) :
    Redirected (·.directives source) (·.laidDirectives source)
      (edited stage (statementsOf source)) (directivesOf source) (directivesOf out.text) := by
  obtain ⟨_, _, new, hnew, htext, _⟩ := exists_rewritten_laidOut hclean h
  rw [htext, directivesOf, directivesOf, scan_textOf hnew.reads]
  exact hnew.lines

/-! ## The lines of a declaration -/

/-- A declaration of a source is anatomized where it stands. -/
lemma exists_anatomy_of_mem (hd : d ∈ InterfaceDeclaration.all source) :
    ∃ done pieces rest lead head declared tail, source = done ++ (textOf pieces ++ rest) ∧
      Reads true pieces [] ∧ Anatomy done.length pieces d lead head declared tail := by
  rw [InterfaceDeclaration.all_eq, List.mem_filterMap] at hd
  obtain ⟨statement, hstatement, hd⟩ := hd
  have hspan : statement.span ∈ globalStatements source := by
    rw [globalStatements_eq]
    exact List.mem_map_of_mem hstatement
  obtain ⟨hle, hlt⟩ := (globalStatements_ordered source).2 _ hspan
  have hlength : (source.take statement.start).length = statement.start := by
    rw [List.length_take]
    exact Nat.min_eq_left (hle.trans hlt.le)
  have htext : textOf (scan statement.text) = statement.span.textIn source :=
    (flatMap_text_scanFrom true statement.text).trans (textIn_statement hstatement).symm
  have hsource : source = source.take statement.start
      ++ (textOf (scan statement.text) ++ source.drop statement.span.stop) := by
    rw [htext, Span.textIn, ← Text.drop_eq_slice_append source hle]
    exact (List.take_append_drop _ _).symm
  rw [Statement.tokens, ← hlength] at hd
  obtain ⟨lead, head, declared, tail, h⟩ := exists_anatomy hd
  exact ⟨_, _, _, lead, head, declared, tail, hsource, reads_scanFrom true _, h⟩

/-- **Each new declaration has lines of the old one**: those among the qualifiers, and those within
its declarator. -/
theorem aloneDirectives_sublist (hd : d ∈ InterfaceDeclaration.all source) {x : Declarator}
    (hx : x ∈ d.declarators) : (d.aloneDirectives source x).Sublist (d.directives source) := by
  obtain ⟨done, pieces, rest, lead, head, declared, tail, hsource, hreads, h⟩ :=
    exists_anatomy_of_mem hd
  obtain ⟨before, segment, after, first, last, hcut, hfirst, hlast, hstart, hstop, _⟩ :=
    h.declarators x hx
  have hsegment := (h.reads_segment hreads hcut hfirst hlast).2 [] (by simp)
  rw [InterfaceDeclaration.aloneDirectives, h.headDirectives_eq hsource hreads,
    h.textIn_declarator hsource hcut hstart hstop, scanFrom_textOf hsegment,
    h.directives_eq hsource hreads, hcut, directives_append, directives_append]
  refine List.Sublist.append_left (List.Sublist.trans ?_ (List.sublist_append_right _ _)) _
  exact List.sublist_append_left _ _

/-- A declaration without lines is laid out to declarations without lines. -/
lemma laidDirectives_eq_nil (hd : d ∈ InterfaceDeclaration.all source)
    (hnone : d.directives source = []) : d.laidDirectives source = [] := by
  rw [InterfaceDeclaration.laidDirectives]
  split_ifs
  · exact hnone
  · refine List.flatMap_eq_nil_iff.2 fun x hx => List.sublist_nil.1 ?_
    exact hnone ▸ aloneDirectives_sublist hd (d.kept_sublist.subset hx)

/-! ## The result -/

/-- **Lines outside of declarations stay.** -/
theorem directivesOf_laidOut_of_outside (hclean : AllClean stage source)
    (h : assignLayouts stage source varyings = .ok out)
    (houtside : ∀ d ∈ InterfaceDeclaration.all source, d.Wants stage → d.directives source = []) :
    directivesOf out.text = directivesOf source := by
  refine (redirected_laidOut hclean h).eq_of_forall fun d hd => ?_
  obtain ⟨hd, hwants⟩ := mem_edited.1 hd
  exact (laidDirectives_eq_nil hd (houtside d hd hwants)).trans (houtside d hd hwants).symm

/-- **All lines stay if each declaration that is edited keeps its own.**  If none of these has more
lines than before, or none has fewer, they do not stay otherwise. -/
theorem directivesOf_laidOut (hclean : AllClean stage source)
    (h : assignLayouts stage source varyings = .ok out) :
    ((∀ d ∈ InterfaceDeclaration.all source, d.Wants stage →
        d.laidDirectives source = d.directives source) →
      directivesOf out.text = directivesOf source) ∧
    ((∀ d ∈ InterfaceDeclaration.all source, d.Wants stage →
        (d.directives source).length ≤ (d.laidDirectives source).length) ∨
      (∀ d ∈ InterfaceDeclaration.all source, d.Wants stage →
        (d.laidDirectives source).length ≤ (d.directives source).length) →
      directivesOf out.text = directivesOf source →
        ∀ d ∈ InterfaceDeclaration.all source, d.Wants stage →
          d.laidDirectives source = d.directives source) := by
  have hlines := redirected_laidOut hclean h
  refine ⟨fun hsame => hlines.eq_of_forall fun d hd => ?_, fun hone heq d hd hwants => ?_⟩
  · obtain ⟨hd, hwants⟩ := mem_edited.1 hd
    exact hsame d hd hwants
  · have hmem := mem_edited.2 ⟨hd, hwants⟩
    rcases hone with hmore | hless
    · refine hlines.forall_of_eq (fun d hd => ?_) heq d hmem
      exact hmore d (mem_edited.1 hd).1 (mem_edited.1 hd).2
    · refine (hlines.symm.forall_of_eq (fun d hd => ?_) heq.symm d hmem).symm
      exact hless d (mem_edited.1 hd).1 (mem_edited.1 hd).2

/-- A fragment shader with lines between declarations, among qualifiers and within a declarator. -/
def guarded : Text :=
  ("out\n#ifdef A\nhighp\n#endif\nvec4 a;\n#ifdef B\nin vec4 b, c\n#ifdef C\n[2]\n#endif\n;" ++
    "\n#endif").toList

/-- A fragment shader with a line between two declarators. -/
def conditional : Text := "out vec4 a\n#ifdef TWO\n[2]\n#endif\n, b;\n".toList

/-- A fragment shader with lines among the qualifiers of two declarators. -/
def qualified : Text := "uniform\n#ifdef HIGH\nhighp\n#endif\nsampler2D a, b;\n".toList

/-- The lines that are left once a source is laid out. -/
def linesLaidOut (stage : Stage) (source : Text) : Except Overflow (List Text) := do
  let out ← assignLayouts stage source {}
  return directivesOf out.text

/-- A source in which every line stays, and one in which a line does not. -/
theorem directivesOf_laidOut_guarded :
    (∃ out, AllClean .fragment guarded ∧ assignLayouts .fragment guarded {} = .ok out ∧
      out.text ≠ guarded ∧ (directivesOf guarded).length = 6 ∧
        directivesOf out.text = directivesOf guarded) ∧
    ∃ out, AllClean .fragment conditional ∧ assignLayouts .fragment conditional {} = .ok out ∧
      directivesOf out.text ≠ directivesOf conditional := by
  have hkept : AllClean .fragment guarded ∧ (directivesOf guarded).length = 6 ∧
      ∀ d ∈ InterfaceDeclaration.all guarded, d.Wants .fragment →
        d.laidDirectives guarded = d.directives guarded := by
    unfold guarded
    rw [String.toList_append]
    repeat rw [toList_literal rfl]
    decide +kernel
  have hlost : AllClean .fragment conditional ∧
      (∀ d ∈ InterfaceDeclaration.all conditional, d.Wants .fragment →
        (d.laidDirectives conditional).length ≤ (d.directives conditional).length) ∧
      ¬ ∀ d ∈ InterfaceDeclaration.all conditional, d.Wants .fragment →
        d.laidDirectives conditional = d.directives conditional := by
    unfold conditional
    rw [toList_literal rfl]
    decide +kernel
  have hguarded : (assignLayouts .fragment guarded {}).map
      (fun out => decide (out.text = guarded)) = .ok false := by
    unfold guarded
    rw [String.toList_append]
    repeat rw [toList_literal rfl]
    decide +kernel
  have hconditional : (assignLayouts .fragment conditional {}).map (fun _ => true) = .ok true := by
    unfold conditional
    rw [toList_literal rfl]
    decide +kernel
  obtain ⟨out, hout, hchanged⟩ := map_eq_ok.1 hguarded
  obtain ⟨other, hother, _⟩ := map_eq_ok.1 hconditional
  exact ⟨⟨out, hkept.1, hout, by simpa using hchanged, hkept.2.1,
      (directivesOf_laidOut hkept.1 hout).1 hkept.2.2⟩,
    ⟨other, hlost.1, hother, fun heq =>
      hlost.2.2 ((directivesOf_laidOut hlost.1 hother).2 (Or.inr hlost.2.1) heq)⟩⟩

/-- **Lines between declarators are lost, and lines among qualifiers are repeated**, so that
conditional sections do not end, or are there twice. -/
theorem assignLayouts_changes_directives :
    directivesOf conditional = ["#ifdef TWO", "#endif"].map String.toList ∧
      linesLaidOut .fragment conditional = .ok (["#ifdef TWO"].map String.toList) ∧
      directivesOf qualified = ["#ifdef HIGH", "#endif"].map String.toList ∧
      linesLaidOut .fragment qualified
        = .ok (["#ifdef HIGH", "#endif", "#ifdef HIGH", "#endif"].map String.toList) := by
  unfold conditional qualified
  repeat rw [toList_literal rfl]
  decide +kernel

end GlBridge.Layout
