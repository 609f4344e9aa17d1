import GlBridge.Proofs.Glsl.Joining
import GlBridge.Proofs.Translator.FirstLine

/-!
# Combining samplers in the other statements

When samplers are separated, the text between the declarations that are split is read for uses of
them.  It is read as identifiers only, so that what is a use does not depend on where it stands: a
member, a parameter or a block of the same name is one as well, unless a dot stands before it.

**Cuts.**  Between two statements no identifier and no number is cut in two (`parted_statement`), so
a statement is read by itself as it is read in the whole, if it is told whether a dot stands before
it (`Lexeme.scanFrom_append`).

**Edits.**  The declarations that are split stand before a statement or behind it
(`exists_editsAround`), and what is made of a source is what is made of the part before the
statement, of the statement and of the part behind it (`applyFrom_around`).

* `separateSamplers_around` — a statement that is not split has its uses combined, and nothing else
  is done to it;
* `separateSamplers_keeps_iff` — it is kept as it is exactly if no separated sampler is used in it.
-/

namespace GlBridge

open Text

namespace Glsl

/-! ## Between statements -/

/-- A source cut at a statement, which ends before a semicolon. -/
structure CutAt (source lead : Text) (statement : Statement) (rest : Text) : Prop where
  source_eq : source = lead ++ (statement.text ++ ';' :: rest)
  start : lead.length = statement.start
  parted : Parted lead (statement.text ++ ';' :: rest)

/-- After a directive a line ends. -/
lemma Piece.Fits.head?_of_directive {lineStart : Bool} {piece : Piece} {rest : Text} {c : Char}
    (h : piece.Fits lineStart rest) (hkind : piece.kind = .directive)
    (hhead : rest.head? = some c) : c = '\n' := by
  obtain ⟨tail, rfl⟩ := List.head?_eq_some_iff.1 hhead
  rcases (Piece.fits_other_iff (by simp [hkind])).1 h with rfl | ⟨_, rfl, _⟩ | ⟨_, rfl, _⟩
    | ⟨_, rfl, _⟩ | ⟨directive, rfl, _, hlength⟩
  · exact absurd hkind (by simp)
  · exact absurd hkind (by simp)
  · exact absurd hkind (by simp)
  · exact absurd hkind (by simp)
  · exact Piece.eq_lineFeed_of_directiveLength hlength

namespace Reading

/-- Where the reading starts anew, the text is parted: after a semicolon or a brace, or before the
line feed that ends a directive. -/
lemma parted_fresh {lineStart : Bool} {reading : Reading} {piece : Piece} {rest : Text}
    (before : Text) (hfits : piece.Fits lineStart rest) (hresets : reading.Resets piece) :
    ∃ last, before ++ piece.text = before ++ last ++ (fresh piece).current ∧
      Parted (before ++ last) ((fresh piece).current ++ rest) := by
  obtain ⟨c, tail, htext, _⟩ := id hfits
  by_cases hkind : piece.kind = .token
  · have hc : isNumberChar c = false := by
      rcases hresets with ⟨hsemicolon, _⟩ | ⟨hcloses, _⟩ | ⟨hdirective, _⟩
      · have hhead := hsemicolon.2
        rw [htext, List.head?_cons, Option.some_inj] at hhead
        rw [hhead]
        decide
      · have hhead := hcloses.2
        rw [htext, List.head?_cons, Option.some_inj] at hhead
        rw [hhead]
        decide
      · rw [hkind] at hdirective
        exact absurd hdirective (by simp)
    rw [fresh, if_pos hkind, htext]
    exact ⟨[c], by simp, parted_append_singleton hc _ _⟩
  · have hdirective : piece.kind = .directive := by
      rcases hresets with ⟨hsemicolon, _⟩ | ⟨hcloses, _⟩ | ⟨hdirective, _⟩
      · exact absurd hsemicolon.1 hkind
      · exact absurd hcloses.1 hkind
      · exact hdirective
    rw [fresh, if_neg hkind]
    refine ⟨piece.text, (List.append_nil _).symm, fun _ d _ hd _ => ?_⟩
    rw [hfits.head?_of_directive hdirective hd]
    decide

/-- **The source is parted at every statement.** -/
lemma exists_cutAt {lineStart : Bool} {pieces : List Piece} {reading : Reading} {before : Text}
    {position : ℕ} (hreads : Piece.Reads lineStart pieces [])
    (hposition : position = (before ++ reading.current).length)
    (hparted : Parted before (reading.current ++ Piece.textOf pieces)) :
    ∀ statement ∈ reading.statements position pieces, ∃ lead rest,
      CutAt (before ++ (reading.current ++ Piece.textOf pieces)) lead statement rest := by
  induction pieces generalizing lineStart reading before position with
  | nil => exact fun _ h => absurd h List.not_mem_nil
  | cons piece pieces ih =>
      obtain ⟨hfits, hreads⟩ := hreads
      rw [List.append_nil] at hfits
      have hrest : ∀ statement ∈ (reading.step piece).statements (position + piece.text.length)
          pieces, ∃ lead rest,
          CutAt (before ++ (reading.current ++ Piece.textOf (piece :: pieces))) lead statement
            rest := by
        rw [step, Piece.textOf_cons]
        split_ifs with hresets
        · obtain ⟨last, htext, hfresh⟩ := parted_fresh (before ++ reading.current) hfits hresets
          have hnext : position + piece.text.length
              = (before ++ reading.current ++ last ++ (fresh piece).current).length := by
            rw [← htext, hposition]
            simp only [List.length_append]
          have hall := ih hreads hnext hfresh
          rwa [← List.append_assoc _ (fresh piece).current, ← htext, List.append_assoc,
            List.append_assoc] at hall
        · have hnext : position + piece.text.length
              = (before ++ (reading.keep piece).current).length := by
            rw [keep, hposition]
            simp only [List.length_append, Nat.add_assoc]
          have hkept : Parted before ((reading.keep piece).current ++ Piece.textOf pieces) := by
            rwa [keep, List.append_assoc, ← Piece.textOf_cons]
          have hall := ih hreads hnext hkept
          rwa [keep, List.append_assoc] at hall
      intro statement hstatement
      rw [statements] at hstatement
      split_ifs at hstatement with hends
      · rcases List.mem_cons.1 hstatement with rfl | hmem
        · obtain ⟨tail, htail⟩ := List.head?_eq_some_iff.1 hends.1.2
          rw [Piece.textOf_cons, htail, List.cons_append] at hparted ⊢
          refine ⟨before, tail ++ Piece.textOf pieces, rfl, ?_, hparted⟩
          rw [hposition, List.length_append, Nat.add_sub_cancel]
        · exact hrest statement hmem
      · exact hrest statement hstatement

end Reading

/-- **Every statement of a source is parted from what stands before it**, and a semicolon
follows. -/
theorem exists_cutAt_of_mem {source : Text} {statement : Statement}
    (h : statement ∈ statementsOf source) : ∃ lead rest, CutAt source lead statement rest := by
  have hstart : 0 = (([] : Text) ++ ({} : Reading).current).length := rfl
  have hcut := Reading.exists_cutAt (Piece.reads_scanFrom true source) hstart (parted_nil _)
  have htext : Piece.textOf (Piece.scanFrom true source) = source :=
    Piece.flatMap_text_scanFrom true source
  simp only [List.nil_append, htext] at hcut
  exact hcut statement h

end Glsl

/-! ## Edits on both sides of a statement -/

namespace Edit

variable {between : Text → Text} {lead text rest middle : Text} {position : ℕ}
  {earlier later : List Edit}

/-- **Edits before a text and behind it.**  If what lies around the text is passed through in parts,
so is the whole. -/
theorem applyFrom_around
    (hbetween : ∀ p ∈ position :: earlier.map (·.span.stop), p ≤ lead.length ∧
      ∀ tail, between (lead.drop p ++ (text ++ ';' :: tail))
        = between (lead.drop p) ++ (middle ++ between (';' :: tail)))
    (hearlier : ∀ edit ∈ earlier, edit.span.start ≤ lead.length)
    (hlater : ∀ edit ∈ later, lead.length + text.length < edit.span.start) :
    applyFrom between (lead ++ (text ++ ';' :: rest)) position (earlier ++ later)
      = applyFrom between lead position earlier ++ (middle
        ++ applyFrom between (lead ++ (text ++ ';' :: rest)) (lead.length + text.length)
          later) := by
  induction earlier generalizing position with
  | nil =>
      obtain ⟨hle, hcut⟩ := hbetween position List.mem_cons_self
      have hbehind : ∀ tail, (lead ++ (text ++ ';' :: tail)).drop (lead.length + text.length)
          = ';' :: tail := by
        intro tail
        rw [← List.append_assoc, ← List.length_append, List.drop_left]
      cases later with
      | nil =>
          rw [List.nil_append, applyFrom, applyFrom, applyFrom, hbehind,
            List.drop_append_of_le_length hle, hcut]
      | cons edit later =>
          obtain ⟨more, hmore⟩ := Nat.exists_eq_add_of_lt (hlater edit List.mem_cons_self)
          have htake : (lead ++ (text ++ ';' :: rest)).take edit.span.start
              = lead ++ (text ++ ';' :: rest.take more) := by
            rw [hmore, Nat.add_assoc, ← List.length_append, ← List.append_assoc,
              List.take_length_add_append, List.take_succ_cons, List.append_assoc]
          rw [List.nil_append, applyFrom, applyFrom, applyFrom, slice, slice, htake, hbehind,
            List.drop_append_of_le_length hle, hcut]
          simp only [List.append_assoc]
  | cons edit earlier ih =>
      rw [List.forall_mem_cons] at hearlier
      have hslice : (lead ++ (text ++ ';' :: rest)).slice position edit.span.start
          = lead.slice position edit.span.start := by
        rw [slice, slice, List.take_append_of_le_length hearlier.1]
      rw [List.cons_append, applyFrom, applyFrom, hslice,
        ih (fun p hp => hbetween p (List.mem_cons_of_mem _ hp)) hearlier.2]
      simp only [List.append_assoc]

end Edit

namespace Layout

open Glsl

/-! ## Combining by parts -/

/-- What a name becomes that is a use of a separated sampler. -/
def combining (types : List (Text × Text)) (name : Text) (afterDot : Bool) : Option Text :=
  if afterDot then none
  else (types.lookup name).map fun combined =>
    combined ++ "(".toList ++ name ++ ", ".toList ++ samplerPrefix ++ name ++ ")".toList

/-- A text with the uses combined, as it stands after another one. -/
def combineAfter (types : List (Text × Text)) (before text : Text) : Text :=
  (Lexeme.scanFrom (endsIn '.' before) text).flatMap (Lexeme.renamedUse (combining types))

section Parts

variable {types : List (Text × Text)} {before first rest text tail lead : Text}

lemma combineUses_eq (types : List (Text × Text)) (text : Text) :
    combineUses types text = combineAfter types [] text := rfl

lemma combineAfter_append (h : Parted first rest) :
    combineAfter types before (first ++ rest)
      = combineAfter types before first ++ combineAfter types (before ++ first) rest := by
  rw [combineAfter, Lexeme.scanFrom_append h, List.flatMap_append]
  rfl

lemma combineAfter_semicolon (before rest : Text) :
    combineAfter types before (';' :: rest) = combineUses types (';' :: rest) := by
  rw [combineAfter, Lexeme.scanFrom_semicolon]
  rfl

/-- A statement and what surrounds it are combined one after the other, if a dot that stands before
it stands in the part before it. -/
lemma combineUses_around {position : ℕ} (hparted : Parted lead (text ++ ';' :: rest))
    (hposition : position = 0 ∨ ';' ∈ lead.drop position) (tail : Text) :
    combineUses types (lead.drop position ++ (text ++ ';' :: tail))
      = combineUses types (lead.drop position)
        ++ (combineAfter types lead text ++ combineUses types (';' :: tail)) := by
  have hfirst : Parted (lead.drop position) (text ++ ';' :: tail) := by
    intro c d hc hd
    refine hparted c d ?_ ?_
    · rw [List.getLast?_drop] at hc
      split_ifs at hc
      exact hc
    · cases text <;> exact hd
  have hsecond : Parted text (';' :: tail) := by
    intro c d _ hd _
    obtain rfl := Option.some.inj hd
    decide
  have hdot : endsIn '.' ([] ++ lead.drop position) = endsIn '.' lead := by
    rcases hposition with rfl | hmem
    · rfl
    · conv_rhs => rw [← List.take_append_drop position lead]
      rw [Reading.endsIn_append_of_mem '.' _ hmem (by decide),
        Reading.endsIn_append_of_mem '.' _ hmem (by decide)]
  rw [combineUses_eq, combineAfter_append hfirst, combineAfter_append hsecond,
    combineAfter_semicolon, ← combineUses_eq]
  congr 2
  rw [combineAfter, combineAfter, hdot]

end Parts

/-! ## The edits around a statement -/

/-- What is made of a source before a position. -/
def separatedBefore (source : Text) (position : ℕ) : Text :=
  Edit.applyFrom (combineUses (samplerTypes (samplerSplits source))) (source.take position) 0
    (((samplerSplits source).map SamplerSplit.edit).filter (·.span.stop ≤ position))

/-- What is made of a source from a position on. -/
def separatedAfter (source : Text) (position : ℕ) : Text :=
  Edit.applyFrom (combineUses (samplerTypes (samplerSplits source))) source position
    (((samplerSplits source).map SamplerSplit.edit).filter (position ≤ ·.span.start))

section Around

variable {source : Text} {statement : Statement}

lemma separateSamplers_eq (source : Text) :
    separateSamplers source = Edit.applyFrom (combineUses (samplerTypes (samplerSplits source)))
      source 0 ((samplerSplits source).map SamplerSplit.edit) := by
  rw [separateSamplers, ← samplerSplits]
  cases samplerSplits source with
  | nil =>
      rw [List.map_nil, Edit.applyFrom, samplerTypes, List.flatMap_nil, List.reverse_nil,
        combineUses_nil, List.drop_zero]
  | cons split splits => rfl

/-- How a statement is split, if it is. -/
def splitOf? (source : Text) (statement : Statement) : Option SamplerSplit :=
  SamplerSplit.ofTokens? source statement.tokens

/-- The declarations that are split, statement by statement. -/
lemma samplerSplits_eq (source : Text) :
    samplerSplits source = (statementsOf source).filterMap (splitOf? source) := by
  rw [samplerSplits, globalDeclarations, globalStatements_eq, List.map_map, List.filterMap_filter,
    List.filterMap_map]
  refine List.filterMap_congr fun statement hstatement => ?_
  rw [Function.comp_apply, Function.comp_apply, tokenizeIn_statement hstatement, splitOf?]
  cases statement.tokens with
  | nil => rfl
  | cons first rest => rw [if_pos (by simp)]

/-- The edit of a statement stays within it. -/
lemma edit_within {split : SamplerSplit}
    (h : splitOf? source statement = some split) :
    statement.span.start ≤ split.edit.span.start ∧
      split.edit.span.start ≤ split.edit.span.stop ∧
      split.edit.span.stop ≤ statement.span.stop := by
  obtain ⟨first, last, hfirst, hlast, hspan⟩ := span_of_ofTokens? h
  have hplaced : Placed statement.start _ statement.tokens :=
    tokensFrom_placed (Piece.ne_nil_of_mem_scanFrom true statement.text)
  have htext : Piece.textOf (Piece.scan statement.text) = statement.text :=
    Piece.flatMap_text_scanFrom true statement.text
  rw [htext] at hplaced
  have hmem := List.mem_of_getLast? hlast
  have hwithin := hplaced.within last hmem
  rw [hspan]
  exact ⟨(hplaced.within first (List.mem_of_head? hfirst)).1,
    (hplaced.first_le hfirst hmem).trans hwithin.2.1.le, hwithin.2.2⟩

/-- Edits before a statement and behind it. -/
structure EditsAround (source lead : Text) (statement : Statement) (earlier later : List Edit) :
    Prop where
  edits_eq : (samplerSplits source).map SamplerSplit.edit = earlier ++ later
  before : ∀ edit ∈ earlier, edit.span.start ≤ edit.span.stop ∧ edit.span.stop < lead.length ∧
    ';' ∈ lead.drop edit.span.stop
  behind : ∀ edit ∈ later, lead.length + statement.text.length < edit.span.start ∧
    edit.span.start ≤ edit.span.stop

/-- **A statement that is not split stands between edits.**  After each of those before it there is
the semicolon of their statement. -/
theorem exists_editsAround {lead rest : Text} (hstatement : statement ∈ statementsOf source)
    (hcut : CutAt source lead statement rest)
    (hwhole : splitOf? source statement = none) :
    ∃ earlier later, EditsAround source lead statement earlier later := by
  obtain ⟨former, further, hsplit⟩ := List.append_of_mem hstatement
  have hordered := (globalStatements_ordered source).1
  rw [globalStatements_eq, hsplit, List.map_append, List.map_cons, List.pairwise_append,
    List.pairwise_cons] at hordered
  obtain ⟨_, ⟨hfurther, _⟩, hformer⟩ := hordered
  have hedits : (samplerSplits source).map SamplerSplit.edit
      = (former.filterMap (splitOf? source)).map SamplerSplit.edit
        ++ (further.filterMap (splitOf? source)).map SamplerSplit.edit := by
    rw [samplerSplits_eq, hsplit, List.filterMap_append, List.filterMap_cons_none hwhole,
      List.map_append]
  refine ⟨_, _, hedits, ?_, ?_⟩
  · refine List.forall_mem_map.2 fun split hmem => ?_
    obtain ⟨other, hother, hof⟩ := List.mem_filterMap.1 hmem
    obtain ⟨_, hle, hstop⟩ := edit_within hof
    have hbefore : other.span.stop < statement.span.start :=
      hformer _ (List.mem_map_of_mem hother) _ List.mem_cons_self
    have hlead : other.span.stop < lead.length := hcut.start ▸ hbefore
    refine ⟨hle, hstop.trans_lt hlead, ?_⟩
    obtain ⟨start, tail, hothercut⟩ :=
      exists_cutAt_of_mem (hsplit ▸ List.mem_append_left _ hother)
    have hsemicolon : lead[other.span.stop]? = some ';' := by
      have hstart : other.span.stop = (start ++ other.text).length := by
        rw [List.length_append, hothercut.start]
        rfl
      rw [← List.getElem?_append_left hlead, ← hcut.source_eq, hothercut.source_eq, hstart,
        ← List.append_assoc, List.getElem?_append_right le_rfl, Nat.sub_self]
      rfl
    refine List.mem_of_getElem? (i := other.span.stop - split.edit.span.stop) ?_
    rw [List.getElem?_drop, Nat.add_sub_cancel' hstop, hsemicolon]
  · refine List.forall_mem_map.2 fun split hmem => ?_
    obtain ⟨other, hother, hof⟩ := List.mem_filterMap.1 hmem
    obtain ⟨hstart, hle, _⟩ := edit_within hof
    have hbehind : statement.span.stop < other.span.start :=
      hfurther _ (List.mem_map_of_mem hother)
    exact ⟨(show lead.length + _ < _ from hcut.start ▸ hbehind).trans_le hstart, hle⟩

namespace EditsAround

variable {lead : Text} {earlier later : List Edit}

lemma earlier_eq (h : EditsAround source lead statement earlier later) :
    ((samplerSplits source).map SamplerSplit.edit).filter (·.span.stop ≤ lead.length)
      = earlier := by
  rw [h.edits_eq, List.filter_append, List.filter_eq_self.2 ?_, List.filter_eq_nil_iff.2 ?_,
    List.append_nil]
  · intro edit hedit
    have hbehind := h.behind edit hedit
    simp only [decide_eq_true_eq]
    omega
  · intro edit hedit
    simpa using (h.before edit hedit).2.1.le

lemma later_eq (h : EditsAround source lead statement earlier later) :
    ((samplerSplits source).map SamplerSplit.edit).filter
      (lead.length + statement.text.length ≤ ·.span.start) = later := by
  rw [h.edits_eq, List.filter_append, List.filter_eq_nil_iff.2 ?_, List.filter_eq_self.2 ?_,
    List.nil_append]
  · intro edit hedit
    simpa using (h.behind edit hedit).1.le
  · intro edit hedit
    have hbefore := h.before edit hedit
    simp only [decide_eq_true_eq]
    omega

end EditsAround

/-- **A statement that is not split has its uses combined**, and nothing else is done to it. -/
theorem separateSamplers_around (hstatement : statement ∈ statementsOf source)
    (hwhole : splitOf? source statement = none) :
    separateSamplers source = separatedBefore source statement.span.start
      ++ (combineAfter (samplerTypes (samplerSplits source)) (source.take statement.span.start)
            statement.text
        ++ separatedAfter source statement.span.stop) := by
  obtain ⟨lead, rest, hcut⟩ := exists_cutAt_of_mem hstatement
  obtain ⟨earlier, later, hedits⟩ := exists_editsAround hstatement hcut hwhole
  have hlead : statement.span.start = lead.length := hcut.start.symm
  have hstop : statement.span.stop = lead.length + statement.text.length := by
    rw [hcut.start]
    rfl
  have htake : source.take lead.length = lead := by
    rw [hcut.source_eq, List.take_left]
  rw [separateSamplers_eq, separatedBefore, separatedAfter, hlead, hstop, htake, hedits.earlier_eq,
    hedits.later_eq, hedits.edits_eq]
  have hbetween : ∀ p ∈ 0 :: earlier.map (·.span.stop), p ≤ lead.length ∧
      ∀ tail, combineUses (samplerTypes (samplerSplits source))
          (lead.drop p ++ (statement.text ++ ';' :: tail))
        = combineUses (samplerTypes (samplerSplits source)) (lead.drop p)
          ++ (combineAfter (samplerTypes (samplerSplits source)) lead statement.text
            ++ combineUses (samplerTypes (samplerSplits source)) (';' :: tail)) := by
    rw [List.forall_mem_cons, List.forall_mem_map]
    refine ⟨⟨Nat.zero_le _, combineUses_around hcut.parted (.inl rfl)⟩, fun edit hedit => ?_⟩
    obtain ⟨_, hlt, hmem⟩ := hedits.before edit hedit
    exact ⟨hlt.le, combineUses_around hcut.parted (.inr hmem)⟩
  rw [hcut.source_eq] at hbetween ⊢
  exact Edit.applyFrom_around hbetween
    (fun edit hedit => (hedits.before edit hedit).1.trans (hedits.before edit hedit).2.1.le)
    fun edit hedit => (hedits.behind edit hedit).1

end Around

/-! ## The result -/

/-- The identifiers of a part of a source, each with whether it stands after a dot. -/
def usesIn (source : Text) (span : Span) : List (Text × Bool) :=
  (Lexeme.scanFrom (endsIn '.' (source.take span.start)) (span.textIn source)).filterMap
    Lexeme.use?

/-- A use gets longer when it is combined, and other lexemes stay as they are. -/
lemma renamedUse_combining (types : List (Text × Text)) (lexeme : Lexeme) :
    (∃ name, lexeme = .word name false ∧ types.lookup name ≠ none ∧
      lexeme.text.length < (Lexeme.renamedUse (combining types) lexeme).length) ∨
    (∀ name, lexeme.use? = some (name, false) → types.lookup name = none) ∧
      Lexeme.renamedUse (combining types) lexeme = lexeme.text := by
  cases lexeme with
  | word name afterDot =>
      cases afterDot with
      | true => exact .inr ⟨by simp [Lexeme.use?], rfl⟩
      | false =>
          cases hlookup : types.lookup name with
          | none =>
              refine .inr ⟨?_, by simp [Lexeme.renamedUse, combining, hlookup, Lexeme.text]⟩
              rintro other hother
              obtain ⟨rfl, _⟩ := Prod.mk.inj (Option.some.inj hother)
              exact hlookup
          | some combined =>
              refine .inl ⟨name, rfl, hlookup ▸ Option.some_ne_none _, ?_⟩
              simp only [Lexeme.renamedUse, combining, hlookup, Lexeme.text, Bool.false_eq_true,
                if_false, Option.map_some, Option.getD_some, List.length_append]
              have hsigns : 0 < "(".toList.length := by decide
              omega
  | number digits => exact .inr ⟨by simp [Lexeme.use?], rfl⟩
  | other c => exact .inr ⟨by simp [Lexeme.use?], rfl⟩

lemma length_text_le (types : List (Text × Text)) (lexemes : List Lexeme) :
    (lexemes.flatMap Lexeme.text).length
      ≤ (lexemes.flatMap (Lexeme.renamedUse (combining types))).length := by
  induction lexemes with
  | nil => exact le_rfl
  | cons lexeme lexemes ih =>
      rw [List.flatMap_cons, List.flatMap_cons, List.length_append, List.length_append]
      refine Nat.add_le_add ?_ ih
      rcases renamedUse_combining types lexeme with ⟨_, _, _, hlt⟩ | ⟨_, heq⟩
      · exact hlt.le
      · exact (congrArg List.length heq).ge

/-- Combining leaves lexemes as they are exactly if no use is among them. -/
lemma flatMap_renamedUse_eq_iff (types : List (Text × Text)) (lexemes : List Lexeme) :
    lexemes.flatMap (Lexeme.renamedUse (combining types)) = lexemes.flatMap Lexeme.text ↔
      ∀ name, (name, false) ∈ lexemes.filterMap Lexeme.use? → types.lookup name = none := by
  induction lexemes with
  | nil => exact iff_of_true rfl (by simp)
  | cons lexeme lexemes ih =>
      rw [List.flatMap_cons, List.flatMap_cons]
      rcases renamedUse_combining types lexeme with ⟨name, rfl, hused, hlt⟩ | ⟨hunused, heq⟩
      · refine iff_of_false (fun heq => ?_) fun hnone => ?_
        · have hlength := congrArg List.length heq
          have hle := length_text_le types lexemes
          rw [List.length_append, List.length_append] at hlength
          omega
        · exact hused (hnone name (List.mem_filterMap.2 ⟨_, List.mem_cons_self, rfl⟩))
      · rw [heq, List.append_cancel_left_eq, ih]
        refine forall_congr' fun name => ?_
        rw [List.mem_filterMap, List.mem_filterMap]
        constructor
        · rintro hrest ⟨other, hother, huse⟩
          rcases List.mem_cons.1 hother with rfl | hother
          · exact hunused name huse
          · exact hrest ⟨other, hother, huse⟩
        · rintro hall ⟨other, hother, huse⟩
          exact hall ⟨other, List.mem_cons_of_mem _ hother, huse⟩

/-- **When a statement is kept.**  In place of a statement that is not split stands the statement
itself exactly if no separated sampler is used in it, where a use is any identifier of that name
without a dot before it. -/
theorem separateSamplers_keeps_iff {source : Text} {span : Span}
    (hspan : span ∈ globalStatements source)
    (hwhole : SamplerSplit.ofTokens? source (tokenizeIn source span) = none) :
    separateSamplers source
        = separatedBefore source span.start
          ++ (span.textIn source ++ separatedAfter source span.stop)
      ↔ ∀ name ∈ separatedNames source, (name, false) ∉ usesIn source span := by
  rw [globalStatements_eq, List.mem_map] at hspan
  obtain ⟨statement, hstatement, rfl⟩ := hspan
  rw [tokenizeIn_statement hstatement] at hwhole
  rw [separateSamplers_around hstatement hwhole, List.append_cancel_left_eq,
    List.append_cancel_right_eq, combineAfter, usesIn, textIn_statement hstatement]
  conv_lhs => rhs; rw [← Lexeme.flatMap_text_scanFrom
    (endsIn '.' (source.take statement.span.start)) statement.text]
  rw [flatMap_renamedUse_eq_iff]
  simp only [lookup_samplerTypes_eq_none_iff]
  exact forall_congr' fun name => imp_not_comm

/-- A block, and a constant whose value is a member with the name of a sampler. -/
def apartStatements : Text :=
  "uniform sampler2D tex;uniform Light { vec2 map; } light;const vec2 c = light.tex;".toList

/-- Both are kept, as a dot stands before the name. -/
theorem separateSamplers_keeps_apart :
    ∃ block constant, globalStatements apartStatements = [⟨0, 21⟩, block, constant] ∧
      SamplerSplit.ofTokens? apartStatements (tokenizeIn apartStatements block) = none ∧
      separatedNames apartStatements = ["tex".toList] ∧
      ("tex".toList, true) ∈ usesIn apartStatements constant ∧
      separateSamplers apartStatements = separatedBefore apartStatements block.start
        ++ (block.textIn apartStatements ++ separatedAfter apartStatements block.stop) ∧
      separateSamplers apartStatements = separatedBefore apartStatements constant.start
        ++ (constant.textIn apartStatements ++ separatedAfter apartStatements constant.stop) := by
  have hall : globalStatements apartStatements = [⟨0, 21⟩, ⟨22, 55⟩, ⟨56, 80⟩] ∧
      SamplerSplit.ofTokens? apartStatements (tokenizeIn apartStatements ⟨22, 55⟩) = none ∧
      SamplerSplit.ofTokens? apartStatements (tokenizeIn apartStatements ⟨56, 80⟩) = none ∧
      separatedNames apartStatements = ["tex".toList] ∧
      ("tex".toList, false) ∉ usesIn apartStatements ⟨22, 55⟩ ∧
      ("tex".toList, false) ∉ usesIn apartStatements ⟨56, 80⟩ ∧
      ("tex".toList, true) ∈ usesIn apartStatements ⟨56, 80⟩ := by
    unfold apartStatements
    repeat rw [toList_literal rfl]
    decide +kernel
  obtain ⟨hstatements, hblock, hconstant, hnames, hunused, hunused', hmember⟩ := hall
  refine ⟨_, _, hstatements, hblock, hnames, hmember,
    (separateSamplers_keeps_iff (by rw [hstatements]; simp) hblock).2 ?_,
    (separateSamplers_keeps_iff (by rw [hstatements]; simp) hconstant).2 ?_⟩
  · rw [hnames, List.forall_mem_singleton]
    exact hunused
  · rw [hnames, List.forall_mem_singleton]
    exact hunused'

/-- A member of a structure that has the name of a sampler. -/
def sharedName : Text := "uniform sampler2D tex; struct S { vec2 tex; };".toList

/-- **The member is taken for a use**, and the structure is no longer what it was. -/
theorem separateSamplers_changes_struct :
    globalStatements sharedName = [⟨0, 21⟩, ⟨22, 45⟩] ∧
      SamplerSplit.ofTokens? sharedName (tokenizeIn sharedName ⟨22, 45⟩) = none ∧
      (⟨22, 45⟩ : Span).textIn sharedName = " struct S { vec2 tex; }".toList ∧
      separateSamplers sharedName
        = "uniform texture2D tex; uniform sampler glxes_sampler_tex; ".toList
          ++ "struct S { vec2 sampler2D(tex, glxes_sampler_tex); };".toList ∧
      ¬ (⟨22, 45⟩ : Span).textIn sharedName <:+: separateSamplers sharedName := by
  unfold sharedName
  repeat rw [toList_literal rfl]
  decide +kernel

end Layout
end GlBridge
