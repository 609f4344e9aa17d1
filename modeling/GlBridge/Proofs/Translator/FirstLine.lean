import GlBridge.Translator
import GlBridge.Proofs.Glsl.Respelling
import GlBridge.Proofs.Layout.Slicing
import GlBridge.Proofs.Text.Affix

/-!
# The first line of what is compiled

What is compiled is under the reference directive.  The directive is put on the first line before
samplers are separated and layouts assigned, so it is part of the text that these two passes edit.

**Declarations.**  Both passes edit declarations.  No token of a declaration stands on a first line
that is a directive (`lt_start_of_mem_globalDeclarations`), so the edits leave that line alone
(`exists_applyFrom`).

**Uses.**  Separating samplers also combines a sampler wherever its name is used, and to find the
uses it reads nothing but identifiers.  The word `version` of the directive is one.  So the first
line is the directive exactly if no sampler of that name is separated, and otherwise it is no
version directive (`firstLine_prepare`).
-/

namespace GlBridge

open Text

namespace Glsl

/-! ## A first line that is a directive -/

/-- A line that is a preprocessor line as a whole, wherever it is put. -/
structure DirectiveLine (line : Text) : Prop where
  hash : line.head? = some '#'
  lineFeed : '\n' ∉ line
  escape : '\\' ∉ line

namespace DirectiveLine

variable {line body : Text}

/-- Such a line is a piece by itself. -/
lemma scan_eq (h : DirectiveLine line) (body : Text) : Piece.scan (line ++ '\n' :: body)
    = ⟨.directive, line⟩ :: ⟨.lineFeed, ['\n']⟩ :: Piece.scanFrom true body := by
  obtain ⟨tail, rfl⟩ := List.head?_eq_some_iff.1 h.hash
  have hlength : ∀ tail : Text, '\n' ∉ tail → '\\' ∉ tail →
      Piece.directiveLength (tail ++ '\n' :: body) = tail.length := by
    intro tail hfeed hescape
    induction tail with
    | nil => rfl
    | cons c tail ih =>
        rw [List.mem_cons, not_or] at hfeed hescape
        rw [List.cons_append, Piece.directiveLength_cons (Ne.symm hfeed.1)
          fun hc => hescape.1 hc.1.symm, ih hfeed.2 hescape.2, List.length_cons, Nat.add_comm]
  have hlead : Piece.lead true '#' (tail ++ '\n' :: body) = (.directive, tail.length) := by
    rw [← hlength tail (List.not_mem_of_not_mem_cons h.lineFeed)
      (List.not_mem_of_not_mem_cons h.escape)]
    rfl
  rw [Piece.scan, List.cons_append, Piece.scanFrom, hlead]
  simp only [List.take_left, List.drop_left]
  rw [Piece.scanFrom]
  rfl

end DirectiveLine

namespace Reading

/-- No statement starts before the current one. -/
lemma le_start_of_mem_statements {pieces : List Piece} {reading : Reading} {bound position : ℕ}
    (hbound : bound + reading.current.length ≤ position) :
    ∀ statement ∈ reading.statements position pieces, bound ≤ statement.start := by
  induction pieces generalizing reading position with
  | nil => exact fun _ h => absurd h List.not_mem_nil
  | cons piece pieces ih =>
      have hstep : bound + (reading.step piece).current.length ≤ position + piece.text.length := by
        rw [step]
        split_ifs
        · rw [fresh]
          dsimp only
          split_ifs
          · rw [List.length_tail]
            omega
          · exact Nat.le_add_right_of_le (by rw [List.length_nil]; omega)
        · rw [keep, List.length_append]
          omega
      intro statement hstatement
      rw [statements] at hstatement
      split_ifs at hstatement
      · rcases List.mem_cons.1 hstatement with rfl | hrest
        · exact Nat.le_sub_of_add_le hbound
        · exact ih hstep statement hrest
      · exact ih hstep statement hstatement

end Reading

/-- No token starts with a line feed. -/
lemma head?_ne_lineFeed_of_mem_tokensFrom {lineStart : Bool} {pieces : List Piece} {rest : Text}
    (h : Piece.Reads lineStart pieces rest) (position : ℕ) :
    ∀ token ∈ tokensFrom position pieces, token.text.head? ≠ some '\n' := by
  induction pieces generalizing lineStart position with
  | nil => exact fun _ htoken => absurd htoken List.not_mem_nil
  | cons piece pieces ih =>
      obtain ⟨hfits, hreads⟩ := h
      by_cases hkind : piece.kind = .token
      · obtain ⟨kind, text⟩ := piece
        obtain rfl : kind = .token := hkind
        obtain ⟨c, tail, rfl, hlead⟩ := hfits
        obtain ⟨hblank, -⟩ := Piece.fits_token_iff.1 ⟨c, tail, rfl, hlead⟩
        refine List.forall_mem_cons.2 ⟨?_, ih hreads _⟩
        rintro hfeed
        obtain rfl : c = '\n' := Option.some.inj hfeed
        exact absurd hblank (by decide)
      · rw [tokensFrom_cons_other hkind]
        exact ih hreads _

namespace DirectiveLine

variable {line body : Text}

/-- **No token of a declaration stands on a directive's line.** -/
theorem lt_start_of_mem_globalDeclarations (h : DirectiveLine line) {tokens : List Token}
    (htokens : tokens ∈ globalDeclarations (line ++ '\n' :: body)) :
    ∀ token ∈ tokens, line.length < token.start := by
  obtain ⟨hmem, -⟩ := List.mem_filter.1 htokens
  rw [globalStatements_eq, List.map_map] at hmem
  obtain ⟨statement, hstatement, rfl⟩ := List.mem_map.1 hmem
  have hstart : line.length ≤ statement.start := by
    have hdirects : Reading.Directs {} ⟨.directive, line⟩ := by
      obtain ⟨tail, rfl⟩ := List.head?_eq_some_iff.1 h.hash
      exact ⟨rfl, rfl, rfl⟩
    have hresets : Reading.Resets {} ⟨.directive, line⟩ := Or.inr (Or.inr hdirects)
    have hstep : Reading.step {} ⟨.directive, line⟩ = {} := by
      rw [Reading.step, if_pos hresets]
      rfl
    have hends : ¬ Reading.Ends {} ⟨.directive, line⟩ := fun hends =>
      absurd hends.1.1 (by simp)
    rw [statementsOf, h.scan_eq, Reading.statements, if_neg hends, hstep] at hstatement
    exact Reading.le_start_of_mem_statements (Nat.le_of_eq (Nat.add_comm _ _)) statement hstatement
  intro token htoken
  rw [Function.comp_apply, tokenizeIn_statement hstatement] at htoken
  have hplaced : Placed statement.start _ statement.tokens :=
    tokensFrom_placed (Piece.ne_nil_of_mem_scanFrom true statement.text)
  refine Nat.lt_of_le_of_ne (hstart.trans (hplaced.within token htoken).1) fun heq => ?_
  -- at the end of the line stands the line feed, and no token starts with one
  have htext : (line ++ '\n' :: body).slice token.start token.stop = token.text := by
    refine tokenizeIn_text _ statement.span token ?_
    rwa [tokenizeIn_statement hstatement]
  refine head?_ne_lineFeed_of_mem_tokensFrom (Piece.reads_scanFrom true statement.text)
    statement.start token htoken ?_
  have hlt := (hplaced.within token htoken).2.1
  rw [← htext, slice, ← heq, List.head?_drop, List.getElem?_take, if_pos (heq ▸ hlt)]
  rw [List.getElem?_append_right (Nat.le_refl _), Nat.sub_self]
  rfl

end DirectiveLine

/-! ## Sampler types -/

/-- A combined sampler type is a word. -/
lemma all_isWordChar_of_splitSamplerType? {combined : Text} {types : Text × Text}
    (h : splitSamplerType? combined = some types) : combined.all isWordChar = true := by
  obtain ⟨⟨kind, rest⟩, hkind, hrest⟩ := Option.bind_eq_some_iff.1 h
  obtain ⟨lead, hlead, hdrop⟩ := List.exists_of_findSome?_eq_some hkind
  obtain ⟨dropped, hdropped, heq⟩ := Option.map_eq_some_iff.1 hdrop
  obtain ⟨rfl, rfl⟩ := Prod.mk.inj heq
  have hleads : ∀ lead ∈ [[], ['i'], ['u']], (lead ++ "sampler".toList).all isWordChar = true := by
    decide
  have hdimensions : ∀ dimensions ∈ textureDimensions, dimensions.all isWordChar = true := by decide
  rw [eq_append_of_dropPrefix? hdropped, List.all_append, hleads _ hlead, Bool.true_and]
  cases hshadow : dropSuffix? "Shadow".toList dropped with
  | none =>
      simp only [hshadow, Option.getD_none, Option.ite_none_left_eq_some, not_not] at hrest
      exact hdimensions _ hrest.1
  | some dimensions =>
      simp only [hshadow, Option.getD_some, Option.ite_none_left_eq_some, not_not] at hrest
      rw [eq_append_of_dropSuffix? hshadow, List.all_append, hdimensions _ hrest.1]
      decide

end Glsl

open Glsl

/-! ## Edits behind the first line -/

namespace Edit

variable {line : Text} {edits : List Edit}

/-- Edits behind a line leave it to what passes over the text between them. -/
lemma exists_applyFrom (body : Text) (between : Text → Text)
    (hedits : ∀ edit ∈ edits, line.length < edit.span.start) :
    ∃ middle rest, applyFrom between (line ++ '\n' :: body) 0 edits
      = between (line ++ '\n' :: middle) ++ rest := by
  cases edits with
  | nil => exact ⟨body, [], (List.append_nil _).symm⟩
  | cons edit edits =>
      obtain ⟨more, hmore⟩ := Nat.exists_eq_add_of_lt (hedits edit List.mem_cons_self)
      refine ⟨body.take more,
        edit.text ++ applyFrom between (line ++ '\n' :: body) edit.span.stop edits, ?_⟩
      rw [applyFrom, List.append_assoc, slice, List.drop_zero, hmore, Nat.add_assoc,
        List.take_length_add_append, List.take_succ_cons]

end Edit

namespace Layout

variable {line body : Text}

/-- The names of the samplers that are separated. -/
def separatedNames (source : Text) : List Text :=
  (samplerSplits source).flatMap SamplerSplit.names

lemma splitSamplerType?_of_ofTokens? {source : Text} {tokens : List Token} {split : SamplerSplit}
    (h : SamplerSplit.ofTokens? source tokens = some split) :
    ∃ types, splitSamplerType? split.combined = some types := by
  unfold SamplerSplit.ofTokens? at h
  split at h
  · split_ifs at h
    dsimp only at h
    split at h
    · exact absurd h (by simp)
    · next htype =>
        simp only [Option.ite_none_left_eq_some, Option.some.injEq] at h
        rw [← h.2]
        exact ⟨_, htype⟩
  · exact absurd h (by simp)

/-- The types of the separated samplers are words. -/
lemma all_isWordChar_of_mem_samplerTypes {source name combined : Text}
    (h : (name, combined) ∈ samplerTypes (samplerSplits source)) :
    combined.all isWordChar = true := by
  obtain ⟨split, hsplit, hname⟩ := List.mem_flatMap.1 (List.mem_reverse.1 h)
  obtain ⟨_, _, heq⟩ := List.mem_map.1 hname
  obtain ⟨rfl, rfl⟩ := Prod.mk.inj heq
  obtain ⟨tokens, _, hof⟩ := List.mem_filterMap.1 hsplit
  obtain ⟨types, htypes⟩ := splitSamplerType?_of_ofTokens? hof
  exact all_isWordChar_of_splitSamplerType? htypes

lemma lookup_samplerTypes_eq_none_iff {source name : Text} :
    (samplerTypes (samplerSplits source)).lookup name = none ↔ name ∉ separatedNames source := by
  rw [List.lookup_eq_none_iff, samplerTypes, separatedNames, List.mem_flatMap]
  constructor
  · rintro hnone ⟨split, hsplit, hname⟩
    have hmem : (name, split.combined) ∈ ((samplerSplits source).flatMap fun split =>
        split.names.map fun name => (name, split.combined)).reverse :=
      List.mem_reverse.2 (List.mem_flatMap.2 ⟨split, hsplit, List.mem_map_of_mem hname⟩)
    exact absurd (hnone _ hmem) (by simp)
  · intro hnone entry hentry
    obtain ⟨split, hsplit, hmem⟩ := List.mem_flatMap.1 (List.mem_reverse.1 hentry)
    obtain ⟨other, hother, rfl⟩ := List.mem_map.1 hmem
    rw [bne_iff_ne]
    rintro rfl
    exact hnone ⟨split, hsplit, hother⟩

lemma combineUses_nil (text : Text) : combineUses [] text = text := by
  rw [combineUses, renameUses_eq]
  refine renameEach_of_none (fun _ _ afterDot => ?_) () text
  cases afterDot <;> rfl

/-- Separating samplers leaves a directive's line to the pass that combines the uses. -/
lemma exists_separateSamplers (h : DirectiveLine line) (body : Text) :
    ∃ middle rest, separateSamplers (line ++ '\n' :: body)
      = combineUses (samplerTypes (samplerSplits (line ++ '\n' :: body))) (line ++ '\n' :: middle)
        ++ rest := by
  have hedits : ∀ edit ∈ (samplerSplits (line ++ '\n' :: body)).map SamplerSplit.edit,
      line.length < edit.span.start := by
    refine List.forall_mem_map.2 fun split hsplit => ?_
    obtain ⟨tokens, htokens, hof⟩ := List.mem_filterMap.1 hsplit
    obtain ⟨first, _, hfirst, _, hspan⟩ := span_of_ofTokens? hof
    rw [hspan]
    exact h.lt_start_of_mem_globalDeclarations htokens first (List.mem_of_head? hfirst)
  rw [separateSamplers, ← samplerSplits]
  cases hcases : samplerSplits (line ++ '\n' :: body) with
  | nil =>
      refine ⟨body, [], ?_⟩
      rw [samplerTypes, List.flatMap_nil, List.reverse_nil, combineUses_nil, List.append_nil]
  | cons split splits =>
      rw [hcases] at hedits
      exact Edit.exists_applyFrom body _ hedits

/-- Every edit is behind the bound that the declarations are behind. -/
lemma lt_start_of_layOutAll {stage : Stage} {source : Text} {bound : ℕ} :
    ∀ {declarations : List InterfaceDeclaration} {progress after : Progress},
      (∀ d ∈ declarations, d.Seated source ∧ bound < d.span.start) →
      (∀ edit ∈ progress.edits, bound < edit.span.start) →
      declarations.foldlM (Progress.layOut stage source) progress = .ok after →
        ∀ edit ∈ after.edits, bound < edit.span.start
  | [], progress, after, _, hedits, h => by
      rw [List.foldlM_nil, pure_eq_ok] at h
      rwa [← h]
  | d :: rest, progress, after, hall, hedits, h => by
      rw [List.foldlM_cons, bind_eq_ok] at h
      obtain ⟨middle, hd, hrest⟩ := h
      obtain ⟨⟨hseated, hlt⟩, hall⟩ := List.forall_mem_cons.1 hall
      refine lt_start_of_layOutAll hall (fun edit hedit => ?_) hrest
      rcases Progress.layOut_edits hd with ⟨_, hsame⟩ | ⟨_, new, hnew, heditOf⟩
      · exact hedits edit (hsame ▸ hedit)
      · rw [hnew] at hedit
        rcases List.mem_append.1 hedit with hedit | hedit
        · exact hedits edit hedit
        · rw [List.mem_singleton.1 hedit]
          exact hlt.trans_le (hseated.editOf_within heditOf).1

/-- Assigning layouts leaves a directive's line alone. -/
lemma exists_assignLayouts (h : DirectiveLine line) {stage : Stage} {varyings : VaryingLocations}
    {out : LaidOut} (hout : assignLayouts stage (line ++ '\n' :: body) varyings = .ok out) :
    ∃ rest, out.text = line ++ '\n' :: rest := by
  simp only [assignLayouts, bind_eq_ok, pure_eq_ok] at hout
  obtain ⟨usage, _, progress, hfold, rfl⟩ := hout
  have hall : ∀ d ∈ InterfaceDeclaration.all (line ++ '\n' :: body),
      d.Seated (line ++ '\n' :: body) ∧ line.length < d.span.start := by
    intro d hd
    have hseated := InterfaceDeclaration.seated_of_mem_all hd
    obtain ⟨tokens, htokens, hof⟩ := List.mem_filterMap.1 hd
    obtain ⟨declaration, _, rfl⟩ := Option.map_eq_some_iff.1 hof
    obtain ⟨first, _, hfirst, _, hspan⟩ := hseated.exists_ends
    rw [hspan]
    exact ⟨hseated,
      h.lt_start_of_mem_globalDeclarations htokens first (List.mem_of_head? hfirst)⟩
  have hedits := lt_start_of_layOutAll hall (by simp) hfold
  obtain ⟨middle, rest, htext⟩ := Edit.exists_applyFrom body id hedits
  refine ⟨middle ++ rest, ?_⟩
  rw [Edit.applyAll, htext, id, List.append_assoc, List.cons_append]

end Layout

namespace Translator

open Layout

/-! ## The directive -/

/-- The characters before the first line feed. -/
def firstLine (text : Text) : Text := text.takeWhile (· ≠ '\n')

/-- The reference directive with its word `version` taken for a sampler of the given type. -/
def combinedDirective (combined : Text) : Text :=
  '#' :: combined ++ "(version, glxes_sampler_version) 460".toList

/-- The reference directive after samplers of the given types are combined in it. -/
def directiveUnder (types : List (Text × Text)) : Text :=
  (types.lookup "version".toList).elim referenceDirective combinedDirective

/-- The reference directive in lexemes. -/
lemma scan_directive (rest : Text) : Lexeme.scan (referenceDirective ++ '\n' :: rest)
    = [.other '#', .word "version".toList false, .other ' ', .number "460".toList, .other '\n']
      ++ Lexeme.scan rest := by
  have hblank : ∀ d, (' ' :: ('4' :: "60".toList ++ '\n' :: rest)).head? = some d →
      isWordChar d = false := by
    rintro d ⟨rfl⟩
    decide
  have hfeed : ∀ d, ('\n' :: rest).head? = some d → isNumberChar d = false := by
    rintro d ⟨rfl⟩
    decide
  show Lexeme.scanFrom false
    ('#' :: ("version".toList ++ ' ' :: ('4' :: "60".toList ++ '\n' :: rest))) = _
  rw [Lexeme.scanFrom_other _ (by decide) (by decide),
    Lexeme.scanFrom_identifier_append _ (by decide) hblank,
    Lexeme.scanFrom_other _ (by decide) (by decide),
    Lexeme.scanFrom_number_append _ (by decide) (by decide) (by decide) hfeed,
    Lexeme.scanFrom_other _ (by decide) (by decide)]
  rfl

/-- Renaming sees one identifier in the directive. -/
lemma renameUses_directive (rename : Text → Bool → Option Text) (rest : Text) :
    renameUses rename (referenceDirective ++ '\n' :: rest)
      = ('#' :: (rename "version".toList false).getD "version".toList ++ " 460".toList)
        ++ '\n' :: renameUses rename rest := by
  have hnumber : " 460".toList = ' ' :: "460".toList := by decide
  rw [renameUses, scan_directive, List.flatMap_append, hnumber]
  simp only [List.flatMap_cons, List.flatMap_nil, List.append_assoc, List.cons_append,
    List.nil_append, Lexeme.text]
  rfl

lemma combineUses_directive (types : List (Text × Text)) (rest : Text) :
    combineUses types (referenceDirective ++ '\n' :: rest)
      = directiveUnder types ++ '\n' :: combineUses types rest := by
  rw [combineUses, renameUses_directive, directiveUnder]
  congr 1
  cases types.lookup "version".toList with
  | none => rfl
  | some combined =>
      have hcall : "(version, glxes_sampler_version) 460".toList = "(".toList ++ ("version".toList
          ++ (", ".toList ++ (samplerPrefix ++ ("version".toList ++ (")".toList
            ++ " 460".toList))))) := by
        decide
      simp only [Option.elim_some, combinedDirective, hcall, Bool.false_eq_true, if_false,
        Option.map_some, Option.getD_some, List.append_assoc, List.cons_append]

lemma directiveLine_combinedDirective {combined : Text} (h : combined.all isWordChar = true) :
    DirectiveLine (combinedDirective combined) := by
  have hcall : '\n' ∉ "(version, glxes_sampler_version) 460".toList ∧
      '\\' ∉ "(version, glxes_sampler_version) 460".toList := by
    decide +kernel
  rw [List.all_eq_true] at h
  rw [combinedDirective, List.cons_append]
  refine ⟨List.head?_cons, ?_, ?_⟩ <;> rw [List.mem_cons, List.mem_append] <;>
    rintro (hhash | hword | hmem)
  · exact absurd hhash (by decide)
  · exact absurd (h _ hword) (by decide)
  · exact hcall.1 hmem
  · exact absurd hhash (by decide)
  · exact absurd (h _ hword) (by decide)
  · exact hcall.2 hmem

lemma combinedDirective_ne (combined : Text) : combinedDirective combined ≠ referenceDirective := by
  intro h
  have hmem : '(' ∈ combinedDirective combined := List.mem_append_right _ (by decide)
  rw [h] at hmem
  exact absurd hmem (by decide)

lemma directiveLine_directiveUnder (source : Text) :
    DirectiveLine (directiveUnder (samplerTypes (samplerSplits source))) := by
  rw [directiveUnder]
  cases hlookup : (samplerTypes (samplerSplits source)).lookup "version".toList with
  | none => exact ⟨rfl, by decide, by decide⟩
  | some combined =>
      obtain ⟨before, after, hcut, _⟩ := List.lookup_eq_some_iff.1 hlookup
      have hmem : ("version".toList, combined) ∈ samplerTypes (samplerSplits source) := by
        rw [hcut]
        exact List.mem_append_right before List.mem_cons_self
      exact directiveLine_combinedDirective (all_isWordChar_of_mem_samplerTypes hmem)

/-- The passes leave the directive as combining samplers leaves it. -/
lemma exists_prepare {stage : Stage} {source : Text} {varyings : VaryingLocations}
    {out : LaidOut} (h : prepare stage source varyings = .ok out) :
    ∃ rest, out.text = directiveUnder
      (samplerTypes (samplerSplits (modernize stage source referenceDirective))) ++ '\n' :: rest := by
  obtain ⟨body, hbody⟩ : ∃ body,
      modernize stage source referenceDirective = referenceDirective ++ '\n' :: body := ⟨_, rfl⟩
  have hreference : DirectiveLine referenceDirective := ⟨rfl, by decide, by decide⟩
  obtain ⟨middle, rest, hseparate⟩ := exists_separateSamplers hreference body
  rw [prepare, hbody, hseparate, combineUses_directive, List.append_assoc, List.cons_append] at h
  rw [hbody]
  exact exists_assignLayouts (directiveLine_directiveUnder _) h

/-- **What is compiled is under the reference directive exactly if no sampler called `version` is
separated.**  Otherwise the sampler is combined in the directive too. -/
theorem firstLine_prepare {stage : Stage} {source : Text} {varyings : VaryingLocations}
    {out : LaidOut} (h : prepare stage source varyings = .ok out) :
    (firstLine out.text = referenceDirective ↔
      "version".toList ∉ separatedNames (modernize stage source referenceDirective)) ∧
    ("version".toList ∈ separatedNames (modernize stage source referenceDirective) →
      ∃ combined, firstLine out.text = combinedDirective combined) := by
  set types := samplerTypes (samplerSplits (modernize stage source referenceDirective)) with htypes
  obtain ⟨rest, htext⟩ := exists_prepare h
  have hfirst : firstLine out.text = directiveUnder types := by
    have hfeed : (directiveUnder types).all (· ≠ '\n') = true := by
      rw [List.all_eq_true]
      rintro c hc
      rw [decide_eq_true_iff]
      rintro rfl
      exact (directiveLine_directiveUnder _).lineFeed hc
    rw [firstLine, htext, takeWhile_append_of_all hfeed (by rintro d ⟨rfl⟩; decide)]
  rw [hfirst, ← lookup_samplerTypes_eq_none_iff, ← htypes, directiveUnder]
  cases hlookup : types.lookup "version".toList with
  | none =>
      have hnone := lookup_samplerTypes_eq_none_iff.1 hlookup
      exact ⟨iff_of_true rfl rfl, fun hmem => absurd hmem hnone⟩
  | some combined =>
      exact ⟨iff_of_false (combinedDirective_ne combined) (Option.some_ne_none _),
        fun _ => ⟨combined, rfl⟩⟩

/-- Samplers by several names, one of them after a member of that name. -/
def severalSamplers : Text :=
  "#version 120\nvarying vec2 uv; uniform sampler2D versions, tex;
void main() { gl_FragColor = texture2D(tex, s.version); }".toList

theorem firstLine_prepare_several :
    ∃ out, prepare .fragment severalSamplers {} = .ok out ∧
      separatedNames (modernize .fragment severalSamplers referenceDirective)
        = ["versions".toList, "tex".toList] ∧
      firstLine out.text = referenceDirective := by
  have hprepared : (prepare .fragment severalSamplers {}).map (fun _ => ()) = .ok () := by
    unfold severalSamplers
    rw [toList_literal rfl]
    decide +kernel
  obtain ⟨out, hout, -⟩ := map_eq_ok.1 hprepared
  have hnames : separatedNames (modernize .fragment severalSamplers referenceDirective)
      = ["versions".toList, "tex".toList] := by
    unfold severalSamplers
    rw [toList_literal rfl]
    decide +kernel
  refine ⟨out, hout, hnames, (firstLine_prepare hout).1.2 ?_⟩
  rw [hnames]
  decide

/-- A sampler called `version`. -/
def versionSampler : Text :=
  "uniform sampler2D version;out vec4 c;\nvoid main() { c = texture(version, vec2(0.0)); }\n".toList

/-- **A source can be compiled under no version directive at all.** -/
theorem prepare_unversioned :
    ∃ out, prepare .fragment versionSampler {} = .ok out ∧
      firstLine out.text = "#sampler2D(version, glxes_sampler_version) 460".toList ∧
      firstLine out.text ≠ referenceDirective := by
  have hprepared : (prepare .fragment versionSampler {}).map (fun out => firstLine out.text)
      = .ok "#sampler2D(version, glxes_sampler_version) 460".toList := by
    unfold versionSampler
    repeat rw [toList_literal rfl]
    decide +kernel
  obtain ⟨out, hout, hfirst⟩ := map_eq_ok.1 hprepared
  refine ⟨out, hout, hfirst, ?_⟩
  rw [hfirst]
  decide

end Translator

end GlBridge
