import GlBridge.Proofs.Layout.Directives
import GlBridge.Proofs.Layout.Marking

/-!
# Completed statements

After an edit, a statement is one statement with an argument more, or several statements, or one
without any tokens.  Whichever it is, its pieces are read from the new text in the same
surroundings, and nothing that is read from them wants anything.

* `Leaves` — the texts of the statements that pieces are read as;
* `Unwanting`, `Yields` — texts of statements, and pieces whose statements all want nothing;
* `Renders` — pieces with the items of their statements, and what these say of locations;
* `Complete` — the pieces of a declaration that wants nothing, wherever it is put;
* `joined` — complete declarations with semicolons between them;
* `Settles` — what the new pieces of a statement have to be like, and `exists_settles`: what lays out
  a declaration makes such pieces.
-/

namespace GlBridge.Layout

open Text Glsl Piece

variable {stage : Stage}

/-! ## Texts that want nothing -/

/-- As a statement, the text wants nothing. -/
def Unwanting (stage : Stage) (text : Text) : Prop :=
  ∀ d, InterfaceDeclaration.ofTokens? (tokenize text) = some d → ¬ d.Wants stage

/-- The tokens of pieces are those of their text. -/
lemma tokenize_textOf {pieces : List Piece} (h : Reads true pieces []) :
    tokenize (textOf pieces) = tokensFrom 0 pieces := by
  rw [tokenize, scan_textOf h]

/-- It only matters which words are read. -/
lemma unwanting_of_words {pieces : List Piece} (h : Reads true pieces [])
    (hwords : ∀ tokens d, tokens.map Token.text = words pieces →
      InterfaceDeclaration.ofTokens? tokens = some d → ¬ d.Wants stage) :
    Unwanting stage (textOf pieces) := by
  intro d hd
  rw [tokenize_textOf h] at hd
  exact hwords _ d map_text_tokensFrom hd

/-- A text without tokens wants nothing and has no items. -/
lemma unwanting_of_silent {text : Text} (h : tokenize text = []) : Unwanting stage text := by
  intro d hd
  rw [h, InterfaceDeclaration.ofTokens?_nil] at hd
  exact absurd hd (by simp)

lemma itemsOf_of_silent {text : Text} (h : tokenize text = []) : itemsOf text = [] := by
  rw [itemsOf, h, InterfaceDeclaration.ofTokens?_nil, Option.elim_none]

/-! ## The texts of statements -/

/-- The texts of the statements that end among pieces, and of what is left to the semicolon after
them. -/
structure Leaves (reading : Reading) (pieces : List Piece) (texts : List Text) : Prop where
  depth : (reading.run pieces).depth = 0
  texts : ∀ position, (reading.statements position pieces).map Statement.text
    ++ [(reading.run pieces).current] = texts

/-- The statements that end among pieces want nothing, and neither does what is left to the
semicolon after them. -/
structure Yields (stage : Stage) (reading : Reading) (pieces : List Piece) : Prop where
  statements : ∀ position, ∀ statement ∈ reading.statements position pieces,
    Unwanting stage statement.text
  depth : (reading.run pieces).depth = 0
  current : Unwanting stage (reading.run pieces).current

/-- The items of the statements that end among pieces, and of what is left to the semicolon after
them, and what all of these say of locations. -/
structure Renders (reading : Reading) (pieces : List Piece) (items : List Item) (marks : List Mark) :
    Prop where
  items : ∀ position, ((reading.statements position pieces).map Statement.text
    ++ [(reading.run pieces).current]).flatMap itemsOf = items
  marks : ∀ position, ((reading.statements position pieces).map Statement.text
    ++ [(reading.run pieces).current]).flatMap marksOf = marks

section Leaves

variable {reading : Reading} {pieces others : List Piece} {stop : Piece} {texts : List Text}

/-- If no text wants anything, neither do the statements. -/
lemma Leaves.yields (h : Leaves reading pieces texts)
    (hunwanting : ∀ text ∈ texts, Unwanting stage text) : Yields stage reading pieces where
  statements position statement hstatement := by
    refine hunwanting _ (h.texts position ▸ List.mem_append_left _ ?_)
    exact List.mem_map_of_mem hstatement
  depth := h.depth
  current := hunwanting _ (h.texts 0 ▸ List.mem_append_right _ List.mem_cons_self)

/-- The items and locations of the statements are read off their texts. -/
lemma Leaves.renders (h : Leaves reading pieces texts) :
    Renders reading pieces (texts.flatMap itemsOf) (texts.flatMap marksOf) where
  items position := by rw [h.texts position]
  marks position := by rw [h.texts position]

/-- A statement that goes on to the end is the only one. -/
lemma leaves_of_keeps (h : reading.Keeps pieces) (hdepth : (reading.run pieces).depth = 0) :
    Leaves reading pieces [reading.current ++ textOf pieces] :=
  ⟨hdepth, fun position => by rw [h.statements, h.current]; rfl⟩

/-- Pieces in which no statement ends come before others. -/
lemma Leaves.after (hnone : ∀ position, reading.statements position pieces = [])
    (hothers : Leaves (reading.run pieces) others texts) :
    Leaves reading (pieces ++ others) texts := by
  refine ⟨by rw [Reading.run_append]; exact hothers.depth, fun position => ?_⟩
  rw [Reading.statements_append, hnone, List.nil_append, Reading.run_append]
  exact hothers.texts _

/-- A statement ends with its semicolon, and others follow. -/
lemma Leaves.after_semicolon (h : reading.Keeps pieces) (hends : (reading.run pieces).Ends stop)
    (hothers : Leaves (Reading.fresh stop) others texts) :
    Leaves reading (pieces ++ stop :: others) ((reading.current ++ textOf pieces) :: texts) := by
  have hrun : reading.run (pieces ++ stop :: others) = (Reading.fresh stop).run others := by
    have hstep : (reading.run pieces).step stop = Reading.fresh stop := if_pos (Or.inl hends)
    rw [Reading.run_append, Reading.run_cons, hstep]
  refine ⟨by rw [hrun]; exact hothers.depth, fun position => ?_⟩
  rw [h.statements_ends hends, hrun, List.map_cons, List.cons_append]
  exact congrArg _ (hothers.texts _)

end Leaves

/-! ## Nothing but blanks, comments and directives -/

/-- Pieces without tokens make statements without tokens. -/
lemma exists_leaves_of_ne_token {pieces : List Piece} {rest : Text} :
    ∀ read : List Piece, (∀ piece ∈ read ++ pieces, piece.kind ≠ .token) →
      Reads true (read ++ pieces) rest →
        ∃ texts, Leaves ⟨0, false, textOf read⟩ pieces texts ∧ ∀ text ∈ texts, tokenize text = [] := by
  induction pieces with
  | nil =>
      intro read hkind hreads
      rw [List.append_nil] at hkind hreads
      refine ⟨_, leaves_of_keeps trivial rfl, List.forall_mem_singleton.2 ?_⟩
      rw [textOf_nil, List.append_nil, tokenize_textOf hreads.nil, tokensFrom_eq_nil_iff]
      exact words_eq_nil_iff.2 hkind
  | cons piece pieces ih =>
      intro read hkind hreads
      have hcut : read ++ piece :: pieces = (read ++ [piece]) ++ pieces := by simp
      rw [hcut] at hkind hreads
      have hread : ∀ other ∈ read ++ [piece], other.kind ≠ .token := fun other hother =>
        hkind other (List.mem_append_left _ hother)
      have hpiece : piece.kind ≠ .token := hread piece (by simp)
      have hends : ¬ Reading.Ends ⟨0, false, textOf read⟩ piece := fun h => hpiece h.1.1
      have hnone : ∀ position, Reading.statements ⟨0, false, textOf read⟩ position [piece] = [] :=
        fun position => by rw [Reading.statements, if_neg hends, Reading.statements]
      suffices hnext : ∃ texts, Leaves (Reading.step ⟨0, false, textOf read⟩ piece) pieces texts ∧
          ∀ text ∈ texts, tokenize text = [] by
        obtain ⟨texts, hleaves, hsilent⟩ := hnext
        exact ⟨texts, Leaves.after hnone hleaves, hsilent⟩
      by_cases hdirects : Reading.Directs ⟨0, false, textOf read⟩ piece
      · -- a directive starts the statement anew
        have hresets : Reading.Resets ⟨0, false, textOf read⟩ piece := Or.inr (Or.inr hdirects)
        have hstep : Reading.step ⟨0, false, textOf read⟩ piece = ⟨0, false, textOf []⟩ := by
          rw [Reading.step, if_pos hresets, Reading.fresh, if_neg hpiece]
          rfl
        rw [hstep]
        refine ih [] (fun other hother => hkind other (List.mem_append_right _ hother)) ?_
        rw [reads_append, lineStartAfterAll_true hread] at hreads
        exact hreads.2
      · have hstep := (Reading.step_quiet (Reading.quiet_of_ne_token hpiece) hdirects).2
        have htext : textOf read ++ piece.text = textOf (read ++ [piece]) := by simp
        rw [hstep, htext]
        exact ih (read ++ [piece]) hkind hreads

/-! ## Complete declarations -/

/-- The text may come after the pieces: it starts with a character that ends their last token. -/
def MayPrecede (pieces : List Piece) (text : Text) : Prop :=
  ∀ c, text.head? = some c → Ends (textOf pieces) c

/-- A semicolon ends any token. -/
lemma mayPrecede_semicolon (pieces : List Piece) (text : Text) :
    MayPrecede pieces (';' :: text) := by
  intro c hc
  obtain rfl : ';' = c := Option.some.inj hc
  exact ⟨by decide, by decide, fun _ => by decide⟩

/-- The pieces of a declaration that wants nothing, and that is read wherever it is put. -/
structure Complete (stage : Stage) (pieces : List Piece) : Prop where
  first : StartsWithWord pieces
  last : ∃ word, pieces.getLast? = some (token word)
  reads : ∀ start rest, MayPrecede pieces rest → Reads start pieces rest
  quiet : ∀ piece ∈ pieces, Reading.Quiet piece
  settled : ∀ tokens d, tokens.map Token.text = words pieces →
    InterfaceDeclaration.ofTokens? tokens = some d → ¬ d.Wants stage

/-- Declarations with semicolons between them. -/
def joined : List (List Piece) → List Piece
  | [] => []
  | [pieces] => pieces
  | pieces :: next :: others =>
    pieces ++ token ";".toList :: space :: joined (next :: others)

/-- Declarations are joined as the edit writes them. -/
lemma textOf_joined (declarations : List (List Piece)) :
    textOf (joined declarations) = join "; ".toList (declarations.map textOf) := by
  induction declarations with
  | nil => rfl
  | cons pieces others ih =>
      cases others with
      | nil => rfl
      | cons next others =>
          have hsemicolon : "; ".toList = ";".toList ++ " ".toList := by decide
          rw [joined, textOf_append, textOf_cons, textOf_cons, ih]
          show _ = textOf pieces ++ "; ".toList ++ join "; ".toList ((next :: others).map textOf)
          generalize join "; ".toList ((next :: others).map textOf) = later
          rw [hsemicolon, List.append_assoc, List.append_assoc]
          rfl

/-- Semicolons and blanks are no preprocessor lines. -/
lemma directives_joined (declarations : List (List Piece)) :
    directives (joined declarations) = declarations.flatMap directives := by
  induction declarations with
  | nil => rfl
  | cons pieces others ih =>
      cases others with
      | nil => simp [joined]
      | cons next others =>
          rw [joined, directives_append, directives_token, directives_space, ih]
          rfl

section Complete

variable {lead tail : List Piece} {rest : Text}

/-- What may stand around a declaration: pieces before it that are read before anything, and pieces
after it, none of them a token. -/
structure Around (lead tail : List Piece) (rest : Text) : Prop where
  lead_kind : ∀ piece ∈ lead, piece.kind ≠ .token
  lead_reads : ∀ other, Reads true lead other
  lead_unhashed : Reading.Unhashed (textOf lead)
  tail_kind : ∀ piece ∈ tail, piece.kind ≠ .token
  tail_reads : Reads false tail rest

/-- A blank may stand before a declaration instead. -/
lemma around_space {tail : List Piece} {rest : Text} (h : Around lead tail rest) :
    Around [space] tail rest :=
  { h with
    lead_kind := by simp [space]
    lead_reads := fun _ => ⟨fits_space, trivial⟩
    lead_unhashed := by
      rw [Reading.Unhashed]
      decide }

/-- Nothing need stand after it. -/
lemma around_nil (h : Around lead tail rest) : Around lead [] [] :=
  { h with
    tail_kind := by simp
    tail_reads := trivial }

/-- What comes after the semicolon does not matter. -/
lemma Around.of_semicolon {more : Text} (h : Around lead tail (';' :: more)) (rest : Text) :
    Around lead tail (';' :: rest) :=
  { h with tail_reads := h.tail_reads.congr_head rfl }

/-- What comes after the last token starts with a character that ends tokens. -/
lemma Around.breaks {more : Text} (h : Around lead tail (';' :: more)) (rest : Text) :
    ∀ c, (textOf tail ++ ';' :: rest).head? = some c → Breaks c := by
  refine (h.of_semicolon rest).tail_reads.head_of_ne_token h.tail_kind fun c hc => ?_
  obtain rfl : ';' = c := Option.some.inj hc
  decide

/-- A complete declaration is read with what stands after it. -/
lemma Complete.reads_tail {pieces : List Piece} (h : Complete stage pieces)
    (haround : Around lead tail rest) (hprecede : MayPrecede pieces (textOf tail ++ rest))
    (start : Bool) : Reads start (pieces ++ tail) rest := by
  obtain ⟨word, hlast⟩ := h.last
  rw [reads_append, lineStartAfterAll_of_getLast? hlast rfl]
  exact ⟨h.reads _ _ hprecede, haround.tail_reads⟩

/-- A declaration as a statement, with nothing but blanks, comments and directives around it. -/
def Stands (pieces : List Piece) (text : Text) : Prop :=
  ∃ lead tail, (∀ piece ∈ lead, piece.kind ≠ .token) ∧ (∀ piece ∈ tail, piece.kind ≠ .token) ∧
    Reads true (lead ++ (pieces ++ tail)) [] ∧ text = textOf (lead ++ (pieces ++ tail))

/-- It is a statement with what stands around it. -/
lemma Complete.stands {pieces : List Piece} (h : Complete stage pieces)
    (haround : Around lead tail rest) (hprecede : MayPrecede pieces (textOf tail ++ rest)) :
    Stands pieces (textOf (lead ++ (pieces ++ tail))) := by
  have hreads : Reads true (lead ++ (pieces ++ tail)) rest := by
    rw [reads_append]
    exact ⟨haround.lead_reads _, h.reads_tail haround hprecede _⟩
  exact ⟨lead, tail, haround.lead_kind, haround.tail_kind, hreads.nil, rfl⟩

lemma Complete.unwanting {pieces : List Piece} {text : Text} (h : Complete stage pieces)
    (hstands : Stands pieces text) : Unwanting stage text := by
  obtain ⟨lead, tail, hlead, htail, hreads, rfl⟩ := hstands
  refine unwanting_of_words hreads fun tokens d htokens => h.settled tokens d ?_
  rw [htokens, words_append, words_append, words_eq_nil_iff.2 hlead, words_eq_nil_iff.2 htail,
    List.nil_append, List.append_nil]

/-- Outside all braces, a complete declaration goes on with its statement. -/
lemma Complete.keeps {pieces : List Piece} (h : Complete stage pieces)
    (haround : Around lead tail rest) :
    Reading.Keeps ⟨0, false, textOf lead⟩ (pieces ++ tail) ∧
      Reading.run ⟨0, false, textOf lead⟩ (pieces ++ tail)
        = ⟨0, false, textOf (lead ++ (pieces ++ tail))⟩ := by
  obtain ⟨word, more, rfl, hne, hword⟩ := h.first
  obtain ⟨c, letters, rfl⟩ := List.exists_cons_of_ne_nil hne
  have hc : isWordChar c = true := by
    rw [List.all_cons, Bool.and_eq_true] at hword
    exact hword.1
  have hstarted : Reading.Started (textOf lead ++ (c :: letters)) :=
    haround.lead_unhashed.started_append rfl (isBlank_of_isWordChar hc)
      (ne_hash_of_isWordChar hc)
  have hdirects : ¬ Reading.Directs ⟨0, false, textOf lead⟩ (token (c :: letters)) := fun hd => by
    simp [Reading.Directs, token] at hd
  obtain ⟨hresets, hstep⟩ := Reading.step_quiet (h.quiet _ List.mem_cons_self) hdirects
  have hquiet : ∀ piece ∈ more ++ tail, Reading.Quiet piece := by
    intro piece hpiece
    rcases List.mem_append.1 hpiece with hpiece | hpiece
    · exact h.quiet piece (List.mem_cons_of_mem _ hpiece)
    · exact Reading.quiet_of_ne_token (haround.tail_kind piece hpiece)
  have hkeeps := Reading.keeps_quiet hquiet (Or.inl hstarted)
  rw [List.cons_append, Reading.Keeps, Reading.run_cons, hstep]
  refine ⟨⟨hresets, hkeeps.1⟩, hkeeps.2.trans ?_⟩
  simp [token]

/-- The first declaration starts with a word, and so do all of them. -/
lemma startsWithWord_joined {declarations : List (List Piece)} (hne : declarations ≠ [])
    (hcomplete : ∀ pieces ∈ declarations, Complete stage pieces) :
    StartsWithWord (joined declarations) := by
  obtain ⟨pieces, others, rfl⟩ := List.exists_cons_of_ne_nil hne
  have hfirst := (hcomplete pieces List.mem_cons_self).first
  cases others with
  | nil => exact hfirst
  | cons next others => exact hfirst.append _

/-- **Complete declarations are statements**, one each. -/
theorem exists_leaves_joined {tail : List Piece} {rest : Text} :
    ∀ {declarations : List (List Piece)} {lead : List Piece}, declarations ≠ [] →
      (∀ pieces ∈ declarations, Complete stage pieces) → Around lead tail rest →
        (∀ pieces ∈ declarations, MayPrecede pieces (textOf tail ++ rest)) →
          ∃ texts, Leaves ⟨0, false, textOf lead⟩ (joined declarations ++ tail) texts ∧
            List.Forall₂ Stands declarations texts
  | [], _, hne, _, _, _ => absurd rfl hne
  | [pieces], lead, _, hcomplete, haround, hprecede => by
      have h := hcomplete pieces List.mem_cons_self
      obtain ⟨hkeeps, hrun⟩ := h.keeps haround
      have hleaves := leaves_of_keeps hkeeps ((congrArg Reading.depth hrun).trans rfl)
      rw [← textOf_append] at hleaves
      exact ⟨_, hleaves, .cons (h.stands haround (hprecede pieces List.mem_cons_self)) .nil⟩
  | pieces :: next :: others, lead, _, hcomplete, haround, hprecede => by
      have h := hcomplete pieces List.mem_cons_self
      have hbare := around_nil haround
      obtain ⟨hkeeps, hrun⟩ := h.keeps hbare
      have hstands := h.stands hbare (by simp [MayPrecede])
      rw [List.append_nil] at hkeeps hrun hstands
      rw [textOf_append] at hstands
      have hcut : joined (pieces :: next :: others) ++ tail
          = pieces ++ token ";".toList :: ([space] ++ (joined (next :: others) ++ tail)) := by
        rw [joined, List.append_assoc]
        rfl
      have hends : Reading.Ends (Reading.run ⟨0, false, textOf lead⟩ pieces) (token ";".toList) := by
        rw [hrun]
        exact ⟨⟨rfl, rfl⟩, rfl⟩
      obtain ⟨texts, hleaves, hothers⟩ := exists_leaves_joined (List.cons_ne_nil next others)
        (fun other hother => hcomplete other (List.mem_cons_of_mem _ hother))
        (around_space haround) fun other hother => hprecede other (List.mem_cons_of_mem _ hother)
      rw [hcut]
      exact ⟨_, Leaves.after_semicolon hkeeps hends (Leaves.after (fun _ => rfl) hleaves),
        .cons hstands hothers⟩

/-- A declaration has these items, and says this of locations, wherever it is put. -/
def Declares (pieces : List Piece) (items : List Item) (marks : List Mark) : Prop :=
  ∀ text, Stands pieces text → itemsOf text = items ∧ marksOf text = marks

/-- The texts of declarations have the items of the declarations, and say what they say. -/
lemma flatMap_of_stands {α : Type} {parts : List α} {pieces : α → List Piece} {items : α → List Item}
    {marks : α → Mark} {texts : List Text}
    (hdeclares : ∀ part ∈ parts, Declares (pieces part) (items part) [marks part])
    (h : List.Forall₂ Stands (parts.map pieces) texts) :
    texts.flatMap itemsOf = parts.flatMap items ∧ texts.flatMap marksOf = parts.map marks := by
  rw [List.forall₂_map_left_iff] at h
  induction h with
  | nil => exact ⟨rfl, rfl⟩
  | cons hstands _ ih =>
      rw [List.forall_mem_cons] at hdeclares
      obtain ⟨hitems, hmarks⟩ := hdeclares.1 _ hstands
      obtain ⟨hothers, hrest⟩ := ih hdeclares.2
      rw [List.flatMap_cons, List.flatMap_cons, List.flatMap_cons, List.map_cons, hitems, hothers,
        hmarks, hrest]
      exact ⟨rfl, rfl⟩

/-- The texts of complete declarations want nothing. -/
lemma unwanting_of_stands {declarations : List (List Piece)} {texts : List Text}
    (hcomplete : ∀ pieces ∈ declarations, Complete stage pieces)
    (h : List.Forall₂ Stands declarations texts) : ∀ text ∈ texts, Unwanting stage text := by
  induction h with
  | nil => simp
  | cons hstands _ ih =>
      rw [List.forall_mem_cons] at hcomplete ⊢
      exact ⟨hcomplete.1.unwanting hstands, ih hcomplete.2⟩

/-- Complete declarations are read anywhere. -/
lemma reads_joined {tail : List Piece} {rest : Text} :
    ∀ {declarations : List (List Piece)} (start : Bool), declarations ≠ [] →
      (∀ pieces ∈ declarations, Complete stage pieces) → Around lead tail rest →
        (∀ pieces ∈ declarations, MayPrecede pieces (textOf tail ++ rest)) →
          Reads start (joined declarations ++ tail) rest
  | [], _, hne, _, _, _ => absurd rfl hne
  | [pieces], start, _, hcomplete, haround, hprecede =>
      (hcomplete pieces List.mem_cons_self).reads_tail haround
        (hprecede pieces List.mem_cons_self) start
  | pieces :: next :: others, start, _, hcomplete, haround, hprecede => by
      have hcut : joined (pieces :: next :: others) ++ tail
          = pieces ++ token ";".toList :: space :: (joined (next :: others) ++ tail) := by
        rw [joined, List.append_assoc]
        rfl
      rw [hcut, reads_append]
      refine ⟨(hcomplete pieces List.mem_cons_self).reads _ _ (mayPrecede_semicolon _ _), ?_⟩
      refine reads_sign (by decide) (by decide) (by decide) (by decide) (fun d hd => ?_)
        ⟨fits_space, reads_joined _ (List.cons_ne_nil _ _)
          (fun other hother => hcomplete other (List.mem_cons_of_mem _ hother)) haround
          fun other hother => hprecede other (List.mem_cons_of_mem _ hother)⟩
      obtain rfl : ' ' = d := Option.some.inj hd
      decide

end Complete

/-! ## Settling a statement -/

/-- A new text may follow the same pieces as the old one: it starts with the same character, or with
an ASCII character where the old one starts with a word. -/
def MayFollow (old new : Text) : Prop :=
  new.head? = old.head? ∨
    (∃ c, old.head? = some c ∧ isWordChar c = true) ∧ ∀ d, new.head? = some d → isAscii d = true

/-- The new pieces of a statement settle it: they are read where the old ones were read, and they
yield statements that want nothing. -/
structure Settles (stage : Stage) (reading : Reading) (pieces new : List Piece) : Prop where
  reads : ∀ start rest, Reads start pieces (';' :: rest) → Reads start new (';' :: rest)
  mayFollow : ∀ rest other, MayFollow (textOf pieces ++ ';' :: rest) (textOf new ++ ';' :: other)
  yields : Yields stage reading new

section Settles

variable {reading : Reading} {lead pieces old new : List Piece} {more : Text}

/-- A statement that wants nothing is settled as it is. -/
lemma settles_self (hkeeps : reading.Keeps pieces) (hdepth : (reading.run pieces).depth = 0)
    (hunwanting : Unwanting stage (reading.current ++ textOf pieces)) :
    Settles stage reading pieces pieces := by
  refine ⟨fun _ _ hreads => hreads, fun rest other => Or.inl ?_,
    (leaves_of_keeps hkeeps hdepth).yields (List.forall_mem_singleton.2 hunwanting)⟩
  cases htext : textOf pieces with
  | nil => rfl
  | cons c text => rfl

/-- What comes before the first token stays. -/
lemma settles_of_lead (hlead : ∀ piece ∈ lead, piece.kind ≠ .token) (hfirst : StartsWithWord old)
    (hold : Reads true (lead ++ old) (';' :: more))
    (hnew : ∀ start next rest, Reads start old (';' :: rest) → Reads next new (';' :: rest))
    (hascii : ∀ rest d, (textOf new ++ ';' :: rest).head? = some d → isAscii d = true)
    (hyields : Yields stage {} (lead ++ new)) : Settles stage {} (lead ++ old) (lead ++ new) := by
  obtain ⟨c, hc, hstart⟩ := hfirst.head?
  refine ⟨fun start rest hreads => ?_, fun rest other => ?_, hyields⟩
  · rw [reads_append] at hreads ⊢
    obtain ⟨tail, htail⟩ := List.head?_eq_some_iff.1 (hstart (';' :: rest))
    rw [htail] at hreads
    exact ⟨hreads.1.replace_word hc hlead _, hnew _ _ _ hreads.2⟩
  · cases lead with
    | nil => exact Or.inr ⟨⟨c, hstart _, hc⟩, hascii other⟩
    | cons piece lead =>
        left
        rw [List.cons_append, List.cons_append, textOf_cons, textOf_cons, List.append_assoc,
          List.append_assoc, List.head?_append_of_ne_nil _ hold.1.text_ne_nil,
          List.head?_append_of_ne_nil _ hold.1.text_ne_nil]

variable {tail : List Piece}

/-- A statement is settled by nothing but what stands around it, which declares nothing. -/
lemma settles_dropped (haround : Around lead tail (';' :: more)) (hfirst : StartsWithWord old)
    (hreads : Reads true (lead ++ old) (';' :: more)) :
    Settles stage {} (lead ++ old) (lead ++ tail) ∧ Renders {} (lead ++ tail) [] [] := by
  have htail : ∀ start rest, Reads start tail (';' :: rest) := fun start rest =>
    (haround.of_semicolon rest).tail_reads.start_of_ne_token haround.tail_kind start
  have hnew : Reads true (lead ++ tail) (';' :: more) := by
    rw [reads_append]
    exact ⟨haround.lead_reads _, htail _ more⟩
  have hkind : ∀ piece ∈ lead ++ tail, piece.kind ≠ .token :=
    List.forall_mem_append.2 ⟨haround.lead_kind, haround.tail_kind⟩
  obtain ⟨texts, hleaves, hsilent⟩ := exists_leaves_of_ne_token [] hkind hnew
  have hitems : texts.flatMap itemsOf = [] :=
    List.flatMap_eq_nil_iff.2 fun text htext => itemsOf_of_silent (hsilent text htext)
  have hmarks : texts.flatMap marksOf = [] :=
    List.flatMap_eq_nil_iff.2 fun text htext => marksOf_of_silent (hsilent text htext)
  exact ⟨settles_of_lead haround.lead_kind hfirst hreads (fun _ next rest _ => htail next rest)
    (fun rest c hc => (haround.breaks rest c hc).1)
    (hleaves.yields fun text htext => unwanting_of_silent (hsilent text htext)),
    hitems ▸ hmarks ▸ hleaves.renders⟩

/-- **Complete declarations settle the statement that they are put into**, make the items that each of
them has, and say what each of them says. -/
lemma settles_joined {α : Type} {parts : List α} {complete : α → List Piece}
    {items : α → List Item} {marks : α → Mark} (haround : Around lead tail (';' :: more))
    (hfirst : StartsWithWord old) (hreads : Reads true (lead ++ old) (';' :: more))
    (hlead : Reading.Keeps {} lead) (hrun : Reading.run {} lead = ⟨0, false, textOf lead⟩)
    (hcomplete : ∀ part ∈ parts, Complete stage (complete part))
    (hdeclares : ∀ part ∈ parts, Declares (complete part) (items part) [marks part])
    (hprecede : ∀ rest, ∀ part ∈ parts,
      MayPrecede (complete part) (textOf tail ++ ';' :: rest)) :
    Settles stage {} (lead ++ old) (lead ++ (joined (parts.map complete) ++ tail)) ∧
      Renders {} (lead ++ (joined (parts.map complete) ++ tail)) (parts.flatMap items)
        (parts.map marks) := by
  by_cases hnone : parts = []
  · subst hnone
    exact settles_dropped haround hfirst hreads
  · have hne : parts.map complete ≠ [] := fun hnil => hnone (List.map_eq_nil_iff.1 hnil)
    have hall := List.forall_mem_map.2 hcomplete
    have hprecedes : ∀ rest, ∀ pieces ∈ parts.map complete,
        MayPrecede pieces (textOf tail ++ ';' :: rest) :=
      fun rest => List.forall_mem_map.2 (hprecede rest)
    obtain ⟨texts, hjoined, hstands⟩ := exists_leaves_joined hne hall haround (hprecedes more)
    rw [← hrun] at hjoined
    have hleaves := Leaves.after hlead.statements hjoined
    obtain ⟨hitems, hmarks⟩ := flatMap_of_stands hdeclares hstands
    exact ⟨settles_of_lead haround.lead_kind hfirst hreads
      (fun _ next rest _ =>
        reads_joined next hne hall (haround.of_semicolon rest) (hprecedes rest))
      (fun rest => ((startsWithWord_joined hne hall).append tail).isAscii_head _)
      (hleaves.yields (unwanting_of_stands hall hstands)),
      hitems ▸ hmarks ▸ hleaves.renders⟩

end Settles

namespace Anatomy

variable {source done rest more : Text} {pieces lead head declared tail inserted : List Piece}
  {d : InterfaceDeclaration} {given : Given} {position : ℕ}

/-- **With its argument put in, a declaration wants nothing**, whatever it declares. -/
lemma not_wants (h : Anatomy position pieces d lead head declared tail)
    (hd : Declaration.parse? d.tokens = some d.declaration) (hkey : given.key = d.key)
    (hinserted : Inserted given d.declaration.layoutOpen head inserted) {tokens : List Token}
    {other : InterfaceDeclaration} {others : List Text}
    (hwords : tokens.map Token.text = words inserted ++ d.typeToken.text :: others)
    (hother : InterfaceDeclaration.ofTokens? tokens = some other) : ¬ other.Wants stage := by
  obtain ⟨_, hparse⟩ := InterfaceDeclaration.ofTokens?_eq_some_iff.1 hother
  have henriched := hinserted.enriched
  rw [h.words_head] at henriched
  obtain ⟨found, hfound, hstorage, _, _, hvalue, _⟩ :=
    Declaration.exists_parse?_enriched given.argues hd henriched hwords
  obtain rfl : found = other.declaration := Option.some.inj (hfound.symm.trans hparse)
  refine InterfaceDeclaration.not_wants_of_layoutValue ?_
  have hsame : other.key = given.key := by
    rw [hkey, InterfaceDeclaration.key, hstorage, InterfaceDeclaration.key]
  rw [hsame]
  exact hvalue

/-- The qualifiers and the type are read before a space, with the argument put in. -/
lemma reads_head (h : Anatomy position pieces d lead head declared tail)
    (hreads : Reads true pieces more)
    (hinserted : Inserted given d.declaration.layoutOpen head inserted) (start : Bool)
    (rest : Text) :
    Reads start (inserted ++ [token d.typeToken.text]) (' ' :: rest) := by
  rw [h.pieces_eq, reads_append] at hreads
  have hcut : head ++ token d.typeToken.text :: (declared ++ tail)
      = (head ++ [token d.typeToken.text]) ++ (declared ++ tail) := by simp
  rw [hcut, reads_append] at hreads
  have hlast : (head ++ [token d.typeToken.text]).getLast? = some (token d.typeToken.text) :=
    List.getLast?_concat
  refine hinserted.reads h.first (hreads.2.1.follow ?_ ?_) start
  · intro piece hpiece
    rw [hlast] at hpiece
    rw [← Option.some.inj hpiece]
    rfl
  · intro piece _ c hc
    obtain rfl : ' ' = c := Option.some.inj hc
    exact ⟨by decide, by decide, fun _ => by decide⟩

/-- A declarator is read before any character that ends its last token. -/
lemma reads_segment {before segment after : List Piece} {first last : Text}
    (h : Anatomy position pieces d lead head declared tail) (hreads : Reads true pieces more)
    (hcut : declared = before ++ (segment ++ after))
    (hfirst : segment.head? = some (token first)) (hlast : segment.getLast? = some (token last)) :
    last ≠ [] ∧
      ∀ rest, (∀ c, rest.head? = some c → Ends last c) → Reads false segment rest := by
  rw [h.pieces_eq, hcut, reads_append, reads_append] at hreads
  have hsegment := hreads.2.2.2
  rw [List.append_assoc, reads_append, List.append_assoc, reads_append] at hsegment
  obtain ⟨others, rfl⟩ := List.head?_eq_some_iff.1 hfirst
  have hread := hsegment.2.1.within_line rfl
  refine ⟨?_, fun rest hrest => hread.follow (fun piece hpiece => ?_) fun piece hpiece => ?_⟩
  · obtain ⟨earlier, hearlier⟩ := List.getLast?_eq_some_iff.1 hlast
    rw [hearlier, reads_append] at hread
    exact hread.2.1.text_ne_nil
  · rw [← Option.some.inj (hlast.symm.trans hpiece)]
    rfl
  · rw [← Option.some.inj (hlast.symm.trans hpiece)]
    exact hrest

/-- The span of a declarator covers its pieces. -/
lemma textIn_declarator (h : Anatomy done.length pieces d lead head declared tail)
    (hsource : source = done ++ (textOf pieces ++ rest)) {x : Declarator}
    {before segment after : List Piece} (hcut : declared = before ++ (segment ++ after))
    (hstart : x.span.start = d.typeToken.stop + (textOf before).length)
    (hstop : x.span.stop = x.span.start + (textOf segment).length) :
    x.span.textIn source = textOf segment := by
  refine slice_eq (done ++ textOf (lead ++ (head ++ token d.typeToken.text :: before))) _
    (textOf (after ++ tail) ++ rest) ?_ ?_ hstop
  · rw [hsource, h.pieces_eq, hcut]
    simp
  · rw [hstart, h.type_stop, h.span_start]
    simp only [List.length_append, textOf_append, textOf_cons, token]
    omega

/-- What pieces end in is what their last token ends in. -/
lemma getLast?_textOf (before : List Piece) {segment : List Piece} {last : Text}
    (hlast : segment.getLast? = some (token last)) (hne : last ≠ []) :
    (textOf (before ++ segment)).getLast? = last.getLast? := by
  obtain ⟨earlier, rfl⟩ := List.getLast?_eq_some_iff.1 hlast
  rw [textOf_append, textOf_append, textOf_cons, textOf_nil, List.append_nil, ← List.append_assoc]
  exact List.getLast?_append_of_ne_nil _ hne

/-- Where no brace is opened, no word is a brace. -/
lemma brace_not_mem (h : ∀ piece ∈ pieces, Reading.Quiet piece) : ['\x7b'] ∉ words pieces := by
  intro hmem
  obtain ⟨piece, hpiece, htext⟩ := List.mem_map.1 hmem
  obtain ⟨hpiece, hkind⟩ := List.mem_filter.1 hpiece
  exact (h piece hpiece).1 ⟨by simpa using hkind, by rw [htext]; rfl⟩

/-- With qualifiers and type of its own, a declarator has the items that it has by itself, and is said
to be where its argument tells. -/
lemma declares_alone (h : Anatomy position pieces d lead head declared tail)
    (hd : Declaration.parse? d.tokens = some d.declaration)
    (hblock : d.declaration.isBlock = false)
    (hinserted : Inserted given d.declaration.layoutOpen head inserted)
    (hnone : d.declaration.layoutValue d.key = none) (hkey : given.key = d.key)
    (hfits : given.number < word32Limit) {x : Declarator} (hx : x ∈ d.kept) {segment : List Piece}
    (hname : ∀ tokens : List Token, tokens.map Token.text = words segment →
      (Declarator.parse tokens).map Declarator.name = [x.name])
    (hquiet : ∀ piece ∈ head ++ token d.typeToken.text :: space :: segment, Reading.Quiet piece)
    (htext : x.span.textIn source = textOf segment) (hreads : Reads false segment []) :
    Declares (inserted ++ [token d.typeToken.text] ++ space :: segment) (d.alone source x)
      [d.marked given [x.name]] := by
  rintro text ⟨lead', tail', hlead, htail, hwhole, rfl⟩
  have hcut : lead' ++ (inserted ++ [token d.typeToken.text] ++ space :: segment ++ tail')
      = lead' ++ (inserted ++ token d.typeToken.text :: ((space :: segment) ++ tail')) := by simp
  have hbrace : ['\x7b'] ∉ words head ++ d.typeToken.text :: words (space :: segment) := by
    rw [← words_token, ← words_append]
    exact brace_not_mem hquiet
  have hspace : tokensFrom 0 (space :: segment) = tokensFrom 1 segment := rfl
  rw [hcut] at hwhole ⊢
  constructor
  · rw [h.itemsOf_inserted hd hinserted hwhole hlead htail (iff_of_false (by simp [hblock]) hbrace),
      InterfaceDeclaration.alone, htext, scanFrom_textOf hreads, hspace]
    exact d.heading.items_of_slice (slice_eq " ".toList _ [] (by simp [space]) rfl rfl)
  · refine h.marksOf_inserted hd hinserted hnone hkey hfits hwhole hlead htail fun tokens hwords => ?_
    rw [hname tokens hwords, List.filter_cons_of_pos (keepsName_of_mem_kept hx), List.filter_nil]

/-- **A declarator with qualifiers and type of its own is a complete declaration.** -/
lemma exists_complete (h : Anatomy done.length pieces d lead head declared tail)
    (hsource : source = done ++ (textOf pieces ++ rest)) (hreads : Reads true pieces more)
    (hd : Declaration.parse? d.tokens = some d.declaration)
    (hblock : d.declaration.isBlock = false) (hquiet : ∀ piece ∈ pieces, Reading.Quiet piece)
    (hnone : d.declaration.layoutValue d.key = none) (hkey : given.key = d.key)
    (hfits : given.number < word32Limit) {x : Declarator} (hx : x ∈ d.kept) :
    ∃ complete, Complete stage complete ∧
      Declares complete (d.alone source x) [d.marked given [x.name]] ∧
      textOf complete = headWith source d given.text ++ " ".toList ++ x.span.textIn source ∧
        (textOf complete).getLast? = (x.span.textIn source).getLast? ∧
          directives complete = d.aloneDirectives source x := by
  obtain ⟨inserted, hinserted, hhead, _⟩ := h.exists_inserted hsource given
  obtain ⟨before, segment, after, first, last, hcut, hfirst, hlast, hstart, hstop, group, hgroup,
    hof, hwords⟩ := h.declarators x (d.kept_sublist.subset hx)
  have htext := h.textIn_declarator hsource hcut hstart hstop
  obtain ⟨hne, hsegmentReads⟩ := h.reads_segment hreads hcut hfirst hlast
  have hend := getLast?_textOf (inserted ++ [token d.typeToken.text] ++ [space]) hlast hne
  rw [List.append_assoc _ [space], List.singleton_append] at hend
  have hpieces := h.pieces_eq
  rw [hpieces, hcut] at hquiet
  have hsegment : ∀ piece ∈ segment, Reading.Quiet piece := fun piece hpiece =>
    hquiet piece (by simp [hpiece])
  have htype : Reading.Quiet (token d.typeToken.text) := hquiet _ (by simp)
  have hqualifiers : ∀ piece ∈ inserted, Reading.Quiet piece :=
    hinserted.quiet fun piece hpiece => hquiet piece (by simp [hpiece])
  refine ⟨inserted ++ [token d.typeToken.text] ++ space :: segment,
    ⟨?_, ⟨last, ?_⟩, ?_, ?_, ?_⟩, ?_, ?_, ?_, ?_⟩
  · exact ((hinserted.startsWithWord h.first).append _).append _
  · have hne : segment ≠ [] := by
      rintro rfl
      exact absurd hlast (by simp)
    rw [List.getLast?_append_of_ne_nil _ (List.cons_ne_nil _ _), ← hlast]
    exact List.getLast?_cons_of_ne_nil hne
  · intro start others hothers
    rw [reads_append]
    exact ⟨h.reads_head hreads hinserted start _, fits_space,
      by
        rw [lineStartAfterAll_of_getLast? List.getLast?_concat rfl]
        exact hsegmentReads _ fun c hc => (hothers c hc).congr hend.symm⟩
  · rw [List.forall_mem_append, List.forall_mem_append, List.forall_mem_singleton,
      List.forall_mem_cons]
    exact ⟨⟨hqualifiers, htype⟩, inert_space.quiet, hsegment⟩
  · intro tokens other hwords hother
    rw [List.append_assoc, words_append] at hwords
    exact h.not_wants hd hkey hinserted hwords hother
  · refine h.declares_alone hd hblock hinserted hnone hkey hfits hx
      (fun tokens htokens => names_of_group hgroup hof (htokens.trans hwords.symm)) ?_ htext
      (hsegmentReads [] (by simp))
    rw [List.forall_mem_append, List.forall_mem_cons, List.forall_mem_cons]
    exact ⟨fun piece hpiece => hquiet piece (by simp [hpiece]), htype, inert_space.quiet, hsegment⟩
  · rw [hhead, htext, textOf_append, textOf_cons, List.append_assoc]
    rfl
  · rw [htext, hend]
    exact (getLast?_textOf [] hlast hne).symm
  · rw [InterfaceDeclaration.aloneDirectives, h.headDirectives_eq hsource hreads, htext,
      scanFrom_textOf (hsegmentReads [] (by simp)), directives_append, directives_append,
      directives_token, directives_space, directives_nil, List.append_nil, hinserted.directives_eq]

end Anatomy

/-- A declaration that can be cut between its declarators: no token of it opens a brace, not even
together with characters that are no ASCII characters, and if a declarator ends in a slash, there is
no comment right after the declaration, with which the slash would start another comment. -/
structure Separable (source : Text) (d : InterfaceDeclaration) : Prop where
  brace : ∀ token ∈ d.tokens, token.text.head? ≠ some '{'
  slash : ∀ x ∈ d.declarators, (x.span.textIn source).getLast? = some '/' →
    (source.drop d.span.stop).head? ≠ some '/'

/-- A separable declaration is read outside all braces throughout. -/
lemma Separable.quiet {source : Text} {pieces : List Piece} {d : InterfaceDeclaration} {position : ℕ}
    (h : Separable source d) (htokens : d.tokens = tokensFrom position pieces)
    (hkeeps : Reading.Keeps {} pieces) : ∀ piece ∈ pieces, Reading.Quiet piece := by
  have hopens : ∀ piece ∈ pieces, ¬ piece.Opens := by
    rintro piece hpiece ⟨hkind, hhead⟩
    have hmem : piece.text ∈ d.tokens.map Token.text := by
      rw [htokens, map_text_tokensFrom, Piece.words]
      exact List.mem_map_of_mem (List.mem_filter.2 ⟨hpiece, by simpa using hkind⟩)
    obtain ⟨token, htoken, htext⟩ := List.mem_map.1 hmem
    exact h.brace token htoken (by rw [htext]; exact hhead)
  have hsemicolon := hkeeps.not_isSemicolon rfl hopens
  exact fun piece hpiece => ⟨hopens piece hpiece, hsemicolon piece hpiece⟩

section Edits

variable {source done rest more : Text} {pieces lead head declared tail : List Piece}
  {d : InterfaceDeclaration}

/-- What stands after a declaration is read after its last token. -/
lemma Anatomy.reads_tail {position : ℕ} (h : Anatomy position pieces d lead head declared tail)
    {start : Bool} (hreads : Reads start (head ++ token d.typeToken.text :: (declared ++ tail)) rest) :
    Reads false tail rest := by
  obtain ⟨word, hlast⟩ := h.last
  have hcut : head ++ token d.typeToken.text :: (declared ++ tail)
      = (head ++ token d.typeToken.text :: declared) ++ tail := by simp
  have hlast' : (head ++ token d.typeToken.text :: declared).getLast? = some (token word) := by
    rw [List.getLast?_append_of_ne_nil _ (List.cons_ne_nil _ _), hlast]
  rw [hcut, reads_append, lineStartAfterAll_of_getLast? hlast' rfl] at hreads
  exact hreads.2

/-- What is known of the pieces before the first token of a declaration. -/
lemma Anatomy.around {position : ℕ} (h : Anatomy position pieces d lead head declared tail)
    (hreads : Reads true pieces (';' :: more)) (hkeeps : Reading.Keeps {} pieces) :
    Around lead tail (';' :: more) := by
  have hfirst := h.first.append (token d.typeToken.text :: (declared ++ tail))
  obtain ⟨c, hc, hstart⟩ := hfirst.head?
  obtain ⟨word, hword⟩ := List.head?_eq_some_iff.1 (hstart (';' :: more))
  rw [h.pieces_eq, reads_append] at hreads
  rw [h.pieces_eq, Reading.keeps_append] at hkeeps
  have htail := h.reads_tail hreads.2
  rw [hword] at hreads
  exact ⟨h.lead_kind, fun other => hreads.1.replace_word hc h.lead_kind other,
    (hkeeps.1.lead hreads.1 (by rw [Reading.Unhashed]; decide) h.lead_kind).2, h.tail_kind, htail⟩

/-- The source after a declaration. -/
lemma Anatomy.drop_stop (h : Anatomy done.length pieces d lead head declared tail)
    (hsource : source = done ++ (textOf pieces ++ rest)) :
    source.drop d.span.stop = textOf tail ++ rest := by
  have hcut : source = (done ++ textOf (lead ++ head ++ token d.typeToken.text :: declared))
      ++ (textOf tail ++ rest) := by
    rw [hsource, h.pieces_eq]
    simp
  rw [hcut]
  refine List.drop_left' ?_
  rw [h.span_stop, h.type_stop, h.span_start]
  simp only [List.length_append, textOf_append, textOf_cons, token]
  omega

/-- What comes before the first token is read without starting anew. -/
lemma Anatomy.run_lead {position : ℕ} (h : Anatomy position pieces d lead head declared tail)
    (hreads : Reads true pieces (';' :: more)) (hkeeps : Reading.Keeps {} pieces) :
    Reading.Keeps {} lead ∧ Reading.run {} lead = ⟨0, false, textOf lead⟩ ∧
      Reading.Keeps ⟨0, false, textOf lead⟩
        (head ++ token d.typeToken.text :: (declared ++ tail)) := by
  rw [h.pieces_eq, reads_append] at hreads
  rw [h.pieces_eq, Reading.keeps_append] at hkeeps
  have hrun := (hkeeps.1.lead hreads.1 (by rw [Reading.Unhashed]; decide) h.lead_kind).1
  have hsame : Reading.run {} lead = ⟨0, false, textOf lead⟩ := hrun
  rw [hsame] at hkeeps
  exact ⟨hkeeps.1, hsame, hkeeps.2⟩

/-- Adding an argument to the whole declaration settles its statement, and its items and its
preprocessor lines stay.  The argument is told of all that is laid out. -/
lemma Anatomy.settles_whole (h : Anatomy done.length pieces d lead head declared tail)
    (htokens : d.tokens = tokensFrom done.length pieces)
    (hparse : Declaration.parse? d.tokens = some d.declaration)
    (hsource : source = done ++ (textOf pieces ++ rest)) (hreads : Reads true pieces (';' :: more))
    (hkeeps : Reading.Keeps {} pieces) (hdepth : (Reading.run {} pieces).depth = 0)
    (hnone : d.declaration.layoutValue d.key = none) {given : Given} (hkey : given.key = d.key)
    (hfits : given.number < word32Limit) :
    ∃ new, Settles stage {} pieces new ∧
      Renders {} new (d.items source) [d.marked given (d.kept.map Declarator.name)] ∧
      Replaces done.length (argumentEdit d given.text) (textOf pieces) (textOf new) ∧
        directives new = directives lead ++ (d.directives source ++ directives tail) := by
  obtain ⟨inserted, hinserted, _, hreplaces⟩ := h.exists_inserted hsource given
  obtain ⟨hlead, hrun, hhead⟩ := h.run_lead hreads hkeeps
  have haround := h.around hreads hkeeps
  have hitems := h.items_eq hsource htokens hparse
  have hlines := h.directives_eq hsource hreads
  rw [h.pieces_eq] at hreads hdepth
  have hnew : Reads true (lead ++ (inserted ++ token d.typeToken.text :: (declared ++ tail)))
      (';' :: more) := by
    rw [reads_append] at hreads ⊢
    exact ⟨haround.lead_reads _, hinserted.reads h.first hreads.2 _⟩
  have hleaves : Leaves {} (lead ++ (inserted ++ token d.typeToken.text :: (declared ++ tail)))
      [textOf (lead ++ (inserted ++ token d.typeToken.text :: (declared ++ tail)))] := by
    obtain ⟨hkeeps, hsame⟩ := hinserted.keeps h.first haround.lead_unhashed hhead
    rw [textOf_append lead]
    refine Leaves.after hlead.statements (hrun ▸ leaves_of_keeps hkeeps ?_)
    rw [hsame, ← hrun, ← Reading.run_append]
    exact hdepth
  refine ⟨_, ?_, ?_, hreplaces, ?_⟩
  · rw [h.pieces_eq]
    refine settles_of_lead h.lead_kind (h.first.append _) hreads
      (fun start next rest hold => hinserted.reads h.first hold next)
      (fun rest => ((hinserted.startsWithWord h.first).append _).isAscii_head _)
      (hleaves.yields (List.forall_mem_singleton.2 ?_))
    refine unwanting_of_words hnew.nil fun tokens other hwords hother => ?_
    rw [words_append, words_eq_nil_iff.2 h.lead_kind, List.nil_append, words_append,
      words_token] at hwords
    exact h.not_wants hparse hkey hinserted hwords hother
  · rw [hitems, ← h.itemsOf_inserted hparse hinserted hnew.nil h.lead_kind h.tail_kind
        (h.isBlock_iff htokens hparse),
      ← h.marksOf_inserted hparse hinserted hnone hkey hfits hnew.nil h.lead_kind h.tail_kind
        fun _ hwords => h.names_declared htokens hparse hwords]
    have hone := hleaves.renders
    rwa [List.flatMap_singleton, List.flatMap_singleton] at hone
  · rw [hlines, directives_append, directives_append, directives_token, directives_append,
      hinserted.directives_eq, List.append_assoc]

/-- Splitting a declaration settles its statement, and each declarator has the items and the
preprocessor lines that it has by itself. -/
lemma Anatomy.settles_split (h : Anatomy done.length pieces d lead head declared tail)
    (htokens : d.tokens = tokensFrom done.length pieces)
    (hparse : Declaration.parse? d.tokens = some d.declaration)
    (hblock : d.declaration.isBlock = false)
    (hsource : source = done ++ (textOf pieces ++ ';' :: more))
    (hreads : Reads true pieces (';' :: more)) (hkeeps : Reading.Keeps {} pieces)
    (hnone : d.declaration.layoutValue d.key = none) {parts : List (Given × Declarator)}
    (hkeys : ∀ part ∈ parts, part.1.key = d.key)
    (hfits : ∀ part ∈ parts, part.1.number < word32Limit) (hkept : parts.map Prod.snd = d.kept)
    (hseparable : parts ≠ [] → Separable source d) :
    ∃ new, Settles stage {} pieces new ∧
      Renders {} new ((parts.map Prod.snd).flatMap (d.alone source))
        (parts.map fun part => d.marked part.1 [part.2.name]) ∧ textOf new = textOf lead
      ++ (join "; ".toList (parts.map fun part =>
          headWith source d part.1.text ++ " ".toList ++ part.2.span.textIn source)
        ++ textOf tail) ∧
      directives new = directives lead
        ++ ((parts.map Prod.snd).flatMap (d.aloneDirectives source) ++ directives tail) := by
  have hmem : ∀ part ∈ parts, part.2 ∈ d.kept := fun part hpart =>
    hkept ▸ List.mem_map_of_mem hpart
  have hcomplete : ∀ part ∈ parts, ∃ complete, Complete stage complete ∧
      Declares complete (d.alone source part.2) [d.marked part.1 [part.2.name]] ∧
        textOf complete = headWith source d part.1.text ++ " ".toList ++ part.2.span.textIn source ∧
          (textOf complete).getLast? = (part.2.span.textIn source).getLast? ∧
            directives complete = d.aloneDirectives source part.2 := fun part hpart =>
    h.exists_complete hsource hreads hparse hblock
      ((hseparable (List.ne_nil_of_mem hpart)).quiet htokens hkeeps) hnone (hkeys part hpart)
      (hfits part hpart) (hmem part hpart)
  choose! complete hcomplete hdeclares htext hlast hlines using hcomplete
  have hjoined : textOf (joined (parts.map complete)) = join "; ".toList (parts.map fun part =>
      headWith source d part.1.text ++ " ".toList ++ part.2.span.textIn source) := by
    rw [textOf_joined, List.map_map]
    congr 1
    exact List.map_congr_left htext
  obtain ⟨hlead, hrun, _⟩ := h.run_lead hreads hkeeps
  have haround := h.around hreads hkeeps
  have hprecede : ∀ rest, ∀ part ∈ parts,
      MayPrecede (complete part) (textOf tail ++ ';' :: rest) := by
    intro rest part hpart c hc
    refine (haround.breaks rest c hc).ends fun hslash => ?_
    rintro rfl
    refine (hseparable (List.ne_nil_of_mem hpart)).slash part.2
      (d.kept_sublist.subset (hmem part hpart)) ((hlast part hpart).symm.trans hslash) ?_
    rw [h.drop_stop hsource, ← hc]
    cases textOf tail <;> rfl
  rw [List.flatMap_map, List.flatMap_map]
  rw [h.pieces_eq] at hreads ⊢
  obtain ⟨hsettles, hrenders⟩ := settles_joined haround (h.first.append _) hreads hlead hrun
    hcomplete hdeclares hprecede
  refine ⟨_, hsettles, hrenders, ?_, ?_⟩
  · rw [textOf_append, textOf_append, hjoined]
  · rw [directives_append, directives_append, directives_joined, List.flatMap_map,
      List.flatMap_congr hlines]

/-- **What lays out a declaration settles its statement**, makes the items and the preprocessor lines
of the declaration that has been laid out, and says what it is to say of locations. -/
theorem exists_settles {marks : List Mark} {edit : Edit}
    (hd : InterfaceDeclaration.ofTokens? (tokensFrom done.length pieces) = some d)
    (hsource : source = done ++ (textOf pieces ++ ';' :: more))
    (hreads : Reads true pieces (';' :: more)) (hkeeps : Reading.Keeps {} pieces)
    (hdepth : (Reading.run {} pieces).depth = 0)
    (hseparable : d.declaration.isBlock = false → 2 ≤ d.declarators.length → Separable source d)
    (hnone : d.declaration.layoutValue d.key = none) (hlays : Lays source d marks edit) :
    ∃ new, Settles stage {} pieces new ∧ Renders {} new (d.laidItems source) marks ∧
      Replaces done.length edit (textOf pieces) (textOf new) ∧
        Redirected (·.directives source) (·.laidDirectives source) [d] (directives pieces)
          (directives new) := by
  obtain ⟨htokens, hparse⟩ := InterfaceDeclaration.ofTokens?_eq_some_iff.1 hd
  rw [← htokens] at hparse
  obtain ⟨lead, head, declared, tail, h⟩ := exists_anatomy hd
  have hwhole : ∀ {given : Given}, given.key = d.key → given.number < word32Limit →
      d.declaration.isBlock = true ∨ d.kept.length = 1 →
        ∃ new, Settles stage {} pieces new ∧
          Renders {} new (d.laidItems source) [d.marked given (d.kept.map Declarator.name)] ∧
          Replaces done.length (argumentEdit d given.text) (textOf pieces) (textOf new) ∧
            Redirected (·.directives source) (·.laidDirectives source) [d] (directives pieces)
              (directives new) := fun hkey hfits hone => by
    obtain ⟨new, hsettles, hrenders, hreplaces, hlines⟩ :=
      h.settles_whole htokens hparse hsource hreads hkeeps hdepth hnone hkey hfits
    refine ⟨new, hsettles, ?_, hreplaces, h.redirected hsource hreads ?_⟩
    · rwa [InterfaceDeclaration.laidItems, if_pos hone]
    · rwa [InterfaceDeclaration.laidDirectives, if_pos hone]
  cases hlays with
  | block given hkey hfits hblock => exact hwhole hkey hfits (Or.inl hblock)
  | each parts hblock hkeys hfits hkept =>
      have hlength : d.kept.length = parts.length := by rw [← hkept, List.length_map]
      by_cases hone : parts.length = 1
      · obtain ⟨part, rfl⟩ := List.length_eq_one_iff.1 hone
        have hsettled := hwhole (hkeys part List.mem_cons_self) (hfits part List.mem_cons_self)
          (Or.inr hlength)
        rwa [← hkept] at hsettled
      · have hseveral : parts ≠ [] → 2 ≤ d.declarators.length := fun hne => by
          have hpos := List.length_pos_iff.2 hne
          have hle := d.kept_sublist.length_le
          omega
        have hsplit : ¬ (d.declaration.isBlock = true ∨ d.kept.length = 1) := by
          simp [hblock, hlength, hone]
        obtain ⟨new, hsettles, hrenders, htext, hlines⟩ := h.settles_split htokens hparse hblock
          hsource hreads hkeeps hnone hkeys hfits hkept fun hne => hseparable hblock (hseveral hne)
        rw [hkept] at hrenders hlines
        rw [InterfaceDeclaration.laidItems, if_neg hsplit,
          splitEdit_of_length_ne (by rwa [List.length_map]), List.map_map]
        refine ⟨new, hsettles, hrenders, ⟨textOf lead,
          textOf (head ++ token d.typeToken.text :: declared), textOf tail, ?_, h.span_start, ?_,
          htext⟩, h.redirected hsource hreads ?_⟩
        · rw [h.pieces_eq]
          simp
        · show d.span.stop = d.span.start + _
          rw [h.span_stop, h.type_stop]
          simp only [textOf_append, textOf_cons, List.length_append, token]
          omega
        · rwa [InterfaceDeclaration.laidDirectives, if_neg hsplit]

end Edits

end GlBridge.Layout
