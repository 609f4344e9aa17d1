import GlBridge.Proofs.Layout.Completing

/-!
# Laying out twice

Laying out a text that has been laid out changes nothing, whatever the second registry remembers.
The source is followed statement by statement.  The old pieces and the new ones run along each other,
and after every statement both stand at the beginning of the next one.

**Clean declarations.**  A statement is cut into tokens by itself, but its end is looked for in the
whole source.  `Clean` says that the two readings agree about a declaration that is edited, and that
it can be cut where it is split.  Each part of this is needed: there is a source that misses it and
is changed again.

* `Edits` — the edits of statements, one for each that wants something, what is said of locations
  after them, and where the variables have been placed;
* `outcome` — the items of a statement after the edits;
* `Copies` — the text that a source with edits made goes on with;
* `exists_settled` — one statement: new pieces that settle it, their text, their items, their
  preprocessor lines and what they say of locations;
* `exists_rewritten` — all statements: new pieces that are read from the new text, with statements
  that want nothing.
-/

namespace GlBridge.Layout

open Text Glsl Piece

variable {stage : Stage} {source : Text}

/-! ## Statements that are left alone -/

/-- What is wanted depends on the words only, not on where they stand. -/
lemma exists_wants_of_words {tokens others : List Token} {d : InterfaceDeclaration}
    (hwords : tokens.map Token.text = others.map Token.text)
    (hd : InterfaceDeclaration.ofTokens? tokens = some d) (hwants : d.Wants stage) :
    ∃ other, InterfaceDeclaration.ofTokens? others = some other ∧ other.Wants stage := by
  obtain ⟨rfl, hparse⟩ := InterfaceDeclaration.ofTokens?_eq_some_iff.1 hd
  rw [Declaration.parse?_congr hwords] at hparse
  let other : InterfaceDeclaration := { tokens := others, declaration := d.declaration }
  have hother : other.Wants stage := hwants.congr hwords rfl
  exact ⟨other, InterfaceDeclaration.ofTokens?_eq_some_iff.2 ⟨rfl, hparse⟩, hother⟩

/-- A statement wants nothing if its text wants nothing. -/
lemma unwanting_iff {statement : Statement} : Unwanting stage statement.text ↔
    ∀ d, InterfaceDeclaration.ofTokens? statement.tokens = some d → ¬ d.Wants stage := by
  have hwords : (tokenize statement.text).map Token.text = statement.tokens.map Token.text := by
    rw [tokenize, Statement.tokens, map_text_tokensFrom, map_text_tokensFrom]
  constructor
  · intro h d hd hwants
    obtain ⟨other, hother, hwants⟩ := exists_wants_of_words hwords.symm hd hwants
    exact h other hother hwants
  · intro h d hd hwants
    obtain ⟨other, hother, hwants⟩ := exists_wants_of_words hwords hd hwants
    exact h other hother hwants

/-- A text that starts with a character that is no ASCII character is no declaration. -/
lemma ofTokens?_eq_none {c : Char} (hc : isAscii c = false) (position : ℕ) (text : Text) :
    InterfaceDeclaration.ofTokens? (tokensFrom position (scan (c :: text))) = none := by
  have hne : ∀ d, isAscii d = true → c ≠ d := by
    rintro d hd rfl
    exact absurd hd (by simp [hc])
  have hblank : isAsciiBlank c = false := by
    simp [isAsciiBlank, hne ' ' (by decide), hne '\t' (by decide), hne '\n' (by decide),
      hne '\x0c' (by decide), hne '\r' (by decide)]
  have hword : isWordChar c = false := by
    by_contra h
    exact absurd (isAscii_of_isWordChar (by simpa using h)) (by simp [hc])
  have hlead : (lead true c text).1 = .token := by
    simp [lead, hblank, hword, hne '\n' (by decide), hne '/' (by decide), hne '#' (by decide)]
  obtain ⟨first, tokens, htokens, hfirst⟩ : ∃ first tokens,
      tokensFrom position (scan (c :: text)) = first :: tokens ∧ first.text.head? = some c := by
    rw [scan, scanFrom]
    generalize lead true c text = found at hlead
    obtain ⟨kind, length⟩ := found
    obtain rfl : kind = .token := hlead
    exact ⟨_, _, rfl, rfl⟩
  rw [htokens, InterfaceDeclaration.ofTokens?, Option.map_eq_none_iff,
    Option.eq_none_iff_forall_ne_some]
  intro d hparse
  obtain ⟨before, type, after, qualifiers, hcut, hsteps, _, hstorage, _⟩ :=
    Declaration.parse?_eq_some_iff.1 hparse
  obtain ⟨word, words, hwords, _, hall⟩ :=
    Qualifiers.exists_first rfl hsteps (by rw [hstorage]; exact Option.some_ne_none _)
  obtain ⟨token, before, rfl, rfl, _⟩ := List.map_eq_cons_iff.1 hwords
  obtain ⟨rfl, -⟩ := List.cons.inj hcut
  obtain ⟨tail, htail⟩ := List.head?_eq_some_iff.1 hfirst
  rw [htail, List.all_cons, hword] at hall
  exact absurd hall (by simp)

/-! ## Clean sources -/

/-- The first token of the source from a position on is no hash. -/
def Plain (source : Text) (position : ℕ) : Prop :=
  ∀ token ∈ (tokenize source).find? (position ≤ ·.start), token.text.head? ≠ some '#'

/-- A declaration that may be edited where its statement stands.  The statement does not start with
a hash that is not first on its line, which would start a directive in the statement read by itself,
and if the declaration is split, it can be. -/
structure Clean (source : Text) (statement : Statement) (d : InterfaceDeclaration) : Prop where
  plain : Plain source statement.start
  separable : d.declaration.isBlock = false → 2 ≤ d.declarators.length → Separable source d

/-- A source whose declarations are clean, if they are edited. -/
def AllClean (stage : Stage) (source : Text) : Prop :=
  ∀ statement ∈ statementsOf source, ∀ d ∈ InterfaceDeclaration.ofTokens? statement.tokens,
    d.Wants stage → Clean source statement d

section Decidable

variable {d : InterfaceDeclaration} {statement : Statement}

instance : Decidable (d.Wants stage) :=
  inferInstanceAs (Decidable (_ ∨ _))

instance {position : ℕ} : Decidable (Plain source position) :=
  inferInstanceAs (Decidable (∀ token ∈ (tokenize source).find? _, _))

instance : Decidable (Separable source d) :=
  decidable_of_iff ((∀ token ∈ d.tokens, token.text.head? ≠ some '{') ∧
      ∀ x ∈ d.declarators, (x.span.textIn source).getLast? = some '/' →
        (source.drop d.span.stop).head? ≠ some '/')
    ⟨fun h => ⟨h.1, h.2⟩, fun h => ⟨h.brace, h.slash⟩⟩

instance : Decidable (Clean source statement d) :=
  decidable_of_iff (Plain source statement.start ∧
      (d.declaration.isBlock = false → 2 ≤ d.declarators.length → Separable source d))
    ⟨fun h => ⟨h.1, h.2⟩, fun h => ⟨h.plain, h.separable⟩⟩

instance : Decidable (AllClean stage source) :=
  inferInstanceAs (Decidable (∀ statement ∈ statementsOf source,
    ∀ d ∈ InterfaceDeclaration.ofTokens? statement.tokens, d.Wants stage → Clean source statement d))

end Decidable

/-! ## A source in two parts -/

section Parts

variable {earlier pieces : List Piece}

/-- A source is the text of its pieces. -/
lemma source_eq (hscan : scan source = earlier ++ pieces) :
    source = textOf earlier ++ textOf pieces := by
  rw [← textOf_append, ← hscan]
  exact (flatMap_text_scanFrom true source).symm

/-- Each part of a source is read before what follows. -/
lemma reads_parts (hscan : scan source = earlier ++ pieces) :
    Reads true earlier (textOf pieces) ∧ Reads (lineStartAfterAll true earlier) pieces [] := by
  have hreads := reads_scanFrom true source
  rw [← scan, hscan, reads_append, List.append_nil] at hreads
  exact hreads

end Parts

/-- Tokens of pieces start before the pieces end. -/
lemma start_lt_of_mem_tokensFrom {pieces : List Piece} {start : Bool} {rest : Text}
    {position : ℕ} (h : Reads start pieces rest) :
    ∀ token ∈ tokensFrom position pieces, token.start < position + (textOf pieces).length := by
  intro token htoken
  obtain ⟨before, after, hcut⟩ := List.append_of_mem htoken
  obtain ⟨left, right, rfl, _, hstart, _⟩ := exists_cut hcut
  rw [reads_append] at h
  have hpos := List.length_pos_iff.2 h.2.1.text_ne_nil
  rw [hstart, textOf_append, textOf_cons, List.length_append, List.length_append]
  omega

/-- The first token of pieces is the first one from a position before them on. -/
lemma find?_tokensFrom {pieces : List Piece} {piece : Piece} {place position : ℕ}
    (hplace : place ≤ position) (h : pieces.find? (·.kind = .token) = some piece) :
    ∃ start, (tokensFrom position pieces).find? (place ≤ ·.start) = some ⟨piece.text, start⟩ := by
  induction pieces generalizing position with
  | nil => exact absurd h (by simp)
  | cons first pieces ih =>
      by_cases hkind : first.kind = .token
      · rw [List.find?_cons_of_pos (by simpa using hkind)] at h
        obtain rfl := Option.some.inj h
        rw [eq_token hkind, tokensFrom_token, List.find?_cons_of_pos (by simpa using hplace)]
        exact ⟨position, rfl⟩
      · rw [List.find?_cons_of_neg (by simpa using hkind)] at h
        rw [tokensFrom_cons_other hkind]
        exact ih (hplace.trans (Nat.le_add_right _ _)) h

/-- The first token among the pieces that stand at a plain position is no hash. -/
lemma Plain.ne_hash {earlier pieces more : List Piece} (hscan : scan source = earlier ++ (pieces ++ more))
    (h : Plain source (textOf earlier).length) :
    ∀ piece, pieces.find? (·.kind = .token) = some piece → piece.text.head? ≠ some '#' := by
  intro piece hpiece
  obtain ⟨start, hfind⟩ := find?_tokensFrom (le_refl (textOf earlier).length) hpiece
  have hbefore : (tokensFrom 0 earlier).find? ((textOf earlier).length ≤ ·.start) = none := by
    rw [List.find?_eq_none]
    intro token htoken
    have hlt := start_lt_of_mem_tokensFrom (reads_parts hscan).1 token htoken
    simpa using hlt
  refine h ⟨piece.text, start⟩ ?_
  rw [tokenize, hscan, tokensFrom_append, tokensFrom_append, List.find?_append, hbefore,
    Option.none_or, Nat.zero_add, List.find?_append, hfind]
  rfl

/-! ## The edits of a source -/

/-- The edits of statements: those that want something get one each.  With the edits goes what the
statements say of locations after them, and where the variables of the edited ones are placed. -/
inductive Edits (stage : Stage) (source : Text) :
    List Statement → List Edit → List Mark → List Placement → Prop where
  | nil : Edits stage source [] [] [] []
  | keep {statement : Statement} {statements : List Statement} {edits : List Edit}
      {marks : List Mark} {placed : List Placement}
      (hunwanting : Unwanting stage statement.text)
      (hrest : Edits stage source statements edits marks placed) :
      Edits stage source (statement :: statements) edits (marksOf statement.text ++ marks) placed
  | edit {statement : Statement} {statements : List Statement} {edits : List Edit}
      {said marks : List Mark} {given placed : List Placement} {d : InterfaceDeclaration}
      {edit : Edit}
      (hd : InterfaceDeclaration.ofTokens? statement.tokens = some d) (hwants : d.Wants stage)
      (hclean : Clean source statement d) (hlays : Lays source d said edit)
      (hsites : said.flatMap (Mark.sites stage) = given.map Placement.site)
      (hrest : Edits stage source statements edits marks placed) :
      Edits stage source (statement :: statements) (edit :: edits) (said ++ marks) (given ++ placed)

/-- The second pass makes the edits of the statements in order, and places the variables of those
that are edited. -/
lemma layOutAll_editsOf : ∀ {statements : List Statement} {progress after : Progress},
    (∀ statement ∈ statements, ∀ d ∈ InterfaceDeclaration.ofTokens? statement.tokens,
      d.Wants stage → Clean source statement d) →
    (statements.filterMap fun statement => InterfaceDeclaration.ofTokens? statement.tokens).foldlM
        (Progress.layOut stage source) progress = .ok after →
      ∃ edits marks placed, after.edits = progress.edits ++ edits ∧
        after.placements = progress.placements ++ placed ∧
          Edits stage source statements edits marks placed
  | [], progress, after, _, h => by
      rw [List.filterMap_nil, List.foldlM_nil, pure_eq_ok] at h
      exact ⟨[], [], [], by rw [h, List.append_nil], by rw [h, List.append_nil], .nil⟩
  | statement :: statements, progress, after, hclean, h => by
      rw [List.forall_mem_cons] at hclean
      rw [List.filterMap_cons] at h
      cases hd : InterfaceDeclaration.ofTokens? statement.tokens with
      | none =>
          simp only [hd] at h
          obtain ⟨edits, marks, placed, hedits, hplaced, hrest⟩ := layOutAll_editsOf hclean.2 h
          exact ⟨edits, _, placed, hedits, hplaced, .keep (unwanting_iff.2 (by simp [hd])) hrest⟩
      | some d =>
          simp only [hd, List.foldlM_cons, bind_eq_ok] at h
          obtain ⟨middle, hmiddle, h⟩ := h
          obtain ⟨edits, marks, placed, hedits, hplaced, hrest⟩ := layOutAll_editsOf hclean.2 h
          rcases Progress.layOut_lays hmiddle with
            ⟨hnot, hsame, hunplaced⟩ | ⟨hwants, said, edit, given, hlays⟩
          · refine ⟨edits, _, placed, by rw [hedits, hsame], by rw [hplaced, hunplaced],
              .keep (unwanting_iff.2 ?_) hrest⟩
            intro other hother
            obtain rfl := Option.some.inj (hd.symm.trans hother)
            exact hnot
          · exact ⟨edit :: edits, _, given ++ placed,
              by rw [hedits, hlays.edits, List.append_assoc]; rfl,
              by rw [hplaced, hlays.placements, List.append_assoc],
              .edit hd hwants (hclean.1 d hd hwants) hlays.lays hlays.sites hrest⟩

/-- The items of a statement once the source is laid out. -/
def outcome (stage : Stage) (source : Text) (statement : Statement) : List Item :=
  ((InterfaceDeclaration.ofTokens? statement.tokens).filter fun d => d.Wants stage).elim
    (itemsOf statement.text) (·.laidItems source)

/-- What wants something is laid out. -/
lemma outcome_of_wants {statement : Statement} {d : InterfaceDeclaration}
    (hd : InterfaceDeclaration.ofTokens? statement.tokens = some d) (hwants : d.Wants stage) :
    outcome stage source statement = d.laidItems source := by
  rw [outcome, hd, Option.filter_some_pos (by simpa using hwants), Option.elim_some]

/-- What wants nothing stays. -/
lemma outcome_of_unwanting {statement : Statement} (h : Unwanting stage statement.text) :
    outcome stage source statement = itemsOf statement.text := by
  rw [outcome]
  cases hd : InterfaceDeclaration.ofTokens? statement.tokens with
  | none => rfl
  | some d =>
      have hnot := unwanting_iff.1 h d hd
      rw [Option.filter_some_neg (by simpa using hnot), Option.elim_none]

/-- The declarations of statements that are edited. -/
def edited (stage : Stage) (statements : List Statement) : List InterfaceDeclaration :=
  statements.flatMap fun statement =>
    ((InterfaceDeclaration.ofTokens? statement.tokens).filter fun d => d.Wants stage).toList

/-- Statements are edited one by one. -/
lemma edited_cons (statement : Statement) (statements : List Statement) :
    edited stage (statement :: statements)
      = edited stage [statement] ++ edited stage statements := by
  rw [edited, edited, edited, List.flatMap_cons, List.flatMap_cons, List.flatMap_nil,
    List.append_nil]

lemma edited_of_wants {statement : Statement} {d : InterfaceDeclaration}
    (hd : InterfaceDeclaration.ofTokens? statement.tokens = some d) (hwants : d.Wants stage) :
    edited stage [statement] = [d] := by
  rw [edited, List.flatMap_singleton, hd, Option.filter_some_pos (by simpa using hwants)]
  rfl

lemma edited_of_unwanting {statement : Statement} (h : Unwanting stage statement.text) :
    edited stage [statement] = [] := by
  rw [edited, List.flatMap_singleton, Option.toList_eq_nil_iff]
  cases hd : InterfaceDeclaration.ofTokens? statement.tokens with
  | none => rfl
  | some d => exact Option.filter_some_neg (by simpa using unwanting_iff.1 h d hd)

/-! ## Texts with edits made -/

/-- With the edits made, the source goes on with `text` from a position on, wherever before it the
copying has come to. -/
def Copies (source : Text) (position : ℕ) (edits : List Edit) (text : Text) : Prop :=
  ∀ copied ≤ position, Edit.applyFrom id source copied edits = source.slice copied position ++ text

section Copies

variable {done old middle rest new later : Text} {edits : List Edit}

/-- With no edits left, the rest is copied. -/
lemma copies_nil (hsource : source = done ++ rest) : Copies source done.length [] rest := by
  intro copied hcopied
  rw [Edit.applyFrom, id_eq, hsource, Text.slice, List.take_left]
  exact List.drop_append_of_le_length hcopied

/-- Text without an edit is copied. -/
lemma Copies.copy (hsource : source = done ++ (middle ++ rest))
    (h : Copies source (done.length + middle.length) edits later) :
    Copies source done.length edits (middle ++ later) := by
  intro copied hcopied
  rw [h copied (hcopied.trans (Nat.le_add_right _ _)),
    ← Text.slice_append source hcopied (Nat.le_add_right _ middle.length), List.append_assoc,
    slice_eq done middle rest hsource rfl rfl]

/-- An edit puts its new text for the old one. -/
lemma Copies.edit {edit : Edit} (hsource : source = done ++ (old ++ rest))
    (hreplaces : Replaces done.length edit old new)
    (h : Copies source (done.length + old.length) edits later) :
    Copies source done.length (edit :: edits) (new ++ later) := by
  obtain ⟨before, middle, after, rfl, hstart, hstop, rfl⟩ := hreplaces
  intro copied hcopied
  have hbefore : source.slice done.length edit.span.start = before :=
    slice_eq done before (middle ++ after ++ rest) (by simp [hsource]) rfl hstart
  have hlength : done.length + (before ++ (middle ++ after)).length
      = edit.span.stop + after.length := by
    rw [hstop, hstart]
    simp only [List.length_append]
    omega
  have hafter : source.slice edit.span.stop (edit.span.stop + after.length) = after := by
    refine slice_eq (done ++ (before ++ middle)) after rest (by simp [hsource]) ?_ rfl
    rw [hstop, hstart]
    simp only [List.length_append]
    omega
  rw [hlength] at h
  rw [Edit.applyFrom, id_eq, h _ (Nat.le_add_right _ _), hafter,
    ← Text.slice_append source hcopied (hstart ▸ Nat.le_add_right _ _), hbefore]
  simp only [List.append_assoc]

end Copies

/-! ## Where statements begin -/

/-- A piece after which a statement may begin: a sign other than a slash, or no token. -/
def Delimits (piece : Piece) : Prop :=
  piece.kind = .token → ∃ c, piece.text.head? = some c ∧ isWordChar c = false ∧ c ≠ '/'

/-- A reading at the beginning of a statement.  What is left of the token before it is all that is
read of it. -/
structure Begins (reading : Reading) : Prop where
  depth : reading.depth = 0
  inFunction : reading.inFunction = false
  current : ∀ c, reading.current.head? = some c → isAscii c = false

section Begins

variable {piece : Piece} {pieces : List Piece} {start : Bool} {rest old new : Text}

/-- A statement begins after a semicolon. -/
lemma delimits_of_isSemicolon (h : piece.IsSemicolon) : Delimits piece :=
  fun _ => ⟨';', h.2, by decide, by decide⟩

/-- A statement begins after a closing brace. -/
lemma delimits_of_closes (h : piece.Closes) : Delimits piece :=
  fun _ => ⟨'}', h.2, by decide, by decide⟩

/-- A statement begins after a directive. -/
lemma delimits_of_directive (h : piece.kind = .directive) : Delimits piece := by
  intro hkind
  rw [h] at hkind
  exact absurd hkind (by decide)

/-- After a piece that delimits, the reading begins a statement with what is left of the piece. -/
lemma begins_fresh (hfits : piece.Fits start rest) (hdelimits : Delimits piece) :
    Begins (Reading.fresh piece) := by
  refine ⟨rfl, rfl, fun c hc => ?_⟩
  rw [Reading.fresh] at hc
  split_ifs at hc with hkind
  · obtain ⟨d, hd, hword, _⟩ := hdelimits hkind
    obtain ⟨kind, text⟩ := piece
    obtain rfl : kind = .token := hkind
    obtain ⟨tail, rfl⟩ := List.head?_eq_some_iff.1 hd
    have hall := List.all_eq_true.1 (fits_token_iff.1 hfits).2.2.2.1 c (List.mem_of_mem_head? hc)
    rw [goesOn, if_neg (by simp [hword])] at hall
    simpa using hall
  · exact absurd hc (by simp)

/-- A piece that delimits fits before a changed text. -/
lemma fits_of_mayFollow (hfits : piece.Fits start old) (hdelimits : Delimits piece)
    (hfollow : MayFollow old new) : piece.Fits start new := by
  rcases hfollow with hhead | ⟨⟨c, hc, hword⟩, hascii⟩
  · exact hfits.congr_head hhead
  · obtain ⟨rest, rfl⟩ := List.head?_eq_some_iff.1 hc
    by_cases hkind : piece.kind = .token
    · obtain ⟨d, hd, hsign, hslash⟩ := hdelimits hkind
      obtain ⟨kind, text⟩ := piece
      obtain rfl : kind = .token := hkind
      obtain ⟨tail, rfl⟩ := List.head?_eq_some_iff.1 hd
      exact hfits.follow_sign hsign hslash hascii
    · exact hfits.replace_word hkind hword new

/-- So do pieces of which the last delimits. -/
lemma reads_of_mayFollow (hreads : Reads start pieces old)
    (hlast : ∀ piece ∈ pieces.getLast?, Delimits piece) (hfollow : MayFollow old new) :
    Reads start pieces new :=
  hreads.change fun piece hpiece _ hfits => fits_of_mayFollow hfits (hlast piece hpiece) hfollow

/-- What is read before a statement that begins: nothing, or pieces of which the last delimits. -/
lemma exists_begins {reading : Reading} {before : List Piece} (hbegins : Begins reading)
    (hreads : Reads start before rest)
    (hnone : ∀ position, reading.statements position before = []) :
    ∃ skipped body, before = skipped ++ body ∧ (reading.run skipped).Keeps body ∧
      Begins (reading.run skipped) ∧ ∀ piece ∈ skipped.getLast?, Delimits piece := by
  obtain ⟨skipped, body, rfl, hkeeps, rfl | ⟨earlier, last, rfl, hresets, hfresh⟩⟩ :=
    Reading.exists_statement reading before hnone
  · exact ⟨[], body, rfl, hkeeps, hbegins, by simp⟩
  · have hlast : Delimits last := by
      rcases hresets with hfunction | hdirects
      · exact delimits_of_closes hfunction.1
      · exact delimits_of_directive hdirects.1
    rw [reads_append, reads_append] at hreads
    refine ⟨earlier ++ [last], body, rfl, hkeeps, ?_, by simpa using hlast⟩
    rw [hfresh]
    exact begins_fresh hreads.1.2.1 hlast

end Begins

/-! ## One statement -/

/-- **Each statement is settled.**  Its text is what the edits make of it, and so are its items, its
preprocessor lines and what it says of locations. -/
theorem exists_settled {reading : Reading} {earlier body after : List Piece} {stop : Piece}
    {statement : Statement} {statements : List Statement} {edits : List Edit} {marks : List Mark}
    {placed : List Placement}
    (hscan : scan source = earlier ++ (body ++ stop :: after)) (hbegins : Begins reading)
    (hstatement : statement = {
      start := (textOf (earlier ++ body)).length - (reading.current ++ textOf body).length
      text := reading.current ++ textOf body })
    (hkeeps : reading.Keeps body) (hends : (reading.run body).Ends stop)
    (hedits : Edits stage source (statement :: statements) edits marks placed) :
    ∃ new others said rest later, marks = said ++ rest ∧ Settles stage reading body new ∧
      Renders reading new (outcome stage source statement) said ∧
      Redirected (·.directives source) (·.laidDirectives source) (edited stage [statement])
        (directives body) (directives new) ∧ Edits stage source statements others rest later ∧
      ∀ later, Copies source (textOf (earlier ++ body)).length others later →
        Copies source (textOf earlier).length edits (textOf new ++ later) := by
  have hsource : source = textOf earlier ++ (textOf body ++ textOf (stop :: after)) := by
    rw [← textOf_append]
    exact source_eq hscan
  subst hstatement
  rw [textOf_append, List.length_append] at hedits ⊢
  cases hedits with
  | keep hunwanting hrest =>
      have hrenders := (leaves_of_keeps hkeeps hends.2).renders
      rw [List.flatMap_singleton, List.flatMap_singleton] at hrenders
      rw [outcome_of_unwanting hunwanting, edited_of_unwanting hunwanting]
      exact ⟨body, edits, _, _, placed, rfl, settles_self hkeeps hends.2 hunwanting, hrenders, .same _, hrest,
        fun later hlater => hlater.copy hsource⟩
  | @edit _ _ others said marks _ placed d edit hd hwants hclean hlays _ hrest =>
      rw [outcome_of_wants hd hwants, edited_of_wants hd hwants]
      -- nothing is left of the token before, so that the statement is its pieces
      obtain rfl : reading = {} := by
        obtain ⟨depth, inFunction, current⟩ := reading
        obtain ⟨rfl, rfl, hcurrent⟩ := hbegins
        cases current with
        | nil => rfl
        | cons c text =>
            rw [Statement.tokens, List.cons_append, ofTokens?_eq_none (hcurrent c rfl)] at hd
            exact absurd hd (by simp)
      have hstart : (textOf earlier).length + (textOf body).length - (textOf body).length
          = (textOf earlier).length := Nat.add_sub_cancel ..
      rw [List.nil_append, hstart] at hd hclean
      obtain ⟨more, hmore⟩ : ∃ more, textOf (stop :: after) = ';' :: more := by
        obtain ⟨tail, htail⟩ := List.head?_eq_some_iff.1 hends.1.2
        exact ⟨tail ++ textOf after, by rw [textOf_cons, htail]; rfl⟩
      have hreads : Reads true body (';' :: more) := by
        have hall := (reads_parts hscan).2
        rw [reads_append, List.append_nil, hmore] at hall
        exact hall.1.at_lineStart (hclean.plain.ne_hash hscan)
      rw [Statement.tokens, scan_textOf hreads.nil] at hd
      rw [hmore] at hsource
      obtain ⟨new, hsettles, hrenders, hreplaces, hlines⟩ := exists_settles hd hsource hreads
        hkeeps hends.2 hclean.separable hwants.layoutValue_eq_none hlays
      exact ⟨new, others, said, marks, placed, rfl, hsettles, hrenders, hlines, hrest,
        fun later hlater => hlater.edit hsource hreplaces⟩

/-! ## All statements -/

/-- The statements of new pieces and of what follows their semicolon want nothing. -/
lemma Yields.unwanting {reading : Reading} {pieces after : List Piece} {stop : Piece}
    (h : Yields stage reading pieces) (hstop : stop.IsSemicolon)
    (hafter : ∀ position, ∀ statement ∈ (Reading.fresh stop).statements position after,
      Unwanting stage statement.text) :
    ∀ position, ∀ statement ∈ reading.statements position (pieces ++ stop :: after),
      Unwanting stage statement.text := by
  intro position statement hstatement
  have hends : (reading.run pieces).Ends stop := ⟨hstop, h.depth⟩
  have hstep : (reading.run pieces).step stop = Reading.fresh stop := if_pos (Or.inl hends)
  rw [Reading.statements_append, Reading.statements, if_pos hends, hstep, List.mem_append,
    List.mem_cons] at hstatement
  rcases hstatement with hstatement | rfl | hstatement
  · exact h.statements _ _ hstatement
  · exact h.current
  · exact hafter _ _ hstatement

/-- What is read off the statements of new pieces, and then off those of what follows their
semicolon. -/
lemma flatMap_after_semicolon {α : Type} {f : Text → List α} {reading : Reading}
    {pieces after : List Piece} {stop : Piece} {found later : List α}
    (h : ∀ position, ((reading.statements position pieces).map Statement.text
      ++ [(reading.run pieces).current]).flatMap f = found)
    (hends : (reading.run pieces).Ends stop)
    (hafter : ∀ position, ((Reading.fresh stop).statements position after).flatMap (f ·.text)
      = later) :
    ∀ position, (reading.statements position (pieces ++ stop :: after)).flatMap (f ·.text)
      = found ++ later := by
  intro position
  have hstep : (reading.run pieces).step stop = Reading.fresh stop := if_pos (Or.inl hends)
  rw [Reading.statements_append, Reading.statements, if_pos hends, hstep, List.flatMap_append,
    List.flatMap_cons, hafter, ← h position, List.flatMap_append, List.flatMap_map,
    List.flatMap_cons, List.flatMap_nil, List.append_nil, List.append_assoc]

/-- New pieces for the rest of a source, where the reading begins a statement. -/
structure Rewritten (stage : Stage) (source : Text) (earlier pieces : List Piece)
    (reading : Reading) (edits : List Edit) (marks : List Mark) (new : List Piece) : Prop where
  reads : Reads (lineStartAfterAll true earlier) new []
  mayFollow : MayFollow (textOf pieces) (textOf new)
  copies : Copies source (textOf earlier).length edits (textOf new)
  unwanting : ∀ position, ∀ statement ∈ reading.statements position new,
    Unwanting stage statement.text
  items : ∀ position, (reading.statements position new).flatMap (itemsOf ·.text)
    = (reading.statements (textOf earlier).length pieces).flatMap (outcome stage source)
  marks : ∀ position, (reading.statements position new).flatMap (marksOf ·.text) = marks
  lines : Redirected (·.directives source) (·.laidDirectives source)
    (edited stage (reading.statements (textOf earlier).length pieces)) (directives pieces)
    (directives new)

section Rewritten

variable {earlier skipped body after new later : List Piece} {stop : Piece} {reading : Reading}
  {statement : Statement} {edits others : List Edit} {said marks : List Mark}

/-- A settled statement between pieces that are skipped and a rewritten rest. -/
lemma Rewritten.settled (hlast : ∀ piece ∈ skipped.getLast?, Delimits piece)
    (hnone : ∀ position, reading.statements position skipped = []) (hstop : stop.IsSemicolon)
    (hscan : scan source = earlier ++ (skipped ++ (body ++ stop :: after)))
    (hsettles : Settles stage (reading.run skipped) body new)
    (hrenders : Renders (reading.run skipped) new (outcome stage source statement) said)
    (hlines : Redirected (·.directives source) (·.laidDirectives source)
      (edited stage [statement]) (directives body) (directives new))
    (hstatements : reading.statements (textOf earlier).length (skipped ++ (body ++ stop :: after))
      = statement :: (Reading.fresh stop).statements
          (textOf (earlier ++ skipped ++ body ++ [stop])).length after)
    (hcopies : ∀ text, Copies source (textOf (earlier ++ skipped ++ body)).length others text →
      Copies source (textOf (earlier ++ skipped)).length edits (textOf new ++ text))
    (hlater : Rewritten stage source (earlier ++ skipped ++ body ++ [stop]) after
      (Reading.fresh stop) others marks later) :
    Rewritten stage source earlier (skipped ++ (body ++ stop :: after)) reading edits (said ++ marks)
      (skipped ++ (new ++ stop :: later)) := by
  obtain ⟨tail, htail⟩ := List.head?_eq_some_iff.1 hstop.2
  obtain rfl : stop = token (';' :: tail) := htail ▸ eq_token hstop.1
  have hold := (reads_parts hscan).2
  rw [reads_append, reads_append, List.append_nil, List.append_nil] at hold
  obtain ⟨hskipped, hbody, hfits, _⟩ := hold
  have hfollow : MayFollow (textOf (body ++ token (';' :: tail) :: after))
      (textOf (new ++ token (';' :: tail) :: later)) := by
    rw [textOf_append, textOf_append]
    exact hsettles.mayFollow _ _
  have hends : (Reading.run (reading.run skipped) new).Ends (token (';' :: tail)) :=
    ⟨hstop, hsettles.yields.depth⟩
  refine ⟨?_, ?_, ?_, ?_, ?_, ?_, ?_⟩
  · obtain ⟨hlater, hmayFollow, _⟩ := hlater
    rw [lineStartAfterAll_of_getLast? List.getLast?_concat rfl] at hlater
    rw [reads_append, reads_append, List.append_nil, List.append_nil]
    refine ⟨reads_of_mayFollow hskipped hlast hfollow,
      (hsettles.reads _ _ hbody).congr_head rfl, ?_, hlater⟩
    rw [List.append_nil] at hfits ⊢
    exact (fits_of_mayFollow hfits (delimits_of_isSemicolon hstop) hmayFollow).anywhere rfl
      (by simp [token]) _
  · cases skipped with
    | nil => exact hfollow
    | cons piece skipped =>
        left
        rw [List.cons_append, List.cons_append, textOf_cons, textOf_cons,
          List.head?_append_of_ne_nil _ hskipped.1.text_ne_nil,
          List.head?_append_of_ne_nil _ hskipped.1.text_ne_nil]
  · have hcopied := hlater.copies
    rw [textOf_append _ [_], textOf_cons, textOf_nil, List.append_nil, List.length_append]
      at hcopied
    have hbefore : source = textOf (earlier ++ skipped ++ body)
        ++ ((token (';' :: tail)).text ++ textOf after) := by
      rw [source_eq hscan]
      simp
    have hstatement := hcopies _ (hcopied.copy hbefore)
    rw [textOf_append, List.length_append] at hstatement
    have hparts : source = textOf earlier
        ++ (textOf skipped ++ textOf (body ++ token (';' :: tail) :: after)) := by
      rw [source_eq hscan, textOf_append]
    rw [textOf_append, textOf_append, textOf_cons]
    exact hstatement.copy hparts
  · intro position statement hstatement
    rw [Reading.statements_append, hnone, List.nil_append] at hstatement
    exact hsettles.yields.unwanting hstop hlater.unwanting _ statement hstatement
  · intro position
    rw [Reading.statements_append, hnone, List.nil_append, hstatements, List.flatMap_cons]
    exact flatMap_after_semicolon hrenders.items hends hlater.items _
  · intro position
    rw [Reading.statements_append, hnone, List.nil_append]
    exact flatMap_after_semicolon hrenders.marks hends hlater.marks _
  · rw [hstatements, edited_cons]
    simp only [directives_append, directives_token]
    exact (Redirected.same _).append (hlines.append hlater.lines)

/-- **Each source is rewritten to pieces whose statements want nothing** and have the items and the
preprocessor lines that come of the old ones.  By induction on the pieces that are left: up to the
next semicolon they are pieces that are skipped and one statement. -/
theorem exists_rewritten {earlier pieces : List Piece} {reading : Reading} {edits : List Edit}
    {marks : List Mark} {placed : List Placement}
    (hscan : scan source = earlier ++ pieces) (hbegins : Begins reading)
    (hedits : Edits stage source (reading.statements (textOf earlier).length pieces) edits marks
      placed) :
    ∃ new, Rewritten stage source earlier pieces reading edits marks new := by
  have hreads := (reads_parts hscan).2
  rcases reading.exists_first_end pieces with hnone | ⟨before, stop, after, rfl, hnone, hends⟩
  · rw [hnone] at hedits
    cases hedits with
    | nil =>
        refine ⟨pieces, hreads, Or.inl rfl, copies_nil (source_eq hscan),
          fun position statement hmem => ?_, fun position => by rw [hnone, hnone]; rfl,
          fun position => by rw [hnone]; rfl, by rw [hnone]; exact .same _⟩
        rw [hnone] at hmem
        exact absurd hmem List.not_mem_nil
  · rw [reads_append] at hreads
    obtain ⟨skipped, body, rfl, hkeeps, hbegins, hlast⟩ :=
      exists_begins hbegins hreads.1 hnone
    rw [Reading.run_append] at hends
    have hskipped : ∀ position, reading.statements position skipped = [] := fun position =>
      (List.append_eq_nil_iff.1 (Reading.statements_append.symm.trans (hnone position))).1
    rw [List.append_assoc] at hscan hedits ⊢
    have hstatements : reading.statements (textOf earlier).length
        (skipped ++ (body ++ stop :: after)) = {
            start := (textOf (earlier ++ skipped ++ body)).length
              - ((reading.run skipped).current ++ textOf body).length
            text := (reading.run skipped).current ++ textOf body }
          :: (Reading.fresh stop).statements
            (textOf (earlier ++ skipped ++ body ++ [stop])).length after := by
      rw [Reading.statements_append, hskipped, List.nil_append, hkeeps.statements_ends hends]
      simp only [textOf_append, textOf_cons, textOf_nil, List.append_nil, List.length_append]
    rw [hstatements] at hedits
    have hstatement : scan source = (earlier ++ skipped) ++ (body ++ stop :: after) := by
      rw [hscan, List.append_assoc]
    obtain ⟨new, others, said, rest, later, rfl, hsettles, hrenders, hlines, hothers, hcopies⟩ :=
      exists_settled hstatement hbegins rfl hkeeps hends hedits
    have hafter : scan source = (earlier ++ skipped ++ body ++ [stop]) ++ after := by
      rw [hscan]
      simp
    obtain ⟨later, hlater⟩ := exists_rewritten hafter
      (begins_fresh hreads.2.1 (delimits_of_isSemicolon hends.1)) hothers
    exact ⟨_, Rewritten.settled hlast hskipped hends.1 hscan hsettles hrenders hlines hstatements
      hcopies hlater⟩
termination_by pieces.length
decreasing_by
  subst_vars
  rw [List.length_append, List.length_cons]
  omega

/-- A clean source that is laid out is rewritten. -/
lemma exists_rewritten_laidOut (hclean : AllClean stage source) {varyings : VaryingLocations}
    {out : LaidOut} (h : assignLayouts stage source varyings = .ok out) :
    ∃ edits marks new, Rewritten stage source [] (scan source) {} edits marks new ∧
      out.text = textOf new ∧
        Edits stage source (statementsOf source) edits marks out.placements := by
  simp only [assignLayouts, bind_eq_ok, pure_eq_ok] at h
  obtain ⟨usage, _, last, hlast, rfl⟩ := h
  rw [InterfaceDeclaration.all_eq] at hlast
  obtain ⟨edits, marks, placed, hlastEdits, hlastPlaced, hedits⟩ := layOutAll_editsOf hclean hlast
  obtain rfl : last.edits = edits := hlastEdits
  obtain rfl : last.placements = placed := hlastPlaced
  have hscan : scan source = [] ++ scan source := rfl
  obtain ⟨new, hnew⟩ := exists_rewritten hscan ⟨rfl, rfl, by simp⟩ hedits
  refine ⟨last.edits, marks, new, hnew, ?_, hedits⟩
  have hall := hnew.copies 0 le_rfl
  rwa [textOf_nil, List.length_nil, Text.slice_self, List.nil_append] at hall

end Rewritten

/-! ## The result -/

/-- **Laying out is idempotent on clean sources.**  Laying out a text that a source was laid out to
returns that text, whichever locations the two registries remember. -/
theorem assignLayouts_idempotent (hclean : AllClean stage source)
    {first second : VaryingLocations} {once twice : LaidOut}
    (honce : assignLayouts stage source first = .ok once)
    (htwice : assignLayouts stage once.text second = .ok twice) : twice.text = once.text := by
  obtain ⟨edits, marks, new, hnew, htext, _⟩ := exists_rewritten_laidOut hclean honce
  refine text_eq_of_not_wants (fun d hd => ?_) htwice
  rw [InterfaceDeclaration.all_eq, List.mem_filterMap] at hd
  obtain ⟨statement, hstatement, hd⟩ := hd
  refine unwanting_iff.1 (hnew.unwanting 0 statement ?_) d hd
  have hself := scanFrom_of_reads hnew.reads
  rw [List.append_nil, scanFrom, List.append_nil] at hself
  rw [← hself, ← htext]
  exact hstatement

/-- A fragment shader in which edits of every kind are made, between comments, a directive and
braces. -/
def mixedFragment : Text :=
  ("/* a */ #version 300\nuniform sampler2D a, b /*;*/;void f() \x7b in int x; \x7d\n" ++
    "in mat3 u, v[2];layout(index = 0) out vec4 c;").toList

/-- A registry that remembers other locations. -/
def otherRegistry : VaryingLocations := { assigned := [("u".toList, 5)], next := 15 }

/-- The texts of a source that is laid out and laid out again. -/
def textsLaidOut (stage : Stage) (source : Text) (first second : VaryingLocations) :
    Except Overflow (Text × Text) := do
  let once ← assignLayouts stage source first
  let twice ← assignLayouts stage once.text second
  return (once.text, twice.text)

/-- Edits of every kind are made, and then none, although the registry is another one. -/
theorem assignLayouts_idempotent_mixed : ∃ once twice,
    AllClean .fragment mixedFragment ∧
      assignLayouts .fragment mixedFragment {} = .ok once ∧
        assignLayouts .fragment once.text otherRegistry = .ok twice ∧
          once.text ≠ mixedFragment ∧ twice.text = once.text := by
  have hclean : AllClean .fragment mixedFragment := by
    unfold mixedFragment
    rw [String.toList_append]
    repeat rw [toList_literal rfl]
    decide +kernel
  have hruns : (textsLaidOut .fragment mixedFragment {} otherRegistry).map
      (fun texts => decide (texts.1 = mixedFragment)) = .ok false := by
    unfold mixedFragment
    rw [String.toList_append]
    repeat rw [toList_literal rfl]
    decide +kernel
  simp only [textsLaidOut, map_eq_ok, bind_eq_ok, pure_eq_ok] at hruns
  obtain ⟨_, ⟨once, honce, twice, htwice, rfl⟩, hne⟩ := hruns
  exact ⟨once, twice, hclean, honce, htwice, by simpa using hne,
    assignLayouts_idempotent hclean honce htwice⟩

/-! ## Sources that are not clean -/

/-- Laying out a source and laying it out again changes the text again. -/
def ChangesAgain (stage : Stage) (source : Text) (first second : VaryingLocations) : Prop :=
  ∃ once twice, assignLayouts stage source first = .ok once ∧
    assignLayouts stage once.text second = .ok twice ∧ twice.text ≠ once.text

lemma changesAgain_of_texts {first second : VaryingLocations}
    (h : (textsLaidOut stage source first second).map (fun texts => decide (texts.2 = texts.1))
      = .ok false) : ChangesAgain stage source first second := by
  simp only [textsLaidOut, map_eq_ok, bind_eq_ok, pure_eq_ok] at h
  obtain ⟨_, ⟨once, honce, twice, htwice, rfl⟩, hne⟩ := h
  exact ⟨once, twice, honce, htwice, by simpa using hne⟩

/-- A declarator that ends in a slash.  The one after it is dropped, so that the slash meets the
comment, and what stood in a function is outside. -/
def slashedVertex : Text :=
  "out vec4 a,c/,gl_P/**/;void f()\x7b\nint x;out vec4 b;\x7d".toList

/-- A brace that makes one token with a letter that is no ASCII character.  It is dropped with its
declarator, and what stood in the braces is outside. -/
def bracedVertex : Text := "out vec4 a,gl_P\x7b\u00e9,c;out vec4 z,b\x7d;".toList

/-- A hash after other code on its line.  Read by itself, the statement starts with a directive, and
its declaration is split within what is a comment of the source. -/
def hashedVertex : Text := "int q;#define X /*\nout vec4 a,b*,gl_P/*;out vec4 d;*/;".toList

/-- **Sources that are not clean may be changed again**, whichever of the three conditions they
miss. -/
theorem assignLayouts_changes_again : ChangesAgain .vertex slashedVertex {} {} ∧
    ChangesAgain .vertex bracedVertex {} {} ∧ ChangesAgain .vertex hashedVertex {} {} := by
  refine ⟨changesAgain_of_texts ?_, changesAgain_of_texts ?_, changesAgain_of_texts ?_⟩
  · unfold slashedVertex
    rw [toList_literal rfl]
    decide +kernel
  · unfold bracedVertex
    rw [toList_literal rfl]
    decide +kernel
  · unfold hashedVertex
    rw [toList_literal rfl]
    decide +kernel

end GlBridge.Layout
