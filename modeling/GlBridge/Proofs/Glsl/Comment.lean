import GlBridge.Proofs.Glsl.Slicing

/-!
# Comments between tokens

Comments are no tokens, so one would expect a source to declare the same with a blank in the place
of a comment.  A statement is a part of the text, though, and there are two questions to which the
search for statements takes the answer from that text, comments included: whether a brace opens a
function body, and whether a preprocessor line has nothing before it.

**Regular sources.**  In a source without stray hashes and exotic blanks a statement has the words
of its pieces (`Held.words_current`), and where a preprocessor line starts a statement anew no word
is lost (`Held.step`).  So it is only function bodies that matter.

**Function bodies.**  A statement starts after the last function body before its end, `lastBody`.
Which words it has says which body that is (`wordsSince_inj`).

* `Held.step` — what one piece does to the words of the current statement;
* `Held.words_ended`, `wordsSince_inj` — the words of a statement, and that they say where it
  starts;
* `Held.lastBody_eq` — what stands before a token is of no account, if the token opens no body;
* `declaredWords_uncommented_iff` — the words declared stay the same exactly if the last function
  body before the end of the statement stays the same, and they do unless an opening brace outside
  all others is the first token after the comment.
-/

namespace GlBridge.Glsl

open Text Piece

/-! ## Regular sources -/

/-- The piece is no token with a hash at its beginning or a blank in it. -/
def Piece.Regular (piece : Piece) : Prop :=
  piece.kind = .token → piece.text.head? ≠ some '#' ∧ piece.text.all (fun c => !isBlank c) = true

instance (piece : Piece) : Decidable piece.Regular := inferInstanceAs (Decidable (_ → _))

/-- All pieces of a source are regular. -/
def Regular (source : Text) : Prop := ∀ piece ∈ scan source, piece.Regular

instance (source : Text) : Decidable (Regular source) :=
  inferInstanceAs (Decidable (∀ piece ∈ scan source, piece.Regular))

/-- What is left of a token that starts a statement anew. -/
def Piece.remainder (piece : Piece) : List Piece :=
  if piece.kind = .token ∧ piece.text.tail ≠ [] then [token piece.text.tail] else []

namespace Reading

section Held

variable {reading : Reading} {piece : Piece} {pieces held : List Piece} {lineStart : Bool}
  {rest : Text}

/-- The current statement is made of pieces that are read the same by themselves. -/
structure Held (reading : Reading) (lineStart : Bool) (held : List Piece) (rest : Text) : Prop where
  current : reading.current = textOf held
  reads : Reads true held rest
  lineStart_le : lineStart = true → lineStartAfterAll true held = true
  unhashed : Unhashed reading.current
  started : words held ≠ [] → Started reading.current
  nested : reading.depth ≠ 0 → words held ≠ []
  outside : reading.depth = 0 → reading.inFunction = false

lemma held_nil (lineStart : Bool) (rest : Text) : Held {} lineStart [] rest :=
  ⟨rfl, trivial, fun _ => rfl, by simp [Unhashed, trimStart], by simp, by simp, fun _ => rfl⟩

namespace Held

/-- The words of the current statement are those of its pieces. -/
lemma words_current (h : Held reading lineStart held rest) :
    words (scan reading.current) = words held := by
  rw [h.current, scan_textOf h.reads.nil]

/-- A directive that starts a statement anew comes before its first word. -/
lemma words_of_directs (h : Held reading lineStart held rest) (hdirects : reading.Directs piece) :
    words held = [] := by
  by_contra hwords
  exact not_directs (h.started hwords) hdirects

/-- What is added to a statement does not start with a hash. -/
lemma unhashed_keep {next : Text} (h : Held reading lineStart held rest)
    (hfits : piece.Fits lineStart next) (hregular : piece.Regular)
    (hresets : ¬ reading.Resets piece) :
    Unhashed (reading.current ++ piece.text)
      ∧ (piece.kind = .token → Started (reading.current ++ piece.text)) := by
  by_cases hkind : piece.kind = .token
  · obtain ⟨c, tail, htext, _⟩ := hfits
    obtain ⟨hhash, hblank⟩ := hregular hkind
    rw [htext, List.head?_cons] at hhash
    rw [htext, List.all_cons, Bool.and_eq_true, Bool.not_eq_true'] at hblank
    have hstarted : Started (reading.current ++ piece.text) := by
      rw [htext]
      exact h.unhashed.started_append rfl hblank.1 fun hc => hhash (congrArg some hc)
    exact ⟨hstarted.unhashed, fun _ => hstarted⟩
  · refine ⟨?_, fun htoken => absurd htoken hkind⟩
    rcases (fits_other_iff hkind).1 hfits with rfl | ⟨c, rfl, _, hblank⟩ | ⟨tail, rfl, _⟩
      | ⟨tail, rfl, _⟩ | ⟨tail, rfl, _, _⟩
    · exact h.unhashed.append_blank (by decide)
    · exact h.unhashed.append_blank (isBlank_of_isAsciiBlank hblank)
    · exact (h.unhashed.started_append rfl (by decide) (by decide)).unhashed
    · exact (h.unhashed.started_append rfl (by decide) (by decide)).unhashed
    · by_cases hdepth : reading.depth = 0
      · exact fun hhash => hresets (Or.inr (Or.inr ⟨rfl, hdepth, hhash⟩))
      · exact ((h.started (h.nested hdepth)).append _).unhashed

/-- Outside all braces the reading is in no function body. -/
lemma outside_keep (h : Held reading lineStart held rest) (hresets : ¬ reading.Resets piece) :
    (reading.keep piece).depth = 0 → (reading.keep piece).inFunction = false := by
  intro hdepth
  rw [Reading.keep] at hdepth ⊢
  dsimp only at hdepth ⊢
  split_ifs at hdepth with hopens hcloses
  · have hbody : ¬ (piece.Opens ∧ reading.depth = 0) := fun hbody => hopens hbody.1
    rw [if_neg hbody, ← Bool.not_eq_true]
    exact fun hfunction => hresets (Or.inr (Or.inl ⟨hcloses, by omega, hfunction⟩))
  · have hbody : ¬ (piece.Opens ∧ reading.depth = 0) := fun hbody => hopens hbody.1
    rw [if_neg hbody]
    exact h.outside hdepth

lemma reads_concat (h : Held reading lineStart held (textOf (piece :: pieces)))
    (hfits : piece.Fits lineStart (textOf pieces)) (hregular : piece.Regular) :
    Reads true (held ++ [piece]) (textOf pieces) := by
  rw [reads_append, textOf_cons, textOf_nil, List.append_nil, ← textOf_cons]
  refine ⟨h.reads, ?_, trivial⟩
  rw [textOf_nil, List.nil_append]
  by_cases hkind : piece.kind = .token
  · exact hfits.anywhere hkind (hregular hkind).1 _
  · cases hstart : lineStartAfterAll true held with
    | true => exact hfits.at_lineStart hkind
    | false =>
        have hfalse : lineStart = false := by
          rw [← Bool.not_eq_true]
          exact fun htrue => Bool.false_ne_true (hstart.symm.trans (h.lineStart_le htrue))
        rwa [← hfalse]

lemma lineStart_concat (h : Held reading lineStart held rest) (piece : Piece) :
    lineStartAfter lineStart piece.kind = true →
      lineStartAfterAll true (held ++ [piece]) = true := by
  have hlast : lineStartAfterAll true (held ++ [piece])
      = lineStartAfter (lineStartAfterAll true held) piece.kind := by
    rw [lineStartAfterAll, List.foldl_append]
    rfl
  rw [hlast]
  cases piece.kind with
  | token => exact fun hfalse => hfalse
  | lineFeed => exact fun _ => rfl
  | blank => exact h.lineStart_le
  | comment => exact h.lineStart_le
  | directive => exact h.lineStart_le

/-- A piece that is read on belongs to the statement. -/
lemma keep (h : Held reading lineStart held (textOf (piece :: pieces)))
    (hfits : piece.Fits lineStart (textOf pieces)) (hregular : piece.Regular)
    (hresets : ¬ reading.Resets piece) :
    Held (reading.keep piece) (lineStartAfter lineStart piece.kind) (held ++ [piece])
      (textOf pieces) := by
  have hunhashed := h.unhashed_keep hfits hregular hresets
  refine ⟨?_, h.reads_concat hfits hregular, h.lineStart_concat piece, hunhashed.1, ?_, ?_,
    h.outside_keep hresets⟩
  · rw [Reading.keep, h.current, textOf_append, textOf_cons, textOf_nil, List.append_nil]
  · intro hwords
    by_cases hkind : piece.kind = .token
    · exact hunhashed.2 hkind
    · rw [words_append, words_cons_other hkind, words_nil, List.append_nil] at hwords
      exact (h.started hwords).append _
  · intro hdepth
    by_cases hkind : piece.kind = .token
    · rw [words_append, eq_token hkind, words_token]
      simp
    · have hopens : ¬ piece.Opens := fun hopens => hkind hopens.1
      have hcloses : ¬ piece.Closes := fun hcloses => hkind hcloses.1
      rw [Reading.keep, if_neg hopens, if_neg hcloses] at hdepth
      rw [words_append, words_cons_other hkind, words_nil, List.append_nil]
      exact h.nested hdepth

end Held

/-- Where the reading starts anew, only a semicolon or a closing brace can have a remainder. -/
lemma head?_of_resets (hresets : reading.Resets piece) (hkind : piece.kind = .token) :
    piece.text.head? = some ';' ∨ piece.text.head? = some '}' := by
  rcases hresets with ⟨hsemicolon, _⟩ | ⟨hcloses, _⟩ | ⟨hdirective, _⟩
  · exact .inl hsemicolon.2
  · exact .inr hcloses.2
  · rw [hkind] at hdirective
    exact absurd hdirective (by simp)

/-- What is left of a sign is a token by itself. -/
lemma fits_remainder {c d : Char} {tail : Text}
    (hfits : Fits lineStart ⟨.token, c :: d :: tail⟩ rest) (hc : isWordChar c = false)
    (hd : isBlank d = false) : Fits true (token (d :: tail)) rest ∧ d ≠ '#' := by
  obtain ⟨_, _, _, hall, hend⟩ := fits_token_iff.1 hfits
  simp only [goesOn, hc, Bool.false_eq_true, if_false] at hall hend
  rw [List.all_cons, Bool.and_eq_true, Bool.not_eq_true'] at hall
  have hne : ∀ k, isAscii k = true → d ≠ k := fun k hk => ne_of_isAscii hk hall.1
  have hword : isWordChar d = false := by
    rw [← Bool.not_eq_true]
    exact fun hword => Bool.noConfusion (hall.1.symm.trans (isAscii_of_isWordChar hword))
  have hblank : isAsciiBlank d = false := by
    rw [← Bool.not_eq_true]
    exact fun hblank => Bool.noConfusion (hd.symm.trans (isBlank_of_isAsciiBlank hblank))
  rw [token, fits_token_iff, goesOn, if_neg (by simp [hword])]
  exact ⟨⟨hblank, fun h => absurd h (hne '/' (by decide)), fun h => absurd h (hne '#' (by decide)),
    hall.2, hend⟩, hne '#' (by decide)⟩

/-- A new statement starts with the remainder. -/
lemma held_fresh (hfits : piece.Fits lineStart (textOf pieces)) (hregular : piece.Regular)
    (hresets : reading.Resets piece) :
    Held (fresh piece) (lineStartAfter lineStart piece.kind) piece.remainder (textOf pieces) := by
  by_cases hkind : piece.kind = .token
  · obtain ⟨kind, text⟩ := piece
    obtain rfl : kind = .token := hkind
    obtain ⟨c, tail, rfl, _⟩ := id hfits
    cases tail with
    | nil => exact held_nil _ _
    | cons d tail =>
        have hc : isWordChar c = false := by
          rcases head?_of_resets hresets rfl with hhead | hhead <;>
            obtain rfl := Option.some.inj hhead <;> decide
        have hblanks := (hregular rfl).2
        simp only [List.all_cons, Bool.and_eq_true, Bool.not_eq_true'] at hblanks
        obtain ⟨hremainder, hhash⟩ := fits_remainder hfits hc hblanks.2.1
        have hstarted : Started ([] ++ d :: tail) :=
          Unhashed.started_append (by simp [Unhashed, trimStart]) rfl hblanks.2.1 hhash
        have hpiece : Piece.remainder ⟨.token, c :: d :: tail⟩ = [token (d :: tail)] := by
          simp [Piece.remainder]
        rw [hpiece]
        exact ⟨by simp [fresh, token], ⟨hremainder, trivial⟩,
          fun hfalse => absurd hfalse (by simp [lineStartAfter]), hstarted.unhashed,
          fun _ => hstarted, fun hdepth => absurd rfl hdepth, fun _ => rfl⟩
  · have hnone : piece.remainder = [] := if_neg fun h => hkind h.1
    rw [fresh, if_neg hkind, hnone]
    exact held_nil _ _

/-- Whether the words of the current statement are dropped at a piece. -/
def Drops (reading : Reading) (piece : Piece) : Prop :=
  reading.Ends piece ∨ reading.EndsFunction piece

instance (reading : Reading) (piece : Piece) : Decidable (reading.Drops piece) :=
  inferInstanceAs (Decidable (_ ∨ _))

/-- **What one piece does to the words of the current statement.** -/
theorem Held.step (h : Held reading lineStart held (textOf (piece :: pieces)))
    (hfits : piece.Fits lineStart (textOf pieces)) (hregular : piece.Regular) :
    ∃ next, Held (reading.step piece) (lineStartAfter lineStart piece.kind) next (textOf pieces) ∧
      words next
        = if reading.Drops piece then words piece.remainder else words held ++ words [piece] := by
  by_cases hresets : reading.Resets piece
  · rw [Reading.step, if_pos hresets]
    refine ⟨_, held_fresh hfits hregular hresets, ?_⟩
    split_ifs with hdrops
    · rfl
    · have hdirects : reading.Directs piece := by
        rcases hresets with hends | hfunction | hdirects
        · exact absurd (Or.inl hends) hdrops
        · exact absurd (Or.inr hfunction) hdrops
        · exact hdirects
      have hkind : piece.kind ≠ .token := by simp [hdirects.1]
      rw [h.words_of_directs hdirects, words_cons_other hkind, Piece.remainder,
        if_neg fun h => hkind h.1]
      rfl
  · rw [step_of_not_resets hresets]
    refine ⟨_, h.keep hfits hregular hresets, ?_⟩
    rw [if_neg fun hdrops => hresets (hdrops.imp_right Or.inl), words_append]

end Held
/-! ## Function bodies -/

/-- The pieces from the brace on that ends the last function body before a statement ends. -/
def lastBody (reading : Reading) : List Piece → Option (List Piece)
  | [] => none
  | piece :: pieces =>
    if reading.Ends piece then none
    else (lastBody (reading.step piece) pieces).or
      (if reading.EndsFunction piece then some (piece :: pieces) else none)

/-- The words that come after a function body, or all of them if there is none. -/
def wordsSince (earlier : List Text) (pieces : List Piece) : Option (List Piece) → List Text
  | none => earlier ++ words pieces
  | some [] => []
  | some (close :: rest) => words close.remainder ++ words rest

section Bodies

variable {reading other : Reading} {piece : Piece} {pieces held body : List Piece}
  {lineStart : Bool} {earlier : List Text}

/-- The last function body ends with a brace. -/
lemma exists_close (h : reading.lastBody pieces = some body) :
    body <:+ pieces ∧ ∃ close rest, body = close :: rest ∧ close.Closes := by
  induction pieces generalizing reading with
  | nil => exact absurd h (by simp [lastBody])
  | cons piece pieces ih =>
      rw [lastBody] at h
      split_ifs at h with hends hfunction
      · cases hlater : (reading.step piece).lastBody pieces with
        | some later =>
            rw [hlater, Option.some_or, Option.some_inj] at h
            obtain ⟨hsuffix, hclose⟩ := ih (h ▸ hlater)
            exact ⟨hsuffix.trans (List.suffix_cons _ _), hclose⟩
        | none =>
            rw [hlater, Option.none_or, Option.some_inj] at h
            exact ⟨h ▸ List.suffix_rfl, piece, pieces, h.symm, hfunction.1⟩
      · rw [Option.or_none] at h
        obtain ⟨hsuffix, hclose⟩ := ih h
        exact ⟨hsuffix.trans (List.suffix_cons _ _), hclose⟩

/-- The words since a function body are no others where more is read before it. -/
lemma wordsSince_cons (h : reading.lastBody pieces ≠ none) (earlier later : List Text) :
    wordsSince earlier (piece :: pieces) (reading.lastBody pieces)
      = wordsSince later pieces (reading.lastBody pieces) := by
  obtain ⟨body, hbody⟩ := Option.ne_none_iff_exists'.1 h
  obtain ⟨_, close, rest, rfl, _⟩ := exists_close hbody
  rw [hbody]
  rfl

/-! ### The end of a statement -/

/-- The texts of the statements that end among pieces. -/
def texts (reading : Reading) : List Piece → List Text
  | [] => []
  | piece :: pieces =>
    if reading.Ends piece then reading.current :: texts (reading.step piece) pieces
    else texts (reading.step piece) pieces

/-- The texts of statements do not depend on where they stand. -/
lemma map_text_statements (position : ℕ) :
    (reading.statements position pieces).map Statement.text = reading.texts pieces := by
  induction pieces generalizing reading position with
  | nil => rfl
  | cons piece pieces ih =>
      rw [statements, texts]
      split_ifs
      · rw [List.map_cons, ih]
      · exact ih _

lemma texts_eq_nil_iff :
    reading.texts pieces = [] ↔ ∀ position, reading.statements position pieces = [] := by
  constructor
  · intro h position
    rw [← List.map_eq_nil_iff, map_text_statements, h]
  · intro h
    rw [← map_text_statements 0, h 0, List.map_nil]

lemma texts_append {others : List Piece} : reading.texts (pieces ++ others)
    = reading.texts pieces ++ (reading.run pieces).texts others := by
  rw [← map_text_statements 0, statements_append, List.map_append, map_text_statements,
    map_text_statements]

/-- No statement ends in pieces of which none ends one. -/
lemma texts_cons_eq_nil_iff : reading.texts (piece :: pieces) = [] ↔
    ¬ reading.Ends piece ∧ (reading.step piece).texts pieces = [] := by
  rw [texts]
  split_ifs with hends
  · simp [hends]
  · simp [hends]

/-- Braces nest in the same way wherever statements start. -/
lemma depth_step : (reading.step piece).depth
    = if piece.Opens then reading.depth + 1
      else if piece.Closes then reading.depth - 1 else reading.depth := by
  by_cases hresets : reading.Resets piece
  · rw [step, if_pos hresets]
    show 0 = _
    rcases hresets with ⟨⟨_, hhead⟩, hdepth⟩ | ⟨hcloses, hle, _⟩ | ⟨hkind, hdepth, _⟩
    · rw [if_neg fun hopens => absurd (hhead.symm.trans hopens.2) (by decide),
        if_neg fun hcloses => absurd (hhead.symm.trans hcloses.2) (by decide), hdepth]
    · rw [if_neg fun hopens => absurd (hcloses.2.symm.trans hopens.2) (by decide), if_pos hcloses]
      omega
    · have hne : piece.kind ≠ .token := by simp [hkind]
      rw [if_neg fun hopens => hne hopens.1, if_neg fun hcloses => hne hcloses.1, hdepth]
  · rw [step_of_not_resets hresets]
    rfl

lemma depth_run (h : reading.depth = other.depth) :
    (reading.run pieces).depth = (other.run pieces).depth := by
  induction pieces generalizing reading other with
  | nil => exact h
  | cons piece pieces ih =>
      rw [run_cons, run_cons]
      exact ih (by rw [depth_step, depth_step, h])

/-- Whether a statement ends depends on the nesting only. -/
lemma ends_congr (h : reading.depth = other.depth) : reading.Ends piece ↔ other.Ends piece := by
  rw [Reading.Ends, Reading.Ends, h]

lemma texts_eq_nil_congr (h : reading.depth = other.depth) :
    reading.texts pieces = [] ↔ other.texts pieces = [] := by
  induction pieces generalizing reading other with
  | nil => rfl
  | cons piece pieces ih =>
      have hstep : (reading.step piece).depth = (other.step piece).depth := by
        rw [depth_step, depth_step, h]
      rw [texts_cons_eq_nil_iff, texts_cons_eq_nil_iff, ends_congr h, ih hstep]

/-- **The words of a statement are those since the last function body before its end.** -/
theorem Held.words_ended {upto rest : List Piece} {stop : Piece}
    (h : Held reading lineStart held (textOf (upto ++ stop :: rest)))
    (hreads : Reads lineStart (upto ++ stop :: rest) [])
    (hregular : ∀ piece ∈ upto, piece.Regular) (hnone : reading.texts upto = [])
    (hends : (reading.run upto).Ends stop) :
    words (scan (reading.run upto).current) ++ words (stop :: rest)
      = wordsSince (words held) (upto ++ stop :: rest)
          (reading.lastBody (upto ++ stop :: rest)) := by
  induction upto generalizing reading lineStart held with
  | nil =>
      have hends : reading.Ends stop := hends
      rw [List.nil_append, lastBody, if_pos hends, wordsSince]
      exact congrArg (· ++ _) h.words_current
  | cons piece upto ih =>
      obtain ⟨hfits, hreads⟩ := hreads
      rw [List.append_nil] at hfits
      rw [List.forall_mem_cons] at hregular
      obtain ⟨hnot, hnone⟩ := texts_cons_eq_nil_iff.1 hnone
      obtain ⟨next, hnext, hwords⟩ := h.step hfits hregular.1
      have hrest := ih hnext hreads hregular.2 hnone hends
      rw [run_cons, hrest, List.cons_append, lastBody, if_neg hnot, hwords]
      -- a later body decides; without one, the piece itself may end a body
      cases hbody : (reading.step piece).lastBody (upto ++ stop :: rest) with
      | some body =>
          rw [Option.some_or, ← hbody]
          exact (wordsSince_cons (by simp [hbody]) _ _).symm
      | none =>
          rw [Option.none_or, wordsSince]
          by_cases hfunction : reading.EndsFunction piece
          · have hdrops : reading.Drops piece := Or.inr hfunction
            rw [if_pos hdrops, if_pos hfunction]
            rfl
          · have hdrops : ¬ reading.Drops piece := fun hdrops =>
              hfunction (hdrops.resolve_left hnot)
            rw [if_neg hdrops, if_neg hfunction, wordsSince, List.append_assoc, ← words_append]
            rfl

end Bodies

/-! ### Words since function bodies -/

/-- The number of characters in words. -/
def size (texts : List Text) : ℕ := (texts.map List.length).sum

lemma size_append (first rest : List Text) : size (first ++ rest) = size first + size rest := by
  rw [size, List.map_append, List.sum_append]
  rfl

/-- Later words are not longer. -/
lemma size_words_le {pieces body : List Piece} (h : body <:+ pieces) :
    size (words body) ≤ size (words pieces) := by
  obtain ⟨before, rfl⟩ := h
  rw [words_append, size_append]
  exact Nat.le_add_left _ _

/-- A brace is missing in the words since a function body. -/
lemma size_words_close {close : Piece} (h : close.Closes) (rest : List Piece) :
    size (words (close :: rest)) = size (words close.remainder ++ words rest) + 1 := by
  obtain ⟨hkind, hhead⟩ := h
  obtain ⟨tail, htail⟩ := List.head?_eq_some_iff.1 hhead
  have hremainder : size (words close.remainder) = tail.length := by
    rw [remainder, htail]
    cases tail with
    | nil =>
        rw [if_neg (by simp)]
        rfl
    | cons c tail => simp [hkind, size]
  rw [size_append, hremainder, eq_token hkind, words_token, htail]
  show (tail.length + 1) + size (words rest) = _
  omega

section Injective

variable {reading other : Reading} {pieces : List Piece} {earlier : List Text}

/-- After a function body there are fewer words than before it. -/
lemma size_wordsSince_lt_none (earlier : List Text) {body : List Piece}
    (hbody : reading.lastBody pieces = some body) :
    size (wordsSince earlier pieces (some body)) < size (wordsSince earlier pieces none) := by
  obtain ⟨hsuffix, close, rest, rfl, hclose⟩ := exists_close hbody
  have hsize := size_words_close hclose rest
  have hle := size_words_le hsuffix
  rw [wordsSince, wordsSince, size_append earlier]
  omega

/-- After a later function body there are fewer words. -/
lemma size_wordsSince_lt_some (earlier : List Text) {body longer : List Piece}
    (hbody : reading.lastBody pieces = some body) (hlonger : other.lastBody pieces = some longer)
    (hshorter : body <:+ longer) (hne : body ≠ longer) :
    size (wordsSince earlier pieces (some body))
      < size (wordsSince earlier pieces (some longer)) := by
  obtain ⟨_, close, rest, rfl, hclose⟩ := exists_close hbody
  obtain ⟨_, first, more, rfl, _⟩ := exists_close hlonger
  have hsize := size_words_close hclose rest
  have hle := size_words_le ((List.suffix_cons_iff.1 hshorter).resolve_left hne)
  rw [wordsSince, wordsSince, size_append _ (words more)]
  omega

/-- **The words say which function body was the last one.** -/
theorem wordsSince_inj
    (h : wordsSince earlier pieces (reading.lastBody pieces)
      = wordsSince earlier pieces (other.lastBody pieces)) :
    reading.lastBody pieces = other.lastBody pieces := by
  have hsize := congrArg size h
  cases hleft : reading.lastBody pieces with
  | none =>
      cases hright : other.lastBody pieces with
      | none => rfl
      | some body =>
          have hlt := size_wordsSince_lt_none earlier hright
          rw [hleft, hright] at hsize
          omega
  | some body =>
      cases hright : other.lastBody pieces with
      | none =>
          have hlt := size_wordsSince_lt_none earlier hleft
          rw [hleft, hright] at hsize
          omega
      | some later =>
          rw [hleft, hright] at hsize
          by_contra hne
          have hbodies : body ≠ later := fun heq => hne (congrArg some heq)
          rcases List.suffix_or_suffix_of_suffix (exists_close hleft).1 (exists_close hright).1
            with hle | hle
          · have hlt := size_wordsSince_lt_some earlier hleft hright hle hbodies
            omega
          · have hlt := size_wordsSince_lt_some earlier hright hleft hle hbodies.symm
            omega

end Injective

/-! ### Statements that are read alike -/

section Alike

variable {reading other : Reading} {piece : Piece} {pieces held held' : List Piece}
  {lineStart : Bool} {rest : Text}

/-- Readings with alike texts pass over the same function bodies. -/
lemma lastBody_congr {depth : ℕ} {inFunction : Bool} {u v : Text} (halike : Alike u v) :
    lastBody ⟨depth, inFunction, u⟩ pieces = lastBody ⟨depth, inFunction, v⟩ pieces := by
  induction pieces generalizing depth inFunction u v with
  | nil => rfl
  | cons piece pieces ih =>
      have hends : Ends ⟨depth, inFunction, u⟩ piece ↔ Ends ⟨depth, inFunction, v⟩ piece := Iff.rfl
      have hfunction : EndsFunction ⟨depth, inFunction, u⟩ piece
          ↔ EndsFunction ⟨depth, inFunction, v⟩ piece := Iff.rfl
      have hresets : Resets ⟨depth, inFunction, u⟩ piece ↔ Resets ⟨depth, inFunction, v⟩ piece := by
        rw [Resets, Resets, hends, hfunction, iff_false_intro (not_directs halike.left),
          iff_false_intro (not_directs halike.right)]
      have hstep : lastBody (step ⟨depth, inFunction, u⟩ piece) pieces
          = lastBody (step ⟨depth, inFunction, v⟩ piece) pieces := by
        by_cases hu : Resets ⟨depth, inFunction, u⟩ piece
        · rw [step, step, if_pos hu, if_pos (hresets.1 hu)]
        · rw [step_of_not_resets hu, step_of_not_resets fun hv => hu (hresets.2 hv), keep, keep]
          simp only [halike.endsIn_eq]
          exact ih (halike.append piece.text)
      simp only [lastBody, hends, hfunction, hstep]

/-- A piece that is no token leaves braces and function bodies as they are. -/
lemma Held.step_other (h : Held reading lineStart held rest) (hkind : piece.kind ≠ .token) :
    (reading.step piece).depth = reading.depth ∧
      (reading.step piece).inFunction = reading.inFunction := by
  have hopens : ¬ piece.Opens := fun hopens => hkind hopens.1
  have hcloses : ¬ piece.Closes := fun hcloses => hkind hcloses.1
  refine ⟨by rw [depth_step, if_neg hopens, if_neg hcloses], ?_⟩
  by_cases hresets : reading.Resets piece
  · rw [Reading.step, if_pos hresets]
    rcases hresets with hends | hfunction | hdirects
    · exact absurd hends.1.1 hkind
    · exact absurd hfunction.1 hcloses
    · exact (h.outside hdirects.2.1).symm
  · have hbody : ¬ (piece.Opens ∧ reading.depth = 0) := fun hbody => hopens hbody.1
    rw [step_of_not_resets hresets, Reading.keep, if_neg hbody]

/-- **The text before a token is of no account**, if the token is no opening brace outside all
others. -/
lemma lastBody_token (h : Held reading lineStart held (textOf (piece :: pieces)))
    (h' : Held other lineStart held' (textOf (piece :: pieces)))
    (hfits : piece.Fits lineStart (textOf pieces)) (hregular : piece.Regular)
    (hkind : piece.kind = .token) (hdepth : reading.depth = other.depth)
    (hfunction : reading.inFunction = other.inFunction)
    (hopens : piece.Opens → reading.depth ≠ 0) :
    reading.lastBody (piece :: pieces) = other.lastBody (piece :: pieces) := by
  have hdirects : ∀ r : Reading, ¬ r.Directs piece := fun r hdirects => by
    have hdirective := hdirects.1
    rw [hkind] at hdirective
    exact absurd hdirective (by simp)
  have hfunctions : reading.EndsFunction piece ↔ other.EndsFunction piece := by
    rw [EndsFunction, EndsFunction, hdepth, hfunction]
  have hresets : reading.Resets piece ↔ other.Resets piece := by
    rw [Resets, Resets, ends_congr hdepth, hfunctions, iff_false_intro (hdirects _),
      iff_false_intro (hdirects _)]
  have hstep : (reading.step piece).lastBody pieces = (other.step piece).lastBody pieces := by
    by_cases hleft : reading.Resets piece
    · rw [step, step, if_pos hleft, if_pos (hresets.1 hleft)]
    · have hright : ¬ other.Resets piece := fun hright => hleft (hresets.2 hright)
      have halike : Alike (reading.current ++ piece.text) (other.current ++ piece.text) := by
        refine ⟨(h.unhashed_keep hfits hregular hleft).2 hkind,
          (h'.unhashed_keep hfits hregular hright).2 hkind, ?_⟩
        obtain ⟨c, tail, htext, _⟩ := hfits
        have hblank := (hregular hkind).2
        rw [htext, List.all_cons, Bool.and_eq_true, Bool.not_eq_true'] at hblank
        have hmem : c ∈ piece.text := by
          rw [htext]
          exact List.mem_cons_self
        rw [endsIn_append_of_mem _ _ hmem hblank.1, endsIn_append_of_mem _ _ hmem hblank.1]
      have hbody : ¬ (piece.Opens ∧ other.depth = 0) := fun hbody =>
        hopens hbody.1 (hdepth.trans hbody.2)
      rw [step_of_not_resets hleft, step_of_not_resets hright, keep, keep, hdepth, hfunction,
        if_neg hbody, if_neg hbody]
      exact lastBody_congr halike
  simp only [lastBody, ends_congr hdepth, hfunctions, hstep]

/-- **Readings that differ in text alone pass over the same function bodies**, unless an opening
brace outside all others is the first token. -/
lemma Held.lastBody_eq (h : Held reading lineStart held (textOf pieces))
    (h' : Held other lineStart held' (textOf pieces)) (hreads : Reads lineStart pieces [])
    (hregular : ∀ piece ∈ pieces, piece.Regular) (hdepth : reading.depth = other.depth)
    (hfunction : reading.inFunction = other.inFunction)
    (hopens : ∀ lead brace rest, pieces = lead ++ brace :: rest →
      (∀ piece ∈ lead, piece.kind ≠ .token) → brace.Opens → reading.depth ≠ 0) :
    reading.lastBody pieces = other.lastBody pieces := by
  induction pieces generalizing reading other lineStart held held' with
  | nil => rfl
  | cons piece pieces ih =>
      obtain ⟨hfits, hreads⟩ := hreads
      rw [List.append_nil] at hfits
      rw [List.forall_mem_cons] at hregular
      by_cases hkind : piece.kind = .token
      · exact lastBody_token h h' hfits hregular.1 hkind hdepth hfunction
          (hopens [] piece pieces rfl (by simp))
      · obtain ⟨_, hnext, _⟩ := h.step hfits hregular.1
        obtain ⟨_, hnext', _⟩ := h'.step hfits hregular.1
        obtain ⟨hleft, hleft'⟩ := h.step_other hkind
        obtain ⟨hright, hright'⟩ := h'.step_other hkind
        have hnone : ∀ r : Reading, ¬ r.Ends piece ∧ ¬ r.EndsFunction piece := fun r =>
          ⟨fun hends => hkind hends.1.1, fun hends => hkind hends.1.1⟩
        have hrest := ih hnext hnext' hreads hregular.2
          (hleft.trans (hdepth.trans hright.symm)) (hleft'.trans (hfunction.trans hright'.symm))
          fun lead brace rest hcut hlead hbrace => by
            rw [hleft]
            exact hopens (piece :: lead) brace rest (congrArg _ hcut)
              (List.forall_mem_cons.2 ⟨hkind, hlead⟩) hbrace
        simp only [lastBody, if_neg (hnone _).1, if_neg (hnone _).2, hrest]

end Alike

end Reading

/-! ## Comments -/

section Comments

open Reading

variable {reading : Reading} {piece comment : Piece} {pieces held before after : List Piece}
  {lineStart : Bool} {source : Text}

/-- The words of the declarations at global scope. -/
def declaredWords (source : Text) : List (List Text) :=
  (globalDeclarations source).map fun tokens => tokens.map Token.text

/-- The words declared are those of the statements that have any. -/
lemma declaredWords_eq (source : Text) : declaredWords source
    = ((texts {} (scan source)).map fun text => words (scan text)).filter (· ≠ []) := by
  have htokens : (globalStatements source).map (tokenizeIn source)
      = (statementsOf source).map Statement.tokens := by
    rw [globalStatements_eq, List.map_map]
    exact List.map_congr_left fun statement hstatement => tokenizeIn_statement hstatement
  have hwords : ∀ statement : Statement,
      statement.tokens.map Token.text = words (scan statement.text) := fun _ => map_text_tokensFrom
  rw [declaredWords, globalDeclarations, htokens, ← map_text_statements 0, List.map_map,
    List.filter_map, List.filter_map, List.map_map]
  have hfilter : (statementsOf source).filter
        ((fun tokens => decide (tokens ≠ [])) ∘ Statement.tokens)
      = (statementsOf source).filter ((fun found => decide (found ≠ []))
          ∘ ((fun text => words (scan text)) ∘ Statement.text)) :=
    List.filter_congr fun statement _ => by
      simp only [Function.comp, ← hwords, ne_eq, List.map_eq_nil_iff]
  rw [hfilter]
  exact List.map_congr_left fun statement _ => hwords statement

/-- A source with a blank in the place of a comment. -/
def uncommented (before after : List Piece) : Text := textOf before ++ ' ' :: textOf after

/-- Where a slash follows a piece, a blank may follow. -/
lemma Piece.Fits.replace_slash {rest : Text} (h : piece.Fits lineStart ('/' :: rest))
    (other : Text) : piece.Fits lineStart (' ' :: other) := by
  by_cases hkind : piece.kind = .token
  · refine h.follow hkind fun d hd => ?_
    obtain rfl := Option.some.inj hd
    exact Breaks.ends (by decide) fun _ => by decide
  · refine h.transfer hkind id (fun tail hlength => ?_)
      (fun tail => blockLength_append_cons ' ' other) (fun tail hlength => ?_)
    · exact absurd ((lineLength_append_eq.1 hlength).2 '/' rfl) (by decide)
    · exact absurd (eq_lineFeed_of_directiveLength hlength) (by decide)

/-- The other pieces stay as they are. -/
lemma scan_uncommented (hscan : scan source = before ++ comment :: after)
    (hcomment : comment.kind = .comment) :
    scan (uncommented before after) = before ++ space :: after := by
  have hreads : Reads true (scan source) [] := reads_scanFrom true source
  rw [hscan, reads_append, Reads, hcomment] at hreads
  obtain ⟨hbefore, hfits, hafter⟩ := hreads
  obtain ⟨rest, hslash⟩ : ∃ rest, comment.text = '/' :: rest := by
    rcases (fits_other_iff (by simp [hcomment])).1 hfits with rfl | ⟨_, rfl, _⟩ | ⟨_, rfl, _⟩
      | ⟨_, rfl, _⟩ | ⟨_, rfl, _⟩ <;> first | exact ⟨_, rfl⟩ | exact absurd hcomment (by simp)
  have htext : uncommented before after = textOf (before ++ space :: after) := by
    rw [textOf_append]
    rfl
  rw [htext]
  refine scan_textOf (reads_append.2 ⟨hbefore.change fun piece _ start hpiece => ?_, fits_space,
    hafter⟩)
  rw [textOf_cons, hslash] at hpiece
  exact hpiece.replace_slash _

/-- Reading on through regular pieces. -/
lemma Reading.Held.run {others : List Piece}
    (h : Held reading lineStart held (textOf (pieces ++ others)))
    (hreads : Reads lineStart (pieces ++ others) []) (hregular : ∀ piece ∈ pieces, piece.Regular) :
    ∃ next, Held (reading.run pieces) (lineStartAfterAll lineStart pieces) next
      (textOf others) := by
  induction pieces generalizing reading lineStart held with
  | nil => exact ⟨held, h⟩
  | cons piece pieces ih =>
      obtain ⟨hfits, hreads⟩ := hreads
      rw [List.append_nil] at hfits
      rw [List.forall_mem_cons] at hregular
      obtain ⟨_, hnext, _⟩ := h.step hfits hregular.1
      exact ih hnext hreads hregular.2

/-- After a comment or a blank, the current statement has the words that it had before. -/
lemma exists_held_after (hreads : Reads true (before ++ piece :: after) [])
    (hkind : piece.kind ≠ .token) (hregular : ∀ piece ∈ before, piece.Regular) :
    ∃ next, Held (run {} (before ++ [piece]))
        (lineStartAfter (lineStartAfterAll true before) piece.kind) next (textOf after) ∧
      words next = words (scan (run {} before).current) ∧
      (run {} (before ++ [piece])).depth = (run {} before).depth ∧
      (run {} (before ++ [piece])).inFunction = (run {} before).inFunction := by
  obtain ⟨held, hheld⟩ := (held_nil true _).run hreads hregular
  obtain ⟨hfits, _⟩ := (reads_append.1 hreads).2
  rw [List.append_nil] at hfits
  obtain ⟨next, hnext, hwords⟩ := hheld.step hfits fun htoken => absurd htoken hkind
  have hdrops : ¬ (run {} before).Drops piece := by
    rintro (hends | hends)
    · exact hkind hends.1.1
    · exact hkind hends.1.1
  rw [run_append]
  refine ⟨next, hnext, ?_, hheld.step_other hkind⟩
  rw [hwords, if_neg hdrops, words_cons_other hkind, words_nil, List.append_nil,
    hheld.words_current]

/-- No statement ends at a piece that is no token. -/
lemma Reading.texts_other {others : List Piece} (hkind : piece.kind ≠ .token) :
    reading.texts (pieces ++ piece :: others)
      = reading.texts pieces ++ (reading.run (pieces ++ [piece])).texts others := by
  have hends : ¬ (reading.run pieces).Ends piece := fun hends => hkind hends.1.1
  rw [texts_append, texts, if_neg hends, run_append]
  rfl

/-- One entry decides whether lists without empty entries are equal. -/
lemma filter_ne_nil_inj (earlier later : List (List Text)) (first second : List Text) :
    (earlier ++ first :: later).filter (· ≠ []) = (earlier ++ second :: later).filter (· ≠ [])
      ↔ first = second := by
  rw [List.filter_append, List.filter_append, List.append_cancel_left_eq, List.filter_cons,
    List.filter_cons]
  by_cases hfirst : first = []
  · by_cases hsecond : second = []
    · simp [hfirst, hsecond]
    · simp [hfirst, hsecond, Ne.symm hsecond]
  · by_cases hsecond : second = []
    · simp [hfirst, hsecond]
    · simp [hfirst, hsecond]

/-- What statements end among pieces, the first of them at a semicolon. -/
lemma Reading.texts_of_first_end {upto later : List Piece} {stop : Piece}
    (hnone : reading.texts upto = []) (hends : (reading.run upto).Ends stop) :
    reading.texts (upto ++ stop :: later)
      = (reading.run upto).current :: (fresh stop).texts later := by
  have hstep : (reading.run upto).step stop = fresh stop := if_pos (Or.inl hends)
  rw [texts_append, hnone, List.nil_append, texts, if_pos hends, hstep]

/-- **Readings that differ in text alone find the same words exactly if they pass over the same
function bodies** before the first statement ends. -/
lemma Reading.Held.texts_eq_iff {other : Reading} {held' : List Piece}
    (h : Held reading lineStart held (textOf pieces))
    (h' : Held other lineStart held' (textOf pieces)) (hwords : words held' = words held)
    (hdepth : other.depth = reading.depth) (hreads : Reads lineStart pieces [])
    (hregular : ∀ piece ∈ pieces, piece.Regular) (earlier : List Text) :
    ((earlier ++ other.texts pieces).map fun text => words (scan text)).filter (· ≠ [])
        = ((earlier ++ reading.texts pieces).map fun text => words (scan text)).filter (· ≠ [])
      ↔ reading.texts pieces = [] ∨ other.lastBody pieces = reading.lastBody pieces := by
  rcases exists_first_end reading pieces with hnone | ⟨upto, stop, later, rfl, hnone, hstop⟩
  · have hnil : reading.texts pieces = [] := texts_eq_nil_iff.2 hnone
    rw [hnil, (texts_eq_nil_congr hdepth).2 hnil]
    exact iff_of_true rfl (Or.inl rfl)
  · have hnil : reading.texts upto = [] := texts_eq_nil_iff.2 hnone
    have hnil' : other.texts upto = [] := (texts_eq_nil_congr hdepth).2 hnil
    have hstop' : (other.run upto).Ends stop := (ends_congr (depth_run hdepth)).2 hstop
    have hupto : ∀ piece ∈ upto, piece.Regular := (List.forall_mem_append.1 hregular).1
    have hfound := h.words_ended hreads hupto hnil hstop
    have hfound' := h'.words_ended hreads hupto hnil' hstop'
    rw [texts_of_first_end hnil hstop, texts_of_first_end hnil' hstop', List.map_append,
      List.map_append, List.map_cons, List.map_cons, filter_ne_nil_inj,
      ← List.append_left_inj (words (stop :: later)), hfound, hfound', hwords]
    constructor
    · exact fun heq => Or.inr (wordsSince_inj heq)
    · rintro (hcons | heq)
      · exact absurd hcons (List.cons_ne_nil _ _)
      · rw [heq]

/-- **A comment is of no account exactly if the same function body is the last one** before the end
of the statement.  It is, unless an opening brace outside all others is the first token after the
comment. -/
theorem declaredWords_uncommented_iff (hscan : scan source = before ++ comment :: after)
    (hcomment : comment.kind = .comment) (hregular : Regular source) :
    (declaredWords (uncommented before after) = declaredWords source ↔
      (run {} (before ++ [comment])).texts after = [] ∨
        (run {} (before ++ [space])).lastBody after
          = (run {} (before ++ [comment])).lastBody after) ∧
    (declaredWords (uncommented before after) ≠ declaredWords source →
      ∃ lead brace rest, after = lead ++ brace :: rest ∧ (∀ piece ∈ lead, piece.kind ≠ .token) ∧
        brace.Opens ∧ (run {} before).depth = 0) := by
  have hkind : comment.kind ≠ .token := by simp [hcomment]
  have hspace : space.kind ≠ .token := by decide
  have hreads : Reads true (before ++ comment :: after) [] := hscan ▸ reads_scanFrom true source
  have hother : Reads true (before ++ space :: after) [] :=
    scan_uncommented hscan hcomment ▸ reads_scanFrom true _
  rw [Regular, hscan, List.forall_mem_append, List.forall_mem_cons] at hregular
  obtain ⟨hbefore, _, hafter⟩ := hregular
  have hrest := (reads_append.1 hother).2.2
  obtain ⟨next, hnext, hwords, hdepth, hfunction⟩ := exists_held_after hreads hkind hbefore
  obtain ⟨next', hnext', hwords', hdepth', hfunction'⟩ := exists_held_after hother hspace hbefore
  rw [hcomment] at hnext
  have hsame := hdepth'.trans hdepth.symm
  have hiff : declaredWords (uncommented before after) = declaredWords source ↔
      (run {} (before ++ [comment])).texts after = [] ∨
        (run {} (before ++ [space])).lastBody after
          = (run {} (before ++ [comment])).lastBody after := by
    rw [declaredWords_eq, declaredWords_eq, scan_uncommented hscan hcomment, hscan,
      texts_other hkind, texts_other hspace]
    exact hnext.texts_eq_iff hnext' (hwords'.trans hwords.symm) hsame hrest hafter _
  refine ⟨hiff, fun hne => ?_⟩
  by_contra hbrace
  refine hne (hiff.2 (Or.inr ?_))
  refine hnext'.lastBody_eq hnext hrest hafter hsame (hfunction'.trans hfunction.symm)
    fun lead brace rest hcut hlead hopens hzero => ?_
  exact hbrace ⟨lead, brace, rest, hcut, hlead, hopens, hdepth'.symm.trans hzero⟩

/-- A block with a comment before its members. -/
def noted : Text := "uniform Lights /* two */ \x7b vec4 v; \x7d;\nout vec4 c;".toList

/-- The comment before the members is of no account. -/
theorem declaredWords_noted :
    scan noted = (scan noted).take 4
        ++ ⟨.comment, "/* two */".toList⟩ :: (scan noted).drop 5 ∧
      Regular noted ∧
      (run {} ((scan noted).take 4 ++ [⟨.comment, "/* two */".toList⟩])).texts
        ((scan noted).drop 5) ≠ [] ∧
      (declaredWords noted).length = 2 ∧
      declaredWords (uncommented ((scan noted).take 4) ((scan noted).drop 5))
        = declaredWords noted := by
  have hscan : scan noted = (scan noted).take 4
      ++ ⟨.comment, "/* two */".toList⟩ :: (scan noted).drop 5 := by
    unfold noted
    repeat rw [toList_literal rfl]
    decide +kernel
  have hregular : Regular noted := by
    have hall : (scan noted).all (fun piece => decide piece.Regular) = true := by
      unfold noted
      rw [toList_literal rfl]
      decide +kernel
    exact fun piece hpiece => of_decide_eq_true (List.all_eq_true.1 hall piece hpiece)
  have hbody : (run {} ((scan noted).take 4 ++ [space])).lastBody ((scan noted).drop 5)
      = (run {} ((scan noted).take 4 ++ [⟨.comment, "/* two */".toList⟩])).lastBody
          ((scan noted).drop 5) := by
    unfold noted
    repeat rw [toList_literal rfl]
    decide +kernel
  have hends : (run {} ((scan noted).take 4 ++ [⟨.comment, "/* two */".toList⟩])).texts
        ((scan noted).drop 5) ≠ [] ∧ (declaredWords noted).length = 2 := by
    unfold noted
    repeat rw [toList_literal rfl]
    decide +kernel
  exact ⟨hscan, hregular, hends.1, hends.2,
    (declaredWords_uncommented_iff hscan rfl hregular).1.2 (Or.inr hbody)⟩

/-- A block with a comment in parentheses before its members. -/
def parenthesized : Text := "uniform Lights // per frame (two)\n\x7b vec4 v; \x7d;".toList

/-- A function with a comment before its body. -/
def entryPoint : Text := "void main() /* entry */ \x7b \x7d\nout vec4 c;".toList

/-- **The block is taken for a function body** and is not found, and the function body is taken for
the beginning of the declaration after it. -/
theorem declaredWords_changes :
    scan parenthesized = (scan parenthesized).take 4
        ++ ⟨.comment, "// per frame (two)".toList⟩ :: (scan parenthesized).drop 5 ∧
      declaredWords parenthesized = [] ∧
      declaredWords (uncommented ((scan parenthesized).take 4) ((scan parenthesized).drop 5))
        = [["uniform", "Lights", "\x7b", "vec4", "v", ";", "\x7d"].map String.toList] ∧
      scan entryPoint = (scan entryPoint).take 6
        ++ ⟨.comment, "/* entry */".toList⟩ :: (scan entryPoint).drop 7 ∧
      declaredWords entryPoint
        = [["void", "main", "(", ")", "\x7b", "\x7d", "out", "vec4", "c"].map String.toList] ∧
      declaredWords (uncommented ((scan entryPoint).take 6) ((scan entryPoint).drop 7))
        = [["out", "vec4", "c"].map String.toList] := by
  unfold parenthesized entryPoint
  repeat rw [toList_literal rfl]
  decide +kernel

end Comments

end GlBridge.Glsl
