import GlBridge.Glsl.Statement
import GlBridge.Proofs.Glsl.Piece

/-!
# Reading statements

The search for global statements keeps positions in one source.  To compare two sources it is told
here by texts: a `Reading` holds the text of the current statement instead of its position.

**Agreement.**  The search finds the statements that the reading of the same pieces emits
(`globalStatements_eq`), and their positions cover their texts (`textIn_statement`).

**One statement.**  Pieces either emit nothing or go up to the end of a first statement
(`exists_first_end`), and what is read before that end is a part that is skipped and the pieces of
the statement, during which the reading does not start anew (`exists_statement`).

**Changed statements.**  The reading of a piece needs little of the text before it: whether it ends
in a closing parenthesis, and whether it starts with a hash.  Readings with `Alike` texts go on
alike (`Keeps.congr`).
-/

namespace GlBridge.Glsl

open Text

namespace Piece

/-- A token that opens a brace. -/
def Opens (piece : Piece) : Prop := piece.kind = .token ∧ piece.text.head? = some '{'

/-- A token that closes a brace. -/
def Closes (piece : Piece) : Prop := piece.kind = .token ∧ piece.text.head? = some '}'

/-- A semicolon. -/
def IsSemicolon (piece : Piece) : Prop := piece.kind = .token ∧ piece.text.head? = some ';'

instance (piece : Piece) : Decidable piece.Opens := inferInstanceAs (Decidable (_ ∧ _))

instance (piece : Piece) : Decidable piece.Closes := inferInstanceAs (Decidable (_ ∧ _))

instance (piece : Piece) : Decidable piece.IsSemicolon := inferInstanceAs (Decidable (_ ∧ _))

end Piece

/-- What is known after some pieces of a source. -/
structure Reading where
  /-- How many braces are open. -/
  depth : ℕ := 0
  /-- Whether the open braces belong to a function body. -/
  inFunction : Bool := false
  /-- The current statement as far as it is read. -/
  current : Text := []

/-- A statement and where it starts. -/
structure Statement where
  start : ℕ
  text : Text

namespace Statement

/-- The positions of a statement. -/
def span (statement : Statement) : Span :=
  { start := statement.start, stop := statement.start + statement.text.length }

/-- The tokens of a statement. -/
def tokens (statement : Statement) : List Token :=
  tokensFrom statement.start (Piece.scan statement.text)

end Statement

namespace Reading

/-- The piece ends the current statement. -/
def Ends (reading : Reading) (piece : Piece) : Prop := piece.IsSemicolon ∧ reading.depth = 0

/-- The piece ends a function body. -/
def EndsFunction (reading : Reading) (piece : Piece) : Prop :=
  piece.Closes ∧ reading.depth ≤ 1 ∧ reading.inFunction = true

/-- The piece is a directive with nothing but blanks before it. -/
def Directs (reading : Reading) (piece : Piece) : Prop :=
  piece.kind = .directive ∧ reading.depth = 0
    ∧ (trimStart (reading.current ++ piece.text)).head? = some '#'

/-- A new statement starts after the piece. -/
def Resets (reading : Reading) (piece : Piece) : Prop :=
  reading.Ends piece ∨ reading.EndsFunction piece ∨ reading.Directs piece

instance (reading : Reading) (piece : Piece) : Decidable (reading.Ends piece) :=
  inferInstanceAs (Decidable (_ ∧ _))

instance (reading : Reading) (piece : Piece) : Decidable (reading.EndsFunction piece) :=
  inferInstanceAs (Decidable (_ ∧ _))

instance (reading : Reading) (piece : Piece) : Decidable (reading.Directs piece) :=
  inferInstanceAs (Decidable (_ ∧ _))

instance (reading : Reading) (piece : Piece) : Decidable (reading.Resets piece) :=
  inferInstanceAs (Decidable (_ ∨ _))

/-- A new statement.  What is left of the token that ended the last one belongs to it. -/
def fresh (piece : Piece) : Reading :=
  { current := if piece.kind = .token then piece.text.tail else [] }

/-- Going on with the current statement. -/
def keep (reading : Reading) (piece : Piece) : Reading where
  depth :=
    if piece.Opens then reading.depth + 1
    else if piece.Closes then reading.depth - 1 else reading.depth
  inFunction :=
    if piece.Opens ∧ reading.depth = 0 then endsIn ')' reading.current else reading.inFunction
  current := reading.current ++ piece.text

/-- Reading a piece. -/
def step (reading : Reading) (piece : Piece) : Reading :=
  if reading.Resets piece then fresh piece else reading.keep piece

/-- Reading pieces. -/
def run (reading : Reading) (pieces : List Piece) : Reading := pieces.foldl step reading

/-- The statements that end among pieces from a position on. -/
def statements (reading : Reading) (position : ℕ) : List Piece → List Statement
  | [] => []
  | piece :: pieces =>
    let rest := statements (reading.step piece) (position + piece.text.length) pieces
    if reading.Ends piece then
      { start := position - reading.current.length, text := reading.current } :: rest
    else rest

variable {reading : Reading} {piece : Piece} {pieces others : List Piece} {position : ℕ}

lemma run_cons : reading.run (piece :: pieces) = (reading.step piece).run pieces := rfl

/-- Pieces are read one after the other. -/
lemma run_append : reading.run (pieces ++ others) = (reading.run pieces).run others :=
  List.foldl_append

/-- The statements of two runs of pieces are those of the first and then those of the second. -/
lemma statements_append : reading.statements position (pieces ++ others)
    = reading.statements position pieces
      ++ (reading.run pieces).statements (position + (Piece.textOf pieces).length) others := by
  induction pieces generalizing reading position with
  | nil => rfl
  | cons piece pieces ih =>
      rw [List.cons_append, statements, ih, statements, run_cons, Piece.textOf_cons,
        List.length_append, Nat.add_assoc]
      split_ifs
      · rfl
      · rfl

/-! ## Agreement with the search for statements -/

section Agreement

variable {source rest : Text} {scan : StatementScan}

/-- The search stands where the reading stands. -/
structure Tracks (source : Text) (scan : StatementScan) (position : ℕ) (reading : Reading) :
    Prop where
  depth : scan.depth = reading.depth
  inFunction : scan.inFunction = reading.inFunction
  current : source.slice scan.start position = reading.current
  start : scan.start + reading.current.length = position
  outside : reading.depth = 0 → reading.inFunction = false

/-- What comes at a position is a slice of the source from there. -/
lemma slice_of_drop {text : Text} (h : source.drop position = text ++ rest) :
    source.slice position (position + text.length) = text := by
  rw [Text.slice, List.drop_take, h, Nat.add_sub_cancel_left, List.take_left]

/-- A slice goes on with what comes after it. -/
lemma slice_extend {text : Text} {start : ℕ} (hstart : start ≤ position)
    (h : source.drop position = text ++ rest) :
    source.slice start (position + text.length) = source.slice start position ++ text := by
  rw [← Text.slice_append source hstart (Nat.le_add_right position text.length), slice_of_drop h]

/-- Only the first character of a token opens or closes a brace or ends a statement. -/
lemma characters_tail {lineStart : Bool} {c : Char} {tail next : Text}
    (hfits : Piece.Fits lineStart ⟨.token, c :: tail⟩ next) (scan : StatementScan) (position : ℕ) :
    scan.characters source position tail = scan := by
  have hall := (Piece.fits_token_iff.1 hfits).2.2.2.1
  clear hfits
  induction tail generalizing position with
  | nil => rfl
  | cons d tail ih =>
      rw [List.all_cons, Bool.and_eq_true] at hall
      have hplain : d ≠ '{' ∧ d ≠ '}' ∧ d ≠ ';' := by
        have hd := hall.1
        rw [Piece.goesOn] at hd
        refine ⟨?_, ?_, ?_⟩ <;> rintro rfl <;> split_ifs at hd <;> exact absurd hd (by decide)
      have hkeep : scan.character source position d = scan := by
        rw [StatementScan.character, if_neg hplain.1, if_neg hplain.2.1,
          if_neg fun h => hplain.2.2 h.1]
      rw [StatementScan.characters, hkeep, ih _ hall.2]

/-- The search follows a reading over a text that neither of them ends a statement in. -/
lemma Tracks.extend {text : Text} (h : Tracks source scan position reading)
    (hsource : source.drop position = text ++ rest) {depth : ℕ} {inFunction : Bool}
    (houtside : depth = 0 → inFunction = false) :
    Tracks source { scan with depth, inFunction } (position + text.length)
      { depth, inFunction, current := reading.current ++ text } := by
  refine ⟨rfl, rfl, ?_, ?_, houtside⟩
  · rw [slice_extend (h.start ▸ Nat.le_add_right _ _) hsource, h.current]
  · rw [List.length_append, ← Nat.add_assoc, h.start]

/-- After a statement both start anew. -/
lemma tracks_fresh {c : Char} {tail : Text} (hsource : source.drop position = c :: tail ++ rest)
    (found : List Span) :
    Tracks source { depth := 0, start := position + 1, inFunction := false, found }
      (position + (c :: tail).length) (fresh ⟨.token, c :: tail⟩) := by
  have htail : source.drop (position + 1) = tail ++ rest := by
    rw [← List.drop_drop, hsource]
    rfl
  have hslice := slice_of_drop htail
  have hlength : position + (c :: tail).length = position + 1 + tail.length := by
    rw [List.length_cons]
    omega
  rw [hlength]
  exact ⟨rfl, rfl, hslice, rfl, fun _ => rfl⟩

/-- What the search does at a token. -/
lemma Tracks.token {lineStart : Bool} {c : Char} {tail next : Text}
    (h : Tracks source scan position reading) (hsource : source.drop position = c :: tail ++ rest)
    (hfits : Piece.Fits lineStart ⟨.token, c :: tail⟩ next) :
    Tracks source (scan.characters source position (c :: tail)) (position + (c :: tail).length)
        (reading.step ⟨.token, c :: tail⟩) ∧
      (scan.characters source position (c :: tail)).found
        = if reading.Ends ⟨.token, c :: tail⟩ then ⟨scan.start, position⟩ :: scan.found
          else scan.found := by
  have hopens : Piece.Opens ⟨.token, c :: tail⟩ ↔ c = '{' := by simp [Piece.Opens]
  have hcloses : Piece.Closes ⟨.token, c :: tail⟩ ↔ c = '}' := by simp [Piece.Closes]
  have hsemicolon : Piece.IsSemicolon ⟨.token, c :: tail⟩ ↔ c = ';' := by simp [Piece.IsSemicolon]
  have hends : reading.Ends ⟨.token, c :: tail⟩ ↔ c = ';' ∧ reading.depth = 0 := by
    rw [Ends, hsemicolon]
  have hresets : reading.Resets ⟨.token, c :: tail⟩ ↔ (c = ';' ∧ reading.depth = 0)
      ∨ (c = '}' ∧ reading.depth ≤ 1 ∧ reading.inFunction = true) := by
    rw [Resets, hends, EndsFunction, hcloses, Directs]
    simp
  rw [StatementScan.characters, characters_tail hfits, StatementScan.character, step, keep]
  simp only [hopens, hcloses, hends, hresets, h.depth, h.inFunction, h.current]
  have houtside := h.outside
  by_cases hopen : c = '{'
  · subst hopen
    simp only [if_true, true_and, Char.reduceEq, false_and, or_self, if_false]
    exact ⟨h.extend hsource (by simp), trivial⟩
  by_cases hclose : c = '}'
  · subst hclose
    simp only [if_true, true_and, Char.reduceEq, false_and, false_or, if_false]
    split_ifs with hbody
    · exact ⟨tracks_fresh hsource _, rfl⟩
    · rw [← h.inFunction] at hbody ⊢
      refine ⟨h.extend hsource fun hdepth => ?_, rfl⟩
      rw [← Bool.not_eq_true]
      exact fun hfunction => hbody ⟨by omega, hfunction⟩
  simp only [hopen, hclose, false_and, or_false, if_false]
  split_ifs with hend
  · rw [hend.2, houtside hend.2]
    exact ⟨tracks_fresh hsource _, rfl⟩
  · rw [← h.inFunction, ← h.depth] at houtside ⊢
    exact ⟨h.extend hsource houtside, rfl⟩

/-- What the search does at a piece. -/
def scanStep (source : Text) (scan : StatementScan) (position : ℕ) (piece : Piece) :
    StatementScan :=
  match piece.kind with
  | .token => scan.characters source position piece.text
  | .directive => scan.directive source (position + piece.text.length)
  | _ => scan

/-- The search follows the reading. -/
lemma Tracks.step {lineStart : Bool} {next : Text} (h : Tracks source scan position reading)
    (hsource : source.drop position = piece.text ++ rest) (hfits : piece.Fits lineStart next) :
    Tracks source (scanStep source scan position piece) (position + piece.text.length)
        (reading.step piece) ∧
      (scanStep source scan position piece).found
        = if reading.Ends piece then ⟨scan.start, position⟩ :: scan.found else scan.found := by
  by_cases htoken : piece.kind = .token
  · obtain ⟨kind, text⟩ := piece
    obtain rfl : kind = .token := htoken
    obtain ⟨c, tail, rfl, _⟩ := id hfits
    exact h.token hsource hfits
  have hopens : ¬ piece.Opens := fun h => htoken h.1
  have hcloses : ¬ piece.Closes := fun h => htoken h.1
  have hends : ¬ reading.Ends piece := fun h => htoken h.1.1
  have hresets : reading.Resets piece ↔ reading.Directs piece := by
    rw [Resets, EndsFunction]
    simp [hends, hcloses]
  have hkeep : Tracks source scan (position + piece.text.length) (reading.keep piece) := by
    have hsame : { scan with depth := reading.depth, inFunction := reading.inFunction } = scan := by
      rw [← h.depth, ← h.inFunction]
    have hextend := h.extend hsource h.outside
    rw [hsame] at hextend
    simpa [keep, hopens, hcloses] using hextend
  rw [if_neg hends]
  by_cases hdirective : piece.kind = .directive
  · have hscan : scanStep source scan position piece
        = scan.directive source (position + piece.text.length) := by rw [scanStep, hdirective]
    rw [hscan, StatementScan.directive, slice_extend (h.start ▸ Nat.le_add_right _ _) hsource,
      h.current]
    split_ifs with hreset
    · rw [h.depth] at hreset
      have hresets : reading.Resets piece := hresets.2 ⟨hdirective, hreset⟩
      rw [Reading.step, if_pos hresets, fresh, if_neg htoken]
      refine ⟨⟨h.depth.trans hreset.1, h.inFunction.trans (h.outside hreset.1), ?_, rfl,
        fun _ => rfl⟩, rfl⟩
      exact Text.slice_self _ _
    · rw [h.depth] at hreset
      rw [Reading.step, if_neg fun hr => hreset (hresets.1 hr).2]
      exact ⟨hkeep, rfl⟩
  · have hscan : scanStep source scan position piece = scan := by
      rw [scanStep]
      split <;> simp_all
    rw [hscan, Reading.step, if_neg fun hr => hdirective (hresets.1 hr).1]
    exact ⟨hkeep, rfl⟩

/-- The search finds what the reading emits, and the positions found cover the texts emitted. -/
lemma Tracks.found_eq {lineStart : Bool} (h : Tracks source scan position reading)
    (hsource : source.drop position = Piece.textOf pieces)
    (hreads : Piece.Reads lineStart pieces []) :
    (StatementScan.pieces source scan position pieces).found
        = ((reading.statements position pieces).map Statement.span).reverse ++ scan.found ∧
      ∀ statement ∈ reading.statements position pieces,
        statement.span.textIn source = statement.text := by
  induction pieces generalizing lineStart position reading scan with
  | nil => exact ⟨rfl, by simp [statements]⟩
  | cons piece pieces ih =>
      obtain ⟨hfits, hreads⟩ := hreads
      obtain ⟨hstep, hfound⟩ := h.step hsource hfits
      have hrest : source.drop (position + piece.text.length) = Piece.textOf pieces := by
        rw [← List.drop_drop, hsource, Piece.textOf_cons, List.drop_left]
      obtain ⟨ihfound, ihtext⟩ := ih hstep hrest hreads
      have hscan : StatementScan.pieces source scan position (piece :: pieces)
          = StatementScan.pieces source (scanStep source scan position piece)
            (position + piece.text.length) pieces := rfl
      rw [hscan, ihfound, hfound, statements]
      have hlength := h.start
      have hspan : (⟨position - reading.current.length, reading.current⟩ : Statement).span
          = ⟨scan.start, position⟩ := by
        rw [Statement.span, ← hlength, Nat.add_sub_cancel]
      split_ifs with hends
      · refine ⟨?_, ?_⟩
        · rw [List.map_cons, List.reverse_cons, hspan, List.append_assoc, List.singleton_append]
        · intro statement hmem
          rcases List.mem_cons.1 hmem with rfl | hmem
          · rw [hspan]
            exact h.current
          · exact ihtext statement hmem
      · exact ⟨rfl, ihtext⟩

end Agreement

/-! ## One statement -/

/-- The reading goes through the pieces without starting anew. -/
def Keeps (reading : Reading) : List Piece → Prop
  | [] => True
  | piece :: pieces => ¬ reading.Resets piece ∧ Keeps (reading.step piece) pieces

/-- A statement goes on over two runs of pieces if it goes on over each. -/
lemma keeps_append : reading.Keeps (pieces ++ others) ↔
    reading.Keeps pieces ∧ (reading.run pieces).Keeps others := by
  induction pieces generalizing reading with
  | nil => exact (true_and _).to_iff.symm
  | cons piece pieces ih => rw [List.cons_append, Keeps, ih, Keeps, and_assoc, run_cons]

/-- What does not start a statement anew is added to it. -/
lemma step_of_not_resets (h : ¬ reading.Resets piece) : reading.step piece = reading.keep piece :=
  if_neg h

/-- As long as a statement goes on, everything read is part of it. -/
lemma Keeps.current (h : reading.Keeps pieces) :
    (reading.run pieces).current = reading.current ++ Piece.textOf pieces := by
  induction pieces generalizing reading with
  | nil => exact (List.append_nil _).symm
  | cons piece pieces ih =>
      rw [run_cons, ih h.2, step_of_not_resets h.1, Piece.textOf_cons, ← List.append_assoc]
      rfl

/-- Nothing ends where nothing starts anew. -/
lemma Keeps.statements (h : reading.Keeps pieces) (position : ℕ) :
    reading.statements position pieces = [] := by
  induction pieces generalizing reading position with
  | nil => rfl
  | cons piece pieces ih =>
      rw [Reading.statements, ih h.2, if_neg fun hends => h.1 (Or.inl hends)]

/-- The first statement that ends among pieces ends at a semicolon. -/
lemma exists_first_end (reading : Reading) (pieces : List Piece) :
    (∀ position, reading.statements position pieces = []) ∨
      ∃ before stop after, pieces = before ++ stop :: after ∧
        (∀ position, reading.statements position before = []) ∧
          (reading.run before).Ends stop := by
  induction pieces generalizing reading with
  | nil => exact Or.inl fun _ => rfl
  | cons piece pieces ih =>
      by_cases hends : reading.Ends piece
      · exact Or.inr ⟨[], piece, pieces, rfl, fun _ => rfl, hends⟩
      · rcases ih (reading.step piece) with hnone | ⟨before, stop, after, rfl, hnone, hstop⟩
        · exact Or.inl fun position => by rw [Reading.statements, if_neg hends, hnone]
        · refine Or.inr ⟨piece :: before, stop, after, rfl, fun position => ?_, hstop⟩
          rw [Reading.statements, if_neg hends, hnone]

/-- **A statement is what comes after the last piece at which the reading starts anew**, and it
starts anew at once or after a piece that ends a function body or is a directive. -/
lemma exists_statement (reading : Reading) (before : List Piece)
    (hnone : ∀ position, reading.statements position before = []) :
    ∃ skipped statement, before = skipped ++ statement ∧
      (reading.run skipped).Keeps statement ∧
        (skipped = [] ∨ ∃ earlier last, skipped = earlier ++ [last] ∧
          ((reading.run earlier).EndsFunction last ∨ (reading.run earlier).Directs last) ∧
            reading.run skipped = fresh last) := by
  induction before using List.reverseRecOn with
  | nil => exact ⟨[], [], rfl, trivial, Or.inl rfl⟩
  | append_singleton before piece ih =>
      have hbefore : ∀ position, reading.statements position before = [] := fun position =>
        (List.append_eq_nil_iff.1 (statements_append.symm.trans (hnone position))).1
      by_cases hresets : (reading.run before).Resets piece
      · refine ⟨before ++ [piece], [], (List.append_nil _).symm, trivial,
          Or.inr ⟨before, piece, rfl, ?_, ?_⟩⟩
        · refine hresets.resolve_left fun hends => ?_
          have hlast := (List.append_eq_nil_iff.1 (statements_append.symm.trans (hnone 0))).2
          rw [Reading.statements, if_pos hends] at hlast
          exact List.cons_ne_nil _ _ hlast
        · rw [run_append]
          exact if_pos hresets
      · obtain ⟨skipped, statement, rfl, hkeeps, hskipped⟩ := ih hbefore
        refine ⟨skipped, statement ++ [piece], (List.append_assoc ..), ?_, hskipped⟩
        rw [keeps_append, ← run_append]
        exact ⟨hkeeps, hresets, trivial⟩

/-- A statement that ends is emitted, and the next one starts with what is left of the token. -/
lemma Keeps.statements_ends {stop : Piece} (h : reading.Keeps pieces)
    (hends : (reading.run pieces).Ends stop) (position : ℕ) (after : List Piece) :
    reading.statements position (pieces ++ stop :: after)
      = { start := position + (Piece.textOf pieces).length
            - (reading.current ++ Piece.textOf pieces).length
          text := reading.current ++ Piece.textOf pieces }
        :: (fresh stop).statements
          (position + (Piece.textOf pieces).length + stop.text.length) after := by
  have hstep : (reading.run pieces).step stop = fresh stop := if_pos (Or.inl hends)
  rw [statements_append, h.statements, List.nil_append, Reading.statements, if_pos hends, hstep,
    h.current]

/-! ## Changed statements -/

section Texts

variable {u v w : Text} {c : Char}

/-- A text with a nonblank character, the first of which is no hash. -/
def Started (u : Text) : Prop := ∃ c, (trimStart u).head? = some c ∧ c ≠ '#'

/-- A text whose first nonblank character, if there is one, is no hash. -/
def Unhashed (u : Text) : Prop := (trimStart u).head? ≠ some '#'

/-- Only blanks are trimmed, so a text without anything else leaves it to the next one. -/
lemma trimStart_append (u w : Text) :
    trimStart (u ++ w) = if trimStart u = [] then trimStart w else trimStart u ++ w := by
  by_cases h : u.dropWhile isBlank = [] <;> simp [trimStart, List.dropWhile_append, h]

/-- What has started does not start with a hash. -/
lemma Started.unhashed (h : Started u) : Unhashed u := by
  obtain ⟨c, hc, hhash⟩ := h
  rw [Unhashed, hc]
  simpa using hhash

/-- What has started stays so. -/
lemma Started.append (h : Started u) (w : Text) : Started (u ++ w) := by
  obtain ⟨c, hc, hhash⟩ := h
  obtain ⟨tail, htail⟩ := List.head?_eq_some_iff.1 hc
  refine ⟨c, ?_, hhash⟩
  rw [trimStart_append, htail]
  rfl

/-- A text without a hash in front is blank, or has started. -/
lemma unhashed_iff : Unhashed u ↔ trimStart u = [] ∨ Started u := by
  rw [Unhashed, Started]
  cases h : trimStart u with
  | nil => simp
  | cons c tail => simp

/-- A text starts with the first character that is neither a blank nor a hash. -/
lemma Unhashed.started_append (h : Unhashed u) (hhead : w.head? = some c)
    (hblank : isBlank c = false) (hhash : c ≠ '#') : Started (u ++ w) := by
  rcases unhashed_iff.1 h with hu | hu
  · obtain ⟨tail, rfl⟩ := List.head?_eq_some_iff.1 hhead
    refine ⟨c, ?_, hhash⟩
    rw [trimStart_append, if_pos hu, trimStart, List.dropWhile_cons_of_neg (by simp [hblank])]
    rfl
  · exact hu.append w

/-- Blanks start nothing. -/
lemma Unhashed.append_blank (h : Unhashed u) (hblank : isBlank c = true) : Unhashed (u ++ [c]) := by
  rcases unhashed_iff.1 h with hu | hu
  · rw [Unhashed, trimStart_append, if_pos hu, trimStart, List.dropWhile_cons_of_pos hblank]
    simp
  · exact (hu.append [c]).unhashed

/-- Blanks at the end are passed over. -/
lemma endsIn_eq_find (c : Char) (u : Text) :
    endsIn c u = ((u.reverse.dropWhile isBlank).head? == some c) := by
  rw [endsIn, trimEnd, trimEndWhile, List.getLast?_reverse]

/-- What a text ends in is what its last part ends in, if that part is not blank. -/
lemma endsIn_append (c : Char) (u w : Text) :
    endsIn c (u ++ w) = if w.reverse.dropWhile isBlank = [] then endsIn c u else endsIn c w := by
  rw [endsIn_eq_find, endsIn_eq_find, endsIn_eq_find, List.reverse_append, List.dropWhile_append]
  simp only [List.isEmpty_iff]
  split_ifs with h
  · rfl
  · rw [List.head?_append_of_ne_nil _ h]

/-- After a text that is not blank it does not matter what came before. -/
lemma endsIn_append_of_mem (k : Char) (u : Text) (hmem : c ∈ w) (hblank : isBlank c = false) :
    endsIn k (u ++ w) = endsIn k w := by
  rw [endsIn_append, if_neg]
  rw [List.dropWhile_eq_nil_iff]
  intro hall
  rw [hall c (List.mem_reverse.2 hmem)] at hblank
  exact Bool.noConfusion hblank

/-- Texts that a reading treats in the same way. -/
structure Alike (u v : Text) : Prop where
  left : Started u
  right : Started v
  endsIn_eq : endsIn ')' u = endsIn ')' v

/-- Texts that are alike stay so. -/
lemma Alike.append (h : Alike u v) (w : Text) : Alike (u ++ w) (v ++ w) := by
  refine ⟨h.left.append w, h.right.append w, ?_⟩
  rw [endsIn_append, endsIn_append, h.endsIn_eq]

end Texts

variable {depth : ℕ} {inFunction : Bool} {u v : Text}

/-- A directive does not start a statement anew that has already started. -/
lemma not_directs (h : Started reading.current) : ¬ reading.Directs piece := by
  rintro ⟨_, _, hhash⟩
  exact (h.append piece.text).unhashed hhash

/-- **Alike texts are read on alike.** -/
theorem Keeps.congr (halike : Alike u v) (h : Keeps ⟨depth, inFunction, u⟩ pieces) :
    Keeps ⟨depth, inFunction, v⟩ pieces ∧
      (run ⟨depth, inFunction, v⟩ pieces).depth = (run ⟨depth, inFunction, u⟩ pieces).depth := by
  induction pieces generalizing depth inFunction u v with
  | nil => exact ⟨trivial, rfl⟩
  | cons piece pieces ih =>
      obtain ⟨hpiece, hpieces⟩ := h
      have hother : ¬ Resets ⟨depth, inFunction, v⟩ piece := by
        rintro (hends | hfunction | hdirects)
        · exact hpiece (Or.inl hends)
        · exact hpiece (Or.inr (Or.inl hfunction))
        · exact not_directs halike.right hdirects
      rw [step_of_not_resets hpiece] at hpieces
      rw [Keeps, run_cons, run_cons, step_of_not_resets hother, step_of_not_resets hpiece]
      simp only [keep] at hpieces ⊢
      rw [halike.endsIn_eq] at hpieces ⊢
      exact (ih (halike.append piece.text) hpieces).imp_left fun hkeeps => ⟨hother, hkeeps⟩

/-- A piece that does nothing but go on with the statement. -/
structure Inert (piece : Piece) : Prop where
  not_opens : ¬ piece.Opens
  not_closes : ¬ piece.Closes
  not_isSemicolon : ¬ piece.IsSemicolon
  not_directive : piece.kind ≠ .directive

/-- Inert pieces become part of the statement, and change nothing else. -/
lemma keeps_inert (hinert : ∀ piece ∈ pieces, Inert piece) : reading.Keeps pieces ∧
    reading.run pieces = { reading with current := reading.current ++ Piece.textOf pieces } := by
  induction pieces generalizing reading with
  | nil => exact ⟨trivial, by rw [Piece.textOf_nil, List.append_nil]; rfl⟩
  | cons piece pieces ih =>
      rw [List.forall_mem_cons] at hinert
      obtain ⟨hopens, hcloses, hsemicolon, hdirective⟩ := hinert.1
      have hresets : ¬ reading.Resets piece := by
        rintro (hends | hfunction | hdirects)
        · exact hsemicolon hends.1
        · exact hcloses hfunction.1
        · exact hdirective hdirects.1
      have hkeep : reading.keep piece
          = { reading with current := reading.current ++ piece.text } := by
        simp [keep, hopens, hcloses]
      rw [Keeps, run_cons, step_of_not_resets hresets, hkeep, Piece.textOf_cons,
        ← List.append_assoc]
      exact (ih hinert.2).imp_left fun hkeeps => ⟨hresets, hkeeps⟩

/-- Inert pieces may be put in before others, if after some more inert pieces the texts are
alike. -/
theorem Keeps.insert {inserted middle more : List Piece} (h : reading.Keeps (middle ++ more))
    (hinserted : ∀ piece ∈ inserted, Inert piece) (hmiddle : ∀ piece ∈ middle, Inert piece)
    (halike : Alike (reading.current ++ Piece.textOf middle)
      (reading.current ++ Piece.textOf inserted ++ Piece.textOf middle)) :
    reading.Keeps (inserted ++ (middle ++ more)) ∧
      (reading.run (inserted ++ (middle ++ more))).depth
        = (reading.run (middle ++ more)).depth := by
  have hbefore : reading.Keeps middle ∧ reading.run middle = _ := keeps_inert hmiddle
  have hfirst : reading.Keeps inserted ∧ reading.run inserted = _ := keeps_inert hinserted
  have hafter : Keeps { reading with current := reading.current ++ Piece.textOf inserted } middle
      ∧ run { reading with current := reading.current ++ Piece.textOf inserted } middle = _ :=
    keeps_inert hmiddle
  rw [keeps_append, hbefore.2] at h
  have hmore := h.2.congr halike
  rw [keeps_append, hfirst.2, keeps_append, hafter.2, run_append, hfirst.2, run_append, hafter.2,
    run_append, hbefore.2]
  exact ⟨⟨hfirst.1, hafter.1, hmore.1⟩, hmore.2⟩

/-- A piece that neither opens a brace nor is a semicolon. -/
def Quiet (piece : Piece) : Prop := ¬ piece.Opens ∧ ¬ piece.IsSemicolon

/-- What is inert is quiet. -/
lemma Inert.quiet (h : Inert piece) : Quiet piece := ⟨h.not_opens, h.not_isSemicolon⟩

/-- Pieces that are no tokens are quiet. -/
lemma quiet_of_ne_token (h : piece.kind ≠ .token) : Quiet piece :=
  ⟨fun hopens => h hopens.1, fun hsemicolon => h hsemicolon.1⟩

/-- Outside all braces, what is quiet becomes part of the statement. -/
lemma step_quiet (hquiet : Quiet piece) (hdirects : ¬ Directs ⟨0, false, u⟩ piece) :
    ¬ Resets ⟨0, false, u⟩ piece ∧ step ⟨0, false, u⟩ piece = ⟨0, false, u ++ piece.text⟩ := by
  have hresets : ¬ Resets ⟨0, false, u⟩ piece := by
    rintro (hends | hfunction | h)
    · exact hquiet.2 hends.1
    · exact Bool.false_ne_true hfunction.2.2
    · exact hdirects h
  refine ⟨hresets, ?_⟩
  rw [step_of_not_resets hresets, keep]
  simp [hquiet.1]

/-- Outside all braces, quiet pieces are read on without starting anew, once the statement has
started or if there is no directive among them. -/
lemma keeps_quiet (hquiet : ∀ piece ∈ pieces, Quiet piece)
    (hdirective : Started u ∨ ∀ piece ∈ pieces, piece.kind ≠ .directive) :
    Keeps ⟨0, false, u⟩ pieces ∧
      run ⟨0, false, u⟩ pieces = ⟨0, false, u ++ Piece.textOf pieces⟩ := by
  induction pieces generalizing u with
  | nil => exact ⟨trivial, by rw [Piece.textOf_nil, List.append_nil]; rfl⟩
  | cons piece pieces ih =>
      have hdirects : ¬ Directs ⟨0, false, u⟩ piece := by
        rcases hdirective with hstarted | hnone
        · exact not_directs hstarted
        · exact fun h => hnone piece List.mem_cons_self h.1
      obtain ⟨hresets, hstep⟩ := step_quiet (hquiet piece List.mem_cons_self) hdirects
      have hrest := ih (u := u ++ piece.text)
        (fun other hother => hquiet other (List.mem_cons_of_mem _ hother))
        (hdirective.imp (fun h => h.append _)
          fun h other hother => h other (List.mem_cons_of_mem _ hother))
      rw [Keeps, run_cons, hstep, Piece.textOf_cons, ← List.append_assoc]
      exact ⟨⟨hresets, hrest.1⟩, hrest.2⟩

/-- Outside all braces, a statement has no semicolon. -/
lemma Keeps.not_isSemicolon (h : reading.Keeps pieces) (hdepth : reading.depth = 0)
    (hopens : ∀ piece ∈ pieces, ¬ piece.Opens) : ∀ piece ∈ pieces, ¬ piece.IsSemicolon := by
  induction pieces generalizing reading with
  | nil => simp
  | cons piece pieces ih =>
      rw [List.forall_mem_cons] at hopens ⊢
      refine ⟨fun hsemicolon => h.1 (Or.inl ⟨hsemicolon, hdepth⟩), ih h.2 ?_ hopens.2⟩
      rw [step_of_not_resets h.1, keep]
      simp [hopens.1, hdepth]

/-- What stands before the first token of a statement starts with no hash. -/
lemma Keeps.lead {lineStart : Bool} {rest : Text} (h : Keeps ⟨0, false, u⟩ pieces)
    (hreads : Piece.Reads lineStart pieces rest) (hu : Unhashed u)
    (hkind : ∀ piece ∈ pieces, piece.kind ≠ .token) :
    run ⟨0, false, u⟩ pieces = ⟨0, false, u ++ Piece.textOf pieces⟩ ∧
      Unhashed (u ++ Piece.textOf pieces) := by
  induction pieces generalizing u lineStart with
  | nil =>
      rw [Piece.textOf_nil, List.append_nil]
      exact ⟨rfl, hu⟩
  | cons piece pieces ih =>
      obtain ⟨hresets, hkeeps⟩ := h
      obtain ⟨hfits, hreads⟩ := hreads
      rw [List.forall_mem_cons] at hkind
      have hdirects : ¬ Directs ⟨0, false, u⟩ piece := fun hd => hresets (Or.inr (Or.inr hd))
      obtain ⟨_, hstep⟩ := step_quiet (quiet_of_ne_token hkind.1) hdirects
      have hnext : Unhashed (u ++ piece.text) := by
        rcases (Piece.fits_other_iff hkind.1).1 hfits with rfl | ⟨c, rfl, _, hblank⟩
          | ⟨tail, rfl, _⟩ | ⟨tail, rfl, _⟩ | ⟨tail, rfl, _, _⟩
        · exact hu.append_blank (by decide)
        · exact hu.append_blank (isBlank_of_isAsciiBlank hblank)
        · exact (hu.started_append (w := '/' :: '/' :: tail) rfl (by decide) (by decide)).unhashed
        · exact (hu.started_append (w := '/' :: '*' :: tail) rfl (by decide) (by decide)).unhashed
        · exact fun hhash => hdirects ⟨rfl, rfl, hhash⟩
      rw [hstep] at hkeeps
      rw [run_cons, hstep, Piece.textOf_cons, ← List.append_assoc]
      exact ih hkeeps hreads hnext hkind.2

end Reading

open Reading

/-- The statements of a source. -/
def statementsOf (source : Text) : List Statement :=
  statements {} 0 (Piece.scan source)

/-- The search finds the statements that are read, with their texts in their spans. -/
lemma pieces_statementsOf (source : Text) :
    (StatementScan.pieces source {} 0 (Piece.scan source)).found
        = ((statementsOf source).map Statement.span).reverse ∧
      ∀ statement ∈ statementsOf source, statement.span.textIn source = statement.text := by
  have htracks : Tracks source {} 0 {} := ⟨rfl, rfl, Text.slice_self _ _, rfl, fun _ => rfl⟩
  have hsource : source.drop 0 = Piece.textOf (Piece.scan source) :=
    (Piece.flatMap_text_scanFrom true source).symm
  have h := htracks.found_eq hsource (Piece.reads_scanFrom true source)
  rw [List.append_nil] at h
  exact h

/-- **The search finds the statements that the reading emits.** -/
theorem globalStatements_eq (source : Text) :
    globalStatements source = (statementsOf source).map Statement.span := by
  rw [globalStatements, (pieces_statementsOf source).1, List.reverse_reverse]

/-- The positions of a statement cover its text. -/
theorem textIn_statement {source : Text} {statement : Statement}
    (h : statement ∈ statementsOf source) : statement.span.textIn source = statement.text :=
  (pieces_statementsOf source).2 statement h

/-- The tokens of a statement are found where the statement stands. -/
lemma tokenizeIn_statement {source : Text} {statement : Statement}
    (h : statement ∈ statementsOf source) :
    tokenizeIn source statement.span = statement.tokens := by
  rw [tokenizeIn, textIn_statement h]
  rfl

end GlBridge.Glsl
