import GlBridge.Glsl.Statement
import GlBridge.Proofs.Glsl.Bytewise
import GlBridge.Proofs.Glsl.Reading

/-!
# Tokens and statements in bytes

The scanners of a source count bytes.  A token is sliced out of the source when its end has been
found, and the search for statements slices out what stands before a brace or a preprocessor line.
Here both are written down as they go over bytes, with every slice checked, and compared with those
on the text.

**Tokens.**  Every piece of the bytes is a piece of the text, so a token starts and ends where
characters do (`tokenize?_encode`).

**Statements.**  The search remembers where the current statement starts, and that place is never
past the one it has got to.  `StatementScan.Ordered` says so, and that the statements found come one
after the other; each character keeps it.

**Tokens of statements.**  The tokens of a statement count from its start, and are moved behind what
stands before it.  `Placed` says of tokens that they come one after the other between two places.

* **`tokenize?_encode`**, **`globalStatements?_encode`**, **`globalDeclarations?_encode`** — on the
  bytes of a text no slice fails, and the results are those on the text;
* **`tokenize_placed`**, **`globalStatements_ordered`**, **`globalDeclarations_ordered`** — tokens
  and statements come one after the other.
-/

namespace GlBridge.Glsl

open Text

/-! ## Tokens -/

/-- A token and the offsets between which it stands. -/
structure ByteToken where
  text : Text
  start : ℕ
  stop : ℕ
deriving DecidableEq, Repr

/-- The offsets between which a token stands. -/
def ByteToken.span (token : ByteToken) : Span := { start := token.start, stop := token.stop }

/-- The token of a text, as it stands in the bytes. -/
def Token.inBytes (source : Text) (token : Token) : ByteToken :=
  { text := token.text, start := byteOffset source token.start,
    stop := byteOffset source token.stop }

/-- The tokens among the pieces of bytes that start at an offset. -/
def tokensFrom? (bytes : Bytes) (offset : ℕ) : List Piece → Option (List ByteToken)
  | [] => some []
  | piece :: pieces =>
    let stop := offset + piece.text.length
    match piece.kind with
    | .token => do
      let text ← bytes.slice? offset stop
      let rest ← tokensFrom? bytes stop pieces
      return { text, start := offset, stop } :: rest
    | _ => tokensFrom? bytes stop pieces

/-- The tokens of bytes. -/
def tokenize? (bytes : Bytes) : Option (List ByteToken) :=
  tokensFrom? bytes 0 (Piece.scan bytes.characters)

section Tokens

open Piece

variable {source rest : Text} {position : ℕ} {pieces : List Piece}

/-- After a text comes what follows it. -/
lemma drop_add {text : Text} (h : source.drop position = text ++ rest) :
    source.drop (position + text.length) = rest := by
  rw [← List.drop_drop, h, List.drop_left]

/-- Where a piece ends in the bytes. -/
lemma Piece.length_bytewise (piece : Piece) (h : source.drop position = piece.text ++ rest) :
    byteOffset source position + piece.bytewise.text.length
      = byteOffset source (position + piece.text.length) := by
  rw [byteOffset_of_drop h, ← Text.length_bytewise]
  rfl

/-- The tokens of pieces are found in the bytes, at the offsets of the characters. -/
lemma tokensFrom?_encode (h : source.drop position = textOf pieces) :
    tokensFrom? (encode source) (byteOffset source position) (pieces.map Piece.bytewise)
      = some ((tokensFrom position pieces).map (Token.inBytes source)) := by
  induction pieces generalizing position with
  | nil => rfl
  | cons piece pieces ih =>
      rw [textOf_cons] at h
      have hstop := piece.length_bytewise h
      have hslice := slice?_encode source (Nat.le_add_right position piece.text.length)
      rw [Reading.slice_of_drop h] at hslice
      have hrest := ih (drop_add h)
      by_cases hkind : piece.kind = .token
      · rw [List.map_cons, tokensFrom?, hstop, hslice, hrest, eq_token hkind, tokensFrom_token]
        rfl
      · rw [List.map_cons, tokensFrom_cons_other hkind, ← hrest, tokensFrom?, hstop]
        split
        · next h => exact absurd h hkind
        · rfl

/-- **The tokens of the bytes are those of the text.** -/
theorem tokenize?_encode (source : Text) :
    tokenize? (encode source) = some ((tokenize source).map (Token.inBytes source)) := by
  have hscan : Piece.scan (encode source).characters = (Piece.scan source).map Piece.bytewise :=
    scanFrom_bytewise true source
  have hsource : source.drop 0 = textOf (Piece.scan source) :=
    (flatMap_text_scanFrom true source).symm
  rw [tokenize?, hscan]
  exact tokensFrom?_encode hsource

end Tokens

/-! ## Statements -/

namespace StatementScan

/-- Reading a byte.  It is only at an opening brace outside all others that the text of the current
statement is looked at. -/
def character? (bytes : Bytes) (scan : StatementScan) (offset : ℕ) (c : Char) :
    Option StatementScan :=
  if c = '{' ∧ scan.depth = 0 then do
    let current ← bytes.slice? scan.start offset
    return { scan with depth := 1, inFunction := endsIn ')' current }
  else return scan.character [] offset c

/-- Reading a run of bytes that starts at an offset. -/
def characters? (bytes : Bytes) (scan : StatementScan) (offset : ℕ) : Text → Option StatementScan
  | [] => some scan
  | c :: rest => do
    let scan ← scan.character? bytes offset c
    scan.characters? bytes (offset + 1) rest

/-- Reading a preprocessor line that ends just before `stop`. -/
def directive? (bytes : Bytes) (scan : StatementScan) (stop : ℕ) : Option StatementScan :=
  if scan.depth = 0 then do
    let current ← bytes.slice? scan.start stop
    return if (trimStart current).head? = some '#' then { scan with start := stop } else scan
  else return scan

/-- Reading a piece that starts at an offset. -/
def piece? (bytes : Bytes) (scan : StatementScan) (offset : ℕ) (piece : Piece) :
    Option StatementScan :=
  match piece.kind with
  | .token => scan.characters? bytes offset piece.text
  | .directive => scan.directive? bytes (offset + piece.text.length)
  | _ => some scan

/-- Reading the pieces of bytes from an offset on. -/
def pieces? (bytes : Bytes) (scan : StatementScan) (offset : ℕ) :
    List Piece → Option StatementScan
  | [] => some scan
  | piece :: rest => do
    let scan ← scan.piece? bytes offset piece
    scan.pieces? bytes (offset + piece.text.length) rest

/-- What the search remembers, in offsets. -/
def inBytes (source : Text) (scan : StatementScan) : StatementScan :=
  { scan with start := byteOffset source scan.start, found := scan.found.map (Span.inBytes source) }

variable {source rest : Text} {scan : StatementScan} {position : ℕ} {c : Char}

/-- The statements found come one after the other and before the current one. -/
structure Ordered (scan : StatementScan) (position : ℕ) : Prop where
  start_le : scan.start ≤ position
  found : scan.found.Pairwise fun later earlier => earlier.stop < later.start
  before : ∀ span ∈ scan.found, span.start ≤ span.stop ∧ span.stop < scan.start

lemma ordered_start : Ordered {} 0 := ⟨le_rfl, List.Pairwise.nil, by simp⟩

namespace Ordered

/-- The current statement may start later. -/
lemma restart (h : Ordered scan position) {start : ℕ} (hlow : scan.start ≤ start)
    (hhigh : start ≤ position) {depth : ℕ} {inFunction : Bool} :
    Ordered { scan with start, depth, inFunction } position where
  start_le := hhigh
  found := h.found
  before := fun span hspan => ⟨(h.before span hspan).1, (h.before span hspan).2.trans_le hlow⟩

/-- The search may go on from a later position. -/
lemma mono (h : Ordered scan position) {later : ℕ} (hle : position ≤ later) :
    Ordered scan later where
  start_le := h.start_le.trans hle
  found := h.found
  before := h.before

/-- One more statement ends where the current one does. -/
lemma emit (h : Ordered scan position) :
    Ordered { scan with
      start := position + 1
      found := { start := scan.start, stop := position } :: scan.found } (position + 1) where
  start_le := le_rfl
  found := List.pairwise_cons.2 ⟨fun span hspan => (h.before span hspan).2, h.found⟩
  before := by
    rw [List.forall_mem_cons]
    refine ⟨⟨h.start_le, Nat.lt_succ_self position⟩, fun span hspan => ?_⟩
    obtain ⟨hle, hlt⟩ := h.before span hspan
    exact ⟨hle, hlt.trans_le (h.start_le.trans (Nat.le_succ position))⟩

/-- A character keeps the statements in order. -/
lemma character (h : Ordered scan position) :
    Ordered (scan.character source position c) (position + 1) := by
  have hnext := h.mono (Nat.le_succ position)
  unfold StatementScan.character
  split_ifs with hopens houter hcloses hbody hends
  · exact hnext.restart le_rfl hnext.start_le
  · exact hnext.restart le_rfl hnext.start_le
  · exact hnext.restart hnext.start_le le_rfl
  · exact hnext.restart le_rfl hnext.start_le
  · exact h.emit
  · exact hnext

lemma characters {text : Text} (h : Ordered scan position) :
    Ordered (scan.characters source position text) (position + text.length) := by
  induction text generalizing scan position with
  | nil => exact h
  | cons c text ih =>
      rw [List.length_cons, ← Nat.add_assoc, Nat.add_right_comm]
      exact ih h.character

/-- A directive starts the statement anew at its end. -/
lemma directive (h : Ordered scan position) : Ordered (scan.directive source position) position := by
  unfold StatementScan.directive
  split_ifs
  · exact h.restart h.start_le le_rfl
  · exact h

end Ordered

/-- The search as it goes on after a piece. -/
def piece (source : Text) (scan : StatementScan) (position : ℕ) (piece : Piece) : StatementScan :=
  match piece.kind with
  | .token => scan.characters source position piece.text
  | .directive => scan.directive source (position + piece.text.length)
  | _ => scan

/-- A piece keeps the statements in order, whatever it is. -/
lemma Ordered.piece {p : Piece} (h : Ordered scan position) :
    Ordered (scan.piece source position p) (position + p.text.length) := by
  have hnext := h.mono (Nat.le_add_right position p.text.length)
  unfold StatementScan.piece
  split
  · exact h.characters
  · exact hnext.directive
  · exact hnext

/-- So do all pieces, one after the other. -/
lemma Ordered.pieces {pieces : List Piece} (h : Ordered scan position) :
    Ordered (scan.pieces source position pieces) (position + (Piece.textOf pieces).length) := by
  induction pieces generalizing scan position with
  | nil => exact h
  | cons p pieces ih =>
      rw [Piece.textOf_cons, List.length_append, ← Nat.add_assoc]
      exact ih h.piece

/-! ### In bytes -/

/-- Only an opening brace outside all others needs the source. -/
lemma character_congr (h : ¬ (c = '{' ∧ scan.depth = 0)) (other : Text) :
    scan.character source position c = scan.character other position c := by
  unfold character
  split_ifs <;> simp_all

/-- A character outside ASCII means nothing to the search. -/
lemma character_other (hc : isAscii c = false) : scan.character source position c = scan := by
  rw [character, if_neg (ne_of_isAscii (by decide) hc), if_neg (ne_of_isAscii (by decide) hc),
    if_neg fun h => ne_of_isAscii (by decide) hc h.1]

/-- An ASCII character is looked at in the same way in the bytes: what the search slices is within
bounds. -/
lemma character?_encode (h : Ordered scan position) (hsource : source.drop position = c :: rest)
    (hc : isAscii c = true) :
    (scan.inBytes source).character? (encode source) (byteOffset source position) c
      = some ((scan.character source position c).inBytes source) := by
  have hnext : byteOffset source position + 1 = byteOffset source (position + 1) := by
    rw [byteOffset_add, hsource, byteOffset_cons_ascii hc]
    rfl
  by_cases hopens : c = '{' ∧ scan.depth = 0
  · obtain ⟨rfl, hdepth⟩ := hopens
    have hslice := slice?_encode source h.start_le
    rw [character?, if_pos ⟨rfl, hdepth⟩, inBytes, hslice, character, if_pos rfl, hdepth]
    rfl
  · have hopens' : ¬ (c = '{' ∧ (scan.inBytes source).depth = 0) := hopens
    rw [character?, if_neg hopens', character_congr hopens []]
    refine congrArg some ?_
    unfold character
    split_ifs <;> simp_all [inBytes, Span.inBytes]

/-- Bytes outside ASCII mean nothing to the search either. -/
lemma characters?_other (bytes : Bytes) {ds : Text} (hds : ∀ d ∈ ds, isAscii d = false)
    (scan : StatementScan) (offset : ℕ) (text : Text) :
    scan.characters? bytes offset (ds ++ text)
      = scan.characters? bytes (offset + ds.length) text := by
  induction ds generalizing offset with
  | nil => rfl
  | cons d ds ih =>
      rw [List.forall_mem_cons] at hds
      have hd : scan.character? bytes offset d = some scan := by
        rw [character?, if_neg fun h => ne_of_isAscii (by decide) hds.1 h.1, character_other hds.1]
        rfl
      rw [List.cons_append, characters?, hd, List.length_cons, ← Nat.add_assoc,
        Nat.add_right_comm]
      exact ih hds.2 _

/-- The characters of a token are looked at one by one, those outside ASCII as several bytes. -/
lemma characters?_encode : ∀ {text : Text} {scan : StatementScan} {position : ℕ},
    Ordered scan position → source.drop position = text ++ rest →
      (scan.inBytes source).characters? (encode source) (byteOffset source position)
        (bytewise text) = some ((scan.characters source position text).inBytes source)
  | [], scan, position, h, hsource => rfl
  | c :: text, scan, position, h, hsource => by
      have hrest : source.drop (position + 1) = text ++ rest := by
        rw [← List.drop_drop, hsource]
        rfl
      have hnext : byteOffset source (position + 1)
          = byteOffset source position + (bytewise [c]).length := by
        rw [length_bytewise]
        exact byteOffset_of_drop (show source.drop position = [c] ++ (text ++ rest) from hsource)
      have hcharacter : Ordered (scan.character source position c) (position + 1) := h.character
      have ih := characters?_encode hcharacter hrest
      cases hc : isAscii c with
      | true =>
          rw [bytewise_ascii hc, characters?, character?_encode h hsource hc]
          rw [hnext, bytewise_ascii hc] at ih
          exact ih
      | false =>
          rw [character_other hc, hnext] at ih
          rw [bytewise_cons, characters?_other _ fun d => isAscii_of_mem_bytewise hc, ih,
            characters, character_other hc]

/-- The slice up to a directive is within bounds. -/
lemma directive?_encode (h : Ordered scan position) :
    (scan.inBytes source).directive? (encode source) (byteOffset source position)
      = some ((scan.directive source position).inBytes source) := by
  have hslice := slice?_encode source h.start_le
  by_cases hdepth : scan.depth = 0
  · have hdepth' : (scan.inBytes source).depth = 0 := hdepth
    rw [directive?, if_pos hdepth', inBytes, hslice, directive]
    by_cases hhash : (trimStart (source.slice scan.start position)).head? = some '#'
    · rw [if_pos ⟨hdepth, hhash⟩]
      simp only [Option.bind_eq_bind, Option.bind_some, if_pos hhash]
      rfl
    · rw [if_neg fun h => hhash h.2]
      simp only [Option.bind_eq_bind, Option.bind_some, if_neg hhash]
      rfl
  · have hdepth' : ¬ (scan.inBytes source).depth = 0 := hdepth
    rw [directive?, if_neg hdepth', directive, if_neg fun h => hdepth h.1]
    rfl

/-- A piece is looked at in the same way in the bytes. -/
lemma piece?_encode {p : Piece} (h : Ordered scan position)
    (hsource : source.drop position = p.text ++ rest) :
    (scan.inBytes source).piece? (encode source) (byteOffset source position) p.bytewise
      = some ((scan.piece source position p).inBytes source) := by
  have hstop : byteOffset source position + p.bytewise.text.length
      = byteOffset source (position + p.text.length) := p.length_bytewise hsource
  have hnext := h.mono (Nat.le_add_right position p.text.length)
  unfold piece? piece
  rw [hstop]
  obtain ⟨kind, text⟩ := p
  cases kind with
  | token => exact characters?_encode h hsource
  | directive => exact directive?_encode hnext
  | lineFeed => rfl
  | blank => rfl
  | comment => rfl

/-- Whatever has been read, the pieces of the rest are looked at in the same way. -/
lemma pieces?_encode : ∀ {pieces : List Piece} {scan : StatementScan} {position : ℕ},
    Ordered scan position → source.drop position = Piece.textOf pieces →
      (scan.inBytes source).pieces? (encode source) (byteOffset source position)
        (pieces.map Piece.bytewise) = some ((scan.pieces source position pieces).inBytes source)
  | [], scan, position, h, hsource => rfl
  | p :: pieces, scan, position, h, hsource => by
      rw [Piece.textOf_cons] at hsource
      rw [List.map_cons, pieces?, piece?_encode h hsource, p.length_bytewise hsource]
      exact pieces?_encode h.piece (drop_add hsource)

end StatementScan

/-- The spans of the statements at global scope, in offsets. -/
def globalStatements? (bytes : Bytes) : Option (List Span) := do
  let scan ← StatementScan.pieces? bytes {} 0 (Piece.scan bytes.characters)
  return scan.found.reverse

/-- **The statements of the bytes are those of the text.** -/
theorem globalStatements?_encode (source : Text) :
    globalStatements? (encode source) = some ((globalStatements source).map (Span.inBytes source)) := by
  have hscan : Piece.scan (encode source).characters = (Piece.scan source).map Piece.bytewise :=
    Piece.scanFrom_bytewise true source
  have hsource : source.drop 0 = Piece.textOf (Piece.scan source) :=
    (Piece.flatMap_text_scanFrom true source).symm
  have hpieces : StatementScan.pieces? (encode source) {} 0 ((Piece.scan source).map Piece.bytewise)
      = some ((StatementScan.pieces source {} 0 (Piece.scan source)).inBytes source) :=
    StatementScan.pieces?_encode StatementScan.ordered_start hsource
  rw [globalStatements?, hscan, hpieces, globalStatements, List.map_reverse]
  rfl

/-- **Statements come one after the other**, with a semicolon after each. -/
theorem globalStatements_ordered (source : Text) :
    (globalStatements source).Pairwise (fun earlier later => earlier.stop < later.start) ∧
      ∀ span ∈ globalStatements source, span.start ≤ span.stop ∧ span.stop < source.length := by
  have hordered : StatementScan.Ordered (StatementScan.pieces source {} 0 (Piece.scan source))
      (0 + (Piece.textOf (Piece.scan source)).length) := StatementScan.ordered_start.pieces
  have hlength : (Piece.textOf (Piece.scan source)).length = source.length :=
    congrArg List.length (Piece.flatMap_text_scanFrom true source)
  rw [hlength, Nat.zero_add] at hordered
  refine ⟨List.pairwise_reverse.2 hordered.found, fun span hspan => ?_⟩
  obtain ⟨hle, hlt⟩ := hordered.before span (List.mem_reverse.1 hspan)
  exact ⟨hle, hlt.trans_le hordered.start_le⟩

/-! ## The tokens of statements -/

/-- A token that stands further behind. -/
def ByteToken.shift (offset : ℕ) (token : ByteToken) : ByteToken :=
  { token with start := token.start + offset, stop := token.stop + offset }

/-- The tokens of the bytes between two offsets, with their offsets among all bytes. -/
def tokenizeIn? (bytes : Bytes) (span : Span) : Option (List ByteToken) := do
  let text ← bytes.slice? span.start span.stop
  let tokens ← tokenize? (encode text)
  return tokens.map (·.shift span.start)

/-- The tokens of every statement at global scope that has any. -/
def globalDeclarations? (bytes : Bytes) : Option (List (List ByteToken)) := do
  let spans ← globalStatements? bytes
  let declarations ← spans.mapM (tokenizeIn? bytes)
  return declarations.filter (· ≠ [])

/-- Tokens stand one after the other between two positions, and none is empty. -/
structure Placed (start stop : ℕ) (tokens : List Token) : Prop where
  ordered : tokens.Pairwise fun earlier later => earlier.stop ≤ later.start
  within : ∀ token ∈ tokens, start ≤ token.start ∧ token.start < token.stop ∧ token.stop ≤ stop

/-- A longer span holds the same tokens. -/
lemma Placed.mono {start stop earlier later : ℕ} {tokens : List Token}
    (h : Placed start stop tokens) (hlow : earlier ≤ start) (hhigh : stop ≤ later) :
    Placed earlier later tokens where
  ordered := h.ordered
  within := fun token htoken =>
    have hwithin := h.within token htoken
    ⟨hlow.trans hwithin.1, hwithin.2.1, hwithin.2.2.trans hhigh⟩

/-- Some of the tokens of a span are tokens of the span. -/
lemma Placed.sublist {start stop : ℕ} {tokens some : List Token} (h : Placed start stop tokens)
    (hsome : some.Sublist tokens) : Placed start stop some where
  ordered := h.ordered.sublist hsome
  within := fun token htoken => h.within token (hsome.subset htoken)

/-- Nothing starts before the first token. -/
lemma Placed.first_le {start stop : ℕ} {tokens : List Token} {first token : Token}
    (h : Placed start stop tokens) (hfirst : tokens.head? = some first) (htoken : token ∈ tokens) :
    first.start ≤ token.start := by
  obtain ⟨rest, rfl⟩ := List.head?_eq_some_iff.1 hfirst
  rcases List.mem_cons.1 htoken with rfl | hrest
  · exact le_rfl
  · exact (h.within first List.mem_cons_self).2.1.le.trans
      ((List.pairwise_cons.1 h.ordered).1 token hrest)

/-- Nothing ends after the last token. -/
lemma Placed.le_last {start stop : ℕ} {tokens : List Token} {last token : Token}
    (h : Placed start stop tokens) (hlast : tokens.getLast? = some last) (htoken : token ∈ tokens) :
    token.stop ≤ last.stop := by
  obtain ⟨before, rfl⟩ := List.getLast?_eq_some_iff.1 hlast
  rcases List.mem_append.1 htoken with hbefore | hmem
  · have hle := (List.pairwise_append.1 h.ordered).2.2 token hbefore last (by simp)
    exact hle.trans (h.within last (by simp)).2.1.le
  · rw [List.mem_singleton.1 hmem]

/-- In the bytes, too, the tokens stand one after the other. -/
lemma Placed.slices {source : Text} {start stop : ℕ} {tokens : List Token}
    (h : Placed start stop tokens) (hstop : stop ≤ source.length) :
    (encode source).Slices ((tokens.map (Token.inBytes source)).map ByteToken.span) := by
  have hordered : (tokens.map fun token => Span.mk token.start token.stop).Pairwise
      fun earlier later => earlier.stop ≤ later.start ∧ earlier.start < later.start :=
    List.pairwise_map.2 <| h.ordered.imp_of_mem fun hearlier _ hle =>
      ⟨hle, (h.within _ hearlier).2.1.trans_le hle⟩
  have hslices := slices_inBytes hordered <| List.forall_mem_map.2 fun token htoken =>
    ⟨(h.within token htoken).2.1.le, (h.within token htoken).2.2.trans hstop⟩
  rw [List.map_map] at hslices ⊢
  exact hslices

/-- Pieces of a text are not empty. -/
lemma Piece.ne_nil_of_mem_scanFrom (lineStart : Bool) (text : Text) :
    ∀ piece ∈ scanFrom lineStart text, piece.text ≠ [] := by
  fun_induction scanFrom lineStart text with
  | case1 => simp
  | case2 lineStart c rest kind length hlead ih =>
      exact List.forall_mem_cons.2 ⟨List.cons_ne_nil _ _, ih⟩

/-- The tokens of pieces stand where the pieces do. -/
lemma tokensFrom_placed {position : ℕ} {pieces : List Piece}
    (h : ∀ piece ∈ pieces, piece.text ≠ []) :
    Placed position (position + (Piece.textOf pieces).length) (tokensFrom position pieces) := by
  induction pieces generalizing position with
  | nil => exact ⟨List.Pairwise.nil, by simp [tokensFrom]⟩
  | cons piece pieces ih =>
      rw [List.forall_mem_cons] at h
      have hpos : 0 < piece.text.length := List.length_pos_iff.2 h.1
      obtain ⟨hordered, hwithin⟩ : Placed (position + piece.text.length) _ _ := ih h.2
      rw [Piece.textOf_cons, List.length_append, ← Nat.add_assoc]
      by_cases hkind : piece.kind = .token
      · rw [Piece.eq_token hkind, tokensFrom_token]
        refine ⟨List.pairwise_cons.2 ⟨fun token htoken => (hwithin token htoken).1, hordered⟩, ?_⟩
        refine List.forall_mem_cons.2 ⟨⟨le_rfl, ?_, Nat.le_add_right _ _⟩, fun token htoken => ?_⟩
        · exact Nat.lt_add_of_pos_right hpos
        · obtain ⟨hlow, hrest⟩ := hwithin token htoken
          exact ⟨(Nat.le_add_right _ _).trans hlow, hrest⟩
      · rw [tokensFrom_cons_other hkind]
        refine ⟨hordered, fun token htoken => ?_⟩
        obtain ⟨hlow, hrest⟩ := hwithin token htoken
        exact ⟨(Nat.le_add_right _ _).trans hlow, hrest⟩

/-- **Tokens come one after the other**, and none is empty. -/
theorem tokenize_placed (source : Text) : Placed 0 source.length (tokenize source) := by
  have hplaced : Placed 0 _ _ := tokensFrom_placed (Piece.ne_nil_of_mem_scanFrom true source)
  have hlength : (Piece.textOf (Piece.scan source)).length = source.length :=
    congrArg List.length (Piece.flatMap_text_scanFrom true source)
  rw [← Piece.scan, hlength, Nat.zero_add] at hplaced
  exact hplaced

/-- The tokens of a span stand in it. -/
lemma tokenizeIn_placed (source : Text) {span : Span} (h : span.start ≤ span.stop) :
    Placed span.start span.stop (tokenizeIn source span) := by
  refine (tokensFrom_placed (Piece.ne_nil_of_mem_scanFrom true (span.textIn source))).mono
    le_rfl ?_
  have hlength : (Piece.textOf (Piece.scan (span.textIn source))).length
      = (span.textIn source).length :=
    congrArg List.length (Piece.flatMap_text_scanFrom true (span.textIn source))
  have hle := Text.slice_length_le source span.start span.stop
  rw [← Piece.scan, hlength, Span.textIn]
  omega

/-- A token covers its own text. -/
lemma tokensFrom_text {source rest : Text} {position : ℕ} {pieces : List Piece}
    (h : source.drop position = Piece.textOf pieces ++ rest) :
    ∀ token ∈ tokensFrom position pieces, source.slice token.start token.stop = token.text := by
  induction pieces generalizing position with
  | nil => simp [tokensFrom]
  | cons piece pieces ih =>
      rw [Piece.textOf_cons, List.append_assoc] at h
      have hrest := ih (drop_add h)
      by_cases hkind : piece.kind = .token
      · rw [Piece.eq_token hkind, tokensFrom_token]
        exact List.forall_mem_cons.2 ⟨Reading.slice_of_drop h, hrest⟩
      · rwa [tokensFrom_cons_other hkind]

/-- The tokens of a source cover their texts in particular. -/
lemma tokenize_text (source : Text) :
    ∀ token ∈ tokenize source, source.slice token.start token.stop = token.text :=
  tokensFrom_text (by rw [List.drop_zero, Piece.scan, Piece.textOf, Piece.flatMap_text_scanFrom,
    List.append_nil])

/-- A token is what stands between its positions. -/
lemma tokenizeIn_text (source : Text) (span : Span) :
    ∀ token ∈ tokenizeIn source span, source.slice token.start token.stop = token.text := by
  have htext : Piece.textOf (Piece.scan (span.textIn source)) = span.textIn source :=
    Piece.flatMap_text_scanFrom true (span.textIn source)
  have hdrop : source.drop span.start = Piece.textOf (Piece.scan (span.textIn source))
      ++ (source.drop span.start).drop (span.stop - span.start) := by
    rw [htext, Span.textIn, slice, List.drop_take, List.take_append_drop]
  exact tokensFrom_text hdrop

/-- The tokens of a statement are placed in the source, and each is what stands in its place. -/
lemma globalDeclarations_placed {source : Text} {tokens : List Token}
    (h : tokens ∈ globalDeclarations source) : tokens ≠ [] ∧ Placed 0 source.length tokens ∧
      ∀ token ∈ tokens, source.slice token.start token.stop = token.text := by
  obtain ⟨hmem, hne⟩ := List.mem_filter.1 h
  obtain ⟨span, hspan, rfl⟩ := List.mem_map.1 hmem
  obtain ⟨hle, hlt⟩ := (globalStatements_ordered source).2 span hspan
  exact ⟨of_decide_eq_true hne, (tokenizeIn_placed source hle).mono (Nat.zero_le _) hlt.le,
    tokenizeIn_text source span⟩

/-- **The tokens of a statement come before those of the next one.** -/
lemma globalDeclarations_ordered (source : Text) : (globalDeclarations source).Pairwise
    fun earlier later => ∀ x ∈ earlier, ∀ y ∈ later, x.stop < y.start := by
  obtain ⟨hordered, hwithin⟩ := globalStatements_ordered source
  refine (List.pairwise_map.2 (hordered.imp_of_mem ?_)).filter _
  intro earlier later hearlier hlater hlt x hx y hy
  have hbefore := (tokenizeIn_placed source (hwithin earlier hearlier).1).within x hx
  have hafter := (tokenizeIn_placed source (hwithin later hlater).1).within y hy
  omega

/-- All tokens of the statements stand one after the other. -/
lemma globalDeclarations_flatten_placed (source : Text) :
    Placed 0 source.length (globalDeclarations source).flatten where
  ordered := by
    refine List.pairwise_flatten.2 ⟨fun tokens htokens =>
      (globalDeclarations_placed htokens).2.1.ordered, ?_⟩
    exact (globalDeclarations_ordered source).imp fun hlt x hx y hy => (hlt x hx y hy).le
  within := fun token htoken => by
    obtain ⟨tokens, htokens, hmem⟩ := List.mem_flatten.1 htoken
    exact (globalDeclarations_placed htokens).2.1.within token hmem

/-- Pieces that stand further behind have their tokens further behind. -/
lemma tokensFrom_add (start position : ℕ) (pieces : List Piece) :
    tokensFrom (start + position) pieces
      = (tokensFrom position pieces).map fun token =>
          { token with start := start + token.start } := by
  induction pieces generalizing position with
  | nil => rfl
  | cons piece pieces ih =>
      have hrest := ih (position + piece.text.length)
      rw [← Nat.add_assoc] at hrest
      by_cases hkind : piece.kind = .token
      · rw [Piece.eq_token hkind] at hrest ⊢
        rw [tokensFrom_token, tokensFrom_token, List.map_cons]
        exact congrArg _ hrest
      · rw [tokensFrom_cons_other hkind, tokensFrom_cons_other hkind, hrest]

/-- A statement is cut into tokens in the same way in the bytes. -/
lemma tokenizeIn?_encode (source : Text) {span : Span} (h : span.start ≤ span.stop) :
    tokenizeIn? (encode source) (span.inBytes source)
      = some ((tokenizeIn source span).map (Token.inBytes source)) := by
  have hslice := slice?_encode source h
  rw [tokenizeIn?, Span.inBytes, hslice, Option.bind_eq_bind, Option.bind_some, tokenize?_encode,
    Option.bind_eq_bind, Option.bind_some]
  refine congrArg some ?_
  have hshift := tokensFrom_add span.start 0 (Piece.scan (span.textIn source))
  rw [Nat.add_zero] at hshift
  rw [tokenizeIn, hshift, List.map_map, List.map_map]
  refine List.map_congr_left fun token htoken => ?_
  obtain ⟨_, hlt, hle⟩ := (tokenize_placed (span.textIn source)).within token htoken
  have hstart := byteOffset_slice (hlt.le.trans hle)
  have hstop := byteOffset_slice hle
  simp only [Function.comp_apply, Token.inBytes, ByteToken.shift, ByteToken.mk.injEq, true_and]
  refine ⟨hstart, ?_⟩
  rw [hstop, Token.stop, Token.stop, Nat.add_assoc]

/-- A map that always gives something. -/
lemma mapM_map_eq_some {α β γ : Type} {l : List α} {f : α → β} {g : β → Option γ} {h : α → γ}
    (hall : ∀ a ∈ l, g (f a) = some (h a)) : (l.map f).mapM g = some (l.map h) := by
  induction l with
  | nil => rfl
  | cons a l ih =>
      rw [List.forall_mem_cons] at hall
      rw [List.map_cons, List.mapM_cons, hall.1, ih hall.2]
      rfl

/-- **The declarations of the bytes are those of the text.** -/
theorem globalDeclarations?_encode (source : Text) :
    globalDeclarations? (encode source)
      = some ((globalDeclarations source).map fun tokens => tokens.map (Token.inBytes source)) := by
  have hmap := mapM_map_eq_some (l := globalStatements source) fun span hspan =>
    tokenizeIn?_encode source ((globalStatements_ordered source).2 span hspan).1
  have hfilter (declarations : List (List Token)) :
      (declarations.map fun tokens => tokens.map (Token.inBytes source)).filter (· ≠ [])
        = (declarations.filter (· ≠ [])).map fun tokens => tokens.map (Token.inBytes source) := by
    rw [List.filter_map]
    refine congrArg _ (List.filter_congr fun tokens _ => ?_)
    simp
  rw [globalDeclarations?, globalStatements?_encode, Option.bind_eq_bind, Option.bind_some, hmap,
    globalDeclarations, ← hfilter, List.map_map]
  rfl

end GlBridge.Glsl
