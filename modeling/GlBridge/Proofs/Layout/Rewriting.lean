import GlBridge.Proofs.Layout.Settling
import GlBridge.Proofs.Text.Decimal

/-!
# Rewritten declarations

An edit of a declaration puts new pieces between the old ones, and they must be read as what they
are meant to be.  This file is about the one change that all edits make: a layout argument is put
into the qualifiers of a declaration.

* `Given.pieces` — a layout argument in pieces;
* `Inserted` — qualifiers with the argument put in, which are read and go on as before;
* `Anatomy` — a declaration cut into the pieces before its first token, its qualifiers, its type,
  what it declares, and the pieces after its last token;
* `Replaces` — an edit as a change of the statement's own text.
-/

namespace GlBridge.Layout

open Text Glsl Piece

/-! ## Layout arguments in pieces -/

/-- A number is no sign. -/
lemma ofNat_ne_sign {c : Char} (hc : isDigit c = false) (n : ℕ) : ofNat n ≠ [c] := by
  intro h
  have hall := ofNat_all_isDigit n
  rw [h, List.all_cons, hc] at hall
  exact Bool.noConfusion hall

section Reading

variable {lineStart : Bool} {pieces : List Piece} {rest : Text} {word : Text} {c : Char}

/-- A word and a space are read anywhere. -/
lemma reads_word_space (hne : word ≠ []) (hword : word.all isWordChar = true)
    (h : Reads false pieces rest) : Reads lineStart (token word :: space :: pieces) rest := by
  refine ⟨fits_word hne hword fun d hd => ?_, fits_space, h⟩
  obtain rfl : ' ' = d := by simpa [space] using hd
  decide

/-- A sign before an ASCII character is read anywhere, if it starts no comment and no directive. -/
lemma reads_sign (hblank : isAsciiBlank c = false) (hword : isWordChar c = false) (hslash : c ≠ '/')
    (hhash : c ≠ '#') (hnext : ∀ d, (textOf pieces ++ rest).head? = some d → isAscii d = true)
    (h : Reads false pieces rest) : Reads lineStart (token [c] :: pieces) rest :=
  ⟨fits_sign hblank hword hslash hhash hnext, h⟩

end Reading

/-- The pieces that give a name a number. -/
def assignment (name : String) (value : ℕ) : List Piece :=
  [token name.toList, space, token "=".toList, space, token (ofNat value)]

/-- An assignment is written with blanks around the sign. -/
lemma textOf_assignment (name : String) (value : ℕ) :
    textOf (assignment name value) = name.toList ++ " = ".toList ++ ofNat value := by
  simp only [assignment, textOf_cons, textOf_nil, List.append_nil, List.append_assoc]
  rfl

/-- A number is read up to a character that belongs to no word. -/
lemma reads_assignment {lineStart : Bool} {name : String} {value : ℕ} {rest : Text}
    (hne : name.toList ≠ []) (hword : name.toList.all isWordChar = true)
    (hrest : ∀ d, rest.head? = some d → isWordChar d = false) :
    Reads lineStart (assignment name value) rest := by
  refine reads_word_space hne hword (reads_sign (by decide) (by decide) (by decide) (by decide) ?_
    ⟨fits_space, fits_word (ofNat_ne_nil _) (ofNat_all_isWordChar _) hrest, trivial⟩)
  intro d hd
  obtain rfl : ' ' = d := by simpa [space] using hd
  decide

namespace Given

/-- The pieces of an argument. -/
def pieces : Given → List Piece
  | location n => assignment "location" n
  | binding n =>
    assignment "set" automaticSet ++ token ",".toList :: space :: assignment "binding" n

/-- The pieces of a layout qualifier with nothing but the argument. -/
def inFront (given : Given) : List Piece :=
  token "layout".toList :: token "(".toList :: (given.pieces ++ [token ")".toList, space])

/-- The pieces of an argument before other ones. -/
def inside (given : Given) : List Piece := given.pieces ++ [token ",".toList, space]

/-- The pieces of an argument are its text. -/
lemma textOf_pieces (given : Given) : textOf given.pieces = given.text := by
  have hlocation : "location".toList ++ " = ".toList = "location = ".toList := by decide
  have hset : "set".toList ++ " = ".toList = "set = ".toList := by decide
  have hbinding : ",".toList ++ (" ".toList ++ ("binding".toList ++ " = ".toList))
      = ", binding = ".toList := by decide
  cases given with
  | location n =>
      exact (textOf_assignment "location" n).trans (congrArg (· ++ ofNat n) hlocation)
  | binding n =>
      have hpieces : textOf (binding n).pieces = ("set".toList ++ " = ".toList)
          ++ ofNat automaticSet ++ (",".toList ++ (" ".toList ++ ("binding".toList ++ " = ".toList)))
          ++ ofNat n := by
        simp only [pieces, textOf_append, textOf_cons, textOf_assignment, List.append_assoc]
        rfl
      exact hpieces.trans
        (congrArg₂ (fun a b => a ++ ofNat automaticSet ++ b ++ ofNat n) hset hbinding)

/-- In front of a declaration, the argument has a layout qualifier of its own. -/
lemma textOf_inFront (given : Given) :
    textOf given.inFront = "layout(".toList ++ given.text ++ ") ".toList := by
  have hopen : "layout(".toList = "layout".toList ++ "(".toList := by decide
  have hclose : ") ".toList = ")".toList ++ " ".toList := by decide
  rw [hopen, hclose]
  simp only [inFront, textOf_cons, textOf_append, textOf_pieces, textOf_nil, List.append_assoc,
    List.append_nil, token, space]
  rfl

/-- Inside a layout qualifier, the argument is followed by a comma. -/
lemma textOf_inside (given : Given) : textOf given.inside = given.text ++ ", ".toList := by
  have hcomma : ", ".toList = ",".toList ++ " ".toList := by decide
  rw [hcomma]
  simp only [inside, textOf_append, textOf_cons, textOf_pieces, textOf_nil, List.append_nil, token,
    space]
  rfl

/-- The words of an argument give its key the number, if that fits. -/
lemma argues (given : Given) :
    Argues given.key (word32? (ofNat given.number)) (words given.pieces) := by
  have hvalue : ∀ (pending : LayoutArgument) (qualifiers : Qualifiers) (index n : ℕ),
      Qualifiers.next? (.arguments (some pending) true) qualifiers index (ofNat n)
        = some (.arguments (some { pending with value := word32? (ofNat n) }) true,
            qualifiers) := by
    intro pending qualifiers index n
    have hclose : (bare (ofNat n)).is ")" = false :=
      beq_eq_false_iff_ne.2 (ofNat_ne_sign (by decide) n)
    have hcomma : (bare (ofNat n)).is "," = false :=
      beq_eq_false_iff_ne.2 (ofNat_ne_sign (by decide) n)
    have hequals : (bare (ofNat n)).is "=" = false :=
      beq_eq_false_iff_ne.2 (ofNat_ne_sign (by decide) n)
    simp [Qualifiers.next?, Qualifiers.effect?, Qualifiers.after, hclose, hcomma, hequals]
  cases given with
  | location n =>
      exact ⟨true, [], hvalue { name := "location".toList } {} 2 n, by simp⟩
  | binding n =>
      let set : LayoutArgument := { name := "set".toList, value := word32? (ofNat automaticSet) }
      have hset : "set".toList ≠ "binding".toList := by decide
      exact ⟨true, [set], hvalue { name := "binding".toList } { arguments := [set] } 6 n,
        List.forall_mem_singleton.2 hset⟩

variable {lineStart : Bool} {rest : Text}

/-- An argument is read before anything that does not go on with its number. -/
lemma reads_pieces (given : Given) (hrest : ∀ d, rest.head? = some d → isWordChar d = false) :
    Reads lineStart given.pieces rest := by
  cases given with
  | location n => exact reads_assignment (by decide) (by decide) hrest
  | binding n =>
      refine reads_append.2 ⟨reads_assignment (by decide) (by decide) fun d hd => ?_, ?_⟩
      · obtain rfl : ',' = d := Option.some.inj hd
        decide
      · refine reads_sign (by decide) (by decide) (by decide) (by decide) (fun d hd => ?_)
          ⟨fits_space, reads_assignment (by decide) (by decide) hrest⟩
        obtain rfl : ' ' = d := Option.some.inj hd
        decide

/-- The first character of an argument is a letter. -/
lemma head?_text (given : Given) (more : Text) :
    ∀ d, (given.text ++ more).head? = some d → isAscii d = true := by
  intro d hd
  cases given with
  | location n =>
      obtain rfl : 'l' = d := Option.some.inj hd
      decide
  | binding n =>
      obtain rfl : 's' = d := Option.some.inj hd
      decide

/-- A layout qualifier is read anywhere, whatever comes next. -/
lemma reads_inFront (given : Given) : Reads lineStart given.inFront rest := by
  refine ⟨fits_word (by decide) (by decide) fun d hd => ?_, reads_sign (by decide) (by decide)
    (by decide) (by decide) ?_ (reads_append.2 ⟨given.reads_pieces fun d hd => ?_, ?_⟩)⟩
  · obtain rfl : '(' = d := Option.some.inj hd
    decide
  · rw [textOf_append, textOf_pieces, List.append_assoc]
    exact given.head?_text _
  · obtain rfl : ')' = d := Option.some.inj hd
    decide
  · refine reads_sign (by decide) (by decide) (by decide) (by decide) (fun d hd => ?_)
      ⟨fits_space, trivial⟩
    obtain rfl : ' ' = d := Option.some.inj hd
    decide

/-- An argument with its comma is read before anything. -/
lemma reads_inside (given : Given) : Reads lineStart given.inside rest := by
  refine reads_append.2 ⟨given.reads_pieces fun d hd => ?_, ?_⟩
  · obtain rfl : ',' = d := Option.some.inj hd
    decide
  · refine reads_sign (by decide) (by decide) (by decide) (by decide) (fun d hd => ?_)
      ⟨fits_space, trivial⟩
    obtain rfl : ' ' = d := Option.some.inj hd
    decide

/-- After a sign and a blank no line starts. -/
lemma lineStartAfterAll_sign (pieces : List Piece) (sign : Text) :
    lineStartAfterAll lineStart (pieces ++ [token sign, space]) = false := by
  rw [lineStartAfterAll, List.foldl_append]
  rfl

/-- The words of a layout qualifier with the argument. -/
lemma words_inFront (given : Given) :
    words given.inFront = "layout".toList :: "(".toList :: words given.pieces ++ [")".toList] := by
  rw [inFront, words_token, words_token, words_append]
  rfl

lemma words_inside (given : Given) : words given.inside = words given.pieces ++ [",".toList] := by
  rw [inside, words_append]
  rfl

end Given

/-! ## Putting an argument in -/

/-- The pieces start with a word. -/
def StartsWithWord (pieces : List Piece) : Prop :=
  ∃ word more, pieces = token word :: more ∧ word ≠ [] ∧ word.all isWordChar = true

/-- The text of such pieces starts with a word character, whatever follows. -/
lemma StartsWithWord.head? {pieces : List Piece} (h : StartsWithWord pieces) :
    ∃ c, isWordChar c = true ∧ ∀ rest, (textOf pieces ++ rest).head? = some c := by
  obtain ⟨word, more, rfl, hne, hword⟩ := h
  obtain ⟨c, tail, rfl⟩ := List.exists_cons_of_ne_nil hne
  rw [List.all_cons, Bool.and_eq_true] at hword
  exact ⟨c, hword.1, fun rest => rfl⟩

/-- What comes after does not matter. -/
lemma StartsWithWord.append {pieces : List Piece} (h : StartsWithWord pieces)
    (more : List Piece) : StartsWithWord (pieces ++ more) := by
  obtain ⟨word, rest, rfl, hword⟩ := h
  exact ⟨word, rest ++ more, rfl, hword⟩

/-- It starts with an ASCII character in particular. -/
lemma StartsWithWord.isAscii_head {pieces : List Piece} (h : StartsWithWord pieces) (rest : Text) :
    ∀ d, (textOf pieces ++ rest).head? = some d → isAscii d = true := by
  obtain ⟨c, hc, hstart⟩ := h.head?
  intro d hd
  rw [hstart] at hd
  exact Option.some.inj hd ▸ isAscii_of_isWordChar hc

lemma ne_hash_of_isWordChar {c : Char} (h : isWordChar c = true) : c ≠ '#' := by
  rintro rfl
  exact absurd h (by decide)

/-- What starts with a word is read anywhere on a line. -/
lemma StartsWithWord.reads {pieces : List Piece} {rest : Text} {lineStart : Bool}
    (h : StartsWithWord pieces) (hreads : Reads lineStart pieces rest) (start : Bool) :
    Reads start pieces rest := by
  obtain ⟨word, more, rfl, hne, hword⟩ := h
  refine hreads.anywhere rfl (fun hhash => ?_) start
  obtain ⟨tail, rfl⟩ := List.head?_eq_some_iff.1 hhash
  rw [List.all_cons, Bool.and_eq_true] at hword
  exact ne_hash_of_isWordChar hword.1 rfl

lemma inert_space : Reading.Inert space := by
  constructor <;> decide

/-- A token that does not start with a brace or a semicolon does nothing to a reading. -/
lemma inert_token {c : Char} {tail : Text} (h : c ≠ '{' ∧ c ≠ '}' ∧ c ≠ ';') :
    Reading.Inert (token (c :: tail)) :=
  ⟨fun hopens => h.1 (Option.some.inj hopens.2), fun hcloses => h.2.1 (Option.some.inj hcloses.2),
    fun hsemicolon => h.2.2 (Option.some.inj hsemicolon.2), fun hkind => by simp [token] at hkind⟩

/-- Words do nothing to a reading. -/
lemma inert_word {word : Text} (hne : word ≠ []) (hword : word.all isWordChar = true) :
    Reading.Inert (token word) := by
  obtain ⟨c, tail, rfl⟩ := List.exists_cons_of_ne_nil hne
  rw [List.all_cons, Bool.and_eq_true] at hword
  refine inert_token ⟨?_, ?_, ?_⟩ <;> rintro rfl <;> exact absurd hword.1 (by decide)

lemma inert_assignment {name : String} (value : ℕ) (hne : name.toList ≠ [])
    (hname : name.toList.all isWordChar = true) :
    ∀ piece ∈ assignment name value, Reading.Inert piece := by
  simp only [assignment, List.forall_mem_cons]
  exact ⟨inert_word hne hname, inert_space, inert_token (by decide), inert_space,
    inert_word (ofNat_ne_nil value) (ofNat_all_isWordChar value), by simp⟩

namespace Given

/-- The pieces of an argument do nothing to a reading, wherever it is put. -/
lemma inert_pieces (given : Given) : ∀ piece ∈ given.pieces, Reading.Inert piece := by
  cases given with
  | location n => exact inert_assignment n (by decide) (by decide)
  | binding n =>
      rw [pieces, List.forall_mem_append, List.forall_mem_cons, List.forall_mem_cons]
      exact ⟨inert_assignment _ (by decide) (by decide), inert_token (by decide), inert_space,
        inert_assignment n (by decide) (by decide)⟩

lemma inert_inFront (given : Given) : ∀ piece ∈ given.inFront, Reading.Inert piece := by
  rw [inFront, List.forall_mem_cons, List.forall_mem_cons, List.forall_mem_append,
    List.forall_mem_cons, List.forall_mem_singleton]
  exact ⟨inert_word (by decide) (by decide), inert_token (by decide), given.inert_pieces,
    inert_token (by decide), inert_space⟩

lemma inert_inside (given : Given) : ∀ piece ∈ given.inside, Reading.Inert piece := by
  rw [inside, List.forall_mem_append, List.forall_mem_cons, List.forall_mem_singleton]
  exact ⟨given.inert_pieces, inert_token (by decide), inert_space⟩

end Given

/-- The qualifiers `head` with an argument put in: by a layout qualifier of its own, if there is
none, or after the parenthesis that opens the last one. -/
inductive Inserted (given : Given) (opening : Option ℕ) (head : List Piece) :
    List Piece → Prop where
  | front (h : opening = none) : Inserted given opening head (given.inFront ++ head)
  | inside (left right : List Piece) (hopening : opening = some (words left).length)
    (hhead : head = left ++ token "(".toList :: right) :
    Inserted given opening head (left ++ token "(".toList :: (given.inside ++ right))

namespace Inserted

variable {given : Given} {opening : Option ℕ} {head inserted more : List Piece}

/-- The words are changed by putting the argument in. -/
lemma enriched (h : Inserted given opening head inserted) :
    Enriched (words given.pieces) opening (words head) (words inserted) := by
  cases h with
  | front h =>
      rw [words_append, Given.words_inFront, List.append_assoc]
      exact .front h
  | inside left right hopening hhead =>
      rw [hhead, words_append, words_append, words_token, words_token, words_append,
        Given.words_inside, List.append_assoc, ← List.cons_append, ← List.append_assoc]
      exact .inside (words left) (words right) hopening rfl

/-- Before the parenthesis there is the word `layout` at least. -/
lemma startsWithWord_left {left right : List Piece}
    (hfirst : StartsWithWord (left ++ token "(".toList :: right)) : StartsWithWord left := by
  obtain ⟨word, rest, hcut, hne, hword⟩ := hfirst
  cases left with
  | nil =>
      obtain ⟨hsign, _⟩ := List.cons.inj hcut
      obtain rfl : "(".toList = word := congrArg Piece.text hsign
      exact absurd hword (by decide)
  | cons piece left =>
      obtain ⟨rfl, _⟩ := List.cons.inj hcut
      exact ⟨word, left, rfl, hne, hword⟩

/-- With an argument put in, the qualifiers still start with a word. -/
lemma startsWithWord (h : Inserted given opening head inserted) (hfirst : StartsWithWord head) :
    StartsWithWord inserted := by
  cases h with
  | front => exact ⟨"layout".toList, _, rfl, by decide, by decide⟩
  | inside left right _ hhead =>
      subst hhead
      exact (startsWithWord_left hfirst).append _

/-- **With the argument put in, the pieces are read as before.** -/
lemma reads {lineStart : Bool} {rest : Text} (h : Inserted given opening head inserted)
    (hfirst : StartsWithWord head) (hreads : Reads lineStart (head ++ more) rest) (start : Bool) :
    Reads start (inserted ++ more) rest := by
  cases h with
  | front =>
      rw [List.append_assoc, reads_append]
      exact ⟨given.reads_inFront, (hfirst.append more).reads hreads _⟩
  | inside left right _ hhead =>
      subst hhead
      have hleft := startsWithWord_left hfirst
      rw [List.append_assoc, List.cons_append, reads_append] at hreads ⊢
      refine ⟨(hleft.reads hreads.1 start).congr_head rfl, ?_⟩
      obtain ⟨hsign, hright⟩ := hreads.2
      refine ⟨?_, ?_⟩
      · refine fits_sign (by decide) (by decide) (by decide) (by decide) fun d hd => ?_
        rw [List.append_assoc, textOf_append, Given.textOf_inside, List.append_assoc,
          List.append_assoc] at hd
        exact given.head?_text _ d hd
      · rw [List.append_assoc, reads_append]
        refine ⟨given.reads_inside, ?_⟩
        have hstart : ∀ start, lineStartAfterAll start given.inside = false :=
          fun start => Given.lineStartAfterAll_sign _ _
        rw [hstart]
        exact hright

/-- Where no brace is opened, none is opened by the argument. -/
lemma quiet (h : Inserted given opening head inserted)
    (hquiet : ∀ piece ∈ head, Reading.Quiet piece) : ∀ piece ∈ inserted, Reading.Quiet piece := by
  cases h with
  | front =>
      rw [List.forall_mem_append]
      exact ⟨fun piece hpiece => (given.inert_inFront piece hpiece).quiet, hquiet⟩
  | inside left right _ hhead =>
      subst hhead
      rw [List.forall_mem_append, List.forall_mem_cons] at hquiet ⊢
      rw [List.forall_mem_append]
      exact ⟨hquiet.1, hquiet.2.1, fun piece hpiece => (given.inert_inside piece hpiece).quiet,
        hquiet.2.2⟩

/-- **With the argument put in, the reading goes on as before.** -/
lemma keeps {u : Text} (h : Inserted given opening head inserted) (hfirst : StartsWithWord head)
    (hu : Reading.Unhashed u) (hkeeps : Reading.Keeps ⟨0, false, u⟩ (head ++ more)) :
    Reading.Keeps ⟨0, false, u⟩ (inserted ++ more) ∧
      (Reading.run ⟨0, false, u⟩ (inserted ++ more)).depth
        = (Reading.run ⟨0, false, u⟩ (head ++ more)).depth := by
  cases h with
  | front =>
      obtain ⟨word, rest, rfl, hne, hword⟩ := hfirst
      obtain ⟨c, tail, rfl⟩ := List.exists_cons_of_ne_nil hne
      have hc : isWordChar c = true := by
        rw [List.all_cons, Bool.and_eq_true] at hword
        exact hword.1
      have hblank := isBlank_of_isWordChar hc
      have hinert : ∀ piece ∈ [token (c :: tail)], Reading.Inert piece := by
        simpa using inert_word hne hword
      have halike : Reading.Alike (u ++ textOf [token (c :: tail)])
          (u ++ textOf given.inFront ++ textOf [token (c :: tail)]) := by
        refine ⟨hu.started_append rfl hblank (ne_hash_of_isWordChar hc), ?_, ?_⟩
        · have hstart : (textOf given.inFront).head? = some 'l' := by
            rw [Given.textOf_inFront, List.append_assoc]
            rfl
          exact (hu.started_append hstart (by decide) (by decide)).append _
        · have hmem : c ∈ textOf [token (c :: tail)] := List.mem_cons_self
          rw [Reading.endsIn_append_of_mem _ u hmem hblank,
            Reading.endsIn_append_of_mem _ _ hmem hblank]
      have hfirst : Reading.Keeps ⟨0, false, u⟩ ([token (c :: tail)] ++ (rest ++ more)) := hkeeps
      rw [List.append_assoc]
      exact hfirst.insert given.inert_inFront hinert halike
  | inside left right _ hhead =>
      subst hhead
      obtain ⟨c, hc, hstart⟩ := (startsWithWord_left hfirst).head?
      have hold : left ++ token "(".toList :: right ++ more
          = (left ++ [token "(".toList]) ++ ([] ++ (right ++ more)) := by simp
      have hnew : left ++ token "(".toList :: (given.inside ++ right) ++ more
          = (left ++ [token "(".toList]) ++ (given.inside ++ ([] ++ (right ++ more))) := by simp
      have hrun : ∀ others, Reading.run ⟨0, false, u⟩ ((left ++ [token "(".toList]) ++ others)
          = (Reading.run ⟨0, false, u⟩ (left ++ [token "(".toList])).run others :=
        fun _ => Reading.run_append
      rw [hold, Reading.keeps_append] at hkeeps
      rw [hnew, hold, Reading.keeps_append, hrun, hrun]
      have hcurrent := hkeeps.1.current
      have hstarted : Reading.Started (Reading.run ⟨0, false, u⟩ (left ++ [token "(".toList])).current := by
        rw [hcurrent, textOf_append, ← List.append_assoc]
        have hleft := hstart []
        rw [List.append_nil] at hleft
        exact (hu.started_append hleft (isBlank_of_isWordChar hc)
          (ne_hash_of_isWordChar hc)).append _
      have hinsert := Reading.Keeps.insert hkeeps.2 given.inert_inside (by simp) (by
        rw [textOf_nil, List.append_nil, List.append_nil]
        refine ⟨hstarted, hstarted.append _, ?_⟩
        rw [hcurrent, textOf_append, ← List.append_assoc, Given.textOf_inside, ← List.append_assoc]
        rw [Reading.endsIn_append_of_mem ')' _ (w := ", ".toList) (c := ',') (by decide) (by decide),
          Reading.endsIn_append_of_mem ')' _ (w := textOf [token "(".toList]) (c := '(') (by decide)
            (by decide)]
        decide)
      exact ⟨⟨hkeeps.1, hinsert.1⟩, hinsert.2⟩

end Inserted

/-! ## The anatomy of a declaration -/

/-- A declaration in pieces that stand at a position: what comes before its first token, its
qualifiers, its type, what it declares, and what comes after its last token. -/
structure Anatomy (position : ℕ) (pieces : List Piece) (d : InterfaceDeclaration)
    (lead head declared tail : List Piece) : Prop where
  pieces_eq : pieces = lead ++ (head ++ token d.typeToken.text :: (declared ++ tail))
  lead_kind : ∀ piece ∈ lead, piece.kind ≠ .token
  tail_kind : ∀ piece ∈ tail, piece.kind ≠ .token
  first : StartsWithWord head
  last : ∃ word, (token d.typeToken.text :: declared).getLast? = some (token word)
  words_head : words head = (d.tokens.take d.declaration.typeIndex).map Token.text
  span_start : d.span.start = position + (textOf lead).length
  span_stop : d.span.stop = d.typeToken.stop + (textOf declared).length
  type_stop : d.typeToken.stop = d.span.start + (textOf head).length + d.typeToken.text.length
  opening : ∀ index, d.declaration.layoutOpen = some index → ∃ left right opening,
    head = left ++ token "(".toList :: right ∧ (words left).length = index ∧
      d.tokens[index]? = some opening ∧
        opening.stop = d.span.start + (textOf (left ++ [token "(".toList])).length
  declarators : ∀ x ∈ d.declarators, ∃ before segment after first last,
    declared = before ++ (segment ++ after) ∧ segment.head? = some (token first) ∧
      segment.getLast? = some (token last) ∧
        x.span.start = d.typeToken.stop + (textOf before).length ∧
          x.span.stop = x.span.start + (textOf segment).length ∧
            ∃ group ∈ Declarator.groups 0 [] (d.tokens.drop (d.declaration.typeIndex + 1)),
              Declarator.ofGroup? group = some x ∧ group.map Token.text = words segment

/-- A declaration spans from its first token to its last. -/
lemma span_eq {d : InterfaceDeclaration} {first last : Token} (hfirst : d.tokens.head? = some first)
    (hlast : d.tokens.getLast? = some last) :
    d.span = { start := first.start, stop := last.stop } := by
  obtain ⟨rest, hrest⟩ := List.head?_eq_some_iff.1 hfirst
  rw [hrest] at hlast
  have hlastD : (first :: rest).getLastD first = last := by
    rw [List.getLastD_eq_getLast?, hlast]
    rfl
  simp only [InterfaceDeclaration.span, hrest, hlastD]

/-- The bracket of the layout qualifier is among the pieces of the qualifiers. -/
lemma exists_opening {position index : ℕ} {head : List Piece} {state : QualifierState}
    {qualifiers : Qualifiers}
    (hsteps : Qualifiers.steps .between {} 0 ((tokensFrom position head).map Token.text)
      = some (state, qualifiers)) (hopening : qualifiers.layoutOpen = some index) :
    ∃ left right opening, head = left ++ token "(".toList :: right ∧ (words left).length = index ∧
      (tokensFrom position head)[index]? = some opening ∧
        opening.stop = position + (textOf (left ++ [token "(".toList])).length := by
  obtain ⟨earlier, later, _, hwords, hlength, _, _⟩ :=
    Qualifiers.exists_layoutOpen rfl hsteps hopening
  obtain ⟨earlier, others, hsplit, rfl, hothers⟩ := List.map_eq_append_iff.1 hwords
  obtain ⟨opening, later, rfl, hsign, rfl⟩ := List.map_eq_cons_iff.1 hothers
  rw [List.length_map, Nat.zero_add] at hlength
  obtain ⟨left, right, hcut, hleft, hstart, _⟩ := exists_cut hsplit
  have hcount : (words left).length = earlier.length := by
    rw [← hleft, ← List.length_map Token.text, map_text_tokensFrom]
  refine ⟨left, right, opening, by rw [hcut, hsign], hcount.trans hlength.symm, ?_, ?_⟩
  · rw [hsplit, hlength, List.getElem?_append_right le_rfl, Nat.sub_self]
    rfl
  · rw [Token.stop, hstart, hsign, textOf_append]
    simp [token, Nat.add_assoc]

/-- A declarator is a run of the pieces that it is read from. -/
lemma exists_declarator {position : ℕ} {declared : List Piece} {x : Declarator}
    (hx : x ∈ Declarator.parse (tokensFrom position declared)) :
    ∃ before segment after first last, declared = before ++ (segment ++ after) ∧
      segment.head? = some (token first) ∧ segment.getLast? = some (token last) ∧
        x.span.start = position + (textOf before).length ∧
          x.span.stop = x.span.start + (textOf segment).length ∧
            ∃ group ∈ Declarator.groups 0 [] (tokensFrom position declared),
              Declarator.ofGroup? group = some x ∧ group.map Token.text = words segment := by
  obtain ⟨_, group, _, name, last, hcut, hgroup, hof, hname, hlast, hspan⟩ :=
    Declarator.exists_group hx
  obtain ⟨before, segment, after, rfl, _, hsegment, _, hfirst, hend, hstart, hstop⟩ :=
    exists_segment hcut hname hlast
  refine ⟨before, segment, after, _, _, List.append_assoc .., hfirst, hend, ?_, ?_, group, hgroup,
    hof, ?_⟩
  · rw [hspan, hstart]
  · rw [hspan, hstop]
  · rw [← hsegment, map_text_tokensFrom]

/-- **Every declaration has an anatomy.** -/
theorem exists_anatomy {position : ℕ} {pieces : List Piece} {d : InterfaceDeclaration}
    (h : InterfaceDeclaration.ofTokens? (tokensFrom position pieces) = some d) :
    ∃ lead head declared tail, Anatomy position pieces d lead head declared tail := by
  obtain ⟨htokens, hparse⟩ := InterfaceDeclaration.ofTokens?_eq_some_iff.1 h
  obtain ⟨before, type, after, qualifiers, hcut, hsteps, _, hstorage, hopening, _, hindex, _⟩ :=
    Declaration.parse?_eq_some_iff.1 hparse
  rw [hcut] at htokens
  have htype : d.typeToken = type := by
    rw [InterfaceDeclaration.typeToken, Declaration.typeToken, hindex, htokens]
    simp
  obtain ⟨word, others, hwords, hne, hword⟩ :=
    Qualifiers.exists_first rfl hsteps (by rw [hstorage]; exact Option.some_ne_none _)
  obtain ⟨first, rest, rfl, rfl, _⟩ := List.map_eq_cons_iff.1 hwords
  obtain ⟨last, hlast⟩ : ∃ last, (type :: after).getLast? = some last :=
    ⟨_, List.getLast?_eq_some_getLast (List.cons_ne_nil _ _)⟩
  have hfirstToken : d.tokens.head? = some first := by
    rw [htokens]
    rfl
  have hlastToken : d.tokens.getLast? = some last := by
    rw [htokens, List.getLast?_append, hlast]
    rfl
  have hspan := span_eq hfirstToken hlastToken
  have hall : tokensFrom position pieces = [] ++ d.tokens ++ [] := by
    rw [List.append_nil, htokens]
    exact hcut
  obtain ⟨lead, segment, tail, rfl, hlead, hsegment, htail, hfirst, hlastPiece, hstart, hstop⟩ :=
    exists_segment hall hfirstToken hlastToken
  rw [htokens] at hsegment
  obtain ⟨head, declared, rfl, hhead, htypeStart, hdeclared⟩ := exists_cut hsegment
  obtain ⟨more, rfl⟩ : ∃ more, head = token first.text :: more := by
    cases head with
    | nil => exact absurd hhead (by simp [tokensFrom])
    | cons piece more =>
        obtain rfl := Option.some.inj hfirst
        exact ⟨more, rfl⟩
  have htypeStop : type.stop
      = first.start + (textOf (token first.text :: more)).length + type.text.length := by
    rw [Token.stop, htypeStart]
  refine ⟨lead, token first.text :: more, declared, tail, ?_, words_eq_nil_iff.1
    (tokensFrom_eq_nil_iff.1 hlead), words_eq_nil_iff.1 (tokensFrom_eq_nil_iff.1 htail),
    ⟨first.text, more, rfl, hne, hword⟩, ⟨last.text, ?_⟩, ?_, ?_, ?_, ?_, ?_, ?_⟩
  · rw [htype]
    simp
  · rw [htype, ← hlastPiece, List.getLast?_append_of_ne_nil _ (List.cons_ne_nil _ _)]
  · rw [htokens, hindex, List.take_left, ← hhead, map_text_tokensFrom]
  · rw [hspan, hstart]
  · rw [hspan, htype, hstop, htypeStop]
    simp only [textOf_append, textOf_cons, List.length_append, token, Nat.add_assoc]
  · rw [hspan, htype, htypeStop]
  · intro index hindexed
    rw [← hhead] at hsteps
    obtain ⟨left, right, opening, hleft, hcount, hopen, hopenStop⟩ :=
      exists_opening hsteps (hopening ▸ hindexed)
    rw [hhead] at hopen
    obtain ⟨hlt, _⟩ := List.getElem?_eq_some_iff.1 hopen
    refine ⟨left, right, opening, hleft, hcount, ?_, ?_⟩
    · rw [htokens, List.getElem?_append_left hlt]
      exact hopen
    · rw [hspan]
      exact hopenStop
  · intro x hx
    have hafter : d.tokens.drop (d.declaration.typeIndex + 1) = after := by
      rw [htokens, hindex, ← List.drop_drop, List.drop_left]
      rfl
    rw [InterfaceDeclaration.declarators, Declaration.declarators, hafter, ← hdeclared] at hx
    rw [htype, hafter, ← hdeclared]
    exact exists_declarator hx

/-! ## Edits in pieces -/

/-- A slice of a text in three parts is the part in the middle. -/
lemma slice_eq {source : Text} (before middle after : Text) {start stop : ℕ}
    (hsource : source = before ++ (middle ++ after)) (hstart : start = before.length)
    (hstop : stop = start + middle.length) : source.slice start stop = middle := by
  rw [hsource, hstop, hstart, Text.slice, ← List.append_assoc, ← List.length_append,
    List.take_left, List.drop_left]

/-- An edit of a text that stands at a position, and the text after it. -/
def Replaces (position : ℕ) (edit : Edit) (old new : Text) : Prop :=
  ∃ before middle after, old = before ++ (middle ++ after) ∧
    edit.span.start = position + before.length ∧
      edit.span.stop = edit.span.start + middle.length ∧ new = before ++ (edit.text ++ after)

namespace Anatomy

variable {source done rest : Text} {pieces lead head declared tail : List Piece}
  {d : InterfaceDeclaration}

/-- The source from the first token of a declaration to its type. -/
lemma slice_head (h : Anatomy done.length pieces d lead head declared tail)
    (hsource : source = done ++ (textOf pieces ++ rest)) :
    source.slice d.span.start d.typeToken.stop = textOf (head ++ [token d.typeToken.text]) := by
  rw [h.pieces_eq] at hsource
  refine slice_eq (done ++ textOf lead) _ (textOf (declared ++ tail) ++ rest) ?_ ?_ ?_
  · simp [hsource, token]
  · rw [h.span_start, List.length_append]
  · rw [h.type_stop]
    simp [token, Nat.add_assoc]

/-- The pieces of a qualified type with an argument put in, and what edits have to do with it: the
heads of split declarations are its text, and adding the argument to the whole declaration is
putting it in. -/
lemma exists_inserted (h : Anatomy done.length pieces d lead head declared tail)
    (hsource : source = done ++ (textOf pieces ++ rest)) (given : Given) :
    ∃ inserted, Inserted given d.declaration.layoutOpen head inserted ∧
      headWith source d given.text = textOf (inserted ++ [token d.typeToken.text]) ∧
      Replaces done.length (argumentEdit d given.text) (textOf pieces)
        (textOf (lead ++ (inserted ++ token d.typeToken.text :: (declared ++ tail)))) := by
  have hslice := h.slice_head hsource
  rw [h.pieces_eq] at hsource ⊢
  cases hopening : d.declaration.layoutOpen with
  | none =>
      refine ⟨given.inFront ++ head, .front rfl, ?_, ?_⟩
      · rw [headWith, hopening]
        simp only [Option.bind_none, hslice, textOf_append, Given.textOf_inFront,
          List.append_assoc]
      · refine ⟨textOf lead, [], textOf (head ++ token d.typeToken.text :: (declared ++ tail)), ?_⟩
        rw [argumentEdit, hopening]
        refine ⟨by rw [textOf_append]; rfl, h.span_start, rfl, ?_⟩
        simp only [Option.bind_none, textOf_append, Given.textOf_inFront, List.append_assoc]
  | some index =>
      obtain ⟨left, right, opening, hhead, hindex, htoken, hstop⟩ := h.opening index hopening
      refine ⟨left ++ token "(".toList :: (given.inside ++ right),
        .inside left right (by rw [hindex]) hhead, ?_, ?_⟩
      · have hbefore : source.slice d.span.start opening.stop
            = textOf (left ++ [token "(".toList]) := by
          refine slice_eq (done ++ textOf lead) _
            (textOf (right ++ token d.typeToken.text :: (declared ++ tail)) ++ rest) ?_ ?_ hstop
          · simp [hsource, hhead, token]
          · rw [h.span_start, List.length_append]
        have hafter : source.slice opening.stop d.typeToken.stop
            = textOf (right ++ [token d.typeToken.text]) := by
          refine slice_eq (done ++ textOf lead ++ textOf (left ++ [token "(".toList])) _
            (textOf (declared ++ tail) ++ rest) ?_ ?_ ?_
          · simp [hsource, hhead, token]
          · rw [hstop, h.span_start, List.length_append, List.length_append]
          · rw [h.type_stop, hstop, hhead]
            simp only [textOf_append, textOf_cons, textOf_nil, List.length_append, List.length_nil,
              token]
            omega
        rw [headWith, hopening, Option.bind_some, htoken]
        simp only [hbefore, hafter, textOf_append, textOf_cons, textOf_nil, Given.textOf_inside,
          List.append_assoc, List.append_nil]
      · refine ⟨textOf (lead ++ (left ++ [token "(".toList])), [],
          textOf (right ++ token d.typeToken.text :: (declared ++ tail)), ?_⟩
        rw [argumentEdit, hopening, Option.bind_some, htoken]
        refine ⟨?_, ?_, rfl, ?_⟩
        · simp [hhead]
        · show opening.stop = _
          rw [hstop, h.span_start]
          simp only [textOf_append, List.length_append]
          omega
        · simp only [textOf_append, textOf_cons, textOf_nil, Given.textOf_inside,
            List.append_assoc, List.append_nil]

end Anatomy

end GlBridge.Layout
