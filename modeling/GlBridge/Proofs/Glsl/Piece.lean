import GlBridge.Glsl.Token
import GlBridge.Proofs.Glsl.Identifier

/-!
# Pieces in their surroundings

A scan cuts a text into pieces, and where one piece ends depends on what comes next.  To change a
text and still know its pieces, one has to know how much of what comes next a piece depends on: it
is a single character.

**Fitting.**  `Fits` says that a piece is what a text starts with, given what follows the piece.
`Reads` says so of a list of pieces, and then the scan of their text gives back the pieces
(`scanFrom_of_reads`).

**Following.**  Only the first character after a piece matters (`Fits.congr_head`), and any piece
may stand at the end (`Fits.nil`).  After a token any ASCII character may follow that goes on with
no token and starts no comment (`Fits.follow`).  Where a word followed a piece that is no token,
anything may follow (`Fits.replace_word`).

**Tokens.**  Consecutive tokens of a list of pieces are the tokens of consecutive pieces
(`exists_segment`).
-/

namespace GlBridge.Glsl

open Text

/-! ## Word characters -/

/-- The numbers of word characters: the digits, or the letters with what stands between them. -/
lemma toNat_of_isWordChar {c : Char} (h : isWordChar c = true) :
    (48 ≤ c.toNat ∧ c.toNat ≤ 57) ∨ (65 ≤ c.toNat ∧ c.toNat ≤ 122) := by
  simp only [isWordChar, isWordStart, isDigit, Bool.or_eq_true, Bool.and_eq_true,
    decide_eq_true_eq, beq_iff_eq, Char.le_def, UInt32.le_iff_toNat_le] at h
  have hvalue : c.toNat = c.val.toNat := rfl
  rcases h with ((h | h) | rfl) | h
  · right
    have h₁ : 97 ≤ c.val.toNat := h.1
    have h₂ : c.val.toNat ≤ 122 := h.2
    omega
  · right
    have h₁ : 65 ≤ c.val.toNat := h.1
    have h₂ : c.val.toNat ≤ 90 := h.2
    omega
  · right
    decide
  · left
    exact h

/-- A word character is no blank. -/
lemma isBlank_of_isWordChar {c : Char} (h : isWordChar c = true) : isBlank c = false := by
  have hrange := toNat_of_isWordChar h
  simp only [isBlank, Bool.or_eq_false_iff, Bool.and_eq_false_iff, decide_eq_false_iff_not,
    beq_eq_false_iff_ne]
  omega

/-- Word characters are ASCII characters. -/
lemma isAscii_of_isWordChar {c : Char} (h : isWordChar c = true) : isAscii c = true := by
  have hrange := toNat_of_isWordChar h
  rw [isAscii, decide_eq_true_eq]
  omega

/-! ## Lengths of pieces -/

section Lengths

variable {keep : Char → Bool} {tail rest : Text} {d : Char}

/-- A run is exactly the text before `rest` if that text belongs to it and `rest` does not. -/
lemma length_takeWhile_append_eq : ((tail ++ rest).takeWhile keep).length = tail.length ↔
    tail.all keep = true ∧ ∀ d, rest.head? = some d → keep d = false := by
  constructor
  · intro h
    induction tail with
    | nil =>
        refine ⟨rfl, fun d hd => ?_⟩
        cases rest with
        | nil => simp at hd
        | cons c rest =>
            obtain rfl : c = d := by simpa using hd
            rw [List.nil_append, List.length_nil, List.length_eq_zero_iff,
              List.takeWhile_eq_nil_iff] at h
            simpa using h (by simp)
    | cons c tail ih =>
        cases hc : keep c with
        | false => simp [hc] at h
        | true =>
            simp only [List.cons_append, List.takeWhile_cons, hc, if_true, List.length_cons,
              Nat.add_right_cancel_iff] at h
            simpa [hc] using ih h
  · rintro ⟨hall, hrest⟩
    rw [takeWhile_append_of_all hall hrest]

end Lengths

namespace Piece

variable {tail rest : Text} {c d : Char}

/-- A block comment goes on over what does not end it. -/
lemma blockLength_cons (h : ¬ (c = '*' ∧ rest.head? = some '/')) :
    blockLength (c :: rest) = 1 + blockLength rest := by
  rw [blockLength.eq_2]
  rintro tail rfl rfl
  exact h ⟨rfl, rfl⟩

/-- A block comment takes two characters at least, if there are two. -/
lemma two_le_blockLength : 2 ≤ blockLength (c :: d :: rest) := by
  have hpos : 1 ≤ blockLength (d :: rest) := by
    unfold blockLength
    split
    · omega
    · omega
    · next h => simp at h
  by_cases h : c = '*' ∧ (d :: rest).head? = some '/'
  · obtain ⟨rfl, hd⟩ := h
    obtain rfl : d = '/' := by simpa using hd
    rfl
  · rw [blockLength_cons h]
    omega

/-- Whether a block comment is complete before `d` depends on neither `d` nor what follows. -/
lemma blockLength_append_cons (e : Char) (other : Text) :
    blockLength (tail ++ d :: rest) = tail.length →
      blockLength (tail ++ e :: other) = tail.length := by
  induction tail with
  | nil =>
      intro h
      have hpos : blockLength (d :: rest) = 0 := h
      unfold blockLength at hpos
      split at hpos <;> simp_all
  | cons c tail ih =>
      intro h
      cases tail with
      | nil =>
          have htwo : 2 ≤ blockLength (c :: d :: rest) := two_le_blockLength
          rw [List.singleton_append, List.length_singleton] at h
          omega
      | cons b tail =>
          by_cases hclose : c = '*' ∧ b = '/'
          · obtain ⟨rfl, rfl⟩ := hclose
            exact h
          · rw [List.cons_append, blockLength_cons (by simpa using hclose), List.length_cons] at h ⊢
            have := ih (by omega)
            omega

/-- What is a block comment before other text is one by itself. -/
lemma blockLength_of_append (h : blockLength (tail ++ d :: rest) = tail.length) :
    blockLength tail = tail.length := by
  induction tail with
  | nil => rfl
  | cons c tail ih =>
      cases tail with
      | nil => exact blockLength_cons (by simp)
      | cons b tail =>
          by_cases hclose : c = '*' ∧ b = '/'
          · obtain ⟨rfl, rfl⟩ := hclose
            exact h
          · rw [List.cons_append, blockLength_cons (by simpa using hclose), List.length_cons] at h
            have hrest := ih (by omega)
            rw [blockLength_cons (by simpa using hclose), List.length_cons]
            omega

/-- A block comment ends in the text. -/
lemma blockLength_le (text : Text) : blockLength text ≤ text.length := by
  fun_induction blockLength text with
  | case1 => simp
  | case2 c rest _ ih => rw [List.length_cons]; omega
  | case3 => simp

/-- A directive ends in the text. -/
lemma directiveLength_le (text : Text) : directiveLength text ≤ text.length := by
  fun_induction directiveLength text with
  | case1 rest ih => rw [List.length_cons, List.length_cons]; omega
  | case2 => simp
  | case3 c rest _ _ ih => rw [List.length_cons]; omega
  | case4 => simp

/-- A piece does not go on past the end of the text. -/
lemma lead_length_le (lineStart : Bool) (c : Char) (rest : Text) :
    (lead lineStart c rest).2 ≤ rest.length := by
  rw [lead]
  split_ifs with _ _ _ hblock
  · exact Nat.zero_le _
  · exact Nat.zero_le _
  · exact (List.takeWhile_sublist _).length_le
  · obtain ⟨rest, rfl⟩ := List.head?_eq_some_iff.1 hblock.2
    have hle := blockLength_le rest
    show 1 + blockLength rest ≤ rest.length + 1
    omega
  · exact directiveLength_le rest
  · exact (List.takeWhile_sublist _).length_le
  · exact (List.takeWhile_sublist _).length_le

/-- A directive goes on over what does not end its line. -/
lemma directiveLength_cons (hc : c ≠ '\n') (h : ¬ (c = '\\' ∧ rest.head? = some '\n')) :
    directiveLength (c :: rest) = 1 + directiveLength rest := by
  rw [directiveLength.eq_3]
  · rintro tail rfl rfl
    exact h ⟨rfl, rfl⟩
  · exact hc

/-- A directive that is not at the end is followed by a line feed. -/
lemma eq_lineFeed_of_directiveLength (h : directiveLength (tail ++ d :: rest) = tail.length) :
    d = '\n' := by
  fun_induction directiveLength tail with
  | case1 tail ih =>
      apply ih
      have h : 2 + directiveLength (tail ++ d :: rest) = tail.length + 2 := h
      omega
  | case2 tail =>
      have h : 0 = tail.length + 1 := h
      omega
  | case3 c tail hescape hfeed ih =>
      by_contra hd
      have hstep : directiveLength (c :: (tail ++ d :: rest))
          = 1 + directiveLength (tail ++ d :: rest) := by
        refine directiveLength_cons hfeed ?_
        rintro ⟨rfl, hhead⟩
        cases tail with
        | nil => exact hd (by simpa using hhead)
        | cons b tail =>
            obtain rfl : b = '\n' := by simpa using hhead
            exact hescape tail rfl rfl
      rw [List.cons_append, hstep, List.length_cons] at h
      exact hd (ih (by omega))
  | case4 =>
      by_contra hd
      have hpos : directiveLength (d :: rest) = 0 := h
      unfold directiveLength at hpos
      split at hpos <;> simp_all

/-- Whether a directive ends before a line feed does not depend on what follows. -/
lemma directiveLength_append_lineFeed (other : Text)
    (h : directiveLength (tail ++ '\n' :: rest) = tail.length) :
    directiveLength (tail ++ '\n' :: other) = tail.length ∧ directiveLength tail = tail.length := by
  fun_induction directiveLength tail with
  | case1 tail ih =>
      have h : 2 + directiveLength (tail ++ '\n' :: rest) = tail.length + 2 := h
      obtain ⟨hother, hnil⟩ := ih (by omega)
      refine ⟨?_, ?_⟩
      · show 2 + directiveLength (tail ++ '\n' :: other) = tail.length + 2
        omega
      · rw [List.length_cons, List.length_cons]
        omega
  | case2 tail =>
      have h : 0 = tail.length + 1 := h
      omega
  | case3 c tail hescape hfeed ih =>
      have hlast : ¬ (c = '\\' ∧ tail = []) := by
        rintro ⟨rfl, rfl⟩
        have h : 2 + directiveLength rest = 1 := h
        omega
      have hhead : ∀ text : Text, ¬ (c = '\\' ∧ (tail ++ '\n' :: text).head? = some '\n') := by
        rintro text ⟨rfl, hhead⟩
        cases tail with
        | nil => exact hlast ⟨rfl, rfl⟩
        | cons b tail =>
            obtain rfl : b = '\n' := by simpa using hhead
            exact hescape tail rfl rfl
      rw [List.cons_append, directiveLength_cons hfeed (hhead _), List.length_cons] at h ⊢
      obtain ⟨hother, hnil⟩ := ih (by omega)
      rw [hother, hnil]
      omega
  | case4 => exact ⟨rfl, rfl⟩

/-! ## Fitting -/

/-- A text that goes on with `rest` starts with the piece. -/
def Fits (lineStart : Bool) (piece : Piece) (rest : Text) : Prop :=
  ∃ c tail, piece.text = c :: tail ∧ lead lineStart c (tail ++ rest) = (piece.kind, tail.length)

/-- What the characters of a token after its first one have in common. -/
def goesOn (c : Char) : Char → Bool := if isWordChar c then isWordChar else fun d => !isAscii d

variable {lineStart : Bool} {piece : Piece}

/-- What it takes for a token to fit. -/
lemma fits_token_iff : Fits lineStart ⟨.token, c :: tail⟩ rest ↔
    isAsciiBlank c = false ∧
      (c = '/' → (tail ++ rest).head? ≠ some '/' ∧ (tail ++ rest).head? ≠ some '*') ∧
      (c = '#' → lineStart = false) ∧ tail.all (goesOn c) = true ∧
      ∀ d, rest.head? = some d → goesOn c d = false := by
  have hlead : Fits lineStart ⟨.token, c :: tail⟩ rest
      ↔ lead lineStart c (tail ++ rest) = (.token, tail.length) := by
    constructor
    · rintro ⟨_, _, htext, h⟩
      obtain ⟨rfl, rfl⟩ := List.cons.inj htext
      exact h
    · exact fun h => ⟨c, tail, rfl, h⟩
  rw [hlead, lead]
  split_ifs with hfeed hblank hline hblock hdirective hword
  · simp [hfeed, isAsciiBlank]
  · simp [hblank]
  · simp [hline]
  · simp [hblock]
  · simp [hdirective]
  all_goals
    simp only [not_and, Bool.not_eq_true] at hblank hline hblock hdirective hword
    rw [Prod.mk.injEq, length_takeWhile_append_eq, goesOn]
    simp only [hword, if_true, if_false, Bool.false_eq_true, true_and]
    exact ⟨fun h => ⟨hblank, fun hc => ⟨hline hc, hblock hc⟩, hdirective, h⟩, fun h => h.2.2.2⟩

/-- A piece that is no token is a line feed, a blank, a comment or a directive. -/
lemma fits_other_iff (hkind : piece.kind ≠ .token) : Fits lineStart piece rest ↔
    piece = ⟨.lineFeed, ['\n']⟩ ∨
      (∃ c, piece = ⟨.blank, [c]⟩ ∧ c ≠ '\n' ∧ isAsciiBlank c = true) ∨
      (∃ tail, piece = ⟨.comment, '/' :: '/' :: tail⟩ ∧ lineLength (tail ++ rest) = tail.length) ∨
      (∃ tail, piece = ⟨.comment, '/' :: '*' :: tail⟩ ∧ blockLength (tail ++ rest) = tail.length) ∨
      (∃ tail, piece = ⟨.directive, '#' :: tail⟩ ∧ lineStart = true ∧
        directiveLength (tail ++ rest) = tail.length) := by
  obtain ⟨kind, text⟩ := piece
  constructor
  · rintro ⟨c, tail, rfl, h⟩
    rw [lead] at h
    split_ifs at h with hfeed hblank hline hblock hdirective <;>
      obtain ⟨rfl, hlength⟩ := Prod.mk.inj h
    · obtain rfl := List.length_eq_zero_iff.1 hlength.symm
      exact Or.inl (by rw [hfeed])
    · obtain rfl := List.length_eq_zero_iff.1 hlength.symm
      exact Or.inr (Or.inl ⟨c, rfl, hfeed, hblank⟩)
    · obtain ⟨rfl, hhead⟩ := hline
      refine Or.inr (Or.inr (Or.inl ?_))
      cases tail with
      | nil =>
          rw [List.nil_append] at hlength hhead
          obtain ⟨rest, rfl⟩ := List.head?_eq_some_iff.1 hhead
          simp [lineLength] at hlength
      | cons d tail =>
          obtain rfl : d = '/' := by simpa using hhead
          refine ⟨tail, rfl, ?_⟩
          simpa [lineLength] using hlength
    · obtain ⟨rfl, hhead⟩ := hblock
      refine Or.inr (Or.inr (Or.inr (Or.inl ?_)))
      cases tail with
      | nil => simp at hlength
      | cons d tail =>
          obtain rfl : d = '*' := by simpa using hhead
          refine ⟨tail, rfl, ?_⟩
          rw [List.cons_append, List.drop_one, List.tail_cons, List.length_cons] at hlength
          omega
    · obtain ⟨rfl, hstart⟩ := hdirective
      exact Or.inr (Or.inr (Or.inr (Or.inr ⟨tail, rfl, hstart, hlength⟩)))
    · exact absurd rfl hkind
    · exact absurd rfl hkind
  · rintro (h | ⟨c, h, hfeed, hblank⟩ | ⟨tail, h, hlength⟩ | ⟨tail, h, hlength⟩
      | ⟨tail, h, rfl, hlength⟩) <;> obtain ⟨rfl, rfl⟩ := Piece.mk.inj h
    · exact ⟨_, _, rfl, rfl⟩
    · exact ⟨_, _, rfl, by rw [lead, if_neg hfeed, if_pos hblank]; rfl⟩
    · refine ⟨_, _, rfl, ?_⟩
      have hslash : lineLength ('/' :: (tail ++ rest)) = tail.length + 1 := by
        rw [← hlength]
        rfl
      exact congrArg (Prod.mk PieceKind.comment) hslash
    · refine ⟨_, _, rfl, ?_⟩
      have hstar : 1 + blockLength (tail ++ rest) = tail.length + 1 := by
        rw [hlength, Nat.add_comm]
      exact congrArg (Prod.mk PieceKind.comment) hstar
    · exact ⟨_, _, rfl, congrArg (Prod.mk PieceKind.directive) hlength⟩

/-- A line ends with a line feed, or with the text. -/
lemma lineLength_append_eq : lineLength (tail ++ rest) = tail.length ↔
    tail.all (· ≠ '\n') = true ∧ ∀ d, rest.head? = some d → d = '\n' := by
  rw [lineLength, length_takeWhile_append_eq]
  simp

/-- What a piece that is no token depends on are the lengths of comments and directives, and for a
directive the start of the line. -/
lemma Fits.transfer {start : Bool} {other : Text} (h : Fits lineStart piece rest)
    (hkind : piece.kind ≠ .token) (hstart : lineStart = true → start = true)
    (hline : ∀ tail, lineLength (tail ++ rest) = tail.length →
      lineLength (tail ++ other) = tail.length)
    (hblock : ∀ tail, blockLength (tail ++ rest) = tail.length →
      blockLength (tail ++ other) = tail.length)
    (hdirective : ∀ tail, directiveLength (tail ++ rest) = tail.length →
      directiveLength (tail ++ other) = tail.length) : Fits start piece other := by
  rw [fits_other_iff hkind] at h ⊢
  rcases h with h | h | ⟨tail, h, hlength⟩ | ⟨tail, h, hlength⟩ | ⟨tail, h, htrue, hlength⟩
  · exact Or.inl h
  · exact Or.inr (Or.inl h)
  · exact Or.inr (Or.inr (Or.inl ⟨tail, h, hline tail hlength⟩))
  · exact Or.inr (Or.inr (Or.inr (Or.inl ⟨tail, h, hblock tail hlength⟩)))
  · exact Or.inr (Or.inr (Or.inr (Or.inr ⟨tail, h, hstart htrue, hdirective tail hlength⟩)))

/-- Of what comes next, a piece depends on the first character only. -/
lemma Fits.congr_head {other : Text} (h : Fits lineStart piece rest)
    (hhead : other.head? = rest.head?) : Fits lineStart piece other := by
  by_cases hkind : piece.kind = .token
  · obtain ⟨kind, text⟩ := piece
    obtain rfl : kind = .token := hkind
    obtain ⟨c, tail, rfl, _⟩ := id h
    rw [fits_token_iff] at h ⊢
    rw [List.head?_append, hhead, ← List.head?_append]
    exact h
  · cases rest with
    | nil =>
        obtain rfl : other = [] := List.head?_eq_none_iff.1 hhead
        exact h
    | cons d rest =>
        obtain ⟨other, rfl⟩ := List.head?_eq_some_iff.1 hhead
        refine h.transfer hkind id (fun tail hlength => ?_)
          (fun tail => blockLength_append_cons d other) (fun tail hlength => ?_)
        · rw [lineLength_append_eq] at hlength ⊢
          exact hlength
        · obtain rfl := eq_lineFeed_of_directiveLength hlength
          exact (directiveLength_append_lineFeed other hlength).1

/-- Any piece may stand at the end. -/
lemma Fits.nil (h : Fits lineStart piece rest) : Fits lineStart piece [] := by
  by_cases hkind : piece.kind = .token
  · obtain ⟨kind, text⟩ := piece
    obtain rfl : kind = .token := hkind
    obtain ⟨c, tail, rfl, _⟩ := id h
    rw [fits_token_iff] at h ⊢
    refine ⟨h.1, fun hc => ?_, h.2.2.1, h.2.2.2.1, by simp⟩
    cases tail with
    | nil => simp
    | cons d tail => exact h.2.1 hc
  · cases rest with
    | nil => exact h
    | cons d rest =>
        refine h.transfer hkind id (fun tail hlength => ?_) (fun tail hlength => ?_)
          (fun tail hlength => ?_)
        · rw [lineLength_append_eq] at hlength ⊢
          exact ⟨hlength.1, by simp⟩
        · rw [List.append_nil]
          exact blockLength_of_append hlength
        · obtain rfl := eq_lineFeed_of_directiveLength hlength
          rw [List.append_nil]
          exact (directiveLength_append_lineFeed [] hlength).2

/-- Where a word follows a piece that is no token, anything may follow. -/
lemma Fits.replace_word (h : Fits lineStart piece (c :: rest)) (hkind : piece.kind ≠ .token)
    (hc : isWordChar c = true) (other : Text) : Fits lineStart piece other := by
  have hfeed : c ≠ '\n' := by
    rintro rfl
    exact absurd hc (by decide)
  refine h.transfer hkind id (fun tail hlength => ?_) (fun tail hlength => ?_)
    (fun tail hlength => absurd (eq_lineFeed_of_directiveLength hlength) hfeed)
  · exact absurd ((lineLength_append_eq.1 hlength).2 c rfl) hfeed
  · cases other with
    | nil =>
        rw [List.append_nil]
        exact blockLength_of_append hlength
    | cons d other => exact blockLength_append_cons d other hlength

/-- Pieces that are no tokens are found at the start of a line as well. -/
lemma Fits.at_lineStart (h : Fits lineStart piece rest) (hkind : piece.kind ≠ .token) :
    Fits true piece rest :=
  h.transfer hkind (fun _ => rfl) (fun _ => id) (fun _ => id) (fun _ => id)

/-- Tokens are found within a line as well. -/
lemma Fits.within_line (h : Fits lineStart piece rest) (hkind : piece.kind = .token) :
    Fits false piece rest := by
  obtain ⟨kind, text⟩ := piece
  obtain rfl : kind = .token := hkind
  obtain ⟨c, tail, rfl, _⟩ := id h
  rw [fits_token_iff] at h ⊢
  exact ⟨h.1, h.2.1, fun _ => rfl, h.2.2.2⟩

/-- A token that starts with no hash is found anywhere on a line. -/
lemma Fits.anywhere (h : Fits lineStart piece rest) (hkind : piece.kind = .token)
    (hhash : piece.text.head? ≠ some '#') (start : Bool) : Fits start piece rest := by
  obtain ⟨kind, text⟩ := piece
  obtain rfl : kind = .token := hkind
  obtain ⟨c, tail, rfl, _⟩ := id h
  rw [fits_token_iff] at h ⊢
  exact ⟨h.1, h.2.1, fun hc => absurd (congrArg some hc) hhash, h.2.2.2⟩

/-- A character that ends a token: an ASCII character that belongs to no word.  After a slash it
must start no comment either. -/
def Ends (token : Text) (c : Char) : Prop :=
  isAscii c = true ∧ isWordChar c = false ∧ (token.getLast? = some '/' → c ≠ '/' ∧ c ≠ '*')

/-- A character that ends every token that does not end in a slash. -/
def Breaks (c : Char) : Prop := isAscii c = true ∧ isWordChar c = false ∧ c ≠ '*'

instance (c : Char) : Decidable (Breaks c) := inferInstanceAs (Decidable (_ ∧ _))

/-- What ends any token ends one that is no slash before a slash. -/
lemma Breaks.ends {token : Text} (h : Breaks c) (hslash : token.getLast? = some '/' → c ≠ '/') :
    Ends token c := ⟨h.1, h.2.1, fun hlast => ⟨hslash hlast, h.2.2⟩⟩

/-- Only the last character of a token matters. -/
lemma Ends.congr {token other : Text} (hlast : other.getLast? = token.getLast?) (h : Ends token c) :
    Ends other c := by
  rw [Ends, hlast]
  exact h

/-- A token may be followed by any character that ends it. -/
lemma Fits.follow {other : Text} (h : Fits lineStart piece rest) (hkind : piece.kind = .token)
    (hends : ∀ d, other.head? = some d → Ends piece.text d) : Fits lineStart piece other := by
  obtain ⟨kind, text⟩ := piece
  obtain rfl : kind = .token := hkind
  obtain ⟨c, tail, rfl, _⟩ := id h
  rw [fits_token_iff] at h ⊢
  refine ⟨h.1, fun hc => ?_, h.2.2.1, h.2.2.2.1, fun d hd => ?_⟩
  · cases tail with
    | nil =>
        have hslash : [c].getLast? = some '/' := by rw [hc]; rfl
        rw [List.nil_append]
        exact ⟨fun hd => ((hends _ hd).2.2 hslash).1 rfl, fun hd => ((hends _ hd).2.2 hslash).2 rfl⟩
    | cons d tail => exact h.2.1 hc
  · obtain ⟨hascii, hword, -⟩ := hends d hd
    rw [goesOn]
    split_ifs
    · exact hword
    · simp only [hascii, Bool.not_true]

/-- A sign other than a slash may be followed by any ASCII character. -/
lemma Fits.follow_sign {other : Text} (h : Fits lineStart ⟨.token, c :: tail⟩ rest)
    (hword : isWordChar c = false) (hslash : c ≠ '/')
    (hascii : ∀ d, other.head? = some d → isAscii d = true) :
    Fits lineStart ⟨.token, c :: tail⟩ other := by
  rw [fits_token_iff] at h ⊢
  refine ⟨h.1, fun hc => absurd hc hslash, h.2.2.1, h.2.2.2.1, fun d hd => ?_⟩
  rw [goesOn, if_neg (by simp [hword])]
  simp only [hascii d hd, Bool.not_true]

/-! ## Reading -/

/-- The characters of pieces. -/
def textOf (pieces : List Piece) : Text := pieces.flatMap text

@[simp] lemma textOf_nil : textOf [] = [] := rfl

@[simp] lemma textOf_cons (piece : Piece) (pieces : List Piece) :
    textOf (piece :: pieces) = piece.text ++ textOf pieces := List.flatMap_cons

@[simp] lemma textOf_append (pieces others : List Piece) :
    textOf (pieces ++ others) = textOf pieces ++ textOf others := List.flatMap_append

/-- A text that goes on with `rest` starts with the pieces. -/
def Reads (lineStart : Bool) : List Piece → Text → Prop
  | [], _ => True
  | piece :: pieces, rest =>
    piece.Fits lineStart (textOf pieces ++ rest)
      ∧ Reads (lineStartAfter lineStart piece.kind) pieces rest

/-- Whether the next piece is first on its line, blanks and comments aside. -/
def lineStartAfterAll (lineStart : Bool) (pieces : List Piece) : Bool :=
  pieces.foldl (fun start piece => lineStartAfter start piece.kind) lineStart

variable {pieces others : List Piece}

/-- No piece is empty. -/
lemma Fits.text_ne_nil (h : Fits lineStart piece rest) : piece.text ≠ [] := by
  obtain ⟨c, tail, htext, _⟩ := h
  rw [htext]
  exact List.cons_ne_nil c tail

/-- Two runs of pieces are read one after the other. -/
lemma reads_append : Reads lineStart (pieces ++ others) rest ↔
    Reads lineStart pieces (textOf others ++ rest) ∧
      Reads (lineStartAfterAll lineStart pieces) others rest := by
  induction pieces generalizing lineStart with
  | nil => exact (true_and _).to_iff.symm
  | cons piece pieces ih =>
      rw [List.cons_append, Reads, ih, textOf_append, List.append_assoc, Reads, and_assoc]
      rfl

/-- **Reading goes through in parts.** -/
theorem scanFrom_of_reads (h : Reads lineStart pieces rest) :
    scanFrom lineStart (textOf pieces ++ rest)
      = pieces ++ scanFrom (lineStartAfterAll lineStart pieces) rest := by
  induction pieces generalizing lineStart with
  | nil => rfl
  | cons piece pieces ih =>
      obtain ⟨⟨c, tail, htext, hlead⟩, hpieces⟩ := h
      obtain ⟨kind, text⟩ := piece
      obtain rfl : text = c :: tail := htext
      have htail : tail ++ (textOf pieces ++ rest) = (tail ++ textOf pieces) ++ rest := by
        rw [List.append_assoc]
      rw [textOf_cons, List.append_assoc, List.cons_append, scanFrom, hlead]
      simp only [List.take_left, List.drop_left, ih hpieces]
      rfl

/-- Pieces that are read up to the end of a text are its pieces. -/
lemma scanFrom_textOf (h : Reads lineStart pieces []) :
    scanFrom lineStart (textOf pieces) = pieces := by
  have hself := scanFrom_of_reads h
  rwa [List.append_nil, scanFrom, List.append_nil] at hself

/-- Pieces that fit are the pieces of their text. -/
lemma scan_textOf (h : Reads true pieces []) : scan (textOf pieces) = pieces := scanFrom_textOf h

/-- The pieces of a text are read from it. -/
theorem reads_scanFrom (lineStart : Bool) (text : Text) :
    Reads lineStart (scanFrom lineStart text) [] := by
  fun_induction scanFrom lineStart text with
  | case1 => trivial
  | case2 lineStart c rest kind length hlead ih =>
      refine ⟨⟨c, rest.take length, rfl, ?_⟩, ih⟩
      rw [List.append_nil, textOf, flatMap_text_scanFrom, List.take_append_drop, hlead]
      have hlength := lead_length_le lineStart c rest
      rw [hlead] at hlength
      rw [List.length_take, Nat.min_eq_left hlength]

/-- What is read does not depend on more of what comes next than the last piece does. -/
lemma Reads.change {other : Text} (h : Reads lineStart pieces rest)
    (hlast : ∀ piece, pieces.getLast? = some piece → ∀ start, Fits start piece rest →
      Fits start piece other) : Reads lineStart pieces other := by
  induction pieces generalizing lineStart with
  | nil => trivial
  | cons piece pieces ih =>
      obtain ⟨hpiece, hpieces⟩ := h
      cases pieces with
      | nil => exact ⟨hlast piece rfl _ hpiece, trivial⟩
      | cons next pieces =>
          refine ⟨hpiece.congr_head ?_, ih hpieces hlast⟩
          rw [textOf_cons, List.append_assoc, List.append_assoc,
            List.head?_append_of_ne_nil _ hpieces.1.text_ne_nil,
            List.head?_append_of_ne_nil _ hpieces.1.text_ne_nil]

/-- Only the character after the pieces matters. -/
lemma Reads.congr_head {other : Text} (h : Reads lineStart pieces rest)
    (hhead : other.head? = rest.head?) : Reads lineStart pieces other :=
  h.change fun _ _ _ hfits => hfits.congr_head hhead

/-- Pieces are read with nothing after them as well. -/
lemma Reads.nil (h : Reads lineStart pieces rest) : Reads lineStart pieces [] :=
  h.change fun _ _ _ hfits => hfits.nil

/-- Another text may follow that ends the last token, too. -/
lemma Reads.follow {other : Text} (h : Reads lineStart pieces rest)
    (hlast : ∀ piece, pieces.getLast? = some piece → piece.kind = .token)
    (hends : ∀ piece, pieces.getLast? = some piece → ∀ d, other.head? = some d →
      Ends piece.text d) : Reads lineStart pieces other :=
  h.change fun piece hpiece _ hfits => hfits.follow (hlast piece hpiece) (hends piece hpiece)

/-- Where a word followed pieces that are no tokens, anything may follow. -/
lemma Reads.replace_word (h : Reads lineStart pieces (c :: rest)) (hc : isWordChar c = true)
    (hkind : ∀ piece ∈ pieces, piece.kind ≠ .token) (other : Text) :
    Reads lineStart pieces other :=
  h.change fun piece hpiece _ hfits =>
    hfits.replace_word (hkind piece (List.mem_of_getLast? hpiece)) hc other

/-- Pieces that are no tokens start with a character that ends tokens. -/
lemma Reads.head_of_ne_token (h : Reads lineStart pieces rest)
    (hkind : ∀ piece ∈ pieces, piece.kind ≠ .token)
    (hrest : ∀ d, rest.head? = some d → Breaks d) :
    ∀ d, (textOf pieces ++ rest).head? = some d → Breaks d := by
  cases pieces with
  | nil => exact hrest
  | cons piece pieces =>
      intro d hd
      rw [textOf_cons, List.append_assoc, List.head?_append_of_ne_nil _ h.1.text_ne_nil] at hd
      rcases (fits_other_iff (hkind piece List.mem_cons_self)).1 h.1 with rfl | ⟨c, rfl, _, hblank⟩
        | ⟨tail, rfl, _⟩ | ⟨tail, rfl, _⟩ | ⟨tail, rfl, _, _⟩ <;>
        obtain rfl := Option.some.inj hd
      · decide
      · simp only [isAsciiBlank, Bool.or_eq_true, beq_iff_eq] at hblank
        rcases hblank with (((rfl | rfl) | rfl) | rfl) | rfl <;> decide
      all_goals decide

/-- The pieces are read at the start of a line as well, if the first token starts with no hash. -/
lemma Reads.at_lineStart (h : Reads lineStart pieces rest)
    (hhash : ∀ token, pieces.find? (·.kind = .token) = some token → token.text.head? ≠ some '#') :
    Reads true pieces rest := by
  induction pieces generalizing lineStart with
  | nil => trivial
  | cons piece pieces ih =>
      obtain ⟨hpiece, hpieces⟩ := h
      by_cases hkind : piece.kind = .token
      · have hfirst : (piece :: pieces).find? (·.kind = .token) = some piece :=
          List.find?_cons_of_pos (by simpa using hkind)
        refine ⟨hpiece.anywhere hkind (hhash piece hfirst) true, ?_⟩
        rw [hkind] at hpieces ⊢
        exact hpieces
      · refine ⟨hpiece.at_lineStart hkind, ?_⟩
        have hstart : lineStartAfter true piece.kind = true := by
          cases hpiece : piece.kind <;> first | rfl | exact absurd hpiece hkind
        rw [hstart]
        refine ih hpieces fun token htoken => hhash token ?_
        rw [List.find?_cons_of_neg (by simpa using hkind)]
        exact htoken

/-- After pieces that are no tokens a line that has just started has still just started. -/
lemma lineStartAfterAll_true (hkind : ∀ piece ∈ pieces, piece.kind ≠ .token) :
    lineStartAfterAll true pieces = true := by
  induction pieces with
  | nil => rfl
  | cons piece pieces ih =>
      rw [List.forall_mem_cons] at hkind
      have hstart : lineStartAfter true piece.kind = true := by
        cases hpiece : piece.kind <;> first | rfl | exact absurd hpiece hkind.1
      rw [lineStartAfterAll, List.foldl_cons, hstart]
      exact ih hkind.2

/-- Pieces that are no tokens and read within a line are read anywhere. -/
lemma Reads.start_of_ne_token (h : Reads false pieces rest)
    (hkind : ∀ piece ∈ pieces, piece.kind ≠ .token) (start : Bool) : Reads start pieces rest := by
  cases start with
  | false => exact h
  | true =>
      refine h.at_lineStart fun token htoken =>
        absurd ?_ (hkind token (List.mem_of_find?_eq_some htoken))
      simpa using List.find?_some htoken

/-- What starts with a token is read within a line as well. -/
lemma Reads.within_line (h : Reads lineStart (piece :: pieces) rest) (hkind : piece.kind = .token) :
    Reads false (piece :: pieces) rest := by
  obtain ⟨hpiece, hpieces⟩ := h
  refine ⟨hpiece.within_line hkind, ?_⟩
  rw [hkind] at hpieces ⊢
  exact hpieces

/-- What starts with a token is read anywhere on a line, if the token starts with no hash. -/
lemma Reads.anywhere (h : Reads lineStart (piece :: pieces) rest) (hkind : piece.kind = .token)
    (hhash : piece.text.head? ≠ some '#') (start : Bool) : Reads start (piece :: pieces) rest := by
  obtain ⟨hpiece, hpieces⟩ := h
  refine ⟨hpiece.anywhere hkind hhash start, ?_⟩
  rw [hkind] at hpieces ⊢
  exact hpieces

/-- After a token, the next piece is not first on its line. -/
lemma lineStartAfterAll_of_getLast? (hlast : pieces.getLast? = some piece)
    (hkind : piece.kind = .token) : lineStartAfterAll lineStart pieces = false := by
  obtain ⟨pieces, rfl⟩ := List.getLast?_eq_some_iff.1 hlast
  rw [lineStartAfterAll, List.foldl_append, List.foldl_cons, hkind]
  rfl

/-! ## New pieces -/

/-- A token. -/
def token (text : Text) : Piece := { kind := .token, text := text }

/-- A space. -/
def space : Piece := { kind := .blank, text := [' '] }

/-- A space fits anywhere. -/
lemma fits_space : Fits lineStart space rest := ⟨' ', [], rfl, rfl⟩

/-- A word fits wherever it does not go on. -/
lemma fits_word {word : Text} (hne : word ≠ []) (hword : word.all isWordChar = true)
    (hrest : ∀ d, rest.head? = some d → isWordChar d = false) :
    Fits lineStart (token word) rest := by
  obtain ⟨c, tail, rfl⟩ := List.exists_cons_of_ne_nil hne
  rw [List.all_cons, Bool.and_eq_true] at hword
  obtain ⟨hc, htail⟩ := hword
  rw [token, fits_token_iff, goesOn, if_pos hc]
  refine ⟨?_, ?_, ?_, htail, hrest⟩
  · by_contra hblank
    rw [Bool.not_eq_false] at hblank
    simp only [isAsciiBlank, Bool.or_eq_true, beq_iff_eq] at hblank
    rcases hblank with (((rfl | rfl) | rfl) | rfl) | rfl <;> exact absurd hc (by decide)
  · rintro rfl
    exact absurd hc (by decide)
  · rintro rfl
    exact absurd hc (by decide)

/-- A sign fits before ASCII characters, if it starts no comment and no directive. -/
lemma fits_sign (hblank : isAsciiBlank c = false) (hword : isWordChar c = false) (hslash : c ≠ '/')
    (hhash : c ≠ '#') (hrest : ∀ d, rest.head? = some d → isAscii d = true) :
    Fits lineStart (token [c]) rest := by
  rw [token, fits_token_iff, goesOn, if_neg (by simp [hword])]
  exact ⟨hblank, fun h => absurd h hslash, fun h => absurd h hhash, rfl,
    fun d hd => by simp only [hrest d hd, Bool.not_true]⟩

/-! ## Tokens -/

/-- The texts of the tokens among pieces. -/
def words (pieces : List Piece) : List Text := (pieces.filter (·.kind = .token)).map text

@[simp] lemma words_nil : words [] = [] := rfl

@[simp] lemma words_token (word : Text) (pieces : List Piece) :
    words (token word :: pieces) = word :: words pieces := rfl

@[simp] lemma words_space (pieces : List Piece) : words (space :: pieces) = words pieces := rfl

@[simp] lemma words_append (pieces others : List Piece) :
    words (pieces ++ others) = words pieces ++ words others := by
  rw [words, List.filter_append, List.map_append]
  rfl

/-- Pieces that are no tokens have no words. -/
lemma words_cons_other (hkind : piece.kind ≠ .token) : words (piece :: pieces) = words pieces := by
  rw [words, List.filter_cons_of_neg (by simpa using hkind)]
  rfl

/-- A token is determined by its text. -/
lemma eq_token (hkind : piece.kind = .token) : piece = token piece.text := by
  obtain ⟨kind, text⟩ := piece
  obtain rfl : kind = .token := hkind
  rfl

/-- Without tokens there are no words. -/
lemma words_eq_nil_iff : words pieces = [] ↔ ∀ piece ∈ pieces, piece.kind ≠ .token := by
  rw [words, List.map_eq_nil_iff, List.filter_eq_nil_iff]
  simp

/-! ## Directives -/

/-- The preprocessor lines among pieces. -/
def directives (pieces : List Piece) : List Text := (pieces.filter (·.kind = .directive)).map text

@[simp] lemma directives_nil : directives [] = [] := rfl

@[simp] lemma directives_token (word : Text) (pieces : List Piece) :
    directives (token word :: pieces) = directives pieces := rfl

@[simp] lemma directives_space (pieces : List Piece) :
    directives (space :: pieces) = directives pieces := rfl

@[simp] lemma directives_append (pieces others : List Piece) :
    directives (pieces ++ others) = directives pieces ++ directives others := by
  rw [directives, List.filter_append, List.map_append]
  rfl

/-- Only directives are preprocessor lines. -/
lemma directives_eq_nil (hkind : ∀ piece ∈ pieces, piece.kind ≠ .directive) :
    directives pieces = [] := by
  rw [directives, List.map_eq_nil_iff, List.filter_eq_nil_iff]
  simpa using hkind

end Piece

section Tokens

open Piece

variable {pieces others : List Piece} {position : ℕ}

@[simp] lemma tokensFrom_token (word : Text) : tokensFrom position (token word :: pieces)
    = { text := word, start := position } :: tokensFrom (position + word.length) pieces := rfl

/-- Pieces that are no tokens are skipped. -/
lemma tokensFrom_cons_other {piece : Piece} (hkind : piece.kind ≠ .token) :
    tokensFrom position (piece :: pieces)
      = tokensFrom (position + piece.text.length) pieces := by
  rw [tokensFrom]
  split
  · next h => exact absurd h hkind
  · rfl

/-- Tokens of two runs of pieces stand one after the other. -/
lemma tokensFrom_append : tokensFrom position (pieces ++ others) = tokensFrom position pieces
    ++ tokensFrom (position + (textOf pieces).length) others := by
  induction pieces generalizing position with
  | nil => rfl
  | cons piece pieces ih =>
      have hlength : position + (textOf (piece :: pieces)).length
          = position + piece.text.length + (textOf pieces).length := by
        rw [textOf_cons, List.length_append, Nat.add_assoc]
      by_cases hkind : piece.kind = .token
      · rw [eq_token hkind] at hlength ⊢
        rw [hlength, List.cons_append, tokensFrom_token, tokensFrom_token, ih]
        rfl
      · rw [hlength, List.cons_append, tokensFrom_cons_other hkind, tokensFrom_cons_other hkind, ih]

/-- Where pieces stand does not change the texts of their tokens. -/
lemma map_text_tokensFrom : (tokensFrom position pieces).map Token.text = words pieces := by
  induction pieces generalizing position with
  | nil => rfl
  | cons piece pieces ih =>
      by_cases hkind : piece.kind = .token
      · rw [eq_token hkind, tokensFrom_token, List.map_cons, ih, words_token]
      · rw [tokensFrom_cons_other hkind, ih, words_cons_other hkind]

/-- Without words there are no tokens. -/
lemma tokensFrom_eq_nil_iff : tokensFrom position pieces = [] ↔ words pieces = [] := by
  have hwords : (tokensFrom position pieces).map Token.text = words pieces := map_text_tokensFrom
  rw [← hwords, List.map_eq_nil_iff]

/-- Pieces can be cut at a token. -/
lemma exists_cut {before after : List Token} {token : Token}
    (h : tokensFrom position pieces = before ++ token :: after) :
    ∃ left right, pieces = left ++ Piece.token token.text :: right ∧
      tokensFrom position left = before ∧ token.start = position + (textOf left).length ∧
      tokensFrom token.stop right = after := by
  induction pieces generalizing position before with
  | nil => simp [tokensFrom] at h
  | cons piece pieces ih =>
      by_cases hkind : piece.kind = .token
      · rw [eq_token hkind, tokensFrom_token] at h
        cases before with
        | nil =>
            obtain ⟨rfl, hrest⟩ := List.cons.inj h
            exact ⟨[], pieces, by rw [← eq_token hkind]; rfl, rfl, rfl, hrest⟩
        | cons first before =>
            rw [List.cons_append] at h
            obtain ⟨rfl, hrest⟩ := List.cons.inj h
            obtain ⟨left, right, rfl, hleft, hstart, hright⟩ := ih hrest
            refine ⟨piece :: left, right, rfl, ?_, ?_, hright⟩
            · rw [eq_token hkind, tokensFrom_token, ← hleft]
              rfl
            · rw [hstart, textOf_cons, List.length_append, Nat.add_assoc]
      · rw [tokensFrom_cons_other hkind] at h
        obtain ⟨left, right, rfl, hleft, hstart, hright⟩ := ih h
        refine ⟨piece :: left, right, rfl, ?_, ?_, hright⟩
        · rw [tokensFrom_cons_other hkind, hleft]
        · rw [hstart, textOf_cons, List.length_append, Nat.add_assoc]

/-- **Consecutive tokens are the tokens of consecutive pieces**, which start with the first of the
tokens and end with the last one. -/
theorem exists_segment {before group after : List Token} {first last : Token}
    (h : tokensFrom position pieces = before ++ group ++ after) (hfirst : group.head? = some first)
    (hlast : group.getLast? = some last) :
    ∃ left segment right, pieces = left ++ segment ++ right ∧
      tokensFrom position left = before ∧ tokensFrom first.start segment = group ∧
      tokensFrom last.stop right = after ∧
      segment.head? = some (Piece.token first.text) ∧
      segment.getLast? = some (Piece.token last.text) ∧
      first.start = position + (textOf left).length ∧
      last.stop = first.start + (textOf segment).length := by
  obtain ⟨group, rfl⟩ := List.head?_eq_some_iff.1 hfirst
  rw [List.append_assoc, List.cons_append] at h
  obtain ⟨left, right, rfl, hleft, hstart, hright⟩ := exists_cut h
  rcases List.eq_nil_or_concat' group with rfl | ⟨group, other, rfl⟩
  · obtain rfl : first = last := by simpa using hlast
    refine ⟨left, [Piece.token first.text], right, by simp, hleft, rfl, hright, rfl, rfl, hstart, ?_⟩
    simp [Token.stop, Piece.token]
  · rw [← List.cons_append, List.getLast?_concat, Option.some.injEq] at hlast
    subst hlast
    rw [List.append_assoc, List.singleton_append] at hright
    obtain ⟨middle, right, rfl, hmiddle, hstop, hright⟩ := exists_cut hright
    have hlength : other.stop = first.start
        + (textOf (Piece.token first.text :: (middle ++ [Piece.token other.text]))).length := by
      rw [Token.stop, hstop, Token.stop]
      simp only [textOf_cons, textOf_append, textOf_nil, List.append_nil, List.length_append,
        Piece.token]
      omega
    refine ⟨left, Piece.token first.text :: (middle ++ [Piece.token other.text]), right, by simp,
      hleft, ?_, hright, rfl, ?_, hstart, hlength⟩
    · rw [tokensFrom_token, tokensFrom_append]
      have hother : ({ text := other.text, start := other.start } : Token) = other := rfl
      rw [show first.start + first.text.length = first.stop from rfl, hmiddle, ← hstop,
        tokensFrom_token, hother]
      rfl
    · rw [← List.cons_append, List.getLast?_concat]

end Tokens

end GlBridge.Glsl
