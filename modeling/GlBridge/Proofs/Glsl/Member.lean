import GlBridge.Proofs.Glsl.Linewise

/-!
# Accesses to members

The pass that replaces `instance.member` has a scanner of its own, which knows nothing of lexemes.
`Lexeme.readAccesses` says the same of lexemes: an access is the instance, a dot and a name, one
directly after the other, and everything else stays.

* `replaceMembers_eq` — the two agree, unless a number stands directly behind the instance and the
  dot: the scanner takes that for a member;
* `replaceMembers_join` — no access runs from one line into the next.
-/

namespace GlBridge.Glsl

open Text

/-! ## In lexemes -/

namespace Lexeme

/-- The text of lexemes in which every access `instance.member` reads as `read member`. -/
def readAccesses (instanceName : Text) (read : Text → Text) : List Lexeme → Text
  | [] => []
  | word name _ :: other '.' :: word member afterDot :: rest =>
    if name = instanceName then read member ++ readAccesses instanceName read rest
    else name ++ readAccesses instanceName read (other '.' :: word member afterDot :: rest)
  | lexeme :: rest => lexeme.text ++ readAccesses instanceName read rest

/-- Whether lexemes start with the instance, a dot and a number. -/
def startsNumbered (instanceName : Text) : List Lexeme → Bool
  | word name _ :: other '.' :: number _ :: _ => name == instanceName
  | _ => false

/-- No number stands directly behind the instance and a dot. -/
def Readable (instanceName : Text) (lexemes : List Lexeme) : Prop :=
  ∀ later ∈ lexemes.tails, startsNumbered instanceName later = false

instance (instanceName : Text) : DecidablePred (Readable instanceName) := fun lexemes =>
  inferInstanceAs (Decidable (∀ later ∈ lexemes.tails, _))

section Reading

variable {instanceName name member digits : Text} {read : Text → Text} {afterDot : Bool}
  {lexeme : Lexeme} {lexemes : List Lexeme}

lemma Readable.tail (h : Readable instanceName (lexeme :: lexemes)) :
    Readable instanceName lexemes := by
  intro later hlater
  exact h later (by rw [List.tails_cons]; exact List.mem_cons_of_mem _ hlater)

lemma readAccesses_access (instanceName : Text) (read : Text → Text) (afterDot later : Bool)
    (lexemes : List Lexeme) :
    readAccesses instanceName read
        (word instanceName afterDot :: other '.' :: word member later :: lexemes)
      = read member ++ readAccesses instanceName read lexemes := by
  rw [readAccesses, if_pos rfl]

/-- What is not the start of an access is copied. -/
lemma readAccesses_cons (h : ∀ afterDot member later rest, lexeme = word instanceName afterDot →
    lexemes ≠ other '.' :: word member later :: rest) :
    readAccesses instanceName read (lexeme :: lexemes)
      = lexeme.text ++ readAccesses instanceName read lexemes := by
  conv_lhs => unfold readAccesses
  split
  · next heq => exact absurd heq (by simp)
  · next name afterDot member later rest heq =>
      obtain ⟨rfl, rfl⟩ := List.cons.inj heq
      rw [if_neg]
      · rfl
      · rintro rfl
        exact h afterDot member later rest rfl rfl
  · next _ heq =>
      obtain ⟨rfl, rfl⟩ := List.cons.inj heq
      rfl

end Reading

end Lexeme

/-! ## In texts -/

section Replacing

variable {instanceName : Text} {read : Text → Text}

/-- A text in which every access `instance.member` reads as `read member`. -/
def readAccesses (instanceName : Text) (read : Text → Text) (text : Text) : Text :=
  Lexeme.readAccesses instanceName read (Lexeme.scan text)

/-- No number stands directly behind the instance and a dot. -/
def Readable (instanceName text : Text) : Prop := Lexeme.Readable instanceName (Lexeme.scan text)

instance (instanceName : Text) : DecidablePred (Readable instanceName) := fun text =>
  inferInstanceAs (Decidable (Lexeme.Readable instanceName (Lexeme.scan text)))

/-- What is read as a name starts with a character that a name goes on with. -/
lemma takeWhile_ne_nil_of_scanFrom {name text : Text} {afterDot later : Bool}
    {lexemes : List Lexeme} (h : Lexeme.scanFrom afterDot text = .word name later :: lexemes) :
    text.takeWhile isWordChar ≠ [] := by
  cases text with
  | nil =>
      rw [Lexeme.scanFrom] at h
      exact absurd h (by simp)
  | cons c rest =>
      rw [Lexeme.scanFrom] at h
      split_ifs at h with hc hdigit
      · have hword : isWordChar c = true := by rw [isWordChar, hc, Bool.true_or]
        rw [List.takeWhile_cons_of_pos hword]
        exact List.cons_ne_nil _ _
      · exact absurd (List.cons.inj h).1 (by simp)
      · exact absurd (List.cons.inj h).1 (by simp)

lemma exists_of_scanFrom_other {text : Text} {c : Char} {afterDot : Bool} {lexemes : List Lexeme}
    (h : Lexeme.scanFrom afterDot text = .other c :: lexemes) : ∃ rest, text = c :: rest := by
  cases text with
  | nil =>
      rw [Lexeme.scanFrom] at h
      exact absurd h (by simp)
  | cons d rest =>
      rw [Lexeme.scanFrom] at h
      split_ifs at h
      · exact absurd (List.cons.inj h).1 (by simp)
      · exact absurd (List.cons.inj h).1 (by simp)
      · rw [Lexeme.other.inj (List.cons.inj h).1]
        exact ⟨rest, rfl⟩

/-- What goes on like a name directly behind an instance and a dot is one, and not a number. -/
lemma scanFrom_member {tail : Text} {afterDot : Bool}
    (h : Lexeme.Readable instanceName
      (.word instanceName afterDot :: .other '.' :: Lexeme.scanFrom true tail))
    (hmember : tail.takeWhile isWordChar ≠ []) :
    Lexeme.scanFrom true tail = .word (tail.takeWhile isWordChar) true
      :: Lexeme.scanFrom false (tail.dropWhile isWordChar) := by
  cases tail with
  | nil => exact absurd rfl hmember
  | cons d tail =>
      cases hd : isWordStart d with
      | true =>
          have hword : isWordChar d = true := by rw [isWordChar, hd, Bool.true_or]
          rw [Lexeme.scanFrom, if_pos hd, List.takeWhile_cons_of_pos hword,
            List.dropWhile_cons_of_pos hword]
      | false =>
          cases hdigit : isDigit d with
          | true =>
              rw [Lexeme.scanFrom, if_neg (by simp [hd]), if_pos hdigit] at h
              have hnone := h _ (by rw [List.tails_cons]; exact List.mem_cons_self)
              rw [Lexeme.startsNumbered, beq_self_eq_true] at hnone
              exact absurd hnone (by simp)
          | false =>
              have hword : isWordChar d = false := by rw [isWordChar, hd, hdigit, Bool.false_or]
              rw [List.takeWhile_cons_of_neg (by simp [hword])] at hmember
              exact absurd rfl hmember

lemma replaceMembers_scanFrom (afterDot : Bool) (text : Text)
    (h : Lexeme.Readable instanceName (Lexeme.scanFrom afterDot text)) :
    replaceMembers instanceName read text
      = Lexeme.readAccesses instanceName read (Lexeme.scanFrom afterDot text) := by
  fun_induction replaceMembers instanceName read text generalizing afterDot with
  | case1 =>
      rw [Lexeme.scanFrom]
      rfl
  | case2 c rest hc word tail hdot member haccess ih =>
      obtain ⟨rfl, hmember⟩ := haccess
      rw [Lexeme.scanFrom, if_pos hc, hdot, Lexeme.scanFrom_other false (by decide) (by decide)] at h ⊢
      have hlater := scanFrom_member h hmember
      rw [show Lexeme.dotAfter false '.' = true from rfl, hlater] at h ⊢
      rw [Lexeme.readAccesses_access, ih false h.tail.tail.tail]
  | case3 c rest hc word tail hdot member hplain ih =>
      rw [Lexeme.scanFrom, if_pos hc, hdot, Lexeme.scanFrom_other false (by decide) (by decide)] at h ⊢
      rw [Lexeme.readAccesses_cons, Lexeme.readAccesses_cons (by simp), ih _ h.tail.tail]
      · simp [Lexeme.text, word]
      · intro _ name later lexemes hname heq
        exact hplain ⟨(Lexeme.word.inj hname).1, takeWhile_ne_nil_of_scanFrom (List.cons.inj heq).2⟩
  | case4 c rest hc word hdot ih =>
      rw [Lexeme.scanFrom, if_pos hc] at h ⊢
      rw [Lexeme.readAccesses_cons, ih _ h.tail]
      · rfl
      · intro _ name later lexemes _ heq
        obtain ⟨tail, htail⟩ := exists_of_scanFrom_other heq
        exact hdot tail htail
  | case5 c rest hc hdigit ih =>
      rw [Lexeme.scanFrom, if_neg hc, if_pos hdigit] at h ⊢
      rw [Lexeme.readAccesses_cons (by simp), ih _ h.tail]
      rfl
  | case6 c rest hc hdigit ih =>
      rw [Lexeme.scanFrom, if_neg hc, if_neg hdigit] at h ⊢
      rw [Lexeme.readAccesses_cons (by simp), ih _ h.tail]
      rfl

/-- **The scanner replaces the accesses that lexemes show**, where no number stands behind an
instance and a dot. -/
theorem replaceMembers_eq {text : Text} (h : Readable instanceName text) :
    replaceMembers instanceName read text = readAccesses instanceName read text :=
  replaceMembers_scanFrom false text h

/-! ## Line by line -/

lemma replaceMembers_dot {c : Char} {rest tail : Text} (hc : isWordStart c = true)
    (hdot : rest.dropWhile isWordChar = '.' :: tail) :
    replaceMembers instanceName read (c :: rest) =
      if c :: rest.takeWhile isWordChar = instanceName ∧ tail.takeWhile isWordChar ≠ [] then
        read (tail.takeWhile isWordChar)
          ++ replaceMembers instanceName read (tail.dropWhile isWordChar)
      else c :: rest.takeWhile isWordChar ++ '.' :: replaceMembers instanceName read tail := by
  rw [replaceMembers, if_pos hc]
  split
  · next other hother =>
      obtain rfl : other = tail := (List.cons.inj (hother.symm.trans hdot)).2
      rfl
  · next hnone => exact absurd hdot (hnone tail)

lemma replaceMembers_word {c : Char} {rest : Text} (hc : isWordStart c = true)
    (hdot : ∀ tail, rest.dropWhile isWordChar ≠ '.' :: tail) :
    replaceMembers instanceName read (c :: rest) = c :: rest.takeWhile isWordChar
      ++ replaceMembers instanceName read (rest.dropWhile isWordChar) := by
  rw [replaceMembers, if_pos hc]
  split
  · next tail htail => exact absurd htail (hdot tail)
  · rfl

/-- No access runs from one line into the next. -/
lemma replaceMembers_lineFeed (text rest : Text) :
    replaceMembers instanceName read (text ++ '\n' :: rest)
      = replaceMembers instanceName read text
        ++ '\n' :: replaceMembers instanceName read rest := by
  have hword : isWordChar '\n' = false := by decide
  have hnumber : isNumberChar '\n' = false := by decide
  fun_induction replaceMembers instanceName read text with
  | case1 =>
      rw [List.nil_append, replaceMembers, if_neg (by decide), if_neg (by decide)]
      rfl
  | case2 c text hc word tail hdot member haccess ih =>
      have hdrop : (text ++ '\n' :: rest).dropWhile isWordChar = '.' :: (tail ++ '\n' :: rest) := by
        rw [dropWhile_append_cons text hword, hdot, List.cons_append]
      rw [List.cons_append, replaceMembers_dot hc hdrop, takeWhile_append_cons text hword,
        takeWhile_append_cons tail hword, dropWhile_append_cons tail hword, if_pos haccess, ih,
        List.append_assoc]
  | case3 c text hc word tail hdot member hplain ih =>
      have hdrop : (text ++ '\n' :: rest).dropWhile isWordChar = '.' :: (tail ++ '\n' :: rest) := by
        rw [dropWhile_append_cons text hword, hdot, List.cons_append]
      rw [List.cons_append, replaceMembers_dot hc hdrop, takeWhile_append_cons text hword,
        takeWhile_append_cons tail hword, if_neg hplain, ih, List.append_assoc, List.cons_append]
      rfl
  | case4 c text hc word hdot ih =>
      have hdrop : ∀ tail, (text ++ '\n' :: rest).dropWhile isWordChar ≠ '.' :: tail := by
        intro tail htail
        rw [dropWhile_append_cons text hword] at htail
        cases hlast : text.dropWhile isWordChar with
        | nil =>
            rw [hlast, List.nil_append] at htail
            exact absurd (List.cons.inj htail).1 (by decide)
        | cons d others =>
            rw [hlast, List.cons_append] at htail
            exact hdot others (by rw [hlast, (List.cons.inj htail).1])
      rw [List.cons_append, replaceMembers_word hc hdrop, takeWhile_append_cons text hword,
        dropWhile_append_cons text hword, ih, List.append_assoc]
  | case5 c text hc hdigit ih =>
      rw [List.cons_append, replaceMembers, if_neg hc, if_pos hdigit,
        takeWhile_append_cons text hnumber, dropWhile_append_cons text hnumber, ih,
        List.append_assoc]
  | case6 c text hc hdigit ih =>
      rw [List.cons_append, replaceMembers, if_neg hc, if_neg hdigit, ih, List.cons_append]

/-- **Accesses are replaced line by line.** -/
theorem replaceMembers_join (lines : List Text) :
    replaceMembers instanceName read (join ['\n'] lines)
      = join ['\n'] (lines.map (replaceMembers instanceName read)) := by
  induction lines with
  | nil => rw [join, replaceMembers]; rfl
  | cons line lines ih =>
      rcases eq_or_ne lines [] with rfl | hne
      · rfl
      · rw [join_cons hne, replaceMembers_lineFeed, ih, List.map_cons,
          join_cons (by simpa using hne)]

end Replacing

end GlBridge.Glsl
