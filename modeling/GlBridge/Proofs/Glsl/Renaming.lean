import GlBridge.Proofs.Glsl.Identifier
import GlBridge.Proofs.Glsl.Slicing

/-!
# Renaming in bytes

The textual passes over identifiers copy a source piece by piece: what stands between two names
that change is sliced out when the second one has been found.  Here these passes are written down
as they go over bytes, with every slice checked.

**Renaming.**  `renameUses?` looks at three slices for each name: what stands before it, for the
dot, the name itself, and what has not been copied yet.

**Members.**  `replaceMembers?` goes on after the name `instance` only if a dot follows, and it
copies when a member follows the dot.

* **`renameUses?_encode`**, **`replaceMembers?_encode`** — on the bytes of a text no slice fails,
  and the results are those on the text.
-/

namespace GlBridge.Glsl

open Text

/-! ## The passes -/

/-- The bytes from an offset on with names changed, before them what has not been copied yet. -/
def renameFrom? (rename : Text → Bool → Option Text) (bytes : Bytes) (copied offset : ℕ) :
    Text → Option Text
  | [] => bytes.slice? copied bytes.length
  | c :: rest =>
    if isWordStart c then do
      let stop := offset + 1 + (rest.takeWhile isWordChar).length
      let before ← bytes.slice? 0 offset
      let name ← bytes.slice? offset stop
      match rename name (endsIn '.' before) with
      | some new =>
        let kept ← bytes.slice? copied offset
        let later ← renameFrom? rename bytes stop stop (rest.dropWhile isWordChar)
        return kept ++ new ++ later
      | none => renameFrom? rename bytes copied stop (rest.dropWhile isWordChar)
    else if isDigit c then
      renameFrom? rename bytes copied (offset + 1 + (rest.takeWhile isNumberChar).length)
        (rest.dropWhile isNumberChar)
    else renameFrom? rename bytes copied (offset + 1) rest
termination_by text => text.length
decreasing_by
  · exact Nat.lt_succ_of_le (Lexeme.dropWhile_length_le _ _)
  · exact Nat.lt_succ_of_le (Lexeme.dropWhile_length_le _ _)
  · exact Nat.lt_succ_of_le (Lexeme.dropWhile_length_le _ _)
  · simp

/-- The text that bytes write, with every name renamed for which `rename` gives a new one. -/
def renameUses? (rename : Text → Bool → Option Text) (bytes : Bytes) : Option Text :=
  renameFrom? rename bytes 0 0 bytes.characters

/-- The bytes from an offset on with members replaced, before them what has not been copied yet. -/
def replaceFrom? (instanceName : Text) (replace : Text → Text) (bytes : Bytes)
    (copied offset : ℕ) : Text → Option Text
  | [] => bytes.slice? copied bytes.length
  | c :: rest =>
    if isWordStart c then do
      let stop := offset + 1 + (rest.takeWhile isWordChar).length
      let after := rest.dropWhile isWordChar
      let word ← bytes.slice? offset stop
      let member := (after.drop 1).takeWhile isWordChar
      if word = instanceName ∧ after.head? = some '.' ∧ member ≠ [] then
        let last := stop + 1 + member.length
        let kept ← bytes.slice? copied offset
        let name ← bytes.slice? (stop + 1) last
        let later ← replaceFrom? instanceName replace bytes last last
          ((after.drop 1).dropWhile isWordChar)
        return kept ++ replace name ++ later
      else replaceFrom? instanceName replace bytes copied stop after
    else if isDigit c then
      replaceFrom? instanceName replace bytes copied
        (offset + 1 + (rest.takeWhile isNumberChar).length) (rest.dropWhile isNumberChar)
    else replaceFrom? instanceName replace bytes copied (offset + 1) rest
termination_by text => text.length
decreasing_by
  · have h1 := Lexeme.dropWhile_length_le isWordChar ((rest.dropWhile isWordChar).drop 1)
    have h2 := Lexeme.dropWhile_length_le isWordChar rest
    simp only [List.length_drop, List.length_cons] at h1 ⊢
    omega
  · exact Nat.lt_succ_of_le (Lexeme.dropWhile_length_le _ _)
  · exact Nat.lt_succ_of_le (Lexeme.dropWhile_length_le _ _)
  · simp

/-- The text that bytes write, with every `instance.member` replaced. -/
def replaceMembers? (instanceName : Text) (replace : Text → Text) (bytes : Bytes) : Option Text :=
  replaceFrom? instanceName replace bytes 0 0 bytes.characters

/-! ## Copying behind a scan -/

/-- A scan of a source has come to a text, and what stands between two positions before it has not
been copied yet. -/
structure Pending (source : Text) (copied position : ℕ) (text : Text) : Prop where
  text_eq : source.drop position = text
  within : position ≤ source.length
  copied_le : copied ≤ position

namespace Pending

variable {source text run rest : Text} {copied position : ℕ} {c : Char}

/-- A scan starts with nothing copied. -/
lemma start (source : Text) : Pending source 0 0 source :=
  ⟨List.drop_zero, Nat.zero_le _, le_rfl⟩

/-- A run of characters is passed over. -/
lemma pass (h : Pending source copied position (run ++ rest)) :
    Pending source copied (position + run.length) rest where
  text_eq := drop_add h.text_eq
  within := by
    have hlength := congrArg List.length h.text_eq
    have hwithin := h.within
    rw [List.length_drop, List.length_append] at hlength
    omega
  copied_le := h.copied_le.trans (Nat.le_add_right _ _)

/-- All up to here is copied. -/
lemma copy (h : Pending source copied position text) : Pending source position position text :=
  ⟨h.text_eq, h.within, le_rfl⟩

lemma single (h : Pending source copied position (c :: rest)) :
    Pending source copied position ([c] ++ rest) := h

/-- Characters of a class come first, and then the others. -/
lemma split (h : Pending source copied position text) (keep : Char → Bool) :
    Pending source copied position (text.takeWhile keep ++ text.dropWhile keep) := by
  rwa [List.takeWhile_append_dropWhile]

/-- What starts with a character starts with a run. -/
lemma split_cons (h : Pending source copied position (c :: rest)) (keep : Char → Bool) :
    Pending source copied position ((c :: rest.takeWhile keep) ++ rest.dropWhile keep) := by
  rwa [List.cons_append, List.takeWhile_append_dropWhile]

/-- What is before a scan grows by what is passed over. -/
lemma take_eq (h : Pending source copied position (run ++ rest)) :
    source.take (position + run.length) = source.take position ++ run := by
  rw [List.take_add, h.text_eq, List.take_left]

/-- So does what has not been copied yet. -/
lemma slice_eq (h : Pending source copied position (run ++ rest)) :
    source.slice copied (position + run.length) = source.slice copied position ++ run :=
  Reading.slice_extend h.copied_le h.text_eq

/-! ### In bytes -/

/-- What has not been copied yet is a slice of the bytes. -/
lemma slice?_pending (h : Pending source copied position text) :
    (encode source).slice? (byteOffset source copied) (byteOffset source position)
      = some (source.slice copied position) :=
  slice?_encode source h.copied_le

/-- So it is at the end of the source. -/
lemma slice?_end (h : Pending source copied position []) :
    (encode source).slice? (byteOffset source copied) (encode source).length
      = some (source.slice copied position) := by
  have hend : position = source.length := le_antisymm h.within (List.drop_eq_nil_iff.1 h.text_eq)
  rw [← byteOffset_length, ← hend, h.slice?_pending]

/-- A run of characters is a slice of the bytes as well. -/
lemma slice?_run (h : Pending source copied position (run ++ rest)) :
    (encode source).slice? (byteOffset source position)
        (byteOffset source (position + run.length)) = some run := by
  rw [slice?_encode source (Nat.le_add_right _ _), Reading.slice_of_drop h.text_eq]

/-- The bytes of a run are passed over with it. -/
lemma byteOffset_eq (h : Pending source copied position (run ++ rest)) :
    byteOffset source (position + run.length)
      = byteOffset source position + (bytewise run).length := by
  rw [length_bytewise, byteOffset_of_drop h.text_eq]

/-- A run ends at the same place in the bytes. -/
lemma byteOffset_run {keep : Char → Bool} (h : Pending source copied position (c :: rest))
    (hkeep : Blunt keep) (hc : isAscii c = true) :
    byteOffset source position + 1 + ((bytewise rest).takeWhile keep).length
      = byteOffset source (position + (c :: rest.takeWhile keep).length) := by
  rw [(h.split_cons keep).byteOffset_eq, bytewise_ascii hc, takeWhile_bytewise hkeep, List.length_cons,
    Nat.add_assoc, Nat.add_comm 1]

end Pending

/-! ## Runs of characters -/

section Runs

variable {before text : Text} {c k : Char}

lemma isAscii_of_isDigit (h : isDigit c = true) : isAscii c = true :=
  isAscii_of_isWordChar (by rw [isWordChar, h, Bool.or_true])

lemma isAscii_of_isWordStart (h : isWordStart c = true) : isAscii c = true :=
  isAscii_of_isWordChar (by rw [isWordChar, h, Bool.true_or])

/-- No name and no number starts with a character outside ASCII. -/
lemma not_starts_of_not_isAscii (hc : isAscii c = false) :
    ¬ isWordStart c = true ∧ ¬ isDigit c = true :=
  ⟨fun h => by simp [isAscii_of_isWordStart h] at hc, fun h => by simp [isAscii_of_isDigit h] at hc⟩

/-- A number goes on with letters, digits and points. -/
lemma isNumberChar_iff : isNumberChar c = true ↔ isWordChar c = true ∨ c = '.' := by
  rw [isNumberChar, Bool.or_eq_true, beq_iff_eq]

/-- No character outside ASCII goes on with a number. -/
lemma blunt_isNumberChar : Blunt isNumberChar := blunt_of_isAscii fun c h => by
  rcases isNumberChar_iff.1 h with h | rfl
  · exact isAscii_of_isWordChar h
  · decide

lemma isBlank_of_isNumberChar (h : isNumberChar c = true) : isBlank c = false := by
  rcases isNumberChar_iff.1 h with h | rfl
  · exact isBlank_of_isWordChar h
  · decide

/-- A text ends in the last character of the run at its end, if no blank is in the run. -/
lemma endsIn_run (hrun : ∀ d ∈ c :: text, isBlank d = false) :
    endsIn k (before ++ c :: text) = ((c :: text).getLast? == some k) := by
  have hreverse : (c :: text).reverse.dropWhile isBlank = (c :: text).reverse := by
    obtain ⟨d, rest, hcons⟩ : ∃ d rest, (c :: text).reverse = d :: rest :=
      List.exists_cons_of_ne_nil (by simp)
    have hd : d ∈ c :: text := List.mem_reverse.1 (hcons ▸ List.mem_cons_self)
    rw [hcons, List.dropWhile_cons_of_neg (by rw [hrun d hd]; exact Bool.false_ne_true)]
  rw [Reading.endsIn_append, hreverse, if_neg (by simp), Reading.endsIn_eq_find, hreverse,
    List.head?_reverse]

/-- No dot stands before what follows a name. -/
lemma endsIn_name (hc : isWordStart c = true) :
    endsIn '.' (before ++ c :: text.takeWhile isWordChar) = false := by
  have hall : ∀ d ∈ c :: text.takeWhile isWordChar, isWordChar d = true :=
    List.forall_mem_cons.2
      ⟨by rw [isWordChar, hc, Bool.true_or], fun d hd => List.mem_takeWhile_imp hd⟩
  rw [endsIn_run fun d hd => isBlank_of_isWordChar (hall d hd), beq_eq_false_iff_ne]
  intro hlast
  exact absurd (hall '.' (List.mem_of_getLast? hlast)) (by decide)

/-- Whether there is a point before a word is asked of the number itself. -/
lemma endsIn_number (hc : isDigit c = true) :
    endsIn '.' (before ++ c :: text.takeWhile isNumberChar)
      = ((c :: text.takeWhile isNumberChar).getLast? == some '.') := by
  have hall : ∀ d ∈ c :: text.takeWhile isNumberChar, isNumberChar d = true :=
    List.forall_mem_cons.2
      ⟨isNumberChar_iff.2 (.inl (by rw [isWordChar, hc, Bool.or_true])),
        fun d hd => List.mem_takeWhile_imp hd⟩
  exact endsIn_run fun d hd => isBlank_of_isNumberChar (hall d hd)

/-- After a character, there is a point before a word if it is one, or if blanks followed one. -/
lemma endsIn_character (c : Char) :
    endsIn '.' (before ++ [c]) = Lexeme.dotAfter (endsIn '.' before) c := by
  rw [Lexeme.dotAfter]
  split_ifs with hblank
  · rw [Reading.endsIn_append, if_pos (by simp [hblank])]
  · rw [endsIn_run (by simpa using hblank)]
    rfl

/-- A scan that passes over single characters where no name and no number starts passes over them
in bytes. -/
lemma Pending.pass_other {α : Type} {source : Text} {copied position : ℕ} {f : ℕ → Text → α}
    (hf : ∀ offset d rest, ¬ isWordStart d = true → ¬ isDigit d = true →
      f offset (d :: rest) = f (offset + 1) rest)
    (h : Pending source copied position (c :: text)) (hword : ¬ isWordStart c = true)
    (hdigit : ¬ isDigit c = true) :
    f (byteOffset source position) (bytewise (c :: text))
      = f (byteOffset source (position + [c].length)) (bytewise text) := by
  have hrun : ∀ (ds : Text) (offset : ℕ), (∀ d ∈ ds, ¬ isWordStart d = true ∧ ¬ isDigit d = true) →
      f offset (ds ++ bytewise text) = f (offset + ds.length) (bytewise text) := by
    intro ds
    induction ds with
    | nil => exact fun _ _ => rfl
    | cons d ds ih =>
        intro offset hds
        rw [List.forall_mem_cons] at hds
        rw [List.cons_append, hf _ _ _ hds.1.1 hds.1.2, ih _ hds.2, List.length_cons,
          Nat.add_right_comm, Nat.add_assoc]
  rw [h.single.byteOffset_eq, bytewise_cons]
  refine hrun _ _ fun d hd => ?_
  cases hascii : isAscii c with
  | true =>
      rw [bytewise_ascii hascii, bytewise_nil, List.mem_singleton] at hd
      rw [hd]
      exact ⟨hword, hdigit⟩
  | false => exact not_starts_of_not_isAscii (isAscii_of_mem_bytewise hascii hd)

end Runs

/-! ## Renaming -/

/-- The text of a lexeme once it is renamed, as an identifier that may stand after a dot. -/
def Lexeme.renamedUse (rename : Text → Bool → Option Text) : Lexeme → Text
  | .word name afterDot => (rename name afterDot).getD name
  | lexeme => lexeme.text

section Renaming

variable {source text : Text} {c : Char} {copied position : ℕ} {afterDot : Bool}
  {rename : Text → Bool → Option Text}

/-- Characters that start neither a word nor a number are passed over. -/
lemma renameFrom?_cons (bytes : Bytes) (offset : ℕ) (hword : ¬ isWordStart c = true)
    (hdigit : ¬ isDigit c = true) :
    renameFrom? rename bytes copied offset (c :: text)
      = renameFrom? rename bytes copied (offset + 1) text := by
  rw [renameFrom?, if_neg hword, if_neg hdigit]

/-- From anywhere on, the bytes are copied as the text is. -/
lemma renameFrom?_encode (h : Pending source copied position text)
    (hdot : afterDot = endsIn '.' (source.take position)) :
    renameFrom? rename (encode source) (byteOffset source copied) (byteOffset source position)
        (bytewise text)
      = some (source.slice copied position
          ++ (Lexeme.scanFrom afterDot text).flatMap (Lexeme.renamedUse rename)) := by
  fun_induction Lexeme.scanFrom afterDot text generalizing copied position with
  | case1 => rw [bytewise_nil, renameFrom?, h.slice?_end, List.flatMap_nil, List.append_nil]
  | case2 afterDot c rest hc ih =>
      have hrun := h.split_cons isWordChar
      have hbefore : (encode source).slice? 0 (byteOffset source position)
          = some (source.take position) := slice?_encode source (Nat.zero_le position)
      have hnext := (congrArg (endsIn '.') hrun.take_eq).trans (endsIn_name hc)
      rw [bytewise_ascii (isAscii_of_isWordStart hc), renameFrom?, if_pos hc]
      simp only [h.byteOffset_run blunt_isWordChar (isAscii_of_isWordStart hc), hbefore,
        hrun.slice?_run, ← hdot, dropWhile_bytewise blunt_isWordChar, Option.bind_eq_bind,
        Option.bind_some, List.flatMap_cons, Lexeme.renamedUse]
      cases hnew : rename (c :: rest.takeWhile isWordChar) afterDot with
      | some new =>
          rw [h.slice?_pending, ih hrun.pass.copy hnext.symm]
          simp
      | none =>
          rw [ih hrun.pass hnext.symm, hrun.slice_eq, List.append_assoc]
          rfl
  | case3 afterDot c rest hc hdigit digits =>
      rename_i ih
      have hrun := h.split_cons isNumberChar
      have hnext := (congrArg (endsIn '.') hrun.take_eq).trans (endsIn_number hdigit)
      rw [bytewise_ascii (isAscii_of_isDigit hdigit), renameFrom?, if_neg hc, if_pos hdigit,
        h.byteOffset_run blunt_isNumberChar (isAscii_of_isDigit hdigit),
        dropWhile_bytewise blunt_isNumberChar, ih hrun.pass hnext.symm, hrun.slice_eq,
        List.append_assoc]
      rfl
  | case4 afterDot c rest hc hdigit ih =>
      have hrun := h.single
      have hnext := (congrArg (endsIn '.') hrun.take_eq).trans (endsIn_character c)
      rw [← hdot] at hnext
      rw [h.pass_other (fun offset _ _ => renameFrom?_cons _ offset) hc hdigit,
        ih hrun.pass hnext.symm, hrun.slice_eq, List.append_assoc]
      rfl

/-- **Renaming the bytes is renaming the text.** -/
theorem renameUses?_encode (rename : Text → Bool → Option Text) (source : Text) :
    renameUses? rename (encode source) = some (renameUses rename source) := by
  have hdot : false = endsIn '.' (source.take 0) := rfl
  have hrename : renameFrom? rename _ _ _ _ = _ := renameFrom?_encode (Pending.start source) hdot
  rw [slice_self, List.nil_append] at hrename
  exact hrename

end Renaming

/-! ## Members -/

section Members

variable {source text : Text} {c : Char} {copied position : ℕ} {instanceName : Text}
  {replace : Text → Text}

/-- They are passed over here, too. -/
lemma replaceFrom?_cons (bytes : Bytes) (offset : ℕ) (hword : ¬ isWordStart c = true)
    (hdigit : ¬ isDigit c = true) :
    replaceFrom? instanceName replace bytes copied offset (c :: text)
      = replaceFrom? instanceName replace bytes copied (offset + 1) text := by
  rw [replaceFrom?, if_neg hword, if_neg hdigit]

/-- A name is passed over if it is another one, or if no dot and member follow. -/
lemma replaceFrom?_pass_name (h : Pending source copied position (c :: text))
    (hword : isWordStart c = true) (haccess : ∀ tail, text.dropWhile isWordChar = '.' :: tail →
      ¬ (c :: text.takeWhile isWordChar = instanceName ∧ tail.takeWhile isWordChar ≠ []))
    (kept : ℕ) :
    replaceFrom? instanceName replace (encode source) kept (byteOffset source position)
        (bytewise (c :: text))
      = replaceFrom? instanceName replace (encode source) kept
        (byteOffset source (position + (c :: text.takeWhile isWordChar).length))
        (bytewise (text.dropWhile isWordChar)) := by
  rw [bytewise_ascii (isAscii_of_isWordStart hword), replaceFrom?, if_pos hword]
  simp only [h.byteOffset_run blunt_isWordChar (isAscii_of_isWordStart hword),
    (h.split_cons isWordChar).slice?_run, dropWhile_bytewise blunt_isWordChar, Option.bind_eq_bind,
    Option.bind_some]
  rw [if_neg]
  rintro ⟨hinstance, hdot, hmember⟩
  obtain ⟨tail, htail⟩ := List.head?_eq_some_iff.1 ((head?_bytewise (by decide)).1 hdot)
  rw [htail, bytewise_ascii (by decide), List.drop_one, List.tail_cons,
    takeWhile_bytewise blunt_isWordChar] at hmember
  exact haccess tail htail ⟨hinstance, fun hnil => hmember (bytewise_eq_nil.2 hnil)⟩

/-- From anywhere on, the bytes are copied as the text is. -/
lemma replaceFrom?_encode (h : Pending source copied position text) :
    replaceFrom? instanceName replace (encode source) (byteOffset source copied)
        (byteOffset source position) (bytewise text)
      = some (source.slice copied position ++ replaceMembers instanceName replace text) := by
  fun_induction replaceMembers instanceName replace text generalizing copied position with
  | case1 => rw [bytewise_nil, replaceFrom?, h.slice?_end, List.append_nil]
  | case2 c rest hword name tail htail member =>
      rename_i haccess ih
      have hname := htail ▸ h.split_cons isWordChar
      have hdot := hname.pass
      have hmember := hdot.single.pass.split isWordChar
      have hopen : byteOffset source (_ + ['.'].length) = _ + 1 := hdot.single.byteOffset_eq
      have hafter : bytewise ('.' :: tail) = '.' :: bytewise tail := bytewise_ascii (by decide) tail
      have htaken := takeWhile_bytewise blunt_isWordChar tail
      have hne : bytewise member ≠ [] := fun hnil => haccess.2 (bytewise_eq_nil.1 hnil)
      rw [bytewise_ascii (isAscii_of_isWordStart hword), replaceFrom?, if_pos hword]
      simp only [h.byteOffset_run blunt_isWordChar (isAscii_of_isWordStart hword),
        (h.split_cons isWordChar).slice?_run, dropWhile_bytewise blunt_isWordChar, htail, hafter,
        htaken, List.drop_one, List.tail_cons, ← hopen, ← hmember.byteOffset_eq,
        Option.bind_eq_bind, Option.bind_some]
      rw [if_pos ⟨haccess.1, rfl, hne⟩, h.slice?_pending, hmember.slice?_run,
        ih hmember.pass.copy]
      simp [member]
  | case3 c rest hword name tail htail member =>
      rename_i haccess ih
      have hname := htail ▸ h.split_cons isWordChar
      have hdot := hname.pass
      have hpass (other : Text) (hother : rest.dropWhile isWordChar = '.' :: other) :
          ¬ (name = instanceName ∧ other.takeWhile isWordChar ≠ []) := by
        obtain rfl : tail = other := by simpa [htail] using hother
        exact haccess
      rw [replaceFrom?_pass_name h hword hpass, htail,
        hdot.pass_other (fun offset _ _ => replaceFrom?_cons _ offset) (by decide) (by decide),
        ih hdot.single.pass, hdot.single.slice_eq, hname.slice_eq]
      simp [name]
  | case4 c rest hword name hdot =>
      rename_i ih
      have hrun := h.split_cons isWordChar
      rw [replaceFrom?_pass_name h hword fun tail htail => absurd htail (hdot tail),
        ih hrun.pass, hrun.slice_eq, List.append_assoc]
  | case5 c rest hword hdigit ih =>
      have hrun := h.split_cons isNumberChar
      rw [bytewise_ascii (isAscii_of_isDigit hdigit), replaceFrom?, if_neg hword, if_pos hdigit,
        h.byteOffset_run blunt_isNumberChar (isAscii_of_isDigit hdigit),
        dropWhile_bytewise blunt_isNumberChar, ih hrun.pass, hrun.slice_eq, List.append_assoc]
  | case6 c rest hword hdigit ih =>
      have hrun := h.single
      rw [h.pass_other (fun offset _ _ => replaceFrom?_cons _ offset) hword hdigit, ih hrun.pass,
        hrun.slice_eq, List.append_assoc]
      rfl

/-- **Replacing members in the bytes is replacing them in the text.** -/
theorem replaceMembers?_encode (instanceName : Text) (replace : Text → Text) (source : Text) :
    replaceMembers? instanceName replace (encode source)
      = some (replaceMembers instanceName replace source) := by
  have hreplace : replaceFrom? instanceName replace _ _ _ _ = _ :=
    replaceFrom?_encode (Pending.start source)
  rw [slice_self, List.nil_append] at hreplace
  exact hreplace

end Members

end GlBridge.Glsl
