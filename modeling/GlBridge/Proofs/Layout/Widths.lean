import GlBridge.Proofs.Layout.Grouping
import GlBridge.Proofs.Layout.Placement

/-!
# Slots of arrays

A variable takes as many slots as its type has columns, times all its array lengths.  Lengths may be
written on the type, where they hold for all declarators, and on the name, and there may be several.

**What is written.**  An `ArrayList` is what may follow a type: array brackets that belong to the
type, and declarators with array brackets of their own.  `ArrayList.slots` is what one of them
takes.

**What is read.**  Declarators are the groups between commas (`groups_intercalate`), and of each
group the first word is the name and a length is read only directly after it.  Hence three ways for
the slots to be wrong: brackets on the type hide the first name, lengths beyond the first one after
a name are passed over, and a number that is not a plain decimal one counts as 1.

* `declarators_of_words` — what is read of a list that is written after a type;
* `locationSlots_eq_columns_iff` — which types have the slots of their columns;
* `slotsOf_eq_slots_iff` — when name and slots of a declarator are the declared ones.
-/

namespace GlBridge.Layout

open Text Glsl

/-! ## Lengths and columns -/

/-- The value of a digit of any base up to 16, and 16 for what is none. -/
def digit (c : Char) : ℕ :=
  if '0' ≤ c ∧ c ≤ '9' then c.toNat - '0'.toNat
  else if 'a' ≤ c ∧ c ≤ 'f' then c.toNat - 'a'.toNat + 10
  else if 'A' ≤ c ∧ c ≤ 'F' then c.toNat - 'A'.toNat + 10
  else 16

/-- The number that a nonempty list of digits of a base writes. -/
def numeral? (base : ℕ) (digits : Text) : Option ℕ :=
  if digits ≠ [] ∧ digits.all (digit · < base) then
    some (digits.foldl (fun value c => base * value + digit c) 0)
  else none

/-- The value of an integer literal: a decimal number, an octal one with a leading zero or a
hexadecimal one with a leading `0x`, each of them with or without the suffix `u`. -/
def literalValue? (text : Text) : Option ℕ :=
  let digits := if text.getLast? = some 'u' ∨ text.getLast? = some 'U' then text.dropLast else text
  match digits with
  | '0' :: 'x' :: rest => numeral? 16 rest
  | '0' :: 'X' :: rest => numeral? 16 rest
  | '0' :: _ => numeral? 8 digits
  | _ => numeral? 10 digits

example : literalValue? "0x1Fu".toList = some 31 := by decide +kernel
example : literalValue? "017".toList = some 15 := by decide +kernel
example : literalValue? "08".toList = none := by decide +kernel

/-- The matrix types with a number of columns. -/
def matrixTypes (columns : ℕ) : List Text :=
  ["mat".toList, "dmat".toList].flatMap fun kind =>
    [[], "x2".toList, "x3".toList, "x4".toList].map fun rows => kind ++ Text.ofNat columns ++ rows

/-- The number of columns of a type. -/
def columns (typeName : Text) : ℕ :=
  ([2, 3, 4].find? fun n => (matrixTypes n).contains typeName).getD 1

example : columns "dmat3x2".toList = 3 ∧ columns "mat5".toList = 1 := by decide +kernel

/-- Every type has a column. -/
lemma columns_pos (typeName : Text) : 0 < columns typeName := by
  rw [columns]
  cases hfound : [2, 3, 4].find? fun n => (matrixTypes n).contains typeName with
  | none => exact Nat.one_pos
  | some n =>
      have hn : n ∈ [2, 3, 4] := List.mem_of_find?_eq_some hfound
      have hpos : ∀ n ∈ [2, 3, 4], 0 < n := by decide
      exact hpos n hn

/-- A type has the slots of its columns if it is a matrix type, or if it is not taken for one. -/
theorem locationSlots_eq_columns_iff (typeName : Text) :
    locationSlots typeName = columns typeName ↔
      (∃ n ∈ [2, 3, 4], typeName ∈ matrixTypes n) ∨ locationSlots typeName = 1 := by
  have hmatrix : ∀ n ∈ [2, 3, 4], ∀ name ∈ matrixTypes n, locationSlots name = n := by
    decide +kernel
  rw [columns]
  cases hfound : [2, 3, 4].find? fun n => (matrixTypes n).contains typeName with
  | none =>
      rw [List.find?_eq_none] at hfound
      have hnone : ¬ ∃ n ∈ [2, 3, 4], typeName ∈ matrixTypes n := fun ⟨n, hn, hmem⟩ =>
        hfound n hn (List.contains_iff_mem.2 hmem)
      rw [or_iff_right hnone]
      rfl
  | some n =>
      have hn : n ∈ [2, 3, 4] := List.mem_of_find?_eq_some hfound
      have hmem : typeName ∈ matrixTypes n := List.contains_iff_mem.1 (List.find?_some hfound :)
      exact iff_of_true (hmatrix n hn typeName hmem) (Or.inl ⟨n, hn, hmem⟩)

/-! ## What is written after a type -/

/-- The words of array brackets with the given lengths. -/
def brackets (lengths : List Text) : List Text :=
  lengths.flatMap fun length => ["[".toList, length, "]".toList]

/-- The number of values in an array of the given lengths. -/
def extent (lengths : List Text) : ℕ :=
  (lengths.map fun length => (literalValue? length).getD 1).prod

/-- A name with array brackets after it. -/
structure ArrayVariable where
  name : Text
  lengths : List Text
deriving DecidableEq, Repr

/-- The words of a variable. -/
def ArrayVariable.words (x : ArrayVariable) : List Text := x.name :: brackets x.lengths

/-- What follows a type: array brackets that belong to the type, and variables. -/
structure ArrayList where
  typeLengths : List Text
  declared : List ArrayVariable
deriving DecidableEq, Repr

namespace ArrayList

/-- The words of a list, with commas between the variables. -/
def words (list : ArrayList) : List Text :=
  brackets list.typeLengths
    ++ [",".toList].intercalate (list.declared.map ArrayVariable.words)

/-- There are variables, they have names, and all lengths are literals. -/
def Legal (list : ArrayList) : Prop :=
  list.declared ≠ [] ∧ (∀ length ∈ list.typeLengths, (literalValue? length).isSome) ∧
    ∀ x ∈ list.declared, isIdentifier x.name ∧ ∀ length ∈ x.lengths, (literalValue? length).isSome

instance (list : ArrayList) : Decidable list.Legal := inferInstanceAs (Decidable (_ ∧ _ ∧ _))

/-- The slots that a variable of the list takes if the type in front of it is the given one. -/
def slots (list : ArrayList) (typeName : Text) (x : ArrayVariable) : ℕ :=
  columns typeName * (extent list.typeLengths * extent x.lengths)

end ArrayList

/-! ## Groups between commas -/

/-- The signs that declarators are cut at. -/
def signs : List Text := ["(".toList, ")".toList, "[".toList, "]".toList, ",".toList]

section Groups

variable {tokens : List Token} {token : Token} {length name : Text} {lengths : List Text}

/-- A number is no sign. -/
lemma not_mem_signs_of_literal (h : (literalValue? length).isSome) : length ∉ signs := by
  have hnone : ∀ sign ∈ signs, literalValue? sign = none := by decide +kernel
  intro hmem
  rw [hnone _ hmem] at h
  exact absurd h (by simp)

/-- A name is no sign. -/
lemma not_mem_signs_of_identifier (h : isIdentifier name) : name ∉ signs := by
  have hnone : ∀ sign ∈ signs, isIdentifier sign = false := by decide +kernel
  intro hmem
  rw [hnone _ hmem] at h
  exact absurd h (by simp)

/-- What is no sign neither nests nor cuts. -/
lemma level_of_not_mem_signs (h : token.text ∉ signs) :
    Declarator.nestingStep token = 0 ∧ token.is "," = false ∧ token.is "[" = false := by
  simp only [signs, List.mem_cons, List.not_mem_nil, or_false, not_or] at h
  obtain ⟨hopen, hclose, hopening, hclosing, hcomma⟩ := h
  simp only [Declarator.nestingStep, Token.is, beq_eq_false_iff_ne.2 hopen,
    beq_eq_false_iff_ne.2 hclose, beq_eq_false_iff_ne.2 hopening, beq_eq_false_iff_ne.2 hclosing,
    beq_eq_false_iff_ne.2 hcomma]
  decide

/-- Words that are one group by themselves. -/
def Level (words : List Text) : Prop :=
  ∀ tokens : List Token, tokens.map Token.text = words → Uncut 0 tokens ∧ nestingAfter 0 tokens = 0

/-- Tokens without a comma outside all brackets are so in both parts. -/
lemma uncut_append {nesting : ℤ} {first rest : List Token} :
    Uncut nesting (first ++ rest)
      ↔ Uncut nesting first ∧ Uncut (nestingAfter nesting first) rest := by
  induction first generalizing nesting with
  | nil => simp [Uncut, nestingAfter]
  | cons token first ih => rw [List.cons_append, Uncut, Uncut, ih, nestingAfter_cons, and_assoc]

/-- Brackets of two parts nest one after the other. -/
lemma nestingAfter_append {nesting : ℤ} {first rest : List Token} :
    nestingAfter nesting (first ++ rest) = nestingAfter (nestingAfter nesting first) rest := by
  simp only [nestingAfter, List.map_append, List.sum_append, add_assoc]

/-- Two parts with matched brackets make a whole with matched brackets. -/
lemma Level.append {first rest : List Text} (hfirst : Level first) (hrest : Level rest) :
    Level (first ++ rest) := by
  intro tokens htokens
  obtain ⟨left, right, rfl, hleft, hright⟩ := List.map_eq_append_iff.1 htokens
  obtain ⟨huncut, hzero⟩ := hfirst left hleft
  rw [uncut_append, nestingAfter_append, hzero]
  exact ⟨⟨huncut, (hrest right hright).1⟩, (hrest right hright).2⟩

/-- A word that is no sign nests nothing. -/
lemma level_word (h : name ∉ signs) : Level [name] := by
  intro tokens htokens
  obtain ⟨token, rest, rfl, rfl, hrest⟩ := List.map_eq_cons_iff.1 htokens
  obtain rfl := List.map_eq_nil_iff.1 hrest
  obtain ⟨hstep, hcomma, _⟩ := level_of_not_mem_signs h
  simp [Uncut, nestingAfter, hstep, hcomma]

/-- Brackets nest what is in them, and nothing after them. -/
lemma level_brackets (h : ∀ length ∈ lengths, (literalValue? length).isSome) :
    Level (brackets lengths) := by
  induction lengths with
  | nil =>
      intro tokens htokens
      obtain rfl := List.map_eq_nil_iff.1 htokens
      exact ⟨trivial, rfl⟩
  | cons length lengths ih =>
      refine Level.append ?_ (ih fun other hother => h other (List.mem_cons_of_mem _ hother))
      intro tokens htokens
      obtain ⟨opening, _, rfl, hopening, htokens⟩ := List.map_eq_cons_iff.1 htokens
      obtain ⟨number, _, rfl, hnumber, htokens⟩ := List.map_eq_cons_iff.1 htokens
      obtain ⟨closing, _, rfl, hclosing, htokens⟩ := List.map_eq_cons_iff.1 htokens
      obtain rfl := List.map_eq_nil_iff.1 htokens
      have hin : Declarator.nestingStep opening = 1 := by
        simp only [Declarator.nestingStep, Token.is, hopening]
        decide
      have hout : Declarator.nestingStep closing = -1 ∧ closing.is "," = false := by
        simp only [Declarator.nestingStep, Token.is, hclosing]
        decide
      obtain ⟨hlevel, _⟩ := level_of_not_mem_signs
        (hnumber ▸ not_mem_signs_of_literal (h length List.mem_cons_self))
      simp [Uncut, nestingAfter, hin, hlevel, hout]

/-- The brackets of a variable match. -/
lemma ArrayVariable.level_words {x : ArrayVariable} (hname : isIdentifier x.name)
    (hlengths : ∀ length ∈ x.lengths, (literalValue? length).isSome) : Level x.words :=
  Level.append (level_word (not_mem_signs_of_identifier hname)) (level_brackets hlengths)

/-- **Between commas stands one group each.** -/
theorem groups_intercalate {parts : List (List Text)} (hne : parts ≠ [])
    (hlevel : ∀ part ∈ parts, Level part)
    (htokens : tokens.map Token.text = [",".toList].intercalate parts) :
    (Declarator.groups 0 [] tokens).map (·.map Token.text) = parts := by
  induction parts generalizing tokens with
  | nil => exact absurd rfl hne
  | cons part parts ih =>
      have hpart := hlevel part List.mem_cons_self
      cases parts with
      | nil =>
          rw [List.intercalate_singleton] at htokens
          rw [groups_uncut (hpart tokens htokens).1]
          simp [htokens]
      | cons next parts =>
          rw [List.intercalate_cons_cons, List.append_assoc] at htokens
          obtain ⟨first, after, rfl, hfirst, hafter⟩ := List.map_eq_append_iff.1 htokens
          obtain ⟨comma, rest, rfl, hcomma, hrest⟩ := List.map_eq_cons_iff.1 hafter
          obtain ⟨huncut, hzero⟩ := hpart first hfirst
          rw [groups_comma huncut hzero (beq_iff_eq.2 hcomma), List.map_cons, List.reverse_nil,
            List.nil_append, hfirst,
            ih (List.cons_ne_nil _ _)
              (fun other hother => hlevel other (List.mem_cons_of_mem _ hother)) hrest]

end Groups

/-! ## What is read -/

/-- The length that is read of those after a name. -/
def lengthRead : List Text → ℕ
  | [] => 1
  | length :: _ => (word32? length).getD 1

/-- The name and the length that are read of a group of words. -/
def readWords? : List Text → Option (Text × ℕ)
  | [] => none
  | name :: opening :: length :: closing :: _ =>
    some (name, if opening = "[".toList ∧ closing = "]".toList then (word32? length).getD 1 else 1)
  | name :: _ => some (name, 1)

/-- What is read of a group depends on its words only. -/
lemma map_ofGroup? (group : List Token) :
    (Declarator.ofGroup? group).map (fun x => (x.name, x.arrayLength))
      = readWords? (group.map Token.text) := by
  match group with
  | [] => rfl
  | [_] => rfl
  | [_, _] => rfl
  | [_, _, _] => rfl
  | name :: opening :: length :: closing :: rest =>
      simp only [Declarator.ofGroup?, Declarator.lengthIn, Option.map_some, List.map_cons,
        readWords?, Token.is, Bool.and_eq_true, beq_iff_eq]

/-- A variable is read as its name with its first length only. -/
lemma readWords?_words (x : ArrayVariable) :
    readWords? x.words = some (x.name, lengthRead x.lengths) := by
  obtain ⟨name, lengths⟩ := x
  cases lengths with
  | nil => rfl
  | cons length lengths =>
      show some (name, if _ then _ else _) = _
      rw [if_pos ⟨rfl, rfl⟩]
      rfl

/-- Brackets in front of a name are read as a name of their own. -/
lemma readWords?_brackets {length : Text} {lengths words : List Text}
    (h : (literalValue? length).isSome) (hwords : words ≠ []) :
    readWords? (brackets (length :: lengths) ++ words) = some ("[".toList, 1) := by
  obtain ⟨next, rest, hnext⟩ := List.exists_cons_of_ne_nil
    (List.append_ne_nil_of_right_ne_nil (brackets lengths) hwords)
  have hcut : brackets (length :: lengths) ++ words
      = "[".toList :: length :: "]".toList :: next :: rest := by
    rw [← hnext]
    simp [brackets]
  have hopening : length ≠ "[".toList := fun hlength =>
    not_mem_signs_of_literal h (hlength ▸ by decide)
  rw [hcut, readWords?, if_neg fun hboth => hopening hboth.1]

namespace ArrayList

variable {list : ArrayList}

/-- What is read of the variables of a list: brackets on the type take the place of the first. -/
def read (list : ArrayList) : List (Text × ℕ) :=
  match list.declared with
  | [] => []
  | first :: others =>
    (if list.typeLengths = [] then (first.name, lengthRead first.lengths) else ("[".toList, 1))
      :: others.map fun x => (x.name, lengthRead x.lengths)

/-- The words of the groups that a list is cut into. -/
def parts (list : ArrayList) : List (List Text) :=
  match list.declared with
  | [] => []
  | first :: others =>
    (brackets list.typeLengths ++ first.words) :: others.map ArrayVariable.words

/-- What is written after a type has commas between its parts. -/
lemma words_eq (h : list.Legal) : list.words = [",".toList].intercalate list.parts := by
  obtain ⟨typeLengths, declared⟩ := list
  cases declared with
  | nil => exact absurd rfl h.1
  | cons first others =>
      cases others with
      | nil => simp [words, parts]
      | cons next others => simp [words, parts, List.intercalate_cons_cons]

/-- Each part has matched brackets. -/
lemma level_parts (h : list.Legal) : ∀ part ∈ list.parts, Level part := by
  obtain ⟨typeLengths, declared⟩ := list
  obtain ⟨_, htype, hdeclared⟩ := h
  have hwords : ∀ x ∈ declared, Level x.words := fun x hx =>
    x.level_words (hdeclared x hx).1 (hdeclared x hx).2
  cases declared with
  | nil => simp [parts]
  | cons first others =>
      intro part hpart
      rw [parts, List.mem_cons, List.mem_map] at hpart
      rcases hpart with rfl | ⟨x, hx, rfl⟩
      · exact Level.append (level_brackets htype) (hwords first List.mem_cons_self)
      · exact hwords x (List.mem_cons_of_mem _ hx)

/-- There is a part, since there is a variable. -/
lemma parts_ne_nil (h : list.Legal) : list.parts ≠ [] := by
  obtain ⟨typeLengths, declared⟩ := list
  cases declared with
  | nil => exact absurd rfl h.1
  | cons first others => exact List.cons_ne_nil _ _

/-- Each part is read by itself. -/
lemma filterMap_parts (h : list.Legal) : list.parts.filterMap readWords? = list.read := by
  obtain ⟨typeLengths, declared⟩ := list
  have hothers (others : List ArrayVariable) :
      (others.map ArrayVariable.words).filterMap readWords?
        = others.map fun x => (x.name, lengthRead x.lengths) := by
    rw [List.filterMap_map, ← List.filterMap_eq_map]
    exact List.filterMap_congr fun x _ => readWords?_words x
  cases declared with
  | nil => rfl
  | cons first others =>
      cases typeLengths with
      | nil =>
          show (first.words :: others.map ArrayVariable.words).filterMap readWords?
            = (first.name, lengthRead first.lengths) :: others.map _
          rw [← hothers]
          exact List.filterMap_cons_some (readWords?_words first)
      | cons length lengths =>
          show ((brackets (length :: lengths) ++ first.words)
              :: others.map ArrayVariable.words).filterMap readWords?
            = ("[".toList, 1) :: others.map _
          rw [← hothers]
          exact List.filterMap_cons_some
            (readWords?_brackets (h.2.1 length List.mem_cons_self) (List.cons_ne_nil _ _))

end ArrayList

variable {d : InterfaceDeclaration} {list : ArrayList}

/-- **What is read of a list that is written after a type.** -/
theorem declarators_of_words (hlegal : list.Legal)
    (hwords : d.afterType.map Token.text = list.words) :
    d.declarators.map (fun x => (x.name, x.arrayLength)) = list.read := by
  rw [ArrayList.words_eq hlegal] at hwords
  have hgroups := groups_intercalate (ArrayList.parts_ne_nil hlegal)
    (ArrayList.level_parts hlegal) hwords
  calc d.declarators.map (fun x => (x.name, x.arrayLength))
      = (Declarator.groups 0 [] d.afterType).filterMap fun group =>
          readWords? (group.map Token.text) := by
        rw [← funext map_ofGroup?]
        exact List.map_filterMap
    _ = list.parts.filterMap readWords? := by rw [← hgroups, List.filterMap_map]; rfl
    _ = list.read := ArrayList.filterMap_parts hlegal

/-- As many variables are read as are declared. -/
lemma ArrayList.length_read (list : ArrayList) : list.read.length = list.declared.length := by
  obtain ⟨typeLengths, declared⟩ := list
  cases declared with
  | nil => rfl
  | cons first others => simp [ArrayList.read]

/-- With brackets on the type, the first variable is read as a bracket. -/
lemma read_getElem? {i : ℕ} {v : ArrayVariable} (hv : list.declared[i]? = some v) :
    list.read[i]? = some
      (if i = 0 ∧ list.typeLengths ≠ [] then ("[".toList, 1)
        else (v.name, lengthRead v.lengths)) := by
  obtain ⟨typeLengths, declared⟩ := list
  cases declared with
  | nil => exact absurd hv (by simp)
  | cons first others =>
      cases i with
      | zero =>
          obtain rfl := Option.some.inj hv
          by_cases htype : typeLengths = []
          · simp [ArrayList.read, htype]
          · simp [ArrayList.read, htype]
      | succ i =>
          have hothers : others[i]? = some v := hv
          simp [ArrayList.read, hothers]

/-! ## The result -/

/-- Number literals that are read with their value, which is not 0. -/
def PlainLengths (lengths : List Text) : Prop :=
  ∀ length ∈ lengths, word32? length = literalValue? length ∧ word32? length ≠ some 0

instance (lengths : List Text) : Decidable (PlainLengths lengths) :=
  inferInstanceAs (Decidable (∀ _ ∈ _, _))

/-- An array has as many elements as the length times those of each element. -/
lemma extent_cons (length : Text) (lengths : List Text) :
    extent (length :: lengths) = (literalValue? length).getD 1 * extent lengths := by
  rw [extent, List.map_cons, List.prod_cons, extent]

/-- Lengths are multiplied. -/
lemma extent_append (first rest : List Text) :
    extent (first ++ rest) = extent first * extent rest := by
  rw [extent, List.map_append, List.prod_append, extent, extent]

/-- Only lengths of one leave a single element. -/
lemma extent_eq_one_iff {lengths : List Text}
    (h : ∀ length ∈ lengths, (literalValue? length).isSome) :
    extent lengths = 1 ↔ ∀ length ∈ lengths, literalValue? length = some 1 := by
  induction lengths with
  | nil => exact iff_of_true rfl (by simp)
  | cons length lengths ih =>
      obtain ⟨n, hn⟩ := Option.isSome_iff_exists.1 (h length List.mem_cons_self)
      rw [extent_cons, mul_eq_one, ih fun other hother => h other (List.mem_cons_of_mem _ hother),
        List.forall_mem_cons, hn, Option.getD_some, Option.some_inj]

/-- A length that is read is positive. -/
lemma lengthRead_pos {lengths : List Text} (h : PlainLengths lengths) : 0 < lengthRead lengths := by
  cases lengths with
  | nil => exact Nat.one_pos
  | cons length lengths =>
      obtain ⟨_, hzero⟩ := h length List.mem_cons_self
      rw [lengthRead]
      cases hread : word32? length with
      | none => exact Nat.one_pos
      | some n => exact Nat.pos_of_ne_zero fun hn => hzero (hread.trans (congrArg some hn))

/-- Of plain lengths after a name the first one is read. -/
lemma extent_eq_lengthRead_mul {lengths : List Text} (h : PlainLengths lengths) :
    extent lengths = lengthRead lengths * extent lengths.tail := by
  cases lengths with
  | nil => rfl
  | cons length lengths =>
      rw [extent_cons, lengthRead, (h length List.mem_cons_self).1, List.tail_cons]

/-- Plain lengths make the slots if all but the first one after the name are 1. -/
lemma slots_read_iff {typeName : Text} {v : ArrayVariable} (hlegal : list.Legal)
    (hv : v ∈ list.declared) (hcolumns : locationSlots typeName = columns typeName)
    (hplain : PlainLengths v.lengths) :
    locationSlots typeName * lengthRead v.lengths = list.slots typeName v ↔
      ∀ length ∈ list.typeLengths ++ v.lengths.tail, literalValue? length = some 1 := by
  obtain ⟨_, htype, hdeclared⟩ := hlegal
  have hliteral : ∀ length ∈ list.typeLengths ++ v.lengths.tail, (literalValue? length).isSome := by
    intro length hlength
    rcases List.mem_append.1 hlength with hlength | hlength
    · exact htype length hlength
    · exact (hdeclared v hv).2 length (List.mem_of_mem_tail hlength)
  rw [← extent_eq_one_iff hliteral, extent_append, ArrayList.slots, hcolumns,
    Nat.mul_right_inj (columns_pos typeName).ne', extent_eq_lengthRead_mul hplain,
    Nat.mul_left_comm]
  exact left_eq_mul₀ (lengthRead_pos hplain).ne'

/-- **When the slots of an array are the declared ones.**  What is read of a variable has its name,
and its slots are the columns of the type times all lengths, exactly if the variable is not the
first one after brackets on the type, and the length directly after its name makes up for all of
them.  If that length and the type are read for what they are, all other lengths have to be 1. -/
theorem slotsOf_eq_slots_iff (hlegal : list.Legal)
    (hwords : d.afterType.map Token.text = list.words) :
    d.declarators.length = list.declared.length ∧
      ∀ (i : ℕ) (x : Declarator) (v : ArrayVariable),
        d.declarators[i]? = some x → list.declared[i]? = some v →
          ((x.name = v.name ∧ d.slotsOf x = .ok (list.slots d.typeToken.text v)) ↔
            (i = 0 → list.typeLengths = []) ∧
              locationSlots d.typeToken.text * lengthRead v.lengths
                = list.slots d.typeToken.text v ∧
              list.slots d.typeToken.text v < word32Limit) ∧
          (locationSlots d.typeToken.text = columns d.typeToken.text → PlainLengths v.lengths →
            (locationSlots d.typeToken.text * lengthRead v.lengths
                = list.slots d.typeToken.text v ↔
              ∀ length ∈ list.typeLengths ++ v.lengths.tail, literalValue? length = some 1)) := by
  have hread := declarators_of_words hlegal hwords
  refine ⟨?_, fun i x v hx hv => ⟨?_, fun hcolumns hplain =>
    slots_read_iff hlegal (List.mem_of_getElem? hv) hcolumns hplain⟩⟩
  · have hlength := congrArg List.length hread
    rwa [List.length_map, ArrayList.length_read] at hlength
  · have hboth : (x.name, x.arrayLength) = if i = 0 ∧ list.typeLengths ≠ [] then ("[".toList, 1)
        else (v.name, lengthRead v.lengths) := by
      rw [← Option.some_inj, ← read_getElem? hv, ← hread, List.getElem?_map, hx, Option.map_some]
    rw [InterfaceDeclaration.slotsOf, Word32.mul, Word32.check_eq_ok]
    by_cases hfirst : i = 0 ∧ list.typeLengths ≠ []
    · rw [if_pos hfirst, Prod.mk.injEq] at hboth
      refine iff_of_false ?_ fun h => hfirst.2 (h.1 hfirst.1)
      rintro ⟨hname, -⟩
      have hidentifier := (hlegal.2.2 v (List.mem_of_getElem? hv)).1
      rw [← hname, hboth.1] at hidentifier
      exact absurd hidentifier (by decide)
    · rw [if_neg hfirst, Prod.mk.injEq] at hboth
      obtain ⟨hname, hlength⟩ := hboth
      rw [hname, hlength]
      constructor
      · rintro ⟨-, heq, hlt⟩
        exact ⟨fun hi => by_contra fun htype => hfirst ⟨hi, htype⟩, heq, heq ▸ hlt⟩
      · rintro ⟨-, heq, hlt⟩
        exact ⟨rfl, heq, heq.symm ▸ hlt⟩

/-- A matrix of doubles in an array, and in an array of arrays. -/
def matrixArrays : Text := "out dmat2x3 m[3], k[2][2];".toList

/-- What follows the type there. -/
def matrixArrayList : ArrayList where
  typeLengths := []
  declared := [{ name := "m".toList, lengths := ["3".toList] },
    { name := "k".toList, lengths := ["2".toList, "2".toList] }]

/-- The array has all its slots, and the array of arrays has not. -/
theorem slotsOf_eq_slots_matrixArrays :
    ∃ d ∈ InterfaceDeclaration.all matrixArrays, matrixArrayList.Legal ∧
      d.afterType.map Token.text = matrixArrayList.words ∧
        ∃ m k, d.declarators = [m, k] ∧
          (m.name = "m".toList ∧ d.slotsOf m = .ok 6) ∧
          ¬ (k.name = "k".toList ∧ d.slotsOf k = .ok 8) := by
  have hlegal : matrixArrayList.Legal := by decide +kernel
  have hall : ∃ d ∈ InterfaceDeclaration.all matrixArrays,
      d.afterType.map Token.text = matrixArrayList.words ∧
        d.typeToken.text = "dmat2x3".toList := by
    unfold matrixArrays
    repeat rw [toList_literal rfl]
    decide +kernel
  obtain ⟨d, hd, hwords, htype⟩ := hall
  obtain ⟨hlength, hslots⟩ := slotsOf_eq_slots_iff hlegal hwords
  obtain ⟨m, k, hdeclarators⟩ := List.length_eq_two.1 hlength
  have hm := hslots 0 m _ (by rw [hdeclarators]; rfl) rfl
  have hk := hslots 1 k _ (by rw [hdeclarators]; rfl) rfl
  rw [htype] at hm hk
  refine ⟨d, hd, hlegal, hwords, m, k, hdeclarators, hm.1.2 ?_, fun h => ?_⟩
  · decide +kernel
  · exact absurd (hk.1.1 h).2.1 (by decide +kernel)

/-- Brackets on the type of one output, and two lengths after the name of another one. -/
def undercounted : Text := "out vec4[2] a; out vec4 b; out vec4 c[2][3]; out vec4 d;".toList

/-- What follows the type of the first output. -/
def typeArrayList : ArrayList where
  typeLengths := ["2".toList]
  declared := [{ name := "a".toList, lengths := [] }]

/-- What follows the type of the third output. -/
def nestedArrayList : ArrayList where
  typeLengths := []
  declared := [{ name := "c".toList, lengths := ["2".toList, "3".toList] }]

/-- Arrays take fewer slots than they have.  Instead of `a`, which has 2, `[` is placed with 1, and
`c` has 6 and takes 2.  So `b` and `d` are placed inside the arrays. -/
theorem arrays_undercounted :
    (∃ d ∈ InterfaceDeclaration.all undercounted,
      d.declaration.storage = .output ∧ d.declaration.isBlock = false ∧ typeArrayList.Legal ∧
        d.afterType.map Token.text = typeArrayList.words ∧
        (typeArrayList.declared.map fun v => (v.name, typeArrayList.slots d.typeToken.text v))
          = [("a".toList, 2)] ∧
        (d.declarators.map fun x => (x.name, d.slotsOf x)) = [("[".toList, .ok 1)]) ∧
    (∃ d ∈ InterfaceDeclaration.all undercounted,
      d.declaration.storage = .output ∧ d.declaration.isBlock = false ∧ nestedArrayList.Legal ∧
        d.afterType.map Token.text = nestedArrayList.words ∧
        (nestedArrayList.declared.map fun v => (v.name, nestedArrayList.slots d.typeToken.text v))
          = [("c".toList, 6)] ∧
        (d.declarators.map fun x => (x.name, d.slotsOf x)) = [("c".toList, .ok 2)]) ∧
    ∃ out, assignLayouts .fragment undercounted {} = .ok out ∧
      out.placements.map (fun p => (p.name, p.location, p.slots))
        = [("[".toList, 0, 1), ("b".toList, 1, 1), ("c".toList, 2, 2), ("d".toList, 4, 1)] := by
  unfold undercounted
  repeat rw [toList_literal rfl]
  exact ⟨by decide +kernel, by decide +kernel, map_eq_ok.1 (by decide +kernel)⟩

end GlBridge.Layout
