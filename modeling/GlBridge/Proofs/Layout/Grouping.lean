import GlBridge.Proofs.Layout.Items

/-!
# Declarators in groups

The tokens after a type are cut at the commas outside all brackets.  A group that is cut out is read
by itself as the one group that it is, and brackets that come right after the type belong to the
first group.

* `Uncut` — tokens that are one group;
* `exists_first_group` — the first group, and the others;
* `items_uncut`, `items_groups` — the items of one group, and of a first group and others: the
  brackets of the first one belong to all.
-/

namespace GlBridge.Layout

open Text Glsl

/-- Tokens without a comma outside all brackets. -/
def Uncut (nesting : ℤ) : List Token → Prop
  | [] => True
  | token :: rest =>
    ¬ (nesting + Declarator.nestingStep token = 0 ∧ token.is "," = true)
      ∧ Uncut (nesting + Declarator.nestingStep token) rest

/-- How deep brackets nest after tokens. -/
def nestingAfter (nesting : ℤ) (tokens : List Token) : ℤ :=
  nesting + (tokens.map Declarator.nestingStep).sum

section Groups

variable {nesting : ℤ} {tokens first group rest read : List Token} {token comma : Token}

lemma nestingAfter_cons : nestingAfter nesting (token :: tokens)
    = nestingAfter (nesting + Declarator.nestingStep token) tokens := by
  simp only [nestingAfter, List.map_cons, List.sum_cons, add_assoc]

/-- A comma nests nothing. -/
lemma nestingStep_comma (h : comma.is "," = true) : Declarator.nestingStep comma = 0 := by
  have htext : comma.text = ",".toList := beq_iff_eq.1 h
  simp only [Declarator.nestingStep, Token.is, htext]
  decide

/-- Tokens without a comma are one group. -/
lemma groups_uncut (h : Uncut nesting tokens) :
    Declarator.groups nesting read tokens = [read.reverse ++ tokens] := by
  induction tokens generalizing nesting read with
  | nil => rw [Declarator.groups, List.append_nil]
  | cons token tokens ih =>
      rw [Declarator.groups]
      simp only [if_neg h.1, ih h.2, List.reverse_cons, List.append_assoc, List.singleton_append]

/-- Up to a comma outside all brackets, tokens without one are the first group. -/
lemma groups_comma (h : Uncut nesting first) (hnesting : nestingAfter nesting first = 0)
    (hcomma : comma.is "," = true) :
    Declarator.groups nesting read (first ++ comma :: rest)
      = (read.reverse ++ first) :: Declarator.groups 0 [] rest := by
  induction first generalizing nesting read with
  | nil =>
      have hzero : nesting = 0 := by simpa [nestingAfter] using hnesting
      rw [List.nil_append, Declarator.groups]
      simp only [nestingStep_comma hcomma, hzero, hcomma, add_zero, and_self, if_true,
        List.append_nil]
  | cons token first ih =>
      rw [nestingAfter_cons] at hnesting
      rw [List.cons_append, Declarator.groups]
      simp only [if_neg h.1, ih h.2 hnesting, List.reverse_cons, List.append_assoc,
        List.singleton_append]

/-- **Tokens are one group, or a group, a comma and other groups.** -/
theorem exists_first_group (nesting : ℤ) (tokens : List Token) : Uncut nesting tokens ∨
    ∃ first comma rest, tokens = first ++ comma :: rest ∧ Uncut nesting first ∧
      nestingAfter nesting first = 0 ∧ comma.is "," = true := by
  induction tokens generalizing nesting with
  | nil => exact Or.inl trivial
  | cons token tokens ih =>
      by_cases hcut : nesting + Declarator.nestingStep token = 0 ∧ token.is "," = true
      · refine Or.inr ⟨[], token, tokens, rfl, trivial, ?_, hcut.2⟩
        have hzero := hcut.1
        rw [nestingStep_comma hcut.2, add_zero] at hzero
        rw [hzero]
        rfl
      · rcases ih (nesting + Declarator.nestingStep token) with h | ⟨first, comma, rest, rfl, h⟩
        · exact Or.inl ⟨hcut, h⟩
        · exact Or.inr ⟨token :: first, comma, rest, rfl, ⟨hcut, h.1⟩,
            nestingAfter_cons.trans h.2.1, h.2.2⟩

/-- A group that is cut out of tokens is one group by itself. -/
lemma uncut_of_mem_groups {tokens group : List Token}
    (h : group ∈ Declarator.groups 0 [] tokens) : Uncut 0 group := by
  rcases exists_first_group 0 tokens with huncut | ⟨first, comma, rest, rfl, hfirst, hzero, hcomma⟩
  · rw [groups_uncut huncut, List.mem_singleton] at h
    rwa [h]
  · rw [groups_comma hfirst hzero hcomma, List.mem_cons] at h
    rcases h with rfl | h
    · exact hfirst
    · exact uncut_of_mem_groups h
termination_by tokens.length
decreasing_by
  subst_vars
  rw [List.length_append, List.length_cons]
  omega

/-! ## Brackets -/

lemma bracketed_le (nesting : ℤ) (tokens : List Token) :
    bracketed nesting tokens ≤ tokens.length := by
  induction tokens generalizing nesting with
  | nil => exact le_rfl
  | cons token tokens ih =>
      rw [bracketed]
      split_ifs
      · exact Nat.zero_le _
      · exact Nat.succ_le_succ (ih _)

/-- Brackets end before a comma outside all of them. -/
lemma bracketed_comma (hnesting : nestingAfter nesting first = 0) (hcomma : comma.is "," = true) :
    bracketed nesting (first ++ comma :: rest) = bracketed nesting first := by
  induction first generalizing nesting with
  | nil =>
      have hzero : nesting = 0 := by simpa [nestingAfter] using hnesting
      have hopening : comma.is "[" = false := by
        rw [Token.is, beq_iff_eq.1 hcomma]
        decide
      rw [List.nil_append, bracketed, bracketed, if_pos ⟨hzero, hopening⟩]
  | cons token first ih =>
      rw [nestingAfter_cons] at hnesting
      rw [List.cons_append, bracketed, bracketed, ih hnesting]

/-- What comes after brackets is outside all brackets. -/
lemma uncut_drop (h : Uncut nesting tokens) : Uncut 0 (tokens.drop (bracketed nesting tokens)) := by
  induction tokens generalizing nesting with
  | nil => trivial
  | cons token tokens ih =>
      rw [bracketed]
      split_ifs with hstop
      · rw [List.drop_zero, ← hstop.1]
        exact h
      · exact ih h.2

lemma nestingAfter_drop (h : nestingAfter nesting tokens = 0) :
    nestingAfter 0 (tokens.drop (bracketed nesting tokens)) = 0 := by
  induction tokens generalizing nesting with
  | nil => rfl
  | cons token tokens ih =>
      rw [bracketed]
      split_ifs with hstop
      · rw [hstop.1] at h
        rwa [List.drop_zero]
      · exact ih (nestingAfter_cons.symm.trans h)

end Groups

/-! ## The items of groups -/

namespace Heading

variable {heading : Heading} {source : Text} {group : List Token}

/-- The item of one group. -/
def single (heading : Heading) (source : Text) (group : List Token) : Option Item :=
  (Declarator.ofGroup? (group.drop (bracketed 0 group))).map
    (heading.item source ((group.take (bracketed 0 group)).map Token.text))

/-- **One group makes one item**, or none. -/
theorem items_uncut (hblock : heading.isBlock = false) (h : Uncut 0 group) :
    heading.items source group = (heading.single source group).toList := by
  have hgroups : heading.groups group = [group.drop (bracketed 0 group)] := by
    rw [groups, hblock, if_neg Bool.false_ne_true, groups_uncut (uncut_drop h)]
    rfl
  have hbrackets : heading.brackets group = bracketed 0 group := by
    rw [brackets, hblock, if_neg Bool.false_ne_true]
  rw [items, hgroups, hbrackets, single]
  cases hone : Declarator.ofGroup? (group.drop (bracketed 0 group)) <;> simp [hone]

/-- **The brackets of the first group belong to all declarators.** -/
theorem items_groups (heading : Heading) (source : Text) (tokens : List Token)
    (hblock : heading.isBlock = false) :
    ∃ first others, Declarator.groups 0 [] tokens = first :: others ∧
      heading.items source tokens
        = (heading.single source first).toList ++ (others.filterMap Declarator.ofGroup?).map
            (heading.item source ((first.take (bracketed 0 first)).map Token.text)) := by
  rcases exists_first_group 0 tokens with huncut | ⟨first, comma, rest, rfl, hfirst, hzero, hcomma⟩
  · refine ⟨tokens, [], groups_uncut huncut, ?_⟩
    rw [items_uncut hblock huncut]
    simp
  · refine ⟨first, Declarator.groups 0 [] rest, groups_comma hfirst hzero hcomma, ?_⟩
    have hle := bracketed_le 0 first
    have hgroups : heading.groups (first ++ comma :: rest)
        = first.drop (bracketed 0 first) :: Declarator.groups 0 [] rest := by
      rw [groups, hblock, if_neg Bool.false_ne_true, bracketed_comma hzero hcomma,
        List.drop_append_of_le_length hle,
        groups_comma (uncut_drop hfirst) (nestingAfter_drop hzero) hcomma]
      rfl
    have hbrackets : heading.brackets (first ++ comma :: rest) = bracketed 0 first := by
      rw [brackets, hblock, if_neg Bool.false_ne_true, bracketed_comma hzero hcomma]
    rw [items, hgroups, hbrackets, List.take_append_of_le_length hle, single]
    cases hone : Declarator.ofGroup? (first.drop (bracketed 0 first)) <;> simp [hone]

end Heading

end GlBridge.Layout
