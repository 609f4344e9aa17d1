import GlBridge.Proofs.Layout.Editing
import GlBridge.Proofs.Layout.Grouping
import GlBridge.Proofs.Layout.Idempotence

/-!
# Laying out keeps items

When a source is laid out, a declaration is edited as a whole or its declarators are declared one by
one.  A declaration that is edited as a whole keeps its items.  One that is split keeps them exactly
if each declarator by itself is what it was.

**What goes wrong.**  A declaration can be split although it cannot be divided.  A declarator with a
built-in name is not laid out, and it is dropped.  Brackets on the type are read as the beginning of
the first declarator, so that the others lose them.

* `interfaceItems_laidOut` — the items of a clean source that is laid out, declaration by
  declaration;
* `alone_eq` — a declarator by itself, as the source has it;
* `flatMap_alone_eq_iff` — one declaration that is split;
* `interfaceItems_laidOut_eq_iff` — all declarations.
-/

namespace GlBridge.Layout

open Text Glsl Piece

variable {stage : Stage} {source : Text} {d : InterfaceDeclaration}

/-! ## What laying out makes of the items -/

/-- The items of a declaration once its source is laid out. -/
def InterfaceDeclaration.itemsAfter (stage : Stage) (source : Text) (d : InterfaceDeclaration) :
    List Item :=
  if d.Wants stage then d.laidItems source else d.items source

lemma outcome_statement {statement : Statement} (h : statement ∈ statementsOf source) :
    (InterfaceDeclaration.ofTokens? statement.tokens).elim [] (·.itemsAfter stage source)
      = outcome stage source statement := by
  have hitems := items_statement h
  rw [outcome]
  cases hd : InterfaceDeclaration.ofTokens? statement.tokens with
  | none =>
      rw [hd] at hitems
      exact hitems
  | some d =>
      rw [hd] at hitems
      by_cases hwants : d.Wants stage
      · rw [Option.filter_some_pos (by simpa using hwants)]
        exact if_pos hwants
      · rw [Option.filter_some_neg (by simpa using hwants)]
        exact (if_neg hwants).trans hitems

/-- **The items of a clean source that is laid out**, declaration by declaration. -/
theorem interfaceItems_laidOut (hclean : AllClean stage source) {varyings : VaryingLocations}
    {out : LaidOut} (h : assignLayouts stage source varyings = .ok out) :
    interfaceItems out.text
      = (InterfaceDeclaration.all source).flatMap (·.itemsAfter stage source) := by
  obtain ⟨_, _, new, hnew, htext, _⟩ := exists_rewritten_laidOut hclean h
  rw [htext, interfaceItems_eq, statementsOf, scan_textOf hnew.reads, hnew.items, flatMap_all]
  exact List.flatMap_congr fun statement hstatement => (outcome_statement hstatement).symm

/-! ## Declarators by themselves -/

/-- The tokens of a declarator are in pieces of the source that are read the same by themselves. -/
lemma exists_pieces_of_group (hd : d ∈ InterfaceDeclaration.all source) {group : List Token}
    {x : Declarator} (hgroup : group ∈ Declarator.groups 0 [] d.afterType)
    (hx : Declarator.ofGroup? group = some x) :
    ∃ segment, Reads false segment [] ∧ tokensFrom x.span.start segment = group ∧
      x.span.stop = x.span.start + (textOf segment).length ∧
        x.span.textIn source = textOf segment := by
  rw [InterfaceDeclaration.all_eq, List.mem_filterMap] at hd
  obtain ⟨statement, hstatement, hd⟩ := hd
  obtain ⟨htokens, _⟩ := InterfaceDeclaration.ofTokens?_eq_some_iff.1 hd
  obtain ⟨before, after, hcut⟩ := Declarator.exists_of_mem_groups hgroup
  rw [List.reverse_nil, List.nil_append, InterfaceDeclaration.afterType, htokens] at hcut
  have hall : tokensFrom statement.start (scan statement.text)
      = (statement.tokens.take (d.declaration.typeIndex + 1) ++ before) ++ group ++ after := by
    rw [List.append_assoc, List.append_assoc, ← List.append_assoc before, ← hcut]
    exact (List.take_append_drop _ _).symm
  obtain ⟨name, last, hname, hlast, _, hspan⟩ := Declarator.ends_of_ofGroup? hx
  obtain ⟨left, segment, right, hpieces, _, hsegment, _, hfirst, _, hstart, hstop⟩ :=
    exists_segment hall hname hlast
  have hreads := reads_scanFrom true statement.text
  rw [← scan, hpieces, reads_append, reads_append] at hreads
  obtain ⟨others, hothers⟩ := List.head?_eq_some_iff.1 hfirst
  have halone : Reads false segment [] := by
    have hwithin := hreads.1.2
    rw [hothers] at hwithin ⊢
    exact (hwithin.within_line rfl).nil
  have hcut : statement.text = textOf left ++ (textOf segment ++ textOf right) := by
    rw [← textOf_append, ← textOf_append, ← List.append_assoc, ← hpieces]
    exact (flatMap_text_scanFrom true statement.text).symm
  have hwithin : (textOf left).length + (textOf segment).length ≤ statement.text.length := by
    rw [hcut, List.length_append, List.length_append]
    omega
  rw [hspan]
  refine ⟨segment, halone, hsegment, hstop, ?_⟩
  rw [Span.textIn, hstop, hstart, Nat.add_assoc]
  exact (slice_slice (textIn_statement hstatement) hwithin).trans (slice_eq _ _ _ hcut rfl rfl)

/-- By itself a declarator is read as its tokens are read in the source. -/
lemma alone_eq (hd : d ∈ InterfaceDeclaration.all source) {group : List Token} {x : Declarator}
    (hgroup : group ∈ Declarator.groups 0 [] d.afterType)
    (hx : Declarator.ofGroup? group = some x) :
    d.alone source x = d.heading.items source group := by
  obtain ⟨segment, hreads, rfl, hstop, htext⟩ := exists_pieces_of_group hd hgroup hx
  rw [InterfaceDeclaration.alone, htext, scanFrom_textOf hreads]
  refine (d.heading.items_of_slice ?_).symm
  rw [← hstop]
  exact htext

/-! ## Groups by themselves -/

namespace Heading

variable {heading : Heading} {group : List Token} {x : Declarator}

/-- Brackets are read if there are some. -/
lemma bracketed_eq_zero_iff (hx : Declarator.ofGroup? group = some x) :
    bracketed 0 group = 0 ↔ x.name ≠ "[".toList := by
  cases group with
  | nil => exact absurd hx (by simp [Declarator.ofGroup?])
  | cons name afterName =>
      obtain rfl := Option.some.inj hx
      have hopening : (name.is "[" = false) ↔ name.text ≠ "[".toList := by
        rw [Token.is, beq_eq_false_iff_ne]
      rw [bracketed, ← hopening]
      by_cases hstop : name.is "[" = false
      · rw [if_pos ⟨rfl, hstop⟩]
        exact iff_of_true rfl hstop
      · rw [if_neg fun h => hstop h.2]
        exact iff_of_false (Nat.succ_ne_zero _) hstop

/-- A declarator that does not start with a bracket is itself. -/
lemma single_of_name (hx : Declarator.ofGroup? group = some x) (hname : x.name ≠ "[".toList) :
    heading.single source group = some (heading.item source [] x) := by
  rw [single, (bracketed_eq_zero_iff hx).2 hname, List.drop_zero, hx]
  rfl

/-- A declarator that is as long without its brackets has none. -/
lemma bracketed_of_single {brackets : List Text} (hplaced : Placed 0 source.length group)
    (hx : Declarator.ofGroup? group = some x)
    (h : heading.single source group = some (heading.item source brackets x)) :
    bracketed 0 group = 0 := by
  obtain ⟨y, hy, hitem⟩ := Option.map_eq_some_iff.1 h
  have htext : y.span.textIn source = x.span.textIn source := congrArg Item.text hitem
  obtain ⟨name, last, hname, hlast, _, hspan⟩ := Declarator.ends_of_ofGroup? hx
  obtain ⟨next, final, hnext, hfinal, _, hspan'⟩ := Declarator.ends_of_ofGroup? hy
  by_contra hne
  obtain ⟨count, hcount⟩ := Nat.exists_eq_succ_of_ne_zero hne
  obtain ⟨rest, rfl⟩ := List.head?_eq_some_iff.1 hname
  rw [hcount, List.drop_succ_cons] at hnext hfinal
  have hmem : next ∈ rest := List.mem_of_mem_drop (List.mem_of_head? hnext)
  have hsame : final = last := by
    have hrest : (name :: rest).getLast? = (rest.drop count).getLast? := by
      obtain ⟨others, hothers⟩ := List.head?_eq_some_iff.1 hnext
      have hcut : name :: rest = (name :: rest.take count) ++ rest.drop count := by
        rw [List.cons_append, List.take_append_drop]
      rw [hcut, List.getLast?_append_of_ne_nil _ (by rw [hothers]; exact List.cons_ne_nil _ _)]
    rw [hlast, hfinal] at hrest
    exact (Option.some.inj hrest).symm
  have hbefore : name.stop ≤ next.start := (List.pairwise_cons.1 hplaced.ordered).1 next hmem
  have hwithin := hplaced.within next (List.mem_cons_of_mem _ hmem)
  have hpositive := hplaced.within name List.mem_cons_self
  have hreach := hplaced.le_last hlast (List.mem_cons_of_mem _ hmem)
  have hstop := hplaced.within last (List.mem_of_getLast? hlast)
  have hlength := congrArg List.length htext
  rw [hspan, hspan', hsame, Span.textIn, Span.textIn, length_slice hstop.2.2,
    length_slice hstop.2.2] at hlength
  dsimp only at hlength
  omega

end Heading

/-! ## Declarations that are split -/

namespace InterfaceDeclaration

/-- Laying out declares the declarators one by one. -/
def Splits (stage : Stage) (d : InterfaceDeclaration) : Prop :=
  d.Wants stage ∧ d.declaration.isBlock = false ∧ d.kept.length ≠ 1

/-- The declarators can be declared one by one: all of them are laid out, and none starts with a
bracket, that is, no brackets are written on the type. -/
def Divisible (d : InterfaceDeclaration) : Prop :=
  d.kept = d.declarators ∧ ∀ x ∈ d.declarators, x.name ≠ "[".toList

instance : Decidable (d.Splits stage) := inferInstanceAs (Decidable (_ ∧ _))

instance : Decidable d.Divisible := inferInstanceAs (Decidable (_ ∧ _))

lemma itemsAfter_of_splits (h : d.Splits stage) :
    d.itemsAfter stage source = d.kept.flatMap (d.alone source) := by
  have hsplit : ¬ (d.declaration.isBlock = true ∨ d.kept.length = 1) := by
    rw [h.2.1]
    simpa using h.2.2
  rw [itemsAfter, if_pos h.1, laidItems, if_neg hsplit]

lemma itemsAfter_of_not_splits (h : ¬ d.Splits stage) :
    d.itemsAfter stage source = d.items source := by
  rw [itemsAfter]
  split_ifs with hwants
  · refine if_pos ?_
    by_contra hsplit
    rw [not_or, Bool.not_eq_true] at hsplit
    exact h ⟨hwants, hsplit⟩
  · rfl

end InterfaceDeclaration

/-! ## Parts of lists -/

section Lists

variable {α β : Type} {keep : α → Bool} {give : α → List β} {own : α → β} {l : List α}

lemma length_flatMap_filter_le (hone : ∀ a ∈ l, (give a).length ≤ 1) :
    ((l.filter keep).flatMap give).length ≤ l.length := by
  induction l with
  | nil => exact le_rfl
  | cons a l ih =>
      rw [List.forall_mem_cons] at hone
      have hrest := ih hone.2
      rw [List.filter_cons]
      split_ifs
      · rw [List.flatMap_cons, List.length_append, List.length_cons]
        have hfirst := hone.1
        omega
      · rw [List.length_cons]
        omega

/-- Where each element gives one at most, some of them give what all of them own only if all are
among them and each gives its own. -/
lemma flatMap_filter_eq_map_iff (hone : ∀ a ∈ l, (give a).length ≤ 1) :
    (l.filter keep).flatMap give = l.map own ↔ ∀ a ∈ l, keep a = true ∧ give a = [own a] := by
  induction l with
  | nil => simp
  | cons a l ih =>
      rw [List.forall_mem_cons] at hone ⊢
      have hle : ((l.filter keep).flatMap give).length ≤ l.length :=
        length_flatMap_filter_le hone.2
      have hshort : (l.filter keep).flatMap give ≠ (a :: l).map own := fun h => by
        rw [h, List.length_map, List.length_cons] at hle
        omega
      cases hkeep : keep a with
      | false =>
          rw [List.filter_cons_of_neg (by simp [hkeep])]
          exact iff_of_false hshort fun h => Bool.false_ne_true h.1.1
      | true =>
          rw [List.filter_cons_of_pos hkeep, List.flatMap_cons]
          match hgive : give a with
          | [] => exact iff_of_false hshort fun h => List.cons_ne_nil _ _ h.1.2.symm
          | [b] => simp [ih hone.2]
          | _ :: _ :: _ =>
              rw [hgive] at hone
              exact absurd hone.1 (by simp)

/-- Where the parts do not get longer, the whole stays the same only if each part does. -/
lemma flatMap_eq_flatMap_iff {give give' : α → List β}
    (hle : ∀ a ∈ l, (give a).length ≤ (give' a).length) :
    l.flatMap give = l.flatMap give' ↔ ∀ a ∈ l, give a = give' a := by
  induction l with
  | nil => simp
  | cons a l ih =>
      rw [List.forall_mem_cons] at hle ⊢
      have hrest : (l.flatMap give).length ≤ (l.flatMap give').length := by
        rw [List.length_flatMap, List.length_flatMap]
        exact List.sum_le_sum hle.2
      rw [List.flatMap_cons, List.flatMap_cons, ← ih hle.2]
      constructor
      · intro h
        have hlength := congrArg List.length h
        rw [List.length_append, List.length_append] at hlength
        exact List.append_inj h (by have hfirst := hle.1; omega)
      · rintro ⟨hfirst, hothers⟩
        rw [hfirst, hothers]

end Lists

/-! ## One declaration -/

section Divisible

variable {group : List Token} {x : Declarator}

/-- By itself a declarator of a declaration that is no block is the one item of its group. -/
lemma alone_eq_single (hd : d ∈ InterfaceDeclaration.all source)
    (hblock : d.declaration.isBlock = false)
    (hgroup : group ∈ Declarator.groups 0 [] d.afterType)
    (hx : Declarator.ofGroup? group = some x) :
    d.alone source x = (d.heading.single source group).toList := by
  rw [alone_eq hd hgroup hx]
  exact Heading.items_uncut hblock (uncut_of_mem_groups hgroup)

/-- By itself a declarator is what it is with some brackets only if it does not start with a
bracket, and there are none. -/
lemma alone_eq_iff (hd : d ∈ InterfaceDeclaration.all source)
    (hblock : d.declaration.isBlock = false)
    (hgroup : group ∈ Declarator.groups 0 [] d.afterType)
    (hx : Declarator.ofGroup? group = some x) {brackets : List Text} :
    d.alone source x = [d.heading.item source brackets x]
      ↔ x.name ≠ "[".toList ∧ brackets = [] := by
  rw [alone_eq_single hd hblock hgroup hx]
  constructor
  · intro h
    have hsingle : d.heading.single source group = some (d.heading.item source brackets x) := by
      cases hone : d.heading.single source group with
      | none => exact absurd h (by simp [hone])
      | some item => rw [hone] at h; simpa using h
    have hplaced : Placed 0 source.length group :=
      (InterfaceDeclaration.seated_of_mem_all hd).placed.sublist
        ((Declarator.sublist_of_mem_groups hgroup).trans (List.drop_sublist _ _))
    have hname :=
      (Heading.bracketed_eq_zero_iff hx).1 (Heading.bracketed_of_single hplaced hx hsingle)
    rw [Heading.single_of_name hx hname, Option.some.injEq] at hsingle
    exact ⟨hname, (List.cons.inj (congrArg Item.type hsingle)).2.symm⟩
  · rintro ⟨hname, rfl⟩
    rw [Heading.single_of_name hx hname]
    rfl

/-- Whether a declarator is laid out if its declaration is. -/
def InterfaceDeclaration.keeps (d : InterfaceDeclaration) (x : Declarator) : Bool :=
  d.declaration.storage.isResource || !"gl_".toList.isPrefixOf x.name

lemma kept_eq_filter (d : InterfaceDeclaration) : d.kept = d.declarators.filter d.keeps := by
  rw [InterfaceDeclaration.kept]
  split_ifs with hresource
  · refine (List.filter_eq_self.2 fun x _ => ?_).symm
    rw [InterfaceDeclaration.keeps, hresource, Bool.true_or]
  · refine List.filter_congr fun x _ => ?_
    rw [InterfaceDeclaration.keeps, Bool.eq_false_of_not_eq_true hresource, Bool.false_or]

/-- A declarator is written by one of the groups. -/
lemma exists_group {x : Declarator} (hx : x ∈ d.declarators) :
    ∃ group ∈ Declarator.groups 0 [] d.afterType, Declarator.ofGroup? group = some x :=
  List.mem_filterMap.1 hx

lemma length_alone_le (hd : d ∈ InterfaceDeclaration.all source)
    (hblock : d.declaration.isBlock = false) {x : Declarator} (hx : x ∈ d.declarators) :
    (d.alone source x).length ≤ 1 := by
  obtain ⟨group, hgroup, hof⟩ := exists_group hx
  rw [alone_eq_single hd hblock hgroup hof]
  exact Option.length_toList_le

/-- The items of a declaration that is no block: that of the first group, and those of the others
with the brackets which the first group starts with. -/
lemma exists_groups (source : Text) (hblock : d.declaration.isBlock = false) :
    ∃ first others, first ∈ Declarator.groups 0 [] d.afterType ∧
      d.declarators = (Declarator.ofGroup? first).toList ++ others ∧
      d.items source = (d.heading.single source first).toList
        ++ others.map
          (d.heading.item source ((first.take (bracketed 0 first)).map Token.text)) := by
  obtain ⟨first, others, hgroups, hitems⟩ := d.heading.items_groups source d.afterType hblock
  refine ⟨first, others.filterMap Declarator.ofGroup?, hgroups ▸ List.mem_cons_self, ?_, hitems⟩
  show (Declarator.groups 0 [] d.afterType).filterMap Declarator.ofGroup? = _
  rw [hgroups, List.filterMap_cons]
  cases Declarator.ofGroup? first <;> rfl

/-- Declared one by one, declarators do not make more items. -/
lemma length_flatMap_alone_le (hd : d ∈ InterfaceDeclaration.all source)
    (hblock : d.declaration.isBlock = false) :
    (d.kept.flatMap (d.alone source)).length ≤ (d.items source).length := by
  obtain ⟨first, others, hfirst, hdeclarators, hitems⟩ := exists_groups source hblock
  have hothers : ∀ x ∈ others, (d.alone source x).length ≤ 1 := fun x hx =>
    length_alone_le hd hblock (hdeclarators ▸ List.mem_append_right _ hx)
  have hrest : ((others.filter d.keeps).flatMap (d.alone source)).length ≤ others.length :=
    length_flatMap_filter_le hothers
  have hone : ((((Declarator.ofGroup? first).toList.filter d.keeps).flatMap
      (d.alone source))).length ≤ (d.heading.single source first).toList.length := by
    cases hx : Declarator.ofGroup? first with
    | none => exact Nat.zero_le _
    | some x =>
        rw [← alone_eq_single hd hblock hfirst hx, Option.toList_some, List.filter_singleton]
        cases d.keeps x <;> simp
  rw [kept_eq_filter, hdeclarators, hitems, List.filter_append, List.flatMap_append,
    List.length_append, List.length_append, List.length_map]
  exact Nat.add_le_add hone hrest

/-- If the first group starts with a bracket and there are others, these lose the brackets. -/
lemma flatMap_alone_ne (hd : d ∈ InterfaceDeclaration.all source)
    (hblock : d.declaration.isBlock = false) (hseveral : d.kept.length ≠ 1) {first : List Token}
    {others : List Declarator} (hfirst : first ∈ Declarator.groups 0 [] d.afterType)
    (hdeclarators : d.declarators = (Declarator.ofGroup? first).toList ++ others)
    (hx : Declarator.ofGroup? first = some x) (hname : x.name = "[".toList) :
    d.kept.flatMap (d.alone source) ≠ (d.heading.single source first).toList
      ++ others.map (d.heading.item source ((first.take (bracketed 0 first)).map Token.text)) := by
  have hkeeps : d.keeps x = true := by
    rw [InterfaceDeclaration.keeps, hname]
    exact Bool.or_true _
  have hmem : ∀ y ∈ others, y ∈ d.declarators :=
    fun y hy => hdeclarators ▸ List.mem_append_right _ hy
  rw [hx] at hdeclarators
  rw [kept_eq_filter, hdeclarators] at hseveral ⊢
  rw [Option.toList_some, List.singleton_append, List.filter_cons_of_pos hkeeps] at hseveral ⊢
  rw [List.flatMap_cons, alone_eq_single hd hblock hfirst hx, Ne, List.append_cancel_left_eq,
    flatMap_filter_eq_map_iff fun y hy => length_alone_le hd hblock (hmem y hy)]
  intro hall
  obtain ⟨y, hy⟩ : ∃ y, y ∈ others := by
    refine List.exists_mem_of_ne_nil _ fun hnil => hseveral ?_
    rw [hnil]
    rfl
  obtain ⟨group, hgroup, hof⟩ := exists_group (hmem y hy)
  have hnone := ((alone_eq_iff hd hblock hgroup hof).1 (hall y hy).2).2
  rw [List.map_eq_nil_iff, List.take_eq_nil_iff] at hnone
  rcases hnone with hzero | rfl
  · exact (Heading.bracketed_eq_zero_iff hx).1 hzero hname
  · exact absurd hx (by simp [Declarator.ofGroup?])

/-- **Declaring declarators one by one changes no item exactly if they are divisible.** -/
theorem flatMap_alone_eq_iff (hd : d ∈ InterfaceDeclaration.all source)
    (hblock : d.declaration.isBlock = false) (hseveral : d.kept.length ≠ 1) :
    d.kept.flatMap (d.alone source) = d.items source ↔ d.Divisible := by
  obtain ⟨first, others, hfirst, hdeclarators, hitems⟩ := exists_groups source hblock
  by_cases hbracket : ∃ x, Declarator.ofGroup? first = some x ∧ x.name = "[".toList
  · obtain ⟨x, hx, hname⟩ := hbracket
    rw [hitems]
    refine iff_of_false (flatMap_alone_ne hd hblock hseveral hfirst hdeclarators hx hname)
      fun h => ?_
    exact h.2 x (by rw [hdeclarators, hx]; exact List.mem_cons_self) hname
  · -- no brackets are written on the type
    have hall : d.items source = d.declarators.map (d.heading.item source []) := by
      rw [hitems, hdeclarators, List.map_append]
      cases hx : Declarator.ofGroup? first with
      | none =>
          have hnil : first = [] := by
            cases first with
            | nil => rfl
            | cons name afterName => exact absurd hx (by simp [Declarator.ofGroup?])
          rw [hnil]
          rfl
      | some x =>
          have hname : x.name ≠ "[".toList := fun hname => hbracket ⟨x, hx, hname⟩
          rw [Heading.single_of_name hx hname, (Heading.bracketed_eq_zero_iff hx).2 hname]
          rfl
    rw [hall, kept_eq_filter, InterfaceDeclaration.Divisible, kept_eq_filter, List.filter_eq_self,
      ← forall₂_and, flatMap_filter_eq_map_iff fun x hx => length_alone_le hd hblock hx]
    refine forall₂_congr fun x hx => and_congr_right fun _ => ?_
    obtain ⟨group, hgroup, hof⟩ := exists_group hx
    rw [alone_eq_iff hd hblock hgroup hof, and_iff_left rfl]

end Divisible

/-! ## Whole sources -/

/-- No declaration has more items once its source is laid out. -/
lemma length_itemsAfter_le (hd : d ∈ InterfaceDeclaration.all source) :
    (d.itemsAfter stage source).length ≤ (d.items source).length := by
  by_cases hsplits : d.Splits stage
  · rw [InterfaceDeclaration.itemsAfter_of_splits hsplits]
    exact length_flatMap_alone_le hd hsplits.2.1
  · rw [InterfaceDeclaration.itemsAfter_of_not_splits hsplits]

/-- A declaration keeps its items unless it is split and cannot be divided. -/
lemma itemsAfter_eq_iff (hd : d ∈ InterfaceDeclaration.all source) :
    d.itemsAfter stage source = d.items source ↔ (d.Splits stage → d.Divisible) := by
  by_cases hsplits : d.Splits stage
  · rw [InterfaceDeclaration.itemsAfter_of_splits hsplits, forall_prop_of_true hsplits]
    exact flatMap_alone_eq_iff hd hsplits.2.1 hsplits.2.2
  · exact iff_of_true (InterfaceDeclaration.itemsAfter_of_not_splits hsplits) (absurd · hsplits)

/-- **Laying out a clean source keeps the items of its interface exactly if each declaration that is
split can be divided.** -/
theorem interfaceItems_laidOut_eq_iff (hclean : AllClean stage source)
    {varyings : VaryingLocations} {out : LaidOut}
    (h : assignLayouts stage source varyings = .ok out) :
    interfaceItems out.text = interfaceItems source
      ↔ ∀ d ∈ InterfaceDeclaration.all source, d.Splits stage → d.Divisible := by
  rw [interfaceItems_laidOut hclean h, interfaceItems,
    flatMap_eq_flatMap_iff fun d hd => length_itemsAfter_le hd]
  exact forall₂_congr fun d hd => itemsAfter_eq_iff hd

/-- A fragment shader with a declaration that is split and one that has brackets on its type. -/
def arrayFragment : Text := "uniform sampler2D a,b[2];in vec2[2] u;".toList

/-- A declaration is split, and each declarator is what it was. -/
theorem interfaceItems_laidOut_arrays : ∃ out,
    AllClean .fragment arrayFragment ∧ assignLayouts .fragment arrayFragment {} = .ok out ∧
      (∃ d ∈ InterfaceDeclaration.all arrayFragment, d.Splits .fragment) ∧
        interfaceItems out.text = interfaceItems arrayFragment := by
  have hall : AllClean .fragment arrayFragment ∧
      ((∃ d ∈ InterfaceDeclaration.all arrayFragment, d.Splits .fragment) ∧
        ∀ d ∈ InterfaceDeclaration.all arrayFragment, d.Splits .fragment → d.Divisible) ∧
      (assignLayouts .fragment arrayFragment {}).map (fun _ => ()) = .ok () := by
    unfold arrayFragment
    rw [toList_literal rfl]
    decide +kernel
  obtain ⟨hclean, hsplits, hruns⟩ := hall
  obtain ⟨out, hout, _⟩ := map_eq_ok.1 hruns
  exact ⟨out, hclean, hout, hsplits.1, (interfaceItems_laidOut_eq_iff hclean hout).2 hsplits.2⟩

/-! ## Sources whose items change -/

/-- Laying out a source changes the items of its interface. -/
def ChangesItems (stage : Stage) (source : Text) : Prop :=
  ∃ out, assignLayouts stage source {} = .ok out ∧
    interfaceItems out.text ≠ interfaceItems source

lemma changesItems_of_run
    (h : (assignLayouts stage source {}).map
      (fun out => decide (interfaceItems out.text = interfaceItems source)) = .ok false) :
    ChangesItems stage source := by
  obtain ⟨out, hout, hne⟩ := map_eq_ok.1 h
  exact ⟨out, hout, by simpa using hne⟩

/-- Brackets on the type.  They stay with the first declarator, and the second one is no array. -/
def bracketedFragment : Text := "uniform sampler2D[2] a, b;".toList

/-- A built-in name among others.  Its declarator is dropped. -/
def builtinVertex : Text := "out float gl_ClipDistance[2], a, b;".toList

/-- A declarator that ends in a slash, before a comment.  The comma between them is dropped, so that
the slash meets the comment. -/
def slashedPair : Text := "out vec4 a, c/,/**/;".toList

/-- A brace that makes one token with a letter that is no ASCII character.  What stood in the braces
is outside. -/
def bracedPair : Text := "out vec4 a\x7b\u00e9,c;out vec4 z,b\x7d;".toList

/-- A hash after other code on its line.  A declaration is split within what is a comment of the
source. -/
def hashedPair : Text := "int q;#define X /*\nout vec4 a,b/*;out vec4 d;*/;".toList

/-- **Items may change** where a declaration that is split cannot be divided, and where a source is
not clean, whichever of the three conditions it misses. -/
theorem assignLayouts_changes_items : ChangesItems .fragment bracketedFragment ∧
    ChangesItems .vertex builtinVertex ∧ ChangesItems .vertex slashedPair ∧
      ChangesItems .vertex bracedPair ∧ ChangesItems .vertex hashedPair := by
  refine ⟨changesItems_of_run ?_, changesItems_of_run ?_, changesItems_of_run ?_,
    changesItems_of_run ?_, changesItems_of_run ?_⟩
  · unfold bracketedFragment
    rw [toList_literal rfl]
    decide +kernel
  · unfold builtinVertex
    rw [toList_literal rfl]
    decide +kernel
  · unfold slashedPair
    rw [toList_literal rfl]
    decide +kernel
  · unfold bracedPair
    rw [toList_literal rfl]
    decide +kernel
  · unfold hashedPair
    rw [toList_literal rfl]
    decide +kernel

end GlBridge.Layout
