import GlBridge.Interface.BindingPoint
import GlBridge.Proofs.Interface.Finding

/-!
# What binding points are given out

Three categories are numbered in one pass over the automatic resources, each with a counter of its
own that passes over what the application uses.  This file says in closed form what comes out.

**What each resource should get.**  One of the application wants its own binding number.  The `k`-th
automatic one of a category wants the `k`-th number that the application leaves `Unused` there.  It
gets what it wants if that is a binding point at all (`granted`).

**Why the pass does that.**  The counter of a category stands where the unused numbers before it are
as many as the resources of the category that have been numbered so far, or else it is stuck at the
end of the binding points, and then so are all later wishes (`Abreast`).

**The map.**  Points are kept by group and binding, in that order.  Such a list is determined by its
entries (`Ordered.eq_of_mem_iff`), and adding several gives the same in any order as long as no key
is added twice.

The main result is **`assignBindingPoints_exact`**.
-/

namespace GlBridge.Interface

open Layout

/-! ## Points in order -/

namespace BindingPoints

variable {points others : BindingPoints} {entries : List (ResourceKey × ℕ)}
  {entry : ResourceKey × ℕ} {key a b c : ResourceKey} {point : ℕ}

/-- Keys are ordered by category, and then by name. -/
lemma keyBefore_iff : keyBefore a b = true ↔ toLex a < toLex b := by
  rw [Prod.Lex.toLex_lt_toLex]
  simp [keyBefore]

/-- No key is before itself. -/
lemma not_keyBefore_self (a : ResourceKey) : ¬ keyBefore a a = true := by
  rw [keyBefore_iff]
  exact lt_irrefl _

lemma keyBefore_trans (hab : keyBefore a b = true) (hbc : keyBefore b c = true) :
    keyBefore a c = true := by
  rw [keyBefore_iff] at *
  exact hab.trans hbc

/-- Different keys stand in one of the two orders. -/
lemma keyBefore_or (hne : a ≠ b) : keyBefore a b = true ∨ keyBefore b a = true := by
  simp only [keyBefore_iff]
  exact lt_or_gt_of_ne fun h => hne (toLex_inj.1 h)

/-- Points that are kept by their keys. -/
def Ordered (points : BindingPoints) : Prop :=
  points.Pairwise fun a b => keyBefore a.1 b.1 = true

/-- Inserting an entry replaces the one with its key. -/
lemma mem_insert : entry ∈ points.insert key point ↔
    entry = (key, point) ∨ entry ∈ points ∧ entry.1 ≠ key := by
  simp only [insert, List.mem_append, List.mem_filter, List.mem_cons]
  constructor
  · rintro (⟨hmem, hbefore⟩ | rfl | ⟨hmem, hbefore⟩)
    · refine .inr ⟨hmem, ?_⟩
      rintro rfl
      exact not_keyBefore_self _ hbefore
    · exact .inl rfl
    · refine .inr ⟨hmem, ?_⟩
      rintro rfl
      exact not_keyBefore_self _ hbefore
  · rintro (rfl | ⟨hmem, hne⟩)
    · exact .inr (.inl rfl)
    · rcases keyBefore_or hne with hbefore | hbefore
      · exact .inl ⟨hmem, hbefore⟩
      · exact .inr (.inr ⟨hmem, hbefore⟩)

/-- An entry is inserted where it belongs. -/
lemma Ordered.insert (h : Ordered points) (key : ResourceKey) (point : ℕ) :
    Ordered (points.insert key point) := by
  rw [Ordered, BindingPoints.insert, List.pairwise_append, List.pairwise_cons]
  refine ⟨h.filter _, ⟨?_, h.filter _⟩, ?_⟩
  · intro after hafter
    exact (List.mem_filter.1 hafter).2
  · intro before hbefore after hafter
    have hlt : keyBefore before.1 key = true := (List.mem_filter.1 hbefore).2
    rcases List.mem_cons.1 hafter with rfl | hafter
    · exact hlt
    · exact keyBefore_trans hlt (List.mem_filter.1 hafter).2

/-- Points in order have each key once. -/
lemma Ordered.nodup_keys (h : Ordered points) : (points.map Prod.fst).Nodup := by
  rw [List.Nodup, List.pairwise_map]
  refine List.Pairwise.imp ?_ h
  intro a b hlt heq
  exact not_keyBefore_self b.1 (heq ▸ hlt)

/-- Points in order are determined by what is among them. -/
theorem Ordered.eq_of_mem_iff (h : Ordered points) (h' : Ordered others)
    (hmem : ∀ entry, entry ∈ points ↔ entry ∈ others) : points = others := by
  have hperm := (List.perm_ext_iff_of_nodup h.nodup_keys.of_map h'.nodup_keys.of_map).2 hmem
  refine hperm.eq_of_pairwise ?_ h h'
  intro a b _ _ hab hba
  exact absurd (keyBefore_trans hab hba) (not_keyBefore_self _)

/-- Adding several points one after the other. -/
def insertAll (points : BindingPoints) (entries : List (ResourceKey × ℕ)) : BindingPoints :=
  entries.foldl (fun points entry => points.insert entry.1 entry.2) points

/-- Entries are inserted one after the other. -/
lemma insertAll_append (points : BindingPoints) (entries more : List (ResourceKey × ℕ)) :
    points.insertAll (entries ++ more) = (points.insertAll entries).insertAll more := by
  rw [insertAll, List.foldl_append]
  rfl

lemma Ordered.insertAll (h : Ordered points) (entries : List (ResourceKey × ℕ)) :
    Ordered (points.insertAll entries) := by
  induction entries generalizing points with
  | nil => exact h
  | cons entry entries ih => exact ih (h.insert entry.1 entry.2)

/-- Points added under different keys are all there. -/
lemma mem_insertAll (hkeys : (entries.map Prod.fst).Nodup) : entry ∈ points.insertAll entries ↔
    entry ∈ entries ∨ entry ∈ points ∧ entry.1 ∉ entries.map Prod.fst := by
  induction entries generalizing points with
  | nil => simp [insertAll]
  | cons first entries ih =>
      rw [List.map_cons, List.nodup_cons] at hkeys
      have hstep : points.insertAll (first :: entries)
          = (points.insert first.1 first.2).insertAll entries := rfl
      rw [hstep, ih hkeys.2, mem_insert, List.mem_cons, List.map_cons, List.mem_cons]
      constructor
      · rintro (hmem | ⟨rfl | ⟨hmem, hne⟩, hnot⟩)
        · exact .inl (.inr hmem)
        · exact .inl (.inl rfl)
        · exact .inr ⟨hmem, fun h => h.elim hne hnot⟩
      · rintro ((rfl | hmem) | ⟨hmem, hnot⟩)
        · exact .inr ⟨.inl rfl, hkeys.1⟩
        · exact .inl hmem
        · exact .inr ⟨.inr ⟨hmem, fun h => hnot (.inl h)⟩, fun h => hnot (.inr h)⟩

end BindingPoints

/-! ## What a resource should get -/

variable {resources others done rest : List BoundResource} {r s : BoundResource}
  {category : BindingCategory} {key : ResourceKey} {n point : ℕ}

/-- A number that no resource of the application uses as a binding point of a category. -/
def Unused (resources : List BoundResource) (category : BindingCategory) (n : ℕ) : Prop :=
  ∀ r ∈ resources, r.isAutomatic = false → r.category = category →
    r.binding < bindingPointLimit → r.binding ≠ n

instance (resources : List BoundResource) (category : BindingCategory) :
    DecidablePred (Unused resources category) := fun n =>
  inferInstanceAs (Decidable (∀ r ∈ resources, r.isAutomatic = false → r.category = category →
    r.binding < bindingPointLimit → r.binding ≠ n))

/-- How many automatic resources of its category stand before a resource in the order of the
bindings. -/
def rank (resources : List BoundResource) (r : BoundResource) : ℕ :=
  resources.countP fun other =>
    other.isAutomatic && other.category == r.category && decide (other.binding < r.binding)

/-- The number that a resource should have as its binding point. -/
noncomputable def wanted (resources : List BoundResource) (r : BoundResource) : ℕ :=
  if r.isAutomatic then Nat.nth (Unused resources r.category) (rank resources r) else r.binding

/-- What a resource gets: what it wants, if there is such a binding point. -/
noncomputable def granted (resources : List BoundResource) (r : BoundResource) :
    Option (ResourceKey × ℕ) :=
  if wanted resources r < bindingPointLimit then some (r.key, wanted resources r) else none

/-- A resource is granted the number that it wants, if that is a number at all. -/
lemma granted_eq_some_iff {entry : ResourceKey × ℕ} : granted resources r = some entry ↔
    wanted resources r < bindingPointLimit ∧ entry = (r.key, wanted resources r) := by
  rw [granted]
  split_ifs with h <;> simp [h, eq_comm]

/-- Numbers are taken by the resources that name them. -/
lemma mem_takenPoints : n ∈ takenPoints resources category ↔ ¬ Unused resources category n := by
  simp only [takenPoints, Unused, List.mem_map, List.mem_filter, Bool.and_eq_true,
    Bool.not_eq_true', beq_iff_eq, decide_eq_true_eq]
  push Not
  constructor
  · rintro ⟨r, ⟨hmem, ⟨hautomatic, hcategory⟩, hlt⟩, hn⟩
    exact ⟨r, hmem, hautomatic, hcategory, hlt, hn⟩
  · rintro ⟨r, hmem, hautomatic, hcategory, hlt, hn⟩
    exact ⟨r, ⟨hmem, ⟨hautomatic, hcategory⟩, hlt⟩, hn⟩

/-- All but finitely many numbers are unused. -/
lemma infinite_unused (resources : List BoundResource) (category : BindingCategory) :
    (Set.ofPred (Unused resources category)).Infinite := by
  have hfinite : {n | n ∈ takenPoints resources category}.Finite :=
    List.finite_toSet (takenPoints resources category)
  refine hfinite.infinite_compl.mono ?_
  intro n hn
  by_contra hused
  exact hn (mem_takenPoints.2 hused)

/-- What an automatic resource should get depends on the other resources only as a set. -/
lemma granted_perm (h : resources.Perm others) : granted resources = granted others := by
  have hunused : Unused resources = Unused others := by
    funext category n
    simp only [Unused, h.mem_iff]
  have hrank : rank resources = rank others := by
    funext r
    exact h.countP_eq _
  funext r
  rw [granted, granted, wanted, wanted, hunused, hrank]

/-! ## Looking for a free number -/

/-- The search stops at the least free number. -/
lemma stopsAt_leastFree (taken : List ℕ) (start : ℕ) :
    StopsAt id taken start (leastFree taken start) := by
  obtain ⟨n, hn, _⟩ := exists_stopsAt Function.injective_id taken start
  have htest : ∀ k, decide (k ∉ taken) = true ↔ id k ∉ taken := fun k => decide_eq_true_iff
  have hfind := (find?_eq_some_iff_stopsAt Function.injective_id htest).2 hn
  rw [leastFree, hfind]
  exact hn

/-- From a number on, the least one that is free is the unused one that has as many before it. -/
lemma leastFree_takenPoints (resources : List BoundResource) (category : BindingCategory)
    (start : ℕ) : leastFree (takenPoints resources category) start
      = Nat.nth (Unused resources category) (Nat.count (Unused resources category) start) := by
  have hstops := stopsAt_leastFree (takenPoints resources category) start
  have hfree : Unused resources category (leastFree (takenPoints resources category) start) := by
    by_contra hused
    exact hstops.free (mem_takenPoints.2 hused)
  have hcount : Nat.count (Unused resources category)
      (leastFree (takenPoints resources category) start)
      = Nat.count (Unused resources category) start := by
    obtain ⟨d, hd⟩ := Nat.exists_eq_add_of_le hstops.start_le
    have hnone : ∀ k < d, ¬ Unused resources category (start + k) := fun k hk =>
      mem_takenPoints.1 (hstops.tried _ (Nat.le_add_right _ _) (by omega))
    rw [hd, Nat.count_add, Nat.add_eq_left, Nat.count_iff_forall_not]
    exact hnone
  rw [← hcount, Nat.nth_count hfree]

/-! ## The pass -/

/-- How far a category has come when `k` of its resources have been numbered.  Its counter stands
behind `k` unused numbers, or behind fewer because there was no binding point left for some. -/
structure Abreast (resources : List BoundResource) (category : BindingCategory) (next k : ℕ) :
    Prop where
  count_le : Nat.count (Unused resources category) next ≤ k
  stuck : Nat.count (Unused resources category) next < k →
    bindingPointLimit ≤ Nat.nth (Unused resources category)
      (Nat.count (Unused resources category) next)

namespace Abreast

variable {next k : ℕ}

/-- The next number found is the one wanted, or both are no binding points. -/
lemma leastFree_cases (h : Abreast resources category next k) :
    leastFree (takenPoints resources category) next = Nat.nth (Unused resources category) k ∨
      bindingPointLimit ≤ leastFree (takenPoints resources category) next ∧
        bindingPointLimit ≤ Nat.nth (Unused resources category) k := by
  rw [leastFree_takenPoints]
  rcases h.count_le.eq_or_lt with heq | hlt
  · exact .inl (by rw [heq])
  · have hmono := Nat.nth_monotone (infinite_unused resources category) h.count_le
    exact .inr ⟨h.stuck hlt, (h.stuck hlt).trans hmono⟩

/-- A resource got a number, and the counter goes past it. -/
lemma advance (h : Abreast resources category next k)
    (hlt : leastFree (takenPoints resources category) next < bindingPointLimit) :
    Abreast resources category (leastFree (takenPoints resources category) next + 1) (k + 1) := by
  have hpoint : leastFree (takenPoints resources category) next
      = Nat.nth (Unused resources category) k := by
    rcases h.leastFree_cases with heq | ⟨hle, _⟩
    · exact heq
    · omega
  have hcount := Nat.count_nth_succ_of_infinite (infinite_unused resources category) k
  rw [hpoint]
  exact ⟨hcount.le, fun hless => absurd hcount hless.ne⟩

/-- A resource got no number, and the counter stays. -/
lemma stay (h : Abreast resources category next k)
    (hle : bindingPointLimit ≤ leastFree (takenPoints resources category) next) :
    Abreast resources category next (k + 1) := by
  rw [leastFree_takenPoints] at hle
  exact ⟨h.count_le.trans (Nat.le_succ k), fun _ => hle⟩

end Abreast

/-- The automatic resources in the order in which they are numbered. -/
def inOrder (resources : List BoundResource) : List BoundResource :=
  (resources.filter BoundResource.isAutomatic).mergeSort fun a b => a.binding ≤ b.binding

/-- The resources that are numbered automatically come in some order. -/
lemma inOrder_perm (resources : List BoundResource) :
    (inOrder resources).Perm (resources.filter BoundResource.isAutomatic) :=
  List.mergeSort_perm _ _

lemma isAutomatic_of_mem_inOrder (h : r ∈ inOrder resources) : r.isAutomatic = true :=
  (List.mem_filter.1 ((inOrder_perm resources).mem_iff.1 h)).2

/-- Automatic resources with different keys have different bindings. -/
lemma eq_key_of_binding (hr : r.isAutomatic = true) (hs : s.isAutomatic = true)
    (h : r.binding = s.binding) : r.key = s.key := by
  simp only [BoundResource.isAutomatic, beq_iff_eq] at hr hs
  exact Prod.ext (hr.trans hs.symm) h

/-- They come in the order of their bindings. -/
lemma pairwise_inOrder (hkeys : (resources.map BoundResource.key).Nodup) :
    (inOrder resources).Pairwise fun a b => a.binding < b.binding := by
  have hle : (inOrder resources).Pairwise fun a b => decide (a.binding ≤ b.binding) = true := by
    refine List.pairwise_mergeSort ?_ ?_ _
    · simp only [decide_eq_true_eq]
      intro a b c
      exact le_trans
    · simp only [Bool.or_eq_true, decide_eq_true_eq]
      intro a b
      exact le_total _ _
  have hne : (inOrder resources).Pairwise fun a b => a.key ≠ b.key := by
    have hfilter : ((resources.filter BoundResource.isAutomatic).map BoundResource.key).Nodup :=
      hkeys.sublist (List.filter_sublist.map _)
    have hnodup := ((inOrder_perm resources).map BoundResource.key).nodup_iff.2 hfilter
    exact List.pairwise_map.1 hnodup
  refine (hle.and hne).imp_of_mem ?_
  intro a b ha hb hab
  simp only [decide_eq_true_eq] at hab
  refine lt_of_le_of_ne hab.1 ?_
  intro heq
  have hautomatic := isAutomatic_of_mem_inOrder ha
  exact hab.2 (eq_key_of_binding hautomatic (isAutomatic_of_mem_inOrder hb) heq)

/-- Numbering goes through each category by rank. -/
lemma rank_eq (hkeys : (resources.map BoundResource.key).Nodup)
    (h : inOrder resources = done ++ r :: rest) :
    rank resources r = done.countP fun other => other.category = r.category := by
  have hpairwise := pairwise_inOrder hkeys
  rw [h, List.pairwise_append, List.pairwise_cons] at hpairwise
  obtain ⟨_, ⟨hafter, _⟩, hbefore⟩ := hpairwise
  have hsplit : rank resources r = (inOrder resources).countP fun other =>
      other.category == r.category && decide (other.binding < r.binding) := by
    rw [(inOrder_perm resources).countP_eq, List.countP_filter, rank]
    refine List.countP_congr fun other _ => ?_
    simp only [Bool.and_eq_true]
    tauto
  have hdone : (done.countP fun other =>
      other.category == r.category && decide (other.binding < r.binding))
      = done.countP fun other => other.category = r.category := by
    refine List.countP_congr fun other hmem => ?_
    simp [hbefore other hmem r List.mem_cons_self]
  have hrest : ((r :: rest).countP fun other =>
      other.category == r.category && decide (other.binding < r.binding)) = 0 := by
    rw [List.countP_eq_zero]
    intro other hmem
    rcases List.mem_cons.1 hmem with rfl | hmem
    · simp
    · have hlt := hafter other hmem
      simp only [Bool.and_eq_true, decide_eq_true_eq, not_and]
      omega
  rw [hsplit, h, List.countP_append, hdone, hrest, Nat.add_zero]

/-- **What the pass adds.**  If all categories are abreast of what has been done, the rest gets what
it should. -/
theorem numberAutomatic_eq (hkeys : (resources.map BoundResource.key).Nodup)
    (h : inOrder resources = done ++ rest) {next : BindingCategory → ℕ} {points : BindingPoints}
    (habreast : ∀ category, Abreast resources category (next category)
      (done.countP fun other => other.category = category)) :
    numberAutomatic (takenPoints resources) next points rest
      = points.insertAll (rest.filterMap (granted resources)) := by
  induction rest generalizing done next points with
  | nil => rfl
  | cons r rest ih =>
      have hr : r ∈ inOrder resources := by rw [h]; simp
      have hstep : inOrder resources = (done ++ [r]) ++ rest := by rw [h]; simp
      have hwanted : wanted resources r
          = Nat.nth (Unused resources r.category)
              (done.countP fun o => o.category = r.category) := by
        rw [wanted, if_pos (isAutomatic_of_mem_inOrder hr), rank_eq hkeys h]
      have hcases := (habreast r.category).leastFree_cases
      rw [← hwanted] at hcases
      rw [numberAutomatic]
      split_ifs with hlt
      · have hpoint : leastFree (takenPoints resources r.category) (next r.category)
            = wanted resources r := by
          rcases hcases with heq | ⟨hle, _⟩
          · exact heq
          · omega
        have hgranted : granted resources r = some (r.key, wanted resources r) :=
          granted_eq_some_iff.2 ⟨hpoint ▸ hlt, rfl⟩
        rw [List.filterMap_cons_some hgranted, ih hstep ?_, hpoint]
        · rfl
        · intro category
          by_cases hcategory : category = r.category
          · subst hcategory
            simpa [List.countP_append] using (habreast r.category).advance hlt
          · have hother : ¬ r.category = category := fun heq => hcategory heq.symm
            simpa [List.countP_append, hcategory, hother] using habreast category
      · have hnot : ¬ wanted resources r < bindingPointLimit := by
          rcases hcases with heq | ⟨_, hle⟩
          · omega
          · omega
        have hgranted : granted resources r = none := if_neg hnot
        rw [List.filterMap_cons_none hgranted]
        refine ih hstep ?_
        intro category
        by_cases hcategory : category = r.category
        · subst hcategory
          simpa [List.countP_append] using (habreast r.category).stay (not_lt.1 hlt)
        · have hother : ¬ r.category = category := fun heq => hcategory heq.symm
          simpa [List.countP_append, hother] using habreast category

/-! ## The result -/

/-- A resource that names a number wants it. -/
lemma wanted_of_chosen (h : r.isAutomatic = false) : wanted resources r = r.binding := by
  rw [wanted, h, if_neg Bool.false_ne_true]

/-- Any other one wants the free number of its rank. -/
lemma wanted_of_automatic (h : r.isAutomatic = true) :
    wanted resources r = Nat.nth (Unused resources r.category) (rank resources r) := by
  rw [wanted, if_pos h]

/-- The numbers that are named are granted before any other. -/
lemma chosenPoints_eq (resources : List BoundResource) : chosenPoints resources
    = BindingPoints.insertAll []
        ((resources.filter fun r => !r.isAutomatic).filterMap (granted resources)) := by
  have hchosen : ∀ list : List BoundResource,
      (list.filter fun r => !r.isAutomatic).filterMap (granted resources)
        = (list.filter fun r => !r.isAutomatic && r.binding < bindingPointLimit).map
            fun r => (r.key, r.binding) := by
    intro list
    induction list with
    | nil => rfl
    | cons r list ih =>
        cases hr : r.isAutomatic with
        | true => simp [hr, ih]
        | false =>
            have hwanted : wanted resources r = r.binding := wanted_of_chosen hr
            by_cases hlt : r.binding < bindingPointLimit
            · simp [hr, hlt, ih, granted, hwanted]
            · simp [hr, hlt, ih, granted, hwanted]
  rw [hchosen, chosenPoints, BindingPoints.insertAll, List.foldl_map]

/-- All that is added, in the order in which it is added. -/
lemma assignBindingPoints_eq (hkeys : (resources.map BoundResource.key).Nodup) :
    assignBindingPoints resources = BindingPoints.insertAll []
      (((resources.filter fun r => !r.isAutomatic) ++ inOrder resources).filterMap
        (granted resources)) := by
  have habreast : ∀ category, Abreast resources category 0
      (([] : List BoundResource).countP fun other => other.category = category) := by
    intro category
    rw [List.countP_nil]
    exact ⟨(Nat.count_zero _).le, fun hlt => absurd hlt (Nat.not_lt_zero _)⟩
  rw [assignBindingPoints, ← inOrder, numberAutomatic_eq hkeys (List.nil_append _).symm habreast,
    chosenPoints_eq, List.filterMap_append, BindingPoints.insertAll_append]

/-- What is assigned is in order, so that only its entries matter. -/
lemma ordered_assignBindingPoints (hkeys : (resources.map BoundResource.key).Nodup) :
    BindingPoints.Ordered (assignBindingPoints resources) := by
  have hempty : BindingPoints.Ordered [] := List.Pairwise.nil
  rw [assignBindingPoints_eq hkeys]
  exact hempty.insertAll _

/-- **Exactly what is granted is given out.** -/
theorem mem_assignBindingPoints (hkeys : (resources.map BoundResource.key).Nodup)
    {entry : ResourceKey × ℕ} : entry ∈ assignBindingPoints resources ↔
      ∃ r ∈ resources, granted resources r = some entry := by
  have hperm :
      ((resources.filter fun r => !r.isAutomatic) ++ inOrder resources).Perm resources := by
    refine ((inOrder_perm resources).append_left _).trans (List.perm_append_comm.trans ?_)
    exact List.filter_append_perm _ _
  have hgranted : ((((resources.filter fun r => !r.isAutomatic) ++ inOrder resources).filterMap
      (granted resources)).map Prod.fst).Nodup := by
    have hnodup := (hperm.map BoundResource.key).nodup_iff.2 hkeys
    rw [List.Nodup, List.pairwise_map] at hnodup ⊢
    refine hnodup.filterMap _ ?_
    intro a b hne entry hentry other hother
    rw [(granted_eq_some_iff.1 hentry).2, (granted_eq_some_iff.1 hother).2]
    exact hne
  rw [assignBindingPoints_eq hkeys, BindingPoints.mem_insertAll hgranted, List.mem_filterMap]
  simp [hperm.mem_iff]

/-- A resource is found under its key. -/
theorem lookup_assignBindingPoints (hkeys : (resources.map BoundResource.key).Nodup)
    (hr : r ∈ resources) : (assignBindingPoints resources).lookup r.key
      = if wanted resources r < bindingPointLimit then some (wanted resources r) else none := by
  have hlookup : ∀ point, (assignBindingPoints resources).lookup r.key = some point ↔
      wanted resources r < bindingPointLimit ∧ point = wanted resources r := by
    intro point
    rw [lookup_eq_some_iff_mem (ordered_assignBindingPoints hkeys).nodup_keys,
      mem_assignBindingPoints hkeys]
    constructor
    · rintro ⟨s, hs, hgranted⟩
      obtain ⟨hlt, hentry⟩ := granted_eq_some_iff.1 hgranted
      obtain ⟨hkey, hpoint⟩ := Prod.mk.inj hentry
      obtain rfl := List.inj_on_of_nodup_map hkeys hr hs hkey
      exact ⟨hlt, hpoint⟩
    · rintro ⟨hlt, rfl⟩
      exact ⟨r, hr, granted_eq_some_iff.2 ⟨hlt, rfl⟩⟩
  split_ifs with hlt
  · exact (hlookup _).2 ⟨hlt, rfl⟩
  · rw [Option.eq_none_iff_forall_ne_some]
    intro point hpoint
    exact hlt ((hlookup point).1 hpoint).1

/-- A smaller binding has a smaller rank. -/
lemma rank_lt (hr : r ∈ resources) (hautomatic : r.isAutomatic = true)
    (hcategory : r.category = s.category) (hlt : r.binding < s.binding) :
    rank resources r < rank resources s := by
  have hmono : ∀ list : List BoundResource,
      (list.countP fun other =>
        other.isAutomatic && other.category == r.category && decide (other.binding < r.binding))
      ≤ list.countP fun other =>
          other.isAutomatic && other.category == s.category
            && decide (other.binding < s.binding) := by
    intro list
    refine List.countP_mono_left ?_
    intro other _ hother
    simp only [Bool.and_eq_true, beq_iff_eq, decide_eq_true_eq] at hother ⊢
    exact ⟨⟨hother.1.1, hother.1.2.trans hcategory⟩, hother.2.trans hlt⟩
  obtain ⟨before, after, rfl⟩ := List.append_of_mem hr
  have hbefore := hmono before
  have hafter := hmono after
  simp only [rank, List.countP_append, List.countP_cons, hautomatic, hcategory, hlt] at *
  simp
  omega

/-- Automatic resources of a category with the same rank are the same. -/
lemma eq_of_rank (hkeys : (resources.map BoundResource.key).Nodup) (hr : r ∈ resources)
    (hs : s ∈ resources) (har : r.isAutomatic = true) (has : s.isAutomatic = true)
    (hcategory : r.category = s.category) (hrank : rank resources r = rank resources s) :
    r = s := by
  rcases lt_trichotomy r.binding s.binding with hlt | heq | hlt
  · exact absurd hrank (rank_lt hr har hcategory hlt).ne
  · exact List.inj_on_of_nodup_map hkeys hr hs (eq_key_of_binding har has heq)
  · exact absurd hrank (rank_lt hs has hcategory.symm hlt).ne'

/-- No other resource of its category wants the number that an automatic one wants, if there is
such a binding point. -/
lemma wanted_ne (hkeys : (resources.map BoundResource.key).Nodup) (hr : r ∈ resources)
    (hs : s ∈ resources) (hne : r ≠ s) (har : r.isAutomatic = true)
    (hcategory : r.category = s.category) (hlt : wanted resources s < bindingPointLimit) :
    wanted resources r ≠ wanted resources s := by
  have hinfinite := infinite_unused resources r.category
  rw [wanted_of_automatic har]
  cases has : s.isAutomatic with
  | true =>
      rw [wanted_of_automatic has, ← hcategory]
      intro heq
      exact hne (eq_of_rank hkeys hr hs har has hcategory (Nat.nth_injective hinfinite heq))
  | false =>
      rw [wanted_of_chosen has] at hlt ⊢
      have hunused := Nat.nth_mem_of_infinite hinfinite (rank resources r)
      exact (hunused s hs has hcategory.symm hlt).symm

/-- **Binding points are given out exactly.**  If no two resources have the same group and binding,
one of the application has its own binding number as its point.  An automatic one, before which
there are `k` others of its category in the order of the bindings, has the number that `k` unused
ones of the category come before.  Either has no point if its number is no binding point, and
nothing else has one.  So an automatic point is the point of no other resource of the category, and
the order in which the resources are listed does not matter. -/
theorem assignBindingPoints_exact (resources : List BoundResource)
    (hkeys : (resources.map BoundResource.key).Nodup) :
    (∀ r ∈ resources, r.isAutomatic = false → (assignBindingPoints resources).lookup r.key
      = if r.binding < bindingPointLimit then some r.binding else none) ∧
    (∀ r ∈ resources, r.isAutomatic = true → (assignBindingPoints resources).lookup r.key
      = if Nat.nth (Unused resources r.category) (rank resources r) < bindingPointLimit then
          some (Nat.nth (Unused resources r.category) (rank resources r)) else none) ∧
    (∀ key, key ∉ resources.map BoundResource.key →
      (assignBindingPoints resources).lookup key = none) ∧
    (∀ r ∈ resources, ∀ s ∈ resources, r ≠ s → r.isAutomatic = true → r.category = s.category →
      ∀ point, (assignBindingPoints resources).lookup r.key = some point →
        (assignBindingPoints resources).lookup s.key ≠ some point) ∧
    (∀ others, resources.Perm others →
      assignBindingPoints others = assignBindingPoints resources) := by
  refine ⟨?_, ?_, ?_, ?_, ?_⟩
  · intro r hr hchosen
    rw [lookup_assignBindingPoints hkeys hr, wanted_of_chosen hchosen]
  · intro r hr hautomatic
    rw [lookup_assignBindingPoints hkeys hr, wanted_of_automatic hautomatic]
  · intro key hkey
    rw [Option.eq_none_iff_forall_ne_some]
    intro point hpoint
    rw [lookup_eq_some_iff_mem (ordered_assignBindingPoints hkeys).nodup_keys,
      mem_assignBindingPoints hkeys] at hpoint
    obtain ⟨r, hr, hgranted⟩ := hpoint
    obtain ⟨rfl, _⟩ := Prod.mk.inj (granted_eq_some_iff.1 hgranted).2
    exact hkey (List.mem_map_of_mem hr)
  · intro r hr s hs hne hautomatic hcategory point hpoint hother
    rw [lookup_assignBindingPoints hkeys hr] at hpoint
    rw [lookup_assignBindingPoints hkeys hs] at hother
    split_ifs at hpoint hother with hltr hlts
    have heq := (Option.some.inj hpoint).trans (Option.some.inj hother).symm
    exact wanted_ne hkeys hr hs hne hautomatic hcategory hlts heq
  · intro others hperm
    have hothers := (hperm.map BoundResource.key).nodup_iff.1 hkeys
    have hordered := ordered_assignBindingPoints hothers
    refine hordered.eq_of_mem_iff (ordered_assignBindingPoints hkeys) ?_
    intro entry
    rw [mem_assignBindingPoints hothers, mem_assignBindingPoints hkeys, granted_perm hperm]
    simp only [hperm.mem_iff]

/-- Textures and uniform blocks of the application among automatic ones.  Its textures leave a gap
at 1, and one of them wants the first number that is no binding point. -/
def interleaved : List BoundResource :=
  [⟨(1, 9), .textureUnit⟩, ⟨(0, 2), .textureUnit⟩, ⟨(1, 4), .uniformBlock⟩,
    ⟨(0, 256), .textureUnit⟩, ⟨(2, 0), .uniformBlock⟩, ⟨(1, 7), .textureUnit⟩,
    ⟨(0, 0), .textureUnit⟩, ⟨(0, 255), .textureUnit⟩, ⟨(1, 8), .storageBlock⟩]

/-- The first automatic texture fills the gap and the second one comes after it, whatever stands
between them. -/
theorem assignBindingPoints_exact_interleaved :
    (interleaved.map BoundResource.key).Nodup ∧
      Nat.nth (Unused interleaved .textureUnit) 1 = 3 ∧
      (assignBindingPoints interleaved).lookup (1, 7) = some 1 ∧
      (assignBindingPoints interleaved).lookup (1, 9) = some 3 ∧
      (assignBindingPoints interleaved).lookup (1, 4) = some 1 ∧
      (assignBindingPoints interleaved).lookup (0, 255) = some 255 ∧
      (assignBindingPoints interleaved).lookup (0, 256) = none ∧
      (assignBindingPoints interleaved).lookup (0, 1) = none ∧
      assignBindingPoints interleaved.reverse = assignBindingPoints interleaved := by
  have hkeys : (interleaved.map BoundResource.key).Nodup := by decide
  obtain ⟨hchosen, hautomatic, hother, _, horder⟩ := assignBindingPoints_exact interleaved hkeys
  have hnth : ∀ category n, Unused interleaved category n →
      Nat.nth (Unused interleaved category) (Nat.count (Unused interleaved category) n) = n :=
    fun category n h => Nat.nth_count h
  have hfirst : Nat.nth (Unused interleaved .textureUnit) 0 = 1 := hnth .textureUnit 1 (by decide)
  have hsecond : Nat.nth (Unused interleaved .textureUnit) 1 = 3 := hnth .textureUnit 3 (by decide)
  have hblock : Nat.nth (Unused interleaved .uniformBlock) 0 = 1 := hnth .uniformBlock 1 (by decide)
  refine ⟨hkeys, hsecond, ?_, ?_, ?_, ?_, ?_, ?_, ?_⟩
  · have hseven := hautomatic ⟨(1, 7), .textureUnit⟩ (by decide) rfl
    have hrank : rank interleaved ⟨(1, 7), .textureUnit⟩ = 0 := by decide
    rwa [hrank, hfirst] at hseven
  · have hnine := hautomatic ⟨(1, 9), .textureUnit⟩ (by decide) rfl
    have hrank : rank interleaved ⟨(1, 9), .textureUnit⟩ = 1 := by decide
    rwa [hrank, hsecond] at hnine
  · have hfour := hautomatic ⟨(1, 4), .uniformBlock⟩ (by decide) rfl
    have hrank : rank interleaved ⟨(1, 4), .uniformBlock⟩ = 0 := by decide
    rwa [hrank, hblock] at hfour
  · exact hchosen ⟨(0, 255), .textureUnit⟩ (by decide) rfl
  · exact hchosen ⟨(0, 256), .textureUnit⟩ (by decide) rfl
  · exact hother (0, 1) (by decide)
  · exact horder interleaved.reverse (List.reverse_perm interleaved).symm

end GlBridge.Interface
