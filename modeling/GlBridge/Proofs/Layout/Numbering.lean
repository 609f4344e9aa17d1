import GlBridge.Proofs.Layout.Settling

/-!
# Bindings are numbered in order

The second pass hands out bindings while it walks through the declarations, to declarations of three
shapes: a block gets one binding, a resource with one declarator gets one, and a resource with
several declarators is split so that each gets its own.  What is told apart by these numbers later
on, textures and uniforms, would be mixed up if one of them were given twice.

**What is added.**  `Bound` relates the declarations of a source to the bindings that are added and
to the edits that add them, both in source order.

**Numbering.**  `Numbered` is what a binding needs to know of those before it: which numbers are
taken, that they are below the one from which the next is looked for, that all numbers below that
one are taken, and that it fits 32 bits.  Taking a binding preserves it (`Numbered.take`), and
giving locations has nothing to do with it.

* `pinnedBindings` — the bindings that a source pins down;
* **`bindings_increasing`** — the bindings added increase strictly and avoid all that are pinned
  down.
-/

namespace GlBridge.Layout

open Text Glsl

/-! ## What the source pins down -/

namespace InterfaceDeclaration

/-- The declaration is a resource without a binding, and no built-in one. -/
def Unbound (d : InterfaceDeclaration) : Prop :=
  "gl_".toList.isPrefixOf d.typeToken.text = false ∧ d.declaration.storage.isResource = true ∧
    d.declaration.layoutValue "binding" = none

instance (d : InterfaceDeclaration) : Decidable d.Unbound := inferInstanceAs (Decidable (_ ∧ _ ∧ _))

/-- The binding that a resource is given in the source. -/
def pinnedBinding? (d : InterfaceDeclaration) : Option ℕ :=
  if d.declaration.storage.isResource then (d.declaration.layoutValue "binding").join else none

/-- The variables that declarators stand for, built-in ones left out. -/
def wanted (d : InterfaceDeclaration) (space : LocationSpace) (declarators : List Declarator) :
    List Variable :=
  (declarators.filter fun x => !"gl_".toList.isPrefixOf x.name).map fun x =>
    { space, declarator := x, slots := locationSlots d.typeToken.text * x.arrayLength }

end InterfaceDeclaration

/-- The bindings that a source pins down. -/
def pinnedBindings (source : Text) : List ℕ :=
  (InterfaceDeclaration.all source).filterMap InterfaceDeclaration.pinnedBinding?

/-- The range of a single binding. -/
def bindingSpan (binding : ℕ) : Span := { start := binding, stop := binding + 1 }

lemma bindingSpan_apart {a b : ℕ} : (bindingSpan a).Apart (bindingSpan b) ↔ a ≠ b := by
  simp only [Span.Apart, bindingSpan]
  omega

lemma claimBinding_eq_ok {usage after : Usage} {binding : ℕ} :
    usage.claimBinding binding = .ok after ↔ binding + 1 < word32Limit ∧
      after = { usage with bindings := usage.bindings ++ [bindingSpan binding] } := by
  simp only [Usage.claimBinding, bind_eq_ok, UsedSlots.claim_eq_ok, pure_eq_ok]
  constructor
  · rintro ⟨_, ⟨hlt, rfl⟩, rfl⟩
    exact ⟨hlt, rfl⟩
  · rintro ⟨hlt, rfl⟩
    exact ⟨_, ⟨hlt, rfl⟩, rfl⟩

lemma pinDeclarators_bindings {d : InterfaceDeclaration} {space : LocationSpace} {location : ℕ} :
    ∀ {declarators : List Declarator} {slots total : ℕ} {usage after : Usage},
      pinDeclarators d space location slots usage declarators = .ok (total, after) →
        after.bindings = usage.bindings
  | [], slots, total, usage, after, h => by
      simp only [pinDeclarators, Except.ok.injEq, Prod.mk.injEq] at h
      rw [h.2]
  | declarator :: rest, slots, total, usage, after, h => by
      simp only [pinDeclarators, bind_eq_ok] at h
      obtain ⟨_, _, _, _, _, _, h⟩ := h
      exact (pinDeclarators_bindings h).trans rfl

lemma Usage.claim_bindings {usage after : Usage} {space : LocationSpace} {start slots : ℕ}
    (h : usage.claim space start slots = .ok after) : after.bindings = usage.bindings := by
  simp only [Usage.claim, bind_eq_ok, pure_eq_ok] at h
  obtain ⟨_, _, rfl⟩ := h
  cases space <;> rfl

/-- A declaration takes the binding that it pins down. -/
lemma pin_bindings {stage : Stage} {usage after : Usage} {d : InterfaceDeclaration}
    (h : pin stage usage d = .ok after) :
    after.bindings = usage.bindings ++ d.pinnedBinding?.toList.map bindingSpan := by
  unfold pin at h
  rw [InterfaceDeclaration.pinnedBinding?]
  split_ifs at h ⊢ with hresource
  · split at h
    · next binding hbinding =>
        rw [hbinding, (claimBinding_eq_ok.1 h).2]
        rfl
    · next hnone =>
        obtain rfl := Except.ok.inj h
        cases hvalue : d.declaration.layoutValue "binding" with
        | none => exact (List.append_nil _).symm
        | some value =>
            cases value with
            | none => exact (List.append_nil _).symm
            | some binding => exact absurd hvalue (hnone binding)
  · rw [Option.toList_none, List.map_nil, List.append_nil]
    split at h
    · simp only [bind_eq_ok] at h
      obtain ⟨⟨total, named⟩, hnamed, hclaim⟩ := h
      rw [Usage.claim_bindings hclaim, pinDeclarators_bindings hnamed]
    · rw [Except.ok.inj h]

/-- **The first pass takes the bindings that the source pins down.** -/
theorem pinned_bindings {stage : Stage} {source : Text} {usage : Usage}
    (h : pinned stage (InterfaceDeclaration.all source) = .ok usage) :
    usage.bindings = (pinnedBindings source).map bindingSpan := by
  have hpinned := foldlM_appends h fun _ _ _ hd => pin_bindings hd
  rw [hpinned, ← List.map_flatMap, ← List.filterMap_eq_flatMap_toList]
  rfl

/-! ## What is added -/

/-- The edits that the second pass makes of declarations, and the bindings that it adds with them,
in order.  A block without a binding gets one as a whole, and any other resource without a binding
gets one for each of its declarators; of the others, those with unlocated variables are edited, but
get no bindings. -/
inductive Bound (stage : Stage) (source : Text) :
    List InterfaceDeclaration → List ℕ → List Edit → Prop where
  | nil : Bound stage source [] [] []
  | block {d : InterfaceDeclaration} {ds : List InterfaceDeclaration} {bindings : List ℕ}
      {edits : List Edit} (hunbound : d.Unbound) (hblock : d.declaration.isBlock = true)
      (binding : ℕ) (h : Bound stage source ds bindings edits) :
      Bound stage source (d :: ds) (binding :: bindings)
        (argumentEdit d (bindingArgument binding) :: edits)
  | each {d : InterfaceDeclaration} {ds : List InterfaceDeclaration} {bindings : List ℕ}
      {edits : List Edit} (hunbound : d.Unbound) (hblock : d.declaration.isBlock = false)
      (added : List ℕ) (hlength : added.length = d.declarators.length)
      (h : Bound stage source ds bindings edits) :
      Bound stage source (d :: ds) (added ++ bindings)
        (splitEdit source d ((added.map bindingArgument).zip d.declarators) :: edits)
  | located {d : InterfaceDeclaration} {ds : List InterfaceDeclaration} {bindings : List ℕ}
      {edits : List Edit} (hbound : ¬ d.Unbound) (hne : d.unlocated stage ≠ [])
      (placements : List Placement)
      (hplacements : placements.map Placement.toVariable = d.unlocated stage)
      (h : Bound stage source ds bindings edits) :
      Bound stage source (d :: ds) bindings
        (splitEdit source d (placements.map Placement.part) :: edits)
  | alone {d : InterfaceDeclaration} {ds : List InterfaceDeclaration} {bindings : List ℕ}
      {edits : List Edit} (hbound : ¬ d.Unbound) (hlocated : d.unlocated stage = [])
      (h : Bound stage source ds bindings edits) : Bound stage source (d :: ds) bindings edits

/-! ## Numbering -/

/-- What has been done about bindings: those in `added` have been given, in order, beside those in
`pins`. -/
structure Numbered (pins added : List ℕ) (progress : Progress) : Prop where
  slots : progress.usage.bindings = (pins ++ added).map bindingSpan
  increasing : added.Pairwise (· < ·)
  avoids : ∀ binding ∈ added, binding ∉ pins
  below : ∀ binding ∈ added, binding < progress.nextBinding
  /-- No number is left out. -/
  filled : ∀ n < progress.nextBinding, n ∈ pins ∨ n ∈ added
  fits : progress.nextBinding < word32Limit

namespace Numbered

variable {pins added : List ℕ} {progress after : Progress}

/-- What is free for one more binding. -/
lemma free_iff (h : Numbered pins added progress) {n : ℕ} :
    progress.usage.bindings.Free (bindingSpan n) ↔ n ∉ pins ∧ n ∉ added := by
  rw [h.slots, UsedSlots.Free]
  simp only [List.forall_mem_map, bindingSpan_apart, List.mem_append]
  constructor
  · intro hall
    exact ⟨fun hn => hall n (Or.inl hn) rfl, fun hn => hall n (Or.inr hn) rfl⟩
  · rintro ⟨hpins, hadded⟩ taken htaken rfl
    exact htaken.elim hpins hadded

/-- Steps that have nothing to do with bindings. -/
lemma congr (h : Numbered pins added progress)
    (hslots : after.usage.bindings = progress.usage.bindings)
    (hnext : after.nextBinding = progress.nextBinding) : Numbered pins added after where
  slots := hslots.trans h.slots
  increasing := h.increasing
  avoids := h.avoids
  below := hnext ▸ h.below
  filled := hnext ▸ h.filled
  fits := hnext ▸ h.fits

end Numbered

namespace Progress

variable {stage : Stage} {source : Text} {progress after : Progress} {pins added : List ℕ}

/-- The binding that is taken next, whether it fits or not. -/
def freeBinding (progress : Progress) : ℕ :=
  progress.usage.bindings.firstFit progress.nextBinding 1

/-- Having taken a binding. -/
def withBinding (progress : Progress) (binding : ℕ) : Progress :=
  { progress with
    usage := { progress.usage with bindings := progress.usage.bindings ++ [bindingSpan binding] }
    nextBinding := binding + 1 }

lemma takeBinding_eq_ok {binding : ℕ} : progress.takeBinding = .ok (binding, after) ↔
    binding + 1 < word32Limit ∧ binding = progress.freeBinding ∧
      after = progress.withBinding binding := by
  simp only [takeBinding, bind_eq_ok, UsedSlots.firstFree_eq_ok, claimBinding_eq_ok, pure_eq_ok,
    Word32.add, Word32.check_eq_ok, Prod.mk.injEq]
  constructor
  · rintro ⟨_, ⟨hlt, rfl⟩, _, ⟨_, rfl⟩, _, ⟨rfl, _⟩, rfl, rfl⟩
    exact ⟨hlt, rfl, rfl⟩
  · rintro ⟨hlt, rfl, rfl⟩
    exact ⟨_, ⟨hlt, rfl⟩, _, ⟨hlt, rfl⟩, _, ⟨rfl, hlt⟩, rfl, rfl⟩

end Progress

/-- The next binding is the first one that is not in use. -/
lemma Numbered.mem_of_lt_freeBinding {progress : Progress} {pins added : List ℕ}
    (h : Numbered pins added progress) {n : ℕ} (hn : n < progress.freeBinding) :
    n ∈ pins ∨ n ∈ added := by
  rcases lt_or_ge n progress.nextBinding with hbefore | hafter
  · exact h.filled n hbefore
  · have htaken := UsedSlots.not_free_of_lt_firstFit hafter hn
    rw [← bindingSpan, h.free_iff] at htaken
    tauto

/-- **One more binding is numbered after the others.** -/
lemma Numbered.take {progress : Progress} {pins added : List ℕ}
    (h : Numbered pins added progress) (hfits : progress.freeBinding + 1 < word32Limit) :
    Numbered pins (added ++ [progress.freeBinding])
      (progress.withBinding progress.freeBinding) := by
  have hfree : progress.freeBinding ∉ pins ∧ progress.freeBinding ∉ added :=
    h.free_iff.1 (UsedSlots.firstFit_free _ _ _)
  have hle : progress.nextBinding ≤ progress.freeBinding := UsedSlots.le_firstFit _ _ _
  refine ⟨?_, ?_, ?_, ?_, ?_, hfits⟩
  · show progress.usage.bindings ++ [_] = _
    rw [h.slots, ← List.append_assoc, List.map_append, List.map_append, List.map_append]
    rfl
  · rw [List.pairwise_append]
    refine ⟨h.increasing, List.pairwise_singleton _ _, fun binding hbinding last hlast => ?_⟩
    rw [List.mem_singleton.1 hlast]
    exact (h.below binding hbinding).trans_le hle
  · rw [List.forall_mem_append, List.forall_mem_singleton]
    exact ⟨h.avoids, hfree.1⟩
  · rw [List.forall_mem_append, List.forall_mem_singleton]
    exact ⟨fun binding hbinding => (h.below binding hbinding).trans_le (hle.trans (Nat.le_succ _)),
      Nat.lt_succ_self _⟩
  · intro n hn
    have hn : n < progress.freeBinding + 1 := hn
    rw [List.mem_append, List.mem_singleton, ← or_assoc]
    rcases Nat.lt_succ_iff_lt_or_eq.1 hn with hlt | rfl
    · exact Or.inl (h.mem_of_lt_freeBinding hlt)
    · exact Or.inr rfl

namespace Progress

variable {stage : Stage} {source : Text} {progress after : Progress} {pins added : List ℕ}

/-- Every declarator is given a binding. -/
lemma takeBindings_numbered : ∀ {declarators : List Declarator} {progress after : Progress}
    {added : List ℕ} {parts : List (Text × Declarator)}, Numbered pins added progress →
    progress.takeBindings declarators = .ok (parts, after) →
      ∃ new, parts = (new.map bindingArgument).zip declarators ∧
        new.length = declarators.length ∧ Numbered pins (added ++ new) after
  | [], progress, after, added, parts, hnumbered, h => by
      simp only [takeBindings, Except.ok.injEq, Prod.mk.injEq] at h
      obtain ⟨rfl, rfl⟩ := h
      exact ⟨[], rfl, rfl, by rwa [List.append_nil]⟩
  | declarator :: rest, progress, after, added, parts, hnumbered, h => by
      simp only [takeBindings, bind_eq_ok, pure_eq_ok, Prod.mk.injEq] at h
      obtain ⟨⟨binding, middle⟩, htake, ⟨later, last⟩, hrest, rfl, rfl⟩ := h
      obtain ⟨hfits, rfl, rfl⟩ := takeBinding_eq_ok.1 htake
      obtain ⟨new, rfl, hlength, hlast⟩ := takeBindings_numbered (hnumbered.take hfits) hrest
      refine ⟨progress.freeBinding :: new, rfl, by rw [List.length_cons, hlength, List.length_cons],
        ?_⟩
      rwa [List.append_assoc, List.singleton_append] at hlast

/-- Giving locations has nothing to do with bindings. -/
lemma place_bindings {shared : Bool} {wanted : Variable} {p : Placement}
    (h : progress.place shared wanted = .ok (p, after)) :
    after.usage.bindings = progress.usage.bindings ∧ after.nextBinding = progress.nextBinding := by
  simp only [place, bind_eq_ok, pure_eq_ok, Prod.mk.injEq] at h
  obtain ⟨⟨location, chosen⟩, hchoose, usage, hclaim, _, rfl⟩ := h
  obtain ⟨_, ⟨varyings, rfl⟩, _⟩ := chooseLocation_eq_ok hchoose
  have hbindings := Usage.claim_bindings hclaim
  exact ⟨hbindings, rfl⟩

lemma takeLocations_numbered {d : InterfaceDeclaration} {space : LocationSpace} {shared : Bool}
    {declarators : List Declarator} {placements : List Placement}
    (hnumbered : Numbered pins added progress)
    (h : takeLocations d space shared progress declarators = .ok (placements, after)) :
    Numbered pins added after :=
  hnumbered.congr (takeLocations_keeps (fun hplace => (place_bindings hplace).1) h)
    (takeLocations_keeps (fun hplace => (place_bindings hplace).2) h)

/-! ## The whole pass -/

/-- **Declarations are treated in three ways.**  A resource without a binding gets bindings, other
declarations give their unlocated variables locations, and some are left alone. -/
lemma layOut_cases (stage : Stage) (source : Text) (progress : Progress)
    (d : InterfaceDeclaration) :
    (¬ d.Unbound ∧ d.unlocated stage = [] ∧ layOut stage source progress d = .ok progress) ∨
      (d.Unbound ∧ d.unlocated stage = [] ∧
        layOut stage source progress d = layOutResource source progress d) ∨
      (¬ d.Unbound ∧ ∃ space, d.unlocated stage = d.wanted space d.declarators ∧
        layOut stage source progress d
          = layOutVariables source progress d space (isShared stage space)) := by
  unfold layOut
  split_ifs with hbuiltin hresource hbinding hlaid
  · refine Or.inl ⟨fun hunbound => ?_, d.unlocated_of_builtin hbuiltin, rfl⟩
    rw [hunbound.1] at hbuiltin
    exact Bool.noConfusion hbuiltin
  · refine Or.inl ⟨fun hunbound => ?_,
      d.unlocated_of_unlocatable (locationSpace?_of_resource hresource), rfl⟩
    rw [hunbound.2.2] at hbinding
    exact Bool.noConfusion hbinding
  · rw [Bool.not_eq_true] at hbuiltin
    rw [Option.not_isSome_iff_eq_none] at hbinding
    exact Or.inr (Or.inl ⟨⟨hbuiltin, hresource, hbinding⟩,
      d.unlocated_of_unlocatable (locationSpace?_of_resource hresource), rfl⟩)
  · exact Or.inl ⟨fun hunbound => hresource hunbound.2.1,
      InterfaceDeclaration.unlocated_eq_nil_iff.2 (Or.inr (Or.inr (Or.inl hlaid))),
      by split <;> rfl⟩
  · have hbound : ¬ d.Unbound := fun hunbound => hresource hunbound.2.1
    split
    · next hspace => exact Or.inl ⟨hbound, d.unlocated_of_unlocatable hspace, rfl⟩
    · next space shared hspace =>
        obtain rfl := eq_isShared hspace
        refine Or.inr (Or.inr ⟨hbound, space, ?_, rfl⟩)
        rw [InterfaceDeclaration.unlocated, if_neg hbuiltin, hspace]
        exact if_neg hlaid

/-- What laying out a declaration does, as it concerns bindings: `new` are given, with `edits`. -/
structure Binds (stage : Stage) (source : Text) (pins added : List ℕ) (progress after : Progress)
    (d : InterfaceDeclaration) (new : List ℕ) (edits : List Edit) : Prop where
  numbered : Numbered pins (added ++ new) after
  edits_eq : after.edits = progress.edits ++ edits
  bound : ∀ {ds : List InterfaceDeclaration} {bindings : List ℕ} {later : List Edit},
    Bound stage source ds bindings later →
      Bound stage source (d :: ds) (new ++ bindings) (edits ++ later)

lemma binds_alone {d : InterfaceDeclaration} (hnumbered : Numbered pins added progress)
    (hbound : ¬ d.Unbound) (hlocated : d.unlocated stage = []) :
    Binds stage source pins added progress progress d [] [] where
  numbered := by rwa [List.append_nil]
  edits_eq := (List.append_nil _).symm
  bound := .alone hbound hlocated

lemma layOutResource_binds {d : InterfaceDeclaration} (hnumbered : Numbered pins added progress)
    (hunbound : d.Unbound) (h : layOutResource source progress d = .ok after) :
    ∃ new edits, Binds stage source pins added progress after d new edits := by
  unfold layOutResource at h
  split_ifs at h with hblock
  · simp only [bind_eq_ok, pure_eq_ok] at h
    obtain ⟨⟨binding, middle⟩, htake, rfl⟩ := h
    obtain ⟨hfits, rfl, rfl⟩ := takeBinding_eq_ok.1 htake
    exact ⟨[_], [_], (hnumbered.take hfits).congr rfl rfl, rfl, .block hunbound hblock _⟩
  · simp only [bind_eq_ok, pure_eq_ok] at h
    obtain ⟨⟨parts, middle⟩, htake, rfl⟩ := h
    have hedits := (takeBindings_edits htake).1
    obtain ⟨new, rfl, hlength, hmiddle⟩ := takeBindings_numbered hnumbered htake
    rw [Bool.not_eq_true] at hblock
    refine ⟨new, [_], hmiddle.congr rfl rfl, ?_, .each hunbound hblock new hlength⟩
    rw [edit, hedits]

lemma layOutVariables_binds {d : InterfaceDeclaration} {space : LocationSpace}
    (hnumbered : Numbered pins added progress) (hbound : ¬ d.Unbound)
    (hunlocated : d.unlocated stage = d.wanted space d.declarators)
    (h : layOutVariables source progress d space (isShared stage space) = .ok after) :
    ∃ new edits, Binds stage source pins added progress after d new edits := by
  simp only [layOutVariables, bind_eq_ok, pure_eq_ok] at h
  obtain ⟨⟨placements, middle⟩, htake, rfl⟩ := h
  have hmiddle := takeLocations_numbered hnumbered htake
  have hedits := takeLocations_edits htake
  obtain ⟨_, _, hvars⟩ := takeLocations_run htake
  rw [← InterfaceDeclaration.wanted, ← hunlocated] at hvars
  split_ifs with hempty
  · have hnil : placements = [] := List.isEmpty_iff.1 hempty
    rw [hnil, List.map_nil] at hvars
    refine ⟨[], [], by rwa [List.append_nil], ?_, .alone hbound hvars.symm⟩
    rw [hedits, List.append_nil]
  · have hne : d.unlocated stage ≠ [] := by
      rw [← hvars, Ne, List.map_eq_nil_iff]
      exact fun hnil => hempty (List.isEmpty_iff.2 hnil)
    refine ⟨[], [_], ?_, ?_, .located hbound hne placements hvars⟩
    · rw [List.append_nil]
      exact hmiddle.congr rfl rfl
    · rw [edit, hedits]

/-- **Laying out a declaration numbers its bindings after the others.** -/
lemma layOut_binds {d : InterfaceDeclaration} (hnumbered : Numbered pins added progress)
    (h : layOut stage source progress d = .ok after) :
    ∃ new edits, Binds stage source pins added progress after d new edits := by
  rcases layOut_cases stage source progress d with ⟨hbound, hlocated, heq⟩ | ⟨hunbound, _, heq⟩
    | ⟨hbound, space, hunlocated, heq⟩
  · obtain rfl := Except.ok.inj (heq.symm.trans h)
    exact ⟨[], [], binds_alone hnumbered hbound hlocated⟩
  · exact layOutResource_binds hnumbered hunbound (heq.symm.trans h)
  · exact layOutVariables_binds hnumbered hbound hunlocated (heq.symm.trans h)

lemma layOutAll_binds : ∀ {declarations : List InterfaceDeclaration} {progress after : Progress}
    {added : List ℕ}, Numbered pins added progress →
    declarations.foldlM (layOut stage source) progress = .ok after →
      ∃ bindings edits, Bound stage source declarations bindings edits ∧
        after.edits = progress.edits ++ edits ∧ Numbered pins (added ++ bindings) after
  | [], progress, after, added, hnumbered, h => by
      rw [List.foldlM_nil, pure_eq_ok] at h
      subst h
      exact ⟨[], [], .nil, (List.append_nil _).symm, by rwa [List.append_nil]⟩
  | d :: rest, progress, after, added, hnumbered, h => by
      rw [List.foldlM_cons, bind_eq_ok] at h
      obtain ⟨middle, hd, hrest⟩ := h
      obtain ⟨new, edits, hmiddle, hedits, hbound⟩ := layOut_binds hnumbered hd
      obtain ⟨bindings, later, hlater, hlast, hnumbered⟩ := layOutAll_binds hmiddle hrest
      refine ⟨new ++ bindings, edits ++ later, hbound hlater, ?_, ?_⟩
      · rw [hlast, hedits, List.append_assoc]
      · rwa [← List.append_assoc]

end Progress

/-- The numbering that the second pass starts from. -/
lemma numbered_start {stage : Stage} {source : Text} {usage : Usage} {varyings : VaryingLocations}
    (h : pinned stage (InterfaceDeclaration.all source) = .ok usage) :
    Numbered (pinnedBindings source) [] { usage, varyings } where
  slots := by rw [List.append_nil]; exact pinned_bindings h
  increasing := .nil
  avoids := by simp
  below := by simp
  filled := fun n hn => absurd hn (Nat.not_lt_zero n)
  fits := show 0 < word32Limit by decide

/-- **Bindings are numbered in order.**  The text that a source is laid out to is the source with
the edits made that `Bound` lists.  The bindings that these add, all of them in set 1, increase
strictly in source order, and none of them is pinned down anywhere in the source. -/
theorem bindings_increasing {stage : Stage} {source : Text} {varyings : VaryingLocations}
    {out : LaidOut} (h : assignLayouts stage source varyings = .ok out) :
    ∃ bindings edits, Bound stage source (InterfaceDeclaration.all source) bindings edits ∧
      out.text = Edit.applyAll source edits ∧ bindings.Pairwise (· < ·) ∧
      (∀ binding ∈ bindings, binding ∉ pinnedBindings source) ∧
      ∀ binding, bindingArgument binding = "set = 1, binding = ".toList ++ ofNat binding := by
  simp only [assignLayouts, bind_eq_ok, pure_eq_ok] at h
  obtain ⟨usage, hpinned, last, hlast, rfl⟩ := h
  obtain ⟨bindings, edits, hbound, hedits, hnumbered⟩ :=
    Progress.layOutAll_binds (numbered_start hpinned) hlast
  rw [List.nil_append] at hnumbered hedits
  refine ⟨bindings, edits, hbound, ?_, hnumbered.increasing, hnumbered.avoids, fun _ => rfl⟩
  show Edit.applyAll source last.edits = _
  rw [hedits]

/-- Resources of all three shapes, between two that have their bindings. -/
def pinnedAround : Text :=
  "layout(binding=1)uniform T p;uniform T a,b;buffer B{T x;};out T v;layout(binding=3)uniform T q;"
    |>.toList

/-- The same shader with all layout arguments added. -/
def pinnedAroundLaidOut : Text :=
  ("layout(binding=1)uniform T p;layout(set = 1, binding = 0) uniform T a; " ++
    "layout(set = 1, binding = 2) uniform T b;layout(set = 1, binding = 4) buffer B{T x;};" ++
    "layout(location = 0) out T v;layout(binding=3)uniform T q;").toList

/-- The bindings that are pinned down are passed over, also the one that is only pinned down at the
end of the source. -/
theorem bindings_increasing_pinnedAround :
    ∃ out, assignLayouts .vertex pinnedAround {} = .ok out ∧ out.text = pinnedAroundLaidOut ∧
      ∃ bindings edits,
        Bound .vertex pinnedAround (InterfaceDeclaration.all pinnedAround) bindings edits ∧
        out.text = Edit.applyAll pinnedAround edits ∧ bindings.Pairwise (· < ·) ∧
        (∀ binding ∈ bindings, binding ∉ pinnedBindings pinnedAround) ∧
        ∀ binding, bindingArgument binding = "set = 1, binding = ".toList ++ ofNat binding := by
  have hrun : (assignLayouts .vertex pinnedAround {}).map LaidOut.text
      = .ok pinnedAroundLaidOut := by
    unfold pinnedAround pinnedAroundLaidOut
    simp only [String.toList_append]
    repeat rw [toList_literal rfl]
    decide +kernel
  obtain ⟨out, hout, htext⟩ := map_eq_ok.1 hrun
  exact ⟨out, hout, htext, bindings_increasing hout⟩

end GlBridge.Layout
