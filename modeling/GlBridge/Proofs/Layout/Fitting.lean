import GlBridge.Proofs.Layout.Numbering
import GlBridge.Proofs.Layout.Room
import GlBridge.Proofs.Layout.Separation

/-!
# What fits 32 bits

Locations, bindings and array lengths come from the text of a shader, and they may be any numbers
of 32 bits.  Sums and products of them need not fit: laying out a source ends with `Overflow` then.
This file says for which sources and registries that happens.

**Pins.**  The first pass needs the ends of the ranges that the source pins down, and these are the
largest numbers it works out.

**Locations.**  The second pass looks for them in the `Room` that the pins and the registry leave.

**Bindings.**  These fill up all numbers from 0 on that are not pinned down (`Numbered.filled`), so
for them it is enough to count.

* `Progress.completes_layOut` — laying out one declaration, whatever has been done before;
* **`assignLayouts_completes_iff`** — laying out a source;
* `assignLayouts_completes` — sources whose numbers are moderate;
* `assignLayouts_overflows` — the largest binding that a source can write does not fit.
-/

namespace GlBridge.Layout

open Glsl

/-! ## Pins -/

/-- Slots are claimed without overflow if the last of them is a number that fits. -/
lemma Usage.completes_claim {usage : Usage} {space : LocationSpace} {start slots : ℕ} :
    Completes (usage.claim space start slots) ↔ start + slots < word32Limit := by
  rw [Usage.claim]
  cases space <;> exact (completes_bind_of fun _ => completes_pure _).trans UsedSlots.completes_claim

/-- A binding is claimed without overflow if the next one fits. -/
lemma Usage.completes_claimBinding {usage : Usage} {binding : ℕ} :
    Completes (usage.claimBinding binding) ↔ binding + 1 < word32Limit :=
  (completes_bind_of fun _ => completes_pure _).trans UsedSlots.completes_claim

/-- Naming declarators from a location on completes if there is room for their slots after it. -/
lemma completes_pinDeclarators {d : InterfaceDeclaration} {space : LocationSpace} {location : ℕ} :
    ∀ {declarators : List Declarator} {slots : ℕ} {usage : Usage},
      location + (slots + (declarators.map fun x =>
        locationSlots d.typeToken.text * x.arrayLength).sum) < word32Limit →
      Completes (pinDeclarators d space location slots usage declarators)
  | [], slots, usage, h => completes_ok _
  | declarator :: rest, slots, usage, h => by
      rw [List.map_cons, List.sum_cons] at h
      rw [pinDeclarators, completes_bind]
      refine ⟨_, Word32.check_eq_ok.2 ⟨rfl, by omega⟩, ?_⟩
      rw [completes_bind]
      refine ⟨_, Word32.check_eq_ok.2 ⟨rfl, by omega⟩, ?_⟩
      rw [completes_bind]
      refine ⟨_, Word32.check_eq_ok.2 ⟨rfl, by omega⟩, ?_⟩
      exact completes_pinDeclarators (by omega)

namespace InterfaceDeclaration

variable {stage : Stage} {d : InterfaceDeclaration}

/-- A declaration pins the binding that it is given. -/
lemma mem_pinnedBinding? {binding : ℕ} : binding ∈ d.pinnedBinding? ↔
    d.declaration.storage.isResource = true ∧
      d.declaration.layoutValue "binding" = some (some binding) := by
  rw [pinnedBinding?, Option.mem_def, Option.ite_none_right_eq_some, Option.join_eq_some_iff]

/-- A declaration pins the slots from the location that it is given on, one at least. -/
lemma mem_pinnedSpan? {space : LocationSpace} {span : Span} : span ∈ d.pinnedSpan? stage space ↔
    ∃ shared location, locationSpace? stage d.declaration.storage = some (space, shared) ∧
      d.declaration.layoutValue "location" = some (some location) ∧
      span = { start := location, stop := location + max d.totalSlots 1 } := by
  unfold pinnedSpan?
  split
  · next own shared location hspace hlocation =>
      simp [hspace, hlocation, eq_comm]
  · next hne =>
      refine iff_of_false (by simp) ?_
      rintro ⟨shared, location, hspace, hlocation, _⟩
      exact hne _ _ _ hspace hlocation

/-- What a declaration pins down fits 32 bits. -/
def PinsFit (stage : Stage) (d : InterfaceDeclaration) : Prop :=
  (∀ binding ∈ d.pinnedBinding?, binding + 1 < word32Limit) ∧
    ∀ space, ∀ span ∈ d.pinnedSpan? stage space, span.stop < word32Limit

variable {space : LocationSpace} {declarator : Declarator} {rest : List Declarator}

/-- A declarator is a variable that wants its slots. -/
lemma wanted_cons (h : ¬ "gl_".toList.isPrefixOf declarator.name = true) :
    d.wanted space (declarator :: rest)
      = { space, declarator, slots := locationSlots d.typeToken.text * declarator.arrayLength }
        :: d.wanted space rest := by
  rw [wanted, List.filter_cons_of_pos (by simp only [h, Bool.not_false]), List.map_cons, ← wanted]

/-- Built-in names want nothing. -/
lemma wanted_cons_builtin (h : "gl_".toList.isPrefixOf declarator.name = true) :
    d.wanted space (declarator :: rest) = d.wanted space rest := by
  rw [wanted, List.filter_cons_of_neg (by simp only [h, Bool.not_true, Bool.false_eq_true,
    not_false_eq_true]), ← wanted]

end InterfaceDeclaration

/-- A declaration can be pinned down exactly if what it pins down fits. -/
lemma completes_pin {stage : Stage} {usage : Usage} {d : InterfaceDeclaration} :
    Completes (pin stage usage d) ↔ d.PinsFit stage := by
  simp only [InterfaceDeclaration.PinsFit, InterfaceDeclaration.mem_pinnedBinding?,
    InterfaceDeclaration.mem_pinnedSpan?]
  unfold pin
  split_ifs with hresource
  · rw [locationSpace?_of_resource hresource]
    split
    · next binding hbinding =>
        rw [Usage.completes_claimBinding, hbinding]
        simp [hresource]
    · next hnone =>
        refine iff_of_true (completes_ok _) ⟨fun binding h => ?_, by simp⟩
        exact absurd h.2 (hnone binding)
  · split
    · next space shared location hspace hlocation =>
        rw [completes_bind]
        constructor
        · rintro ⟨⟨total, named⟩, hnamed, hclaim⟩
          rw [Usage.completes_claim, (pinDeclarators_eq_ok hnamed).1, Nat.zero_add] at hclaim
          refine ⟨fun binding h => absurd h.1 hresource, ?_⟩
          rintro other _ ⟨_, location', _, hlocation', rfl⟩
          obtain rfl := Option.some.inj (Option.some.inj (hlocation.symm.trans hlocation'))
          exact hclaim
        · rintro ⟨_, hspan⟩
          have hlt := hspan space _ ⟨shared, location, hspace, hlocation, rfl⟩
          have hroom : location + (0 + d.totalSlots) < word32Limit := by
            have : location + max d.totalSlots 1 < word32Limit := hlt
            omega
          obtain ⟨⟨total, named⟩, hnamed⟩ := completes_pinDeclarators hroom
          refine ⟨_, hnamed, ?_⟩
          rw [Usage.completes_claim, (pinDeclarators_eq_ok hnamed).1, Nat.zero_add]
          exact hlt
    · next hne =>
        refine iff_of_true (completes_ok _) ⟨fun binding h => absurd h.1 hresource, ?_⟩
        rintro space _ ⟨shared, location, hspace, hlocation, _⟩
        exact absurd hlocation (hne _ _ _ hspace)

/-- What a source pins down fits 32 bits. -/
def PinsFit (stage : Stage) (source : Text) : Prop :=
  (∀ binding ∈ pinnedBindings source, binding + 1 < word32Limit) ∧
    ∀ space, ∀ span ∈ pinnedSpans stage space source, span.stop < word32Limit

/-- The first pass completes if everything it pins fits. -/
lemma completes_pinned {stage : Stage} {source : Text} :
    Completes (pinned stage (InterfaceDeclaration.all source)) ↔ PinsFit stage source := by
  rw [pinned, completes_foldlM (P := (·.PinsFit stage)) fun _ _ => completes_pin]
  simp only [PinsFit, InterfaceDeclaration.PinsFit, pinnedBindings, pinnedSpans,
    List.mem_filterMap, Option.mem_def]
  constructor
  · intro h
    refine ⟨?_, ?_⟩
    · rintro binding ⟨d, hd, hbinding⟩
      exact (h d hd).1 binding hbinding
    · rintro space span ⟨d, hd, hspan⟩
      exact (h d hd).2 space span hspan
  · rintro ⟨hbindings, hspans⟩ d hd
    exact ⟨fun binding hbinding => hbindings binding ⟨d, hd, hbinding⟩,
      fun space span hspan => hspans space span ⟨d, hd, hspan⟩⟩

/-! ## Locations -/

namespace Progress

variable {stage : Stage} {source : Text} {progress after : Progress} {wanted : Variable}

/-- What there is room for. -/
def room (progress : Progress) : Room :=
  { slots := progress.usage.slots, varyings := progress.varyings }

/-- A location is chosen without overflow if the room admits the variable. -/
lemma completes_chooseLocation : Completes (progress.chooseLocation wanted.space
    (isShared stage wanted.space) wanted.name wanted.slots) ↔ progress.room.Admits stage wanted := by
  unfold chooseLocation Room.Admits
  split_ifs
  · exact (completes_bind_of fun _ => completes_pure _).trans VaryingLocations.completes_locate
  · exact (completes_bind_of fun _ => completes_pure _).trans UsedSlots.completes_firstFree

/-- Where a choice completes, it is the one in the room. -/
lemma chooseLocation_eq_choose {location : ℕ} (h : progress.chooseLocation wanted.space
    (isShared stage wanted.space) wanted.name wanted.slots = .ok (location, after)) :
    progress.room.choose stage wanted = (location, after.varyings) := by
  unfold chooseLocation at h
  unfold Room.choose
  split_ifs at h ⊢
  · simp only [bind_eq_ok, pure_eq_ok, Prod.mk.injEq] at h
    obtain ⟨⟨_, varyings⟩, hlocate, rfl, rfl⟩ := h
    exact (VaryingLocations.locate_located hlocate).settle_eq
  · simp only [bind_eq_ok, UsedSlots.firstFree_eq_ok, pure_eq_ok, Prod.mk.injEq] at h
    obtain ⟨_, ⟨_, rfl⟩, rfl, rfl⟩ := h
    rfl

/-- A variable is placed without overflow if its slots fit as well. -/
lemma completes_place : Completes (progress.place (isShared stage wanted.space) wanted) ↔
    progress.room.Admits stage wanted := by
  rw [place, completes_bind]
  constructor
  · rintro ⟨_, hchoose, _⟩
    exact completes_chooseLocation.1 ⟨_, hchoose⟩
  · intro hadmits
    obtain ⟨⟨location, chosen⟩, hchoose⟩ := completes_chooseLocation.2 hadmits
    have hlt := hadmits.choose_lt
    rw [chooseLocation_eq_choose hchoose] at hlt
    exact ⟨_, hchoose,
      (completes_bind_of fun _ => completes_pure _).2 (Usage.completes_claim.2 hlt)⟩

/-- A placement takes the room that the choice gives it. -/
lemma place_room {p : Placement}
    (h : progress.place (isShared stage wanted.space) wanted = .ok (p, after)) :
    after.room = progress.room.give stage wanted := by
  simp only [place, bind_eq_ok, pure_eq_ok, Prod.mk.injEq] at h
  obtain ⟨⟨location, chosen⟩, hchoose, usage, hclaim, _, rfl⟩ := h
  obtain ⟨_, ⟨varyings, rfl⟩, _⟩ := chooseLocation_eq_ok hchoose
  obtain ⟨hself, hother, _⟩ := Usage.claim_eq_ok hclaim
  have hchosen := chooseLocation_eq_choose hchoose
  rw [room, Room.give, Room.spanOf, hchosen, Room.mk.injEq]
  refine ⟨funext fun space => ?_, rfl⟩
  rw [Usage.record_slots]
  by_cases hspace : space = wanted.space
  · subst hspace
    rw [Function.update_self, hself]
    rfl
  · rw [Function.update_of_ne hspace, hother space hspace]
    rfl

/-- The room after a declaration is what is left once each of its variables has been given some. -/
lemma takeLocations_room {d : InterfaceDeclaration} {space : LocationSpace} :
    ∀ {declarators : List Declarator} {progress after : Progress} {placements : List Placement},
      takeLocations d space (isShared stage space) progress declarators = .ok (placements, after) →
        after.room = (d.wanted space declarators).foldl (Room.give stage) progress.room
  | [], progress, after, placements, h => by
      simp only [takeLocations, Except.ok.injEq, Prod.mk.injEq] at h
      rw [← h.2]
      rfl
  | declarator :: rest, progress, after, placements, h => by
      rw [takeLocations] at h
      split_ifs at h with hbuiltin
      · rw [InterfaceDeclaration.wanted_cons_builtin hbuiltin]
        exact takeLocations_room h
      · simp only [bind_eq_ok, pure_eq_ok, Prod.mk.injEq] at h
        obtain ⟨slots, hslots, ⟨p, middle⟩, hplace, ⟨later, last⟩, hrest, _, rfl⟩ := h
        obtain ⟨rfl, _⟩ := Word32.check_eq_ok.1 hslots
        rw [InterfaceDeclaration.wanted_cons hbuiltin, List.foldl_cons, ← place_room hplace]
        exact takeLocations_room hrest

/-- The variables of a declaration are placed without overflow if all of them fit, one after the
other. -/
lemma completes_takeLocations {d : InterfaceDeclaration} {space : LocationSpace} :
    ∀ {declarators : List Declarator} {progress : Progress},
      Completes (takeLocations d space (isShared stage space) progress declarators) ↔
        progress.room.Fits stage (d.wanted space declarators)
  | [], progress => iff_of_true (completes_ok _) trivial
  | declarator :: rest, progress => by
      rw [takeLocations]
      split_ifs with hbuiltin
      · rw [InterfaceDeclaration.wanted_cons_builtin hbuiltin]
        exact completes_takeLocations
      · rw [InterfaceDeclaration.wanted_cons hbuiltin, Room.Fits, completes_bind]
        constructor
        · rintro ⟨slots, hslots, hrest⟩
          obtain ⟨rfl, _⟩ := Word32.check_eq_ok.1 hslots
          obtain ⟨⟨p, middle⟩, hplace, hrest⟩ := completes_bind.1 hrest
          rw [completes_bind_of fun _ => completes_pure _, completes_takeLocations,
            place_room hplace] at hrest
          exact ⟨completes_place.1 ⟨_, hplace⟩, hrest⟩
        · rintro ⟨hadmits, hrest⟩
          have hlt := (Nat.le_add_left _ _).trans_lt hadmits.choose_lt
          refine ⟨_, Word32.check_eq_ok.2 ⟨rfl, hlt⟩, ?_⟩
          obtain ⟨⟨p, middle⟩, hplace⟩ := completes_place.2 hadmits
          rw [← place_room hplace] at hrest
          exact completes_bind.2 ⟨_, hplace,
            (completes_bind_of fun _ => completes_pure _).2 (completes_takeLocations.2 hrest)⟩

/-! ## Counting bindings -/

/-- A binding is taken without overflow if the one after it fits. -/
lemma completes_takeBinding :
    Completes progress.takeBinding ↔ progress.freeBinding + 1 < word32Limit := by
  constructor
  · rintro ⟨⟨binding, after⟩, htake⟩
    obtain ⟨hlt, rfl, _⟩ := takeBinding_eq_ok.1 htake
    exact hlt
  · intro hlt
    exact ⟨_, takeBinding_eq_ok.2 ⟨hlt, rfl, rfl⟩⟩

end Progress

namespace Numbered

variable {pins added : List ℕ} {progress : Progress}

/-- Bindings in use are counted once. -/
lemma card_eq (h : Numbered pins added progress) :
    (pins ++ added).toFinset.card = pins.toFinset.card + added.length := by
  have hdisjoint : Disjoint pins.toFinset added.toFinset := by
    rw [Finset.disjoint_right]
    intro binding hbinding
    rw [List.mem_toFinset] at hbinding ⊢
    exact h.avoids binding hbinding
  have hnodup : added.Nodup := h.increasing.imp fun hlt => hlt.ne
  rw [List.toFinset_append, Finset.card_union_of_disjoint hdisjoint,
    List.toFinset_card_of_nodup hnodup]

/-- Bindings in use that fit with their ends are among the first `word32Limit - 1` numbers. -/
lemma subset_range (h : Numbered pins added progress)
    (hpins : ∀ binding ∈ pins, binding + 1 < word32Limit) :
    (pins ++ added).toFinset ⊆ Finset.range (word32Limit - 1) := by
  intro binding hbinding
  rw [Finset.mem_range, Nat.lt_sub_iff_add_lt]
  rcases List.mem_append.1 (List.mem_toFinset.1 hbinding) with hpin | hadded
  · exact hpins binding hpin
  · exact (Nat.succ_le_of_lt (h.below binding hadded)).trans_lt h.fits

/-- There are fewer bindings than numbers, since none of them is the last. -/
lemma card_lt (h : Numbered pins added progress)
    (hpins : ∀ binding ∈ pins, binding + 1 < word32Limit) :
    pins.toFinset.card + added.length < word32Limit := by
  have hcard := Finset.card_le_card (h.subset_range hpins)
  rw [h.card_eq, Finset.card_range] at hcard
  exact hcard.trans_lt (by decide)

/-- **One more binding fits if and only if there are fewer bindings in use than fit.**  If the next
one does not fit, then all that fit are in use, since none is left out. -/
lemma fits_iff (h : Numbered pins added progress)
    (hpins : ∀ binding ∈ pins, binding + 1 < word32Limit) :
    progress.freeBinding + 1 < word32Limit ↔
      pins.toFinset.card + added.length + 1 < word32Limit := by
  rw [← h.card_eq]
  have hsubset := h.subset_range hpins
  have hfree : progress.freeBinding ∉ (pins ++ added).toFinset := by
    rw [List.mem_toFinset, List.mem_append, not_or, ← h.free_iff]
    exact UsedSlots.firstFit_free _ _ _
  constructor
  · intro hlt
    have hcard := Finset.card_le_card (Finset.insert_subset
      (Finset.mem_range.2 (Nat.lt_sub_iff_add_lt.2 hlt)) hsubset)
    rw [Finset.card_insert_of_notMem hfree, Finset.card_range] at hcard
    exact hcard.trans_lt (by decide)
  · intro hlt
    by_contra hpast
    have hall : Finset.range (word32Limit - 1) ⊆ (pins ++ added).toFinset := by
      intro n hn
      rw [Finset.mem_range] at hn
      rw [List.mem_toFinset, List.mem_append]
      exact h.mem_of_lt_freeBinding (by omega)
    have hcard := Finset.card_le_card hall
    rw [Finset.card_range] at hcard
    omega

end Numbered

namespace InterfaceDeclaration

/-- How many bindings a declaration needs. -/
def bindingsNeeded (d : InterfaceDeclaration) : ℕ :=
  if d.Unbound then if d.declaration.isBlock then 1 else d.declarators.length else 0

end InterfaceDeclaration

/-- How many bindings a source needs beside those that it pins down. -/
def bindingsNeeded (source : Text) : ℕ :=
  ((InterfaceDeclaration.all source).map InterfaceDeclaration.bindingsNeeded).sum

/-- Each resource takes as many bindings as it needs. -/
lemma Bound.length_eq {stage : Stage} {source : Text} {ds : List InterfaceDeclaration}
    {bindings : List ℕ} {edits : List Edit} (h : Bound stage source ds bindings edits) :
    bindings.length = (ds.map InterfaceDeclaration.bindingsNeeded).sum := by
  induction h with
  | nil => rfl
  | block hunbound hblock binding h ih =>
      rw [List.length_cons, ih, List.map_cons, List.sum_cons, InterfaceDeclaration.bindingsNeeded,
        if_pos hunbound, if_pos hblock, Nat.add_comm]
  | each hunbound hblock added hlength h ih =>
      rw [List.length_append, ih, hlength, List.map_cons, List.sum_cons,
        InterfaceDeclaration.bindingsNeeded, if_pos hunbound, if_neg (by simp [hblock])]
  | located hbound hne placements hplacements h ih =>
      rw [ih, List.map_cons, List.sum_cons, InterfaceDeclaration.bindingsNeeded, if_neg hbound,
        Nat.zero_add]
  | alone hbound hlocated h ih =>
      rw [ih, List.map_cons, List.sum_cons, InterfaceDeclaration.bindingsNeeded, if_neg hbound,
        Nat.zero_add]

namespace Progress

variable {stage : Stage} {source : Text} {progress after : Progress} {pins added : List ℕ}
  {d : InterfaceDeclaration}

/-- Bindings are taken without overflow if there are enough numbers for them. -/
lemma completes_takeBindings (hpins : ∀ binding ∈ pins, binding + 1 < word32Limit) :
    ∀ {declarators : List Declarator} {progress : Progress} {added : List ℕ},
      Numbered pins added progress → (Completes (progress.takeBindings declarators) ↔
        pins.toFinset.card + added.length + declarators.length < word32Limit)
  | [], progress, added, hnumbered => iff_of_true (completes_ok _) (hnumbered.card_lt hpins)
  | declarator :: rest, progress, added, hnumbered => by
      rw [takeBindings, completes_bind, List.length_cons]
      have hrest (hfits : progress.freeBinding + 1 < word32Limit) :
          Completes ((progress.withBinding progress.freeBinding).takeBindings rest) ↔ _ :=
        completes_takeBindings hpins (hnumbered.take hfits)
      simp only [List.length_append, List.length_singleton] at hrest
      constructor
      · rintro ⟨⟨binding, middle⟩, htake, hlater⟩
        obtain ⟨hfits, rfl, rfl⟩ := takeBinding_eq_ok.1 htake
        rw [completes_bind_of fun _ => completes_pure _, hrest hfits] at hlater
        omega
      · intro hlt
        have hfits := (hnumbered.fits_iff hpins).2 (by omega)
        refine ⟨_, takeBinding_eq_ok.2 ⟨hfits, rfl, rfl⟩, ?_⟩
        rw [completes_bind_of fun _ => completes_pure _, hrest hfits]
        omega

/-! ## The whole pass -/

/-- A resource is laid out without overflow if there are enough numbers for its bindings. -/
lemma completes_layOutResource (hnumbered : Numbered pins added progress)
    (hpins : ∀ binding ∈ pins, binding + 1 < word32Limit) (hunbound : d.Unbound) :
    Completes (layOutResource source progress d) ↔
      pins.toFinset.card + added.length + d.bindingsNeeded < word32Limit := by
  rw [layOutResource, InterfaceDeclaration.bindingsNeeded, if_pos hunbound]
  split_ifs
  · rw [completes_bind_of fun _ => completes_pure _, completes_takeBinding, hnumbered.fits_iff hpins]
  · rw [completes_bind_of fun _ => completes_pure _, completes_takeBindings hpins hnumbered]

/-- **A declaration can be laid out if and only if there are enough bindings and room for its
variables.** -/
lemma completes_layOut (hnumbered : Numbered pins added progress)
    (hpins : ∀ binding ∈ pins, binding + 1 < word32Limit) :
    Completes (layOut stage source progress d) ↔
      pins.toFinset.card + added.length + d.bindingsNeeded < word32Limit ∧
        progress.room.Fits stage (d.unlocated stage) := by
  have henough (hbound : ¬ d.Unbound) :
      pins.toFinset.card + added.length + d.bindingsNeeded < word32Limit := by
    rw [InterfaceDeclaration.bindingsNeeded, if_neg hbound]
    exact hnumbered.card_lt hpins
  rcases layOut_cases stage source progress d with ⟨hbound, hlocated, heq⟩
    | ⟨hunbound, hlocated, heq⟩ | ⟨hbound, space, hunlocated, heq⟩
  · rw [heq, hlocated]
    exact iff_of_true (completes_ok _) ⟨henough hbound, trivial⟩
  · rw [heq, hlocated, completes_layOutResource hnumbered hpins hunbound]
    exact (and_iff_left trivial).symm
  · rw [heq, hunlocated, layOutVariables, completes_bind_of fun _ => completes_pure _,
      completes_takeLocations]
    exact (and_iff_right (henough hbound)).symm

/-- Bindings take no room from variables. -/
lemma withBinding_room (progress : Progress) (binding : ℕ) :
    (progress.withBinding binding).room = progress.room := by
  rw [room, Room.mk.injEq]
  exact ⟨funext fun space => by cases space <;> rfl, rfl⟩

/-- However many are taken, they take none. -/
lemma takeBindings_room : ∀ {declarators : List Declarator} {progress after : Progress}
    {parts : List (Text × Declarator)},
    progress.takeBindings declarators = .ok (parts, after) → after.room = progress.room
  | [], progress, after, parts, h => by
      simp only [takeBindings, Except.ok.injEq, Prod.mk.injEq] at h
      rw [h.2]
  | declarator :: rest, progress, after, parts, h => by
      simp only [takeBindings, bind_eq_ok, pure_eq_ok, Prod.mk.injEq] at h
      obtain ⟨⟨binding, middle⟩, htake, ⟨later, last⟩, hrest, _, rfl⟩ := h
      obtain ⟨_, _, rfl⟩ := takeBinding_eq_ok.1 htake
      exact (takeBindings_room hrest).trans (progress.withBinding_room binding)

/-- So resources leave the room as it is. -/
lemma layOutResource_room (h : layOutResource source progress d = .ok after) :
    after.room = progress.room := by
  unfold layOutResource at h
  split_ifs at h
  · simp only [bind_eq_ok, pure_eq_ok] at h
    obtain ⟨⟨binding, middle⟩, htake, rfl⟩ := h
    obtain ⟨_, _, rfl⟩ := takeBinding_eq_ok.1 htake
    exact progress.withBinding_room binding
  · simp only [bind_eq_ok, pure_eq_ok] at h
    obtain ⟨⟨parts, middle⟩, htake, rfl⟩ := h
    have hmiddle : middle.room = progress.room := takeBindings_room htake
    exact hmiddle

/-- What a declaration takes of the room is what its variables take that have no location. -/
lemma layOut_room (h : layOut stage source progress d = .ok after) :
    after.room = (d.unlocated stage).foldl (Room.give stage) progress.room := by
  rcases layOut_cases stage source progress d with ⟨_, hlocated, heq⟩ | ⟨_, hlocated, heq⟩
    | ⟨_, space, hunlocated, heq⟩
  · obtain rfl := Except.ok.inj (heq.symm.trans h)
    rw [hlocated, List.foldl_nil]
  · rw [hlocated, List.foldl_nil]
    exact layOutResource_room (heq.symm.trans h)
  · rw [heq] at h
    simp only [layOutVariables, bind_eq_ok, pure_eq_ok] at h
    obtain ⟨⟨placements, middle⟩, htake, rfl⟩ := h
    rw [hunlocated, ← takeLocations_room htake]
    split_ifs <;> rfl

/-- Declarations are laid out without overflow if there are numbers for all bindings and room for
all variables, in their order. -/
lemma completes_layOutAll (hpins : ∀ binding ∈ pins, binding + 1 < word32Limit) :
    ∀ {declarations : List InterfaceDeclaration} {progress : Progress} {added : List ℕ},
      Numbered pins added progress → (Completes (declarations.foldlM (layOut stage source) progress) ↔
        pins.toFinset.card + added.length
            + (declarations.map InterfaceDeclaration.bindingsNeeded).sum < word32Limit ∧
          progress.room.Fits stage (declarations.flatMap (·.unlocated stage)))
  | [], progress, added, hnumbered =>
      iff_of_true (completes_ok _) ⟨hnumbered.card_lt hpins, trivial⟩
  | d :: rest, progress, added, hnumbered => by
      rw [List.foldlM_cons, completes_bind, List.map_cons, List.sum_cons, List.flatMap_cons,
        Room.fits_append]
      have hstep {middle : Progress} (hd : layOut stage source progress d = .ok middle) :
          Completes (rest.foldlM (layOut stage source) middle) ↔
            pins.toFinset.card + added.length + (d.bindingsNeeded
                + (rest.map InterfaceDeclaration.bindingsNeeded).sum) < word32Limit ∧
              ((d.unlocated stage).foldl (Room.give stage) progress.room).Fits stage
                (rest.flatMap (·.unlocated stage)) := by
        obtain ⟨new, edits, hmiddle, _, hbound⟩ := layOut_binds hnumbered hd
        have hlength := (hbound .nil).length_eq
        rw [List.append_nil, List.map_singleton, List.sum_singleton] at hlength
        rw [completes_layOutAll hpins hmiddle, layOut_room hd, List.length_append, hlength,
          ← Nat.add_assoc, ← Nat.add_assoc]
      constructor
      · rintro ⟨middle, hd, hrest⟩
        obtain ⟨_, hfits⟩ := (completes_layOut hnumbered hpins).1 ⟨middle, hd⟩
        obtain ⟨hcount, hlater⟩ := (hstep hd).1 hrest
        exact ⟨hcount, hfits, hlater⟩
      · rintro ⟨hcount, hfits, hlater⟩
        obtain ⟨middle, hd⟩ := (completes_layOut hnumbered hpins).2 ⟨by omega, hfits⟩
        exact ⟨middle, hd, (hstep hd).2 ⟨hcount, hlater⟩⟩

end Progress

/-- The second pass, from what the source pins down. -/
lemma completes_secondPass {stage : Stage} {source : Text} {usage : Usage}
    {varyings : VaryingLocations}
    (hpinned : pinned stage (InterfaceDeclaration.all source) = .ok usage) :
    Completes ((InterfaceDeclaration.all source).foldlM (Progress.layOut stage source)
        { usage, varyings }) ↔
      (pinnedBindings source).toFinset.card + bindingsNeeded source < word32Limit ∧
      Room.Fits stage { slots := fun space => pinnedSpans stage space source, varyings }
        (unlocated stage source) := by
  have hpins := completes_pinned.1 ⟨usage, hpinned⟩
  have hroom : Progress.room { usage, varyings }
      = { slots := fun space => pinnedSpans stage space source, varyings } := by
    rw [Progress.room, Room.mk.injEq]
    exact ⟨funext fun space => pinned_slots hpinned space, rfl⟩
  rw [Progress.completes_layOutAll hpins.1 (numbered_start hpinned), hroom]
  rfl

/-- **A source can be laid out if and only if everything fits 32 bits**: what it pins down, its
bindings by their count, and its locations in the room that the pins and the registry leave. -/
theorem assignLayouts_completes_iff (stage : Stage) (source : Text) (varyings : VaryingLocations) :
    (∃ out, assignLayouts stage source varyings = .ok out) ↔
      (∀ binding ∈ pinnedBindings source, binding + 1 < word32Limit) ∧
      (∀ space, ∀ span ∈ pinnedSpans stage space source, span.stop < word32Limit) ∧
      (pinnedBindings source).toFinset.card + bindingsNeeded source < word32Limit ∧
      Room.Fits stage { slots := fun space => pinnedSpans stage space source, varyings }
        (unlocated stage source) := by
  change Completes (assignLayouts stage source varyings) ↔ _
  rw [← and_assoc, ← PinsFit, assignLayouts, completes_bind]
  constructor
  · rintro ⟨usage, hpinned, hrest⟩
    rw [completes_bind_of fun _ => completes_pure _, completes_secondPass hpinned] at hrest
    exact ⟨completes_pinned.1 ⟨usage, hpinned⟩, hrest⟩
  · rintro ⟨hpins, hrest⟩
    obtain ⟨usage, hpinned⟩ := completes_pinned.2 hpins
    refine ⟨usage, hpinned, ?_⟩
    rw [completes_bind_of fun _ => completes_pure _, completes_secondPass hpinned]
    exact hrest

/-- Sources whose numbers are moderate can be laid out: the numbers in use at first are within a
bound, and counted from it on, the slots of all variables still fit. -/
theorem assignLayouts_completes {stage : Stage} {source : Text} {varyings : VaryingLocations}
    {bound : ℕ} (hpins : ∀ binding ∈ pinnedBindings source, binding + 1 < word32Limit)
    (hcount : (pinnedBindings source).toFinset.card + bindingsNeeded source < word32Limit)
    (hwithin : Room.Within { slots := fun space => pinnedSpans stage space source, varyings } bound)
    (hslots : bound + ((unlocated stage source).map Variable.slots).sum < word32Limit) :
    ∃ out, assignLayouts stage source varyings = .ok out := by
  refine (assignLayouts_completes_iff stage source varyings).2 ⟨hpins, ?_, hcount,
    hwithin.fits hslots⟩
  intro space span hspan
  have hbound : span.stop ≤ bound := hwithin.slots space span hspan
  omega

/-- **Shaders can make layouts overflow.**  The largest number of 32 bits can be written as a
binding, but the end of its range does not fit. -/
theorem assignLayouts_overflows : assignLayouts .fragment
    "layout(binding = 4294967295) uniform sampler2D a;".toList {} = .error .overflow := by
  rw [Text.toList_literal rfl]
  decide +kernel

end GlBridge.Layout
