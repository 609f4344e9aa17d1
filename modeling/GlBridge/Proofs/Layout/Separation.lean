import GlBridge.Proofs.Entries
import GlBridge.Proofs.Layout.Placement

/-!
# Locations do not overlap

Locations come from four places: pins in the source, the first fit of a shader's own, the registry,
and the fallback of the registry once it is full.  All four respect one list of taken ranges, and
that list is the invariant here.

**Pins.**  `pinnedSpans` reads off the declarations which ranges a source pins down;
`pinned_slots` says that the first pass takes exactly these.

**Separation.**  `Separate pins space` says that the taken ranges of an interface are the pins and
the ranges placed so far, and that a placed range is apart from all others.  A run keeps it
(`Run.separate`), since a placement goes where nothing is in the way.

**Names.**  A later placement overwrites the name of an earlier one only at the same location, and
ranges with at least one slot that are apart start at different locations (`Run.named`).
-/

namespace GlBridge.Layout

open Glsl

/-! ## What a source pins down -/

namespace InterfaceDeclaration

/-- How many slots the declarators take together. -/
def totalSlots (d : InterfaceDeclaration) : ℕ :=
  (d.declarators.map fun x => locationSlots d.typeToken.text * x.arrayLength).sum

/-- The range of an interface that a declaration pins down: from the location that it says, and at
least one slot. -/
def pinnedSpan? (stage : Stage) (space : LocationSpace) (d : InterfaceDeclaration) : Option Span :=
  match locationSpace? stage d.declaration.storage, d.declaration.layoutValue "location" with
  | some (own, _), some (some location) =>
    if own = space then some { start := location, stop := location + max d.totalSlots 1 } else none
  | _, _ => none

end InterfaceDeclaration

/-- The ranges of an interface that a source pins down. -/
def pinnedSpans (stage : Stage) (space : LocationSpace) (source : Text) : List Span :=
  (InterfaceDeclaration.all source).filterMap (·.pinnedSpan? stage space)

lemma pinDeclarators_eq_ok {d : InterfaceDeclaration} {space : LocationSpace} {location : ℕ} :
    ∀ {declarators : List Declarator} {slots total : ℕ} {usage after : Usage},
      pinDeclarators d space location slots usage declarators = .ok (total, after) →
      total = slots + (declarators.map fun x => locationSlots d.typeToken.text * x.arrayLength).sum ∧
        ∀ other, after.slots other = usage.slots other
  | [], slots, total, usage, after, h => by
      simp only [pinDeclarators, Except.ok.injEq, Prod.mk.injEq] at h
      obtain ⟨rfl, rfl⟩ := h
      exact ⟨rfl, fun _ => rfl⟩
  | declarator :: rest, slots, total, usage, after, h => by
      simp only [pinDeclarators, bind_eq_ok] at h
      obtain ⟨place, _, width, hwidth, next, hnext, h⟩ := h
      obtain ⟨rfl, _⟩ := Word32.check_eq_ok.1 hwidth
      obtain ⟨rfl, _⟩ := Word32.check_eq_ok.1 hnext
      obtain ⟨rfl, hslots⟩ := pinDeclarators_eq_ok h
      refine ⟨?_, fun other => (hslots other).trans (Usage.record_slots ..)⟩
      rw [List.map_cons, List.sum_cons, Nat.add_assoc]

/-- A declaration takes the range that it pins down, and nothing else. -/
lemma pin_slots {stage : Stage} {usage after : Usage} {d : InterfaceDeclaration}
    (h : pin stage usage d = .ok after) (space : LocationSpace) :
    after.slots space = usage.slots space ++ (d.pinnedSpan? stage space).toList := by
  unfold pin at h
  split_ifs at h with hresource
  · have hpin : d.pinnedSpan? stage space = none := by
      rw [InterfaceDeclaration.pinnedSpan?, locationSpace?_of_resource hresource]
    rw [hpin, Option.toList_none, List.append_nil]
    split at h
    · simp only [Usage.claimBinding, bind_eq_ok, pure_eq_ok] at h
      obtain ⟨_, _, rfl⟩ := h
      cases space <;> rfl
    · obtain rfl := Except.ok.inj h
      rfl
  · split at h
    · next own shared location hspace hlocation =>
        rw [InterfaceDeclaration.pinnedSpan?, hspace, hlocation]
        simp only [bind_eq_ok] at h
        obtain ⟨⟨total, named⟩, hnamed, hclaim⟩ := h
        obtain ⟨htotal, hslots⟩ := pinDeclarators_eq_ok hnamed
        obtain ⟨hself, hother, _⟩ := Usage.claim_eq_ok hclaim
        rw [Nat.zero_add] at htotal
        by_cases hown : own = space
        · subst hown
          simp only [if_true]
          rw [hself, hslots, htotal]
          rfl
        · simp only [if_neg hown]
          rw [hother space (Ne.symm hown), hslots, Option.toList_none, List.append_nil]
    · next hne =>
        obtain rfl := Except.ok.inj h
        have hpin : d.pinnedSpan? stage space = none := by
          unfold InterfaceDeclaration.pinnedSpan?
          split
          · next hspace hlocation => exact absurd hlocation (hne _ _ _ hspace)
          · rfl
        rw [hpin, Option.toList_none, List.append_nil]

/-- **The first pass takes what the source pins down.** -/
theorem pinned_slots {stage : Stage} {source : Text} {usage : Usage}
    (h : pinned stage (InterfaceDeclaration.all source) = .ok usage) (space : LocationSpace) :
    usage.slots space = pinnedSpans stage space source := by
  have hpinned := foldlM_appends h fun _ _ _ hd => pin_slots hd space
  rw [hpinned, ← List.filterMap_eq_flatMap_toList]
  cases space <;> rfl

/-! ## Separation -/

/-- The taken ranges of an interface are pins and placements, and the placements are apart from
all of them. -/
structure Separate (pins : List Span) (space : LocationSpace) (progress : Progress) : Prop where
  slots : progress.usage.slots space = pins ++ (placedIn space progress.placements).map Placement.span
  pins_apart : ∀ taken ∈ pins, ∀ p ∈ placedIn space progress.placements, taken.Apart p.span
  apart : (placedIn space progress.placements).Pairwise fun p q => p.span.Apart q.span

lemma Places.separate {stage : Stage} {before after : Progress} {p : Placement}
    {pins : List Span} {space : LocationSpace} (hp : Places stage before after p)
    (h : Separate pins space before) : Separate pins space after := by
  by_cases hspace : space = p.space
  · subst hspace
    have hplaced : placedIn p.space after.placements = placedIn p.space before.placements ++ [p] := by
      rw [hp.placements, placedIn_append, placedIn_self]
    have hfree := hp.free
    rw [h.slots] at hfree
    refine ⟨?_, ?_, ?_⟩
    · rw [hp.slots_self, h.slots, hplaced, List.map_append, List.append_assoc]
      rfl
    · intro taken htaken q hq
      rw [hplaced, List.mem_append, List.mem_singleton] at hq
      rcases hq with hq | rfl
      · exact h.pins_apart taken htaken q hq
      · exact hfree taken (List.mem_append_left _ htaken)
    · rw [hplaced, List.pairwise_append]
      refine ⟨h.apart, List.pairwise_singleton _ _, ?_⟩
      intro q hq q' hq'
      rw [List.mem_singleton.1 hq']
      exact hfree q.span (List.mem_append_right _ (List.mem_map_of_mem hq))
  · have hplaced : placedIn space after.placements = placedIn space before.placements := by
      rw [hp.placements, placedIn_append, placedIn_other hspace, List.append_nil]
    refine ⟨?_, ?_, ?_⟩
    · rw [hp.slots_other space hspace, hplaced, h.slots]
    · rw [hplaced]
      exact h.pins_apart
    · rw [hplaced]
      exact h.apart

/-- **A run keeps ranges apart.** -/
theorem Run.separate {stage : Stage} {start last : Progress} {pins : List Span}
    {space : LocationSpace} (hrun : Run stage start last) (h : Separate pins space start) :
    Separate pins space last := by
  induction hrun with
  | refl => exact h
  | place _ hp ih => exact hp.separate ih
  | pass _ hp ih =>
      obtain ⟨hslots, hpins, hapart⟩ := ih
      refine ⟨?_, ?_, ?_⟩
      · rw [hp.slots, hp.placements, hslots]
      · rw [hp.placements]
        exact hpins
      · rw [hp.placements]
        exact hapart

/-- The separation that the second pass starts from. -/
lemma separate_start {stage : Stage} {source : Text} {usage : Usage} {varyings : VaryingLocations}
    (h : pinned stage (InterfaceDeclaration.all source) = .ok usage) (space : LocationSpace) :
    Separate (pinnedSpans stage space source) space { usage, varyings } := by
  refine ⟨?_, ?_, List.Pairwise.nil⟩
  · rw [pinned_slots h space]
    exact (List.append_nil _).symm
  · intro _ _ p hp
    exact absurd hp List.not_mem_nil

/-! ## Names -/

/-- The names of one of the two interfaces. -/
def InterfaceNames.of (names : InterfaceNames) : LocationSpace → LocationNames
  | .inputs => names.inputs
  | .outputs => names.outputs

/-- What is found after a name was recorded. -/
lemma LocationNames.lookup_record (names : LocationNames) (location other : ℕ) (name : Text) :
    (names.record location name).lookup other
      = if other = location then some name else names.lookup other :=
  lookup_insert names location other name

lemma InterfaceNames.record_of_self (names : InterfaceNames) (space : LocationSpace)
    (location : ℕ) (name : Text) :
    (names.record space location name).of space = (names.of space).record location name := by
  cases space <;> rfl

lemma InterfaceNames.record_of_other (names : InterfaceNames) {space other : LocationSpace}
    (location : ℕ) (name : Text) (hne : other ≠ space) :
    (names.record space location name).of other = names.of other := by
  cases space <;> cases other <;> trivial

/-- **A run names what it places**, as long as every placement takes a slot. -/
theorem Run.named {stage : Stage} {start last : Progress} {pins : List Span}
    {space : LocationSpace} (hrun : Run stage start last) (h : Separate pins space start)
    (hnone : start.placements = [])
    (htake : ∀ p ∈ placedIn space last.placements, 0 < p.slots) :
    ∀ p ∈ placedIn space last.placements,
      (last.usage.names.of space).lookup p.location = some p.name := by
  induction hrun with
  | refl =>
      rw [hnone]
      intro p hp
      exact absurd hp List.not_mem_nil
  | @place middle last p hbefore hp ih =>
      by_cases hspace : space = p.space
      · subst hspace
        rw [hp.placements, placedIn_append, placedIn_self] at htake ⊢
        rw [hp.names, InterfaceNames.record_of_self]
        intro q hq
        rw [List.mem_append, List.mem_singleton] at hq
        rcases hq with hq | rfl
        · have hfree := hp.free
          rw [(hbefore.separate h).slots] at hfree
          have hapart := hfree q.span (List.mem_append_right _ (List.mem_map_of_mem hq))
          have hq_take := htake q (List.mem_append_left _ hq)
          have hp_take := htake p (List.mem_append_right _ (List.mem_singleton.2 rfl))
          have hne : q.location ≠ p.location :=
            hapart.start_ne (Nat.lt_add_of_pos_right hq_take) (Nat.lt_add_of_pos_right hp_take)
          rw [LocationNames.lookup_record, if_neg hne]
          exact ih (fun r hr => htake r (List.mem_append_left _ hr)) q hq
        · rw [LocationNames.lookup_record, if_pos rfl]
      · rw [hp.placements, placedIn_append, placedIn_other hspace, List.append_nil] at htake ⊢
        rw [hp.names, InterfaceNames.record_of_other _ _ _ hspace]
        exact ih htake
  | pass _ hp ih =>
      rw [hp.placements] at htake ⊢
      rw [hp.names]
      exact ih htake

/-! ## The result -/

lemma locationSlots_pos (typeName : Text) : 0 < locationSlots typeName := by
  simp only [locationSlots]
  split <;> decide

/-- Only an array of length 0 takes no slot. -/
lemma slots_pos_of_mem_unlocated {stage : Stage} {source : Text} {x : Variable}
    (hx : x ∈ unlocated stage source) (hlength : x.declarator.arrayLength ≠ 0) : 0 < x.slots := by
  obtain ⟨d, _, hx⟩ := List.mem_flatMap.1 hx
  unfold InterfaceDeclaration.unlocated at hx
  split at hx
  · exact absurd hx List.not_mem_nil
  split at hx
  · exact absurd hx List.not_mem_nil
  split at hx
  · exact absurd hx List.not_mem_nil
  · obtain ⟨declarator, _, rfl⟩ := List.mem_map.1 hx
    exact Nat.mul_pos (locationSlots_pos _) (Nat.pos_of_ne_zero hlength)

/-- The placements of an interface are those of its unlocated variables. -/
lemma map_placedIn {stage : Stage} {source : Text} {placements : List Placement}
    (h : placements.map Placement.toVariable = unlocated stage source) (space : LocationSpace) :
    (placedIn space placements).map Placement.toVariable = unlocatedIn stage space source := by
  rw [unlocatedIn, ← h, placedIn, List.filter_map]
  rfl

/-- **Given locations overlap with nothing, and the name table is faithful.**  Every unlocated
variable of an interface is placed.  The ranges placed are disjoint from each other and from every
range that the source pins down, and unless some array has length 0, the names map the location
of each placement to its own name. -/
theorem placements_disjoint {stage : Stage} {source : Text} {varyings : VaryingLocations}
    {out : LaidOut} (h : assignLayouts stage source varyings = .ok out) (space : LocationSpace) :
    (placedIn space out.placements).map Placement.toVariable = unlocatedIn stage space source ∧
      (placedIn space out.placements).Pairwise
        (fun p q => Disjoint p.span.numbers q.span.numbers) ∧
      (∀ p ∈ placedIn space out.placements, ∀ taken ∈ pinnedSpans stage space source,
        Disjoint taken.numbers p.span.numbers) ∧
      ((∀ x ∈ unlocatedIn stage space source, x.declarator.arrayLength ≠ 0) →
        ∀ p ∈ placedIn space out.placements,
          (out.names.of space).lookup p.location = some p.name) := by
  obtain ⟨usage, last, hpinned, hrun, hnames, _, hplaced, hvars⟩ := assignLayouts_run h
  have hstart : Separate (pinnedSpans stage space source) space { usage, varyings } :=
    separate_start hpinned space
  obtain ⟨_, hpins, hapart⟩ := hrun.separate hstart
  rw [← hplaced] at hpins hapart
  refine ⟨map_placedIn hvars space, ?_, ?_, ?_⟩
  · exact hapart.imp fun hpq => hpq.disjoint
  · intro p hp taken htaken
    exact (hpins taken htaken p hp).disjoint
  · intro hlength
    rw [hnames, hplaced]
    refine hrun.named hstart rfl ?_
    intro p hp
    rw [← hplaced] at hp
    have hx : p.toVariable ∈ unlocatedIn stage space source := by
      rw [← map_placedIn hvars space]
      exact List.mem_map_of_mem hp
    exact slots_pos_of_mem_unlocated (List.mem_filter.1 hx).1 (hlength _ hx)

/-- A vertex shader whose outputs leave little room: a pin, a matrix and an array of matrices. -/
def crowdedVertex : Text :=
  "layout(location=1) out vec4 p;out mat3 m,n[2];out vec4 b;".toList

/-- A registry that is full and whose location for the matrix is taken by the pin. -/
def crowdedRegistry : VaryingLocations :=
  { assigned := [("m".toList, 0), ("b".toList, 5)], next := 15 }

/-- The fallback of a full registry finds room beside the pin and the remembered locations. -/
theorem placements_disjoint_crowded :
    ∃ out, assignLayouts .vertex crowdedVertex crowdedRegistry = .ok out ∧
      (placedIn .outputs out.placements).map (fun p => (p.name, p.location, p.slots))
        = [("m".toList, 2, 3), ("n".toList, 5, 6), ("b".toList, 0, 1)] ∧
      (placedIn .outputs out.placements).Pairwise
        (fun p q => Disjoint p.span.numbers q.span.numbers) ∧
      (∀ x ∈ unlocatedIn .vertex .outputs crowdedVertex, x.declarator.arrayLength ≠ 0) ∧
      ∀ p ∈ placedIn .outputs out.placements,
        (out.names.of .outputs).lookup p.location = some p.name := by
  -- one evaluation, so that the source is read once
  have hall : (assignLayouts .vertex crowdedVertex crowdedRegistry).map
        (fun out => (placedIn .outputs out.placements).map fun p => (p.name, p.location, p.slots))
        = .ok [("m".toList, 2, 3), ("n".toList, 5, 6), ("b".toList, 0, 1)] ∧
      ∀ x ∈ unlocatedIn .vertex .outputs crowdedVertex, x.declarator.arrayLength ≠ 0 := by
    unfold crowdedVertex
    repeat rw [Text.toList_literal rfl]
    decide +kernel
  obtain ⟨hrun, hlength⟩ := hall
  obtain ⟨out, hout, hplaced⟩ := map_eq_ok.1 hrun
  obtain ⟨_, hapart, _, hnamed⟩ := placements_disjoint hout .outputs
  exact ⟨out, hout, hplaced, hapart, hlength, hnamed hlength⟩

end GlBridge.Layout
