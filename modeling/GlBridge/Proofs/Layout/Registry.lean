import GlBridge.Proofs.Layout.Agreement

/-!
# One registry for many shaders

The registry outlives the shaders it serves.  This file follows it through any number of shaders,
laid out one after the other in any order, each with the varyings it happens to have.

**Packed registries.**  As long as there is room, the registry hands out locations like a stack
that only grows: the names it knows lie side by side below `next`, and `next` is the sum of their
widths.  `Packed` says so, with the set of known names as a parameter.

**One step.**  `Packed.locate` is the heart.  A known name finds its range free, since all that is
taken belongs to other known names (`Packed.unmoved`).  A new name finds `next` free, since all that
is taken ends there, and stays below the limit, since the widths of all names together do
(`Packed.appended`).  So neither the search for another place nor the fallback is ever taken.

**Runs and successions.**  `Run.packed` carries the invariant through a shader and
`Succession.packed` through all of them; what is known once keeps its location.
-/

namespace GlBridge.Layout

open Glsl

/-! ## Packed registries -/

/-- The range that a registry has for a name. -/
def VaryingLocations.Holds (registry : VaryingLocations) (width : Text → ℕ) (name : Text)
    (span : Span) : Prop :=
  registry.location? name = some span.start ∧ span.stop = span.start + width name

/-- The names in `known` have ranges of their widths side by side below `next`, and no other name
has one. -/
structure Packed (width : Text → ℕ) (known : Finset Text) (registry : VaryingLocations) :
    Prop where
  next : registry.next = ∑ name ∈ known, width name
  unknown : ∀ name ∉ known, registry.location? name = none
  ranges : ∀ name ∈ known, ∃ span, registry.Holds width name span ∧ span.stop ≤ registry.next
  apart : ∀ a ∈ known, ∀ b ∈ known, a ≠ b → ∀ x y, registry.Holds width a x →
    registry.Holds width b y → x.Apart y

lemma packed_empty (width : Text → ℕ) : Packed width ∅ {} where
  next := rfl
  unknown _ _ := rfl
  ranges name hname := absurd hname (Finset.notMem_empty name)
  apart a ha := absurd ha (Finset.notMem_empty a)

namespace VaryingLocations.Holds

variable {registry : VaryingLocations} {width : Text → ℕ} {name : Text} {x y : Span}

lemma unique (hx : registry.Holds width name x) (hy : registry.Holds width name y) : x = y := by
  obtain ⟨hstart, hstop⟩ := hx
  obtain ⟨hstart', hstop'⟩ := hy
  rw [hstart, Option.some.injEq] at hstart'
  obtain ⟨start, stop⟩ := x
  obtain ⟨start', stop'⟩ := y
  simp_all

end VaryingLocations.Holds

/-- A set of taken ranges in which nothing lies past a place leaves everything from there on
free. -/
lemma UsedSlots.firstFit_of_all_before {used : UsedSlots} {start slots : ℕ}
    (h : ∀ taken ∈ used, taken.stop ≤ start) : used.firstFit start slots = start :=
  firstFit_of_free fun taken htaken => Or.inl (h taken htaken)

namespace Packed

variable {width : Text → ℕ} {known : Finset Text} {registry after : VaryingLocations}
  {name : Text} {location : ℕ} {used : UsedSlots}

/-- A known name is given the range that it has, since all that is taken belongs to other known
names. -/
lemma unmoved (h : Packed width known registry) (hname : name ∈ known)
    (hused : ∀ taken ∈ used, ∃ other ∈ known, other ≠ name ∧ registry.Holds width other taken)
    (hlocated : registry.Located name (width name) used location after) : after = registry := by
  obtain ⟨span, hspan, _⟩ := h.ranges name hname
  have hfree : used.Free { start := span.start, stop := span.start + width name } := by
    intro taken htaken
    obtain ⟨other, hother, hne, hheld⟩ := hused taken htaken
    have hapart := h.apart other hother name hname hne taken span hheld hspan
    rwa [Span.Apart, hspan.2] at hapart
  exact (hlocated.eq_of_free hspan.1 hfree).2

/-- A new name is given `next`, since all that is taken ends there. -/
lemma appended (h : Packed width known registry) (hname : name ∉ known)
    (hroom : registry.next + width name ≤ varyingLimit)
    (hused : ∀ taken ∈ used, ∃ other ∈ known, registry.Holds width other taken)
    (hlocated : registry.Located name (width name) used location after) :
    location = registry.next ∧ after.next = registry.next + width name := by
  have hfit : used.firstFit registry.next (width name) = registry.next := by
    refine UsedSlots.firstFit_of_all_before fun taken htaken => ?_
    obtain ⟨other, hother, hheld⟩ := hused taken htaken
    obtain ⟨span, hspan, hstop⟩ := h.ranges other hother
    rw [hheld.unique hspan]
    exact hstop
  cases hlocated with
  | remembered hremembered _ =>
      rw [h.unknown name hname] at hremembered
      exact absurd hremembered (by simp)
  | fresh _ _ => rw [hfit]; exact ⟨rfl, rfl⟩
  | exhausted _ hpast => rw [hfit] at hpast; omega

/-- With a new name right after all others, a registry stays packed. -/
lemma extend (h : Packed width known registry) (hname : name ∉ known)
    (hself : after.location? name = some registry.next)
    (hothers : ∀ other ≠ name, after.location? other = registry.location? other)
    (hnext : after.next = registry.next + width name) :
    Packed width (insert name known) after := by
  have hholds : ∀ other ∈ known, ∀ span, after.Holds width other span →
      registry.Holds width other span := by
    intro other hother span hspan
    rwa [VaryingLocations.Holds, hothers other (ne_of_mem_of_not_mem hother hname)] at hspan
  -- the new range starts where all others end
  have hlast : ∀ other ∈ known, ∀ x y, after.Holds width other x →
      after.Holds width name y → x.stop ≤ y.start := by
    intro other hother x y hx hy
    obtain ⟨span, hspan, hstop⟩ := h.ranges other hother
    have hstart : registry.next = y.start := Option.some.inj (hself.symm.trans hy.1)
    rw [(hholds other hother x hx).unique hspan, ← hstart]
    exact hstop
  refine ⟨?next, ?unknown, ?ranges, ?apart⟩
  case next => rw [hnext, Finset.sum_insert hname, h.next, Nat.add_comm]
  case unknown =>
    intro other hother
    rw [Finset.mem_insert, not_or] at hother
    rw [hothers other hother.1]
    exact h.unknown other hother.2
  case ranges =>
    intro other hother
    rcases Finset.mem_insert.1 hother with rfl | hother
    · exact ⟨⟨registry.next, registry.next + width other⟩, ⟨hself, rfl⟩, hnext.ge⟩
    · obtain ⟨span, ⟨hstart, hwidth⟩, hstop⟩ := h.ranges other hother
      have hkept := hothers other (ne_of_mem_of_not_mem hother hname)
      exact ⟨span, ⟨hkept.trans hstart, hwidth⟩, by omega⟩
  case apart =>
    intro a ha b hb hne x y hx hy
    rcases Finset.mem_insert.1 ha with rfl | hold_a
    · rcases Finset.mem_insert.1 hb with rfl | hold_b
      · exact absurd rfl hne
      · exact Or.inr (hlast b hold_b y x hy hx)
    · rcases Finset.mem_insert.1 hb with rfl | hold_b
      · exact Or.inl (hlast a hold_a x y hx hy)
      · exact h.apart a hold_a b hold_b hne x y (hholds a hold_a x hx) (hholds b hold_b y hy)

/-- **A packed registry with room stays packed.**  What is asked for is known afterwards at the
location that is given, and what was known keeps its location. -/
theorem locate (h : Packed width known registry)
    (hroom : ∑ other ∈ insert name known, width other ≤ varyingLimit)
    (hused : ∀ taken ∈ used, ∃ other ∈ known, other ≠ name ∧ registry.Holds width other taken)
    (hlocated : registry.Located name (width name) used location after) :
    Packed width (insert name known) after ∧ after.location? name = some location ∧
      ∀ other ∈ known, after.location? other = registry.location? other := by
  have hself := hlocated.location?_self
  by_cases hname : name ∈ known
  · obtain rfl := h.unmoved hname hused hlocated
    rw [Finset.insert_eq_of_mem hname]
    exact ⟨h, hself, fun _ _ => rfl⟩
  · rw [Finset.sum_insert hname, ← h.next, Nat.add_comm] at hroom
    obtain ⟨rfl, hnext⟩ := h.appended hname hroom
      (fun taken htaken => (hused taken htaken).imp fun _ hother => ⟨hother.1, hother.2.2⟩)
      hlocated
    exact ⟨h.extend hname hself (fun _ hother => hlocated.location?_other hother) hnext, hself,
      fun _ hother => hlocated.location?_other (ne_of_mem_of_not_mem hother hname)⟩

end Packed

/-! ## One shader -/

/-- The placements of the interface that a stage shares with its neighbour. -/
def sharedPlacements (stage : Stage) (placements : List Placement) : List Placement :=
  placements.filter (isShared stage ·.space)

/-- The variables of that interface that a source leaves without a location. -/
def sharedUnlocated (stage : Stage) (source : Text) : List Variable :=
  (unlocated stage source).filter (isShared stage ·.space)

/-- Whether a source pins down no location of that interface. -/
def SharesUnpinned (stage : Stage) (source : Text) : Prop :=
  ∀ space, isShared stage space = true → pinnedSpans stage space source = []

instance (stage : Stage) (source : Text) : Decidable (SharesUnpinned stage source) :=
  decidable_of_iff
    ((isShared stage .inputs = true → pinnedSpans stage .inputs source = []) ∧
      (isShared stage .outputs = true → pinnedSpans stage .outputs source = []))
    ⟨fun h space => by cases space; exacts [h.1, h.2], fun h => ⟨h .inputs, h .outputs⟩⟩

lemma sharedPlacements_append (stage : Stage) (earlier later : List Placement) :
    sharedPlacements stage (earlier ++ later)
      = sharedPlacements stage earlier ++ sharedPlacements stage later :=
  List.filter_append ..

/-- The names that placements are for. -/
def placedNames (placements : List Placement) : List Text := placements.map fun p => p.name

lemma mem_placedNames {p : Placement} {placements : List Placement} (hp : p ∈ placements) :
    p.name ∈ placedNames placements := List.mem_map_of_mem hp

/-- A shared placement comes after the shared placements so far. -/
lemma Places.sharedPlacements_shared {stage : Stage} {before after : Progress} {p : Placement}
    (hp : Places stage before after p) (hshared : isShared stage p.space = true) :
    sharedPlacements stage after.placements
      = sharedPlacements stage before.placements ++ [p] := by
  rw [hp.placements, sharedPlacements_append]
  simp [sharedPlacements, hshared]

lemma Places.sharedPlacements_unshared {stage : Stage} {before after : Progress} {p : Placement}
    (hp : Places stage before after p) (hshared : isShared stage p.space = false) :
    sharedPlacements stage after.placements = sharedPlacements stage before.placements := by
  rw [hp.placements, sharedPlacements_append]
  simp [sharedPlacements, hshared]

/-- Without pins, all that is taken of a shared interface belongs to shared placements. -/
lemma Separate.exists_of_mem_slots {stage : Stage} {space : LocationSpace} {progress : Progress}
    {taken : Span} (h : Separate [] space progress) (hshared : isShared stage space = true)
    (htaken : taken ∈ progress.usage.slots space) :
    ∃ q ∈ sharedPlacements stage progress.placements, q.span = taken := by
  rw [h.slots, List.nil_append] at htaken
  obtain ⟨q, hq, hspan⟩ := List.mem_map.1 htaken
  obtain ⟨hmem, hspace⟩ := List.mem_filter.1 hq
  rw [decide_eq_true_eq] at hspace
  exact ⟨q, List.mem_filter.2 ⟨hmem, hspace ▸ hshared⟩, hspan⟩

lemma union_placedNames_append (known : Finset Text) (placements : List Placement)
    (p : Placement) :
    known ∪ (placedNames (placements ++ [p])).toFinset
      = insert p.name (known ∪ (placedNames placements).toFinset) := by
  rw [placedNames, List.map_append, List.map_singleton, List.toFinset_append, Finset.insert_eq,
    Finset.union_comm (Singleton.singleton p.name), Finset.union_assoc]
  rfl

/-- **A shader keeps the registry packed**, and all it shares is registered where it was
placed. -/
theorem Run.packed {stage : Stage} {start last : Progress} {width : Text → ℕ}
    {known : Finset Text} (hrun : Run stage start last)
    (hstart : ∀ space, isShared stage space = true → Separate [] space start)
    (hnone : start.placements = []) (hpacked : Packed width known start.varyings)
    (honce : (placedNames (sharedPlacements stage last.placements)).Nodup)
    (hwidth : ∀ p ∈ sharedPlacements stage last.placements, p.slots = width p.name)
    (hroom : ∑ name ∈ known ∪ (placedNames (sharedPlacements stage last.placements)).toFinset,
      width name ≤ varyingLimit) :
    Packed width (known ∪ (placedNames (sharedPlacements stage last.placements)).toFinset)
        last.varyings ∧
      (∀ p ∈ sharedPlacements stage last.placements,
        last.varyings.location? p.name = some p.location) ∧
      ∀ name ∈ known, last.varyings.location? name = start.varyings.location? name := by
  induction hrun with
  | refl =>
      rw [hnone]
      refine ⟨?_, fun p hp => absurd hp List.not_mem_nil, fun _ _ => rfl⟩
      simpa [sharedPlacements, placedNames] using hpacked
  | @place middle last p hbefore hp ih =>
      by_cases hshared : isShared stage p.space = true
      · rw [hp.sharedPlacements_shared hshared] at honce hwidth hroom ⊢
        rw [union_placedNames_append] at hroom ⊢
        rw [placedNames, List.map_append, List.map_singleton, List.nodup_append] at honce
        obtain ⟨honce, _, hfresh⟩ := honce
        obtain ⟨hpacked', hregistered, hkept⟩ := ih honce
          (fun q hq => hwidth q (List.mem_append_left _ hq))
          ((Finset.sum_le_sum_of_subset (Finset.subset_insert _ _)).trans hroom)
        have hknown : ∀ q ∈ sharedPlacements stage middle.placements, q.name ∈
            known ∪ (placedNames (sharedPlacements stage middle.placements)).toFinset :=
          fun q hq => Finset.mem_union_right _ (List.mem_toFinset.2 (mem_placedNames hq))
        -- what is taken belongs to the shared placements so far
        have hused : ∀ taken ∈ middle.usage.slots p.space, ∃ other ∈ known ∪
            (placedNames (sharedPlacements stage middle.placements)).toFinset,
              other ≠ p.name ∧ middle.varyings.Holds width other taken := by
          intro taken htaken
          obtain ⟨q, hq, rfl⟩ :=
            (hbefore.separate (hstart p.space hshared)).exists_of_mem_slots hshared htaken
          refine ⟨q.name, hknown q hq, hfresh q.name (List.mem_map_of_mem hq) p.name
            (List.mem_singleton.2 rfl), hregistered q hq, ?_⟩
          rw [← hwidth q (List.mem_append_left _ hq)]
          rfl
        have hlocated := hp.shared hshared
        rw [hwidth p (List.mem_append_right _ (List.mem_singleton.2 rfl))] at hlocated
        obtain ⟨hpacked'', hself, hkept'⟩ := hpacked'.locate hroom hused hlocated
        refine ⟨hpacked'', ?_, ?_⟩
        · intro q hq
          rw [List.mem_append, List.mem_singleton] at hq
          rcases hq with hq | rfl
          · rw [hkept' q.name (hknown q hq)]
            exact hregistered q hq
          · exact hself
        · intro name hname
          rw [hkept' name (Finset.mem_union_left _ hname), hkept name hname]
      · rw [Bool.not_eq_true] at hshared
        rw [hp.sharedPlacements_unshared hshared] at honce hwidth hroom ⊢
        rw [hp.unshared hshared]
        exact ih honce hwidth hroom
  | pass _ hp ih =>
      rw [hp.placements] at honce hwidth hroom ⊢
      rw [hp.varyings]
      exact ih honce hwidth hroom

/-! ## A succession of shaders -/

/-- A shader that has been laid out. -/
structure LaidOutShader where
  stage : Stage
  source : Text
  out : LaidOut

namespace LaidOutShader

/-- The shared variables that are to be located. -/
def shared (shader : LaidOutShader) : List Variable := sharedUnlocated shader.stage shader.source

/-- Where they have been placed. -/
def placed (shader : LaidOutShader) : List Placement :=
  sharedPlacements shader.stage shader.out.placements

end LaidOutShader

/-- Shaders laid out one after the other through one registry, which is empty at first. -/
inductive Succession : List LaidOutShader → VaryingLocations → Prop where
  | start : Succession [] {}
  | next {shaders : List LaidOutShader} {registry : VaryingLocations} {stage : Stage}
      {source : Text} {out : LaidOut} (h : Succession shaders registry)
      (hout : assignLayouts stage source registry = .ok out) :
      Succession (shaders ++ [LaidOutShader.mk stage source out]) out.varyings

/-- The shared names of a succession that are to be located. -/
def sharedNames (shaders : List LaidOutShader) : Finset Text :=
  (shaders.flatMap fun shader => shader.shared.map Variable.name).toFinset

lemma sharedNames_append (earlier later : List LaidOutShader) :
    sharedNames (earlier ++ later) = sharedNames earlier ∪ sharedNames later := by
  rw [sharedNames, List.flatMap_append, List.toFinset_append]
  rfl

lemma mem_sharedNames {shaders : List LaidOutShader} {shader : LaidOutShader} {x : Variable}
    (hshader : shader ∈ shaders) (hx : x ∈ shader.shared) : x.name ∈ sharedNames shaders :=
  List.mem_toFinset.2 (List.mem_flatMap.2 ⟨shader, hshader, List.mem_map_of_mem hx⟩)

/-- A shader's shared placements are those of its shared variables. -/
lemma map_sharedPlacements {stage : Stage} {source : Text} {placements : List Placement}
    (h : placements.map Placement.toVariable = unlocated stage source) :
    (sharedPlacements stage placements).map Placement.toVariable
      = sharedUnlocated stage source := by
  rw [sharedUnlocated, ← h, sharedPlacements, List.filter_map]
  rfl

/-- **A succession with room keeps its registry packed.**  Everything that the shaders share is
placed, at the location that the registry has for its name in the end. -/
theorem Succession.packed {shaders : List LaidOutShader} {registry : VaryingLocations}
    {width : Text → ℕ} (h : Succession shaders registry)
    (hpins : ∀ shader ∈ shaders, SharesUnpinned shader.stage shader.source)
    (honce : ∀ shader ∈ shaders, (shader.shared.map Variable.name).Nodup)
    (hwidth : ∀ shader ∈ shaders, ∀ x ∈ shader.shared, x.slots = width x.name)
    (hroom : ∑ name ∈ sharedNames shaders, width name ≤ varyingLimit) :
    Packed width (sharedNames shaders) registry ∧ ∀ shader ∈ shaders,
      shader.placed.map Placement.toVariable = shader.shared ∧
        ∀ p ∈ shader.placed, registry.location? p.name = some p.location := by
  induction h with
  | start => exact ⟨packed_empty width, fun shader hshader => absurd hshader List.not_mem_nil⟩
  | @next shaders registry stage source out _ hout ih =>
      set shader : LaidOutShader := { stage, source, out } with hshader
      have hlast : shader ∈ shaders ++ [shader] :=
        List.mem_append_right _ (List.mem_singleton.2 rfl)
      rw [sharedNames_append] at hroom
      obtain ⟨hpacked, hregistered⟩ := ih
        (fun s hs => hpins s (List.mem_append_left _ hs))
        (fun s hs => honce s (List.mem_append_left _ hs))
        (fun s hs => hwidth s (List.mem_append_left _ hs))
        ((Finset.sum_le_sum_of_subset Finset.subset_union_left).trans hroom)
      obtain ⟨usage, last, hpinned, hrun, _, hregistry, hplaced, hvars⟩ := assignLayouts_run hout
      have hvars : shader.placed.map Placement.toVariable = shader.shared :=
        map_sharedPlacements hvars
      have hnames : placedNames shader.placed = shader.shared.map Variable.name :=
        map_name_of_map_toVariable hvars
      have hfinset : (placedNames shader.placed).toFinset = sharedNames [shader] := by
        rw [hnames, sharedNames, List.flatMap_singleton]
      have hlast_placed : sharedPlacements stage last.placements = shader.placed := by
        rw [← hplaced]
        rfl
      have hstart : ∀ space, isShared stage space = true →
          Separate [] space { usage, varyings := registry } := by
        intro space hspace
        have hnopins : pinnedSpans stage space source = [] := hpins shader hlast space hspace
        exact hnopins ▸ separate_start hpinned space
      have hslots : ∀ p ∈ shader.placed, p.slots = width p.name := by
        intro p hp
        exact hwidth shader hlast _ (hvars ▸ List.mem_map_of_mem hp)
      obtain ⟨hpacked', hregistered', hkept⟩ := hrun.packed hstart rfl hpacked
        (by rw [hlast_placed, hnames]; exact honce shader hlast)
        (by rw [hlast_placed]; exact hslots)
        (by rw [hlast_placed, hfinset]; exact hroom)
      rw [hlast_placed] at hpacked' hregistered'
      rw [hfinset] at hpacked'
      rw [hregistry, sharedNames_append]
      refine ⟨hpacked', ?_⟩
      intro s hs
      rw [List.mem_append, List.mem_singleton] at hs
      rcases hs with hs | rfl
      · obtain ⟨hvars_s, hregistered_s⟩ := hregistered s hs
        refine ⟨hvars_s, fun p hp => ?_⟩
        have hknown : p.name ∈ sharedNames shaders :=
          mem_sharedNames hs (hvars_s ▸ List.mem_map_of_mem hp)
        exact (hkept p.name hknown).trans (hregistered_s p hp)
      · exact ⟨hvars, hregistered'⟩

/-- **A registry with room gives every name one location.**  Shaders are laid out one after the
other through a registry that is empty at first.  If they pin down nothing of what they share,
declare a shared name once each and everywhere with the same width, and the widths of all shared
names fit below the limit together, then every shader has every name at one place, and the places
of different names are disjoint and below the limit. -/
theorem shared_locations_consistent {shaders : List LaidOutShader} {registry : VaryingLocations}
    {width : Text → ℕ} (h : Succession shaders registry)
    (hpins : ∀ shader ∈ shaders, SharesUnpinned shader.stage shader.source)
    (honce : ∀ shader ∈ shaders, (shader.shared.map Variable.name).Nodup)
    (hwidth : ∀ shader ∈ shaders, ∀ x ∈ shader.shared, x.slots = width x.name)
    (hroom : ∑ name ∈ sharedNames shaders, width name ≤ varyingLimit) :
    (∀ shader ∈ shaders, shader.placed.map Placement.toVariable = shader.shared) ∧
      ∃ place : Text → ℕ,
        (∀ shader ∈ shaders, ∀ p ∈ shader.placed, p.location = place p.name) ∧
        (∀ name ∈ sharedNames shaders, place name + width name ≤ varyingLimit) ∧
        ∀ a ∈ sharedNames shaders, ∀ b ∈ sharedNames shaders, a ≠ b →
          Disjoint (Set.Ico (place a) (place a + width a))
            (Set.Ico (place b) (place b + width b)) := by
  obtain ⟨hpacked, hplaced⟩ := h.packed hpins honce hwidth hroom
  refine ⟨fun shader hshader => (hplaced shader hshader).1,
    fun name => (registry.location? name).getD 0, ?_, ?_, ?_⟩
  · intro shader hshader p hp
    simp only [(hplaced shader hshader).2 p hp, Option.getD_some]
  · intro name hname
    obtain ⟨span, ⟨hstart, hstop⟩, hbelow⟩ := hpacked.ranges name hname
    have hnext := hpacked.next
    simp only [hstart, Option.getD_some]
    omega
  · intro a ha b hb hne
    obtain ⟨x, hx, _⟩ := hpacked.ranges a ha
    obtain ⟨y, hy, _⟩ := hpacked.ranges b hb
    have hdisjoint := (hpacked.apart a ha b hb hne x y hx hy).disjoint
    rw [Span.numbers, Span.numbers, hx.2, hy.2] at hdisjoint
    simpa only [hx.1, hy.1, Option.getD_some] using hdisjoint

/-- Three shaders that fill a registry to its limit: the second one leaves out a varying of the
first one, the third one adds some and declares them in another order. -/
def fullSources : Text × Text × Text :=
  ("in vec4 p;out vec4 a;out mat3 m;".toList, "in vec4 b[4];in mat3 m;out vec4 c;".toList,
    "out mat4 n;out vec3 z[3],b[4];out vec4 a;".toList)

/-- How many locations each of their names takes. -/
def fullWidth (name : Text) : ℕ :=
  if name = "a".toList then 1 else if name = "m".toList ∨ name = "z".toList then 3 else 4

/-- The names get their locations in the order in which they are first seen, 15 in all. -/
theorem shared_locations_consistent_full :
    ∃ shaders registry, Succession shaders registry ∧
      shaders.map (fun shader => shader.placed.map fun p => (p.name, p.location))
        = [[("a".toList, 0), ("m".toList, 1)], [("b".toList, 4), ("m".toList, 1)],
          [("n".toList, 8), ("z".toList, 12), ("b".toList, 4), ("a".toList, 0)]] ∧
      (∀ shader ∈ shaders, SharesUnpinned shader.stage shader.source) ∧
      (∀ shader ∈ shaders, (shader.shared.map Variable.name).Nodup) ∧
      (∀ shader ∈ shaders, ∀ x ∈ shader.shared, x.slots = fullWidth x.name) ∧
      ∑ name ∈ sharedNames shaders, fullWidth name = varyingLimit ∧
      (∀ shader ∈ shaders, shader.placed.map Placement.toVariable = shader.shared) ∧
      ∃ place : Text → ℕ,
        (∀ shader ∈ shaders, ∀ p ∈ shader.placed, p.location = place p.name) ∧
        (∀ name ∈ sharedNames shaders, place name + fullWidth name ≤ varyingLimit) ∧
        ∀ a ∈ sharedNames shaders, ∀ b ∈ sharedNames shaders, a ≠ b →
          Disjoint (Set.Ico (place a) (place a + fullWidth a))
            (Set.Ico (place b) (place b + fullWidth b)) := by
  -- one evaluation, so that the sources are read once
  have hall : (assignLayouts .vertex fullSources.1 {} >>= fun u =>
        assignLayouts .fragment fullSources.2.1 u.varyings >>= fun v =>
          (assignLayouts .vertex fullSources.2.2 v.varyings).map fun w =>
            [sharedPlacements .vertex u.placements, sharedPlacements .fragment v.placements,
              sharedPlacements .vertex w.placements].map
                fun placed => placed.map fun p => (p.name, p.location))
        = .ok [[("a".toList, 0), ("m".toList, 1)], [("b".toList, 4), ("m".toList, 1)],
          [("n".toList, 8), ("z".toList, 12), ("b".toList, 4), ("a".toList, 0)]] ∧
      ∀ read ∈ [(Stage.vertex, fullSources.1), (.fragment, fullSources.2.1),
          (.vertex, fullSources.2.2)],
        SharesUnpinned read.1 read.2 ∧ ((sharedUnlocated read.1 read.2).map Variable.name).Nodup ∧
          ∀ x ∈ sharedUnlocated read.1 read.2, x.slots = fullWidth x.name := by
    unfold fullSources
    repeat rw [Text.toList_literal rfl]
    decide +kernel
  have hroom : ∑ name ∈ ([(Stage.vertex, fullSources.1), (.fragment, fullSources.2.1),
      (.vertex, fullSources.2.2)].flatMap fun read =>
        (sharedUnlocated read.1 read.2).map Variable.name).toFinset, fullWidth name
        = varyingLimit := by
    unfold fullSources
    repeat rw [Text.toList_literal rfl]
    decide +kernel
  obtain ⟨hrun, hsources⟩ := hall
  obtain ⟨u, hu, hrun⟩ := bind_eq_ok.1 hrun
  obtain ⟨v, hv, hrun⟩ := bind_eq_ok.1 hrun
  obtain ⟨w, hw, hplaced⟩ := map_eq_ok.1 hrun
  have hsuccession := ((Succession.start.next hu).next hv).next hw
  simp only [List.nil_append, List.cons_append] at hsuccession
  have hread : ∀ shader ∈ [LaidOutShader.mk .vertex fullSources.1 u,
      .mk .fragment fullSources.2.1 v, .mk .vertex fullSources.2.2 w],
      (shader.stage, shader.source) ∈ [(Stage.vertex, fullSources.1),
        (.fragment, fullSources.2.1), (.vertex, fullSources.2.2)] := by simp
  have hpins := fun shader hshader => (hsources _ (hread shader hshader)).1
  have honce := fun shader hshader => (hsources _ (hread shader hshader)).2.1
  have hwidth := fun shader hshader => (hsources _ (hread shader hshader)).2.2
  exact ⟨_, _, hsuccession, hplaced, hpins, honce, hwidth, hroom,
    shared_locations_consistent hsuccession hpins honce hwidth hroom.le⟩

end GlBridge.Layout
