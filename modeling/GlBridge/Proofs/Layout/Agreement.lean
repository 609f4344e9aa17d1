import GlBridge.Proofs.Layout.Separation

/-!
# Two stages agree on their varyings

A vertex shader and a fragment shader are laid out one after the other, and all that passes between
them is the registry.  The argument has two halves.

**What the vertex shader leaves behind.**  Placing an output writes its location into the registry
and touches no other name.  A name that is declared once is therefore still registered with its
own location when the pass is over (`Run.remembered`).

**What the fragment shader finds.**  `Run.follows` takes the placements of the vertex shader as a
plan: ranges apart from each other and from the fragment shader's pins.  An input that the plan
knows finds its registered range free, because all that is taken so far is pins and ranges that
other names have in the plan.  So it is given that range, and the registry stays as it is, which
is what makes the next input find the same situation.
-/

namespace GlBridge.Layout

open Glsl

variable {stage : Stage} {space : LocationSpace} {start last : Progress}

instance apart_symm : Std.Symm fun p q : Placement => p.span.Apart q.span :=
  ⟨fun _ _ h => h.symm⟩

/-- Only one of a stage's interfaces is shared. -/
lemma isShared_other {other : LocationSpace} (h : isShared stage space = true)
    (hne : other ≠ space) : isShared stage other = false := by
  cases stage <;> cases space <;> cases other <;> simp_all [isShared]

/-- **A varying that is declared once stays registered where it was placed.** -/
theorem Run.remembered {name : Text} (hrun : Run stage start last)
    (hshared : isShared stage space = true) (hnone : start.placements = [])
    (honce : ((placedIn space last.placements).map fun p => p.name).count name ≤ 1) :
    ∀ p ∈ placedIn space last.placements, p.name = name →
      last.varyings.location? name = some p.location := by
  induction hrun with
  | refl =>
      rw [hnone]
      intro p hp
      exact absurd hp List.not_mem_nil
  | @place middle last p _ hp ih =>
      by_cases hspace : space = p.space
      · subst hspace
        rw [hp.placements, placedIn_append, placedIn_self] at honce ⊢
        rw [List.map_append, List.count_append] at honce
        have hlocated := hp.shared hshared
        by_cases hname : p.name = name
        · intro q hq hqname
          rw [List.mem_append, List.mem_singleton] at hq
          rcases hq with hq | rfl
          · -- the name would be declared twice
            have hearlier : 0 < ((placedIn p.space middle.placements).map
                fun p => p.name).count name :=
              List.count_pos_iff.2 (List.mem_map.2 ⟨q, hq, hqname⟩)
            rw [List.map_singleton, hname, List.count_singleton_self] at honce
            omega
          · rw [← hname]
            exact hlocated.location?_self
        · intro q hq hqname
          rw [List.mem_append, List.mem_singleton] at hq
          rw [hlocated.location?_other (Ne.symm hname)]
          rcases hq with hq | rfl
          · exact ih (by omega) q hq hqname
          · exact absurd hqname hname
      · rw [hp.placements, placedIn_append, placedIn_other hspace, List.append_nil] at honce ⊢
        rw [hp.unshared (isShared_other hshared (Ne.symm hspace))]
        exact ih honce
  | pass _ hp ih =>
      rw [hp.placements] at honce ⊢
      rw [hp.varyings]
      exact ih honce

/-- **A run follows a plan that the registry knows.**  Every variable finds the range that the
plan has for its name free, takes it, and leaves the registry alone. -/
theorem Run.follows {plan : List Placement} {pins : List Span} (hrun : Run stage start last)
    (hshared : isShared stage space = true) (hstart : Separate pins space start)
    (hnone : start.placements = [])
    (hplan : plan.Pairwise fun p q => p.span.Apart q.span)
    (hpins : ∀ taken ∈ pins, ∀ q ∈ plan, taken.Apart q.span)
    (honce : ((placedIn space last.placements).map fun p => p.name).Nodup)
    (hknown : ∀ p ∈ placedIn space last.placements, ∃ q ∈ plan, q.name = p.name ∧
      q.slots = p.slots ∧ start.varyings.location? p.name = some q.location) :
    last.varyings = start.varyings ∧ ∀ p ∈ placedIn space last.placements,
      ∃ q ∈ plan, q.name = p.name ∧ q.span = p.span := by
  induction hrun with
  | refl =>
      rw [hnone]
      exact ⟨rfl, fun p hp => absurd hp List.not_mem_nil⟩
  | @place middle last p hbefore hp ih =>
      by_cases hspace : space = p.space
      · subst hspace
        rw [hp.placements, placedIn_append, placedIn_self] at honce hknown ⊢
        rw [List.map_append, List.map_singleton, List.nodup_append] at honce
        obtain ⟨honce, _, hfresh⟩ := honce
        obtain ⟨hregistry, hfollowed⟩ :=
          ih honce fun q hq => hknown q (List.mem_append_left _ hq)
        obtain ⟨planned, hplanned, hname, hslots, hlocation⟩ :=
          hknown p (List.mem_append_right _ (List.mem_singleton.2 rfl))
        -- what is taken so far is pins and ranges of the plan under other names
        have hfree : (middle.usage.slots p.space).Free
            { start := planned.location, stop := planned.location + p.slots } := by
          rw [(hbefore.separate hstart).slots, ← hslots]
          intro taken htaken
          rcases List.mem_append.1 htaken with htaken | htaken
          · exact hpins taken htaken planned hplanned
          · obtain ⟨q, hq, rfl⟩ := List.mem_map.1 htaken
            obtain ⟨q', hq', hqname, hqspan⟩ := hfollowed q hq
            have hne : q' ≠ planned := by
              rintro rfl
              exact hfresh q.name (List.mem_map.2 ⟨q, hq, rfl⟩) p.name
                (List.mem_singleton.2 rfl) (hqname.symm.trans hname)
            rw [← hqspan]
            exact hplan.forall hq' hplanned hne
        have hlocated := hp.shared hshared
        rw [hregistry] at hlocated
        obtain ⟨hsame, hkept⟩ := hlocated.eq_of_free hlocation hfree
        refine ⟨hkept, ?_⟩
        intro q hq
        rw [List.mem_append, List.mem_singleton] at hq
        rcases hq with hq | rfl
        · exact hfollowed q hq
        · exact ⟨planned, hplanned, hname, by rw [Placement.span, Placement.span, hsame, hslots]⟩
      · rw [hp.placements, placedIn_append, placedIn_other hspace, List.append_nil] at honce hknown ⊢
        rw [hp.unshared (isShared_other hshared (Ne.symm hspace))]
        exact ih honce hknown
  | pass _ hp ih =>
      rw [hp.placements] at honce hknown ⊢
      rw [hp.varyings]
      exact ih honce hknown

lemma map_name_of_map_toVariable {placements : List Placement} {wanted : List Variable}
    (h : placements.map Placement.toVariable = wanted) :
    placements.map (fun p => p.name) = wanted.map Variable.name := by
  rw [← h, List.map_map]
  rfl

/-- **A fragment shader's inputs are where the vertex shader's outputs are.**  The two shaders are
laid out one after the other, from any registry.  If every unlocated input is an unlocated output
of the vertex shader with as many slots, both of them declare its name once, and the inputs that
are pinned down lie inside pinned outputs, then every unlocated input is placed where the output
of its name was placed. -/
theorem inputs_placed_at_outputs {registry : VaryingLocations} {vertex fragment : Text}
    {v f : LaidOut} (hv : assignLayouts .vertex vertex registry = .ok v)
    (hf : assignLayouts .fragment fragment v.varyings = .ok f)
    (hv_once : ∀ x ∈ unlocatedIn .fragment .inputs fragment,
      ((unlocatedIn .vertex .outputs vertex).map Variable.name).count x.name ≤ 1)
    (hf_once : ((unlocatedIn .fragment .inputs fragment).map Variable.name).Nodup)
    (hmatch : ∀ x ∈ unlocatedIn .fragment .inputs fragment,
      ∃ y ∈ unlocatedIn .vertex .outputs vertex, y.name = x.name ∧ y.slots = x.slots)
    (hpins : ∀ taken ∈ pinnedSpans .fragment .inputs fragment,
      ∃ outer ∈ pinnedSpans .vertex .outputs vertex, taken.Inside outer) :
    ∀ x ∈ unlocatedIn .fragment .inputs fragment,
      ∃ p ∈ placedIn .inputs f.placements, p.toVariable = x ∧
        ∃ q ∈ placedIn .outputs v.placements, q.name = x.name ∧ q.location = p.location := by
  obtain ⟨_, last_v, hpinned_v, hrun_v, _, hregistry, hplaced_v, hvars_v⟩ := assignLayouts_run hv
  obtain ⟨_, last_f, hpinned_f, hrun_f, _, _, hplaced_f, hvars_f⟩ := assignLayouts_run hf
  have hvars_v := map_placedIn hvars_v .outputs
  have hvars_f := map_placedIn hvars_f .inputs
  obtain ⟨_, hpins_v, hapart⟩ := hrun_v.separate (separate_start hpinned_v .outputs)
  rw [← hplaced_v] at hpins_v hapart
  -- the names as the two passes see them
  have hnames_v := map_name_of_map_toVariable hvars_v
  have hnames_f := map_name_of_map_toVariable hvars_f
  have hknown : ∀ p ∈ placedIn .inputs f.placements, ∃ q ∈ placedIn .outputs v.placements,
      q.name = p.name ∧ q.slots = p.slots ∧ v.varyings.location? p.name = some q.location := by
    intro p hp
    have hx : p.toVariable ∈ unlocatedIn .fragment .inputs fragment :=
      hvars_f ▸ List.mem_map_of_mem hp
    obtain ⟨y, hy, hname, hslots⟩ := hmatch _ hx
    rw [← hvars_v] at hy
    obtain ⟨q, hq, rfl⟩ := List.mem_map.1 hy
    refine ⟨q, hq, hname, hslots, ?_⟩
    have honce := hv_once _ hx
    rw [← hnames_v, hplaced_v] at honce
    rw [hplaced_v] at hq
    rw [hregistry]
    exact hrun_v.remembered rfl rfl honce q hq hname
  have hpins_f : ∀ taken ∈ pinnedSpans .fragment .inputs fragment,
      ∀ q ∈ placedIn .outputs v.placements, taken.Apart q.span := by
    intro taken htaken q hq
    obtain ⟨outer, houter, hinside⟩ := hpins taken htaken
    exact (hpins_v outer houter q hq).mono_left hinside
  rw [hplaced_f] at hnames_f hknown
  obtain ⟨_, hfollowed⟩ := hrun_f.follows rfl (separate_start hpinned_f .inputs) rfl hapart hpins_f
    (hnames_f ▸ hf_once) hknown
  intro x hx
  rw [← hvars_f] at hx
  obtain ⟨p, hp, rfl⟩ := List.mem_map.1 hx
  rw [hplaced_f] at hp
  obtain ⟨q, hq, hname, hspan⟩ := hfollowed p hp
  exact ⟨p, hplaced_f ▸ hp, rfl, q, hq, hname, congrArg Span.start hspan⟩

/-- A fragment shader for `crowdedVertex`: the inputs in another order, and one left out. -/
def crowdedFragment : Text :=
  "in vec4 b;in mat3 m;layout(location=1) in vec4 p;".toList

/-- The outputs were placed by the fallback of a full registry, which the inputs follow. -/
theorem inputs_placed_at_outputs_crowded :
    ∃ v f, assignLayouts .vertex crowdedVertex crowdedRegistry = .ok v ∧
      assignLayouts .fragment crowdedFragment v.varyings = .ok f ∧
      (placedIn .inputs f.placements).map (fun p => (p.name, p.location))
        = [("b".toList, 0), ("m".toList, 2)] ∧
      (∀ x ∈ unlocatedIn .fragment .inputs crowdedFragment,
        ((unlocatedIn .vertex .outputs crowdedVertex).map Variable.name).count x.name ≤ 1) ∧
      ((unlocatedIn .fragment .inputs crowdedFragment).map Variable.name).Nodup ∧
      (∀ x ∈ unlocatedIn .fragment .inputs crowdedFragment,
        ∃ y ∈ unlocatedIn .vertex .outputs crowdedVertex, y.name = x.name ∧ y.slots = x.slots) ∧
      (∀ taken ∈ pinnedSpans .fragment .inputs crowdedFragment,
        ∃ outer ∈ pinnedSpans .vertex .outputs crowdedVertex, taken.Inside outer) ∧
      ∀ x ∈ unlocatedIn .fragment .inputs crowdedFragment,
        ∃ p ∈ placedIn .inputs f.placements, p.toVariable = x ∧
          ∃ q ∈ placedIn .outputs v.placements, q.name = x.name ∧ q.location = p.location := by
  -- one evaluation, so that the sources are read once
  have hall : ((assignLayouts .vertex crowdedVertex crowdedRegistry >>= fun v =>
        assignLayouts .fragment crowdedFragment v.varyings).map
          fun f => (placedIn .inputs f.placements).map fun p => (p.name, p.location))
        = .ok [("b".toList, 0), ("m".toList, 2)] ∧
      (∀ x ∈ unlocatedIn .fragment .inputs crowdedFragment,
        ((unlocatedIn .vertex .outputs crowdedVertex).map Variable.name).count x.name ≤ 1) ∧
      ((unlocatedIn .fragment .inputs crowdedFragment).map Variable.name).Nodup ∧
      (∀ x ∈ unlocatedIn .fragment .inputs crowdedFragment,
        ∃ y ∈ unlocatedIn .vertex .outputs crowdedVertex, y.name = x.name ∧ y.slots = x.slots) ∧
      (∀ taken ∈ pinnedSpans .fragment .inputs crowdedFragment,
        ∃ outer ∈ pinnedSpans .vertex .outputs crowdedVertex, taken.Inside outer) := by
    unfold crowdedVertex crowdedFragment
    repeat rw [Text.toList_literal rfl]
    decide +kernel
  obtain ⟨hrun, hv_once, hf_once, hmatch, hpins⟩ := hall
  obtain ⟨f, hvf, hplaced⟩ := map_eq_ok.1 hrun
  obtain ⟨v, hv, hf⟩ := bind_eq_ok.1 hvf
  exact ⟨v, f, hv, hf, hplaced, hv_once, hf_once, hmatch, hpins,
    inputs_placed_at_outputs hv hf hv_once hf_once hmatch hpins⟩

end GlBridge.Layout
