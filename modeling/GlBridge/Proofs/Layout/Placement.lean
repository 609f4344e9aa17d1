import GlBridge.Layout.Assign
import GlBridge.Proofs.Layout.Slots

/-!
# The second pass as a run of placements

The second pass carries a lot along: bindings, edits, names, the registry.  What concerns the
locations is much less, and this file cuts the pass down to it.

* `unlocated` — the variables that a source leaves without a location, read off the declarations;
* `Places` — one variable is given a free location, which is then taken, named and noted down;
* `Run` — placements one after the other, with steps between them that leave locations alone;
* **`assignLayouts_run`** — laying out a source is such a run, it starts from what the source pins
  down, and it places exactly the unlocated variables, in order.

An invariant of the locations is then an induction over `Run`, with one case that says anything.
-/

namespace GlBridge.Layout

open Glsl

/-! ## Variables without a location -/

/-- Resources have bindings instead of locations. -/
lemma locationSpace?_of_resource {stage : Stage} {storage : Storage}
    (h : storage.isResource = true) : locationSpace? stage storage = none := by
  cases storage <;> simp only [Storage.isResource, Bool.false_eq_true] at h <;> cases stage <;> rfl

namespace Variable

/-- The name that is declared. -/
def name (wanted : Variable) : Text := wanted.declarator.name

end Variable

namespace Placement

/-- The locations that a placement takes. -/
def span (placement : Placement) : Span :=
  { start := placement.location, stop := placement.location + placement.slots }

end Placement

namespace InterfaceDeclaration

/-- The variables that a declaration leaves without a location.  Blocks and built-in names get
none. -/
def unlocated (stage : Stage) (d : InterfaceDeclaration) : List Variable :=
  if "gl_".toList.isPrefixOf d.typeToken.text then []
  else
    match locationSpace? stage d.declaration.storage with
    | none => []
    | some (space, _) =>
      if d.declaration.isBlock ∨ (d.declaration.layoutValue "location").isSome then []
      else
        (d.declarators.filter fun x => !"gl_".toList.isPrefixOf x.name).map fun x =>
          { space, declarator := x, slots := locationSlots d.typeToken.text * x.arrayLength }

/-- Built-in blocks have no variables to place. -/
lemma unlocated_of_builtin {stage : Stage} (d : InterfaceDeclaration)
    (h : "gl_".toList.isPrefixOf d.typeToken.text = true) : d.unlocated stage = [] := if_pos h

/-- Neither has what has no locations. -/
lemma unlocated_of_unlocatable {stage : Stage} (d : InterfaceDeclaration)
    (h : locationSpace? stage d.declaration.storage = none) : d.unlocated stage = [] := by
  rw [unlocated, h]
  exact ite_self _

end InterfaceDeclaration

/-- The variables that a source leaves without a location, in order. -/
def unlocated (stage : Stage) (source : Text) : List Variable :=
  (InterfaceDeclaration.all source).flatMap (·.unlocated stage)

/-- The ones of one of the two interfaces. -/
def unlocatedIn (stage : Stage) (space : LocationSpace) (source : Text) : List Variable :=
  (unlocated stage source).filter (·.space = space)

/-- The placements of one of the two interfaces. -/
def placedIn (space : LocationSpace) (placements : List Placement) : List Placement :=
  placements.filter (·.space = space)

lemma placedIn_append (space : LocationSpace) (earlier later : List Placement) :
    placedIn space (earlier ++ later) = placedIn space earlier ++ placedIn space later :=
  List.filter_append ..

lemma placedIn_self {p : Placement} : placedIn p.space [p] = [p] := by simp [placedIn]

lemma placedIn_other {space : LocationSpace} {p : Placement} (h : space ≠ p.space) :
    placedIn space [p] = [] := by simp [placedIn, h.symm]

/-- Whether the locations of an interface are matched between the stages. -/
def isShared : Stage → LocationSpace → Bool
  | .vertex, .outputs | .fragment, .inputs => true
  | _, _ => false

/-- Whether locations are shared is decided by the stage and the space. -/
lemma eq_isShared {stage : Stage} {storage : Storage} {space : LocationSpace} {shared : Bool}
    (h : locationSpace? stage storage = some (space, shared)) : shared = isShared stage space := by
  cases stage <;> cases storage <;> simp [locationSpace?] at h <;> obtain ⟨rfl, rfl⟩ := h <;> rfl

/-! ## Steps -/

/-- A step that gives the placement `p`. -/
structure Places (stage : Stage) (before after : Progress) (p : Placement) : Prop where
  free : (before.usage.slots p.space).Free p.span
  slots_self : after.usage.slots p.space = before.usage.slots p.space ++ [p.span]
  slots_other : ∀ space ≠ p.space, after.usage.slots space = before.usage.slots space
  names : after.usage.names = before.usage.names.record p.space p.location p.name
  placements : after.placements = before.placements ++ [p]
  shared : isShared stage p.space = true → before.varyings.Located p.name p.slots
    (before.usage.slots p.space) p.location after.varyings
  unshared : isShared stage p.space = false → after.varyings = before.varyings

/-- A step that leaves locations alone. -/
structure Passes (before after : Progress) : Prop where
  slots : ∀ space, after.usage.slots space = before.usage.slots space
  names : after.usage.names = before.usage.names
  placements : after.placements = before.placements
  varyings : after.varyings = before.varyings

/-- The steps of the second pass one after the other. -/
inductive Run (stage : Stage) (start : Progress) : Progress → Prop where
  | refl : Run stage start start
  | place {middle last : Progress} {p : Placement} (h : Run stage start middle)
      (hp : Places stage middle last p) : Run stage start last
  | pass {middle last : Progress} (h : Run stage start middle) (hp : Passes middle last) :
      Run stage start last

/-- Runs are put together. -/
lemma Run.trans {stage : Stage} {start middle last : Progress} (h₁ : Run stage start middle)
    (h₂ : Run stage middle last) : Run stage start last := by
  induction h₂ with
  | refl => exact h₁
  | place _ hp ih => exact .place ih hp
  | pass _ hp ih => exact .pass ih hp

/-- Taking slots adds one range to one interface and leaves the other one alone. -/
lemma Usage.claim_eq_ok {usage after : Usage} {space : LocationSpace} {start slots : ℕ}
    (h : usage.claim space start slots = .ok after) :
    after.slots space = usage.slots space ++ [{ start := start, stop := start + slots }] ∧
      (∀ other ≠ space, after.slots other = usage.slots other) ∧ after.names = usage.names := by
  simp only [Usage.claim, bind_eq_ok, UsedSlots.claim_eq_ok, pure_eq_ok] at h
  obtain ⟨_, ⟨_, rfl⟩, rfl⟩ := h
  cases space with
  | inputs => exact ⟨rfl, fun other hne => by cases other <;> trivial, rfl⟩
  | outputs => exact ⟨rfl, fun other hne => by cases other <;> trivial, rfl⟩

/-- Recording a name takes no slots. -/
lemma Usage.record_slots (usage : Usage) (space other : LocationSpace) (location : ℕ)
    (name : Text) : (usage.record space location name).slots other = usage.slots other := by
  cases other <;> rfl

namespace Progress

variable {stage : Stage} {source : Text} {progress after : Progress}

/-- The chosen location is free, and only the registry may have changed. -/
lemma chooseLocation_eq_ok {space : LocationSpace} {shared : Bool} {name : Text}
    {slots location : ℕ}
    (h : progress.chooseLocation space shared name slots = .ok (location, after)) :
    (progress.usage.slots space).Free { start := location, stop := location + slots } ∧
      (∃ varyings, after = { progress with varyings }) ∧
      (shared = true → progress.varyings.Located name slots (progress.usage.slots space) location
        after.varyings) ∧
      (shared = false → after.varyings = progress.varyings) := by
  unfold chooseLocation at h
  split_ifs at h with hshared
  · simp only [bind_eq_ok, pure_eq_ok, Prod.mk.injEq] at h
    obtain ⟨⟨found, varyings⟩, hlocate, rfl, rfl⟩ := h
    have hlocated := VaryingLocations.locate_located hlocate
    exact ⟨hlocated.free, ⟨_, rfl⟩, fun _ => hlocated, by simp [hshared]⟩
  · simp only [bind_eq_ok, UsedSlots.firstFree_eq_ok, pure_eq_ok, Prod.mk.injEq] at h
    obtain ⟨_, ⟨_, rfl⟩, rfl, rfl⟩ := h
    exact ⟨UsedSlots.firstFit_free _ _ _, ⟨_, rfl⟩, by simp [hshared], fun _ => rfl⟩

/-- A variable is placed as the run says. -/
lemma place_eq_ok {wanted : Variable} {p : Placement}
    (h : progress.place (isShared stage wanted.space) wanted = .ok (p, after)) :
    p.toVariable = wanted ∧ Places stage progress after p := by
  simp only [place, bind_eq_ok, pure_eq_ok, Prod.mk.injEq] at h
  obtain ⟨⟨location, chosen⟩, hchoose, usage, hclaim, rfl, rfl⟩ := h
  obtain ⟨hfree, ⟨varyings, rfl⟩, hshared, hunshared⟩ := chooseLocation_eq_ok hchoose
  obtain ⟨hself, hother, hnames⟩ := Usage.claim_eq_ok hclaim
  refine ⟨rfl, hfree, ?_, ?_, ?_, rfl, hshared, hunshared⟩
  · rw [Usage.record_slots]
    exact hself
  · intro space hne
    rw [Usage.record_slots]
    exact hother space hne
  · show usage.names.record _ _ _ = _
    rw [hnames]
    rfl

/-- Giving declarators their locations is a run that places them all, built-in ones left out. -/
lemma takeLocations_run {d : InterfaceDeclaration} {space : LocationSpace} :
    ∀ {declarators : List Declarator} {progress after : Progress} {placements : List Placement},
      takeLocations d space (isShared stage space) progress declarators = .ok (placements, after) →
      Run stage progress after ∧ after.placements = progress.placements ++ placements ∧
        placements.map Placement.toVariable
          = (declarators.filter fun x => !"gl_".toList.isPrefixOf x.name).map fun x =>
              { space, declarator := x, slots := locationSlots d.typeToken.text * x.arrayLength }
  | [], progress, after, placements, h => by
      simp only [takeLocations, Except.ok.injEq, Prod.mk.injEq] at h
      obtain ⟨rfl, rfl⟩ := h
      exact ⟨.refl, by simp, rfl⟩
  | declarator :: rest, progress, after, placements, h => by
      rw [takeLocations] at h
      split_ifs at h with hbuiltin
      · obtain ⟨hrun, hplaced, hvars⟩ := takeLocations_run h
        refine ⟨hrun, hplaced, ?_⟩
        rw [hvars, List.filter_cons_of_neg]
        simp only [hbuiltin, Bool.not_true, Bool.false_eq_true, not_false_eq_true]
      · simp only [bind_eq_ok, pure_eq_ok, Prod.mk.injEq] at h
        obtain ⟨slots, hslots, ⟨p, middle⟩, hplace, ⟨later, last⟩, hrest, rfl, rfl⟩ := h
        obtain ⟨rfl, _⟩ := Word32.check_eq_ok.1 hslots
        obtain ⟨hvar, hp⟩ := place_eq_ok hplace
        obtain ⟨hrun, hplaced, hvars⟩ := takeLocations_run hrest
        refine ⟨Run.trans (.place .refl hp) hrun, ?_, ?_⟩
        · rw [hplaced, hp.placements, List.append_assoc, List.singleton_append]
        · rw [List.map_cons, hvar, hvars, List.filter_cons_of_pos, List.map_cons]
          simp only [hbuiltin, Bool.not_false]

/-! ## The whole pass -/

lemma takeBinding_passes {binding : ℕ} (h : progress.takeBinding = .ok (binding, after)) :
    Passes progress after := by
  simp only [takeBinding, Usage.claimBinding, bind_eq_ok, pure_eq_ok, Prod.mk.injEq] at h
  obtain ⟨_, _, _, ⟨_, _, rfl⟩, _, _, _, rfl⟩ := h
  exact ⟨fun space => by cases space <;> rfl, rfl, rfl, rfl⟩

/-- Taking bindings places nothing. -/
lemma takeBindings_run : ∀ {declarators : List Declarator} {progress after : Progress}
    {parts : List (Text × Declarator)},
    progress.takeBindings declarators = .ok (parts, after) →
      Run stage progress after ∧ after.placements = progress.placements
  | [], progress, after, parts, h => by
      simp only [takeBindings, Except.ok.injEq, Prod.mk.injEq] at h
      obtain ⟨_, rfl⟩ := h
      exact ⟨.refl, rfl⟩
  | declarator :: rest, progress, after, parts, h => by
      simp only [takeBindings, bind_eq_ok, pure_eq_ok, Prod.mk.injEq] at h
      obtain ⟨⟨binding, middle⟩, htake, ⟨later, last⟩, hrest, _, rfl⟩ := h
      have hpass := takeBinding_passes htake
      obtain ⟨hrun, hplaced⟩ := takeBindings_run hrest
      exact ⟨Run.trans (.pass .refl hpass) hrun, hplaced.trans hpass.placements⟩

lemma edit_passes (progress : Progress) (edit : Edit) : Passes progress (progress.edit edit) :=
  ⟨fun _ => rfl, rfl, rfl, rfl⟩

/-- Resources place nothing. -/
lemma layOutResource_run {d : InterfaceDeclaration}
    (h : layOutResource source progress d = .ok after) :
    Run stage progress after ∧ after.placements = progress.placements := by
  unfold layOutResource at h
  split_ifs at h
  · simp only [bind_eq_ok, pure_eq_ok] at h
    obtain ⟨⟨binding, middle⟩, htake, rfl⟩ := h
    have hpass := takeBinding_passes htake
    exact ⟨.pass (.pass .refl hpass) (edit_passes _ _), hpass.placements⟩
  · simp only [bind_eq_ok, pure_eq_ok] at h
    obtain ⟨⟨parts, middle⟩, htake, rfl⟩ := h
    have hbindings : Run stage progress middle ∧ middle.placements = progress.placements :=
      takeBindings_run htake
    exact ⟨.pass hbindings.1 (edit_passes _ _), hbindings.2⟩

/-- The variables of a declaration are placed in order, all but the built-in ones. -/
lemma layOutVariables_run {d : InterfaceDeclaration} {space : LocationSpace}
    (h : layOutVariables source progress d space (isShared stage space) = .ok after) :
    Run stage progress after ∧ ∃ placements, after.placements = progress.placements ++ placements ∧
      placements.map Placement.toVariable
        = (d.declarators.filter fun x => !"gl_".toList.isPrefixOf x.name).map fun x =>
            { space, declarator := x, slots := locationSlots d.typeToken.text * x.arrayLength } := by
  simp only [layOutVariables, bind_eq_ok, pure_eq_ok] at h
  obtain ⟨⟨placements, middle⟩, htake, rfl⟩ := h
  obtain ⟨hrun, hplaced, hvars⟩ := takeLocations_run htake
  split_ifs
  · exact ⟨hrun, placements, hplaced, hvars⟩
  · exact ⟨.pass hrun (edit_passes _ _), placements, hplaced, hvars⟩

/-- **Laying out a declaration places its unlocated variables.** -/
lemma layOut_run {d : InterfaceDeclaration} (h : layOut stage source progress d = .ok after) :
    Run stage progress after ∧ after.placements.map Placement.toVariable
      = progress.placements.map Placement.toVariable ++ d.unlocated stage := by
  unfold layOut at h
  split at h
  · next hbuiltin =>
      obtain rfl := Except.ok.inj h
      exact ⟨.refl, by rw [d.unlocated_of_builtin hbuiltin, List.append_nil]⟩
  split at h
  · next hresource =>
      rw [d.unlocated_of_unlocatable (locationSpace?_of_resource hresource), List.append_nil]
      split_ifs at h
      · obtain rfl := Except.ok.inj h
        exact ⟨.refl, rfl⟩
      · have hresource : Run stage progress after ∧ after.placements = progress.placements :=
          layOutResource_run h
        exact ⟨hresource.1, by rw [hresource.2]⟩
  split at h
  · next hbuiltin _ hspace =>
      obtain rfl := Except.ok.inj h
      exact ⟨.refl, by rw [d.unlocated_of_unlocatable hspace, List.append_nil]⟩
  · next hbuiltin _ _ space shared hspace =>
      obtain rfl := eq_isShared hspace
      unfold InterfaceDeclaration.unlocated
      rw [if_neg hbuiltin, hspace]
      split_ifs at h with hlocated
      · obtain rfl := Except.ok.inj h
        exact ⟨.refl, by simp only [if_pos hlocated, List.append_nil]⟩
      · obtain ⟨hrun, placements, hplaced, hvars⟩ := layOutVariables_run h
        refine ⟨hrun, ?_⟩
        rw [hplaced, List.map_append, hvars]
        simp only [if_neg hlocated]

/-- The whole pass places what has no location, in the order of the declarations. -/
lemma layOutAll_run : ∀ {declarations : List InterfaceDeclaration} {progress after : Progress},
    declarations.foldlM (layOut stage source) progress = .ok after →
      Run stage progress after ∧ after.placements.map Placement.toVariable
        = progress.placements.map Placement.toVariable
          ++ declarations.flatMap (·.unlocated stage)
  | [], progress, after, h => by
      rw [List.foldlM_nil, pure_eq_ok] at h
      subst h
      exact ⟨.refl, by rw [List.flatMap_nil, List.append_nil]⟩
  | d :: rest, progress, after, h => by
      rw [List.foldlM_cons, bind_eq_ok] at h
      obtain ⟨middle, hd, hrest⟩ := h
      obtain ⟨hrun₁, hvars₁⟩ := layOut_run hd
      obtain ⟨hrun₂, hvars₂⟩ := layOutAll_run hrest
      refine ⟨hrun₁.trans hrun₂, ?_⟩
      rw [hvars₂, hvars₁, List.flatMap_cons, List.append_assoc]

end Progress

/-- **Laying out a source is a run of placements.**  It starts from what the source pins down,
places the unlocated variables in order, and ends in the result. -/
theorem assignLayouts_run {stage : Stage} {source : Text} {varyings : VaryingLocations}
    {out : LaidOut} (h : assignLayouts stage source varyings = .ok out) :
    ∃ usage last, pinned stage (InterfaceDeclaration.all source) = .ok usage ∧
      Run stage { usage, varyings } last ∧ out.names = last.usage.names ∧
      out.varyings = last.varyings ∧ out.placements = last.placements ∧
      out.placements.map Placement.toVariable = unlocated stage source := by
  simp only [assignLayouts, bind_eq_ok, pure_eq_ok] at h
  obtain ⟨usage, hpinned, last, hlast, rfl⟩ := h
  obtain ⟨hrun, hvars⟩ := Progress.layOutAll_run hlast
  refine ⟨usage, last, hpinned, hrun, rfl, rfl, rfl, ?_⟩
  rw [List.map_nil, List.nil_append] at hvars
  exact hvars

end GlBridge.Layout
