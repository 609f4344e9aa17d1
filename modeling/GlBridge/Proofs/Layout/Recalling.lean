import GlBridge.Proofs.Layout.Registry

/-!
# What a shader asks of the registry

All that a shader learns from the registry are the locations of names and the next free number.  How
the registry came to them does not matter.

**Registries that answer alike.**  `VaryingLocations.Alike` compares registries by their answers.
Each step of the second pass treats registries that answer alike in the same way: it overflows for
both, or it gives the same for both and leaves registries that answer alike again.  `Together` is
that relation between two computations, and its rules follow the way computations are put together.
So `assignLayouts_alike` needs one short lemma for each part of the pass.

**Shaders that add nothing.**  The registry after a run is the one before, with the locations given
in between on top (`Run.location?_eq`), and whether new numbers have been used up can be told from
these locations too (`Run.next_eq_iff`).  A shader leaves the answers of the registry as they were
exactly if it `Recalls` all its varyings, which is said of its placements alone
(`assignLayouts_alike_iff`).
-/

namespace GlBridge.Layout

open Glsl

/-! ## Computations side by side -/

/-- Two computations overflow together, or their results are related. -/
inductive Together {α β : Type} (related : α → β → Prop) :
    Except Overflow α → Except Overflow β → Prop where
  | overflow : Together related (.error .overflow) (.error .overflow)
  | ok {a : α} {b : β} (h : related a b) : Together related (.ok a) (.ok b)

namespace Together

variable {α β γ δ : Type} {related : α → β → Prop} {further : γ → δ → Prop}

lemma refl (x : Except Overflow α) : Together Eq x x := by
  cases x with
  | error e => exact .overflow
  | ok a => exact .ok rfl

/-- Computations that go along each other do so in every next step. -/
lemma bind {x : Except Overflow α} {y : Except Overflow β} {f : α → Except Overflow γ}
    {g : β → Except Overflow δ} (h : Together related x y)
    (hnext : ∀ a b, related a b → Together further (f a) (g b)) :
    Together further (x >>= f) (y >>= g) := by
  cases h with
  | overflow => exact .overflow
  | ok hab => exact hnext _ _ hab

/-- The two computations may begin with the same one. -/
lemma bind_same {x : Except Overflow α} {f : α → Except Overflow γ} {g : α → Except Overflow δ}
    (hnext : ∀ a, Together further (f a) (g a)) : Together further (x >>= f) (x >>= g) :=
  (refl x).bind fun a _ hab => hab ▸ hnext a

/-- So do loops over the same items. -/
lemma foldlM {ι : Type} {f : α → ι → Except Overflow α} {g : β → ι → Except Overflow β}
    (hstep : ∀ a b i, related a b → Together related (f a i) (g b i)) :
    ∀ (items : List ι) (a : α) (b : β), related a b →
      Together related (items.foldlM f a) (items.foldlM g b)
  | [], a, b, hab => .ok hab
  | i :: rest, a, b, hab => by
      rw [List.foldlM_cons, List.foldlM_cons]
      exact (hstep a b i hab).bind fun a' b' hab' => foldlM hstep rest a' b' hab'

end Together

/-! ## Registries that answer alike -/

namespace VaryingLocations

variable {a b : VaryingLocations}

/-- Two registries have the same location for every name, and the same number for the next one. -/
structure Alike (a b : VaryingLocations) : Prop where
  location? : ∀ name, a.location? name = b.location? name
  next : a.next = b.next

namespace Alike

lemma refl (a : VaryingLocations) : a.Alike a := ⟨fun _ => rfl, rfl⟩

/-- Registries that answer alike still do after both have the same name registered. -/
lemma register (h : a.Alike b) (name : Text) (location next : ℕ) :
    Alike { assigned := (name, location) :: a.assigned, next }
      { assigned := (name, location) :: b.assigned, next } := by
  refine ⟨fun other => ?_, rfl⟩
  simp only [VaryingLocations.location?, List.lookup_cons]
  cases other == name with
  | true => rfl
  | false => exact h.location? other

end Alike

/-- The same location is given, by registries that answer alike again. -/
def SameAnswer (x y : ℕ × VaryingLocations) : Prop := x.1 = y.1 ∧ x.2.Alike y.2

lemma locateNew_alike (h : a.Alike b) (name : Text) (slots : ℕ) (used : UsedSlots) :
    Together SameAnswer (a.locateNew name slots used) (b.locateNew name slots used) := by
  unfold locateNew
  rw [h.next]
  refine .bind_same fun location => .bind_same fun stop => ?_
  split_ifs
  · exact .bind_same fun location => .ok ⟨rfl, h.register name location b.next⟩
  · exact .ok ⟨rfl, h.register name location stop⟩

/-- Registries that answer alike give the same location, and still answer alike. -/
lemma locate_alike (h : a.Alike b) (name : Text) (slots : ℕ) (used : UsedSlots) :
    Together SameAnswer (a.locate name slots used) (b.locate name slots used) := by
  unfold locate
  rw [h.location? name]
  split
  · refine .bind_same fun free => ?_
    split_ifs
    · exact .ok ⟨rfl, h⟩
    · exact locateNew_alike h name slots used
  · exact locateNew_alike h name slots used

end VaryingLocations

/-! ## The second pass with either of two registries -/

namespace Progress

variable {p q : Progress}

/-- The same progress, with registries that answer alike. -/
inductive Alike (p : Progress) : Progress → Prop where
  | withRegistry {varyings : VaryingLocations} (h : p.varyings.Alike varyings) :
      Alike p { p with varyings }

/-- The same is given, with progress that is alike. -/
def SameStep {α : Type} (x y : α × Progress) : Prop := x.1 = y.1 ∧ x.2.Alike y.2

namespace Alike

lemma takeBinding (h : p.Alike q) : Together SameStep p.takeBinding q.takeBinding := by
  obtain ⟨h⟩ := h
  exact .bind_same fun _ => .bind_same fun _ => .bind_same fun _ => .ok ⟨rfl, .withRegistry h⟩

lemma takeBindings : ∀ {declarators : List Declarator} {p q : Progress}, p.Alike q →
    Together SameStep (p.takeBindings declarators) (q.takeBindings declarators)
  | [], _, _, h => .ok ⟨rfl, h⟩
  | declarator :: rest, _, _, h => by
      refine h.takeBinding.bind ?_
      rintro ⟨binding, p⟩ ⟨_, q⟩ ⟨rfl, h⟩
      refine (takeBindings h).bind ?_
      rintro ⟨parts, p⟩ ⟨_, q⟩ ⟨rfl, h⟩
      exact .ok ⟨rfl, h⟩

/-- A location is chosen alike. -/
lemma chooseLocation (h : p.Alike q) (space : LocationSpace) (shared : Bool) (name : Text)
    (slots : ℕ) : Together SameStep (p.chooseLocation space shared name slots)
      (q.chooseLocation space shared name slots) := by
  obtain ⟨h⟩ := h
  unfold Progress.chooseLocation
  split_ifs
  · refine (VaryingLocations.locate_alike h name slots _).bind ?_
    rintro ⟨location, a⟩ ⟨_, b⟩ ⟨rfl, hab⟩
    exact .ok ⟨rfl, .withRegistry hab⟩
  · exact .bind_same fun _ => .ok ⟨rfl, .withRegistry h⟩

lemma place (h : p.Alike q) (shared : Bool) (wanted : Variable) :
    Together SameStep (p.place shared wanted) (q.place shared wanted) := by
  refine (h.chooseLocation wanted.space shared _ wanted.slots).bind ?_
  rintro ⟨location, p⟩ ⟨_, q⟩ ⟨rfl, ⟨h⟩⟩
  exact .bind_same fun _ => .ok ⟨rfl, .withRegistry h⟩

/-- The variables of a declaration are placed alike. -/
lemma takeLocations {d : InterfaceDeclaration} {space : LocationSpace} {shared : Bool} :
    ∀ {declarators : List Declarator} {p q : Progress}, p.Alike q →
      Together SameStep (Progress.takeLocations d space shared p declarators)
        (Progress.takeLocations d space shared q declarators)
  | [], _, _, h => .ok ⟨rfl, h⟩
  | declarator :: rest, p, q, h => by
      unfold Progress.takeLocations
      split_ifs
      · exact takeLocations h
      · refine .bind_same fun slots => (h.place shared _).bind ?_
        rintro ⟨placement, p⟩ ⟨_, q⟩ ⟨rfl, h⟩
        refine (takeLocations h).bind ?_
        rintro ⟨placements, p⟩ ⟨_, q⟩ ⟨rfl, h⟩
        exact .ok ⟨rfl, h⟩

lemma edit (h : p.Alike q) (edit : Edit) : (p.edit edit).Alike (q.edit edit) := by
  obtain ⟨h⟩ := h
  exact .withRegistry h

lemma layOutResource (h : p.Alike q) (source : Text) (d : InterfaceDeclaration) :
    Together Alike (Progress.layOutResource source p d) (Progress.layOutResource source q d) := by
  unfold Progress.layOutResource
  split_ifs
  · refine h.takeBinding.bind ?_
    rintro ⟨binding, p⟩ ⟨_, q⟩ ⟨rfl, h⟩
    exact .ok (h.edit _)
  · refine h.takeBindings.bind ?_
    rintro ⟨parts, p⟩ ⟨_, q⟩ ⟨rfl, h⟩
    exact .ok (h.edit _)

/-- Variables are laid out alike with either registry. -/
lemma layOutVariables (h : p.Alike q) (source : Text) (d : InterfaceDeclaration)
    (space : LocationSpace) (shared : Bool) :
    Together Alike (Progress.layOutVariables source p d space shared)
      (Progress.layOutVariables source q d space shared) := by
  refine (takeLocations h).bind ?_
  rintro ⟨placements, p⟩ ⟨_, q⟩ ⟨rfl, h⟩
  refine .ok ?_
  split_ifs
  · exact h
  · exact h.edit _

/-- **A declaration is laid out in the same way.** -/
lemma layOut (h : p.Alike q) (stage : Stage) (source : Text) (d : InterfaceDeclaration) :
    Together Alike (Progress.layOut stage source p d) (Progress.layOut stage source q d) := by
  unfold Progress.layOut
  cases locationSpace? stage d.declaration.storage with
  | none =>
      dsimp only
      split_ifs
      · exact .ok h
      · exact .ok h
      · exact h.layOutResource source d
      · exact .ok h
  | some place =>
      split_ifs
      · exact .ok h
      · exact .ok h
      · exact h.layOutResource source d
      · exact .ok h
      · exact h.layOutVariables source d place.1 place.2

end Alike
end Progress

/-- The same has been laid out, by way of registries that answer alike. -/
inductive LaidOut.Alike (out : LaidOut) : LaidOut → Prop where
  | withRegistry {varyings : VaryingLocations} (h : out.varyings.Alike varyings) :
      Alike out { out with varyings }

/-- **Registries that answer alike lay a source out alike.** -/
theorem assignLayouts_alike {a b : VaryingLocations} (h : a.Alike b) (stage : Stage)
    (source : Text) :
    Together LaidOut.Alike (assignLayouts stage source a) (assignLayouts stage source b) := by
  refine .bind_same fun usage => ?_
  have hstart : Progress.Alike { usage, varyings := a } { usage, varyings := b } := .withRegistry h
  refine (Together.foldlM (fun _ _ d h => h.layOut stage source d) _ _ _ hstart).bind ?_
  rintro p _ ⟨h⟩
  exact .ok (.withRegistry h)

/-! ## Shaders that add nothing -/

/-- The locations that placements give to names, the latest first. -/
def givenLocations (placements : List Placement) : List (Text × ℕ) :=
  (placements.map fun p => (p.name, p.location)).reverse

/-- **The registry after a run** is the one before, with the locations given in between on top. -/
theorem Run.location?_eq {stage : Stage} {start last : Progress} (hrun : Run stage start last)
    (hnone : start.placements = []) (name : Text) :
    last.varyings.location? name
      = ((givenLocations (sharedPlacements stage last.placements)).lookup name).or
          (start.varyings.location? name) := by
  induction hrun with
  | refl =>
      rw [hnone]
      rfl
  | @place middle last p _ hp ih =>
      rw [hp.placements, sharedPlacements_append]
      by_cases hshared : isShared stage p.space = true
      · have hlocated := hp.shared hshared
        have hself : sharedPlacements stage [p] = [p] := by simp [sharedPlacements, hshared]
        rw [hself, givenLocations, List.map_append, List.reverse_append]
        show _ = (((p.name, p.location) :: givenLocations _).lookup name).or _
        rw [List.lookup_cons]
        by_cases hname : name = p.name
        · rw [hname, beq_self_eq_true, hlocated.location?_self]
          rfl
        · have hbeq : (name == p.name) = false := by simpa using hname
          rw [hbeq, hlocated.location?_other hname]
          exact ih
      · rw [Bool.not_eq_true] at hshared
        have hself : sharedPlacements stage [p] = [] := by simp [sharedPlacements, hshared]
        rw [hself, List.append_nil, hp.unshared hshared]
        exact ih
  | pass _ hp ih =>
      rw [hp.placements, hp.varyings]
      exact ih

/-- A location and its slots lie past `next`, and not past the limit. -/
def Placement.UsesUp (next : ℕ) (p : Placement) : Prop :=
  next ≤ p.location ∧ next < p.span.stop ∧ p.span.stop ≤ varyingLimit

/-- A shader's varyings are placed where the registry has them.  The last location given to a name is
the one that the registry knew, and no varying is placed past `next` unless it was known to be there,
by the registry or by an earlier placement. -/
structure Recalls (stage : Stage) (varyings : VaryingLocations) (out : LaidOut) : Prop where
  location? : ∀ name location,
    (givenLocations (sharedPlacements stage out.placements)).lookup name = some location →
      varyings.location? name = some location
  spared : ∀ earlier p, earlier ++ [p] <+: sharedPlacements stage out.placements →
    p.UsesUp varyings.next →
      ((givenLocations earlier).lookup p.name).or (varyings.location? p.name) = some p.location

namespace VaryingLocations.Located

variable {before after : VaryingLocations} {p : Placement} {used : UsedSlots}

/-- The next number only grows. -/
lemma next_le (h : before.Located p.name p.slots used p.location after) :
    before.next ≤ after.next := by
  generalize p.location = location at h
  cases h with
  | remembered _ _ => exact le_rfl
  | fresh _ _ => exact (used.le_firstFit before.next p.slots).trans (Nat.le_add_right _ _)
  | exhausted _ _ => exact le_rfl

/-- The next number stays the same exactly if the placement is a known one or uses nothing up.  A
placement beyond the limit starts over from 0, and the place it comes to is not past `next`: the
search from `next` would have come to it as well. -/
lemma next_eq_iff (h : before.Located p.name p.slots used p.location after) :
    after.next = before.next
      ↔ (p.UsesUp before.next → before.location? p.name = some p.location) := by
  unfold Placement.UsesUp Placement.span
  generalize p.location = location at h
  cases h with
  | remembered hknown _ => exact ⟨fun _ _ => hknown, fun _ => rfl⟩
  | fresh hstale hfits =>
      have hle := used.le_firstFit before.next p.slots
      dsimp only
      constructor
      · rintro hnext ⟨-, hlt, -⟩
        exact absurd hnext hlt.ne'
      · intro hknown
        by_contra hne
        refine hstale _ (hknown ⟨hle, by omega, hfits⟩) (used.firstFit_free _ _)
  | exhausted hstale hpast =>
      refine ⟨fun _ => ?_, fun _ => rfl⟩
      rintro ⟨hle, -, hfits⟩
      have hfirst := used.firstFit_le_of_free hle (used.firstFit_free 0 p.slots)
      dsimp only at hfits
      omega

end VaryingLocations.Located

/-- A run uses no number up exactly if each of its shared placements is a known one or uses nothing
up. -/
theorem Run.next_eq_iff {stage : Stage} {start last : Progress} (hrun : Run stage start last)
    (hnone : start.placements = []) :
    start.varyings.next ≤ last.varyings.next ∧
      (last.varyings.next = start.varyings.next ↔
        ∀ earlier p, earlier ++ [p] <+: sharedPlacements stage last.placements →
          p.UsesUp start.varyings.next →
            ((givenLocations earlier).lookup p.name).or (start.varyings.location? p.name)
              = some p.location) := by
  induction hrun with
  | refl =>
      refine ⟨le_rfl, fun _ earlier p hearlier => ?_, fun _ => rfl⟩
      rw [hnone] at hearlier
      exact absurd (List.prefix_nil.1 hearlier) (List.append_ne_nil_of_right_ne_nil _ nofun)
  | @place middle last p hbefore hp ih =>
      obtain ⟨hle, hspared⟩ := ih
      by_cases hshared : isShared stage p.space = true
      · have hlocated := hp.shared hshared
        have hgrown := hlocated.next_le
        have hstep := hlocated.next_eq_iff
        rw [hbefore.location?_eq hnone] at hstep
        rw [hp.sharedPlacements_shared hshared]
        refine ⟨hle.trans hgrown, fun hnext earlier q hearlier => ?_, fun hall => ?_⟩
        · have hmiddle : middle.varyings.next = start.varyings.next := by omega
          rcases List.prefix_concat_iff.1 hearlier with heq | hearlier
          · obtain ⟨rfl, hq⟩ := List.append_inj' heq rfl
            obtain rfl := List.singleton_inj.1 hq
            rw [hmiddle] at hstep
            exact hstep.1 hnext
          · exact hspared.1 hmiddle earlier q hearlier
        · have hmiddle := hspared.2 fun earlier q hearlier =>
            hall earlier q (hearlier.trans (List.prefix_append _ _))
          rw [hmiddle] at hstep
          exact hstep.2 (hall _ p List.prefix_rfl)
      · rw [Bool.not_eq_true] at hshared
        rw [hp.sharedPlacements_unshared hshared, hp.unshared hshared]
        exact ⟨hle, hspared⟩
  | pass _ hp ih =>
      rw [hp.placements, hp.varyings]
      exact ih

/-- **A shader leaves the answers of the registry as they were exactly if it recalls all its
varyings.** -/
theorem assignLayouts_alike_iff {stage : Stage} {source : Text} {varyings : VaryingLocations}
    {out : LaidOut} (h : assignLayouts stage source varyings = .ok out) :
    out.varyings.Alike varyings ↔ Recalls stage varyings out := by
  obtain ⟨usage, last, _, hrun, _, hvaryings, hplaced, _⟩ := assignLayouts_run h
  have hlocation : ∀ name, out.varyings.location? name
      = ((givenLocations (sharedPlacements stage out.placements)).lookup name).or
          (varyings.location? name) := by
    intro name
    rw [hvaryings, hplaced]
    exact hrun.location?_eq rfl name
  obtain ⟨-, hnext⟩ := hrun.next_eq_iff rfl
  rw [← hvaryings, ← hplaced] at hnext
  constructor
  · intro halike
    refine ⟨fun name location hgiven => ?_, hnext.1 halike.next⟩
    rw [← halike.location? name, hlocation name, hgiven]
    rfl
  · intro hrecalls
    refine ⟨fun name => ?_, hnext.2 hrecalls.spared⟩
    rw [hlocation name]
    cases hgiven : (givenLocations (sharedPlacements stage out.placements)).lookup name with
    | none => rfl
    | some location => exact (hrecalls.location? name location hgiven).symm

/-- **A run that places all it shares where the registry has it leaves the registry alone.** -/
theorem Run.varyings_eq {stage : Stage} {start last : Progress} (hrun : Run stage start last)
    (hknown : ∀ p ∈ sharedPlacements stage last.placements,
      start.varyings.location? p.name = some p.location) :
    last.varyings = start.varyings := by
  induction hrun with
  | refl => rfl
  | @place middle last p _ hp ih =>
      rw [hp.placements, sharedPlacements_append] at hknown
      have hmiddle := ih fun q hq => hknown q (List.mem_append_left _ hq)
      by_cases hshared : isShared stage p.space = true
      · have hself : p ∈ sharedPlacements stage [p] := by simp [sharedPlacements, hshared]
        have hlocated := hp.shared hshared
        rw [hmiddle] at hlocated
        exact (hlocated.eq_of_free (hknown p (List.mem_append_right _ hself)) hp.free).2
      · rw [Bool.not_eq_true] at hshared
        rw [hp.unshared hshared, hmiddle]
  | pass _ hp ih =>
      rw [hp.placements] at hknown
      rw [hp.varyings, ih hknown]

/-- A shader whose varyings are all placed where the registry has them recalls them. -/
lemma recalls_of_known {stage : Stage} {source : Text} {varyings : VaryingLocations}
    {out : LaidOut} (h : assignLayouts stage source varyings = .ok out)
    (hknown : ∀ p ∈ sharedPlacements stage out.placements,
      varyings.location? p.name = some p.location) : Recalls stage varyings out := by
  obtain ⟨usage, last, _, hrun, _, hvaryings, hplaced, _⟩ := assignLayouts_run h
  rw [hplaced] at hknown
  have hsame : out.varyings = varyings := hvaryings.trans (hrun.varyings_eq hknown)
  rw [← assignLayouts_alike_iff h, hsame]
  exact .refl varyings

end GlBridge.Layout
