import GlBridge.Proofs.Layout.Placement

/-!
# The room for locations

Where a variable goes depends on the slots in use and on the registry, and on nothing else that the
second pass carries along.  `Room` is these two.  Its operations are those of the pass without
their checks, so that what the checks would say can be stated beside them.

**Completing.**  A computation `Completes` if none of its checks fails.

**Choosing.**  `VaryingLocations.settle` gives the location of a varying, which `Located.settle_eq`
ties to what asking for it can come to.  `Room.give` takes the locations of one variable.

**Fitting.**  `Room.Admits` says that everything worked out to place one variable fits 32 bits, and
`Room.Fits` says so for variables one after the other.  They do if they are few enough for the
numbers in use: `Room.Within.fits`.
-/

namespace GlBridge.Layout

open Glsl

/-! ## Completing -/

/-- A computation gives a result. -/
def Completes {ε α : Type} (x : Except ε α) : Prop := ∃ a, x = .ok a

lemma completes_ok {ε α : Type} (a : α) : Completes (.ok a : Except ε α) := ⟨a, rfl⟩

lemma completes_pure {ε α : Type} (a : α) : Completes (pure a : Except ε α) := ⟨a, rfl⟩

lemma completes_bind {ε α β : Type} {x : Except ε α} {f : α → Except ε β} :
    Completes (x >>= f) ↔ ∃ a, x = .ok a ∧ Completes (f a) := by
  simp only [Completes, bind_eq_ok]
  constructor
  · rintro ⟨b, a, ha, hb⟩
    exact ⟨a, ha, b, hb⟩
  · rintro ⟨a, ha, b, hb⟩
    exact ⟨b, a, ha, hb⟩

/-- What follows may not be able to fail. -/
lemma completes_bind_of {ε α β : Type} {x : Except ε α} {f : α → Except ε β}
    (h : ∀ a, Completes (f a)) : Completes (x >>= f) ↔ Completes x := by
  rw [completes_bind]
  exact exists_congr fun a => and_iff_left (h a)

namespace UsedSlots

variable {used : UsedSlots} {start slots : ℕ}

lemma completes_claim : Completes (used.claim start slots) ↔ start + slots < word32Limit := by
  simp [Completes, claim_eq_ok]

lemma completes_firstFree :
    Completes (used.firstFree start slots) ↔ used.firstFit start slots + slots < word32Limit := by
  simp [Completes, firstFree_eq_ok]

/-- Looking from a later start does not find an earlier one. -/
lemma firstFit_mono {first last : ℕ} (h : first ≤ last) :
    used.firstFit first slots ≤ used.firstFit last slots :=
  firstFit_le_of_free (h.trans (le_firstFit used last slots)) (firstFit_free used last slots)

end UsedSlots

/-- First fit ends at the latest where all taken ranges do. -/
lemma UsedSlots.firstFit_le {used : UsedSlots} {start slots bound : ℕ} (hstart : start ≤ bound)
    (h : ∀ taken ∈ used, taken.stop ≤ bound) : used.firstFit start slots ≤ bound := by
  fun_induction firstFit used start slots with
  | case1 start _ => exact hstart
  | case2 start taken hfound ih => exact ih (h taken (List.mem_of_find?_eq_some hfound))

/-- Steps that complete independently of what has been done before. -/
lemma completes_foldlM {σ α : Type} {f : σ → α → Except Overflow σ} {P : α → Prop}
    (h : ∀ s a, Completes (f s a) ↔ P a) :
    ∀ {l : List α} {s : σ}, Completes (l.foldlM f s) ↔ ∀ a ∈ l, P a
  | [], s => by
      rw [List.foldlM_nil]
      exact iff_of_true (completes_ok s) (by simp)
  | a :: l, s => by
      rw [List.foldlM_cons, completes_bind, List.forall_mem_cons]
      constructor
      · rintro ⟨s', hs', hrest⟩
        exact ⟨(h s a).1 ⟨s', hs'⟩, (completes_foldlM h).1 hrest⟩
      · rintro ⟨ha, hrest⟩
        obtain ⟨s', hs'⟩ := (h s a).2 ha
        exact ⟨s', hs', (completes_foldlM h).2 hrest⟩

/-! ## Room -/

namespace VaryingLocations

variable {varyings after : VaryingLocations} {name : Text} {slots location : ℕ} {used : UsedSlots}

/-- A new location for a varying, without checks. -/
def settleNew (varyings : VaryingLocations) (name : Text) (slots : ℕ) (used : UsedSlots) :
    ℕ × VaryingLocations :=
  let location := used.firstFit varyings.next slots
  if varyingLimit < location + slots then
    let location := used.firstFit 0 slots
    (location, { varyings with assigned := (name, location) :: varyings.assigned })
  else (location, { assigned := (name, location) :: varyings.assigned, next := location + slots })

/-- The location of a varying, without checks. -/
def settle (varyings : VaryingLocations) (name : Text) (slots : ℕ) (used : UsedSlots) :
    ℕ × VaryingLocations :=
  match varyings.location? name with
  | some location =>
    if used.any (UsedSlots.meets · { start := location, stop := location + slots }) then
      varyings.settleNew name slots used
    else (location, varyings)
  | none => varyings.settleNew name slots used

/-- Everything worked out for the location of a varying fits: the end of the remembered range, and
if that one is not free, the end of the first range from the next location on. -/
def Admits (varyings : VaryingLocations) (name : Text) (slots : ℕ) (used : UsedSlots) : Prop :=
  (∀ location ∈ varyings.location? name, location + slots < word32Limit) ∧
    (varyings.Stale name slots used → used.firstFit varyings.next slots + slots < word32Limit)

lemma settle_of_stale (h : varyings.Stale name slots used) :
    varyings.settle name slots used = varyings.settleNew name slots used := by
  unfold settle
  split
  · next known hknown =>
      rw [if_pos]
      rw [← Bool.not_eq_false, UsedSlots.any_meets_eq_false]
      exact h known hknown
  · rfl

/-- The three things that asking for a varying can come to are told apart by `settle`. -/
lemma Located.settle_eq (h : Located varyings name slots used location after) :
    varyings.settle name slots used = (location, after) := by
  cases h with
  | remembered hknown hfree =>
      rw [settle, hknown]
      simp only [UsedSlots.any_meets_eq_false.2 hfree, Bool.false_eq_true, if_false]
  | fresh hstale hfits =>
      rw [settle_of_stale hstale]
      exact if_neg (not_lt.2 hfits)
  | exhausted hstale hpast =>
      rw [settle_of_stale hstale]
      exact if_pos hpast

/-- One of the three always applies. -/
lemma exists_located (varyings : VaryingLocations) (name : Text) (slots : ℕ) (used : UsedSlots) :
    ∃ location after, Located varyings name slots used location after := by
  by_cases hstale : varyings.Stale name slots used
  · rcases lt_or_ge varyingLimit (used.firstFit varyings.next slots + slots) with hpast | hfits
    · exact ⟨_, _, .exhausted hstale hpast⟩
    · exact ⟨_, _, .fresh hstale hfits⟩
  · simp only [Stale, not_forall, not_not] at hstale
    obtain ⟨known, hknown, hfree⟩ := hstale
    exact ⟨_, _, .remembered hknown hfree⟩

lemma Admits.settle_lt (h : varyings.Admits name slots used) :
    (varyings.settle name slots used).1 + slots < word32Limit := by
  obtain ⟨location, after, hlocated⟩ := varyings.exists_located name slots used
  rw [hlocated.settle_eq]
  cases hlocated with
  | remembered hknown hfree => exact h.1 _ hknown
  | fresh hstale hfits => exact h.2 hstale
  | exhausted hstale hpast =>
      have hle : used.firstFit 0 slots ≤ used.firstFit varyings.next slots :=
        UsedSlots.firstFit_mono (Nat.zero_le _)
      exact (Nat.add_le_add_right hle slots).trans_lt (h.2 hstale)

lemma completes_locateNew : Completes (varyings.locateNew name slots used) ↔
    used.firstFit varyings.next slots + slots < word32Limit := by
  rw [locateNew, completes_bind]
  constructor
  · rintro ⟨_, hfirst, _⟩
    exact UsedSlots.completes_firstFree.1 ⟨_, hfirst⟩
  · intro hlt
    refine ⟨_, UsedSlots.firstFree_eq_ok.2 ⟨hlt, rfl⟩, ?_⟩
    rw [completes_bind]
    refine ⟨_, Word32.check_eq_ok.2 ⟨rfl, hlt⟩, ?_⟩
    split_ifs
    · have hle : used.firstFit 0 slots ≤ used.firstFit varyings.next slots :=
        UsedSlots.firstFit_mono (Nat.zero_le _)
      rw [completes_bind_of fun _ => completes_pure _, UsedSlots.completes_firstFree]
      omega
    · exact completes_ok _

lemma completes_locate :
    Completes (varyings.locate name slots used) ↔ varyings.Admits name slots used := by
  unfold locate Admits Stale
  split
  · next known hknown =>
      simp only [hknown, Option.mem_def, Option.some.injEq, forall_eq']
      rw [completes_bind]
      constructor
      · rintro ⟨free, hfree, hrest⟩
        obtain ⟨hlt, hfree⟩ := UsedSlots.isFree_eq_ok.1 hfree
        refine ⟨hlt, fun hstale => ?_⟩
        rw [if_neg (mt hfree.1 hstale)] at hrest
        exact completes_locateNew.1 hrest
      · rintro ⟨hlt, hnew⟩
        obtain ⟨free, hfree⟩ : ∃ free : Bool, free = true ↔
            used.Free { start := known, stop := known + slots } :=
          ⟨!used.any (UsedSlots.meets · _), by
            rw [Bool.not_eq_true', UsedSlots.any_meets_eq_false]⟩
        refine ⟨free, UsedSlots.isFree_eq_ok.2 ⟨hlt, hfree⟩, ?_⟩
        split_ifs with hif
        · exact completes_ok _
        · exact completes_locateNew.2 (hnew (mt hfree.2 hif))
  · next hnone =>
      rw [completes_locateNew]
      simp [hnone]

end VaryingLocations

/-- All that the location of a variable depends on. -/
structure Room where
  slots : LocationSpace → UsedSlots
  varyings : VaryingLocations

namespace Room

/-- The location of a variable, and the registry afterwards, without checks. -/
def choose (stage : Stage) (room : Room) (wanted : Variable) : ℕ × VaryingLocations :=
  if isShared stage wanted.space then
    room.varyings.settle wanted.name wanted.slots (room.slots wanted.space)
  else ((room.slots wanted.space).firstFit 0 wanted.slots, room.varyings)

/-- The locations that a variable is given, without checks. -/
def spanOf (stage : Stage) (room : Room) (wanted : Variable) : Span :=
  { start := (room.choose stage wanted).1, stop := (room.choose stage wanted).1 + wanted.slots }

/-- Giving a variable its location, without checks. -/
def give (stage : Stage) (room : Room) (wanted : Variable) : Room :=
  { slots := Function.update room.slots wanted.space
      (room.slots wanted.space ++ [room.spanOf stage wanted])
    varyings := (room.choose stage wanted).2 }

lemma give_slots_self {stage : Stage} {room : Room} {wanted : Variable} :
    (room.give stage wanted).slots wanted.space
      = room.slots wanted.space ++ [room.spanOf stage wanted] :=
  Function.update_self ..

lemma give_slots_other {stage : Stage} {room : Room} {wanted : Variable} {space : LocationSpace}
    (h : space ≠ wanted.space) : (room.give stage wanted).slots space = room.slots space :=
  Function.update_of_ne h ..

/-- Everything worked out for the location of a variable fits. -/
def Admits (stage : Stage) (room : Room) (wanted : Variable) : Prop :=
  if isShared stage wanted.space then
    room.varyings.Admits wanted.name wanted.slots (room.slots wanted.space)
  else (room.slots wanted.space).firstFit 0 wanted.slots + wanted.slots < word32Limit

/-- Everything worked out for the locations of variables, one after the other, fits. -/
def Fits (stage : Stage) : Room → List Variable → Prop
  | _, [] => True
  | room, wanted :: rest => room.Admits stage wanted ∧ (room.give stage wanted).Fits stage rest

lemma fits_append {stage : Stage} : ∀ {room : Room} {first second : List Variable},
    room.Fits stage (first ++ second) ↔
      room.Fits stage first ∧ (first.foldl (give stage) room).Fits stage second
  | room, [], second => (and_iff_right trivial).symm
  | room, wanted :: rest, second => by
      rw [List.cons_append, Fits, fits_append, Fits, List.foldl_cons, and_assoc]

/-- The range that a variable is given fits, too. -/
lemma Admits.choose_lt {stage : Stage} {room : Room} {wanted : Variable}
    (h : room.Admits stage wanted) :
    (room.choose stage wanted).1 + wanted.slots < word32Limit := by
  unfold Admits at h
  unfold choose
  split_ifs at h ⊢
  · exact h.settle_lt
  · exact h

/-- No number in use is greater than a bound. -/
structure Within (room : Room) (bound : ℕ) : Prop where
  slots : ∀ space, ∀ taken ∈ room.slots space, taken.stop ≤ bound
  remembered : ∀ name, ∀ location ∈ room.varyings.location? name, location ≤ bound
  next : room.varyings.next ≤ bound

namespace Within

variable {stage : Stage} {room : Room} {bound : ℕ} {wanted : Variable}

/-- A location is looked for within the bound. -/
lemma admits (h : room.Within bound) (hlt : bound + wanted.slots < word32Limit) :
    room.Admits stage wanted := by
  have hfirst {start : ℕ} (hstart : start ≤ bound) :
      (room.slots wanted.space).firstFit start wanted.slots + wanted.slots < word32Limit :=
    (Nat.add_le_add_right (UsedSlots.firstFit_le hstart (h.slots _)) _).trans_lt hlt
  unfold Admits
  split_ifs
  · exact ⟨fun location hknown =>
      (Nat.add_le_add_right (h.remembered _ location hknown) _).trans_lt hlt,
      fun _ => hfirst h.next⟩
  · exact hfirst (Nat.zero_le _)

/-- A variable that is given its location moves the bound by its slots. -/
lemma choose (h : room.Within bound) : (room.choose stage wanted).1 ≤ bound ∧
    (∀ name, ∀ location ∈ (room.choose stage wanted).2.location? name, location ≤ bound) ∧
    (room.choose stage wanted).2.next ≤ bound + wanted.slots := by
  have hfirst {start : ℕ} (hstart : start ≤ bound) :
      (room.slots wanted.space).firstFit start wanted.slots ≤ bound :=
    UsedSlots.firstFit_le hstart (h.slots _)
  have hnext : room.varyings.next ≤ bound + wanted.slots := h.next.trans (Nat.le_add_right _ _)
  unfold Room.choose
  split_ifs
  · obtain ⟨location, after, hlocated⟩ := room.varyings.exists_located wanted.name wanted.slots
      (room.slots wanted.space)
    rw [hlocated.settle_eq]
    have hlocation : location ≤ bound := by
      cases hlocated with
      | remembered hknown hfree => exact h.remembered _ _ hknown
      | fresh hstale hfits => exact hfirst h.next
      | exhausted hstale hpast => exact hfirst (Nat.zero_le _)
    refine ⟨hlocation, fun name other hother => ?_, ?_⟩
    · by_cases hname : name = wanted.name
      · subst hname
        rw [hlocated.location?_self, Option.mem_some_iff] at hother
        exact hother ▸ hlocation
      · rw [hlocated.location?_other hname] at hother
        exact h.remembered name other hother
    · cases hlocated with
      | remembered hknown hfree => exact hnext
      | fresh hstale hfits => exact Nat.add_le_add_right hlocation _
      | exhausted hstale hpast => exact hnext
  · exact ⟨hfirst (Nat.zero_le _), h.remembered, hnext⟩

lemma give (h : room.Within bound) : (room.give stage wanted).Within (bound + wanted.slots) := by
  have hle : bound ≤ bound + wanted.slots := Nat.le_add_right _ _
  obtain ⟨hlocation, hremembered, hnext⟩ : (room.choose stage wanted).1 ≤ bound ∧ _ := h.choose
  refine ⟨fun space taken htaken => ?_, fun name location hknown => ?_, hnext⟩
  · by_cases hspace : space = wanted.space
    · subst hspace
      rw [give_slots_self, List.mem_append, List.mem_singleton] at htaken
      rcases htaken with hbefore | rfl
      · exact (h.slots _ taken hbefore).trans hle
      · exact Nat.add_le_add_right hlocation _
    · rw [give_slots_other hspace] at htaken
      exact (h.slots space taken htaken).trans hle
  · exact (hremembered name location hknown).trans hle

/-- **Variables fit if their slots do, counted from the bound on.** -/
lemma fits : ∀ {vars : List Variable} {room : Room} {bound : ℕ}, room.Within bound →
    bound + (vars.map Variable.slots).sum < word32Limit → room.Fits stage vars
  | [], room, bound, h, hlt => trivial
  | wanted :: rest, room, bound, h, hlt => by
      rw [List.map_cons, List.sum_cons, ← Nat.add_assoc] at hlt
      exact ⟨h.admits ((Nat.le_add_right _ _).trans_lt hlt), h.give.fits hlt⟩

end Within

end Room

end GlBridge.Layout
