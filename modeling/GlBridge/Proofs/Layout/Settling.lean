import GlBridge.Proofs.Glsl.Declaration
import GlBridge.Proofs.Glsl.Reading
import GlBridge.Proofs.Layout.Placement

/-!
# Declarations that are settled

The second pass edits a declaration, or leaves it alone.  This file says which of the two it does
without mention of bindings, locations and registries, so that it can be said of another source as
well.

* `Wants` — the declaration is a resource without a binding or has variables without a location;
* `Given`, `EditOf` — the layout arguments that are given, and the edits that give them;
* `Mark`, `Site` — what a declaration says of where its names are, and a name with its location;
* `Lays`, `layOut_lays` — the one edit by which a declaration that wants something is laid out, and
  what the new declarations say;
* `text_eq_of_not_wants` — a source whose declarations want nothing is laid out as it is.
-/

namespace GlBridge.Layout

open Text Glsl

/-! ## Wanting -/

namespace InterfaceDeclaration

/-- The declaration that tokens make. -/
def ofTokens? (tokens : List Token) : Option InterfaceDeclaration :=
  (Declaration.parse? tokens).map fun declaration => { tokens, declaration }

lemma ofTokens?_eq_some_iff {tokens : List Token} {d : InterfaceDeclaration} :
    ofTokens? tokens = some d ↔
      d.tokens = tokens ∧ Declaration.parse? tokens = some d.declaration := by
  rw [ofTokens?, Option.map_eq_some_iff]
  constructor
  · rintro ⟨declaration, hparse, rfl⟩
    exact ⟨rfl, hparse⟩
  · rintro ⟨rfl, hparse⟩
    exact ⟨d.declaration, hparse, rfl⟩

lemma ofTokens?_nil : ofTokens? [] = none := rfl

/-- The declarations of a source are the ones that its statements make. -/
lemma all_eq (source : Text) :
    all source = (statementsOf source).filterMap fun statement => ofTokens? statement.tokens := by
  have htokens : (globalStatements source).map (tokenizeIn source)
      = (statementsOf source).map Statement.tokens := by
    rw [globalStatements_eq, List.map_map]
    exact List.map_congr_left fun statement hstatement => tokenizeIn_statement hstatement
  have hfilter : ∀ lists : List (List Token),
      (lists.filter (· ≠ [])).filterMap ofTokens? = lists.filterMap ofTokens? := by
    intro lists
    rw [List.filterMap_filter]
    congr 1
    funext tokens
    split_ifs with h
    · rfl
    · obtain rfl : tokens = [] := by simpa using h
      rfl
  have hall : all source = (globalDeclarations source).filterMap ofTokens? := rfl
  rw [hall, globalDeclarations, htokens, hfilter, List.filterMap_map]
  rfl

/-- What a declaration is told by: its binding, if it is a resource, or its location. -/
def key (d : InterfaceDeclaration) : String :=
  if d.declaration.storage.isResource then "binding" else "location"

/-- The declaration is a resource that is given a binding, or has variables that are given
locations. -/
def Wants (stage : Stage) (d : InterfaceDeclaration) : Prop :=
  ("gl_".toList.isPrefixOf d.typeToken.text = false ∧ d.declaration.storage.isResource = true ∧
    d.declaration.layoutValue "binding" = none) ∨ d.unlocated stage ≠ []

variable {stage : Stage} {d other : InterfaceDeclaration}

/-- A declaration leaves no variable without a location if it is built in, has no locations, is laid
out, or declares built-in names only. -/
lemma unlocated_eq_nil_iff : d.unlocated stage = [] ↔
    "gl_".toList.isPrefixOf d.typeToken.text = true ∨
      locationSpace? stage d.declaration.storage = none ∨
        (d.declaration.isBlock = true ∨ (d.declaration.layoutValue "location").isSome = true) ∨
          ∀ name ∈ d.declarators.map Declarator.name, "gl_".toList.isPrefixOf name = true := by
  rw [unlocated]
  by_cases hbuiltin : "gl_".toList.isPrefixOf d.typeToken.text = true
  · rw [if_pos hbuiltin]
    exact iff_of_true rfl (Or.inl hbuiltin)
  rw [if_neg hbuiltin]
  cases hspace : locationSpace? stage d.declaration.storage with
  | none => exact iff_of_true rfl (Or.inr (Or.inl rfl))
  | some space =>
      by_cases hlaid : d.declaration.isBlock = true
          ∨ (d.declaration.layoutValue "location").isSome = true
      · simp only [if_pos hlaid]
        exact iff_of_true trivial (Or.inr (Or.inr (Or.inl hlaid)))
      · simp only [hbuiltin, hlaid, reduceCtorEq, false_or, List.forall_mem_map]
        simp

/-- Once it is told by its key, a declaration wants nothing. -/
lemma not_wants_of_layoutValue (h : (d.declaration.layoutValue d.key).isSome = true) :
    ¬ d.Wants stage := by
  rw [key] at h
  rintro (⟨_, hresource, hnone⟩ | hunlocated)
  · rw [if_pos hresource, hnone] at h
    exact Bool.false_ne_true h
  · apply hunlocated
    rw [unlocated_eq_nil_iff]
    split_ifs at h with hresource
    · exact Or.inr (Or.inl (locationSpace?_of_resource hresource))
    · exact Or.inr (Or.inr (Or.inl (Or.inr h)))

/-- What wants something is not told by its key. -/
lemma Wants.layoutValue_eq_none (h : d.Wants stage) : d.declaration.layoutValue d.key = none :=
  Option.not_isSome_iff_eq_none.1 fun hsome => not_wants_of_layoutValue hsome h

/-- Declarations with the same words want the same. -/
lemma Wants.congr (htokens : d.tokens.map Token.text = other.tokens.map Token.text)
    (hdeclaration : d.declaration = other.declaration) (h : d.Wants stage) : other.Wants stage := by
  have htype : d.typeToken.text = other.typeToken.text := by
    rw [typeToken, typeToken, hdeclaration]
    exact other.declaration.text_typeToken_congr htokens
  have hnames : d.declarators.map Declarator.name = other.declarators.map Declarator.name := by
    rw [declarators, declarators, Declaration.declarators, Declaration.declarators, hdeclaration]
    refine Declarator.names_congr ?_
    rw [List.map_drop, List.map_drop, htokens]
  have hunlocated : d.unlocated stage = [] ↔ other.unlocated stage = [] := by
    rw [unlocated_eq_nil_iff, unlocated_eq_nil_iff, htype, hnames, hdeclaration]
  rw [Wants, Ne, hunlocated, htype, hdeclaration] at h
  exact h

end InterfaceDeclaration

/-! ## What is given -/

/-- A layout argument that the second pass adds. -/
inductive Given where
  | location (location : ℕ)
  | binding (binding : ℕ)

namespace Given

/-- The argument as it is written. -/
def text : Given → Text
  | location n => locationArgument n
  | binding n => bindingArgument n

/-- What a declaration that is given the argument is told by. -/
def key : Given → String
  | location _ => "location"
  | binding _ => "binding"

/-- The number that is given. -/
def number : Given → ℕ
  | location n => n
  | binding n => n

end Given

/-- The edits of a declaration: it is given one argument as a whole, or it is split into one
declaration for each of some declarators, if there are several. -/
inductive EditOf (source : Text) (d : InterfaceDeclaration) : Edit → Prop where
  | whole (given : Given) (hkey : given.key = d.key) :
    EditOf source d (argumentEdit d given.text)
  | split (parts : List (Given × Declarator)) (hblock : d.declaration.isBlock = false)
    (hparts : ∀ part ∈ parts, part.1.key = d.key ∧ part.2 ∈ d.declarators)
    (hseveral : parts ≠ [] → 2 ≤ d.declarators.length) :
    EditOf source d {
      span := d.span
      text := join "; ".toList (parts.map fun part =>
        headWith source d part.1.text ++ " ".toList ++ part.2.span.textIn source) }

/-- What a declaration says of where the names are that it lays out. -/
structure Mark where
  storage : Storage
  /-- What it is told by: nothing, something that is no number, or a number. -/
  value : Option (Option ℕ)
  names : List Text
deriving DecidableEq

namespace InterfaceDeclaration

/-- The declarators that are laid out: built-in names are variables without a location. -/
def kept (d : InterfaceDeclaration) : List Declarator :=
  if d.declaration.storage.isResource then d.declarators
  else d.declarators.filter fun x => !"gl_".toList.isPrefixOf x.name

/-- What a declaration says of where the names are that it lays out. -/
def mark (d : InterfaceDeclaration) : Mark where
  storage := d.declaration.storage
  value := d.declaration.layoutValue d.key
  names := d.kept.map Declarator.name

/-- What it says of names once it is given an argument. -/
def marked (d : InterfaceDeclaration) (given : Given) (names : List Text) : Mark where
  storage := d.declaration.storage
  value := some (some given.number)
  names := names

end InterfaceDeclaration

/-- The edit that lays out a declaration: it gives a block one argument, and other declarations one
for each declarator that is laid out.  With the edit goes what the new declarations say. -/
inductive Lays (source : Text) (d : InterfaceDeclaration) : List Mark → Edit → Prop where
  | block (given : Given) (hkey : given.key = d.key) (hfits : given.number < word32Limit)
    (hblock : d.declaration.isBlock = true) :
    Lays source d [d.marked given (d.kept.map Declarator.name)] (argumentEdit d given.text)
  | each (parts : List (Given × Declarator)) (hblock : d.declaration.isBlock = false)
    (hkeys : ∀ part ∈ parts, part.1.key = d.key)
    (hfits : ∀ part ∈ parts, part.1.number < word32Limit) (hkept : parts.map Prod.snd = d.kept) :
    Lays source d (parts.map fun part => d.marked part.1 [part.2.name])
      (splitEdit source d (parts.map fun part => (part.1.text, part.2)))

/-- A name of one of the interfaces with its location. -/
structure Site where
  space : LocationSpace
  name : Text
  location : ℕ
deriving DecidableEq

/-- The names that are given a location, with that location. -/
def Mark.sites (stage : Stage) (mark : Mark) : List Site :=
  match locationSpace? stage mark.storage, mark.value with
  | some (space, _), some (some location) => mark.names.map (Site.mk space · location)
  | _, _ => []

/-- Where a variable has been placed. -/
def Placement.site (p : Placement) : Site where
  space := p.space
  name := p.name
  location := p.location

section Edits

variable {stage : Stage} {source : Text} {d : InterfaceDeclaration}

lemma InterfaceDeclaration.kept_sublist (d : InterfaceDeclaration) :
    d.kept.Sublist d.declarators := by
  rw [kept]
  split_ifs
  · exact List.Sublist.refl _
  · exact List.filter_sublist

lemma splitEdit_of_length_ne {parts : List (Text × Declarator)} (h : parts.length ≠ 1) :
    splitEdit source d parts = {
      span := d.span
      text := join "; ".toList (parts.map fun part =>
        headWith source d part.1 ++ " ".toList ++ part.2.span.textIn source) } :=
  match parts with
  | [] => rfl
  | [_] => absurd rfl h
  | _ :: _ :: _ => rfl

/-- What lays out a declaration is an edit of it. -/
lemma Lays.editOf {marks : List Mark} {edit : Edit} (h : Lays source d marks edit) :
    EditOf source d edit := by
  cases h with
  | block given hkey => exact .whole given hkey
  | each parts hblock hkeys _ hkept =>
      have hlength : parts.length ≤ d.declarators.length := by
        rw [← List.length_map Prod.snd, hkept]
        exact d.kept_sublist.length_le
      by_cases hone : parts.length = 1
      · obtain ⟨part, rfl⟩ := List.length_eq_one_iff.1 hone
        exact .whole part.1 (hkeys part List.mem_cons_self)
      · rw [splitEdit_of_length_ne (by rwa [List.length_map]), List.map_map]
        refine .split parts hblock (fun part hpart => ⟨hkeys part hpart, ?_⟩) fun hne => ?_
        · exact d.kept_sublist.subset (hkept ▸ List.mem_map_of_mem hpart)
        · have hpos := List.length_pos_iff.2 hne
          omega

/-- Resources have no locations. -/
lemma Mark.sites_of_resource {mark : Mark} (h : mark.storage.isResource = true) :
    mark.sites stage = [] := by
  rw [sites, locationSpace?_of_resource h]

namespace Progress

variable {progress after : Progress}

lemma takeBinding_edits {binding : ℕ} (h : progress.takeBinding = .ok (binding, after)) :
    after.edits = progress.edits ∧ binding < word32Limit := by
  simp only [takeBinding, bind_eq_ok, pure_eq_ok, Prod.mk.injEq, Word32.add, Word32.check_eq_ok] at h
  obtain ⟨_, _, _, _, _, ⟨rfl, hlt⟩, rfl, rfl⟩ := h
  exact ⟨rfl, by omega⟩

/-- Bindings are taken for all declarators. -/
lemma takeBindings_edits : ∀ {declarators : List Declarator} {progress after : Progress}
    {parts : List (Text × Declarator)},
    progress.takeBindings declarators = .ok (parts, after) → after.edits = progress.edits ∧
      ∃ given : List (Given × Declarator), parts = given.map (fun part => (part.1.text, part.2)) ∧
        given.map Prod.snd = declarators ∧
          ∀ part ∈ given, part.1.key = "binding" ∧ part.1.number < word32Limit
  | [], progress, after, parts, h => by
      simp only [takeBindings, Except.ok.injEq, Prod.mk.injEq] at h
      obtain ⟨rfl, rfl⟩ := h
      exact ⟨rfl, [], rfl, rfl, by simp⟩
  | declarator :: rest, progress, after, parts, h => by
      simp only [takeBindings, bind_eq_ok, pure_eq_ok, Prod.mk.injEq] at h
      obtain ⟨⟨binding, middle⟩, htake, ⟨later, last⟩, hrest, rfl, rfl⟩ := h
      obtain ⟨hedits, given, rfl, hdeclarators, hgiven⟩ := takeBindings_edits hrest
      obtain ⟨hfirst, hlt⟩ := takeBinding_edits htake
      refine ⟨hedits.trans hfirst, (.binding binding, declarator) :: given, rfl,
        by rw [List.map_cons, hdeclarators], ?_⟩
      rw [List.forall_mem_cons]
      exact ⟨⟨rfl, hlt⟩, hgiven⟩

lemma chooseLocation_edits {space : LocationSpace} {shared : Bool} {name : Text}
    {slots location : ℕ}
    (h : progress.chooseLocation space shared name slots = .ok (location, after)) :
    after.edits = progress.edits := by
  obtain ⟨_, ⟨varyings, rfl⟩, _⟩ := chooseLocation_eq_ok h
  rfl

lemma place_edits {shared : Bool} {wanted : Variable} {p : Placement}
    (h : progress.place shared wanted = .ok (p, after)) : after.edits = progress.edits := by
  simp only [place, bind_eq_ok, pure_eq_ok, Prod.mk.injEq] at h
  obtain ⟨⟨location, chosen⟩, hchoose, _, _, _, rfl⟩ := h
  have hedits := chooseLocation_edits hchoose
  exact hedits

/-- What is kept by placing a variable is kept by placing those of a declaration. -/
lemma takeLocations_keeps {α : Type} {view : Progress → α} {space : LocationSpace} {shared : Bool}
    (hview : ∀ {before after : Progress} {wanted : Variable} {p : Placement},
      before.place shared wanted = .ok (p, after) → view after = view before) :
    ∀ {declarators : List Declarator} {progress after : Progress} {placements : List Placement},
      takeLocations d space shared progress declarators = .ok (placements, after) →
        view after = view progress
  | [], progress, after, placements, h => by
      simp only [takeLocations, Except.ok.injEq, Prod.mk.injEq] at h
      rw [h.2]
  | declarator :: rest, progress, after, placements, h => by
      rw [takeLocations] at h
      split_ifs at h
      · exact takeLocations_keeps hview h
      · simp only [bind_eq_ok, pure_eq_ok, Prod.mk.injEq] at h
        obtain ⟨_, _, ⟨p, middle⟩, hplace, ⟨later, last⟩, hrest, _, rfl⟩ := h
        exact (takeLocations_keeps hview hrest).trans (hview hplace)

lemma takeLocations_edits {space : LocationSpace} {shared : Bool} {declarators : List Declarator}
    {placements : List Placement}
    (h : takeLocations d space shared progress declarators = .ok (placements, after)) :
    after.edits = progress.edits :=
  takeLocations_keeps place_edits h

lemma place_fits {shared : Bool} {wanted : Variable} {p : Placement}
    (h : progress.place shared wanted = .ok (p, after)) : p.location < word32Limit := by
  simp only [place, bind_eq_ok, pure_eq_ok, Prod.mk.injEq] at h
  obtain ⟨⟨location, chosen⟩, _, usage, hclaim, rfl, _⟩ := h
  simp only [Usage.claim, bind_eq_ok, UsedSlots.claim_eq_ok] at hclaim
  obtain ⟨_, ⟨hlt, _⟩, _⟩ := hclaim
  exact (Nat.le_add_right _ _).trans_lt hlt

/-- The locations that are given fit. -/
lemma takeLocations_fits {space : LocationSpace} {shared : Bool} :
    ∀ {declarators : List Declarator} {progress after : Progress} {placements : List Placement},
      takeLocations d space shared progress declarators = .ok (placements, after) →
        ∀ p ∈ placements, p.location < word32Limit
  | [], progress, after, placements, h => by
      simp only [takeLocations, Except.ok.injEq, Prod.mk.injEq] at h
      rw [← h.1]
      simp
  | declarator :: rest, progress, after, placements, h => by
      rw [takeLocations] at h
      split_ifs at h
      · exact takeLocations_fits h
      · simp only [bind_eq_ok, pure_eq_ok, Prod.mk.injEq] at h
        obtain ⟨_, _, ⟨p, middle⟩, hplace, ⟨later, last⟩, hrest, rfl, _⟩ := h
        rw [List.forall_mem_cons]
        exact ⟨place_fits hplace, takeLocations_fits hrest⟩

/-- The variables that are placed are those that are laid out, all in the space of the declaration. -/
lemma takeLocations_kept {space : LocationSpace} {placements : List Placement}
    (hresource : ¬ d.declaration.storage.isResource = true)
    (h : takeLocations d space (isShared stage space) progress d.declarators
      = .ok (placements, after)) :
    placements.map (·.declarator) = d.kept ∧ ∀ p ∈ placements, p.space = space := by
  obtain ⟨_, _, hvars⟩ := takeLocations_run h
  constructor
  · have hdeclarators := congrArg (List.map Variable.declarator) hvars
    simp only [List.map_map, Function.comp_def, List.map_id_fun', id_eq] at hdeclarators
    rw [InterfaceDeclaration.kept, if_neg hresource, ← hdeclarators]
  · intro p hp
    have hmem : p.toVariable ∈ placements.map Placement.toVariable := List.mem_map_of_mem hp
    rw [hvars] at hmem
    obtain ⟨x, _, hx⟩ := List.mem_map.1 hmem
    rw [← hx]

/-- The edit and the placements that lay out a declaration. -/
structure LaysOut (stage : Stage) (source : Text) (d : InterfaceDeclaration)
    (progress after : Progress) (marks : List Mark) (edit : Edit) (placed : List Placement) :
    Prop where
  edits : after.edits = progress.edits ++ [edit]
  placements : after.placements = progress.placements ++ placed
  lays : Lays source d marks edit
  /-- The new declarations say where the variables have been placed. -/
  sites : marks.flatMap (Mark.sites stage) = placed.map Placement.site

lemma layOutResource_lays (hresource : d.declaration.storage.isResource = true)
    (h : layOutResource source progress d = .ok after) :
    ∃ marks edit, LaysOut stage source d progress after marks edit [] := by
  have hkey : d.key = "binding" := if_pos hresource
  have hrun : Run stage progress after ∧ after.placements = progress.placements :=
    layOutResource_run h
  have hsites : ∀ given names, (d.marked given names).sites stage = [] :=
    fun _ _ => Mark.sites_of_resource hresource
  unfold layOutResource at h
  split_ifs at h with hblock
  · simp only [bind_eq_ok, pure_eq_ok] at h
    obtain ⟨⟨binding, middle⟩, htake, rfl⟩ := h
    obtain ⟨hedits, hlt⟩ := takeBinding_edits htake
    refine ⟨_, _, ?_, by rw [hrun.2, List.append_nil],
      .block (.binding binding) hkey.symm hlt hblock, ?_⟩
    · rw [edit, hedits]
      rfl
    · rw [List.flatMap_singleton, hsites, List.map_nil]
  · simp only [bind_eq_ok, pure_eq_ok] at h
    obtain ⟨⟨parts, middle⟩, htake, rfl⟩ := h
    obtain ⟨hedits, given, rfl, hdeclarators, hgiven⟩ := takeBindings_edits htake
    rw [Bool.not_eq_true] at hblock
    have hkept : given.map Prod.snd = d.kept := by
      rw [hdeclarators, InterfaceDeclaration.kept, if_pos hresource]
    refine ⟨_, splitEdit source d (given.map fun part => (part.1.text, part.2)), ?_,
      by rw [hrun.2, List.append_nil],
      .each given hblock (fun part hpart => (hgiven part hpart).1.trans hkey.symm)
        (fun part hpart => (hgiven part hpart).2) hkept, ?_⟩
    · rw [edit, hedits]
    · rw [List.flatMap_map, List.flatMap_eq_nil_iff.2 fun part _ => hsites part.1 [part.2.name],
        List.map_nil]

lemma layOutVariables_lays {space : LocationSpace} {shared : Bool}
    (hspace : locationSpace? stage d.declaration.storage = some (space, shared))
    (hblock : d.declaration.isBlock = false) (hnone : d.declaration.layoutValue "location" = none)
    (hbuiltin : "gl_".toList.isPrefixOf d.typeToken.text = false)
    (h : layOutVariables source progress d space shared = .ok after) :
    (d.unlocated stage = [] ∧ after.edits = progress.edits ∧
        after.placements = progress.placements) ∨
      (d.unlocated stage ≠ [] ∧
        ∃ marks edit placements, LaysOut stage source d progress after marks edit placements) := by
  have hresource : ¬ d.declaration.storage.isResource = true := fun hresource => by
    rw [locationSpace?_of_resource hresource] at hspace
    exact absurd hspace (by simp)
  have hkey : d.key = "location" := if_neg hresource
  obtain rfl := eq_isShared hspace
  simp only [layOutVariables, bind_eq_ok, pure_eq_ok] at h
  obtain ⟨⟨placements, middle⟩, htake, rfl⟩ := h
  obtain ⟨_, hplaced, hvars⟩ := takeLocations_run htake
  have hunlocated : d.unlocated stage = placements.map Placement.toVariable := by
    have hlaid : ¬ (d.declaration.isBlock = true
        ∨ (d.declaration.layoutValue "location").isSome = true) := by simp [hblock, hnone]
    rw [hvars, InterfaceDeclaration.unlocated, if_neg (by rw [hbuiltin]; exact Bool.false_ne_true),
      hspace]
    simp only [if_neg hlaid]
  have hedits := takeLocations_edits htake
  rw [hunlocated, Ne, List.map_eq_nil_iff]
  split_ifs with hempty
  · obtain rfl := List.isEmpty_iff.1 hempty
    exact Or.inl ⟨rfl, hedits, by rw [hplaced, List.append_nil]⟩
  · let given := placements.map fun p => (Given.location p.location, p.declarator)
    have hparts : placements.map Placement.part
        = given.map fun part => (part.1.text, part.2) := by
      rw [List.map_map]
      rfl
    obtain ⟨hdeclarators, hspaces⟩ := takeLocations_kept hresource htake
    have hkept : given.map Prod.snd = d.kept := by
      rw [← hdeclarators, List.map_map]
      rfl
    refine Or.inr ⟨fun hnil => hempty (List.isEmpty_iff.2 hnil),
      given.map fun part => d.marked part.1 [part.2.name],
      splitEdit source d (placements.map Placement.part), placements, ?_, hplaced, ?_, ?_⟩
    · rw [edit, hedits]
    · rw [hparts]
      exact .each given hblock (List.forall_mem_map.2 fun _ _ => hkey.symm)
        (List.forall_mem_map.2 (takeLocations_fits htake)) hkept
    · rw [List.flatMap_map, List.flatMap_map, List.map_eq_flatMap]
      refine List.flatMap_congr fun p hp => ?_
      rw [Mark.sites, InterfaceDeclaration.marked, hspace, Placement.site, hspaces p hp]
      rfl

/-- **A declaration that wants something is laid out by one edit**, and any other one is left
alone. -/
theorem layOut_lays (h : layOut stage source progress d = .ok after) :
    (¬ d.Wants stage ∧ after.edits = progress.edits ∧ after.placements = progress.placements) ∨
      (d.Wants stage ∧
        ∃ marks edit placements, LaysOut stage source d progress after marks edit placements) := by
  unfold layOut at h
  split at h
  · next hbuiltin =>
      obtain rfl := Except.ok.inj h
      refine Or.inl ⟨?_, rfl, rfl⟩
      rintro (⟨hnot, _⟩ | hunlocated)
      · rw [hbuiltin] at hnot
        exact Bool.noConfusion hnot
      · exact hunlocated (d.unlocated_of_builtin hbuiltin)
  next hbuiltin =>
  rw [Bool.not_eq_true] at hbuiltin
  split at h
  · next hresource =>
      split_ifs at h with hbinding
      · obtain rfl := Except.ok.inj h
        have hkey : d.key = "binding" := if_pos hresource
        exact Or.inl ⟨InterfaceDeclaration.not_wants_of_layoutValue (hkey ▸ hbinding), rfl, rfl⟩
      · rw [Option.not_isSome_iff_eq_none] at hbinding
        obtain ⟨marks, edit, hlays⟩ := layOutResource_lays hresource h
        exact Or.inr ⟨Or.inl ⟨hbuiltin, hresource, hbinding⟩, marks, edit, [], hlays⟩
  next hresource =>
  have hwants : d.Wants stage ↔ d.unlocated stage ≠ [] := by
    rw [InterfaceDeclaration.Wants]
    simp [hresource]
  rw [hwants, not_not]
  split at h
  · next hspace =>
      obtain rfl := Except.ok.inj h
      exact Or.inl ⟨d.unlocated_of_unlocatable hspace, rfl, rfl⟩
  · next hspace =>
      split_ifs at h with hlaid
      · obtain rfl := Except.ok.inj h
        have hnone : d.unlocated stage = [] :=
          InterfaceDeclaration.unlocated_eq_nil_iff.2 (Or.inr (Or.inr (Or.inl hlaid)))
        exact Or.inl ⟨hnone, rfl, rfl⟩
      · rw [not_or, Bool.not_eq_true, Option.not_isSome_iff_eq_none] at hlaid
        exact layOutVariables_lays hspace hlaid.1 hlaid.2 hbuiltin h

/-- **A declaration that wants something gets one edit**, and any other one is left alone. -/
theorem layOut_edits (h : layOut stage source progress d = .ok after) :
    (¬ d.Wants stage ∧ after.edits = progress.edits) ∨
      (d.Wants stage ∧ ∃ edit, after.edits = progress.edits ++ [edit] ∧ EditOf source d edit) :=
  (layOut_lays h).imp (fun ⟨hnot, hedits, _⟩ => ⟨hnot, hedits⟩)
    fun ⟨hwants, _, edit, _, hlays⟩ => ⟨hwants, edit, hlays.edits, hlays.lays.editOf⟩

lemma layOutAll_edits : ∀ {declarations : List InterfaceDeclaration} {progress after : Progress},
    (∀ d ∈ declarations, ¬ d.Wants stage) →
      declarations.foldlM (layOut stage source) progress = .ok after →
        after.edits = progress.edits
  | [], progress, after, _, h => by
      rw [List.foldlM_nil, pure_eq_ok] at h
      rw [h]
  | d :: rest, progress, after, hwants, h => by
      rw [List.foldlM_cons, bind_eq_ok] at h
      obtain ⟨middle, hd, hrest⟩ := h
      rw [List.forall_mem_cons] at hwants
      obtain ⟨_, hedits⟩ := (layOut_edits hd).resolve_right fun h => hwants.1 h.1
      exact (layOutAll_edits hwants.2 hrest).trans hedits

end Progress

/-- **A source whose declarations want nothing is laid out as it is.** -/
theorem text_eq_of_not_wants {varyings : VaryingLocations} {out : LaidOut}
    (hwants : ∀ d ∈ InterfaceDeclaration.all source, ¬ d.Wants stage)
    (h : assignLayouts stage source varyings = .ok out) : out.text = source := by
  simp only [assignLayouts, bind_eq_ok, pure_eq_ok] at h
  obtain ⟨usage, _, last, hlast, rfl⟩ := h
  show Edit.applyAll source last.edits = source
  rw [Progress.layOutAll_edits hwants hlast, Edit.applyAll_nil]

end Edits

end GlBridge.Layout
