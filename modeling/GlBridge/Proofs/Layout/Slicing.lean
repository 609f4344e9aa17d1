import GlBridge.Proofs.Layout.Editing

/-!
# The passes over declarations in bytes

The passes that separate samplers and assign layouts, as they go over the bytes of a source with
every slice checked.

**Numbers and slices.**  Assigning layouts can fail in two ways: a number gets too large, or a slice
fails.  `Checked` keeps the two apart.  Numbers depend on names and lengths alone, so they come out
as on the text (`takeLocations_inBytes`), and the first kind of failure is the same as there.

**Edits.**  Laying out a declaration adds at most one edit, and that one lies in the declaration.  As
declarations come one after the other, so do the edits (`layOut_ordered`), which is what applying
them needs.

* **`separateSamplers?_encode`**, **`assignLayouts?_encode`** — on the bytes of a text no slice
  fails, and the results are those on the text;
* **`slicedInBounds`** — all passes together, with the order of all ranges.
-/

namespace GlBridge.Layout

open Text Glsl

/-! ## Separate samplers -/

namespace SamplerSplit

/-- The split of a statement, if it declares combined samplers and no array of them. -/
def ofByteTokens? (bytes : Bytes) (tokens : List ByteToken) : Option (Option SamplerSplit) :=
  match Declaration.parse? (tokens.map ByteToken.plain) with
  | none => some none
  | some declaration =>
    let d : ByteDeclaration := { tokens, declaration }
    if declaration.storage ≠ .uniform ∨ declaration.isBlock then some none
    else do
      let type ← d.type?
      match splitSamplerType? type.text with
      | none => return none
      | some (texture, sampler) =>
        if d.declarators = []
            ∨ d.declarators.any (fun x => x.span.stop - x.span.start ≠ byteLength x.name) then
          return none
        else
          let first ← tokens.head?
          let last ← tokens.getLast?
          let head ← bytes.slice? first.start type.start
          return some {
            combined := type.text
            names := d.declarators.map Declarator.name
            edit := {
              span := { start := first.start, stop := last.stop }
              text := join "; ".toList
                (d.declarators.map fun x => declare head texture sampler x.name) } }

/-- A split, as it is made in the bytes. -/
def inBytes (source : Text) (split : SamplerSplit) : SamplerSplit :=
  { split with edit := split.edit.inBytes source }

end SamplerSplit

/-- The declarations of combined samplers that are to be split. -/
def samplerSplits? (bytes : Bytes) : Option (List SamplerSplit) := do
  let declarations ← globalDeclarations? bytes
  let splits ← declarations.mapM (SamplerSplit.ofByteTokens? bytes)
  return splits.filterMap id

/-- The separated samplers in a part of the source combined again. -/
def combineUses? (types : List (Text × Text)) (text : Text) : Option Text :=
  renameUses?
    (fun name afterDot =>
      if afterDot then none
      else (types.lookup name).map fun combined =>
        combined ++ "(".toList ++ name ++ ", ".toList ++ samplerPrefix ++ name ++ ")".toList)
    (encode text)

/-- The source with every combined sampler at global scope split, and combined where it is
used. -/
def separateSamplers? (bytes : Bytes) : Option Text := do
  match ← samplerSplits? bytes with
  | [] => return decode bytes
  | splits =>
    Edit.applyFrom? (combineUses? (samplerTypes splits)) bytes 0 (splits.map SamplerSplit.edit)

section Samplers

variable {source : Text} {tokens : List Token} {d : InterfaceDeclaration}

/-- The declarators in the bytes are those of the characters, with their offsets. -/
lemma declarators_inBytes (source : Text) (d : InterfaceDeclaration) :
    (d.inBytes source).declarators = d.declarators.map (Declarator.inBytes source) := by
  rw [ByteDeclaration.declarators, InterfaceDeclaration.inBytes_tokens, ← List.map_drop,
    Declarator.parseBytes_inBytes]
  rfl

/-- A declarator is no more than its name in the bytes if it is no more in the text. -/
lemma length_inBytes {x : Declarator} (hseated : d.Seated source)
    (htexts : ∀ token ∈ d.tokens, source.slice token.start token.stop = token.text)
    (hx : x ∈ d.declarators) :
    (x.inBytes source).span.stop - (x.inBytes source).span.start = byteLength x.name
      ↔ x.span.stop = x.span.start + x.name.length := by
  obtain ⟨name, hname, last, hlast, htext, hspan, hle⟩ := hseated.exists_group hx
  obtain ⟨_, hpos, hwithin⟩ := hseated.placed.within name hname
  have hstop : byteOffset source name.stop
      = byteOffset source name.start + byteLength x.name := by
    have hdrop := drop_eq_slice_append source hpos.le
    rw [htexts name hname] at hdrop
    rw [htext, ← length_encode]
    exact byteOffset_of_drop hdrop
  have hmono : byteOffset source name.stop ≤ byteOffset source last.stop := byteOffset_mono hle
  have hinj := byteOffset_inj (hseated.placed.within last hlast).2.2 hwithin
  rw [Declarator.inBytes, hspan, Span.inBytes]
  show byteOffset source last.stop - byteOffset source name.start = _ ↔ last.stop = _
  rw [htext] at hstop ⊢
  rw [← Token.stop, ← hinj]
  omega

/-- Arrays of samplers are found in the bytes as in the text. -/
lemma alone_inBytes (hseated : d.Seated source)
    (htexts : ∀ token ∈ d.tokens, source.slice token.start token.stop = token.text) :
    ((d.inBytes source).declarators = []
        ∨ (d.inBytes source).declarators.any
          (fun x => x.span.stop - x.span.start ≠ byteLength x.name) = true)
      ↔ (d.declarators = []
        ∨ d.declarators.any (fun x => x.span.stop ≠ x.span.start + x.name.length) = true) := by
  rw [declarators_inBytes, List.map_eq_nil_iff, List.any_map, List.any_eq_true, List.any_eq_true]
  refine or_congr Iff.rfl (exists_congr fun x => and_congr_right fun hx => ?_)
  rw [Function.comp_apply, decide_eq_true_iff, decide_eq_true_iff]
  exact not_congr (length_inBytes hseated htexts hx)

/-- With a last token there is no need for another. -/
lemma getLastD_of_getLast? (first : Token) {last : Token} (h : tokens.getLast? = some last) :
    tokens.getLastD first = last := by
  rw [List.getLastD_eq_getLast?, h]
  rfl

/-- A declaration is split into the same samplers in the bytes. -/
lemma ofByteTokens?_encode (htokens : tokens ∈ globalDeclarations source) :
    SamplerSplit.ofByteTokens? (encode source) (tokens.map (Token.inBytes source))
      = some ((SamplerSplit.ofTokens? source tokens).map (SamplerSplit.inBytes source)) := by
  obtain ⟨hne, hplaced, htexts⟩ := globalDeclarations_placed htokens
  obtain ⟨first, rest, rfl⟩ := List.exists_cons_of_ne_nil hne
  unfold SamplerSplit.ofByteTokens? SamplerSplit.ofTokens?
  rw [parse?_inBytes]
  cases hparse : Declaration.parse? (first :: rest) with
  | none => rfl
  | some declaration =>
      have hseated := InterfaceDeclaration.seated_of_parse? hplaced hparse
      set d : InterfaceDeclaration := { tokens := first :: rest, declaration } with hd
      have hbytes : (⟨(first :: rest).map (Token.inBytes source), declaration⟩ : ByteDeclaration)
          = d.inBytes source := rfl
      have htype := hseated.type?_encode
      have htypeText : declaration.typeToken (first :: rest) = d.typeToken := rfl
      have hdeclared : declaration.declarators (first :: rest) = d.declarators := rfl
      simp only [hbytes, htypeText, hdeclared, htype, Option.bind_eq_bind, Option.bind_some,
        Token.inBytes, alone_inBytes hseated htexts]
      split_ifs with hkind halone
      · rfl
      · cases splitSamplerType? d.typeToken.text <;> rfl
      · cases splitSamplerType? d.typeToken.text with
        | none => rfl
        | some types =>
            obtain ⟨last, hlast⟩ : ∃ last, (first :: rest).getLast? = some last :=
              ⟨_, List.getLast?_eq_some_getLast hne⟩
            have hstop := getLastD_of_getLast? first hlast
            have hhead := slice?_encode source (hplaced.first_le rfl hseated.type_mem)
            simp only [List.head?_map, List.getLast?_map, List.head?_cons, hlast, Option.map_some,
              Option.bind_some, Token.inBytes, hstop, hhead, declarators_inBytes, List.map_map]
            rfl

/-- The declarations that a source has split. -/
def samplerSplits (source : Text) : List SamplerSplit :=
  (globalDeclarations source).filterMap (SamplerSplit.ofTokens? source)

/-- All declarations are, so the passes over them agree. -/
lemma samplerSplits?_encode (source : Text) :
    samplerSplits? (encode source)
      = some ((samplerSplits source).map (SamplerSplit.inBytes source)) := by
  have hsplits := mapM_map_eq_some (l := globalDeclarations source) fun tokens htokens =>
    ofByteTokens?_encode htokens
  rw [samplerSplits?, globalDeclarations?_encode, Option.bind_eq_bind, Option.bind_some, hsplits,
    Option.bind_eq_bind, Option.bind_some, List.filterMap_map, samplerSplits, List.map_filterMap]
  rfl

/-- A declaration that is split is replaced from its first token to its last one. -/
lemma span_of_ofTokens? {split : SamplerSplit} (h : SamplerSplit.ofTokens? source tokens = some split) :
    ∃ first last, tokens.head? = some first ∧ tokens.getLast? = some last ∧
      split.edit.span = { start := first.start, stop := last.stop } := by
  unfold SamplerSplit.ofTokens? at h
  split at h
  · next first rest declaration _ =>
      obtain ⟨last, hlast⟩ : ∃ last, (first :: rest).getLast? = some last :=
        ⟨_, List.getLast?_eq_some_getLast (List.cons_ne_nil _ _)⟩
      refine ⟨first, last, rfl, hlast, ?_⟩
      rw [← getLastD_of_getLast? first hlast]
      split_ifs at h
      dsimp only at h
      split at h
      · exact absurd h (by simp)
      · simp only [Option.ite_none_left_eq_some, Option.some.injEq] at h
        rw [← h.2]
  · exact absurd h (by simp)

/-- The edits that separate samplers stand apart, in order. -/
lemma samplerSplits_ordered (source : Text) :
    Edit.Ordered source ((samplerSplits source).map SamplerSplit.edit) where
  ordered := by
    refine List.pairwise_map.2 (List.pairwise_filterMap.2 ((globalDeclarations_ordered source).imp ?_))
    intro earlier later hlt x hx y hy
    obtain ⟨_, last, _, hlast, hspan⟩ := span_of_ofTokens? hx
    obtain ⟨first, _, hfirst, _, hspan'⟩ := span_of_ofTokens? hy
    rw [hspan, hspan']
    exact hlt last (List.mem_of_getLast? hlast) first (List.mem_of_head? hfirst)
  within := by
    refine List.forall_mem_map.2 fun split hsplit => ?_
    obtain ⟨tokens, htokens, hof⟩ := List.mem_filterMap.1 hsplit
    obtain ⟨first, last, hfirst, hlast, hspan⟩ := span_of_ofTokens? hof
    have hplaced := (globalDeclarations_placed htokens).2.1
    have hmem := List.mem_of_getLast? hlast
    have hwithin := hplaced.within last hmem
    rw [hspan]
    exact ⟨(hplaced.first_le hfirst hmem).trans hwithin.2.1.le, hwithin.2.2⟩

/-- **Samplers are separated in the bytes as in the text.** -/
theorem separateSamplers?_encode (source : Text) :
    separateSamplers? (encode source) = some (separateSamplers source) := by
  have hordered := samplerSplits_ordered source
  have hsplits := samplerSplits?_encode source
  rw [separateSamplers?, hsplits, separateSamplers, ← samplerSplits]
  cases hcases : samplerSplits source with
  | nil => exact congrArg some (decode_encode source)
  | cons split splits =>
      rw [hcases] at hordered
      have htypes : samplerTypes ((split :: splits).map (SamplerSplit.inBytes source))
          = samplerTypes (split :: splits) := by
        rw [samplerTypes, samplerTypes, List.flatMap_map]
        rfl
      have hcombine (text : Text) : combineUses? (samplerTypes (split :: splits)) text
          = some (combineUses (samplerTypes (split :: splits)) text) := renameUses?_encode _ text
      have happly := Edit.applyFrom?_encode hcombine (Nat.zero_le _) hordered
        fun _ _ => Nat.zero_le _
      rw [List.map_map] at happly
      rw [← happly, ← htypes, byteOffset_zero]
      exact congrArg (Edit.applyFrom? _ _ _) (List.map_map ..)

end Samplers

/-! ## Assigning layouts -/

/-- What a pass over bytes results in.  It gives nothing if a slice fails, and an overflow if a
number gets too large. -/
abbrev Checked (α : Type) : Type := ExceptT Overflow Option α

/-- What is sliced out. -/
def sliced {α : Type} (part : Option α) : Checked α := ExceptT.lift part

/-- What is numbered. -/
def numbered {α : Type} (result : Except Overflow α) : Checked α := ExceptT.mk (some result)

section Checked

variable {α β : Type}

@[simp] lemma sliced_some_bind (a : α) (next : α → Checked β) :
    (sliced (some a) >>= next) = next a := rfl

@[simp] lemma numbered_ok_bind (a : α) (next : α → Checked β) :
    (numbered (.ok a) >>= next) = next a := rfl

end Checked

namespace ByteDeclaration

/-- Taking what one declaration pins down. -/
def pin (stage : Stage) (usage : Usage) (d : ByteDeclaration) : Except Overflow Usage :=
  if d.declaration.storage.isResource then
    match d.declaration.layoutValue "binding" with
    | some (some binding) => usage.claimBinding binding
    | _ => .ok usage
  else
    match locationSpace? stage d.declaration.storage, d.declaration.layoutValue "location" with
    | some (space, _), some (some location) => do
      let (slots, usage) ← pinDeclarators d.plain space location 0 usage d.declarators
      usage.claim space location (max slots 1)
    | _, _ => .ok usage

/-- Laying out a resource that has no binding. -/
def layOutResource? (bytes : Bytes) (progress : Progress) (d : ByteDeclaration) :
    Checked Progress := do
  if d.declaration.isBlock then
    let (binding, progress) ← numbered progress.takeBinding
    let edit ← sliced (d.argumentEdit? (bindingArgument binding))
    return progress.edit edit
  else
    let (parts, progress) ← numbered (progress.takeBindings d.declarators)
    let edit ← sliced (d.splitEdit? bytes parts)
    return progress.edit edit

/-- Laying out the inputs or outputs of a declaration that has no location. -/
def layOutVariables? (bytes : Bytes) (progress : Progress) (d : ByteDeclaration)
    (space : LocationSpace) (shared : Bool) : Checked Progress := do
  let (placements, progress) ←
    numbered (Progress.takeLocations d.plain space shared progress d.declarators)
  if placements.isEmpty then return progress
  else
    let edit ← sliced (d.splitEdit? bytes (placements.map Placement.part))
    return progress.edit edit

/-- Laying out one declaration. -/
def layOut? (stage : Stage) (bytes : Bytes) (progress : Progress) (d : ByteDeclaration) :
    Checked Progress := do
  let type ← sliced d.type?
  if "gl_".toList.isPrefixOf type.text then return progress
  else if d.declaration.storage.isResource then
    if (d.declaration.layoutValue "binding").isSome then return progress
    else layOutResource? bytes progress d
  else
    match locationSpace? stage d.declaration.storage with
    | none => return progress
    | some (space, shared) =>
      if d.declaration.isBlock ∨ (d.declaration.layoutValue "location").isSome then return progress
      else layOutVariables? bytes progress d space shared

end ByteDeclaration

/-- Both passes over the declarations. -/
def layOutAll? (stage : Stage) (bytes : Bytes) (varyings : VaryingLocations) : Checked Progress := do
  let declarations ← sliced (ByteDeclaration.all? bytes)
  let usage ← numbered (declarations.foldlM (ByteDeclaration.pin stage) {})
  declarations.foldlM (ByteDeclaration.layOut? stage bytes) { usage, varyings }

/-- The source with a location on every interface variable and a binding on every resource. -/
def assignLayouts? (stage : Stage) (bytes : Bytes) (varyings : VaryingLocations) :
    Checked LaidOut := do
  let progress ← layOutAll? stage bytes varyings
  let text ← sliced (Edit.applyAll? bytes progress.edits)
  return {
    text
    names := progress.usage.names
    varyings := progress.varyings
    placements := progress.placements }

/-! ### In bytes -/

/-- A variable, as it stands in the bytes. -/
def Variable.inBytes (source : Text) (wanted : Variable) : Variable :=
  { wanted with declarator := wanted.declarator.inBytes source }

/-- A variable with its location, as it stands in the bytes. -/
def Placement.inBytes (source : Text) (p : Placement) : Placement :=
  { p with declarator := p.declarator.inBytes source }

/-- What the second pass carries along, in offsets. -/
def Progress.inBytes (source : Text) (progress : Progress) : Progress :=
  { progress with
    placements := progress.placements.map (Placement.inBytes source)
    edits := progress.edits.map (Edit.inBytes source) }

/-- What laying out a source results in, in offsets. -/
def LaidOut.inBytes (source : Text) (out : LaidOut) : LaidOut :=
  { out with placements := out.placements.map (Placement.inBytes source) }

section Passes

variable {source : Text} {d : InterfaceDeclaration} {stage : Stage} {space : LocationSpace}
  {shared : Bool}

/-- Slots are counted on words, which are the same in the bytes. -/
lemma slotsOf_inBytes (x : Declarator) :
    (d.inBytes source).plain.slotsOf (x.inBytes source) = d.slotsOf x := by
  have htype : (d.inBytes source).plain.typeToken.text = d.typeToken.text := by
    have hget := List.getD_map (l := d.tokens) (d := { text := [], start := 0 })
      (n := d.declaration.typeIndex) (ByteToken.plain ∘ Token.inBytes source)
    rw [← List.map_map] at hget
    have htext := congrArg Token.text hget
    exact htext
  rw [InterfaceDeclaration.slotsOf, InterfaceDeclaration.slotsOf, htype]
  rfl

/-- What is pinned depends on words only. -/
lemma pinDeclarators_inBytes (location : ℕ) (declarators : List Declarator) (slots : ℕ)
    (usage : Usage) :
    pinDeclarators (d.inBytes source).plain space location slots usage
        (declarators.map (Declarator.inBytes source))
      = pinDeclarators d space location slots usage declarators := by
  induction declarators generalizing slots usage with
  | nil => rfl
  | cons x rest ih =>
      rw [List.map_cons, pinDeclarators, pinDeclarators, slotsOf_inBytes]
      simp only [ih]
      rfl

/-- Pins are no matter of places. -/
lemma pin_inBytes (usage : Usage) : (d.inBytes source).pin stage usage = pin stage usage d := by
  unfold ByteDeclaration.pin pin
  rw [InterfaceDeclaration.inBytes_declaration, declarators_inBytes]
  split_ifs
  · rfl
  · cases locationSpace? stage d.declaration.storage with
    | none => rfl
    | some found =>
        cases d.declaration.layoutValue "location" with
        | none => rfl
        | some value =>
            cases value with
            | none => rfl
            | some location =>
                exact congrArg (· >>= _) (pinDeclarators_inBytes location d.declarators 0 usage)

/-! ### Numbers -/

/-- Results are mapped after the last step. -/
lemma map_bind_except {ε α β γ : Type} (x : Except ε α) (next : α → Except ε β) (f : β → γ) :
    (x >>= next).map f = x >>= fun a => (next a).map f := by
  cases x <;> rfl

/-- What has been mapped is used as it is. -/
lemma bind_map_except {ε α β γ : Type} (x : Except ε α) (f : α → β) (next : β → Except ε γ) :
    x.map f >>= next = x >>= fun a => next (f a) := by
  cases x <;> rfl

/-- A binding is taken without looking at the source. -/
lemma takeBinding_inBytes (progress : Progress) : (progress.inBytes source).takeBinding
    = progress.takeBinding.map fun (binding, after) => (binding, after.inBytes source) := by
  simp only [Progress.takeBinding, map_bind_except]
  rfl

/-- Neither are bindings taken by looking at it. -/
lemma takeBindings_inBytes (declarators : List Declarator) (progress : Progress) :
    (progress.inBytes source).takeBindings (declarators.map (Declarator.inBytes source))
      = (progress.takeBindings declarators).map fun (parts, after) =>
          (parts.map fun part => (part.1, part.2.inBytes source), after.inBytes source) := by
  induction declarators generalizing progress with
  | nil => rfl
  | cons x rest ih =>
      simp only [List.map_cons, Progress.takeBindings, takeBinding_inBytes, bind_map_except, ih,
        map_bind_except]
      rfl

/-- A location is chosen by the name and the number of slots. -/
lemma chooseLocation_inBytes (progress : Progress) (name : Text) (slots : ℕ) :
    (progress.inBytes source).chooseLocation space shared name slots
      = (progress.chooseLocation space shared name slots).map fun (location, after) =>
          (location, after.inBytes source) := by
  unfold Progress.chooseLocation
  split_ifs
  · simp only [map_bind_except]
    rfl
  · simp only [map_bind_except]
    rfl

/-- Placing a variable takes its spans along. -/
lemma place_inBytes (progress : Progress) (wanted : Variable) :
    (progress.inBytes source).place shared (wanted.inBytes source)
      = (progress.place shared wanted).map fun (p, after) =>
          (p.inBytes source, after.inBytes source) := by
  rw [Progress.place, Progress.place, map_bind_except]
  show ((progress.inBytes source).chooseLocation wanted.space shared wanted.declarator.name
    wanted.slots >>= _) = _
  rw [chooseLocation_inBytes, bind_map_except]
  refine bind_congr fun choice => ?_
  obtain ⟨location, chosen⟩ := choice
  rw [map_bind_except]
  refine bind_congr fun usage => ?_
  simp only [pure, Except.pure, Except.map, Progress.inBytes, List.map_append]
  rfl

/-- So does placing those of a declaration. -/
lemma takeLocations_inBytes (declarators : List Declarator) (progress : Progress) :
    Progress.takeLocations (d.inBytes source).plain space shared (progress.inBytes source)
        (declarators.map (Declarator.inBytes source))
      = (Progress.takeLocations d space shared progress declarators).map
          fun (placements, after) =>
            (placements.map (Placement.inBytes source), after.inBytes source) := by
  induction declarators generalizing progress with
  | nil => rfl
  | cons x rest ih =>
      have hname : (x.inBytes source).name = x.name := rfl
      rw [List.map_cons, Progress.takeLocations, Progress.takeLocations, hname, slotsOf_inBytes]
      split_ifs
      · exact ih progress
      · rw [map_bind_except]
        refine bind_congr fun slots => ?_
        show ((progress.inBytes source).place shared
          (Variable.inBytes source { space, declarator := x, slots }) >>= _) = _
        simp only [place_inBytes, bind_map_except, map_bind_except, ih]
        rfl

/-! ### Slices -/

/-- An edit of the bytes has the offsets of its span. -/
lemma edit_inBytes (progress : Progress) (edit : Edit) :
    (progress.inBytes source).edit (edit.inBytes source) = (progress.edit edit).inBytes source := by
  simp only [Progress.edit, Progress.inBytes, List.map_append]
  rfl

/-- The slices of a resource that is laid out are within bounds. -/
lemma layOutResource?_encode (hseated : d.Seated source) (progress : Progress) :
    (d.inBytes source).layOutResource? (encode source) (progress.inBytes source)
      = numbered ((Progress.layOutResource source progress d).map (Progress.inBytes source)) := by
  unfold ByteDeclaration.layOutResource? Progress.layOutResource
  rw [InterfaceDeclaration.inBytes_declaration, takeBinding_inBytes, declarators_inBytes,
    takeBindings_inBytes]
  split_ifs
  · cases progress.takeBinding with
    | error => rfl
    | ok taken =>
        simp only [Except.map, numbered_ok_bind, hseated.argumentEdit?_encode, sliced_some_bind,
          edit_inBytes]
        rfl
  · cases htake : progress.takeBindings d.declarators with
    | error => rfl
    | ok taken =>
        obtain ⟨_, given, hparts, hgiven, _⟩ := Progress.takeBindings_edits htake
        have hmem : ∀ part ∈ taken.1, part.2 ∈ d.declarators := by
          rw [hparts, ← hgiven]
          exact List.forall_mem_map.2 fun part hpart => List.mem_map_of_mem hpart
        simp only [Except.map, numbered_ok_bind, hseated.splitEdit?_encode hmem, sliced_some_bind,
          edit_inBytes]
        rfl

/-- So are those of variables. -/
lemma layOutVariables?_encode (hseated : d.Seated source) (progress : Progress)
    (hshared : shared = isShared stage space) :
    (d.inBytes source).layOutVariables? (encode source) (progress.inBytes source) space shared
      = numbered ((Progress.layOutVariables source progress d space shared).map
          (Progress.inBytes source)) := by
  unfold ByteDeclaration.layOutVariables? Progress.layOutVariables
  rw [declarators_inBytes, takeLocations_inBytes]
  cases htake : Progress.takeLocations d space shared progress d.declarators with
  | error => rfl
  | ok taken =>
      obtain ⟨placements, middle⟩ := taken
      have hmem : ∀ part ∈ placements.map Placement.part, part.2 ∈ d.declarators := by
        rw [hshared] at htake
        obtain ⟨_, _, hvars⟩ := Progress.takeLocations_run htake
        refine List.forall_mem_map.2 fun p hp => ?_
        have hvariable := List.mem_map_of_mem (f := Placement.toVariable) hp
        rw [hvars, List.mem_map] at hvariable
        obtain ⟨x, hx, hp⟩ := hvariable
        show p.declarator ∈ d.declarators
        rw [← hp]
        exact (List.mem_filter.1 hx).1
      have hsplit := hseated.splitEdit?_encode hmem
      rw [List.map_map] at hsplit
      show _ = numbered (.ok (Progress.inBytes source (if placements.isEmpty then middle
        else middle.edit (splitEdit source d (placements.map Placement.part)))))
      simp only [Except.map, numbered_ok_bind, List.isEmpty_map, List.map_map]
      by_cases hempty : placements.isEmpty = true
      · rw [if_pos hempty, if_pos hempty]
        rfl
      · rw [if_neg hempty, if_neg hempty, ← edit_inBytes]
        exact congrArg (fun part => sliced part >>= _) hsplit

/-- Each declaration is laid out in the same way in the bytes. -/
lemma layOut?_encode (hseated : d.Seated source) (progress : Progress) :
    (d.inBytes source).layOut? stage (encode source) (progress.inBytes source)
      = numbered ((Progress.layOut stage source progress d).map (Progress.inBytes source)) := by
  unfold ByteDeclaration.layOut? Progress.layOut
  rw [hseated.type?_encode, sliced_some_bind, InterfaceDeclaration.inBytes_declaration]
  show (if "gl_".toList.isPrefixOf d.typeToken.text = true then _ else _) = _
  split_ifs
  · rfl
  · rfl
  · exact layOutResource?_encode hseated progress
  · cases locationSpace? stage d.declaration.storage <;> rfl
  · cases hspace : locationSpace? stage d.declaration.storage with
    | none => rfl
    | some found => exact layOutVariables?_encode hseated progress (eq_isShared hspace)

/-- All declarations are, if each of them is seated in the source. -/
lemma layOut?_foldlM {declarations : List InterfaceDeclaration}
    (hseated : ∀ d ∈ declarations, d.Seated source) (progress : Progress) :
    (declarations.map (InterfaceDeclaration.inBytes source)).foldlM
        (ByteDeclaration.layOut? stage (encode source)) (progress.inBytes source)
      = numbered ((declarations.foldlM (Progress.layOut stage source) progress).map
          (Progress.inBytes source)) := by
  induction declarations generalizing progress with
  | nil => rfl
  | cons d rest ih =>
      rw [List.forall_mem_cons] at hseated
      rw [List.map_cons, List.foldlM_cons, List.foldlM_cons, layOut?_encode hseated.1]
      cases Progress.layOut stage source progress d with
      | error => rfl
      | ok middle => exact ih hseated.2 middle

/-- Both passes over the declarations of a text. -/
def layOutAll (stage : Stage) (source : Text) (varyings : VaryingLocations) :
    Except Overflow Progress := do
  let declarations := InterfaceDeclaration.all source
  let usage ← pinned stage declarations
  declarations.foldlM (Progress.layOut stage source) { usage, varyings }

/-- **Declarations are laid out in the bytes as in the text.** -/
theorem layOutAll?_encode (stage : Stage) (source : Text) (varyings : VaryingLocations) :
    layOutAll? stage (encode source) varyings
      = numbered ((layOutAll stage source varyings).map (Progress.inBytes source)) := by
  rw [layOutAll?, all?_encode, sliced_some_bind, List.foldlM_map]
  simp only [pin_inBytes]
  rw [layOutAll, pinned]
  cases (InterfaceDeclaration.all source).foldlM (pin stage) {} with
  | error => rfl
  | ok usage =>
      exact layOut?_foldlM (fun d hd => InterfaceDeclaration.seated_of_mem_all hd)
        { usage, varyings }

/-- **One edit comes after the others.** -/
lemma layOut_ordered {progress after : Progress} (hseated : d.Seated source)
    (hordered : Edit.Ordered source progress.edits)
    (hbefore : ∀ edit ∈ progress.edits, edit.span.stop < d.span.start)
    (h : Progress.layOut stage source progress d = .ok after) :
    Edit.Ordered source after.edits ∧ ∀ edit ∈ after.edits, edit.span.stop ≤ d.span.stop := by
  have hspan := hseated.span_within
  have hearlier : ∀ edit ∈ progress.edits, edit.span.stop ≤ d.span.stop := fun edit hedit =>
    (hbefore edit hedit).le.trans hspan.1
  rcases Progress.layOut_edits h with ⟨_, hnone⟩ | ⟨_, edit, hone, hedit⟩
  · rw [hnone]
    exact ⟨hordered, hearlier⟩
  · obtain ⟨hlow, hle, hhigh⟩ := hseated.editOf_within hedit
    rw [hone]
    refine ⟨⟨List.pairwise_append.2 ⟨hordered.ordered, List.pairwise_singleton _ _, ?_⟩, ?_⟩, ?_⟩
    · intro earlier hmem last hlast
      rw [List.mem_singleton.1 hlast]
      exact (hbefore earlier hmem).trans_le hlow
    · rw [List.forall_mem_append]
      exact ⟨hordered.within, List.forall_mem_singleton.2 ⟨hle, hhigh.trans hspan.2⟩⟩
    · rw [List.forall_mem_append]
      exact ⟨hearlier, List.forall_mem_singleton.2 hhigh⟩

/-- Edits stay in order, since declarations come in order and each is edited within its span. -/
lemma layOut_foldlM_ordered : ∀ {declarations : List InterfaceDeclaration}
    {progress after : Progress}, (∀ d ∈ declarations, d.Seated source) →
    (declarations.Pairwise fun earlier later => earlier.span.stop < later.span.start) →
    Edit.Ordered source progress.edits →
    (∀ edit ∈ progress.edits, ∀ d ∈ declarations, edit.span.stop < d.span.start) →
    declarations.foldlM (Progress.layOut stage source) progress = .ok after →
      Edit.Ordered source after.edits
  | [], progress, after, _, _, hordered, _, h => by
      rw [List.foldlM_nil, pure_eq_ok] at h
      rwa [h] at hordered
  | d :: rest, progress, after, hseated, hdeclared, hordered, hbefore, h => by
      rw [List.foldlM_cons, bind_eq_ok] at h
      obtain ⟨middle, hd, hrest⟩ := h
      rw [List.forall_mem_cons] at hseated
      rw [List.pairwise_cons] at hdeclared
      obtain ⟨hmiddle, hstop⟩ := layOut_ordered hseated.1 hordered
        (fun edit hedit => hbefore edit hedit d List.mem_cons_self) hd
      exact layOut_foldlM_ordered hseated.2 hdeclared.2 hmiddle
        (fun edit hedit later hlater => (hstop edit hedit).trans_lt (hdeclared.1 later hlater)) hrest

/-- **The edits of the declarations come one after the other.** -/
theorem layOutAll_ordered {varyings : VaryingLocations} {progress : Progress}
    (h : layOutAll stage source varyings = .ok progress) :
    Edit.Ordered source progress.edits := by
  rw [layOutAll, bind_eq_ok] at h
  obtain ⟨usage, _, hfold⟩ := h
  exact layOut_foldlM_ordered (fun d hd => InterfaceDeclaration.seated_of_mem_all hd)
    (all_ordered source) ⟨List.Pairwise.nil, by simp⟩ (by simp) hfold

/-- **Layouts are assigned in the bytes as in the text.** -/
theorem assignLayouts?_encode (stage : Stage) (source : Text) (varyings : VaryingLocations) :
    assignLayouts? stage (encode source) varyings
      = numbered ((assignLayouts stage source varyings).map (LaidOut.inBytes source)) := by
  have hassign : assignLayouts stage source varyings = layOutAll stage source varyings >>=
      fun progress => pure {
        text := Edit.applyAll source progress.edits
        names := progress.usage.names
        varyings := progress.varyings
        placements := progress.placements } := by
    rw [layOutAll, bind_assoc]
    rfl
  rw [assignLayouts?, layOutAll?_encode, hassign]
  cases hall : layOutAll stage source varyings with
  | error => rfl
  | ok progress =>
      have happly := Edit.applyAll?_encode (layOutAll_ordered hall)
      simp only [Except.map, numbered_ok_bind]
      exact congrArg (fun part => sliced part >>= _) happly

end Passes

/-! ## All passes -/

/-- What the passes over a source slice out of its bytes.  None of the slices fails, the results are
those on the text, and all ranges come one after the other.  Assigning layouts fails on a number at
most. -/
structure SlicedInBounds (source : Text) : Prop where
  tokenize : ∃ tokens, tokenize? (encode source) = some tokens ∧
    tokens = (Glsl.tokenize source).map (Token.inBytes source) ∧
    (encode source).Slices (tokens.map ByteToken.span) ∧
    ∀ token ∈ tokens, token.start < token.stop ∧
      (encode source).slice? token.start token.stop = some token.text
  globalStatements : ∃ spans, globalStatements? (encode source) = some spans ∧
    spans = (Glsl.globalStatements source).map (Span.inBytes source) ∧
    (encode source).Slices spans
  globalDeclarations : ∃ declarations, globalDeclarations? (encode source) = some declarations ∧
    declarations = (Glsl.globalDeclarations source).map (List.map (Token.inBytes source)) ∧
    (encode source).Slices (declarations.flatten.map ByteToken.span)
  renameUses : ∀ rename,
    renameUses? rename (encode source) = some (Glsl.renameUses rename source)
  replaceMembers : ∀ instanceName replace,
    replaceMembers? instanceName replace (encode source)
      = some (Glsl.replaceMembers instanceName replace source)
  separateSamplers : ∃ splits, samplerSplits? (encode source) = some splits ∧
    (encode source).Slices (splits.map fun split => split.edit.span) ∧
    separateSamplers? (encode source) = some (Layout.separateSamplers source)
  assignLayouts : ∀ stage varyings,
    assignLayouts? stage (encode source) varyings
      = numbered ((Layout.assignLayouts stage source varyings).map (LaidOut.inBytes source))
  layoutEdits : ∀ stage varyings, ∃ result,
    layOutAll? stage (encode source) varyings = numbered result ∧
      ∀ progress, result = .ok progress →
        (encode source).Slices (progress.edits.map Edit.span)

/-- **No pass slices outside a source, through a character, or from an end back to a start.** -/
theorem slicedInBounds (source : Text) : SlicedInBounds source where
  tokenize := by
    refine ⟨_, tokenize?_encode source, rfl, ?_, List.forall_mem_map.2 fun token htoken => ?_⟩
    · exact (tokenize_placed source).slices le_rfl
    · obtain ⟨_, hlt, hle⟩ := (tokenize_placed source).within token htoken
      have hslice := slice?_encode source hlt.le
      rw [tokenize_text source token htoken] at hslice
      exact ⟨byteOffset_lt hlt hle, hslice⟩
  globalStatements := by
    obtain ⟨hordered, hwithin⟩ := globalStatements_ordered source
    refine ⟨_, globalStatements?_encode source, rfl, slices_inBytes ?_ fun span hspan => ?_⟩
    · exact hordered.imp_of_mem fun hearlier _ hlt =>
        ⟨hlt.le, (hwithin _ hearlier).1.trans_lt hlt⟩
    · exact ⟨(hwithin span hspan).1, (hwithin span hspan).2.le⟩
  globalDeclarations := by
    refine ⟨_, globalDeclarations?_encode source, rfl, ?_⟩
    rw [← List.map_flatten]
    exact (globalDeclarations_flatten_placed source).slices le_rfl
  renameUses := fun rename => renameUses?_encode rename source
  replaceMembers := fun instanceName replace => replaceMembers?_encode instanceName replace source
  separateSamplers := by
    refine ⟨_, samplerSplits?_encode source, ?_, separateSamplers?_encode source⟩
    have hslices := (samplerSplits_ordered source).slices
    rw [List.map_map] at hslices ⊢
    exact hslices
  assignLayouts := fun stage varyings => assignLayouts?_encode stage source varyings
  layoutEdits := by
    refine fun stage varyings => ⟨_, layOutAll?_encode stage source varyings, fun progress h => ?_⟩
    cases hall : layOutAll stage source varyings with
    | error =>
        rw [hall] at h
        exact absurd h (by simp [Except.map])
    | ok last =>
        rw [hall] at h
        obtain rfl := Except.ok.inj h
        have hslices := (layOutAll_ordered hall).slices
        rw [← Function.comp_def, ← List.map_map] at hslices
        exact hslices

end GlBridge.Layout
