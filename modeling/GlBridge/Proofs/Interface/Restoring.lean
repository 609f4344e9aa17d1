import GlBridge.Interface.Restore
import GlBridge.Proofs.Glsl.Respelling
import GlBridge.Proofs.Interface.Finding

/-!
# Generated names do not survive

Restoring names is four passes: names that are in the way make room, blocks are flattened as far as
that goes, accesses to members follow, and in the end the generated names are replaced.  Any of the
first three may leave generated names behind, such as the instance of a block that could not be
flattened.  This file says that none of it matters.

**What is replaced.**  `Outlived` is what a restored text wants of a name: it stands for no resource
and for no location that has a name of its own.  These are exactly the names that the last pass
leaves alone (`restoredName?_eq_none_iff`).

**What comes instead.**  The last pass puts in names of the application.  `ApplicationName` says
that they are identifiers, so that they are read as they were put in
(`identifiers_renameIdentifiers`), and not generated themselves, so that nothing is left to replace
(`ApplicationName.outlived`).

The main result is **`restoreNames_outlived`**, for every text and all that is known of its names.
-/

namespace GlBridge.Interface

open Text Glsl Layout

variable {stage : Stage} {names : InterfaceNames} {resources : Resources} {name : Text}

/-! ## The forms of generated names -/

/-- Whether a name has one of the forms in which names are generated and restored. -/
def isGenerated (name : Text) : Bool :=
  (resourceKey? name).isSome || (generatedLocation? vertexInputLead name).isSome
    || (generatedLocation? fragmentOutputLead name).isSome

/-- A name that an application can have given to something: an identifier, and no generated name. -/
def ApplicationName (name : Text) : Prop := isIdentifier name = true ∧ isGenerated name = false

instance (name : Text) : Decidable (ApplicationName name) :=
  inferInstanceAs (Decidable (_ ∧ _))

lemma take_of_dropPrefix? {lead text rest : Text} (h : dropPrefix? lead text = some rest) (n : ℕ)
    (hn : n ≤ lead.length) : text.take n = lead.take n := by
  unfold dropPrefix? at h
  split_ifs at h with hlead
  rw [List.isPrefixOf_iff_prefix] at hlead
  obtain ⟨after, rfl⟩ := hlead
  exact List.take_append_of_le_length hn

lemma take_of_resourceKey? {key : ResourceKey} (h : resourceKey? name = some key) :
    name.take 2 = ['_', 'g'] := by
  simp only [resourceKey?, Option.bind_eq_bind, Option.bind_eq_some_iff] at h
  obtain ⟨rest, hrest, _⟩ := h
  exact take_of_dropPrefix? hrest 2 (by decide)

lemma take_of_generatedLocation? {lead : Text} {location : ℕ} (hlead : 2 ≤ lead.length)
    (h : generatedLocation? lead name = some location) : name.take 2 = lead.take 2 := by
  simp only [generatedLocation?, Option.bind_eq_bind, Option.bind_eq_some_iff] at h
  obtain ⟨rest, hrest, _⟩ := h
  exact take_of_dropPrefix? hrest 2 hlead

/-- A name that is generated for a location is not generated for a resource too. -/
lemma resourceKey?_of_generatedLocation? {lead : Text} {location : ℕ}
    (hlead : lead = vertexInputLead ∨ lead = fragmentOutputLead)
    (h : generatedLocation? lead name = some location) : resourceKey? name = none := by
  have hlength : 2 ≤ lead.length := by rcases hlead with rfl | rfl <;> decide
  have hne : lead.take 2 ≠ ['_', 'g'] := by rcases hlead with rfl | rfl <;> decide
  cases hkey : resourceKey? name with
  | none => rfl
  | some key =>
      have htake := take_of_generatedLocation? hlength h
      rw [take_of_resourceKey? hkey] at htake
      exact absurd htake.symm hne

/-! ## What the last pass replaces -/

/-- A name that may stand in a restored text: it is not generated for a resource that has a name
which can be put back, nor for an input of a vertex shader or an output of a fragment shader whose
name is known. -/
structure Outlived (stage : Stage) (names : InterfaceNames) (resources : Resources) (name : Text) :
    Prop where
  resource : ∀ key resource given, resourceKey? name = some key →
    resources.lookup key = some resource → resource.name = some given → isReserved given = true
  input : stage = .vertex → ∀ location, generatedLocation? vertexInputLead name = some location →
    location ∉ names.inputs.map Prod.fst
  output : stage = .fragment → ∀ location,
    generatedLocation? fragmentOutputLead name = some location →
      location ∉ names.outputs.map Prod.fst

lemma ApplicationName.outlived (h : ApplicationName name) :
    Outlived stage names resources name := by
  obtain ⟨_, hgenerated⟩ := h
  simp only [isGenerated, Bool.or_eq_false_iff, Option.isSome_eq_false_iff,
    Option.isNone_iff_eq_none] at hgenerated
  obtain ⟨⟨hresource, hinput⟩, houtput⟩ := hgenerated
  refine ⟨?_, ?_, ?_⟩
  · intro key _ _ hkey
    rw [hresource] at hkey
    exact absurd hkey (by simp)
  · intro _ location hlocation
    rw [hinput] at hlocation
    exact absurd hlocation (by simp)
  · intro _ location hlocation
    rw [houtput] at hlocation
    exact absurd hlocation (by simp)

lemma lookup_eq_none_iff_notMem {names : LocationNames} {location : ℕ} :
    names.lookup location = none ↔ location ∉ names.map Prod.fst := by
  rw [List.lookup_eq_none_iff]
  simp only [bne_iff_ne, List.mem_map, not_exists, not_and]
  exact ⟨fun h p hp heq => h p hp heq.symm, fun h p hp heq => h p hp heq.symm⟩

/-- The name of a resource that can be put back. -/
lemma filter_lookup_eq_none_iff {key : ResourceKey} :
    ((resources.lookup key).bind Resource.name).filter (!isReserved ·) = none ↔
      ∀ resource given, resources.lookup key = some resource → resource.name = some given →
        isReserved given = true := by
  simp only [Option.filter_eq_none_iff, Option.bind_eq_some_iff, Bool.not_eq_true',
    Bool.not_eq_false]
  constructor
  · intro h resource given hresource hgiven
    exact h given ⟨resource, hresource, hgiven⟩
  · rintro h given ⟨resource, hresource, hgiven⟩
    exact h resource given hresource hgiven

/-- The name of a location that can be put back. -/
lemma bind_lookup_eq_none_iff {lead : Text} {known : LocationNames} :
    (generatedLocation? lead name).bind (known.lookup ·) = none ↔
      ∀ location, generatedLocation? lead name = some location →
        location ∉ known.map Prod.fst := by
  rw [Option.bind_eq_none_iff]
  exact forall₂_congr fun _ _ => lookup_eq_none_iff_notMem

/-- **The last pass leaves alone exactly what may stand in a restored text.** -/
theorem restoredName?_eq_none_iff :
    restoredName? stage names resources name = none ↔ Outlived stage names resources name := by
  unfold restoredName?
  cases hkey : resourceKey? name with
  | some key =>
      have hlocation : ∀ lead, lead = vertexInputLead ∨ lead = fragmentOutputLead →
          ∀ location, generatedLocation? lead name ≠ some location := by
        intro lead hlead location h
        rw [resourceKey?_of_generatedLocation? hlead h] at hkey
        exact absurd hkey (by simp)
      simp only [filter_lookup_eq_none_iff]
      constructor
      · intro h
        refine ⟨?_, fun _ location hinput => absurd hinput (hlocation _ (.inl rfl) location),
          fun _ location houtput => absurd houtput (hlocation _ (.inr rfl) location)⟩
        intro key' resource given hkey' hresource hgiven
        obtain rfl : key = key' := Option.some.inj (hkey.symm.trans hkey')
        exact h resource given hresource hgiven
      · intro h resource given hresource hgiven
        exact h.resource key resource given hkey hresource hgiven
  | none =>
      have hresource : ∀ key resource given, resourceKey? name = some key →
          resources.lookup key = some resource → resource.name = some given →
            isReserved given = true := by
        intro key _ _ h
        rw [hkey] at h
        exact absurd h (by simp)
      cases stage with
      | vertex =>
          simp only [bind_lookup_eq_none_iff]
          exact ⟨fun h => ⟨hresource, fun _ => h, fun hstage => absurd hstage (by simp)⟩,
            fun h => h.input rfl⟩
      | fragment =>
          simp only [bind_lookup_eq_none_iff]
          exact ⟨fun h => ⟨hresource, fun hstage => absurd hstage (by simp), fun _ => h⟩,
            fun h => h.output rfl⟩
      | geometry | tessControl | tessEvaluation | compute =>
          exact ⟨fun _ => ⟨hresource, fun hstage => absurd hstage (by simp),
            fun hstage => absurd hstage (by simp)⟩, fun _ => rfl⟩

/-! ## What the last pass puts in -/

lemma mem_namesInOrder {known : LocationNames} {location : ℕ}
    (h : known.lookup location = some name) : name ∈ namesInOrder known := by
  unfold namesInOrder
  exact List.mem_map_of_mem (List.mem_mergeSort.2 (mem_of_lookup h))

/-- **Only names that are to be restored are put in.** -/
theorem mem_restoredNames {given : Text}
    (h : restoredName? stage names resources name = some given) :
    given ∈ restoredNames stage names resources := by
  unfold restoredName? at h
  unfold restoredNames
  rw [List.mem_append]
  cases hkey : resourceKey? name with
  | some key =>
      simp only [hkey, Option.filter_eq_some_iff, Option.bind_eq_some_iff] at h
      obtain ⟨⟨resource, hresource, hname⟩, hreserved⟩ := h
      refine .inl (List.mem_filterMap.2 ⟨(key, resource), mem_of_lookup hresource, ?_⟩)
      simp only [hname]
      exact Option.filter_eq_some_iff.2 ⟨rfl, hreserved⟩
  | none =>
      refine .inr ?_
      cases stage with
      | vertex =>
          simp only [hkey, Option.bind_eq_some_iff] at h
          obtain ⟨location, _, hlookup⟩ := h
          exact mem_namesInOrder hlookup
      | fragment =>
          simp only [hkey, Option.bind_eq_some_iff] at h
          obtain ⟨location, _, hlookup⟩ := h
          exact mem_namesInOrder hlookup
      | geometry | tessControl | tessEvaluation | compute => simp [hkey] at h

/-- **No generated name survives.**  If the names to be put back are names that an application can
have given, then no identifier of the restored text is a generated name that one of them belongs to,
whatever the text was, and whether or not its blocks could be flattened. -/
theorem restoreNames_outlived (text : Text)
    (happlication : ∀ given ∈ restoredNames stage names resources, ApplicationName given)
    (hname : name ∈ identifiers (restoreNames stage names resources text)) :
    Outlived stage names resources name := by
  rw [restoreNames, identifiers_renameIdentifiers, List.mem_map] at hname
  · obtain ⟨old, _, rfl⟩ := hname
    cases hold : restoredName? stage names resources old with
    | none => exact restoredName?_eq_none_iff.1 hold
    | some given => exact (happlication given (mem_restoredNames hold)).outlived
  · intro old given hgiven
    exact (happlication given (mem_restoredNames hgiven)).1

/-- A compiled shader with an output, and a block that cannot be flattened, since its type is used
once more. -/
def clashingText : Text :=
  "struct L {
vec4 c;
};
buffer L_block_ { L _group_1_binding_0_fs; };
out vec4 _fs2p_location0;
L l = _group_1_binding_0_fs;
_fs2p_location0 = l.c;".toList

/-- What is known of its names.  The output is called like the block's member. -/
def clashingNames : InterfaceNames × Resources :=
  ({ outputs := [(0, "c".toList)] }, [((1, 0), { name := some "light".toList })])

/-- The block stays as it is, but not under its generated name. -/
theorem restoreNames_outlived_clashing :
    (∀ given ∈ restoredNames .fragment clashingNames.1 clashingNames.2, ApplicationName given) ∧
      restoreNames .fragment clashingNames.1 clashingNames.2 clashingText = "struct L {
vec4 c_1;
};
buffer L_block_ { L light; };
out vec4 c;
L l = light;
c = l.c_1;".toList ∧
      "light".toList ∈ identifiers
        (restoreNames .fragment clashingNames.1 clashingNames.2 clashingText) ∧
      Outlived .fragment clashingNames.1 clashingNames.2 "light".toList := by
  have happlication : ∀ given ∈ restoredNames .fragment clashingNames.1 clashingNames.2,
      ApplicationName given := by decide +kernel
  have htext : restoreNames .fragment clashingNames.1 clashingNames.2 clashingText = "struct L {
vec4 c_1;
};
buffer L_block_ { L light; };
out vec4 c;
L l = light;
c = l.c_1;".toList := by
    unfold clashingText
    repeat rw [toList_literal rfl]
    decide +kernel
  have hlight : "light".toList ∈ identifiers
      (restoreNames .fragment clashingNames.1 clashingNames.2 clashingText) := by
    rw [htext]
    repeat rw [toList_literal rfl]
    decide +kernel
  exact ⟨happlication, htext, hlight, restoreNames_outlived clashingText happlication hlight⟩

end GlBridge.Interface
