import GlBridge.Proofs.Interface.Clashes

/-!
# Members that become names of their own

A block without an instance name makes its members global.  When such a block is flattened, what
stood behind the instance and a dot becomes a name by itself, and the same name may stand elsewhere
for something else: a local variable, say, which then captures the member.  Names of resources,
inputs and outputs are given room before anything is flattened.  Members are not among them.

**Places.**  What stands inside the block's own structure, or after a dot, is in nobody's way.  Uses
are therefore told apart by their lines (`placedUses`), which making room does not change
(`placedUses_renameClashes`).

**What flattening introduces.**  An access to a member becomes the name that the application gave to
the member (`flattenBlock_anonymous`).

The main result is **`introduced_apart_iff`**, which says when the name is one that nothing else is
called.  For a member that is called like a variable it is not (`restoreNames_captures_member`).
-/

namespace GlBridge.Glsl

open Text

/-! ## Uses and their lines -/

/-- The uses of identifiers among lexemes, each with its line.  Lines are counted from the one that
the first lexeme stands on. -/
def Lexeme.placed : ℕ → List Lexeme → List (ℕ × Text × Bool)
  | _, [] => []
  | line, word name afterDot :: rest => (line, name, afterDot) :: placed line rest
  | line, number _ :: rest => placed line rest
  | line, other c :: rest => placed (if c = '\n' then line + 1 else line) rest

/-- The uses of identifiers in a text, each with its line, counted from 0. -/
def placedUses (text : Text) : List (ℕ × Text × Bool) := Lexeme.placed 0 (Lexeme.scan text)

lemma Lexeme.placed_respell (rename : Text → Bool → Option Text) (line : ℕ)
    (lexemes : List Lexeme) :
    placed line (respell (Renamer.forgetful rename) () lexemes).1
      = (placed line lexemes).map fun use =>
          (use.1, (rename use.2.1 use.2.2).getD use.2.1, use.2.2) := by
  induction lexemes generalizing line with
  | nil => rfl
  | cons lexeme lexemes ih =>
      cases lexeme with
      | word name afterDot => exact congrArg _ (ih line)
      | number digits => exact ih line
      | other c => exact ih _

/-- Renaming moves nothing to another line. -/
lemma placedUses_renameUses {rename : Text → Bool → Option Text}
    (hnew : ∀ name afterDot new, rename name afterDot = some new → isIdentifier new = true)
    (text : Text) : placedUses (renameUses rename text) = (placedUses text).map fun use =>
      (use.1, (rename use.2.1 use.2.2).getD use.2.1, use.2.2) := by
  have hvalid : (Renamer.forgetful rename).Valid := fun _ name afterDot new =>
    hnew name afterDot new
  rw [placedUses, renameUses_eq, scan_renameEach hvalid]
  exact Lexeme.placed_respell rename 0 _

end GlBridge.Glsl

namespace GlBridge.Interface

open Text Glsl Layout

variable {stage : Stage} {names : InterfaceNames} {resources : Resources} {resource : Resource}
  {block : BlockLine} {restored : List Text} {pairs : List (Text × Text)}
  {name emitted given line memberType text out : Text}

lemma placedUses_renameClashes (restored : List Text) (text : Text) :
    placedUses (renameClashes restored text)
      = (placedUses text).map fun use => (use.1, movedUse (roomFor restored text) use.2) := by
  rw [renameClashes_eq, placedUses_renameUses fun _ _ _ => isIdentifier_roomFor?]
  refine List.map_congr_left ?_
  intro use _
  rw [← getD_roomFor?]

/-! ## Structures -/

/-- The line that a structure starts on, and how many lines further it ends. -/
def structure? (memberType text : Text) : Option (ℕ × ℕ) := do
  let start ← (lines text).findIdx? (trim · == "struct ".toList ++ memberType ++ [' ', '{'])
  let length ← ((lines text).drop start).findIdx? (trim · == ['}', ';'])
  return (start, length)

/-- Whether a line of a text belongs to a structure. -/
def InStructure (memberType text : Text) (line : ℕ) : Prop :=
  ∃ place ∈ structure? memberType text, place.1 ≤ line ∧ line ≤ place.1 + place.2

instance (memberType text : Text) (line : ℕ) : Decidable (InStructure memberType text line) :=
  inferInstanceAs (Decidable (∃ place ∈ structure? memberType text,
    place.1 ≤ line ∧ line ≤ place.1 + place.2))

/-- Something is called `name` in a text, and not after a dot, on one of the lines that are not
`inside`. -/
def UsedOutside (inside : ℕ → Prop) (text name : Text) : Prop :=
  ∃ use ∈ placedUses text, use.2 = (name, false) ∧ ¬ inside use.1

instance (inside : ℕ → Prop) [DecidablePred inside] (text name : Text) :
    Decidable (UsedOutside inside text name) :=
  inferInstanceAs (Decidable (∃ use ∈ placedUses text, use.2 = (name, false) ∧ ¬ inside use.1))

/-- The lines of the members of a structure. -/
def memberLines (place : ℕ × ℕ) (text : Text) : List Text :=
  ((((lines text).drop (place.1 + 1)).take (place.2 - 1)).map trim).filter (· ≠ [])

/-- The members of the structure of a block, each with the name that the application gave it. -/
def structureNames? (resource : Resource) (memberType text : Text) :
    Option (List (Text × Text)) := do
  let place ← structure? memberType text
  Flattening.memberNames resource (memberLines place text).length 0 (memberLines place text)

lemma access_ofStructure {memberLines : List Text} {flattening : Flattening}
    (hanonymous : resource.name = none)
    (hnames : Flattening.memberNames resource memberLines.length 0 memberLines = some pairs)
    (h : Flattening.ofStructure block resource memberLines = some flattening) :
    flattening.access = fun member => (pairs.reverse.lookup member).getD member := by
  simp only [Flattening.ofStructure, hnames, hanonymous, Option.bind_eq_bind, Option.bind_some,
    Option.map_none, Option.getD_none, List.nil_append, Option.pure_def, Option.some.injEq] at h
  rw [← h]

/-- Without a name to take its place, a structure is flattened into its members even if it wraps one
thing only. -/
lemma access_ofMembers {memberLines : List Text} {flattening : Flattening}
    (hanonymous : resource.name = none)
    (hnames : Flattening.memberNames resource memberLines.length 0 memberLines = some pairs)
    (h : Flattening.ofMembers block resource memberLines = some flattening) :
    flattening.access = fun member => (pairs.reverse.lookup member).getD member := by
  unfold Flattening.ofMembers at h
  split at h
  · simp [Flattening.ofWrapper, hanonymous] at h
  · exact access_ofStructure hanonymous hnames h

/-- **An access to a member of a block without a name becomes the member's name.** -/
theorem flattenBlock_anonymous (hline : BlockLine.parse? line = some block)
    (hresource : (resourceKey? block.instanceName).bind (resources.lookup ·) = some resource)
    (hanonymous : resource.name = none)
    (hnames : structureNames? resource block.memberType text = some pairs)
    (hout : flattenBlock resources line text = some out) :
    ∃ kept, out = replaceMembers block.instanceName
      (fun member => (pairs.reverse.lookup member).getD member) kept := by
  simp only [flattenBlock, hline, Option.bind_eq_bind, Option.bind_some] at hout
  simp only [Option.bind_eq_some_iff] at hresource
  obtain ⟨key, hkey, hlookup⟩ := hresource
  simp only [hkey, hlookup, Option.bind_some] at hout
  simp only [structureNames?, structure?, Option.bind_eq_bind, Option.bind_eq_some_iff] at hnames
  obtain ⟨place, ⟨start, hstart, length, hlength, hplace⟩, hnames⟩ := hnames
  obtain rfl := Option.some.inj hplace
  simp only [hstart, hlength, Option.bind_some, Option.bind_eq_some_iff] at hout
  obtain ⟨declared, _, hout⟩ := hout
  split_ifs at hout
  obtain ⟨flattening, hflattening, hout⟩ := Option.bind_eq_some_iff.1 hout
  rw [← access_ofMembers hanonymous hnames hflattening]
  exact ⟨_, (Option.some.inj hout).symm⟩

/-! ## The result -/

/-- The text in which there is room for the restored names. -/
def withRoom (stage : Stage) (names : InterfaceNames) (resources : Resources) (text : Text) :
    Text :=
  renameClashes (restoredNames stage names resources) text

/-- The names of the members of the block that a line declares, if it is a block without a name and
is flattened.  Later members stand first. -/
def globalMembers? (resources : Resources) (line text : Text) :
    Option (BlockLine × List (Text × Text)) := do
  let block ← BlockLine.parse? line
  let resource ← (resourceKey? block.instanceName).bind (resources.lookup ·)
  let pairs ← structureNames? resource block.memberType text
  if resource.name = none ∧ (flattenBlock resources line text).isSome then
    return (block, pairs.reverse)
  else none

/-- When the names of a text are restored, a block without a name is flattened, and its member
`emitted` becomes global under the name `given`. -/
def Introduces (stage : Stage) (names : InterfaceNames) (resources : Resources) (text : Text)
    (block : BlockLine) (emitted given : Text) : Prop :=
  ∃ before line after,
    (lines (withRoom stage names resources text)).filter
        (fun line => (BlockLine.parse? line).isSome) = before ++ line :: after ∧
      ∃ pairs, globalMembers? resources line
          (flattenBlocks resources before (withRoom stage names resources text))
            = some (block, pairs) ∧
        pairs.lookup emitted = some given

/-- What the flattening makes of an access to a member that becomes global. -/
lemma access_of_globalMembers? (hmembers : globalMembers? resources line text = some (block, pairs))
    (hgiven : pairs.lookup emitted = some given) :
    ∃ access kept, flattenBlock resources line text
        = some (replaceMembers block.instanceName access kept) ∧ access emitted = given := by
  simp only [globalMembers?, Option.bind_eq_bind, Option.bind_eq_some_iff] at hmembers
  obtain ⟨block', hline, resource, ⟨key, hkey, hlookup⟩, pairs', hnames, hmembers⟩ := hmembers
  split_ifs at hmembers with hflat
  obtain ⟨hanonymous, hsome⟩ := hflat
  obtain ⟨rfl, rfl⟩ := Prod.mk.inj (Option.some.inj hmembers)
  obtain ⟨out, hout⟩ := Option.isSome_iff_exists.1 hsome
  have hresource : (resourceKey? block'.instanceName).bind (resources.lookup ·) = some resource :=
    Option.bind_eq_some_iff.2 ⟨key, hkey, hlookup⟩
  obtain ⟨kept, rfl⟩ := flattenBlock_anonymous hline hresource hanonymous hnames hout
  refine ⟨_, kept, hout, ?_⟩
  rw [hgiven, Option.getD_some]

/-- Restoring names, up to one of the blocks and on from there. -/
lemma restoreNames_eq_of_lines {before after : List Text}
    (hlines : (lines (withRoom stage names resources text)).filter
      (fun line => (BlockLine.parse? line).isSome) = before ++ line :: after) :
    restoreNames stage names resources text
      = renameIdentifiers (restoredName? stage names resources) (flattenBlocks resources after
          ((flattenBlock resources line
              (flattenBlocks resources before (withRoom stage names resources text))).getD
            (flattenBlocks resources before (withRoom stage names resources text)))) := by
  rw [withRoom] at hlines ⊢
  simp only [restoreNames, hlines]
  rw [flattenBlocks, List.foldl_append, List.foldl_cons]
  rfl

/-- What is called `given` once there is room was called so before or is called so since then. -/
lemma usedOutside_renameClashes {inside : ℕ → Prop} :
    UsedOutside inside (renameClashes restored text) given ↔
      ∃ name, UsedOutside inside text name ∧ roomFor restored text name = given := by
  rw [UsedOutside, placedUses_renameClashes]
  constructor
  · rintro ⟨use, huse, hgiven, houtside⟩
    obtain ⟨⟨line, name, afterDot⟩, hold, rfl⟩ := List.mem_map.1 huse
    rw [movedUse] at hgiven
    split_ifs at hgiven with hswizzle
    · -- what follows a dot is not called `given` by itself
      have hdot : afterDot = false := (Prod.mk.inj hgiven).2
      rw [hdot] at hswizzle
      exact absurd hswizzle (by simp)
    · obtain ⟨hname, hdot⟩ := Prod.mk.inj hgiven
      exact ⟨name, ⟨_, hold, Prod.ext rfl hdot, houtside⟩, hname⟩
  · rintro ⟨name, ⟨⟨line, use⟩, hold, huse, houtside⟩, hname⟩
    refine ⟨_, List.mem_map_of_mem hold, ?_, houtside⟩
    have huse : use = (name, false) := huse
    rw [huse, movedUse, Bool.false_and, if_neg Bool.false_ne_true, hname]

/-- Making room for restored names leaves a name to itself exactly if it is not taken, or is restored
too, and no other name is moved to it. -/
lemma not_usedOutside_renameClashes_iff {inside : ℕ → Prop} :
    ¬ UsedOutside inside (renameClashes restored text) given ↔
      (UsedOutside inside text given → given ∈ restored) ∧
        ∀ name ∈ restored, UsedOutside inside text name → roomFor restored text name ≠ given := by
  have hfixes := (roomFor_makesRoom restored text).fixes
  rw [usedOutside_renameClashes]
  constructor
  · intro hapart
    constructor
    · intro hused
      by_contra hnot
      exact hapart ⟨given, hused, hfixes given hnot⟩
    · intro name _ hused heq
      exact hapart ⟨name, hused, heq⟩
  · rintro ⟨hrestored, hmoved⟩ ⟨name, hused, heq⟩
    by_cases hname : name ∈ restored
    · exact hmoved name hname hused heq
    · rw [hfixes name hname] at heq
      subst heq
      exact hname (hrestored hused)

/-- **When a global member has its name for itself.**  Flattening the block makes every access to
the member the name that the application gave it.  By then nothing else is called so, neither
outside of the block's structure nor without a dot before it, exactly if nothing was called so at
first or the name is one that is given room anyway, and no other name is moved to it. -/
theorem introduced_apart_iff
    (h : Introduces stage names resources text block emitted given) :
    (∃ after access kept,
      restoreNames stage names resources text
          = renameIdentifiers (restoredName? stage names resources)
              (flattenBlocks resources after (replaceMembers block.instanceName access kept)) ∧
        access emitted = given) ∧
    (¬ UsedOutside (InStructure block.memberType (withRoom stage names resources text))
        (withRoom stage names resources text) given ↔
      (UsedOutside (InStructure block.memberType (withRoom stage names resources text)) text given →
        given ∈ restoredNames stage names resources) ∧
      ∀ name ∈ restoredNames stage names resources,
        UsedOutside (InStructure block.memberType (withRoom stage names resources text)) text name →
          roomFor (restoredNames stage names resources) text name ≠ given) := by
  obtain ⟨before, line, after, hlines, pairs, hmembers, hgiven⟩ := h
  obtain ⟨access, kept, hflat, haccess⟩ := access_of_globalMembers? hmembers hgiven
  have hrestored := restoreNames_eq_of_lines hlines
  rw [hflat, Option.getD_some] at hrestored
  exact ⟨⟨after, access, kept, hrestored, haccess⟩, not_usedOutside_renameClashes_iff⟩

/-- A block without a name. -/
def tintingBlock : BlockLine where
  qualifiers := "layout(std140) uniform".toList
  memberType := "S".toList
  instanceName := "_group_1_binding_0_vs".toList

/-- The line that declares it. -/
def tintingLine : Text :=
  "layout(std140) uniform S_block_0Vertex { S _group_1_binding_0_vs; };".toList

/-- A vertex shader with the block, an input, and a variable called like one of the members. -/
def tintingText : Text :=
  join ['\n'] ["struct S \x7b".toList, "mat4 mvp;".toList, "vec4 tint2_;".toList, "\x7d;".toList,
    tintingLine, "in vec4 _p2vs_location0;".toList, "void main() \x7b".toList,
    "vec4 color = _p2vs_location0;".toList, "mat4 mvp = mat4(2.0);".toList,
    "gl_Position = mvp * _group_1_binding_0_vs.mvp".toList,
    "* (color + _group_1_binding_0_vs.tint2_);".toList, "\x7d".toList]

/-- What is known of its names.  The input is called like another variable. -/
def tintingNames : InterfaceNames × Resources :=
  ({ inputs := [(0, "color".toList)] },
    [((1, 0), { members := ["mvp".toList, "tint2".toList] })])

/-- Both members become global. -/
lemma introduces_tinting :
    ∀ member ∈ [("mvp".toList, "mvp".toList), ("tint2_".toList, "tint2".toList)],
      Introduces .vertex tintingNames.1 tintingNames.2 tintingText tintingBlock
        member.1 member.2 := by
  obtain ⟨hlines, hmembers⟩ :
      (lines (withRoom .vertex tintingNames.1 tintingNames.2 tintingText)).filter
          (fun line => (BlockLine.parse? line).isSome) = [tintingLine] ∧
        globalMembers? tintingNames.2 tintingLine (flattenBlocks tintingNames.2 []
            (withRoom .vertex tintingNames.1 tintingNames.2 tintingText))
          = some (tintingBlock,
              [("tint2_".toList, "tint2".toList), ("mvp".toList, "mvp".toList)]) := by
    unfold tintingText tintingLine
    repeat rw [toList_literal rfl]
    decide +kernel
  intro member hmember
  refine ⟨[], _, [], hlines, _, hmembers, ?_⟩
  revert member
  decide

/-- The second member has its name for itself. -/
theorem introduced_apart_iff_tinting :
    Introduces .vertex tintingNames.1 tintingNames.2 tintingText tintingBlock
        "tint2_".toList "tint2".toList ∧
      ¬ UsedOutside
        (InStructure tintingBlock.memberType
          (withRoom .vertex tintingNames.1 tintingNames.2 tintingText))
        (withRoom .vertex tintingNames.1 tintingNames.2 tintingText) "tint2".toList := by
  have htint := introduces_tinting ("tint2_".toList, "tint2".toList) (by decide)
  refine ⟨htint, (introduced_apart_iff htint).2.2 ?_⟩
  unfold tintingText tintingLine
  repeat rw [toList_literal rfl]
  decide +kernel

/-- The variable captures the first member: it had its name before, keeps it, and is multiplied with
itself in the end.  The other variable makes room for the input. -/
theorem restoreNames_captures_member :
    Introduces .vertex tintingNames.1 tintingNames.2 tintingText tintingBlock
        "mvp".toList "mvp".toList ∧
      UsedOutside (InStructure tintingBlock.memberType tintingText) tintingText "mvp".toList ∧
      UsedOutside
        (InStructure tintingBlock.memberType
          (withRoom .vertex tintingNames.1 tintingNames.2 tintingText))
        (withRoom .vertex tintingNames.1 tintingNames.2 tintingText) "mvp".toList ∧
      restoreNames .vertex tintingNames.1 tintingNames.2 tintingText
        = join ['\n'] ["layout(std140) uniform S \x7b".toList, "    mat4 mvp;".toList,
            "    vec4 tint2;".toList, "\x7d;".toList, "in vec4 color;".toList,
            "void main() \x7b".toList, "vec4 color_1 = color;".toList,
            "mat4 mvp = mat4(2.0);".toList, "gl_Position = mvp * mvp".toList,
            "* (color_1 + tint2);".toList, "\x7d".toList] := by
  refine ⟨introduces_tinting ("mvp".toList, "mvp".toList) (by decide), ?_⟩
  unfold tintingText tintingLine
  repeat rw [toList_literal rfl]
  decide +kernel

end GlBridge.Interface
