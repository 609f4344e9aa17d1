import GlBridge.Interface.Block
import GlBridge.Proofs.Glsl.Member
import GlBridge.Proofs.Interface.Finding

/-!
# What a flattened block looks like

The shader compiler wraps what an application declares: into a structure, into a block with one
member of it, and with names of its own.  Flattening takes the structure out, puts the application's
declaration in the place of the block, and gives the accesses the application's names.

`Wrapping` is a text with a generated block, line by line, and `Wrapping.Generated` what is asked of
these lines.  The main result is `flattenBlock_wrapping`: the lines that come out are those around
the structure, with the declaration in the place of the block, and what changes in them is the
accesses.
-/

namespace GlBridge.Interface

open Text Glsl

/-! ## Texts with a wrapped declaration -/

/-- The line that ends a structure. -/
def closingLine : Text := ['}', ';']

/-- The line that starts the structure that a block wraps. -/
def BlockLine.structureLine (block : BlockLine) : Text :=
  "struct ".toList ++ block.memberType ++ [' ', '{']

/-- The lines of a text with a generated block, and what the line of the block is read as. -/
structure Wrapping where
  /-- The lines before the structure. -/
  before : List Text
  /-- The lines of the structure's members. -/
  members : List Text
  /-- The lines between the structure and the block. -/
  between : List Text
  /-- The line that declares the block. -/
  blockLine : Text
  /-- The lines after the block. -/
  after : List Text
  block : BlockLine

namespace Wrapping

/-- The lines up to the block. -/
def start (w : Wrapping) : List Text :=
  w.before ++ w.block.structureLine :: (w.members ++ closingLine :: w.between)

/-- The text. -/
def text (w : Wrapping) : Text := join ['\n'] (w.start ++ w.blockLine :: w.after)

lemma start_append (w : Wrapping) (rest : List Text) : w.start ++ rest = w.before
    ++ w.block.structureLine :: (w.members ++ closingLine :: (w.between ++ rest)) := by
  simp [start]

/-- The lines without the structure, with others in the place of the block. -/
def around (w : Wrapping) (declared : List Text) : List Text :=
  w.before ++ (w.between ++ (declared ++ w.after))

/-- What the shader compiler sees to: the line is that of a generated block, its structure is used
for nothing else, and every line between the structure's first and last declares one member. -/
structure Generated (w : Wrapping) (emitted : List Text) : Prop where
  bare : ∀ line ∈ w.before ++ w.members ++ w.between ++ w.blockLine :: w.after, Bare line
  parsed : BlockLine.parse? w.blockLine = some w.block
  typeName : isIdentifier w.block.memberType = true ∧ w.block.memberType ≠ "struct".toList
  once : countIdentifier w.block.memberType w.blockLine = 1
  nowhere : ∀ line ∈ w.before ++ w.members ++ w.between ++ w.after,
    w.block.memberType ∉ identifiers line
  declared : w.members.map declaredName? = emitted.map some
  distinct : emitted.Nodup
  unclosed : ∀ line ∈ w.members, trim line ≠ closingLine
  nonempty : w.members ≠ []

end Wrapping

/-! ## The lines of the structure and of the block -/

section Lines

variable {block : BlockLine} {line : Text} {w : Wrapping} {emitted : List Text}

lemma structureLine_eq (block : BlockLine) :
    block.structureLine = "struct ".toList ++ block.memberType ++ [' ', '{'] := rfl

lemma identifiers_structureLine (h : isIdentifier block.memberType = true) :
    identifiers block.structureLine = ["struct".toList, block.memberType] := by
  have hopen : Parted ("struct ".toList ++ block.memberType) [' ', '{'] := by
    intro c d _ hd _
    rw [← Option.some.inj hd]
    decide
  have hname : Parted "struct ".toList block.memberType :=
    parted_append_singleton (by decide) "struct".toList block.memberType
  have hstruct : identifiers "struct ".toList = ["struct".toList] := by decide +kernel
  have hbrace : identifiers [' ', '{'] = [] := by decide +kernel
  rw [structureLine_eq, identifiers_append_of_parted hopen,
    identifiers_append_of_parted hname, hstruct, identifiers_of_isIdentifier h,
    hbrace, List.append_nil, List.singleton_append]

lemma getLast?_structureLine (block : BlockLine) : block.structureLine.getLast? = some '{' := by
  have hlast : block.structureLine = ("struct ".toList ++ block.memberType ++ [' ']) ++ ['{'] := by
    rw [structureLine_eq, List.append_assoc _ [' ']]
    rfl
  rw [hlast, List.getLast?_concat]

lemma trim_structureLine (block : BlockLine) : trim block.structureLine = block.structureLine := by
  have hlead : block.structureLine
      = 's' :: ("truct ".toList ++ block.memberType ++ [' ', '{']) := rfl
  refine trim_eq_self (fun c hc => ?_) fun c hc => ?_
  · rw [hlead] at hc
    rw [← Option.some.inj hc]
    decide
  · rw [getLast?_structureLine] at hc
    rw [← Option.some.inj hc]
    decide

lemma identifiers_closingLine : identifiers closingLine = [] := by decide +kernel

/-- The line of a generated block ends in the same way as a structure does. -/
lemma closingLine_suffix (h : BlockLine.parse? line = some block) : closingLine <:+ trim line := by
  simp only [BlockLine.parse?, Option.bind_eq_bind, Option.bind_eq_some_iff] at h
  obtain ⟨body, hbody, -⟩ := h
  exact ⟨body, (eq_append_of_dropSuffix? hbody).symm⟩

namespace Wrapping.Generated

lemma mem_blockLine (h : w.Generated emitted) : w.block.memberType ∈ identifiers w.blockLine := by
  have hcount : 0 < (identifiers w.blockLine).count w.block.memberType := by
    rw [← countIdentifier, h.once]
    exact Nat.one_pos
  exact List.count_pos_iff.1 hcount

/-- The first line of the structure stands nowhere before it, not even between blanks. -/
lemma trim_ne_structureLine (h : w.Generated emitted) (hline : line ∈ w.before) :
    trim line ≠ w.block.structureLine := by
  intro htrim
  refine h.nowhere line (by simp [hline]) ?_
  rw [← identifiers_trim, htrim, identifiers_structureLine h.typeName.1]
  simp

/-- The line of the block stands nowhere before. -/
lemma ne_blockLine (h : w.Generated emitted) (hline : line ∈ w.start) : line ≠ w.blockLine := by
  rintro rfl
  have hmem := h.mem_blockLine
  have hother : w.blockLine ∉ w.before ++ w.members ++ w.between ++ w.after := fun hold =>
    h.nowhere _ hold hmem
  simp only [start, List.mem_append, List.mem_cons, not_or] at hline hother
  rcases hline with hbefore | hstructure | hmember | hclosing | hbetween
  · exact hother.1.1.1 hbefore
  · -- the line of the block ends in a semicolon
    have hsuffix := closingLine_suffix h.parsed
    rw [hstructure, trim_structureLine] at hsuffix
    obtain ⟨body, hbody⟩ := hsuffix
    have hlast := congrArg List.getLast? hbody
    rw [getLast?_structureLine, closingLine, List.getLast?_append_cons] at hlast
    exact absurd hlast (by decide)
  · exact hother.1.1.2 hmember
  · rw [hclosing, identifiers_closingLine] at hmem
    exact absurd hmem List.not_mem_nil
  · exact hother.1.2 hbetween

/-- The structure is used once, by the block. -/
lemma countIdentifier_text (h : w.Generated emitted) :
    countIdentifier w.block.memberType w.text = 2 := by
  have hnone : ∀ lines : List Text,
      (∀ line ∈ lines, w.block.memberType ∉ identifiers line) →
      (lines.map (countIdentifier w.block.memberType)).sum = 0 := by
    intro lines hlines
    rw [List.sum_eq_zero]
    simp only [List.mem_map]
    rintro count ⟨line, hline, rfl⟩
    exact List.count_eq_zero.2 (hlines line hline)
  have hnowhere := h.nowhere
  simp only [List.forall_mem_append] at hnowhere
  obtain ⟨⟨⟨hbefore, hmembers⟩, hbetween⟩, hafter⟩ := hnowhere
  have hstructure : countIdentifier w.block.memberType w.block.structureLine = 1 := by
    rw [countIdentifier, identifiers_structureLine h.typeName.1,
      List.count_cons_of_ne (Ne.symm h.typeName.2), List.count_singleton_self]
  have hclosing : countIdentifier w.block.memberType closingLine = 0 := by
    rw [countIdentifier, identifiers_closingLine]
    rfl
  rw [text, countIdentifier_join, start]
  simp only [List.map_append, List.map_cons, List.sum_append, List.sum_cons, hnone _ hbefore,
    hnone _ hmembers, hnone _ hbetween, hnone _ hafter, hstructure, hclosing, h.once]

/-- Every line of the text is read as it is. -/
lemma bare_lines (h : w.Generated emitted) :
    ∀ line ∈ w.start ++ w.blockLine :: w.after, Bare line := by
  have hbare := h.bare
  simp only [List.forall_mem_append, List.forall_mem_cons] at hbare
  obtain ⟨⟨⟨hbefore, hmembers⟩, hbetween⟩, hblock, hafter⟩ := hbare
  have hstructure : Bare w.block.structureLine := by
    constructor
    · rw [structureLine_eq]
      simp only [List.mem_append, not_or]
      refine ⟨⟨by decide, fun hfeed => ?_⟩, by decide⟩
      exact absurd (isWordChar_of_mem_identifier h.typeName.1 _ hfeed) (by decide)
    · rw [getLast?_structureLine]
      decide
  have hclosing : Bare closingLine := ⟨by decide, by decide⟩
  simp only [start, List.forall_mem_append, List.forall_mem_cons]
  exact ⟨⟨hbefore, hstructure, hmembers, hclosing, hbetween⟩, hblock, hafter⟩

end Wrapping.Generated

end Lines

/-! ## What stands in the place of the block -/

section Flattening

variable {resources : Resources} {resource : Resource} {w : Wrapping} {emitted : List Text}

lemma findIdx?_append_cons {α : Type*} {p : α → Bool} {first : List α} {a : α}
    (h : ∀ b ∈ first, p b = false) (ha : p a = true) (rest : List α) :
    (first ++ a :: rest).findIdx? p = some first.length := by
  rw [List.findIdx?_append, List.findIdx?_eq_none_iff.2 h, List.findIdx?_cons, if_pos ha]
  simp

namespace Wrapping.Generated

/-- A member line is not empty. -/
lemma trim_ne_nil (h : w.Generated emitted) {line : Text} (hline : line ∈ w.members) :
    trim line ≠ [] := by
  intro hnil
  have hname : declaredName? line ∈ emitted.map some := h.declared ▸ List.mem_map_of_mem hline
  obtain ⟨name, _, hname⟩ := List.mem_map.1 hname
  have hnone : declaredName? line = none := by
    rw [declaredName?, hnil]
    decide
  rw [hnone] at hname
  exact absurd hname (by simp)

/-- The block is found where it stands. -/
lemma findIdx?_blockLine (h : w.Generated emitted) (rest : List Text) :
    (w.start ++ w.blockLine :: rest).findIdx? (· == w.blockLine) = some w.start.length :=
  findIdx?_append_cons (fun line hline => by simpa using h.ne_blockLine hline) (by simp) rest

/-- The structure is found where it stands. -/
lemma findIdx?_structureLine (h : w.Generated emitted) (rest : List Text) :
    (w.start ++ rest).findIdx? (trim · == w.block.structureLine) = some w.before.length := by
  rw [start_append]
  exact findIdx?_append_cons (fun line hline => by simpa using h.trim_ne_structureLine hline)
    (by simp [trim_structureLine]) _

/-- The end of the structure is found behind its members. -/
lemma findIdx?_closingLine (h : w.Generated emitted) (rest : List Text) :
    ((w.start ++ rest).drop w.before.length).findIdx? (trim · == closingLine)
      = some (w.members.length + 1) := by
  rw [start_append, List.drop_left, ← List.cons_append, findIdx?_append_cons _ (by decide)]
  · rw [List.length_cons]
  · intro line hline
    rcases List.mem_cons.1 hline with rfl | hline
    · rw [trim_structureLine, beq_eq_false_iff_ne]
      intro heq
      have hlast := getLast?_structureLine w.block
      rw [heq] at hlast
      exact absurd hlast (by decide)
    · simpa using h.unclosed line hline

/-- What stands between the two is the members. -/
lemma members_eq (h : w.Generated emitted) (rest : List Text) :
    ((((w.start ++ rest).drop (w.before.length + 1)).take (w.members.length + 1 - 1)).map
      trim).filter (· ≠ []) = w.members.map trim := by
  have htail : (w.start ++ rest).drop (w.before.length + 1)
      = w.members ++ closingLine :: (w.between ++ rest) := by
    rw [start_append, ← List.drop_drop, List.drop_left]
    rfl
  rw [htail, Nat.add_sub_cancel, List.take_left, List.filter_eq_self]
  intro line hline
  obtain ⟨old, hold, rfl⟩ := List.mem_map.1 hline
  simpa using h.trim_ne_nil hold

end Wrapping.Generated

/-- The lines without the structure, with another line in the place of the block. -/
lemma Wrapping.take_append_drop (w : Wrapping) (declaration : Text) (rest : List Text) :
    ((w.start ++ w.blockLine :: rest).set w.start.length declaration).take w.before.length
      ++ ((w.start ++ w.blockLine :: rest).set w.start.length declaration).drop
        (w.before.length + (w.members.length + 1) + 1)
    = (w.before ++ (w.between ++ [declaration])) ++ rest := by
  have hset : (w.start ++ w.blockLine :: rest).set w.start.length declaration
      = w.before ++ ((w.block.structureLine :: (w.members ++ [closingLine]))
        ++ (w.between ++ declaration :: rest)) := by
    rw [List.set_append_right _ _ (Nat.le_refl _), Nat.sub_self, List.set_cons_zero, start_append]
    simp
  have hlength : (w.block.structureLine :: (w.members ++ [closingLine])).length
      = w.members.length + 1 + 1 := by
    simp
  rw [hset, List.take_left, Nat.add_assoc, ← hlength, ← List.drop_drop, List.drop_left,
    List.drop_left]
  simp

/-- **Flattening takes the structure out and replaces the line of the block.** -/
theorem flattenBlock_text (h : w.Generated emitted)
    (hresource : (resourceKey? w.block.instanceName).bind (resources.lookup ·) = some resource) :
    flattenBlock resources w.blockLine w.text
      = (Flattening.ofMembers w.block resource (w.members.map trim)).map fun flattening =>
          replaceMembers w.block.instanceName flattening.access
            (join ['\n'] (w.around [flattening.declaration])) := by
  obtain ⟨key, hkey, hlookup⟩ := Option.bind_eq_some_iff.1 hresource
  have hne : w.blockLine ≠ [] := by
    intro hnil
    have hmem := h.mem_blockLine
    rw [hnil, identifiers_plain (by simp)] at hmem
    exact absurd hmem List.not_mem_nil
  obtain ⟨kept, hlines, hends⟩ := exists_lines_join h.bare_lines hne
  rw [← Wrapping.text] at hlines hends
  have hstructure := h.findIdx?_structureLine (w.blockLine :: kept)
  have hclosing := h.findIdx?_closingLine (w.blockLine :: kept)
  have hmembers := h.members_eq (w.blockLine :: kept)
  rw [structureLine_eq] at hstructure
  rw [closingLine] at hclosing
  simp only [ne_eq] at hmembers
  simp only [flattenBlock, h.parsed, hkey, hlookup, hlines, h.findIdx?_blockLine kept, hstructure,
    hclosing, h.countIdentifier_text, Option.bind_eq_bind, Option.bind_some, ne_eq,
    not_true_eq_false, if_false, hmembers, w.take_append_drop]
  cases Flattening.ofMembers w.block resource (w.members.map trim) with
  | none => rfl
  | some flattening =>
      have hend := hends (w.before ++ (w.between ++ [flattening.declaration])) (by simp)
      rw [Option.bind_some, hend, Option.map_some, Wrapping.around]
      simp only [List.append_assoc]
      rfl

end Flattening

/-! ## The application's declaration -/

section Declaring

variable {resources : Resources} {resource : Resource} {w : Wrapping} {emitted lines given : List Text}

/-- What an access to a member reads as: the name of the block, if it has one, and the name that the
application gave the member. -/
def applicationAccess (resource : Resource) (emitted : List Text) (member : Text) : Text :=
  (resource.name.map (· ++ ['.'])).getD []
    ++ ((emitted.zip resource.members).lookup member).getD member

/-- The lines of the application's block. -/
def Wrapping.structureLines (w : Wrapping) (resource : Resource) (emitted : List Text) :
    List Text :=
  (w.block.qualifiers ++ [' '] ++ w.block.memberType ++ [' ', '{'])
    :: ((w.members.zip (emitted.zip resource.members)).map (fun (line, name, given) =>
        "    ".toList ++ replaceIdentifier name given (trim line))
      ++ [['}'] ++ (resource.name.map (' ' :: ·)).getD [] ++ [';']])

/-- The line of the application's uniform. -/
def uniformLine (member name line : Text) : Text :=
  "uniform ".toList ++ replaceIdentifier member name (trimEndWhile (· == ';') (trim line)) ++ [';']

lemma declaredName?_trim (line : Text) : declaredName? (trim line) = declaredName? line := by
  rw [declaredName?, declaredName?, trim_trim]

/-- Members are matched by position. -/
lemma memberNames_eq (hdeclared : lines.map declaredName? = emitted.map some) {index : ℕ}
    (hgiven : resource.members.drop index = given) (hlength : given.length = lines.length)
    (hne : ∀ name ∈ given, name ≠ []) :
    Flattening.memberNames resource resource.members.length index lines
      = some (emitted.zip given) := by
  induction lines generalizing index emitted given with
  | nil =>
      have hemitted : emitted = [] := by simpa using hdeclared.symm
      rw [hemitted]
      rfl
  | cons line lines ih =>
      obtain ⟨name, emitted, rfl⟩ : ∃ name rest, emitted = name :: rest := by
        cases emitted with
        | nil => exact absurd hdeclared (by simp)
        | cons name rest => exact ⟨name, rest, rfl⟩
      obtain ⟨first, given, rfl⟩ : ∃ first rest, given = first :: rest := by
        cases given with
        | nil => exact absurd hlength (by simp)
        | cons first rest => exact ⟨first, rest, rfl⟩
      rw [List.map_cons, List.map_cons] at hdeclared
      obtain ⟨hname, hdeclared⟩ := List.cons.inj hdeclared
      have hfirst : resource.members[index]? = some first := by
        rw [← List.head?_drop, hgiven, List.head?_cons]
      have hrest : resource.members.drop (index + 1) = given := by
        rw [← List.drop_drop, hgiven, List.drop_one, List.tail_cons]
      rw [List.forall_mem_cons] at hne
      have happlication : applicationName resource resource.members.length index name = first := by
        rw [applicationName, hfirst]
        exact if_pos ⟨hne.1, rfl⟩
      simp only [Flattening.memberNames, hname, Option.bind_eq_bind, Option.bind_some,
        ih hdeclared hrest (by simpa using hlength) hne.2, happlication]
      rfl

/-- **A structure becomes the application's block.** -/
lemma ofStructure_eq (h : w.Generated emitted)
    (hlength : resource.members.length = w.members.length)
    (hne : ∀ name ∈ resource.members, name ≠ []) :
    Flattening.ofStructure w.block resource (w.members.map trim) = some {
      declaration := join ['\n'] (w.structureLines resource emitted),
      access := applicationAccess resource emitted } := by
  have hemitted : emitted.length = w.members.length := by
    simpa using (congrArg List.length h.declared).symm
  have hdeclared : (w.members.map trim).map declaredName? = emitted.map some := by
    rw [← h.declared, List.map_map]
    refine List.map_congr_left fun line _ => ?_
    rw [Function.comp_apply, declaredName?_trim]
  have hnames := memberNames_eq hdeclared (List.drop_zero (l := resource.members))
    (by rw [List.length_map, hlength]) hne
  rw [hlength, ← List.length_map trim] at hnames
  have hlookup : ∀ member : Text, (emitted.zip resource.members).reverse.lookup member
      = (emitted.zip resource.members).lookup member := by
    intro member
    refine lookup_perm ?_ (List.reverse_perm _) member
    rw [List.map_reverse, List.map_fst_zip (by rw [hemitted, hlength])]
    exact List.nodup_reverse.2 h.distinct
  have hmembers : w.members.zip (emitted.zip resource.members) ≠ [] := by
    rw [← List.length_pos_iff, List.length_zip, List.length_zip, hemitted, hlength, Nat.min_self,
      Nat.min_self, List.length_pos_iff]
    exact h.nonempty
  simp only [Flattening.ofStructure, hnames, Option.bind_eq_bind, Option.bind_some, hlookup,
    List.zip_map_left, List.map_map]
  rw [Wrapping.structureLines, join_cons (by simp), join_append (by simpa using hmembers) (by simp)]
  refine congrArg some (congrArg₂ Flattening.mk ?_ rfl)
  simp only [List.append_assoc, List.cons_append, List.nil_append, join]
  rfl

/-- A structure that wraps a uniform becomes the application's uniform. -/
lemma ofWrapper_eq {name member line : Text} (hname : resource.name = some name)
    (hmember : declaredName? line = some member) :
    Flattening.ofWrapper resource (trim line)
      = some { declaration := uniformLine member name line, access := fun _ => name } := by
  rw [← declaredName?_trim] at hmember
  simp only [Flattening.ofWrapper, hname, hmember, Option.bind_eq_bind, Option.bind_some]
  rfl

/-! ## The result -/

/-- The text with the wrapping undone: others stand in the place of the block, and accesses to its
instance read in another way. -/
def Wrapping.undone (w : Wrapping) (read : Text → Text) (declared : List Text) : Text :=
  join ['\n'] ((w.around declared).map (readAccesses w.block.instanceName read))

/-- The accesses in lines that are put together are read one line after the other. -/
lemma replaceMembers_around (read : Text → Text) {declared : List Text} (hne : declared ≠ [])
    (h : ∀ line ∈ w.around declared, Readable w.block.instanceName line) :
    replaceMembers w.block.instanceName read (join ['\n'] (w.around [join ['\n'] declared]))
      = w.undone read declared := by
  have hjoined : join ['\n'] (w.around [join ['\n'] declared])
      = join ['\n'] (w.around declared) := by
    have hlines := join_append_join hne (w.before ++ w.between) w.after
    simpa [Wrapping.around] using hlines
  rw [hjoined, replaceMembers_join]
  exact congrArg _ (List.map_congr_left fun line hline => replaceMembers_eq (h line hline))

/-- **Flattening undoes the wrapping.**  A structure that was the application's block becomes the
block, a structure that was put around a uniform becomes the uniform.  The lines around the
structure stay, and the declaration stands in the place of the generated block.  In all of these
lines accesses to the block's instance read as the application has them, and nothing else changes.
-/
theorem flattenBlock_wrapping (h : w.Generated emitted)
    (hresource : (resourceKey? w.block.instanceName).bind (resources.lookup ·) = some resource) :
    (resource.loose = false → resource.members.length = w.members.length →
      (∀ name ∈ resource.members, name ≠ []) →
      (∀ line ∈ w.around (w.structureLines resource emitted),
        Readable w.block.instanceName line) →
      flattenBlock resources w.blockLine w.text
        = some (w.undone (applicationAccess resource emitted)
            (w.structureLines resource emitted))) ∧
    (∀ name member line, resource.loose = true → resource.name = some name →
      w.members = [line] → emitted = [member] →
      (∀ other ∈ w.around [uniformLine member name line],
        Readable w.block.instanceName other) →
      flattenBlock resources w.blockLine w.text
        = some (w.undone (fun _ => name) [uniformLine member name line])) := by
  constructor
  · intro hloose hlength hne hreadable
    have hmembers : Flattening.ofMembers w.block resource (w.members.map trim)
        = Flattening.ofStructure w.block resource (w.members.map trim) := by
      rw [Flattening.ofMembers]
      intro line htrue
      exact absurd (hloose.symm.trans htrue) Bool.false_ne_true
    have hlines : w.structureLines resource emitted ≠ [] := List.cons_ne_nil _ _
    rw [flattenBlock_text h hresource, hmembers, ofStructure_eq h hlength hne, Option.map_some]
    exact congrArg some (replaceMembers_around _ hlines hreadable)
  · intro name member line hloose hname hline hmember hreadable
    have hdeclared : declaredName? line = some member := by
      have hdeclared := h.declared
      rw [hline, hmember] at hdeclared
      exact (List.cons.inj hdeclared).1
    have hmembers : Flattening.ofMembers w.block resource (w.members.map trim)
        = Flattening.ofWrapper resource (trim line) := by
      rw [hline, List.map_singleton, Flattening.ofMembers]
      exact hloose
    have hundone := replaceMembers_around (fun _ => name) (List.cons_ne_nil _ _) hreadable
    rw [show join ['\n'] [uniformLine member name line] = uniformLine member name line from rfl]
      at hundone
    rw [flattenBlock_text h hresource, hmembers, ofWrapper_eq hname hdeclared, Option.map_some,
      hundone]

end Declaring

/-- A block with an instance name, whose members have other names as the application has them. -/
def lamp : Wrapping where
  before := ["#version 320 es".toList, []]
  members := ["vec4 color_;".toList, "  highp float size_[2];".toList, "float on;".toList]
  between := [[]]
  blockLine := "layout(std140) uniform Lamp_block_1 \x7b Lamp _group_0_binding_1_fs; \x7d;".toList
  after := ["void main() \x7b".toList,
    "o = _group_0_binding_1_fs.color_ * _group_0_binding_1_fs.size_[1] * 1.0;".toList,
    "\x7d".toList, []]
  block := {
    qualifiers := "layout(std140) uniform".toList,
    memberType := "Lamp".toList,
    instanceName := "_group_0_binding_1_fs".toList }

/-- A uniform that a structure with one member wraps. -/
def tint : Wrapping where
  before := []
  members := ["vec4 member;".toList]
  between := []
  blockLine := "uniform T_block_0 \x7b T _group_0_binding_0_fs; \x7d;".toList
  after := ["void main() \x7b o = _group_0_binding_0_fs.member; \x7d".toList]
  block := {
    qualifiers := "uniform".toList,
    memberType := "T".toList,
    instanceName := "_group_0_binding_0_fs".toList }

/-- What the application declared for the one. -/
def lampResource : Resource where
  name := "lamp".toList
  members := ["color".toList, "size".toList, "on".toList]

/-- What it declared for the other. -/
def tintResource : Resource where
  name := "tint".toList
  loose := true
  members := [[]]

/-- Both of them. -/
def lampResources : Resources := [((0, 1), lampResource), ((0, 0), tintResource)]

/-- The members of the lamp, as the structure has them. -/
def lampMembers : List Text := ["color_".toList, "size_".toList, "on".toList]

lemma generated_lamp : lamp.Generated lampMembers := by
  unfold lamp lampMembers
  repeat rw [toList_literal rfl]
  exact {
    bare := by decide +kernel
    parsed := by decide +kernel
    typeName := by decide
    once := by decide +kernel
    nowhere := by decide +kernel
    declared := by decide +kernel
    distinct := by decide
    unclosed := by decide +kernel
    nonempty := by decide }

lemma generated_tint : tint.Generated ["member".toList] := by
  unfold tint
  repeat rw [toList_literal rfl]
  exact {
    bare := by decide +kernel
    parsed := by decide +kernel
    typeName := by decide
    once := by decide +kernel
    nowhere := by decide +kernel
    declared := by decide +kernel
    distinct := by decide
    unclosed := by decide +kernel
    nonempty := by decide }

theorem flattenBlock_wrapping_lamp :
    lamp.Generated lampMembers ∧ tint.Generated ["member".toList] ∧
      flattenBlock lampResources lamp.blockLine lamp.text = some (join ['\n']
        ["#version 320 es".toList, [], [], "layout(std140) uniform Lamp \x7b".toList,
          "    vec4 color;".toList, "    highp float size[2];".toList, "    float on;".toList,
          "\x7d lamp;".toList, "void main() \x7b".toList,
          "o = lamp.color * lamp.size[1] * 1.0;".toList, "\x7d".toList, []]) ∧
      flattenBlock lampResources tint.blockLine tint.text = some (join ['\n']
        ["uniform vec4 tint;".toList, "void main() \x7b o = tint; \x7d".toList]) := by
  have hlamp : (resourceKey? lamp.block.instanceName).bind (lampResources.lookup ·)
      = some lampResource := by
    decide +kernel
  have htint : (resourceKey? tint.block.instanceName).bind (lampResources.lookup ·)
      = some tintResource := by
    decide +kernel
  have hstructure : ∀ line ∈ lamp.around (lamp.structureLines lampResource lampMembers),
      Readable lamp.block.instanceName line := by
    unfold lamp lampMembers lampResource
    repeat rw [toList_literal rfl]
    decide +kernel
  have huniform : ∀ line ∈ tint.around
      [uniformLine "member".toList "tint".toList "vec4 member;".toList],
      Readable tint.block.instanceName line := by
    unfold tint
    repeat rw [toList_literal rfl]
    decide +kernel
  refine ⟨generated_lamp, generated_tint, ?_, ?_⟩
  · rw [(flattenBlock_wrapping generated_lamp hlamp).1 rfl rfl (by decide) hstructure]
    unfold lamp lampMembers lampResource
    repeat rw [toList_literal rfl]
    decide +kernel
  · rw [(flattenBlock_wrapping generated_tint htint).2 _ _ _ rfl rfl rfl rfl huniform]
    unfold tint
    repeat rw [toList_literal rfl]
    decide +kernel

/-- A text with a block of a type, and with lines before its structure and in it. -/
def sample (qualifiers memberType : Text) (before members : List Text) : Wrapping where
  before
  members
  between := []
  blockLine := qualifiers ++ " T_block_0 \x7b ".toList ++ memberType
    ++ " _group_0_binding_0_fs; \x7d;".toList
  after := [[]]
  block := { qualifiers, memberType, instanceName := "_group_0_binding_0_fs".toList }

/-- What a block without a name becomes, and what it would become with its wrapping undone. -/
def outcomes (w : Wrapping) (members emitted : List Text) : Option Text × Text :=
  (flattenBlock [((0, 0), { members })] w.blockLine w.text,
    w.undone (applicationAccess { members } emitted) (w.structureLines { members } emitted))

/-- **Where the wrapping is not undone.**  A carriage return at the end of a line is lost.  A structure
without members leaves an empty line.  A block whose name is the structure's stays.  A number behind
the instance and a dot is taken for a member, if the qualifiers of the block have one.  A member is
taken to be called what stands before the first bracket of its line. -/
theorem flattenBlock_not_undone :
    outcomes (sample "uniform".toList "T".toList ["// a\r".toList] ["vec4 a;".toList])
        ["x".toList] ["a".toList]
      = (some "// a\nuniform T \x7b\n    vec4 x;\n\x7d;\n".toList,
        "// a\r\nuniform T \x7b\n    vec4 x;\n\x7d;\n".toList) ∧
    outcomes (sample "uniform".toList "T".toList [] []) [] []
      = (some "uniform T \x7b\n\n\x7d;\n".toList, "uniform T \x7b\n\x7d;\n".toList) ∧
    outcomes (sample "uniform".toList "T_block_0".toList [] ["vec4 a;".toList])
        ["x".toList] ["a".toList]
      = (none, "uniform T_block_0 \x7b\n    vec4 x;\n\x7d;\n".toList) ∧
    outcomes (sample "layout(offset = _group_0_binding_0_fs.5) uniform".toList "T".toList []
        ["vec4 a;".toList]) ["x".toList] ["a".toList]
      = (some "layout(offset = 5) uniform T \x7b\n    vec4 x;\n\x7d;\n".toList,
        "layout(offset = _group_0_binding_0_fs.5) uniform T \x7b\n    vec4 x;\n\x7d;\n".toList) ∧
    outcomes (sample "uniform".toList "T".toList [] ["vec4[2] a;".toList]) ["x".toList] ["a".toList]
      = (some "uniform T \x7b\n    x[2] a;\n\x7d;\n".toList,
        "uniform T \x7b\n    vec4[2] x;\n\x7d;\n".toList) := by
  repeat rw [toList_literal rfl]
  refine ⟨?_, ?_, ?_, ?_, ?_⟩
  · decide +kernel
  · decide +kernel
  · decide +kernel
  · decide +kernel
  · decide +kernel

end GlBridge.Interface
