import GlBridge.Proofs.Layout.Idempotence

/-!
# The locations in the new text

The second pass records where it places variables, and writes the locations into the text.  This file
closes the gap between the two: the declarations of the new text, read again, say of each variable
the location that is recorded for it.

The source is followed statement by statement.  A statement that is edited says nothing of locations
before, since it wants one, and says where its variables are placed after; any other one says what it
said.  So nothing but the placements is added.

* `Edits.sites_perm`, `Edits.sites_sublist` — what the statements say after the edits;
* `sites_laidOut` — the locations in the new text are those in the source and the recorded ones;
* `exists_declaration_of_placement` — each variable is declared at the location it is placed at.
-/

namespace GlBridge.Layout

open Text Glsl Piece

variable {stage : Stage} {source : Text}

/-- A declaration that wants something says nothing of locations. -/
lemma InterfaceDeclaration.Wants.sites_mark {d : InterfaceDeclaration} (h : d.Wants stage) :
    d.mark.sites stage = [] := by
  rw [mark, h.layoutValue_eq_none, Mark.sites]
  dsimp only
  cases locationSpace? stage d.declaration.storage <;> rfl

/-- Neither does the text of its statement. -/
lemma sites_of_wants {statement : Statement} {d : InterfaceDeclaration}
    (hd : InterfaceDeclaration.ofTokens? statement.tokens = some d) (hwants : d.Wants stage) :
    (marksOf statement.text).flatMap (Mark.sites stage) = [] := by
  rw [← mark_statement, hd, Option.map_some, Option.toList_some, List.flatMap_singleton,
    hwants.sites_mark]

section Edits

variable {statements : List Statement} {edits : List Edit} {marks : List Mark}
  {placed : List Placement}

/-- **The edits add the locations of the placed variables, and no others.** -/
lemma Edits.sites_perm (h : Edits stage source statements edits marks placed) :
    (marks.flatMap (Mark.sites stage)).Perm
      ((statements.flatMap (marksOf ·.text)).flatMap (Mark.sites stage)
        ++ placed.map Placement.site) := by
  induction h with
  | nil => exact .refl _
  | keep hunwanting hrest ih =>
      rw [List.flatMap_append, List.flatMap_cons, List.flatMap_append, List.append_assoc]
      exact ih.append_left _
  | @edit statement statements edits said marks given placed d edit hd hwants hclean hlays hsites
      hrest ih =>
      rw [List.flatMap_append, hsites, List.flatMap_cons, List.flatMap_append,
        sites_of_wants hd hwants, List.nil_append, List.map_append]
      refine (ih.append_left _).trans ?_
      rw [← List.append_assoc, ← List.append_assoc]
      exact List.perm_append_comm.append_right _

/-- The placed variables stand in the order in which they are placed. -/
lemma Edits.sites_sublist (h : Edits stage source statements edits marks placed) :
    (placed.map Placement.site).Sublist (marks.flatMap (Mark.sites stage)) := by
  induction h with
  | nil => exact .refl _
  | keep hunwanting hrest ih =>
      rw [List.flatMap_append]
      exact ih.trans (List.sublist_append_right _ _)
  | edit hd hwants hclean hlays hsites hrest ih =>
      rw [List.flatMap_append, hsites, List.map_append]
      exact ih.append_left _

end Edits

section LaidOut

variable {varyings : VaryingLocations} {out : LaidOut}

/-- **The new text gives the names the locations that they are placed at**, in the order of the
placements, and keeps those that the source gives. -/
theorem sites_laidOut (hclean : AllClean stage source)
    (h : assignLayouts stage source varyings = .ok out) :
    (sites stage out.text).Perm (sites stage source ++ out.placements.map Placement.site) ∧
      (out.placements.map Placement.site).Sublist (sites stage out.text) := by
  obtain ⟨edits, marks, new, hnew, htext, hedits⟩ := exists_rewritten_laidOut hclean h
  have hmarks : (statementsOf out.text).flatMap (marksOf ·.text) = marks := by
    rw [htext, statementsOf, scan_textOf hnew.reads]
    exact hnew.marks 0
  rw [sites_eq, hmarks, sites_eq]
  exact ⟨hedits.sites_perm, hedits.sites_sublist⟩

/-- Whatever names a declaration gives a location, it declares. -/
lemma exists_declaration_of_mem_sites {site : Site} (h : site ∈ sites stage source) :
    ∃ d ∈ InterfaceDeclaration.all source,
      (∃ shared, locationSpace? stage d.declaration.storage = some (site.space, shared)) ∧
        d.declaration.layoutValue "location" = some (some site.location) ∧
          site.name ∈ d.declarators.map Declarator.name := by
  obtain ⟨d, hd, hsite⟩ := List.mem_flatMap.1 h
  refine ⟨d, hd, ?_⟩
  rw [Mark.sites] at hsite
  split at hsite
  · next space shared location hspace hvalue =>
      obtain ⟨name, hname, rfl⟩ := List.mem_map.1 hsite
      have hresource : ¬ d.declaration.storage.isResource = true := fun hresource => by
        rw [InterfaceDeclaration.mark, locationSpace?_of_resource hresource] at hspace
        exact absurd hspace (Option.some_ne_none _).symm
      have hkey : d.key = "location" := if_neg hresource
      refine ⟨⟨shared, hspace⟩, hkey ▸ hvalue, ?_⟩
      exact (d.kept_sublist.map _).subset hname
  · exact absurd hsite List.not_mem_nil

/-- **Each variable is declared at the location it is placed at**: some declaration of the new text
declares its name, in the same space, with that location as its layout argument. -/
theorem exists_declaration_of_placement (hclean : AllClean stage source)
    (h : assignLayouts stage source varyings = .ok out) {p : Placement} (hp : p ∈ out.placements) :
    ∃ d ∈ InterfaceDeclaration.all out.text,
      (∃ shared, locationSpace? stage d.declaration.storage = some (p.space, shared)) ∧
        d.declaration.layoutValue "location" = some (some p.location) ∧
          p.name ∈ d.declarators.map Declarator.name :=
  exists_declaration_of_mem_sites
    ((sites_laidOut hclean h).2.subset (List.mem_map_of_mem (f := Placement.site) hp))

/-- One declaration is split and one is given a location, and both say where their variables are. -/
example : (assignLayouts .fragment "in mat3 u, v[2]; layout(index = 0) out vec4 c;".toList {}).map
    (fun out => (sites .fragment out.text).map fun site => (site.name, site.location))
      = .ok [("u".toList, 0), ("v".toList, 3), ("c".toList, 0)] := by
  decide +kernel

end LaidOut

end GlBridge.Layout
