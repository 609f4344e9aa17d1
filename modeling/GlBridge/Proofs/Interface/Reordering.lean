import GlBridge.Proofs.Interface.Clashes

/-!
# Restoring does not depend on how names are listed

What is known of a shader's resources is a map, and a map may list its entries in any order.  The
names to be restored are collected in that order, and room is made for them one after the other.

**Names.**  What a name becomes depends on which names are restored, not on how they are listed
(`renameClashes_congr`): names that were given room before are never in the way of a later one.

**Resources.**  All the rest looks a resource up by its key, and so sees no order either
(`flattenBlock_congr`, `restoredName?_congr`).

The main result is **`restoreNames_orderless`**.
-/

namespace GlBridge.Interface

open Text Glsl Layout

variable {stage : Stage} {names : InterfaceNames} {resources others : Resources} {text : Text}

/-- **Room is made for names as a set.** -/
theorem renameClashes_congr {restored listed : List Text}
    (h : ∀ name, name ∈ restored ↔ name ∈ listed) (text : Text) :
    renameClashes restored text = renameClashes listed text := by
  have hfresh : ∀ name, freshName (identifiers text ++ restored) name
      = freshName (identifiers text ++ listed) name := by
    intro name
    refine freshName_congr ?_
    intro n
    rw [List.mem_append, List.mem_append, h]
  have hroom : roomFor? restored text = roomFor? listed text := by
    funext name afterDot
    simp only [roomFor?, isClash_iff, h, hfresh]
  rw [renameClashes_eq, renameClashes_eq, hroom]

/-! ## Maps that list their entries in another order -/

/-- Two lists of resources stand for the same map. -/
def Alike (resources others : Resources) : Prop :=
  ∀ key, resources.lookup key = others.lookup key

lemma flattenBlock_congr (h : Alike resources others) (line text : Text) :
    flattenBlock resources line text = flattenBlock others line text := by
  simp only [flattenBlock, h _]

lemma flattenBlocks_congr (h : Alike resources others) (blockLines : List Text) (text : Text) :
    flattenBlocks resources blockLines text = flattenBlocks others blockLines text := by
  simp only [flattenBlocks, flattenBlock_congr h]

lemma restoredName?_congr (h : Alike resources others) :
    restoredName? stage names resources = restoredName? stage names others := by
  funext name
  simp only [restoredName?, h _]

lemma mem_restoredNames_perm (h : resources.Perm others) (name : Text) :
    name ∈ restoredNames stage names resources ↔ name ∈ restoredNames stage names others := by
  have hresources := h.filterMap fun entry : ResourceKey × Resource =>
    entry.2.name.filter (!isReserved ·)
  simp only [restoredNames, List.mem_append]
  exact or_congr_left hresources.mem_iff

/-- **Restoring does not depend on how names are listed.**  Names that are the same as a set get the
same room in every text, and if the resources of a shader are listed in another order, its text is
restored in the same way. -/
theorem restoreNames_orderless :
    (∀ restored listed text, (∀ name, name ∈ restored ↔ name ∈ listed) →
      renameClashes restored text = renameClashes listed text) ∧
    (∀ stage names (resources others : Resources) text, (resources.map Prod.fst).Nodup →
      resources.Perm others →
        restoreNames stage names resources text = restoreNames stage names others text) := by
  refine ⟨fun restored listed text h => renameClashes_congr h text, ?_⟩
  intro stage names resources others text hkeys hperm
  have halike : Alike resources others := lookup_perm hkeys hperm
  have hnames : ∀ name, name ∈ restoredNames stage names resources ↔
      name ∈ restoredNames stage names others := mem_restoredNames_perm hperm
  simp only [restoreNames, renameClashes_congr hnames, flattenBlocks_congr halike,
    restoredName?_congr halike]

/-- Two resources.  The name of one is a candidate for what is called like the other one. -/
def numberedResources : Resources :=
  [((1, 0), { name := some "a".toList }), ((0, 3), { name := some "a_1".toList })]

/-- A text that uses both names and both resources. -/
def numberedUses : Text := "a = a_1 + _group_1_binding_0_fs * _group_0_binding_3_fs".toList

/-- Both names make room, whichever is listed first, and once though one is listed twice. -/
theorem restoreNames_orderless_variants :
    (∀ name, name ∈ ["a".toList, "a_1".toList, "a".toList] ↔ name ∈ ["a_1".toList, "a".toList]) ∧
      renameClashes ["a".toList, "a_1".toList, "a".toList] numberedUses
        = renameClashes ["a_1".toList, "a".toList] numberedUses ∧
      (numberedResources.map Prod.fst).Nodup ∧
      restoreNames .fragment {} numberedResources numberedUses = "a_2 = a_1_1 + a * a_1".toList ∧
      restoreNames .fragment {} numberedResources numberedUses
        = restoreNames .fragment {} numberedResources.reverse numberedUses := by
  obtain ⟨hnames, hresources⟩ := restoreNames_orderless
  have hset : ∀ name, name ∈ ["a".toList, "a_1".toList, "a".toList] ↔
      name ∈ ["a_1".toList, "a".toList] := by
    intro name
    simp only [List.mem_cons, List.not_mem_nil, or_false]
    tauto
  have hkeys : (numberedResources.map Prod.fst).Nodup := by decide
  refine ⟨hset, hnames _ _ numberedUses hset, hkeys, ?_, ?_⟩
  · unfold numberedUses
    repeat rw [toList_literal rfl]
    decide +kernel
  · exact hresources .fragment {} numberedResources _ numberedUses hkeys
      (List.reverse_perm numberedResources).symm

end GlBridge.Interface
