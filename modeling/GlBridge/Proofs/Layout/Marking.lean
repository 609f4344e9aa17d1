import GlBridge.Proofs.Layout.Grouping

/-!
# What declarations say of locations

A declaration says of the names that it lays out where they are, by the one argument that it is told
by.  This is read off the words of its statement, as its items are, and it is what laying out adds:
with an argument put in, a declaration says the number that it is given.

* `marksOf`, `sites_eq` — what a source says is what its statements say, read by themselves;
* `sites` — the locations that a source gives to names;
* `marksOf_inserted` — a declaration with an argument put in, whatever it declares after its type;
* `names_of_group` — a declarator by itself declares its name.
-/

namespace GlBridge.Layout

open Text Glsl Piece

/-- What a text says as a statement. -/
def marksOf (text : Text) : List Mark :=
  ((InterfaceDeclaration.ofTokens? (tokenize text)).map InterfaceDeclaration.mark).toList

/-- The locations that a source gives to names of its interface, in order. -/
def sites (stage : Stage) (source : Text) : List Site :=
  (InterfaceDeclaration.all source).flatMap (·.mark.sites stage)

/-! ## Names -/

/-- Whether a name is laid out if its declaration is. -/
def keepsName (storage : Storage) (name : Text) : Bool :=
  storage.isResource || !"gl_".toList.isPrefixOf name

section Names

variable {tokens others group : List Token} {x : Declarator} {d : InterfaceDeclaration}

lemma map_name_kept (d : InterfaceDeclaration) : d.kept.map Declarator.name
    = (d.declarators.map Declarator.name).filter (keepsName d.declaration.storage) := by
  rw [InterfaceDeclaration.kept, List.filter_map]
  split_ifs with hresource
  · refine congrArg _ (List.filter_eq_self.2 fun x _ => ?_).symm
    rw [Function.comp_apply, keepsName, hresource, Bool.true_or]
  · refine congrArg _ (List.filter_congr fun x _ => ?_)
    rw [Function.comp_apply, keepsName, Bool.eq_false_of_not_eq_true hresource, Bool.false_or]

lemma keepsName_of_mem_kept (hx : x ∈ d.kept) : keepsName d.declaration.storage x.name = true := by
  have hname : x.name ∈ d.kept.map Declarator.name := List.mem_map_of_mem hx
  rw [map_name_kept, List.mem_filter] at hname
  exact hname.2

/-- **By themselves, the words of a declarator declare its name**, and nothing else. -/
lemma names_of_group (hgroup : group ∈ Declarator.groups 0 [] tokens)
    (hx : Declarator.ofGroup? group = some x)
    (hwords : others.map Token.text = group.map Token.text) :
    (Declarator.parse others).map Declarator.name = [x.name] := by
  rw [Declarator.names_congr hwords, Declarator.parse, groups_uncut (uncut_of_mem_groups hgroup)]
  simp [hx]

/-- Declarations with the same words say the same. -/
lemma mark_congr {other : InterfaceDeclaration}
    (htokens : d.tokens.map Token.text = other.tokens.map Token.text)
    (hdeclaration : d.declaration = other.declaration) : d.mark = other.mark := by
  have hnames : d.declarators.map Declarator.name = other.declarators.map Declarator.name := by
    rw [InterfaceDeclaration.declarators, InterfaceDeclaration.declarators, Declaration.declarators,
      Declaration.declarators, hdeclaration]
    refine Declarator.names_congr ?_
    rw [List.map_drop, List.map_drop, htokens]
  rw [InterfaceDeclaration.mark, InterfaceDeclaration.mark, map_name_kept, map_name_kept, hnames,
    InterfaceDeclaration.key, InterfaceDeclaration.key, hdeclaration]

end Names

/-! ## Statements -/

/-- What a statement says depends on its words only. -/
lemma mark_statement {statement : Statement} :
    ((InterfaceDeclaration.ofTokens? statement.tokens).map InterfaceDeclaration.mark).toList
      = marksOf statement.text := by
  have hwords : statement.tokens.map Token.text = (tokenize statement.text).map Token.text := by
    rw [tokenize, Statement.tokens, map_text_tokensFrom, map_text_tokensFrom]
  rw [marksOf, InterfaceDeclaration.ofTokens?, InterfaceDeclaration.ofTokens?,
    Declaration.parse?_congr hwords, Option.map_map, Option.map_map]
  congr 2
  funext declaration
  exact mark_congr hwords rfl

/-- **What a source says of locations is what its statements say.** -/
theorem sites_eq (stage : Stage) (source : Text) :
    sites stage source
      = ((statementsOf source).flatMap (marksOf ·.text)).flatMap (Mark.sites stage) := by
  rw [sites, flatMap_all, List.flatMap_assoc]
  refine List.flatMap_congr fun statement _ => ?_
  rw [← mark_statement]
  cases InterfaceDeclaration.ofTokens? statement.tokens <;> simp

lemma marksOf_of_silent {text : Text} (h : tokenize text = []) : marksOf text = [] := by
  rw [marksOf, h, InterfaceDeclaration.ofTokens?_nil]
  rfl

/-- The words after the type declare the names, and so those that are laid out. -/
lemma Anatomy.names_declared {position : ℕ} {pieces lead head declared tail : List Piece}
    {d : InterfaceDeclaration} (h : Anatomy position pieces d lead head declared tail)
    (htokens : d.tokens = tokensFrom position pieces)
    (hparse : Declaration.parse? d.tokens = some d.declaration) {tokens : List Token}
    (hwords : tokens.map Token.text = words declared) :
    ((Declarator.parse tokens).map Declarator.name).filter (keepsName d.declaration.storage)
      = d.kept.map Declarator.name := by
  have hafter : d.declarators = Declarator.parse (tokensFrom d.typeToken.stop declared) := by
    rw [← h.afterType_eq htokens hparse]
    rfl
  rw [map_name_kept, hafter, Declarator.names_congr (hwords.trans map_text_tokensFrom.symm)]

/-- **With an argument put in, a declaration says the number that it is given** of the names that the
words after its type declare. -/
theorem Anatomy.marksOf_inserted {position : ℕ}
    {pieces lead head declared tail inserted lead' declared' tail' : List Piece}
    {d : InterfaceDeclaration} {given : Given} {names : List Text}
    (h : Anatomy position pieces d lead head declared tail)
    (hparse : Declaration.parse? d.tokens = some d.declaration)
    (hinserted : Inserted given d.declaration.layoutOpen head inserted)
    (hnone : d.declaration.layoutValue d.key = none) (hkey : given.key = d.key)
    (hfits : given.number < word32Limit)
    (hreads : Reads true
      (lead' ++ (inserted ++ token d.typeToken.text :: (declared' ++ tail'))) [])
    (hlead : ∀ piece ∈ lead', piece.kind ≠ .token) (htail : ∀ piece ∈ tail', piece.kind ≠ .token)
    (hnames : ∀ tokens : List Token, tokens.map Token.text = words declared' →
      ((Declarator.parse tokens).map Declarator.name).filter (keepsName d.declaration.storage)
        = names) :
    marksOf (textOf (lead' ++ (inserted ++ token d.typeToken.text :: (declared' ++ tail'))))
      = [d.marked given names] := by
  have hwords : words (lead' ++ (inserted ++ token d.typeToken.text :: (declared' ++ tail')))
      = words inserted ++ d.typeToken.text :: words declared' := by
    rw [words_append, words_append, words_token, words_append, words_eq_nil_iff.2 hlead,
      words_eq_nil_iff.2 htail, List.nil_append, List.append_nil]
  generalize lead' ++ (inserted ++ token d.typeToken.text :: (declared' ++ tail')) = new
    at hwords hreads ⊢
  have henriched := hinserted.enriched
  rw [h.words_head] at henriched
  have htokens : (tokensFrom 0 new).map Token.text
      = words inserted ++ d.typeToken.text :: words declared' := by
    rw [map_text_tokensFrom, hwords]
  obtain ⟨other, hother, hstorage, hindex, _, _, hvalue⟩ :=
    Declaration.exists_parse?_enriched given.argues hparse henriched htokens
  have hafter : ((tokensFrom 0 new).drop (other.typeIndex + 1)).map Token.text
      = words declared' := by
    rw [List.map_drop, htokens, hindex, ← List.drop_drop, List.drop_left]
    rfl
  have hread : InterfaceDeclaration.mark { tokens := tokensFrom 0 new, declaration := other }
      = d.marked given names := by
    have hsame : InterfaceDeclaration.key { tokens := tokensFrom 0 new, declaration := other }
        = given.key := by
      rw [hkey, InterfaceDeclaration.key, InterfaceDeclaration.key, hstorage]
    rw [InterfaceDeclaration.mark, map_name_kept, hsame, hvalue (hkey ▸ hnone),
      word32?_ofNat hfits, InterfaceDeclaration.marked, ← hnames _ hafter, hstorage]
    rfl
  rw [marksOf, tokenize, scan_textOf hreads, InterfaceDeclaration.ofTokens?, hother, Option.map_some,
    Option.map_some, hread]
  rfl

end GlBridge.Layout
