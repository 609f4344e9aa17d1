import GlBridge.Proofs.Layout.Items

/-!
# Preprocessor lines within declarations

Preprocessor lines may stand anywhere, within a declaration too.  If a declaration is edited as a
whole, they stay where they are.  If it is split, each of the new declarations has those among the
qualifiers, and then those within its declarator; what stands between declarators is lost.

* `InterfaceDeclaration.directives`, `laidDirectives` — the preprocessor lines of a declaration, and
  those of what it is laid out to;
* `Anatomy.directives_eq`, `Anatomy.headDirectives_eq` — they are those of its pieces;
* `Redirected` — lists that differ in the lines of declarations, and what follows from their
  lengths.
-/

namespace GlBridge.Layout

open Text Glsl Piece

/-! ## The lines of a declaration -/

/-- The preprocessor lines of a source. -/
def directivesOf (source : Text) : List Text := Piece.directives (scan source)

namespace InterfaceDeclaration

/-- The preprocessor lines from the first token of a declaration to its last one. -/
def directives (source : Text) (d : InterfaceDeclaration) : List Text :=
  directivesOf (d.span.textIn source)

/-- The preprocessor lines from the first token of a declaration to its type. -/
def headDirectives (source : Text) (d : InterfaceDeclaration) : List Text :=
  directivesOf (source.slice d.span.start d.typeToken.stop)

/-- The preprocessor lines of a declarator that is declared by itself. -/
def aloneDirectives (source : Text) (d : InterfaceDeclaration) (x : Declarator) : List Text :=
  d.headDirectives source ++ Piece.directives (scanFrom false (x.span.textIn source))

/-- The preprocessor lines of what a declaration is laid out to. -/
def laidDirectives (source : Text) (d : InterfaceDeclaration) : List Text :=
  if d.declaration.isBlock ∨ d.kept.length = 1 then d.directives source
  else d.kept.flatMap (d.aloneDirectives source)

end InterfaceDeclaration

/-! ## Lists of lines -/

/-- Lists of lines that are made of the same parts but for the lines of declarations, for which the
first list has those that `old` says and the second one those that `new` says. -/
inductive Redirected (old new : InterfaceDeclaration → List Text) :
    List InterfaceDeclaration → List Text → List Text → Prop where
  | same (lines : List Text) : Redirected old new [] lines lines
  | declaration (d : InterfaceDeclaration) : Redirected old new [d] (old d) (new d)
  | append {ds es : List InterfaceDeclaration} {before before' after after' : List Text}
      (hbefore : Redirected old new ds before before')
      (hafter : Redirected old new es after after') :
      Redirected old new (ds ++ es) (before ++ after) (before' ++ after')

namespace Redirected

variable {old new : InterfaceDeclaration → List Text} {ds : List InterfaceDeclaration}
  {lines lines' : List Text}

/-- A declaration between other lines. -/
lemma within (d : InterfaceDeclaration) (lead tail : List Text) :
    Redirected old new [d] (lead ++ (old d ++ tail)) (lead ++ (new d ++ tail)) :=
  (same lead).append ((declaration d).append (same tail))

lemma symm (h : Redirected old new ds lines lines') : Redirected new old ds lines' lines := by
  induction h with
  | same lines => exact same lines
  | declaration d => exact declaration d
  | append _ _ ihbefore ihafter => exact ihbefore.append ihafter

/-- If no declaration changes its lines, the lists are the same. -/
lemma eq_of_forall (h : Redirected old new ds lines lines') (hsame : ∀ d ∈ ds, new d = old d) :
    lines' = lines := by
  induction h with
  | same lines => rfl
  | declaration d => exact hsame d List.mem_cons_self
  | append _ _ ihbefore ihafter =>
      rw [List.forall_mem_append] at hsame
      rw [ihbefore hsame.1, ihafter hsame.2]

lemma length_le (h : Redirected old new ds lines lines')
    (hle : ∀ d ∈ ds, (old d).length ≤ (new d).length) : lines.length ≤ lines'.length := by
  induction h with
  | same lines => exact le_rfl
  | declaration d => exact hle d List.mem_cons_self
  | append _ _ ihbefore ihafter =>
      rw [List.forall_mem_append] at hle
      rw [List.length_append, List.length_append]
      exact Nat.add_le_add (ihbefore hle.1) (ihafter hle.2)

/-- **If no declaration loses lines, the lists are the same only if no declaration changes its
lines**: where the lengths agree, the parts do. -/
theorem forall_of_eq (h : Redirected old new ds lines lines')
    (hle : ∀ d ∈ ds, (old d).length ≤ (new d).length) (heq : lines' = lines) :
    ∀ d ∈ ds, new d = old d := by
  induction h with
  | same lines => simp
  | declaration d => exact List.forall_mem_singleton.2 heq
  | append hbefore hafter ihbefore ihafter =>
      rw [List.forall_mem_append] at hle ⊢
      have hfirst := hbefore.length_le hle.1
      have hsecond := hafter.length_le hle.2
      have hlength := congrArg List.length heq
      rw [List.length_append, List.length_append] at hlength
      obtain ⟨hleft, hright⟩ := List.append_inj heq (by omega)
      exact ⟨ihbefore hle.1 hleft, ihafter hle.2 hright⟩

end Redirected

/-! ## The lines of its pieces -/

lemma Inserted.directives_eq {given : Given} {opening : Option ℕ} {head inserted : List Piece}
    (h : Inserted given opening head inserted) :
    Piece.directives inserted = Piece.directives head := by
  cases h with
  | front =>
      rw [directives_append, directives_eq_nil fun piece hpiece =>
        (given.inert_inFront piece hpiece).not_directive, List.nil_append]
  | inside left right _ hhead =>
      rw [hhead, directives_append, directives_append, directives_token, directives_token,
        directives_append, directives_eq_nil fun piece hpiece =>
          (given.inert_inside piece hpiece).not_directive, List.nil_append]

namespace Anatomy

variable {source done rest more : Text} {pieces lead head declared tail : List Piece}
  {d : InterfaceDeclaration}

/-- A declaration is read by itself as it is read in its statement. -/
lemma reads_span (h : Anatomy done.length pieces d lead head declared tail)
    (hreads : Reads true pieces more) :
    Reads true (head ++ token d.typeToken.text :: declared) [] := by
  have hcut : head ++ token d.typeToken.text :: (declared ++ tail)
      = (head ++ token d.typeToken.text :: declared) ++ tail := by simp
  rw [h.pieces_eq, reads_append] at hreads
  have hspan := (h.first.append _).reads hreads.2 true
  rw [hcut, reads_append] at hspan
  exact hspan.1.nil

/-- The source from the first token of a declaration to its last one. -/
lemma textIn_span (h : Anatomy done.length pieces d lead head declared tail)
    (hsource : source = done ++ (textOf pieces ++ rest)) :
    d.span.textIn source = textOf (head ++ token d.typeToken.text :: declared) := by
  rw [h.pieces_eq] at hsource
  refine slice_eq (done ++ textOf lead) _ (textOf tail ++ rest) ?_ ?_ ?_
  · simp [hsource]
  · rw [h.span_start, List.length_append]
  · rw [h.span_stop, h.type_stop]
    simp [token, Nat.add_assoc]

/-- The preprocessor lines of a declaration are those of its pieces. -/
lemma directives_eq (h : Anatomy done.length pieces d lead head declared tail)
    (hsource : source = done ++ (textOf pieces ++ rest)) (hreads : Reads true pieces more) :
    d.directives source = Piece.directives head ++ Piece.directives declared := by
  rw [InterfaceDeclaration.directives, h.textIn_span hsource, directivesOf,
    scan_textOf (h.reads_span hreads), directives_append, directives_token]

lemma headDirectives_eq (h : Anatomy done.length pieces d lead head declared tail)
    (hsource : source = done ++ (textOf pieces ++ rest)) (hreads : Reads true pieces more) :
    d.headDirectives source = Piece.directives head := by
  have hcut : head ++ token d.typeToken.text :: declared
      = (head ++ [token d.typeToken.text]) ++ declared := by simp
  have hhead := h.reads_span hreads
  rw [hcut, reads_append] at hhead
  rw [InterfaceDeclaration.headDirectives, h.slice_head hsource, directivesOf,
    scan_textOf hhead.1.nil, directives_append, directives_token, directives_nil, List.append_nil]

/-- What stands before the first token of a statement and after its last one stays. -/
lemma redirected {after : InterfaceDeclaration → List Text} {new : List Piece}
    (h : Anatomy done.length pieces d lead head declared tail)
    (hsource : source = done ++ (textOf pieces ++ rest)) (hreads : Reads true pieces more)
    (hnew : Piece.directives new
      = Piece.directives lead ++ (after d ++ Piece.directives tail)) :
    Redirected (·.directives source) after [d] (Piece.directives pieces)
      (Piece.directives new) := by
  have hpieces : Piece.directives pieces
      = Piece.directives lead ++ (d.directives source ++ Piece.directives tail) := by
    rw [h.directives_eq hsource hreads, h.pieces_eq, directives_append, directives_append,
      directives_token, directives_append, List.append_assoc]
  rw [hpieces, hnew]
  exact .within d _ _

end Anatomy

end GlBridge.Layout
