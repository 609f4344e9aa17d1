import GlBridge.Layout.Samplers
import GlBridge.Proofs.Glsl.Renaming
import GlBridge.Proofs.Layout.Rewriting

/-!
# Edits in bytes

A pass over declarations computes edits from the offsets of tokens and slices the source once more
to make them.  Here this is written down in bytes: every slice is checked, and so is every index
into the tokens of a declaration.

**Applying edits.**  Edits that come one after the other (`Edit.Ordered`) are in the order of their
places, and what stands between two of them can be sliced out.

**Declarations.**  `InterfaceDeclaration.Seated` is what a declaration needs for its edits: its
tokens come one after the other, and the type stands after the layout qualifiers.  Offsets in the
head of a declaration count from its first token, and the head is cut where a layout qualifier
opens.

* **`Edit.applyAll?_encode`** — ordered edits are made in the bytes as in the text;
* **`InterfaceDeclaration.Seated.splitEdit?_encode`** — a declaration is edited in the bytes as in
  the text, and where it stands (`InterfaceDeclaration.Seated.editOf_within`);
* **`all_ordered`** — declarations come one after the other.
-/

namespace GlBridge

open Text

/-! ## Applying edits -/

/-- An edit, as it is made in the bytes. -/
def Edit.inBytes (source : Text) (edit : Edit) : Edit :=
  { edit with span := edit.span.inBytes source }

namespace Edit

/-- The bytes from `copied` on with the edits made, what lies between them passed through
`between`. -/
def applyFrom? (between : Text → Option Text) (bytes : Bytes) (copied : ℕ) :
    List Edit → Option Text
  | [] => do between (← bytes.slice? copied bytes.length)
  | edit :: edits => do
    let kept ← between (← bytes.slice? copied edit.span.start)
    let later ← applyFrom? between bytes edit.span.stop edits
    return kept ++ edit.text ++ later

/-- The bytes with the edits made, in the order of their places. -/
def applyAll? (bytes : Bytes) (edits : List Edit) : Option Text :=
  applyFrom? some bytes 0 (edits.mergeSort fun a b => a.span.start ≤ b.span.start)

/-- Edits of a text that come one after the other. -/
structure Ordered (source : Text) (edits : List Edit) : Prop where
  ordered : edits.Pairwise fun earlier later => earlier.span.stop < later.span.start
  within : ∀ edit ∈ edits, edit.span.start ≤ edit.span.stop ∧ edit.span.stop ≤ source.length

variable {source : Text} {edits : List Edit}

/-- Edits in order cut the bytes into slices. -/
lemma Ordered.slices (h : Ordered source edits) :
    (encode source).Slices (edits.map fun edit => (edit.inBytes source).span) := by
  have hordered : (edits.map Edit.span).Pairwise fun earlier later =>
      earlier.stop ≤ later.start ∧ earlier.start < later.start :=
    List.pairwise_map.2 <| h.ordered.imp_of_mem fun hearlier _ hlt =>
      ⟨hlt.le, ((h.within _ hearlier).1).trans_lt hlt⟩
  have hslices := slices_inBytes hordered (List.forall_mem_map.2 h.within)
  rw [List.map_map] at hslices
  exact hslices

/-- Edits are applied in the same way to the bytes, whatever is done to the text between them. -/
lemma applyFrom?_encode {between : Text → Text} {between? : Text → Option Text}
    (hbetween : ∀ text, between? text = some (between text)) {copied : ℕ}
    (hcopied : copied ≤ source.length) (h : Ordered source edits)
    (hafter : ∀ edit ∈ edits, copied ≤ edit.span.start) :
    applyFrom? between? (encode source) (byteOffset source copied)
        (edits.map (Edit.inBytes source))
      = some (applyFrom between source copied edits) := by
  induction edits generalizing copied with
  | nil =>
      rw [List.map_nil, applyFrom?, slice?_encode_end source hcopied, applyFrom]
      exact hbetween _
  | cons edit edits ih =>
      obtain ⟨hordered, hwithin⟩ := h
      rw [List.pairwise_cons] at hordered
      rw [List.forall_mem_cons] at hwithin hafter
      have hrest := ih hwithin.1.2 ⟨hordered.2, hwithin.2⟩ fun later hlater =>
        (hordered.1 later hlater).le
      have hkept := slice?_encode source hafter.1
      rw [List.map_cons, applyFrom?, Edit.inBytes, Span.inBytes]
      simp only [hkept, hbetween, hrest, Option.bind_eq_bind, Option.bind_some]
      rfl

/-- **Edits in order are made in the bytes as they are in the text.** -/
theorem applyAll?_encode (h : Ordered source edits) :
    applyAll? (encode source) (edits.map (Edit.inBytes source)) = some (applyAll source edits) := by
  have hsorted : (edits.map (Edit.inBytes source)).Pairwise
      fun a b => decide (a.span.start ≤ b.span.start) = true :=
    List.pairwise_map.2 <| h.ordered.imp_of_mem fun hearlier _ hlt =>
      decide_eq_true (byteOffset_mono ((h.within _ hearlier).1.trans hlt.le))
  rw [applyAll?, List.mergeSort_of_pairwise hsorted]
  exact applyFrom?_encode (fun _ => rfl) (Nat.zero_le _) h fun _ _ => Nat.zero_le _

end Edit

namespace Glsl

/-! ## Declarators -/

/-- A token without its end. -/
def ByteToken.plain (token : ByteToken) : Token := { text := token.text, start := token.start }

namespace Declarator

/-- The groups of tokens between the commas outside all brackets. -/
def byteGroups (nesting : Int) (group : List ByteToken) : List ByteToken → List (List ByteToken)
  | [] => [group.reverse]
  | token :: rest =>
    let nesting := nesting + nestingStep token.plain
    if nesting = 0 ∧ token.plain.is "," then group.reverse :: byteGroups nesting [] rest
    else byteGroups nesting (token :: group) rest

/-- The declarator that a group of tokens writes. -/
def ofByteGroup? : List ByteToken → Option Declarator
  | [] => none
  | name :: afterName =>
    some {
      name := name.text
      arrayLength := lengthIn (afterName.map ByteToken.plain)
      span := { start := name.start, stop := ((name :: afterName).getLast (by simp)).stop } }

/-- The declarators that tokens write. -/
def parseBytes (tokens : List ByteToken) : List Declarator :=
  (byteGroups 0 [] tokens).filterMap ofByteGroup?

/-- A declarator, as it stands in the bytes. -/
def inBytes (source : Text) (declarator : Declarator) : Declarator :=
  { declarator with span := declarator.span.inBytes source }

variable {source : Text}

/-- Declarators are grouped by their words, in the bytes as well. -/
lemma byteGroups_inBytes (source : Text) (nesting : ℤ) (group tokens : List Token) :
    byteGroups nesting (group.map (Token.inBytes source)) (tokens.map (Token.inBytes source))
      = (groups nesting group tokens).map (List.map (Token.inBytes source)) := by
  induction tokens generalizing nesting group with
  | nil => simp [byteGroups, groups]
  | cons token tokens ih =>
      have hstep : nestingStep (token.inBytes source).plain = nestingStep token := rfl
      have hcomma : (token.inBytes source).plain.is "," = token.is "," := rfl
      rw [List.map_cons, byteGroups, groups]
      simp only [hstep, hcomma]
      split_ifs
      · rw [List.map_cons, List.map_reverse, ← ih, List.map_nil]
      · exact ih _ (token :: group)

/-- A group makes the same declarator, with its offsets. -/
lemma ofByteGroup?_inBytes (source : Text) (group : List Token) :
    ofByteGroup? (group.map (Token.inBytes source)) = (ofGroup? group).map (inBytes source) := by
  cases group with
  | nil => rfl
  | cons name afterName =>
      have hlength : lengthIn ((afterName.map (Token.inBytes source)).map ByteToken.plain)
          = lengthIn afterName := by
        match afterName with
        | [] | [_] | [_, _] | _ :: _ :: _ :: _ => rfl
      have hlast : ((name :: afterName).map (Token.inBytes source)).getLast (by simp)
          = ((name :: afterName).getLast (by simp)).inBytes source := List.getLast_map ..
      rw [List.map_cons, ofByteGroup?, hlength]
      simp only [← List.map_cons, hlast]
      rfl

/-- **The declarators of the bytes are those of the text.** -/
lemma parseBytes_inBytes (tokens : List Token) :
    parseBytes (tokens.map (Token.inBytes source)) = (parse tokens).map (inBytes source) := by
  have hgroups := byteGroups_inBytes source 0 [] tokens
  rw [List.map_nil] at hgroups
  rw [parseBytes, hgroups, parse, List.filterMap_map, List.map_filterMap]
  exact congrArg (List.filterMap · _) (funext (ofByteGroup?_inBytes source))

end Declarator
end Glsl

namespace Layout

open Glsl

/-! ## Declarations -/

/-- The tokens of a statement, read as a declaration of the interface. -/
structure ByteDeclaration where
  tokens : List ByteToken
  declaration : Declaration
deriving DecidableEq, Repr

namespace ByteDeclaration

/-- The declarations of the interface, in order. -/
def all? (bytes : Bytes) : Option (List ByteDeclaration) := do
  let declarations ← globalDeclarations? bytes
  return declarations.filterMap fun tokens =>
    (Declaration.parse? (tokens.map ByteToken.plain)).map fun declaration => { tokens, declaration }

/-- The type or block name. -/
def type? (d : ByteDeclaration) : Option ByteToken := d.tokens[d.declaration.typeIndex]?

/-- The declarators. -/
def declarators (d : ByteDeclaration) : List Declarator :=
  Declarator.parseBytes (d.tokens.drop (d.declaration.typeIndex + 1))

/-- The declaration for those who only look at its words. -/
def plain (d : ByteDeclaration) : InterfaceDeclaration where
  tokens := d.tokens.map ByteToken.plain
  declaration := d.declaration

/-- Adding a layout argument to a declaration as a whole. -/
def argumentEdit? (d : ByteDeclaration) (argument : Text) : Option Edit :=
  match d.declaration.layoutOpen with
  | some index => do
    let opening ← d.tokens[index]?
    return {
      span := { start := opening.stop, stop := opening.stop }
      text := argument ++ ", ".toList }
  | none => do
    let first ← d.tokens.head?
    return {
      span := { start := first.start, stop := first.start }
      text := "layout(".toList ++ argument ++ ") ".toList }

/-- The qualifiers and type of a declaration with a layout argument added.  In them, an offset is
one from the first token on. -/
def headWith? (d : ByteDeclaration) (head argument : Text) : Option Text :=
  match d.declaration.layoutOpen with
  | some index => do
    let first ← d.tokens.head?
    let opening ← d.tokens[index]?
    guard (first.start ≤ opening.stop)
    let place := opening.stop - first.start
    let before ← (encode head).slice? 0 place
    let after ← (encode head).slice? place (encode head).length
    return before ++ argument ++ ", ".toList ++ after
  | none => return "layout(".toList ++ argument ++ ") ".toList ++ head

/-- The declaration of one declarator, with a layout argument of its own. -/
def statement? (bytes : Bytes) (d : ByteDeclaration) (head : Text) (part : Text × Declarator) :
    Option Text := do
  let head ← d.headWith? head part.1
  let declared ← bytes.slice? part.2.span.start part.2.span.stop
  return head ++ " ".toList ++ declared

/-- Giving every declarator a layout argument of its own. -/
def splitEdit? (bytes : Bytes) (d : ByteDeclaration) : List (Text × Declarator) → Option Edit
  | [(argument, _)] => d.argumentEdit? argument
  | parts => do
    let first ← d.tokens.head?
    let type ← d.type?
    let last ← d.tokens.getLast?
    let head ← bytes.slice? first.start type.stop
    let statements ← parts.mapM (d.statement? bytes head)
    return { span := { start := first.start, stop := last.stop }, text := join "; ".toList statements }

end ByteDeclaration

namespace InterfaceDeclaration

/-- A declaration, as it stands in the bytes. -/
def inBytes (source : Text) (d : InterfaceDeclaration) : ByteDeclaration where
  tokens := d.tokens.map (Token.inBytes source)
  declaration := d.declaration

@[simp] lemma inBytes_tokens (source : Text) (d : InterfaceDeclaration) :
    (d.inBytes source).tokens = d.tokens.map (Token.inBytes source) := rfl

@[simp] lemma inBytes_declaration (source : Text) (d : InterfaceDeclaration) :
    (d.inBytes source).declaration = d.declaration := rfl

/-- A declaration as a source has it: its tokens stand one after the other, and the type comes
after the layout qualifiers. -/
structure Seated (source : Text) (d : InterfaceDeclaration) : Prop where
  placed : Placed 0 source.length d.tokens
  typed : d.declaration.typeIndex < d.tokens.length
  opened : ∀ index, d.declaration.layoutOpen = some index → index < d.declaration.typeIndex

/-- What tokens that are placed make is seated. -/
lemma seated_of_parse? {source : Text} {tokens : List Token} {declaration : Declaration}
    (hplaced : Placed 0 source.length tokens) (h : Declaration.parse? tokens = some declaration) :
    Seated source { tokens, declaration } := by
  obtain ⟨before, type, after, qualifiers, rfl, hsteps, _, _, hopen, _, hindex, _⟩ :=
    Declaration.parse?_eq_some_iff.1 h
  refine ⟨hplaced, ?_, fun index hindexed => ?_⟩
  · rw [hindex]
    simp
  · obtain ⟨earlier, later, _, hwords, hlength, _, _⟩ :=
      Qualifiers.exists_layoutOpen rfl hsteps (hopen ▸ hindexed)
    have hcount := congrArg List.length hwords
    rw [List.length_map, List.length_append, List.length_cons] at hcount
    show index < declaration.typeIndex
    omega

/-- A declaration of a source is seated in it. -/
lemma seated_of_mem_all {source : Text} {d : InterfaceDeclaration} (h : d ∈ all source) :
    Seated source d := by
  obtain ⟨tokens, htokens, hd⟩ := List.mem_filterMap.1 h
  obtain ⟨declaration, hparse, rfl⟩ := Option.map_eq_some_iff.1 hd
  exact seated_of_parse? (globalDeclarations_placed htokens).2.1 hparse

end InterfaceDeclaration

/-- The words of the tokens are read from the bytes as from the text. -/
lemma parse?_inBytes (source : Text) (tokens : List Token) :
    Declaration.parse? ((tokens.map (Token.inBytes source)).map ByteToken.plain)
      = Declaration.parse? tokens := by
  refine Declaration.parse?_congr ?_
  rw [List.map_map, List.map_map]
  rfl

/-- **The declarations of the bytes are those of the text.** -/
theorem all?_encode (source : Text) :
    ByteDeclaration.all? (encode source)
      = some ((InterfaceDeclaration.all source).map (InterfaceDeclaration.inBytes source)) := by
  rw [ByteDeclaration.all?, globalDeclarations?_encode, Option.bind_eq_bind, Option.bind_some,
    InterfaceDeclaration.all, List.map_filterMap, List.filterMap_map]
  refine congrArg some (congrArg (List.filterMap · _) (funext fun tokens => ?_))
  rw [Function.comp_apply, parse?_inBytes, Option.map_map]
  rfl

namespace InterfaceDeclaration.Seated

variable {source : Text} {d : InterfaceDeclaration}

lemma exists_first (h : Seated source d) : ∃ first rest, d.tokens = first :: rest :=
  List.exists_cons_of_ne_nil fun hnil => by
    have htyped := h.typed
    rw [hnil] at htyped
    exact absurd htyped (Nat.not_lt_zero _)

/-- The first token and the last one, between which the declaration stands. -/
lemma exists_ends (h : Seated source d) : ∃ first last, d.tokens.head? = some first ∧
    d.tokens.getLast? = some last ∧ d.span = { start := first.start, stop := last.stop } := by
  obtain ⟨first, rest, hcons⟩ := h.exists_first
  have hfirst : d.tokens.head? = some first := by rw [hcons]; rfl
  obtain ⟨last, hlast⟩ : ∃ last, d.tokens.getLast? = some last :=
    ⟨_, List.getLast?_eq_some_getLast (hcons ▸ List.cons_ne_nil _ _)⟩
  exact ⟨first, last, hfirst, hlast, span_eq hfirst hlast⟩

/-- The type is a token of the declaration. -/
lemma getElem?_type (h : Seated source d) :
    d.tokens[d.declaration.typeIndex]? = some d.typeToken := by
  rw [List.getElem?_eq_getElem h.typed, InterfaceDeclaration.typeToken, Declaration.typeToken,
    List.getD_eq_getElem _ _ h.typed]

/-- So it is found in the bytes. -/
lemma type?_encode (h : Seated source d) :
    (d.inBytes source).type? = some (d.typeToken.inBytes source) := by
  rw [ByteDeclaration.type?, inBytes_tokens, List.getElem?_map, inBytes_declaration, h.getElem?_type]
  rfl

/-- The last layout qualifier opens before the type. -/
lemma exists_opening (h : Seated source d) {index : ℕ}
    (hindex : d.declaration.layoutOpen = some index) :
    ∃ opening ∈ d.tokens, d.tokens[index]? = some opening ∧ opening.stop ≤ d.typeToken.start := by
  have hlt := h.opened index hindex
  have hlength := hlt.trans h.typed
  refine ⟨d.tokens[index], List.getElem_mem _, List.getElem?_eq_getElem hlength, ?_⟩
  have htype := (List.getElem?_eq_some_iff.1 h.getElem?_type).2
  rw [← htype]
  exact List.pairwise_iff_getElem.1 h.placed.ordered index _ hlength h.typed hlt

lemma type_mem (h : Seated source d) : d.typeToken ∈ d.tokens :=
  List.mem_of_getElem? h.getElem?_type

/-- A declarator reaches from the token that is its name to one that is not before it. -/
lemma exists_group (h : Seated source d) {x : Declarator} (hx : x ∈ d.declarators) :
    ∃ name ∈ d.tokens, ∃ last ∈ d.tokens, x.name = name.text ∧
      x.span = { start := name.start, stop := last.stop } ∧ name.stop ≤ last.stop := by
  obtain ⟨group, hgroup, hof⟩ := List.mem_filterMap.1 hx
  have hsublist : group.Sublist d.tokens :=
    (Declarator.sublist_of_mem_groups hgroup).trans (List.drop_sublist _ _)
  obtain ⟨name, last, hname, hlast, htext, hspan⟩ := Declarator.ends_of_ofGroup? hof
  exact ⟨name, hsublist.subset (List.mem_of_head? hname), last,
    hsublist.subset (List.mem_of_getLast? hlast), htext, hspan,
    (h.placed.sublist hsublist).le_last hlast (List.mem_of_head? hname)⟩

/-- A declarator stands in the source. -/
lemma declarator_within (h : Seated source d) {x : Declarator} (hx : x ∈ d.declarators) :
    x.span.start ≤ x.span.stop ∧ x.span.stop ≤ source.length := by
  obtain ⟨name, hname, last, hlast, _, hspan, hle⟩ := h.exists_group hx
  rw [hspan]
  exact ⟨(h.placed.within name hname).2.1.le.trans hle, (h.placed.within last hlast).2.2⟩

end InterfaceDeclaration.Seated

/-! ## The edits of a declaration -/

/-- Several statements are put together, or none. -/
lemma ByteDeclaration.splitEdit?_of_length_ne {bytes : Bytes} {d : ByteDeclaration}
    {parts : List (Text × Declarator)} (h : parts.length ≠ 1) :
    d.splitEdit? bytes parts = (do
      let first ← d.tokens.head?
      let type ← d.type?
      let last ← d.tokens.getLast?
      let head ← bytes.slice? first.start type.stop
      let statements ← parts.mapM (d.statement? bytes head)
      return {
        span := { start := first.start, stop := last.stop }
        text := join "; ".toList statements }) :=
  match parts with
  | [] => rfl
  | [_] => absurd rfl h
  | _ :: _ :: _ => rfl

namespace InterfaceDeclaration.Seated

variable {source : Text} {d : InterfaceDeclaration}

/-- The place of an argument is found by the tokens. -/
lemma argumentEdit?_encode (h : Seated source d) (argument : Text) :
    (d.inBytes source).argumentEdit? argument
      = some ((argumentEdit d argument).inBytes source) := by
  unfold ByteDeclaration.argumentEdit? argumentEdit
  cases hopen : d.declaration.layoutOpen with
  | none =>
      obtain ⟨first, last, hfirst, _, hspan⟩ := h.exists_ends
      simp only [inBytes_tokens, inBytes_declaration, hopen, List.head?_map, hfirst, hspan]
      rfl
  | some index =>
      obtain ⟨opening, _, hopening, _⟩ := h.exists_opening hopen
      simp only [inBytes_tokens, inBytes_declaration, hopen, List.getElem?_map, Option.bind_some, hopening]
      rfl

/-- An argument is put into the slice of the qualifiers. -/
lemma headWith?_encode (h : Seated source d) (argument : Text) :
    (d.inBytes source).headWith? (source.slice d.span.start d.typeToken.stop) argument
      = some (headWith source d argument) := by
  unfold ByteDeclaration.headWith? headWith
  cases hopen : d.declaration.layoutOpen with
  | none =>
      simp only [inBytes_declaration, hopen]
      rfl
  | some index =>
      obtain ⟨first, last, hfirst, _, hspan⟩ := h.exists_ends
      obtain ⟨opening, hmem, hopening, hbefore⟩ := h.exists_opening hopen
      have hafter := h.placed.within _ h.type_mem
      have hle : first.start ≤ opening.stop :=
        (h.placed.first_le hfirst hmem).trans (h.placed.within opening hmem).2.1.le
      have hbelow : opening.stop ≤ d.typeToken.stop := hbefore.trans hafter.2.1.le
      have hcut := (slice_append source hle hbelow).symm
      have hlength : first.start + (source.slice first.start opening.stop).length
          = opening.stop := by
        rw [length_slice (hbelow.trans hafter.2.2)]
        omega
      have hplace := byteOffset_of_drop (drop_eq_slice_append source hle)
      rw [hlength] at hplace
      simp only [inBytes_tokens, inBytes_declaration, hopen, List.head?_map, hfirst, List.getElem?_map, hopening,
        Option.map_some, Option.bind_eq_bind, Option.bind_some, Token.inBytes, hplace, hspan, hcut,
        Nat.add_sub_cancel_left, slice?_append_left, slice?_append_right]
      rw [guard, if_pos (Nat.le_add_right _ _)]
      rfl

/-- A declarator becomes a statement by itself, with the slice that it spans. -/
lemma statement?_encode (h : Seated source d) {part : Text × Declarator}
    (hpart : part.2 ∈ d.declarators) :
    (d.inBytes source).statement? (encode source) (source.slice d.span.start d.typeToken.stop)
        (part.1, part.2.inBytes source)
      = some (headWith source d part.1 ++ " ".toList ++ part.2.span.textIn source) := by
  have hdeclared := slice?_encode source (h.declarator_within hpart).1
  rw [ByteDeclaration.statement?, h.headWith?_encode]
  simp only [Declarator.inBytes, Span.inBytes, hdeclared, Option.bind_eq_bind, Option.bind_some]
  rfl

/-- **A declaration is split in the bytes as in the text.** -/
lemma splitEdit?_encode (h : Seated source d) {parts : List (Text × Declarator)}
    (hparts : ∀ part ∈ parts, part.2 ∈ d.declarators) :
    (d.inBytes source).splitEdit? (encode source)
        (parts.map fun part => (part.1, part.2.inBytes source))
      = some ((splitEdit source d parts).inBytes source) := by
  by_cases hone : parts.length = 1
  · obtain ⟨part, rfl⟩ := List.length_eq_one_iff.1 hone
    exact h.argumentEdit?_encode part.1
  · obtain ⟨first, last, hfirst, hlast, hspan⟩ := h.exists_ends
    have hle : d.span.start ≤ d.typeToken.stop := by
      rw [hspan]
      exact (h.placed.first_le hfirst h.type_mem).trans (h.placed.within _ h.type_mem).2.1.le
    have hhead := slice?_encode source hle
    have hstart : d.span.start = first.start := by rw [hspan]
    have hstatements := mapM_map_eq_some fun part hpart => h.statement?_encode (hparts part hpart)
    rw [ByteDeclaration.splitEdit?_of_length_ne (by rwa [List.length_map]),
      splitEdit_of_length_ne hone]
    rw [hstart] at hhead hstatements
    simp only [inBytes_tokens, List.head?_map, List.getLast?_map, hfirst, hlast, h.type?_encode,
      Option.map_some, Option.bind_eq_bind, Option.bind_some, Token.inBytes, hhead, hstatements,
      hspan]
    rfl

/-! ### Their places -/

/-- A declaration spans a part of the source. -/
lemma span_within (h : Seated source d) :
    d.span.start ≤ d.span.stop ∧ d.span.stop ≤ source.length := by
  obtain ⟨first, last, hfirst, hlast, hspan⟩ := h.exists_ends
  have hmem := List.mem_of_getLast? hlast
  have hwithin := h.placed.within last hmem
  rw [hspan]
  exact ⟨(h.placed.first_le hfirst hmem).trans hwithin.2.1.le, hwithin.2.2⟩

/-- **A declaration is edited where it stands.** -/
lemma editOf_within (h : Seated source d) {edit : Edit} (hedit : EditOf source d edit) :
    d.span.start ≤ edit.span.start ∧ edit.span.start ≤ edit.span.stop ∧
      edit.span.stop ≤ d.span.stop := by
  have hspan := h.span_within.1
  cases hedit with
  | split => exact ⟨le_rfl, hspan, le_rfl⟩
  | whole given hkey =>
      obtain ⟨first, last, hfirst, hlast, hends⟩ := h.exists_ends
      unfold argumentEdit
      cases hopen : d.declaration.layoutOpen with
      | none => exact ⟨le_rfl, le_rfl, hspan⟩
      | some index =>
          obtain ⟨opening, hmem, hopening, _⟩ := h.exists_opening hopen
          have hlow := h.placed.first_le hfirst hmem
          have hhigh := h.placed.le_last hlast hmem
          rw [Option.bind_some, hopening, hends]
          exact ⟨hlow.trans (h.placed.within opening hmem).2.1.le, le_rfl, hhigh⟩

end InterfaceDeclaration.Seated

/-- **Declarations come one after the other.** -/
lemma all_ordered (source : Text) : (InterfaceDeclaration.all source).Pairwise
    fun earlier later => earlier.span.stop < later.span.start := by
  refine (List.pairwise_filterMap.2 ((globalDeclarations_ordered source).imp_of_mem ?_))
  intro earlier later hearlier hlater hlt d hd e he
  obtain ⟨declaration, hparse, rfl⟩ := Option.map_eq_some_iff.1 hd
  obtain ⟨other, hother, rfl⟩ := Option.map_eq_some_iff.1 he
  have hbefore := InterfaceDeclaration.seated_of_parse? (globalDeclarations_placed hearlier).2.1 hparse
  have hafter := InterfaceDeclaration.seated_of_parse? (globalDeclarations_placed hlater).2.1 hother
  obtain ⟨_, last, _, hlast, hspan⟩ := hbefore.exists_ends
  obtain ⟨first, _, hfirst, _, hspan'⟩ := hafter.exists_ends
  rw [hspan, hspan']
  exact hlt last (List.mem_of_getLast? hlast) first (List.mem_of_head? hfirst)

end Layout
end GlBridge
