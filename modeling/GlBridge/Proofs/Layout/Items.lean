import GlBridge.Proofs.Glsl.Slicing
import GlBridge.Proofs.Layout.Rewriting

/-!
# The items of an interface

What a source declares is read declarator by declarator, without regard to how the declarators are
put together to declarations and where they stand.  Layout qualifiers are left out, as they are what
laying out adds.

**Headings.**  What a declaration says before its declarators holds for each of them.  Array
brackets right after the type belong to the type, and so to all declarators; `Heading.items` reads
the tokens after the type in this way.  It does not depend on where they stand
(`Heading.items_of_slice`).

**Statements.**  The items of a source are those of the texts of its statements, one after the other
(`interfaceItems_eq`), and for a statement in pieces they are what its heading makes of the pieces
after the type (`itemsOf_pieces`).

**One more argument.**  Qualifiers with a layout argument put in are the same qualifiers
(`unlaid_enriched`).
-/

namespace GlBridge.Layout

open Text Glsl Piece

/-- A declarator with what its declaration says of it. -/
structure Item where
  /-- The words of the qualifiers, layout qualifiers left out. -/
  qualifiers : List Text
  /-- The words of the type, with the array brackets that are written on it. -/
  type : List Text
  /-- The declarator as it is written.  A block has one, all that comes after its name. -/
  text : Text
deriving DecidableEq, Repr

/-- Words without the layout qualifiers.  `inside` says whether the words start within one. -/
def unlaid (inside : Bool) : List Text → List Text
  | [] => []
  | word :: rest =>
    if inside then unlaid (word ≠ ")".toList) rest
    else if word = "layout".toList then unlaid true rest
    else word :: unlaid false rest

/-- The number of tokens in the array brackets that some tokens start with. -/
def bracketed (nesting : ℤ) : List Token → ℕ
  | [] => 0
  | token :: rest =>
    if nesting = 0 ∧ token.is "[" = false then 0
    else bracketed (nesting + Declarator.nestingStep token) rest + 1

/-- What a declaration says before its declarators. -/
structure Heading where
  qualifiers : List Text
  type : Text
  isBlock : Bool

namespace Heading

variable (heading : Heading)

/-- The number of tokens after the type that belong to it. -/
def brackets (after : List Token) : ℕ := if heading.isBlock then 0 else bracketed 0 after

/-- The groups of tokens that write the declarators. -/
def groups (after : List Token) : List (List Token) :=
  if heading.isBlock then [after] else Declarator.groups 0 [] (after.drop (bracketed 0 after))

/-- The item of a declarator, with the brackets that belong to its type. -/
def item (source : Text) (brackets : List Text) (x : Declarator) : Item where
  qualifiers := heading.qualifiers
  type := heading.type :: brackets
  text := x.span.textIn source

/-- The items that the tokens after the type make. -/
def items (source : Text) (after : List Token) : List Item :=
  ((heading.groups after).filterMap Declarator.ofGroup?).map
    (heading.item source ((after.take (heading.brackets after)).map Token.text))

end Heading

namespace InterfaceDeclaration

/-- What the declaration says before its declarators. -/
def heading (d : InterfaceDeclaration) : Heading where
  qualifiers := unlaid false ((d.tokens.take d.declaration.typeIndex).map Token.text)
  type := d.typeToken.text
  isBlock := d.declaration.isBlock

/-- The tokens after the type. -/
def afterType (d : InterfaceDeclaration) : List Token := d.tokens.drop (d.declaration.typeIndex + 1)

/-- The items of a declaration. -/
def items (source : Text) (d : InterfaceDeclaration) : List Item :=
  d.heading.items source d.afterType

/-- The items of a declarator that is declared by itself. -/
def alone (source : Text) (d : InterfaceDeclaration) (x : Declarator) : List Item :=
  d.heading.items (x.span.textIn source) (tokensFrom 0 (scanFrom false (x.span.textIn source)))

/-- The items of a declaration that has been laid out: several declarators are declared one by
one. -/
def laidItems (source : Text) (d : InterfaceDeclaration) : List Item :=
  if d.declaration.isBlock ∨ d.kept.length = 1 then d.items source
  else d.kept.flatMap (d.alone source)

end InterfaceDeclaration

/-- The items of a source's interface, in order. -/
def interfaceItems (source : Text) : List Item :=
  (InterfaceDeclaration.all source).flatMap (·.items source)

/-- The items of a statement, read by itself. -/
def itemsOf (text : Text) : List Item :=
  (InterfaceDeclaration.ofTokens? (tokenize text)).elim [] (·.items text)

/-! ## Standing elsewhere -/

/-- The token, standing `offset` characters further behind. -/
def shift (offset : ℕ) (token : Token) : Token := { token with start := offset + token.start }

section Shift

variable {source text : Text} {offset position : ℕ} {tokens group : List Token} {nesting : ℤ}

lemma map_text_shift : (tokens.map (shift offset)).map Token.text = tokens.map Token.text := by
  rw [List.map_map]
  rfl

lemma bracketed_shift :
    bracketed nesting (tokens.map (shift offset)) = bracketed nesting tokens := by
  induction tokens generalizing nesting with
  | nil => rfl
  | cons token tokens ih =>
      rw [List.map_cons, bracketed, bracketed, ih]
      rfl

lemma groups_shift {read : List Token} :
    Declarator.groups nesting (read.map (shift offset)) (tokens.map (shift offset))
      = (Declarator.groups nesting read tokens).map (List.map (shift offset)) := by
  induction tokens generalizing nesting read with
  | nil => simp [Declarator.groups]
  | cons token tokens ih =>
      have hstep : Declarator.nestingStep (shift offset token) = Declarator.nestingStep token := rfl
      have hcomma : (shift offset token).is "," = token.is "," := rfl
      rw [List.map_cons, Declarator.groups, Declarator.groups, hstep, hcomma]
      split_ifs
      · rw [List.map_cons, List.map_reverse]
        exact congrArg _ (@ih _ [])
      · exact @ih _ (token :: read)

/-- A part of a part of a text. -/
lemma slice_slice (hslice : source.slice offset (offset + text.length) = text) {start stop : ℕ}
    (hstop : stop ≤ text.length) :
    source.slice (offset + start) (offset + stop) = text.slice start stop := by
  rw [← hslice]
  simp only [Text.slice, List.take_drop, List.take_take, List.drop_drop]
  rw [Nat.min_eq_left (Nat.add_le_add_left hstop offset)]

/-- A token does not go on past the pieces. -/
lemma stop_le_of_mem_tokensFrom {pieces : List Piece} :
    ∀ token ∈ tokensFrom position pieces, token.stop ≤ position + (textOf pieces).length := by
  intro token htoken
  obtain ⟨before, after, hcut⟩ := List.append_of_mem htoken
  obtain ⟨left, right, rfl, _, hstart, _⟩ := exists_cut hcut
  rw [Token.stop, hstart, textOf_append, textOf_cons, List.length_append, List.length_append]
  simp only [Piece.token]
  omega

/-- What a declarator is written as does not depend on where it stands. -/
lemma textIn_shift (hslice : source.slice offset (offset + text.length) = text)
    (hwithin : ∀ token ∈ group, token.stop ≤ text.length) :
    (Declarator.ofGroup? (group.map (shift offset))).map (·.span.textIn source)
      = (Declarator.ofGroup? group).map (·.span.textIn text) := by
  cases group with
  | nil => rfl
  | cons name afterName =>
      have hlast := hwithin _ (List.getLast_mem (List.cons_ne_nil name afterName))
      have hstop : (((name :: afterName).map (shift offset)).getLast (by simp)).stop
          = offset + ((name :: afterName).getLast (by simp)).stop := by
        rw [List.getLast_map, Token.stop, Token.stop, shift, Nat.add_assoc]
      simp only [List.map_cons, Declarator.ofGroup?, Option.map_some, Option.some.injEq]
      show source.slice (offset + name.start) _ = text.slice name.start _
      rw [← slice_slice hslice hlast]
      exact congrArg _ hstop

/-- **Items do not depend on where the tokens stand.** -/
theorem Heading.items_shift (heading : Heading)
    (hslice : source.slice offset (offset + text.length) = text)
    (hwithin : ∀ token ∈ tokens, token.stop ≤ text.length) :
    heading.items source (tokens.map (shift offset)) = heading.items text tokens := by
  have hbrackets : heading.brackets (tokens.map (shift offset)) = heading.brackets tokens := by
    rw [brackets, brackets, bracketed_shift]
  have hgroups : heading.groups (tokens.map (shift offset))
      = (heading.groups tokens).map (List.map (shift offset)) := by
    rw [groups, groups, bracketed_shift, ← List.map_drop]
    have hshift : Declarator.groups 0 []
        ((tokens.drop (bracketed 0 tokens)).map (shift offset)) = _ := @groups_shift _ _ _ []
    rw [hshift]
    split_ifs <;> rfl
  have hgroup : ∀ group ∈ heading.groups tokens, ∀ token ∈ group, token ∈ tokens := by
    intro group hgroup token htoken
    rw [groups] at hgroup
    split_ifs at hgroup
    · rwa [List.mem_singleton.1 hgroup] at htoken
    · exact List.mem_of_mem_drop ((Declarator.sublist_of_mem_groups hgroup).subset htoken)
  rw [items, items, hbrackets, hgroups, ← List.map_take, map_text_shift, List.filterMap_map,
    List.map_filterMap, List.map_filterMap]
  refine List.filterMap_congr fun group hmem => ?_
  have htext := textIn_shift hslice fun token htoken =>
    hwithin token (hgroup group hmem token htoken)
  have hmap : ∀ (read : Option Declarator) (text : Text) (brackets : List Text),
      read.map (heading.item text brackets) = (read.map (·.span.textIn text)).map
        (Item.mk heading.qualifiers (heading.type :: brackets)) :=
    fun _ _ _ => (Option.map_map ..).symm
  rw [Function.comp_apply, hmap, hmap, htext]

/-- Items of pieces, wherever these stand. -/
lemma Heading.items_of_slice (heading : Heading) {pieces : List Piece}
    (hslice : source.slice position (position + (textOf pieces).length) = textOf pieces) :
    heading.items source (tokensFrom position pieces)
      = heading.items (textOf pieces) (tokensFrom 0 pieces) := by
  have hshift : tokensFrom position pieces = (tokensFrom 0 pieces).map (shift position) :=
    tokensFrom_add position 0 pieces
  rw [hshift]
  refine heading.items_shift hslice fun token htoken => ?_
  simpa using stop_le_of_mem_tokensFrom token htoken

end Shift

/-! ## Statements -/

/-- The items of a statement are those of its text. -/
lemma items_statement {source : Text} {statement : Statement}
    (h : statement ∈ statementsOf source) :
    (InterfaceDeclaration.ofTokens? statement.tokens).elim [] (·.items source)
      = itemsOf statement.text := by
  have htokens : statement.tokens = (tokenize statement.text).map (shift statement.start) :=
    tokensFrom_add statement.start 0 (scan statement.text)
  have hwithin : ∀ token ∈ tokenize statement.text, token.stop ≤ statement.text.length :=
    fun token htoken => ((tokenize_placed statement.text).within token htoken).2.2
  have hwords : statement.tokens.map Token.text = (tokenize statement.text).map Token.text := by
    rw [htokens, map_text_shift]
  rw [itemsOf, InterfaceDeclaration.ofTokens?, InterfaceDeclaration.ofTokens?,
    Declaration.parse?_congr hwords]
  cases Declaration.parse? (tokenize statement.text) with
  | none => rfl
  | some declaration =>
      have htype := declaration.text_typeToken_congr hwords
      have hheading : InterfaceDeclaration.heading { tokens := statement.tokens, declaration }
          = InterfaceDeclaration.heading { tokens := tokenize statement.text, declaration } := by
        simp only [InterfaceDeclaration.heading, InterfaceDeclaration.typeToken, htype]
        rw [List.map_take, List.map_take, hwords]
      simp only [Option.map_some, Option.elim_some, InterfaceDeclaration.items, hheading]
      rw [InterfaceDeclaration.afterType, htokens, ← List.map_drop]
      exact Heading.items_shift _ (textIn_statement h) fun token htoken =>
        hwithin token (List.mem_of_mem_drop htoken)

/-- What a source's declarations give is what its statements give, those that are no declarations
left out. -/
lemma flatMap_all {α : Type} (source : Text) (give : InterfaceDeclaration → List α) :
    (InterfaceDeclaration.all source).flatMap give = (statementsOf source).flatMap fun statement =>
      (InterfaceDeclaration.ofTokens? statement.tokens).elim [] give := by
  rw [InterfaceDeclaration.all_eq]
  induction statementsOf source with
  | nil => rfl
  | cons statement statements ih =>
      rw [List.filterMap_cons, List.flatMap_cons, ← ih]
      cases InterfaceDeclaration.ofTokens? statement.tokens <;> rfl

/-- **The items of a source are those of its statements.** -/
theorem interfaceItems_eq (source : Text) :
    interfaceItems source = (statementsOf source).flatMap (itemsOf ·.text) := by
  rw [interfaceItems, flatMap_all]
  exact List.flatMap_congr fun statement hstatement => items_statement hstatement

/-! ## One more argument -/

/-- Whether a reading of qualifiers is inside a layout qualifier. -/
def isInside : QualifierState → Bool
  | .between => false
  | _ => true

section Unlaid

variable {state state' : QualifierState} {qualifiers qualifiers' : Qualifiers} {index : ℕ}
  {word : Text} {read enriched argument others : List Text}

/-- What is left of one word depends on where the reading is, and so does where it goes on. -/
lemma unlaid_cons {effect : Qualifiers.Effect} (h : Qualifiers.effect? state word = some effect) :
    ∃ kept, ∀ others,
      unlaid (isInside state) (word :: others) = kept ++ unlaid (isInside effect.state) others := by
  cases state with
  | between =>
      have his : ((bare word).is "layout" = true) = (word = "layout".toList) := by
        rw [Token.is, beq_iff_eq]
        rfl
      simp only [Qualifiers.effect?, his] at h
      by_cases hlayout : word = "layout".toList
      · rw [if_pos hlayout] at h
        obtain rfl := Option.some.inj h
        exact ⟨[], fun others => by simp [unlaid, isInside, hlayout]⟩
      · have hbetween : effect.state = .between := by
          rw [if_neg hlayout] at h
          split at h
          · rw [← Option.some.inj h]
          · split_ifs at h
            rw [← Option.some.inj h]
        refine ⟨[word], fun others => ?_⟩
        rw [hbetween, isInside, unlaid, if_neg Bool.false_ne_true, if_neg hlayout]
        rfl
  | layoutWord =>
      simp only [Qualifiers.effect?] at h
      split_ifs at h with hopening
      obtain rfl := Option.some.inj h
      obtain rfl : word = "(".toList := by simpa [Token.is, bare] using hopening
      exact ⟨[], fun others => rfl⟩
  | arguments pending afterEquals =>
      have hstate : isInside effect.state = decide (word ≠ ")".toList) := by
        have his : ((bare word).is ")" = true) = (word = ")".toList) := by
          rw [Token.is, beq_iff_eq]
          rfl
        rw [Qualifiers.effect?, Option.some.injEq] at h
        simp only [his] at h
        rw [← h]
        split_ifs with hclose
        · exact (decide_eq_false (not_not.2 hclose)).symm
        all_goals exact (decide_eq_true hclose).symm
      exact ⟨[], fun others => by rw [hstate]; rfl⟩

/-- Layout qualifiers are left out along a reading. -/
lemma unlaid_append (h : Qualifiers.steps state qualifiers index read = some (state', qualifiers')) :
    unlaid (isInside state) (read ++ others)
      = unlaid (isInside state) read ++ unlaid (isInside state') others := by
  induction read generalizing state qualifiers index with
  | nil =>
      obtain ⟨rfl, rfl⟩ := Prod.mk.inj (Option.some.inj h)
      rfl
  | cons word read ih =>
      rw [Qualifiers.steps, Option.bind_eq_some_iff] at h
      obtain ⟨⟨next, found⟩, hnext, hsteps⟩ := h
      obtain ⟨effect, heffect, hfound⟩ := Option.map_eq_some_iff.1 hnext
      obtain ⟨rfl, rfl⟩ := Prod.mk.inj hfound
      obtain ⟨kept, hkept⟩ := unlaid_cons heffect
      rw [List.cons_append, hkept, hkept, ih hsteps, List.append_assoc]

/-- Arguments are left out up to the parenthesis that closes them. -/
lemma unlaid_arguments (h : ")".toList ∉ read) :
    unlaid true (read ++ others) = unlaid true others := by
  induction read with
  | nil => rfl
  | cons word read ih =>
      rw [List.mem_cons, not_or] at h
      have hword : decide (word ≠ ")".toList) = true := decide_eq_true (Ne.symm h.1)
      rw [List.cons_append, unlaid, if_pos rfl, hword, ih h.2]

/-- **An argument that is put in is left out.** -/
lemma unlaid_enriched (hargument : ")".toList ∉ argument)
    (hsteps : Qualifiers.steps .between {} 0 read = some (.between, qualifiers))
    (h : Enriched argument qualifiers.layoutOpen read enriched) :
    unlaid false enriched = unlaid false read := by
  cases h with
  | front =>
      show unlaid true (argument ++ ")".toList :: read) = _
      rw [unlaid_arguments hargument]
      rfl
  | inside before after hopening hwords =>
      subst hwords
      obtain ⟨left, right, middle, hcut, hlength, hleft, _⟩ :=
        Qualifiers.exists_layoutOpen rfl hsteps hopening
      obtain ⟨rfl, _⟩ := List.append_inj hcut (by omega)
      have happend (others : List Text) :
          unlaid false (before ++ others) = unlaid false before ++ unlaid true others :=
        unlaid_append hleft
      rw [List.append_assoc, happend, happend, List.cons_append]
      show _ ++ unlaid true (argument ++ ",".toList :: after) = _ ++ unlaid true after
      rw [unlaid_arguments hargument]
      rfl

end Unlaid

/-! ## Statements in pieces -/

section Pieces

variable {lead head declared tail : List Piece} {type : Text} {position : ℕ}

/-- The tokens of a declaration in pieces. -/
lemma tokensFrom_parts (position : ℕ) (head declared : List Piece) (type : Text)
    (hlead : ∀ piece ∈ lead, piece.kind ≠ .token) (htail : ∀ piece ∈ tail, piece.kind ≠ .token) :
    tokensFrom position (lead ++ (head ++ token type :: (declared ++ tail)))
      = tokensFrom (position + (textOf lead).length) head
        ++ { text := type, start := position + (textOf lead).length + (textOf head).length }
        :: tokensFrom (position + (textOf lead).length + (textOf head).length + type.length)
            declared := by
  have hnone : ∀ {pieces : List Piece} {position : ℕ}, (∀ piece ∈ pieces, piece.kind ≠ .token) →
      tokensFrom position pieces = [] :=
    fun hkind => tokensFrom_eq_nil_iff.2 (words_eq_nil_iff.2 hkind)
  rw [tokensFrom_append, tokensFrom_append, tokensFrom_token, tokensFrom_append, hnone hlead,
    hnone htail, List.nil_append, List.append_nil]

/-- What a declaration says before its declarators, and the tokens after that, if its type is the
token after some others. -/
lemma heading_of_tokens {d : InterfaceDeclaration} {before after : List Token} {typeToken : Token}
    (htokens : d.tokens = before ++ typeToken :: after)
    (hindex : d.declaration.typeIndex = before.length) :
    d.heading.qualifiers = unlaid false (before.map Token.text) ∧ d.heading.type = typeToken.text ∧
      d.afterType = after := by
  refine ⟨?_, ?_, ?_⟩
  · rw [InterfaceDeclaration.heading, htokens, hindex, List.take_left]
  · rw [InterfaceDeclaration.heading, InterfaceDeclaration.typeToken, Declaration.typeToken, htokens,
      hindex]
    simp
  · rw [InterfaceDeclaration.afterType, htokens, hindex, ← List.drop_drop, List.drop_left]
    rfl

/-- **The items of a statement in pieces** are what its heading makes of the pieces after the
type. -/
theorem itemsOf_pieces {heading : Heading}
    (hreads : Reads true (lead ++ (head ++ token heading.type :: (declared ++ tail))) [])
    (hlead : ∀ piece ∈ lead, piece.kind ≠ .token) (htail : ∀ piece ∈ tail, piece.kind ≠ .token)
    (hparse : ∀ tokens : List Token,
      tokens.map Token.text = words head ++ heading.type :: words declared →
        ∃ declaration, Declaration.parse? tokens = some declaration ∧
          declaration.typeIndex = (words head).length ∧ declaration.isBlock = heading.isBlock)
    (hqualifiers : unlaid false (words head) = heading.qualifiers) :
    itemsOf (textOf (lead ++ (head ++ token heading.type :: (declared ++ tail))))
      = heading.items (textOf declared) (tokensFrom 0 declared) := by
  have hhead : ∀ position, (tokensFrom position head).map Token.text = words head :=
    fun _ => map_text_tokensFrom
  have hall := tokensFrom_parts 0 head declared heading.type hlead htail
  rw [itemsOf, tokenize, scan_textOf hreads]
  generalize tokensFrom 0 (lead ++ (head ++ token heading.type :: (declared ++ tail))) = tokens
    at hall ⊢
  obtain ⟨declaration, hdeclaration, hindex, hblock⟩ := hparse tokens (by
    rw [hall, List.map_append, List.map_cons, hhead, map_text_tokensFrom])
  obtain ⟨hfirst, htype, hafter⟩ := heading_of_tokens (d := { tokens, declaration }) hall
    (hindex.trans (by rw [← hhead, List.length_map]))
  have hheading : InterfaceDeclaration.heading { tokens, declaration } = heading := by
    rw [hhead, hqualifiers] at hfirst
    exact congr (congr (congrArg Heading.mk hfirst) htype) hblock
  rw [InterfaceDeclaration.ofTokens?, hdeclaration, Option.map_some, Option.elim_some,
    InterfaceDeclaration.items, hheading, hafter]
  refine heading.items_of_slice (slice_eq
    (textOf (lead ++ (head ++ [token heading.type]))) _ (textOf tail) ?_ ?_ rfl)
  · simp
  · simp [token]
    omega

/-- A sign that arguments do not have. -/
lemma Given.sign_not_mem (given : Given) {c : Char} (hc : c = ')' ∨ c = '\x7b') :
    [c] ∉ words given.pieces := by
  have hdigit : isDigit c = false := by
    rcases hc with rfl | rfl <;> decide
  have hnumber (n : ℕ) : [c] ≠ ofNat n := (ofNat_ne_sign hdigit n).symm
  have hlocation : ∀ name ∈ ["location", "=", "set", ",", "binding"], [c] ≠ name.toList := by
    rcases hc with rfl | rfl <;> decide
  simp only [List.forall_mem_cons] at hlocation
  cases given with
  | location n =>
      simp only [pieces, assignment, words_token, words_space, words_nil, List.mem_cons, hnumber,
        hlocation, List.not_mem_nil, or_self, not_false_eq_true]
  | binding n =>
      simp only [pieces, assignment, words_append, words_token, words_space, words_nil,
        List.mem_append, List.mem_cons, hnumber, hlocation, List.not_mem_nil, or_self,
        not_false_eq_true]

/-- Words have a brace with an argument put in if they have one without it. -/
lemma brace_mem_enriched {given : Given} {opening : Option ℕ} {read enriched : List Text}
    (h : Enriched (words given.pieces) opening read enriched) :
    ['\x7b'] ∈ enriched ↔ ['\x7b'] ∈ read := by
  have hnone := given.sign_not_mem (Or.inr rfl)
  cases h with
  | front => simp [hnone]
  | inside before after _ hwords => simp [hwords, hnone]

lemma any_brace_iff {tokens : List Token} :
    tokens.any (·.is "\x7b") = true ↔ ['\x7b'] ∈ tokens.map Token.text := by
  rw [List.any_eq_true, List.mem_map]
  exact exists_congr fun token => and_congr_right fun _ => beq_iff_eq

namespace Anatomy

variable {d : InterfaceDeclaration} {given : Given} {inserted before segment after : List Piece}
  {pieces : List Piece}

/-- The tokens after the type are those of the pieces after it. -/
lemma afterType_eq (h : Anatomy position pieces d lead head declared tail)
    (htokens : d.tokens = tokensFrom position pieces)
    (hparse : Declaration.parse? d.tokens = some d.declaration) :
    d.afterType = tokensFrom d.typeToken.stop declared := by
  have hindex : d.declaration.typeIndex = (words head).length := by
    obtain ⟨first, type, later, _, hcut, _, _, _, _, _, hindex, _⟩ :=
      Declaration.parse?_eq_some_iff.1 hparse
    rw [h.words_head, hcut, hindex, List.take_left, List.length_map]
  have hwords : (tokensFrom (position + (textOf lead).length) head).map Token.text = words head :=
    map_text_tokensFrom
  have hall := tokensFrom_parts position head declared d.typeToken.text h.lead_kind h.tail_kind
  rw [← h.pieces_eq, ← htokens, ← h.span_start, ← h.type_stop] at hall
  exact (heading_of_tokens hall (by rw [hindex, h.span_start, ← hwords, List.length_map])).2.2

/-- The words of a declaration. -/
lemma map_text_tokens (h : Anatomy position pieces d lead head declared tail)
    (htokens : d.tokens = tokensFrom position pieces) :
    d.tokens.map Token.text = words head ++ d.typeToken.text :: words declared := by
  rw [htokens, map_text_tokensFrom, h.pieces_eq, words_append, words_append, words_token,
    words_append, words_eq_nil_iff.2 h.lead_kind, words_eq_nil_iff.2 h.tail_kind, List.nil_append,
    List.append_nil]

/-- A declaration is a block if one of its words is a brace. -/
lemma isBlock_iff (h : Anatomy position pieces d lead head declared tail)
    (htokens : d.tokens = tokensFrom position pieces)
    (hparse : Declaration.parse? d.tokens = some d.declaration) :
    d.declaration.isBlock = true
      ↔ ['\x7b'] ∈ words head ++ d.typeToken.text :: words declared := by
  obtain ⟨_, _, _, _, _, _, _, _, _, _, _, hblock⟩ := Declaration.parse?_eq_some_iff.1 hparse
  rw [hblock, any_brace_iff, h.map_text_tokens htokens]

/-- The items of a declaration are made of its pieces after the type. -/
lemma items_eq {source done : Text} {rest : Text}
    (h : Anatomy done.length pieces d lead head declared tail)
    (hsource : source = done ++ (textOf pieces ++ rest))
    (htokens : d.tokens = tokensFrom done.length pieces)
    (hparse : Declaration.parse? d.tokens = some d.declaration) :
    d.items source = d.heading.items (textOf declared) (tokensFrom 0 declared) := by
  rw [InterfaceDeclaration.items, h.afterType_eq htokens hparse]
  refine d.heading.items_of_slice (slice_eq
    (done ++ textOf (lead ++ (head ++ [token d.typeToken.text]))) _ (textOf tail ++ rest) ?_ ?_ rfl)
  · rw [hsource, h.pieces_eq]
    simp
  · rw [h.type_stop, h.span_start]
    simp only [textOf_append, textOf_cons, textOf_nil, token, List.length_append, List.length_nil]
    omega

/-- **With an argument put in, the heading is the same.** -/
theorem itemsOf_inserted {lead' declared' tail' : List Piece}
    (h : Anatomy position pieces d lead head declared tail)
    (hparse : Declaration.parse? d.tokens = some d.declaration)
    (hinserted : Inserted given d.declaration.layoutOpen head inserted)
    (hreads : Reads true
      (lead' ++ (inserted ++ token d.typeToken.text :: (declared' ++ tail'))) [])
    (hlead : ∀ piece ∈ lead', piece.kind ≠ .token) (htail : ∀ piece ∈ tail', piece.kind ≠ .token)
    (hblock : d.declaration.isBlock = true
      ↔ ['\x7b'] ∈ words head ++ d.typeToken.text :: words declared') :
    itemsOf (textOf (lead' ++ (inserted ++ token d.typeToken.text :: (declared' ++ tail'))))
      = d.heading.items (textOf declared') (tokensFrom 0 declared') := by
  have henriched := hinserted.enriched
  refine @itemsOf_pieces _ _ _ _ d.heading hreads hlead htail (fun tokens hwords => ?_) ?_
  · rw [h.words_head] at henriched
    obtain ⟨other, hother, _, hindex, hbrace, _⟩ :=
      Declaration.exists_parse?_enriched given.argues hparse henriched hwords
    refine ⟨other, hother, hindex, ?_⟩
    rw [← h.words_head] at henriched
    rw [Bool.eq_iff_iff, hbrace, any_brace_iff, hwords, List.mem_append, brace_mem_enriched henriched,
      ← List.mem_append]
    exact hblock.symm
  · obtain ⟨before, type, after, qualifiers, hcut, hsteps, _, _, hopening, _, hindex, _⟩ :=
      Declaration.parse?_eq_some_iff.1 hparse
    have hread : words head = before.map Token.text := by
      rw [h.words_head, hcut, hindex, List.take_left]
    rw [hopening, hread] at henriched
    rw [unlaid_enriched (given.sign_not_mem (Or.inl rfl)) hsteps henriched, ← hread, h.words_head]
    rfl

end Anatomy

end Pieces

end GlBridge.Layout
