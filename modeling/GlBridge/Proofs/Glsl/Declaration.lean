import Mathlib
import GlBridge.Glsl.Declaration

/-!
# Reading declarations

The qualifiers of a declaration are read from the words of its tokens; where the tokens stand only
matters for the spans of declarators.  The reading is a run of a small machine, one step for each
word, and what a declaration says of itself can be traced through the run.

**Words.**  Tokens with the same words declare the same (`parse?_congr`, `text_typeToken_congr`,
`names_congr`).

**Steps.**  `next?` is one step of the reading and `steps` a run.  A declaration is a run of the
words before its type to the state between two qualifiers (`parse?_eq_some_iff`).

**One more argument.**  A run does not look at the arguments it has collected
(`exists_steps_with`), so an argument can be put in by a layout qualifier in front, or after the
parenthesis that opens the last one.  `Enriched` says that words have changed in this way, and the
declaration they make has the argument and the same storage qualifier (`exists_parse?_enriched`).

**Declarators.**  Each declarator is written by consecutive tokens (`Declarator.exists_group`).
-/

namespace GlBridge.Glsl

open Text

/-- A token of which nothing but the word is known. -/
def bare (word : Text) : Token := { text := word, start := 0 }

namespace Qualifiers

/-- What one more word does to the reading. -/
structure Effect where
  state : QualifierState
  /-- The storage qualifier that the word is. -/
  storage : Option Storage := none
  /-- Whether the word opens a layout qualifier. -/
  opens : Bool := false
  /-- The layout argument that the word completes. -/
  collected : List LayoutArgument := []

/-- The effect of a word, if the reading goes on. -/
def effect? (state : QualifierState) (word : Text) : Option Effect :=
  match state with
  | .between =>
    if (bare word).is "layout" then some { state := .layoutWord }
    else
      match Storage.ofToken? (bare word) with
      | some storage => some { state := .between, storage := some storage }
      | none => if auxiliaryQualifiers.contains word then some { state := .between } else none
  | .layoutWord =>
    if (bare word).is "(" then some { state := .arguments none false, opens := true } else none
  | .arguments pending afterEquals =>
    some <|
      if (bare word).is ")" then { state := .between, collected := pending.toList }
      else if (bare word).is "," then
        { state := .arguments none false, collected := pending.toList }
      else if (bare word).is "=" then { state := .arguments pending true }
      else if afterEquals then
        { state := .arguments
            (pending.map fun argument => { argument with value := word32? word }) true }
      else { state := .arguments (some { name := word }) false }

/-- The qualifiers after the word at an index. -/
def after (qualifiers : Qualifiers) (index : ℕ) (effect : Effect) : Qualifiers where
  storage := effect.storage.or qualifiers.storage
  layoutOpen := if effect.opens then some index else qualifiers.layoutOpen
  arguments := qualifiers.arguments ++ effect.collected

/-- The state and the qualifiers after one more word, if the reading goes on. -/
def next? (state : QualifierState) (qualifiers : Qualifiers) (index : ℕ) (word : Text) :
    Option (QualifierState × Qualifiers) :=
  (effect? state word).map fun effect => (effect.state, qualifiers.after index effect)

/-- The state and the qualifiers after some words. -/
def steps (state : QualifierState) (qualifiers : Qualifiers) (index : ℕ) :
    List Text → Option (QualifierState × Qualifiers)
  | [] => some (state, qualifiers)
  | word :: words =>
    (next? state qualifiers index word).bind fun (state, qualifiers) =>
      steps state qualifiers (index + 1) words

variable {state state' : QualifierState} {qualifiers qualifiers' : Qualifiers} {index stop : ℕ}
  {word : Text} {words others : List Text} {tokens : List Token}

lemma read_cons (token : Token) : read state qualifiers index (token :: tokens)
    = match next? state qualifiers index token.text with
      | some (state, qualifiers) => read state qualifiers (index + 1) tokens
      | none => if state = .between then some (qualifiers, index) else none := by
  have hword : ∀ w, token.is w = (bare token.text).is w := fun _ => rfl
  have hstorage : Storage.ofToken? token = Storage.ofToken? (bare token.text) := rfl
  cases state with
  | between =>
      simp only [read, next?, effect?, hword, hstorage]
      by_cases hlayout : (bare token.text).is "layout" = true
      · simp [hlayout, after]
      · cases Storage.ofToken? (bare token.text) with
        | some storage => simp [hlayout, after]
        | none => by_cases hauxiliary : token.text ∈ auxiliaryQualifiers <;>
            simp [hlayout, hauxiliary, after]
  | layoutWord =>
      simp only [read, next?, effect?, hword, reduceCtorEq, if_false]
      split_ifs <;> simp [after]
  | arguments pending afterEquals =>
      simp only [read, next?, effect?, hword]
      split_ifs <;> simp [after, complete]

lemma steps_append : steps state qualifiers index (words ++ others)
    = (steps state qualifiers index words).bind fun (state, qualifiers) =>
        steps state qualifiers (index + words.length) others := by
  induction words generalizing state qualifiers index with
  | nil => rfl
  | cons word words ih =>
      rw [List.cons_append, steps, steps, Option.bind_assoc]
      congr 1
      funext ⟨state, qualifiers⟩
      show steps state qualifiers (index + 1) (words ++ others) = _
      rw [ih, List.length_cons, Nat.add_assoc, Nat.add_comm 1]

lemma steps_append_of_eq (h : steps state qualifiers index words = some (state', qualifiers')) :
    steps state qualifiers index (words ++ others)
      = steps state' qualifiers' (index + words.length) others := by
  rw [steps_append, h]
  rfl

/-- Reading goes on from where a run leads. -/
lemma read_append {rest : List Token}
    (h : steps state qualifiers index (tokens.map Token.text) = some (state', qualifiers')) :
    read state qualifiers index (tokens ++ rest)
      = read state' qualifiers' (index + tokens.length) rest := by
  induction tokens generalizing state qualifiers index with
  | nil =>
      obtain ⟨rfl, rfl⟩ := Prod.mk.inj (Option.some.inj h)
      rfl
  | cons token tokens ih =>
      rw [List.map_cons, steps, Option.bind_eq_some_iff] at h
      obtain ⟨⟨next, found⟩, hnext, hsteps⟩ := h
      rw [List.cons_append, read_cons, hnext]
      show read next found (index + 1) (tokens ++ rest) = _
      rw [ih hsteps, List.length_cons, Nat.add_assoc, Nat.add_comm 1]

/-- What is read are the words of a run to the state between two qualifiers, and no word that goes
on follows. -/
lemma read_eq_some_iff : read state qualifiers index tokens = some (qualifiers', stop) ↔
    ∃ before after, tokens = before ++ after ∧ stop = index + before.length ∧
      steps state qualifiers index (before.map Token.text) = some (.between, qualifiers') ∧
        ∀ token, after.head? = some token → next? .between qualifiers' stop token.text = none := by
  constructor
  · intro h
    induction tokens generalizing state qualifiers index with
    | nil =>
        rw [read] at h
        split_ifs at h with hstate
        obtain ⟨rfl, rfl⟩ := Prod.mk.inj (Option.some.inj h)
        exact ⟨[], [], rfl, rfl, by rw [hstate]; rfl, by simp⟩
    | cons token tokens ih =>
        rw [read_cons] at h
        cases hnext : next? state qualifiers index token.text with
        | none =>
            simp only [hnext] at h
            split_ifs at h with hstate
            obtain ⟨rfl, rfl⟩ := Prod.mk.inj (Option.some.inj h)
            subst hstate
            refine ⟨[], token :: tokens, rfl, rfl, rfl, fun other hother => ?_⟩
            obtain rfl : token = other := by simpa using hother
            exact hnext
        | some found =>
            simp only [hnext] at h
            obtain ⟨before, after, rfl, rfl, hsteps, hafter⟩ := ih h
            refine ⟨token :: before, after, rfl, ?_, ?_, hafter⟩
            · rw [List.length_cons, Nat.add_assoc, Nat.add_comm 1]
            · rw [List.map_cons, steps, hnext]
              exact hsteps
  · rintro ⟨before, after, rfl, rfl, hsteps, hafter⟩
    rw [read_append hsteps]
    cases after with
    | nil => rfl
    | cons token after =>
        rw [read_cons, hafter token rfl]
        rfl

/-- **A run does not look at what it has collected**: it adds a storage qualifier and arguments of
its own, wherever it starts from. -/
lemma exists_steps_with
    (h : steps state qualifiers index words = some (state', qualifiers')) :
    ∃ (found : Option Storage) (collected : List LayoutArgument),
      qualifiers'.storage = found.or qualifiers.storage ∧
      qualifiers'.arguments = qualifiers.arguments ++ collected ∧
        ∀ storage layoutOpen arguments other, ∃ layoutOpen',
          steps state { storage, layoutOpen, arguments } other words
            = some (state', {
                storage := found.or storage
                layoutOpen := layoutOpen'
                arguments := arguments ++ collected }) := by
  induction words generalizing state qualifiers index with
  | nil =>
      obtain ⟨rfl, rfl⟩ := Prod.mk.inj (Option.some.inj h)
      refine ⟨none, [], rfl, (List.append_nil _).symm,
        fun storage layoutOpen arguments other => ⟨layoutOpen, ?_⟩⟩
      rw [List.append_nil]
      rfl
  | cons word words ih =>
      rw [steps, Option.bind_eq_some_iff] at h
      obtain ⟨⟨next, middle⟩, hnext, hsteps⟩ := h
      obtain ⟨effect, heffect, hmiddle⟩ := Option.map_eq_some_iff.1 hnext
      obtain ⟨rfl, rfl⟩ := Prod.mk.inj hmiddle
      obtain ⟨found, later, hstorage, harguments, hwith⟩ := ih hsteps
      refine ⟨found.or effect.storage, effect.collected ++ later, ?_, ?_,
        fun storage layoutOpen arguments other => ?_⟩
      · rw [hstorage, after, Option.or_assoc]
      · rw [harguments, after, List.append_assoc]
      · obtain ⟨layoutOpen', hsteps'⟩ := hwith (effect.storage.or storage)
          (if effect.opens then some other else layoutOpen) (arguments ++ effect.collected)
          (other + 1)
        refine ⟨layoutOpen', ?_⟩
        rw [steps, next?, heffect, Option.or_assoc, ← List.append_assoc]
        exact hsteps'

/-- Only a parenthesis after the word `layout` opens a layout qualifier. -/
lemma eq_of_opens {effect : Effect} (h : effect? state word = some effect)
    (hopens : effect.opens = true) :
    state = .layoutWord ∧ word = "(".toList ∧ effect.state = .arguments none false ∧
      effect.storage = none ∧ effect.collected = [] := by
  cases state with
  | between =>
      simp only [effect?] at h
      split_ifs at h
      · simp [← Option.some.inj h] at hopens
      · split at h <;> simp [← Option.some.inj h] at hopens
      · split at h <;> simp at h
        simp [← h] at hopens
  | layoutWord =>
      simp only [effect?] at h
      split_ifs at h with hword
      obtain rfl := Option.some.inj h
      exact ⟨rfl, by simpa [Token.is, bare] using hword, rfl, rfl, rfl⟩
  | arguments pending afterEquals =>
      simp only [effect?, Option.some.injEq] at h
      split_ifs at h <;> simp [← h] at hopens

/-- The last layout qualifier that is opened. -/
lemma exists_layoutOpen {opening : ℕ} (hnone : qualifiers.layoutOpen = none)
    (h : steps state qualifiers index words = some (state', qualifiers'))
    (hopening : qualifiers'.layoutOpen = some opening) :
    ∃ before after found, words = before ++ "(".toList :: after ∧
      opening = index + before.length ∧
      steps state qualifiers index before = some (.layoutWord, found) ∧
      steps (.arguments none false) { found with layoutOpen := some opening } (opening + 1) after
        = some (state', qualifiers') := by
  induction words using List.reverseRecOn generalizing state' qualifiers' with
  | nil =>
      obtain ⟨rfl, rfl⟩ := Prod.mk.inj (Option.some.inj h)
      rw [hnone] at hopening
      exact absurd hopening (by simp)
  | append_singleton words word ih =>
      rw [steps_append, Option.bind_eq_some_iff] at h
      obtain ⟨⟨middle, found⟩, hwords, hlast⟩ := h
      have hnext : next? middle found (index + words.length) word = some (state', qualifiers') := by
        simpa [steps] using hlast
      obtain ⟨effect, heffect, hfound⟩ := Option.map_eq_some_iff.1 hnext
      obtain ⟨rfl, rfl⟩ := Prod.mk.inj hfound
      cases hopens : effect.opens with
      | true =>
        obtain ⟨rfl, rfl, hstate, hstorage, hcollected⟩ := eq_of_opens heffect hopens
        obtain rfl : index + words.length = opening := by simpa [after, hopens] using hopening
        refine ⟨words, [], found, rfl, rfl, hwords, ?_⟩
        simp [steps, after, hopens, hstate, hstorage, hcollected]
      | false =>
        have hsame : found.layoutOpen = some opening := by simpa [after, hopens] using hopening
        obtain ⟨before, after, start, rfl, hindex, hbefore, hafter⟩ := ih hwords hsame
        refine ⟨before, after ++ [word], start, by simp, hindex, hbefore, ?_⟩
        rw [steps_append_of_eq hafter]
        have hlength : opening + 1 + after.length
            = index + (before ++ "(".toList :: after).length := by
          rw [hindex, List.length_append, List.length_cons]
          omega
        rw [hlength]
        exact hlast

/-- A word that goes on with the qualifiers is made of letters. -/
lemma isWord_of_effect? {effect : Effect} (h : effect? .between word = some effect) :
    word ≠ [] ∧ word.all isWordChar = true := by
  have hqualifier : word ∈ ["layout".toList, "in".toList, "out".toList, "uniform".toList,
      "buffer".toList] ∨ word ∈ auxiliaryQualifiers := by
    simp only [effect?, Storage.ofToken?, Token.is, bare, beq_iff_eq] at h
    simp only [List.mem_cons, List.not_mem_nil, or_false]
    split_ifs at h <;> simp_all
  have hall : ∀ word ∈ ["layout".toList, "in".toList, "out".toList, "uniform".toList,
      "buffer".toList] ++ auxiliaryQualifiers, word ≠ [] ∧ word.all isWordChar = true := by
    decide
  exact hall word (List.mem_append.2 hqualifier)

/-- Words with a storage qualifier among them start with a word of letters. -/
lemma exists_first (hnone : qualifiers.storage = none)
    (h : steps .between qualifiers index words = some (state', qualifiers'))
    (hstorage : qualifiers'.storage ≠ none) :
    ∃ first rest, words = first :: rest ∧ first ≠ [] ∧ first.all isWordChar = true := by
  cases words with
  | nil =>
      obtain ⟨_, rfl⟩ := Prod.mk.inj (Option.some.inj h)
      exact absurd hnone hstorage
  | cons first rest =>
      rw [steps, Option.bind_eq_some_iff] at h
      obtain ⟨_, hnext, _⟩ := h
      obtain ⟨_, heffect, _⟩ := Option.map_eq_some_iff.1 hnext
      exact ⟨first, rest, rfl, isWord_of_effect? heffect⟩

end Qualifiers

open Qualifiers

/-! ## Declarations -/

namespace Declaration

variable {tokens others : List Token} {d : Declaration}

/-- **A declaration is a run of the words before its type.** -/
theorem parse?_eq_some_iff : parse? tokens = some d ↔
    ∃ before type after qualifiers, tokens = before ++ type :: after ∧
      steps .between {} 0 (before.map Token.text) = some (.between, qualifiers) ∧
      effect? .between type.text = none ∧ qualifiers.storage = some d.storage ∧
      d.layoutOpen = qualifiers.layoutOpen ∧ d.layoutArguments = qualifiers.arguments ∧
      d.typeIndex = before.length ∧ d.isBlock = tokens.any (·.is "\x7b") := by
  simp only [parse?, Option.bind_eq_some_iff, Prod.exists, read_eq_some_iff]
  constructor
  · rintro ⟨qualifiers, index, ⟨before, after, rfl, rfl, hsteps, hafter⟩, storage, hstorage, h⟩
    split_ifs at h with hlength
    obtain rfl := Option.some.inj h
    cases after with
    | nil => simp at hlength
    | cons type after =>
        have hnone := hafter type rfl
        rw [next?, Option.map_eq_none_iff] at hnone
        exact ⟨before, type, after, qualifiers, rfl, hsteps, hnone, hstorage, rfl, rfl,
          Nat.zero_add _, rfl⟩
  · rintro ⟨before, type, after, qualifiers, rfl, hsteps, hnone, hstorage, hopen, harguments,
      hindex, hblock⟩
    refine ⟨qualifiers, before.length, ⟨before, type :: after, rfl, (Nat.zero_add _).symm, hsteps,
      fun token htoken => ?_⟩, d.storage, hstorage, ?_⟩
    · obtain rfl : type = token := by simpa using htoken
      rw [next?, hnone]
      rfl
    · rw [if_pos (by simp)]
      cases d
      simp_all

/-- Tokens with the same words have the same type. -/
lemma text_typeToken_congr (declaration : Declaration)
    (h : tokens.map Token.text = others.map Token.text) :
    (declaration.typeToken tokens).text = (declaration.typeToken others).text := by
  have htext : ∀ tokens : List Token, (declaration.typeToken tokens).text
      = (tokens.map Token.text).getD declaration.typeIndex [] := by
    intro tokens
    rw [typeToken, List.getD_eq_getElem?_getD, List.getD_eq_getElem?_getD, List.getElem?_map]
    cases tokens[declaration.typeIndex]? <;> rfl
  rw [htext, htext, h]

/-- Tokens with the same words make the same declaration. -/
theorem parse?_congr (h : tokens.map Token.text = others.map Token.text) :
    parse? tokens = parse? others := by
  have hread : ∀ state qualifiers index,
      read state qualifiers index tokens = read state qualifiers index others := by
    intro state qualifiers index
    induction tokens generalizing others state qualifiers index with
    | nil =>
        obtain rfl : others = [] := List.map_eq_nil_iff.1 h.symm
        rfl
    | cons token tokens ih =>
        cases others with
        | nil => simp at h
        | cons other others =>
            obtain ⟨hword, hrest⟩ := List.cons.inj h
            rw [read_cons, read_cons, hword]
            cases next? state qualifiers index other.text with
            | none => rfl
            | some next => exact ih hrest _ _ _
  have hblock : tokens.any (·.is "\x7b") = others.any (·.is "\x7b") := by
    have hany : ∀ list : List Token, list.any (·.is "\x7b")
        = (list.map Token.text).any (· == "\x7b".toList) := by
      intro list
      rw [List.any_map]
      rfl
    rw [hany, hany, h]
  have hlength : tokens.length = others.length := by
    rw [← List.length_map Token.text, h, List.length_map]
  rw [parse?, parse?, hread, hblock, hlength]

end Declaration

/-! ## One more argument -/

/-- The words of an argument that gives `key` a value, at the start of a layout qualifier.  It is the
last one among what the words say, and the only one that is called so. -/
def Argues (key : String) (value : Option ℕ) (argument : List Text) : Prop :=
  ∃ afterEquals collected,
    steps (.arguments none false) {} 0 argument
        = some (.arguments (some { name := key.toList, value }) afterEquals,
            { arguments := collected }) ∧
      ∀ other ∈ collected, other.name ≠ key.toList

/-- Words with an argument put in: by a layout qualifier of its own, if there is none, or after the
parenthesis that opens the last one. -/
inductive Enriched (argument : List Text) (opening : Option ℕ) (words : List Text) :
    List Text → Prop where
  | front (h : opening = none) :
    Enriched argument opening words ("layout".toList :: "(".toList :: argument ++ ")".toList :: words)
  | inside (before after : List Text) (hopening : opening = some before.length)
    (hwords : words = before ++ "(".toList :: after) :
    Enriched argument opening words (before ++ "(".toList :: argument ++ ",".toList :: after)

/-- The argument of a name among others. -/
def argument? (key : String) (arguments : List LayoutArgument) : Option LayoutArgument :=
  arguments.find? (·.name == key.toList)

variable {key : String} {value : Option ℕ} {argument : List Text}

/-- Reading an argument, and the comma or the parenthesis after it. -/
lemma Argues.steps_append (h : Argues key value argument) (storage : Option Storage)
    (layoutOpen : Option ℕ) (arguments : List LayoutArgument) (index : ℕ) :
    ∃ layoutOpen' extra, argument? key extra = some { name := key.toList, value } ∧
      ∀ others,
        steps (.arguments none false) { storage, layoutOpen, arguments } index
            (argument ++ ",".toList :: others)
          = steps (.arguments none false)
              { storage, layoutOpen := layoutOpen', arguments := arguments ++ extra }
              (index + argument.length + 1) others ∧
        steps (.arguments none false) { storage, layoutOpen, arguments } index
            (argument ++ ")".toList :: others)
          = steps .between { storage, layoutOpen := layoutOpen', arguments := arguments ++ extra }
              (index + argument.length + 1) others := by
  obtain ⟨afterEquals, collected, hsteps, hothers⟩ := h
  obtain ⟨found, added, hstorage, hadded, hwith⟩ := exists_steps_with hsteps
  obtain rfl : found = none := by simpa using hstorage.symm
  obtain rfl : collected = added := hadded
  obtain ⟨layoutOpen', hargument⟩ := hwith storage layoutOpen arguments index
  have hnone : argument? key collected = none :=
    List.find?_eq_none.2 fun other hother => by simpa using hothers other hother
  refine ⟨layoutOpen', collected ++ [{ name := key.toList, value }], ?_, fun others => ⟨?_, ?_⟩⟩
  · rw [argument?] at hnone ⊢
    rw [List.find?_append, hnone, Option.none_or]
    exact List.find?_cons_of_pos (beq_self_eq_true _)
  · rw [steps_append_of_eq hargument, ← List.append_assoc]
    rfl
  · rw [steps_append_of_eq hargument, ← List.append_assoc]
    rfl

/-- **Enriched qualifiers have the argument** somewhere between those from before, and the storage
qualifier from before. -/
theorem exists_steps_enriched {words enriched : List Text} {qualifiers : Qualifiers}
    (hargues : Argues key value argument)
    (hsteps : steps .between {} 0 words = some (.between, qualifiers))
    (henriched : Enriched argument qualifiers.layoutOpen words enriched) :
    ∃ qualifiers', steps .between {} 0 enriched = some (.between, qualifiers') ∧
      qualifiers'.storage = qualifiers.storage ∧
        ∃ left extra right, qualifiers.arguments = left ++ right ∧
          qualifiers'.arguments = left ++ extra ++ right ∧
            argument? key extra = some { name := key.toList, value } := by
  cases henriched with
  | front =>
      obtain ⟨layoutOpen, extra, hextra, hargument⟩ := hargues.steps_append none (some 1) [] 2
      obtain ⟨found, collected, hstorage, hcollected, hwith⟩ := exists_steps_with hsteps
      obtain ⟨layoutOpen', hwords⟩ := hwith none layoutOpen ([] ++ extra) (2 + argument.length + 1)
      exact ⟨_, ((hargument words).2).trans hwords, hstorage.symm, [], extra, collected, hcollected,
        rfl, hextra⟩
  | inside before after hopening hwords =>
      subst hwords
      obtain ⟨left, right, middle, hcut, hlength, hleft, hright⟩ :=
        exists_layoutOpen rfl hsteps hopening
      obtain ⟨rfl, hright'⟩ := List.append_inj hcut (by omega)
      obtain rfl : after = right := List.tail_eq_of_cons_eq hright'
      obtain ⟨layoutOpen, extra, hextra, hargument⟩ :=
        hargues.steps_append middle.storage (some (0 + before.length)) middle.arguments
          (0 + before.length + 1)
      obtain ⟨found, collected, hstorage, hcollected, hwith⟩ := exists_steps_with hright
      obtain ⟨layoutOpen', hafter⟩ := hwith middle.storage layoutOpen (middle.arguments ++ extra)
        (0 + before.length + 1 + argument.length + 1)
      have hopen : steps .layoutWord middle (0 + before.length)
            ("(".toList :: (argument ++ ",".toList :: after))
          = steps (.arguments none false)
              { middle with layoutOpen := some (0 + before.length), arguments := middle.arguments ++ [] }
              (0 + before.length + 1) (argument ++ ",".toList :: after) := rfl
      rw [List.append_nil] at hopen
      refine ⟨{
        storage := found.or middle.storage
        layoutOpen := layoutOpen'
        arguments := middle.arguments ++ extra ++ collected }, ?_, hstorage.symm,
        middle.arguments, extra, collected, hcollected, rfl, hextra⟩
      rw [List.append_assoc, List.cons_append, steps_append_of_eq hleft, hopen]
      exact ((hargument after).1).trans hafter

namespace Declaration

/-- **A declaration with enriched qualifiers** is one with the same storage qualifier that has the
argument.  If it had none of that name before, it has the value that the argument gives. -/
theorem exists_parse?_enriched {tokens others : List Token} {d : Declaration} {head : List Text}
    {rest : List Text} (hargues : Argues key value argument) (h : parse? tokens = some d)
    (henriched : Enriched argument d.layoutOpen ((tokens.take d.typeIndex).map Token.text) head)
    (hwords : others.map Token.text = head ++ (d.typeToken tokens).text :: rest) :
    ∃ other, parse? others = some other ∧ other.storage = d.storage ∧
      other.typeIndex = head.length ∧ other.isBlock = others.any (·.is "\x7b") ∧
        (other.layoutValue key).isSome = true ∧
          (d.layoutValue key = none → other.layoutValue key = some value) := by
  obtain ⟨before, type, after, qualifiers, rfl, hsteps, hnone, hstorage, hopen, harguments, hindex,
    _⟩ := parse?_eq_some_iff.1 h
  rw [hindex, List.take_left] at henriched
  rw [hopen] at henriched
  obtain ⟨found, hfound, hsame, left, extra, right, hbefore, hafter, hextra⟩ :=
    exists_steps_enriched hargues hsteps henriched
  have htype : d.typeToken (before ++ type :: after) = type := by
    rw [typeToken, hindex]
    simp
  rw [htype] at hwords
  -- the enriched words up to the type are what the other declaration is read from
  obtain ⟨before', rest', rfl, hbefore', hrest'⟩ := List.map_eq_append_iff.1 hwords
  obtain ⟨type', after', rfl, htype', _⟩ := List.map_eq_cons_iff.1 hrest'
  have hparse : parse? (before' ++ type' :: after') = some {
      storage := d.storage
      layoutOpen := found.layoutOpen
      layoutArguments := found.arguments
      typeIndex := before'.length
      isBlock := (before' ++ type' :: after').any (·.is "\x7b") } := by
    refine parse?_eq_some_iff.2 ⟨before', type', after', found, rfl, ?_, ?_, hsame.trans hstorage,
      rfl, rfl, rfl, rfl⟩
    · rw [hbefore']
      exact hfound
    · rw [htype']
      exact hnone
  refine ⟨_, hparse, rfl, ?_, rfl, ?_, fun hvalue => ?_⟩
  · rw [← hbefore', List.length_map]
  · rw [layoutValue, Option.isSome_map, List.find?_isSome]
    refine ⟨{ name := key.toList, value }, ?_, beq_self_eq_true key.toList⟩
    rw [hafter]
    exact List.mem_append_left _ (List.mem_append_right _ (List.mem_of_find?_eq_some hextra))
  · rw [layoutValue, Option.map_eq_none_iff, harguments, hbefore, List.find?_append,
      Option.or_eq_none_iff] at hvalue
    rw [argument?] at hextra
    rw [layoutValue, hafter, List.find?_append, List.find?_append, hvalue.1, hextra]
    rfl

end Declaration

/-! ## Declarators -/

namespace Declarator

variable {tokens others group : List Token} {nesting : ℤ}

/-- A group of tokens is a part of the tokens. -/
lemma exists_of_mem_groups {read : List Token} (h : group ∈ groups nesting read tokens) :
    ∃ before after, read.reverse ++ tokens = before ++ group ++ after := by
  induction tokens generalizing nesting read with
  | nil =>
      obtain rfl : group = read.reverse := by simpa [groups] using h
      exact ⟨[], [], rfl⟩
  | cons token tokens ih =>
      simp only [groups] at h
      split_ifs at h
      · rcases List.mem_cons.1 h with rfl | h
        · exact ⟨[], token :: tokens, rfl⟩
        · obtain ⟨before, after, hcut⟩ := ih h
          refine ⟨read.reverse ++ token :: before, after, ?_⟩
          rw [List.reverse_nil, List.nil_append] at hcut
          rw [hcut]
          simp
      · obtain ⟨before, after, hcut⟩ := ih h
        refine ⟨before, after, ?_⟩
        rw [← hcut, List.reverse_cons, List.append_assoc, List.singleton_append]

/-- The groups are parts of the tokens. -/
lemma sublist_of_mem_groups (h : group ∈ groups 0 [] tokens) : group.Sublist tokens := by
  obtain ⟨before, after, hcut⟩ := exists_of_mem_groups h
  rw [List.reverse_nil, List.nil_append] at hcut
  rw [hcut]
  exact (List.sublist_append_right before group).trans (List.sublist_append_left _ after)

/-- A declarator reaches from the token that is its name to the last one of its group. -/
lemma ends_of_ofGroup? {x : Declarator} (h : ofGroup? group = some x) :
    ∃ name last, group.head? = some name ∧ group.getLast? = some last ∧ x.name = name.text ∧
      x.span = { start := name.start, stop := last.stop } := by
  cases group with
  | nil => simp [ofGroup?] at h
  | cons name afterName =>
      obtain rfl := Option.some.inj h
      exact ⟨name, _, rfl, List.getLast?_eq_some_getLast (List.cons_ne_nil _ _), rfl, rfl⟩

/-- **A declarator is written by a group**, which are consecutive tokens from its name on. -/
theorem exists_group {x : Declarator} (h : x ∈ parse tokens) :
    ∃ before group after first last, tokens = before ++ group ++ after ∧
      group ∈ groups 0 [] tokens ∧ ofGroup? group = some x ∧
        group.head? = some first ∧ group.getLast? = some last ∧
          x.span = { start := first.start, stop := last.stop } := by
  obtain ⟨group, hgroup, hx⟩ := List.mem_filterMap.1 h
  obtain ⟨before, after, hcut⟩ := exists_of_mem_groups hgroup
  obtain ⟨name, last, hname, hlast, _, hspan⟩ := ends_of_ofGroup? hx
  exact ⟨before, group, after, name, last, hcut, hgroup, hx, hname, hlast, hspan⟩

lemma map_groups_congr {read given : List Token} (hread : read.map Token.text = given.map Token.text)
    (h : tokens.map Token.text = others.map Token.text) :
    (groups nesting read tokens).map (List.map Token.text)
      = (groups nesting given others).map (List.map Token.text) := by
  induction tokens generalizing others nesting read given with
  | nil =>
      obtain rfl : others = [] := List.map_eq_nil_iff.1 h.symm
      simp only [groups, List.map_cons, List.map_nil, List.map_reverse, hread]
  | cons token tokens ih =>
      cases others with
      | nil => simp at h
      | cons other others =>
          obtain ⟨hword, hrest⟩ := List.cons.inj h
          have his : ∀ w, token.is w = other.is w := fun w => by rw [Token.is, Token.is, hword]
          have hstep : nestingStep token = nestingStep other := by
            simp only [nestingStep, his]
          simp only [groups, hstep, his]
          split_ifs
          · rw [List.map_cons, List.map_cons, List.map_reverse, List.map_reverse, hread,
              ih rfl hrest]
          · exact ih (by rw [List.map_cons, List.map_cons, hword, hread]) hrest

/-- Tokens with the same words declare the same names. -/
theorem names_congr (h : tokens.map Token.text = others.map Token.text) :
    (parse tokens).map name = (parse others).map name := by
  have hnames : ∀ tokens, (parse tokens).map name
      = ((groups 0 [] tokens).map (List.map Token.text)).filterMap List.head? := by
    intro tokens
    rw [parse, List.map_filterMap, List.filterMap_map]
    congr 1
    funext group
    cases group <;> rfl
  rw [hnames, hnames, map_groups_congr rfl h]

end Declarator

end GlBridge.Glsl
