import GlBridge.Program.Objects
import GlBridge.Proofs.Text.Encoding

/-!
# What the key of a program says

A program is kept in the cache under the digest of its sources, one after the other.  So the key
says what the sources read like together, and no more: neither where one ends and the next one
starts, nor for which stages they are.

* `joinedSources` — the sources of a program's shaders in one text;
* `programKey?_eq_some_iff` — which programs have a key, and which one;
* **`programKey?_eq_iff_joinedSources`** — among messages without a collision, two programs have
  one key exactly if their joined sources are the same;
* `programKey?_regrouped` — three programs of different shaders that have one key all the same.
-/

namespace GlBridge

open Text

namespace ShaderObjects

/-! ## Joined sources -/

/-- The sources of a program's shaders, one after the other in the order they are attached. -/
def joinedSources (objects : ShaderObjects) (program : ℕ) : Text :=
  ((objects.attached program).filterMap objects.source?).flatten

lemma flatten_map_encode (sources : List Text) :
    (sources.map encode).flatten = encode sources.flatten := by
  induction sources with
  | nil => rfl
  | cons source sources ih =>
      rw [List.map_cons, List.flatten_cons, List.flatten_cons, ih, encode, encode, encode,
        List.flatMap_append]

/-- Collecting values that are all there leaves none out. -/
lemma mapM_eq_some_iff {α β : Type} {f : α → Option β} {as : List α} {bs : List β} :
    as.mapM f = some bs ↔ (∀ a ∈ as, (f a).isSome) ∧ bs = as.filterMap f := by
  induction as generalizing bs with
  | nil =>
      rw [List.mapM_nil, List.filterMap_nil, Option.pure_def, Option.some.injEq]
      constructor
      · rintro rfl
        exact ⟨fun a ha => absurd ha List.not_mem_nil, rfl⟩
      · rintro ⟨_, rfl⟩
        rfl
  | cons a as ih =>
      rw [List.mapM_cons]
      cases ha : f a with
      | none => simp [ha]
      | some b =>
          simp only [Option.bind_eq_bind, Option.bind_some, Option.bind_eq_some_iff, ih,
            Option.pure_def, Option.some.injEq, List.forall_mem_cons, ha, Option.isSome_some,
            true_and, List.filterMap_cons_some ha]
          constructor
          · rintro ⟨_, ⟨hsome, rfl⟩, rfl⟩
            exact ⟨hsome, rfl⟩
          · rintro ⟨hsome, rfl⟩
            exact ⟨_, ⟨hsome, rfl⟩, rfl⟩

/-- **The key of a program** is the digest of its joined sources, if it has shaders and their
sources are known. -/
theorem programKey?_eq_some_iff {objects : ShaderObjects} {program : ℕ} {key : Digest} :
    objects.programKey? program = some key ↔ objects.attached program ≠ [] ∧
      (∀ shader ∈ objects.attached program, (objects.source? shader).isSome) ∧
        key = Digest.ofBytes (encode (objects.joinedSources program)) := by
  unfold programKey?
  by_cases hnone : objects.attached program = []
  · simp [hnone]
  · simp only [if_neg hnone, Option.map_eq_some_iff, mapM_eq_some_iff]
    rw [joinedSources, ← flatten_map_encode, ← Digest.ofParts]
    constructor
    · rintro ⟨_, ⟨hsome, rfl⟩, rfl⟩
      exact ⟨hnone, hsome, rfl⟩
    · rintro ⟨_, hsome, rfl⟩
      exact ⟨_, ⟨hsome, rfl⟩, rfl⟩

/-! ## Equal keys -/

/-- What is hashed for a program. -/
def keyMessage (objects : ShaderObjects) (program : ℕ) : Bytes :=
  encode (objects.joinedSources program)

/-- **Programs have one key exactly if their joined sources are the same**, as long as the digest
has no collision among the messages that are hashed. -/
theorem programKey?_eq_iff_joinedSources {objects others : ShaderObjects} {p q : ℕ}
    {key other : Digest} {messages : Set Bytes} (hfree : Set.InjOn Digest.ofBytes messages)
    (hmessage : objects.keyMessage p ∈ messages) (hmessage' : others.keyMessage q ∈ messages)
    (hp : objects.programKey? p = some key) (hq : others.programKey? q = some other) :
    key = other ↔ objects.joinedSources p = others.joinedSources q := by
  obtain ⟨_, _, rfl⟩ := programKey?_eq_some_iff.1 hp
  obtain ⟨_, _, rfl⟩ := programKey?_eq_some_iff.1 hq
  constructor
  · intro hkeys
    exact encode_injective (hfree hmessage hmessage' hkeys)
  · intro hjoined
    rw [hjoined]

/-! ## Other shaders under one key -/

/-- The records that calls can lead to. -/
inductive Reachable : ShaderObjects → Prop where
  | start : Reachable {}
  | createShader {objects : ShaderObjects} (h : Reachable objects) (shader : ℕ) (stage : Stage) :
      Reachable (objects.createShader shader stage)
  | setSource {objects : ShaderObjects} (h : Reachable objects) (shader : ℕ) (source : Text) :
      Reachable (objects.setSource shader source)
  | deleteShader {objects : ShaderObjects} (h : Reachable objects) (shader : ℕ) :
      Reachable (objects.deleteShader shader)
  | createProgram {objects : ShaderObjects} (h : Reachable objects) (program : ℕ) :
      Reachable (objects.createProgram program)
  | attach {objects : ShaderObjects} (h : Reachable objects) (program shader : ℕ) :
      Reachable (objects.attach program shader)
  | detach {objects : ShaderObjects} (h : Reachable objects) (program shader : ℕ) :
      Reachable (objects.detach program shader)
  | deleteProgram {objects : ShaderObjects} (h : Reachable objects) (program : ℕ) :
      Reachable (objects.deleteProgram program)

/-- The records with a new shader of the given source, attached to a program. -/
def attachNew (objects : ShaderObjects) (program shader : ℕ) (stage : Stage) (source : Text) :
    ShaderObjects :=
  ((objects.createShader shader stage).setSource shader source).attach program shader

lemma Reachable.attachNew {objects : ShaderObjects} (h : objects.Reachable) (program shader : ℕ)
    (stage : Stage) (source : Text) :
    (objects.attachNew program shader stage source).Reachable :=
  ((h.createShader shader stage).setSource shader source).attach program shader

/-- Three programs of two shaders each.  The sources of the second one are cut at another place,
and those of the third one are for other stages. -/
def regrouped : ShaderObjects :=
  ((((((ShaderObjects.mk [] []).attachNew 1 10 .vertex "ab".toList).attachNew 1 11 .fragment
    "c".toList).attachNew 2 20 .vertex "a".toList).attachNew 2 21 .fragment "bc".toList).attachNew
      3 30 .fragment "ab".toList).attachNew 3 31 .vertex "c".toList

/-- What is known of them: their shaders have sources, which read the same together. -/
lemma regrouped_sources : ∀ program ∈ [1, 2, 3], regrouped.attached program ≠ [] ∧
    (∀ shader ∈ regrouped.attached program, (regrouped.source? shader).isSome) ∧
      regrouped.joinedSources program = "abc".toList := by
  decide

lemma regrouped_key {program : ℕ} (hprogram : program ∈ [1, 2, 3]) :
    regrouped.programKey? program = some (Digest.ofBytes (encode "abc".toList)) := by
  obtain ⟨hattached, hknown, hjoined⟩ := regrouped_sources program hprogram
  exact programKey?_eq_some_iff.2 ⟨hattached, hknown, by rw [hjoined]⟩

lemma regrouped_message {program : ℕ} (hprogram : program ∈ [1, 2, 3]) :
    regrouped.keyMessage program = encode "abc".toList := by
  rw [keyMessage, (regrouped_sources program hprogram).2.2]

/-- The first two programs have one key, and their joined sources are the same. -/
theorem programKey?_eq_iff_joinedSources_regrouped :
    ∃ (key other : Digest) (messages : Set Bytes), Set.InjOn Digest.ofBytes messages ∧
      regrouped.keyMessage 1 ∈ messages ∧ regrouped.keyMessage 2 ∈ messages ∧
      regrouped.programKey? 1 = some key ∧ regrouped.programKey? 2 = some other ∧
      key = other ∧ (key = other ↔ regrouped.joinedSources 1 = regrouped.joinedSources 2) := by
  have hfree : Set.InjOn Digest.ofBytes {encode "abc".toList} := Set.injOn_singleton _ _
  have hfirst : regrouped.keyMessage 1 ∈ ({encode "abc".toList} : Set Bytes) :=
    regrouped_message (by simp)
  have hsecond : regrouped.keyMessage 2 ∈ ({encode "abc".toList} : Set Bytes) :=
    regrouped_message (by simp)
  exact ⟨_, _, _, hfree, hfirst, hsecond, regrouped_key (by simp), regrouped_key (by simp), rfl,
    programKey?_eq_iff_joinedSources hfree hfirst hsecond (regrouped_key (by simp))
      (regrouped_key (by simp))⟩

/-- **Different shaders can have one key**, without any collision: the programs are made of
different sources or stages, and what is hashed for them is the same. -/
theorem programKey?_regrouped :
    regrouped.Reachable ∧ (∃ key, ∀ program ∈ [1, 2, 3], regrouped.programKey? program = some key) ∧
      Set.InjOn Digest.ofBytes {regrouped.keyMessage 1, regrouped.keyMessage 2,
        regrouped.keyMessage 3} ∧
      (regrouped.attached 1).map regrouped.shader? ≠ (regrouped.attached 2).map regrouped.shader? ∧
      (regrouped.attached 1).map regrouped.shader?
        ≠ (regrouped.attached 3).map regrouped.shader? := by
  have hreachable : regrouped.Reachable :=
    (((((Reachable.start.attachNew _ _ _ _).attachNew _ _ _ _).attachNew _ _ _ _).attachNew
      _ _ _ _).attachNew _ _ _ _).attachNew _ _ _ _
  refine ⟨hreachable, ⟨_, fun program hprogram => regrouped_key hprogram⟩, ?_, by decide,
    by decide⟩
  rw [regrouped_message (by simp), regrouped_message (by simp), regrouped_message (by simp),
    Set.pair_eq_singleton, Set.pair_eq_singleton]
  exact Set.injOn_singleton _ _

end ShaderObjects
end GlBridge
