import GlBridge.Proofs.Entries
import GlBridge.Proofs.Gl.Bindings

/-!
# The target that a texture is known by

Calls on textures by name work on the target that is remembered for the texture.  Making and binding
a texture record a target for its name, deleting it forgets what was recorded, and the name may come
again.

**Marks.**  `TextureRequest.marks` is what a call records and deletes, of names that the application
passes or that it gets.  `targetsSince` are the targets that have been recorded for a name since it
was last deleted, in order.

**Which of them is known.**  Each record takes the place of the one before it, whatever the driver
makes of the call.  So it is the last one that is known, and the first one only where the two are the
same (**`target?_eq_first_iff`**).  A texture that was made for one target is worked on at another
one after an attempt to bind it there (`first_target_forgotten`).
-/

namespace GlBridge.Gl

open Enumerant

variable {σ : Type}

/-! ## Marks -/

/-- What happens to the name of a texture. -/
inductive Mark where
  | recorded (texture target : ℕ)
  | deleted (texture : ℕ)
deriving DecidableEq, Repr

namespace Mark

/-- What is remembered after a mark. -/
def apply (targets : TextureTargets) : Mark → TextureTargets
  | recorded texture target => targets.record texture target
  | deleted texture => targets.remove texture

/-- The targets recorded for a texture since it was last deleted, after one more mark. -/
def note (texture : ℕ) (since : List ℕ) : Mark → List ℕ
  | recorded other target => if texture = other then since ++ [target] else since
  | deleted other => if texture = other then [] else since

end Mark

/-- The targets recorded for a texture since it was last deleted, in order. -/
def targetsSince (texture : ℕ) (marks : List Mark) : List ℕ := marks.foldl (Mark.note texture) []

namespace TextureTargets

lemma target?_remove (targets : TextureTargets) (removed texture : ℕ) :
    (targets.remove removed).target? texture
      = if texture = removed then none else targets.target? texture :=
  lookup_filter_ne targets removed texture

lemma target?_record (targets : TextureTargets) {recorded : ℕ} (hrecorded : recorded ≠ 0)
    (target texture : ℕ) :
    (targets.record recorded target).target? texture
      = if texture = recorded then some target else targets.target? texture := by
  rw [record, if_neg hrecorded]
  exact lookup_insert targets recorded texture target

/-- **What is known after marks**: of texture 0 nothing, and of any other one the last target that
was recorded. -/
theorem target?_foldl_apply (marks : List Mark) (texture : ℕ) :
    (marks.foldl Mark.apply []).target? texture
      = if texture = 0 then none else (targetsSince texture marks).getLast? := by
  induction marks using List.reverseRecOn with
  | nil => split_ifs <;> rfl
  | append_singleton marks mark ih =>
      rw [List.foldl_concat, targetsSince, List.foldl_concat, ← targetsSince]
      cases mark with
      | recorded other target =>
          rw [Mark.apply, Mark.note]
          by_cases hother : other = 0
          · -- Nothing is remembered, and the names that something is known of are not this one.
            rw [record, if_pos hother, ih]
            by_cases htexture : texture = 0
            · rw [if_pos htexture, if_pos htexture]
            · rw [if_neg htexture, if_neg htexture, if_neg (by rwa [hother])]
          · rw [target?_record _ hother, ih]
            by_cases htexture : texture = other
            · rw [if_pos htexture, if_pos htexture, if_neg (by rwa [htexture]),
                List.getLast?_concat]
            · rw [if_neg htexture, if_neg htexture]
      | deleted other =>
          rw [Mark.apply, Mark.note, target?_remove, ih]
          by_cases htexture : texture = other
          · rw [if_pos htexture, if_pos htexture, List.getLast?_nil, ite_self]
          · rw [if_neg htexture, if_neg htexture]

end TextureTargets

/-! ## Requests -/

/-- A call that makes, binds or deletes textures. -/
inductive TextureRequest where
  | bind (target texture : ℕ)
  | generate (count : Int) (stored : Bool)
  | create (target : ℕ) (count : Int) (stored : Bool)
  | delete (count : Int) (textures : Option (List ℕ))

/-- The handles that a reply writes where an argument points. -/
def Reply.handlesAt (reply : Reply) (index : ℕ) : List ℕ :=
  ((reply.written.lookup index).getD []).map Int.toNat

lemma Reply.handlesAt_handles (index : ℕ) (handles : List ℕ) :
    (Reply.handles index handles).handlesAt index = handles := by
  simp [Reply.handles, Reply.handlesAt, Function.comp_def]

namespace TextureRequest

/-- How a request is carried out. -/
def perform (driver : Driver σ) : TextureRequest → EntryM σ Reply
  | bind target texture => do
    bindTexture driver target texture
    return {}
  | generate count stored => runNative do
    let textures : List ℕ ← call driver (.genTextures count stored)
    return .handles 1 textures
  | create target count stored => do
    return .handles 2 (← createTextures driver target count stored)
  | delete count textures => do
    if let some textures := textures then deleteTextures driver count textures
    return {}

/-- The entry points that make, bind and delete textures, each with the request that its arguments
make. -/
def readers : List (String × (Arguments → TextureRequest)) :=
  [ ("glBindTexture", fun a => .bind (a.nat 0) (a.nat 1)),
    ("glGenTextures", fun a => .generate (a.int 0) (a.isStored 1)),
    ("glCreateTextures", fun a => .create (a.nat 0) (a.int 1) (a.isStored 2)),
    ("glDeleteTextures", fun a => .delete (a.int 0) (a.nats? 1 (a.int 0))) ]

/-- An entry point that carries out a request. -/
def entryPoint (reader : String × (Arguments → TextureRequest)) : EntryPoint :=
  EntryPoint.stateful reader.1 fun driver a => (reader.2 a).perform driver

/-- **The entry points that make, bind and delete textures carry out requests**, and nothing else. -/
theorem entryPoints_prefix : readers.map entryPoint <+: textureEntryPoints :=
  ⟨textureEntryPoints.drop 4, rfl⟩

/-- What a request does to names, given the reply to it. -/
def marks (reply : Reply) : TextureRequest → List Mark
  | bind target texture => [.recorded texture target]
  | generate _ _ => []
  | create target _ _ => (reply.handlesAt 2).map fun texture => .recorded texture target
  | delete _ textures => (textures.getD []).map .deleted

/-- **A request is always answered**, and what is remembered follows its marks. -/
theorem perform_marks (driver : Driver σ) (request : TextureRequest) (world : World σ) :
    ∃ reply native, (request.perform driver).run world = .ok (reply, { world with
      textures := (request.marks reply).foldl Mark.apply world.textures, native }) := by
  cases request with
  | bind target texture => exact ⟨{}, _, rfl⟩
  | generate count stored => exact ⟨_, _, rfl⟩
  | create target count stored =>
      let textures : List ℕ := (driver.answer (.genTextures count stored) world.native).1
      refine ⟨.handles 2 textures, (driver.answer (.genTextures count stored) world.native).2, ?_⟩
      rw [marks, Reply.handlesAt_handles, List.foldl_map]
      rfl
  | delete count textures =>
      refine ⟨{}, (textures.map fun textures =>
        (driver.answer (.deleteTextures count (some textures)) world.native).2).getD world.native, ?_⟩
      cases textures with
      | none => rfl
      | some textures =>
          rw [marks, Option.getD_some, List.foldl_map]
          rfl

/-- What requests do to names, given the replies to them. -/
def allMarks (requests : List TextureRequest) (replies : List Reply) : List Mark :=
  (List.zipWith (fun request reply => request.marks reply) requests replies).flatten

/-- **Requests are always answered**, and what is remembered follows their marks. -/
theorem mapM_perform_marks (driver : Driver σ) (requests : List TextureRequest) (world : World σ) :
    ∃ replies native, (requests.mapM (perform driver)).run world = .ok (replies, { world with
        textures := (allMarks requests replies).foldl Mark.apply world.textures, native }) ∧
      replies.length = requests.length := by
  induction requests generalizing world with
  | nil => exact ⟨[], world.native, rfl, rfl⟩
  | cons request requests ih =>
      obtain ⟨reply, between, hrequest⟩ := perform_marks driver request world
      obtain ⟨replies, native, hrequests, hlength⟩ := ih { world with
        textures := (request.marks reply).foldl Mark.apply world.textures, native := between }
      refine ⟨reply :: replies, native, ?_, congrArg Nat.succ hlength⟩
      rw [List.mapM_cons, StateT.run_bind, hrequest, allMarks, List.zipWith_cons_cons,
        List.flatten_cons, List.foldl_append]
      show (requests.mapM (perform driver) >>= fun replies => pure (reply :: replies)).run _ = _
      rw [StateT.run_bind, hrequests]
      rfl

end TextureRequest

/-! ## The result -/

/-- **The last target is known, not the first one.**  However textures are made, bound and deleted,
all calls are answered.  Afterwards no target is known for texture 0, and for any other texture the
last one that was recorded since the texture was last deleted, if any.  So it is the first one that
is known only where the last one is the same. -/
theorem target?_eq_first_iff (driver : Driver σ) (world : World σ)
    (requests : List TextureRequest) :
    ∃ replies world', (requests.mapM (TextureRequest.perform driver)).run
        { world with textures := [] } = .ok (replies, world') ∧
      replies.length = requests.length ∧
      ∀ texture, let since := targetsSince texture (TextureRequest.allMarks requests replies)
        world'.textures.target? texture = (if texture = 0 then none else since.getLast?) ∧
          (world'.textures.target? texture = (if texture = 0 then none else since.head?) ↔
            texture ≠ 0 → since.getLast? = since.head?) := by
  obtain ⟨replies, native, hrun, hlength⟩ :=
    TextureRequest.mapM_perform_marks driver requests { world with textures := [] }
  refine ⟨replies, _, hrun, hlength, ?_⟩
  intro texture
  have hknown := TextureTargets.target?_foldl_apply (TextureRequest.allMarks requests replies) texture
  refine ⟨hknown, ?_⟩
  rw [hknown]
  by_cases htexture : texture = 0
  · simp [htexture]
  · simp [htexture]

/-- A cube map texture that is made, then bound to the two-dimensional target. -/
def misbinding : List TextureRequest :=
  [.create textureCubeMap 1 true, .bind texture2D 1]

/-- **The first target is forgotten.**  After an attempt to bind it elsewhere, calls by name work on
a cube map texture at the two-dimensional target. -/
theorem first_target_forgotten :
    ∃ replies world', (misbinding.mapM (TextureRequest.perform ScriptedNative.driver)).run
        { shaders := { translator := { mode := .full } }, native := {} } = .ok (replies, world') ∧
      (targetsSince 1 (TextureRequest.allMarks misbinding replies)).head? = some textureCubeMap ∧
      world'.textures.target? 1 = some texture2D ∧
      (DirectRequest.onTexture "TexParameteri".toList 1 [.int 10241, .int 9728]).operation
          world'.textures false
        = .onTexture "TexParameteri".toList texture2D [.int 10241, .int 9728] :=
  ⟨_, _, rfl, rfl, rfl, rfl⟩

end GlBridge.Gl
