import Mathlib.Logic.Function.Basic
import GlBridge.Gl.Script
import GlBridge.Proofs.Gl.Running
import GlBridge.Proofs.Layout.Slots

/-!
# Access by name leaves bindings alone

The desktop's calls on textures and buffers by name are made from calls on what is bound.  What was
bound before has to be bound again afterwards, since the application knows nothing of it.

**A driver with bindings.**  `Driver.bound` knows the active unit, the texture bound to each target
of each unit, and the buffer bound to each target.  It says which target a query is about
(`queriedTargets`), as the embedded language does, and accepts all units, targets and names.  Every
other call is an operation; it is written down with the bindings at its time.

**Brackets.**  A bracket asks what is bound, binds an object, works and binds again
(`withTextureBound_ends`, `withBuffer_ends`).  It restores the bindings if the query is about the
target that is bound to, which is where the bridge's mappings of targets have to agree with each
other and with the driver (`told?_bindingQuery`).

The main result is **`direct_access_keeps_bindings`**, for every driver below and all arguments.
-/

namespace GlBridge.Gl

open Enumerant

/-! ## Bindings -/

/-- The active unit, the textures that are bound to the targets of each unit, and the buffers that
are bound to targets. -/
structure Bindings where
  active : UInt32
  texture : UInt32 → ℕ → UInt32
  buffer : ℕ → UInt32

/-- The queries for the texture bound to a target of the active unit, with the target. -/
def queriedTargets : List (ℕ × ℕ) :=
  [(textureBinding2D, texture2D), (textureBinding3D, texture3D),
    (textureBindingCubeMap, textureCubeMap), (textureBinding2DArray, texture2DArray),
    (textureBindingBuffer, textureBuffer), (textureBindingCubeMapArray, textureCubeMapArray),
    (textureBinding2DMultisample, texture2DMultisample),
    (textureBinding2DMultisampleArray, texture2DMultisampleArray)]

namespace Bindings

/-- The answer to a query about bindings. -/
def told? (bindings : Bindings) (query : ℕ) : Option UInt32 :=
  if query = activeTexture then some bindings.active
  else if query = copyReadBuffer ∨ query = copyWriteBuffer then some (bindings.buffer query)
  else (queriedTargets.lookup query).map (bindings.texture bindings.active)

/-- Binding a texture to a target of the active unit. -/
def bindTexture (bindings : Bindings) (target : ℕ) (texture : UInt32) : Bindings :=
  let unit := Function.update (bindings.texture bindings.active) target texture
  { bindings with texture := Function.update bindings.texture bindings.active unit }

/-- Binding a buffer to a target. -/
def bindBuffer (bindings : Bindings) (target : ℕ) (buffer : UInt32) : Bindings :=
  { bindings with buffer := Function.update bindings.buffer target buffer }

/-- The objects that a call works on: those bound to the targets that it is given. -/
def objects (bindings : Bindings) : Call → List UInt32
  | .onTexture _ target _ => [bindings.texture bindings.active target]
  | .bufferData target _ _ _ | .bufferSubData target _ _ _ | .bufferStorage target _ _ _
  | .mapBufferRange target _ _ _ | .unmapBuffer target => [bindings.buffer target]
  | .copyBufferSubData readTarget writeTarget _ _ _ =>
    [bindings.buffer readTarget, bindings.buffer writeTarget]
  | _ => []

variable (bindings : Bindings)

/-- Binding what was bound before brings back all bindings. -/
lemma bindTexture_back (target : ℕ) (texture : UInt32) :
    (bindings.bindTexture target texture).bindTexture target
      (bindings.texture bindings.active target) = bindings := by
  simp [bindTexture]

lemma bindBuffer_back (target : ℕ) (buffer : UInt32) :
    (bindings.bindBuffer target buffer).bindBuffer target (bindings.buffer target) = bindings := by
  simp [bindBuffer]

/-- **The mappings of targets agree.**  What a target's query asks for is what is bound to the
embedded target. -/
lemma told?_bindingQuery {target : ℕ} (h : target ∈ bindingQueries.map Prod.fst) :
    bindings.told? (bindingQuery target)
      = some (bindings.texture bindings.active (esTarget target)) := by
  have hquery : ∀ target ∈ bindingQueries.map Prod.fst,
      queriedTargets.lookup (bindingQuery target) = some (esTarget target) ∧
        bindingQuery target ≠ activeTexture ∧ bindingQuery target ≠ copyReadBuffer ∧
          bindingQuery target ≠ copyWriteBuffer := by decide
  obtain ⟨hlookup, hactive, hread, hwrite⟩ := hquery target h
  rw [told?, if_neg hactive, if_neg (not_or.2 ⟨hread, hwrite⟩), hlookup]
  rfl

end Bindings

/-! ## A driver with bindings -/

/-- An operation, with the bindings at its time. -/
structure Operation where
  call : Call
  bindings : Bindings

/-- The state of a driver with bindings, on top of one without. -/
structure Bound (σ : Type) where
  bindings : Bindings
  /-- The operations so far, in order. -/
  operations : List Operation := []
  native : σ

/-- An operation of the driver below. -/
def Bound.operate {σ : Type} (s : Bound σ) (inner : Driver σ) (c : Call) : Bound σ :=
  { s with
    operations := s.operations ++ [⟨c, s.bindings⟩]
    native := (inner.answer c s.native).2 }

/-- The driver that knows what is bound.  Operations are left to a driver below. -/
def Driver.bound {σ : Type} (inner : Driver σ) : Driver (Bound σ) where
  answer c s :=
    match c with
    | .getInteger query =>
      match s.bindings.told? query with
      | some name => (signedOf name.toNat, s)
      | none => ((inner.answer (.getInteger query) s.native).1, s.operate inner (.getInteger query))
    | .activeTexture unit =>
      ((), { s with bindings := { s.bindings with active := unit.toUInt32 } })
    | .bindTexture target texture =>
      ((), { s with bindings := s.bindings.bindTexture target texture.toUInt32 })
    | .bindBuffer target buffer =>
      ((), { s with bindings := s.bindings.bindBuffer target buffer.toUInt32 })
    | c => ((inner.answer c s.native).1, s.operate inner c)
  provides s name := inner.provides s.native name

variable {σ α : Type} {inner : Driver σ} {s t : Bound σ}

/-- What is bound is told when it is asked for. -/
lemma ask_ends {query : ℕ} {name : UInt32} (h : s.bindings.told? query = some name) :
    Ends (call inner.bound (.getInteger query)) s (signedOf name.toNat) s := by
  show (match s.bindings.told? query with
    | some name => (signedOf name.toNat, s)
    | none => ((inner.answer (.getInteger query) s.native).1,
        s.operate inner (.getInteger query))) = _
  rw [h]
  rfl

/-- A name that was told stands for the same object when it is bound again. -/
lemma toUInt32_wordOf_signedOf (name : UInt32) :
    (wordOf (signedOf name.toNat)).toUInt32 = name := by
  rw [wordOf_signedOf name.toNat_lt]
  exact UInt32.ofNat_toNat

/-! ## Brackets -/

/-- **The bracket around work on a texture.**  The work finds the texture bound, and if it leaves
the bindings alone, they are afterwards as before. -/
lemma withTextureBound_ends {target texture : ℕ} {act : ℕ → NativeM (Bound σ) Unit}
    (htarget : target ∈ bindingQueries.map Prod.fst)
    (hact : Ends (act (esTarget target))
      { s with bindings := s.bindings.bindTexture (esTarget target) texture.toUInt32 } () t)
    (hkept : t.bindings = s.bindings.bindTexture (esTarget target) texture.toUInt32) :
    Ends (withTextureBound inner.bound target texture act) s ()
      { t with bindings := s.bindings } := by
  have hback : Ends (call inner.bound (.bindTexture (esTarget target)
      (wordOf (signedOf (s.bindings.texture s.bindings.active (esTarget target)).toNat)))) t ()
      { t with bindings := s.bindings } := by
    show ((), { t with bindings := t.bindings.bindTexture (esTarget target) (Nat.toUInt32 _) }) = _
    rw [toUInt32_wordOf_signedOf, hkept, Bindings.bindTexture_back]
    rfl
  exact (ask_ends (s.bindings.told?_bindingQuery htarget)).bind
    (Ends.bind (a := ()) rfl (hact.bind hback))

/-- Binding the buffer again that was bound to a target before. -/
lemma rebindBuffer_ends {target : ℕ} {buffer : UInt32}
    (hkept : t.bindings = s.bindings.bindBuffer target buffer) :
    Ends (call inner.bound (.bindBuffer target
        (wordOf (signedOf (s.bindings.buffer target).toNat)))) t ()
      { t with bindings := s.bindings } := by
  show ((), { t with bindings := t.bindings.bindBuffer target (Nat.toUInt32 _) }) = _
  rw [toUInt32_wordOf_signedOf, hkept, Bindings.bindBuffer_back]
  rfl

/-- **The bracket around work on a buffer.** -/
lemma withBuffer_ends {buffer : ℕ} {act : ℕ → NativeM (Bound σ) α} {result : α}
    (hact : Ends (act copyWriteBuffer)
      { s with bindings := s.bindings.bindBuffer copyWriteBuffer buffer.toUInt32 } result t)
    (hkept : t.bindings = s.bindings.bindBuffer copyWriteBuffer buffer.toUInt32) :
    Ends (withBuffer inner.bound buffer act) s result { t with bindings := s.bindings } := by
  have hask : s.bindings.told? copyWriteBuffer = some (s.bindings.buffer copyWriteBuffer) := rfl
  exact (ask_ends hask).bind (Ends.bind (a := ()) rfl
    (hact.bind ((rebindBuffer_ends hkept).bind (Ends.pure result _))))

/-! ## Requests -/

/-- A call of an entry point that works on textures or buffers by name. -/
inductive DirectRequest where
  | onTexture (function : Text) (texture : ℕ) (arguments : List Value)
  | createBuffers (count : Int) (stored : Bool)
  | bufferData (buffer : ℕ) (size : Int) (data : Value) (usage : ℕ)
  | bufferSubData (buffer : ℕ) (offset size : Int) (data : Value)
  | bufferStorage (buffer : ℕ) (size : Int) (data : Value) (flags : ℕ)
  | mapBufferRange (buffer : ℕ) (offset length : Int) (access : ℕ)
  | unmapBuffer (buffer : ℕ)
  | copyBufferSubData (readBuffer writeBuffer : ℕ) (readOffset writeOffset size : Int)

namespace DirectRequest

/-- How a request is carried out. -/
def perform (driver : Driver σ) (targets : TextureTargets) : DirectRequest → NativeM σ Reply
  | onTexture function texture arguments => do
    onNamedTexture driver targets texture function arguments
    return {}
  | createBuffers count stored => return .handles 1 (← Gl.createBuffers driver count stored)
  | bufferData buffer size data usage => do
    namedBufferData driver buffer size data usage
    return {}
  | bufferSubData buffer offset size data => do
    namedBufferSubData driver buffer offset size data
    return {}
  | bufferStorage buffer size data flags => do
    namedBufferStorage driver buffer size data flags
    return {}
  | mapBufferRange buffer offset length access =>
    return .mapped (← mapNamedBufferRange driver buffer offset length access)
  | unmapBuffer buffer => return .int (← unmapNamedBuffer driver buffer)
  | copyBufferSubData readBuffer writeBuffer readOffset writeOffset size => do
    copyNamedBufferSubData driver readBuffer writeBuffer readOffset writeOffset size
    return {}

/-- The operation that a request comes down to, where the driver has immutable storage or not. -/
def operation (targets : TextureTargets) (storage : Bool) : DirectRequest → Call
  | onTexture function texture arguments =>
    .onTexture function (esTarget ((targets.target? texture).getD texture2D)) arguments
  | createBuffers count stored => .genBuffers count stored
  | bufferData _ size data usage => .bufferData copyWriteBuffer size data usage
  | bufferSubData _ offset size data => .bufferSubData copyWriteBuffer offset size data
  | bufferStorage _ size data flags =>
    if storage then .bufferStorage copyWriteBuffer size data flags
    else .bufferData copyWriteBuffer size data staticDraw
  | mapBufferRange _ offset length access =>
    .mapBufferRange copyWriteBuffer offset length (stripPersistence access storage)
  | unmapBuffer _ => .unmapBuffer copyWriteBuffer
  | copyBufferSubData _ _ readOffset writeOffset size =>
    .copyBufferSubData copyReadBuffer copyWriteBuffer readOffset writeOffset size

/-- The objects that a request names. -/
def objects : DirectRequest → List UInt32
  | onTexture _ texture _ => [texture.toUInt32]
  | createBuffers _ _ => []
  | bufferData buffer _ _ _ | bufferSubData buffer _ _ _ | bufferStorage buffer _ _ _
  | mapBufferRange buffer _ _ _ | unmapBuffer buffer => [buffer.toUInt32]
  | copyBufferSubData readBuffer writeBuffer _ _ _ => [readBuffer.toUInt32, writeBuffer.toUInt32]

/-- A texture that is named has a target that can be asked about. -/
def Known (targets : TextureTargets) : DirectRequest → Prop
  | onTexture _ texture _ =>
    ∃ target ∈ bindingQueries.map Prod.fst, targets.target? texture = some target
  | _ => True

/-- The entry points that work by name, each with the request that its arguments make. -/
def readers : List (String × (Arguments → DirectRequest)) :=
  [ ("glTextureParameteri", fun a => .onTexture "TexParameteri".toList (a.nat 0) (a.valuesFrom 1)),
    ("glTextureParameterf", fun a => .onTexture "TexParameterf".toList (a.nat 0) (a.valuesFrom 1)),
    ("glTextureParameteriv", fun a =>
      .onTexture "TexParameteriv".toList (a.nat 0) (a.valuesFrom 1)),
    ("glTextureParameterfv", fun a =>
      .onTexture "TexParameterfv".toList (a.nat 0) (a.valuesFrom 1)),
    ("glTextureStorage2D", fun a => .onTexture "TexStorage2D".toList (a.nat 0) (a.valuesFrom 1)),
    ("glTextureStorage3D", fun a => .onTexture "TexStorage3D".toList (a.nat 0) (a.valuesFrom 1)),
    ("glTextureSubImage2D", fun a =>
      .onTexture "TexSubImage2D".toList (a.nat 0) (a.valuesFrom 1)),
    ("glGenerateTextureMipmap", fun a =>
      .onTexture "GenerateMipmap".toList (a.nat 0) (a.valuesFrom 1)),
    ("glCreateBuffers", fun a => .createBuffers (a.int 0) (a.isStored 1)),
    ("glNamedBufferData", fun a => .bufferData (a.nat 0) (a.int 1) (a.value 2) (a.nat 3)),
    ("glNamedBufferSubData", fun a => .bufferSubData (a.nat 0) (a.int 1) (a.int 2) (a.value 3)),
    ("glNamedBufferStorage", fun a => .bufferStorage (a.nat 0) (a.int 1) (a.value 2) (a.nat 3)),
    ("glMapNamedBufferRange", fun a =>
      .mapBufferRange (a.nat 0) (a.int 1) (a.int 2) (a.nat 3)),
    ("glUnmapNamedBuffer", fun a => .unmapBuffer (a.nat 0)),
    ("glCopyNamedBufferSubData", fun a =>
      .copyBufferSubData (a.nat 0) (a.nat 1) (a.int 2) (a.int 3) (a.int 4)) ]

/-- An entry point that carries out a request. -/
def entryPoint (reader : String × (Arguments → DirectRequest)) : EntryPoint :=
  EntryPoint.stateful reader.1 fun driver a => do
    let targets := (← get).textures
    runNative ((reader.2 a).perform driver targets)

/-- **The entry points that work by name carry out requests**, and nothing else. -/
theorem entryPoints_sublist :
    (readers.map entryPoint).Sublist (textureEntryPoints ++ bufferEntryPoints) := by
  have hentries : readers.map entryPoint
      = (textureEntryPoints.drop 5).take 8 ++ ((bufferEntryPoints.drop 4).eraseIdx 1).take 7 := rfl
  rw [hentries]
  refine List.Sublist.append ?_ ?_
  · exact (List.take_sublist ..).trans (List.drop_sublist ..)
  · exact (List.take_sublist ..).trans ((List.eraseIdx_sublist ..).trans (List.drop_sublist ..))

end DirectRequest

/-! ## Requests leave bindings alone -/

/-- One operation has been made, on certain objects, and the bindings are as before. -/
structure Served (s s' : Bound σ) (operation : Call) (objects : List UInt32) : Prop where
  bindings : s'.bindings = s.bindings
  operations : ∃ during : Bindings,
    s'.operations = s.operations ++ [⟨operation, during⟩] ∧ during.objects operation = objects

/-- From a state, calls make one operation on certain objects and leave the bindings as before. -/
def Serves (x : NativeM (Bound σ) α) (s : Bound σ) (operation : Call) (objects : List UInt32) :
    Prop :=
  ∃ result s', Ends x s result s' ∧ Served s s' operation objects

/-- What is done with the result makes no difference. -/
lemma Serves.reply {x : NativeM (Bound σ) α} {operation : Call} {objects : List UInt32}
    (h : Serves x s operation objects) (reply : α → Reply) :
    Serves (do return reply (← x)) s operation objects := by
  obtain ⟨result, s', hrun, hserved⟩ := h
  exact ⟨reply result, s', hrun.bind (Ends.pure _ _), hserved⟩

/-- One operation while a buffer is bound. -/
lemma withBuffer_serves {buffer : ℕ} {act : ℕ → NativeM (Bound σ) α} {c : Call} {result : α}
    (hact : Ends (act copyWriteBuffer)
      { s with bindings := s.bindings.bindBuffer copyWriteBuffer buffer.toUInt32 } result
      (Bound.operate { s with
        bindings := s.bindings.bindBuffer copyWriteBuffer buffer.toUInt32 } inner c)) :
    Serves (withBuffer inner.bound buffer act) s c
      ((s.bindings.bindBuffer copyWriteBuffer buffer.toUInt32).objects c) :=
  ⟨result, _, withBuffer_ends hact rfl, rfl, _, rfl, rfl⟩

/-- A function on a texture by name. -/
lemma onNamedTexture_serves {targets : TextureTargets} {texture target : ℕ}
    (htarget : target ∈ bindingQueries.map Prod.fst)
    (hfound : targets.target? texture = some target)
    (function : Text) (arguments : List Value) :
    Serves (onNamedTexture inner.bound targets texture function arguments) s
      (.onTexture function (esTarget target) arguments) [texture.toUInt32] := by
  unfold onNamedTexture withTexture
  rw [hfound]
  refine ⟨(), _, withTextureBound_ends htarget rfl rfl, rfl, _, rfl, ?_⟩
  simp [Bindings.objects, Bindings.bindTexture]

/-- Copying from one buffer to another one: one bracket inside the other. -/
lemma copyNamedBufferSubData_serves (readBuffer writeBuffer : ℕ)
    (readOffset writeOffset size : Int) :
    Serves (copyNamedBufferSubData inner.bound readBuffer writeBuffer readOffset writeOffset size) s
      (.copyBufferSubData copyReadBuffer copyWriteBuffer readOffset writeOffset size)
      [readBuffer.toUInt32, writeBuffer.toUInt32] := by
  have hask : s.bindings.told? copyReadBuffer = some (s.bindings.buffer copyReadBuffer) := rfl
  have hwrite : ∀ t : Bound σ, Serves
      (withBuffer inner.bound writeBuffer fun target =>
        call inner.bound (.copyBufferSubData copyReadBuffer target readOffset writeOffset size)) t
      (.copyBufferSubData copyReadBuffer copyWriteBuffer readOffset writeOffset size)
      [t.bindings.buffer copyReadBuffer, writeBuffer.toUInt32] :=
    fun t => withBuffer_serves rfl
  obtain ⟨_, t, hcopy, hserved⟩ := hwrite
    { s with bindings := s.bindings.bindBuffer copyReadBuffer readBuffer.toUInt32 }
  refine ⟨(), _, (ask_ends hask).bind (Ends.bind (a := ()) rfl
    (hcopy.bind (rebindBuffer_ends hserved.bindings))), rfl, ?_⟩
  obtain ⟨during, hoperations, hobjects⟩ := hserved.operations
  exact ⟨during, hoperations, hobjects⟩

/-- Binding a new buffer once, for its name to become a buffer. -/
lemma touchBuffers_ends (buffers : List ℕ) :
    Ends (buffers.forM fun buffer => withBuffer inner.bound buffer fun _ => pure ()) s () s := by
  induction buffers with
  | nil => exact Ends.pure () s
  | cons buffer buffers ih =>
      have htouch : Ends (withBuffer inner.bound buffer fun _ => pure ()) s () s :=
        withBuffer_ends (t := { s with
          bindings := s.bindings.bindBuffer copyWriteBuffer buffer.toUInt32 }) rfl rfl
      exact htouch.bind ih

lemma createBuffers_serves (count : Int) (stored : Bool) :
    Serves (createBuffers inner.bound count stored) s (.genBuffers count stored) [] :=
  ⟨_, s.operate inner (.genBuffers count stored),
    Ends.bind (x := call inner.bound (.genBuffers count stored)) rfl
      ((touchBuffers_ends _).bind (Ends.pure _ _)), rfl, s.bindings, rfl, rfl⟩

/-- Giving a buffer its storage, as far as the driver has immutable one. -/
lemma bufferStorage_ends (target : ℕ) (size : Int) (data : Value) (flags : ℕ) :
    Ends (bufferStorage inner.bound target size data flags) s ()
      (s.operate inner (if inner.has s.native .bufferStorage
        then .bufferStorage target size data flags
        else .bufferData target size data staticDraw)) := by
  have hhave : Ends (haveStorage inner.bound) s (inner.has s.native .bufferStorage) s := rfl
  refine hhave.bind ?_
  cases inner.has s.native .bufferStorage with
  | true => exact rfl
  | false => exact rfl

/-- **A request by name makes its operation on the objects that it names**, and leaves the bindings
as they were. -/
theorem DirectRequest.perform_serves (targets : TextureTargets) (request : DirectRequest)
    (hknown : request.Known targets) :
    Serves (request.perform inner.bound targets) s
      (request.operation targets (inner.has s.native .bufferStorage)) request.objects := by
  cases request with
  | onTexture function texture arguments =>
      obtain ⟨target, htarget, hfound⟩ := hknown
      rw [operation, hfound]
      exact (onNamedTexture_serves htarget hfound function arguments).reply fun _ => {}
  | createBuffers count stored => exact (createBuffers_serves count stored).reply (.handles 1)
  | bufferData buffer size data usage =>
      have hserves : Serves (namedBufferData inner.bound buffer size data usage) s
          (.bufferData copyWriteBuffer size data usage) [buffer.toUInt32] := withBuffer_serves rfl
      exact hserves.reply fun _ => {}
  | bufferSubData buffer offset size data =>
      have hserves : Serves (namedBufferSubData inner.bound buffer offset size data) s
          (.bufferSubData copyWriteBuffer offset size data) [buffer.toUInt32] :=
        withBuffer_serves rfl
      exact hserves.reply fun _ => {}
  | bufferStorage buffer size data flags =>
      have hserves : Serves (namedBufferStorage inner.bound buffer size data flags) s
          ((bufferStorage buffer size data flags).operation targets
            (inner.has s.native .bufferStorage)) _ :=
        withBuffer_serves (bufferStorage_ends copyWriteBuffer size data flags)
      have hobjects : (s.bindings.bindBuffer copyWriteBuffer buffer.toUInt32).objects
          ((bufferStorage buffer size data flags).operation targets
            (inner.has s.native .bufferStorage)) = [buffer.toUInt32] := by
        cases inner.has s.native .bufferStorage with
        | true => rfl
        | false => rfl
      rw [hobjects] at hserves
      exact hserves.reply fun _ => {}
  | mapBufferRange buffer offset length access =>
      have hserves : Serves (mapNamedBufferRange inner.bound buffer offset length access) s
          (.mapBufferRange copyWriteBuffer offset length
            (stripPersistence access (inner.has s.native .bufferStorage))) [buffer.toUInt32] :=
        withBuffer_serves rfl
      exact hserves.reply .mapped
  | unmapBuffer buffer =>
      have hserves : Serves (unmapNamedBuffer inner.bound buffer) s (.unmapBuffer copyWriteBuffer)
          [buffer.toUInt32] := withBuffer_serves rfl
      exact hserves.reply .int
  | copyBufferSubData readBuffer writeBuffer readOffset writeOffset size =>
      exact (copyNamedBufferSubData_serves readBuffer writeBuffer readOffset writeOffset size).reply
        fun _ => {}

/-! ## Binding a texture to a unit -/

/-- A texture has been bound to a target of a unit, and nothing else has happened. -/
structure BoundToUnit (s s' : Bound σ) (unit : UInt32) (target : ℕ) (texture : UInt32) : Prop where
  active : s'.bindings.active = s.bindings.active
  buffer : s'.bindings.buffer = s.bindings.buffer
  texture_self : s'.bindings.texture unit target = texture
  texture_other : ∀ other ≠ unit, s'.bindings.texture other = s.bindings.texture other
  operations : s'.operations = s.operations

lemma bindTextureUnit_bound (targets : TextureTargets) {unit : ℕ} (texture : ℕ)
    (hunit : texture0 + unit < word32Limit) :
    ∃ act s', bindTextureUnit inner.bound targets unit texture = .ok act ∧ Ends act s () s' ∧
      BoundToUnit s s' (texture0 + unit).toUInt32
        (((targets.target? texture).map esTarget).getD texture2D) texture.toUInt32 := by
  have hask : s.bindings.told? activeTexture = some s.bindings.active := rfl
  let there : Bindings := { s.bindings with active := (texture0 + unit).toUInt32 }
  let target := ((targets.target? texture).map esTarget).getD texture2D
  refine ⟨_, { s with bindings :=
    { there.bindTexture target texture.toUInt32 with active := s.bindings.active } },
    map_eq_ok.2 ⟨_, Word32.check_eq_ok.2 ⟨rfl, hunit⟩, rfl⟩, ?_, ?_⟩
  · refine (ask_ends hask).bind (Ends.bind (a := ()) rfl (Ends.bind (a := ()) rfl ?_))
    show ((), { s with bindings := { there.bindTexture target texture.toUInt32 with
      active := (wordOf (signedOf s.bindings.active.toNat)).toUInt32 } }) = _
    rw [toUInt32_wordOf_signedOf]
  · refine ⟨rfl, rfl, ?_, ?_, rfl⟩
    · simp [there, target, Bindings.bindTexture]
    · intro other hother
      exact Function.update_of_ne hother ..

/-! ## The result -/

/-- **Access by name leaves bindings alone.**  Every request by name makes its operation on the
objects that it names, bound to the targets that the operation is given, and afterwards the active
unit and all bindings are as before.  Binding a texture to a unit leaves the active unit and all
bindings of buffers and of other units as before. -/
theorem direct_access_keeps_bindings (inner : Driver σ) (targets : TextureTargets) (s : Bound σ) :
    (∀ request : DirectRequest, request.Known targets →
      ∃ reply s', Ends (request.perform inner.bound targets) s reply s' ∧
        Served s s' (request.operation targets (inner.has s.native .bufferStorage))
          request.objects) ∧
      ∀ unit texture, texture0 + unit < word32Limit →
        ∃ act s', bindTextureUnit inner.bound targets unit texture = .ok act ∧ Ends act s () s' ∧
          BoundToUnit s s' (texture0 + unit).toUInt32
            (((targets.target? texture).map esTarget).getD texture2D) texture.toUInt32 :=
  ⟨fun request hknown => request.perform_serves targets hknown,
    fun _ texture hunit => bindTextureUnit_bound targets texture hunit⟩

/-- A driver in the middle of something: unit 3 is active, and there are bindings everywhere. -/
def busyDriver : Bound ScriptedNative where
  bindings :=
    { active := 0x84C3
      texture := fun unit target => if unit = 0x84C3 ∧ target = texture2D then 7 else 8
      buffer := fun target => if target = copyReadBuffer then 9 else 10 }
  native := {}

/-- A one-dimensional texture works through the two-dimensional target, and a copy through two
targets; another texture is bound to unit 0. -/
theorem direct_access_keeps_bindings_busy :
    (∃ reply s', Ends ((DirectRequest.onTexture "TexParameteri".toList 5
          [.int 10241, .int 9728]).perform ScriptedNative.driver.bound [(5, texture1D)]) busyDriver
          reply s' ∧
        Served busyDriver s' (.onTexture "TexParameteri".toList texture2D
          [.int 10241, .int 9728]) [5]) ∧
      (∃ reply s', Ends ((DirectRequest.copyBufferSubData 1 2 0 16 64).perform
          ScriptedNative.driver.bound [(5, texture1D)]) busyDriver reply s' ∧
        Served busyDriver s' (.copyBufferSubData copyReadBuffer copyWriteBuffer 0 16 64) [1, 2]) ∧
      ∃ act s', bindTextureUnit ScriptedNative.driver.bound [(5, texture1D)] 0 5 = .ok act ∧
        Ends act busyDriver () s' ∧ BoundToUnit busyDriver s' 0x84C0 texture2D 5 := by
  obtain ⟨hrequests, hunits⟩ :=
    direct_access_keeps_bindings ScriptedNative.driver [(5, texture1D)] busyDriver
  exact ⟨hrequests _ ⟨texture1D, by decide, rfl⟩, hrequests _ trivial, hunits 0 5 (by decide)⟩

end GlBridge.Gl
