import Mathlib.Data.List.Basic
import GlBridge.Gl.Script
import GlBridge.Proofs.Gl.Running

/-!
# What shaders are told about their draw

Three uniforms stand in for the draw parameters that the embedded language lacks.  Drawing sets
those that the current program has, and clears them again.  Whoever draws next relies on that, since
a draw without a base vertex never writes the uniform for it.

**Requests.**  `DrawRequest` is one call of an entry point that draws with parameters, with any
arguments.  `DrawRequest.draws` says what the desktop would do: the draws in order, each with its
parameters.

**A driver with programs.**  `UniformTable.driver` knows which program is current, where each
program has the uniforms, and what they hold.  It writes down every draw with what the shaders see
of it.

**The argument.**  While a request is carried out, no state occurs but `Drawing.during`: the state
at its beginning, with some draws made since, and some values in the uniforms of the current
program.  Every call leads from one such state to another.  A request begins and ends with zeros in
all uniforms (`DrawRequest.perform_ends`), so requests can follow each other (`drawSteps_end`).
-/

namespace GlBridge.Gl

open Enumerant

/-! ## Requests -/

/-- What the desktop language tells a shader about its draw. -/
structure DrawParameters where
  drawId : ℕ := 0
  baseVertex : Int := 0
  baseInstance : ℕ := 0

namespace DrawParameters

/-- What the uniform for a parameter has to hold.  The first instance is a word without a sign, and
uniforms have one, so the uniform has the same bits (`wordOf_signedOf`), and the same value as long
as that is possible (`signedOf_of_lt`). -/
def value (parameters : DrawParameters) : DrawParameter → Int
  | .drawId => parameters.drawId
  | .baseVertex => parameters.baseVertex
  | .baseInstance => signedOf parameters.baseInstance

lemma eq_value {values : DrawParameter → Int} {parameters : DrawParameters}
    (hdrawId : values .drawId = parameters.drawId)
    (hbaseVertex : values .baseVertex = parameters.baseVertex)
    (hbaseInstance : values .baseInstance = signedOf parameters.baseInstance) :
    values = parameters.value := by
  funext p
  cases p with
  | drawId => exact hdrawId
  | baseVertex => exact hbaseVertex
  | baseInstance => exact hbaseInstance

end DrawParameters

/-- Only some of the parameters have a value other than zero. -/
def Only (parameters : List DrawParameter) (values : DrawParameter → Int) : Prop :=
  ∀ p ∉ parameters, values p = 0

lemma Only.update {parameters : List DrawParameter} {values : DrawParameter → Int}
    {parameter : DrawParameter} (h : Only parameters values)
    (hmem : parameter ∈ parameters) (value : Int) :
    Only parameters (Function.update values parameter value) := by
  intro p hp
  rw [Function.update_of_ne (ne_of_mem_of_not_mem hmem hp).symm]
  exact h p hp

lemma DrawParameters.only_baseVertex (baseVertex : Int) :
    Only [.baseVertex] (DrawParameters.mk 0 baseVertex 0).value := by
  intro p hp
  cases p with
  | drawId => rfl
  | baseVertex => exact absurd hp (by decide)
  | baseInstance => exact signedOf_zero

lemma DrawParameters.only_baseInstance (baseInstance : ℕ) :
    Only [.baseInstance] (DrawParameters.mk 0 0 baseInstance).value := by
  intro p hp
  cases p with
  | drawId => rfl
  | baseVertex => rfl
  | baseInstance => exact absurd hp (by decide)

/-- A draw with its parameters. -/
abbrev ParameterizedDraw := DrawCall × DrawParameters

/-- A call of an entry point that draws with parameters. -/
inductive DrawRequest where
  | multiArrays (mode : ℕ) (firsts : List Int) (counts : Option (List Int)) (drawCount : Int)
  | multiElements (mode : ℕ) (counts : Option (List Int)) (type : ℕ) (indices : List Value)
      (drawCount : Int)
  | multiElementsBaseVertex (mode : ℕ) (counts : Option (List Int)) (type : ℕ)
      (indices : List Value) (drawCount : Int) (baseVertices : List Int)
  | elementsBaseVertex (mode : ℕ) (count : Int) (type : ℕ) (indices : Value) (baseVertex : Int)
  | elementsInstancedBaseVertex (mode : ℕ) (count : Int) (type : ℕ) (indices : Value)
      (instances baseVertex : Int)
  | arraysInstancedBaseInstance (mode : ℕ) (first count instances : Int) (baseInstance : ℕ)
  | elementsInstancedBaseInstance (mode : ℕ) (count : Int) (type : ℕ) (indices : Value)
      (instances : Int) (baseInstance : ℕ)
  | elementsInstancedBaseVertexBaseInstance (mode : ℕ) (count : Int) (type : ℕ) (indices : Value)
      (instances baseVertex : Int) (baseInstance : ℕ)

/-- The draws of a multi-draw whose counts are positive, in order.  The number of a draw is its
place among all counts, from `index` on. -/
def positiveDraws (draw : ℕ → Int → ParameterizedDraw) (index : ℕ) (counts : List Int) :
    List ParameterizedDraw :=
  ((counts.zipIdx index).filter fun counted => 0 < counted.1).map fun counted =>
    draw counted.2 counted.1

lemma positiveDraws_nil (draw : ℕ → Int → ParameterizedDraw) (index : ℕ) :
    positiveDraws draw index [] = [] := rfl

lemma positiveDraws_cons (draw : ℕ → Int → ParameterizedDraw) (index : ℕ) (count : Int)
    (counts : List Int) : positiveDraws draw index (count :: counts)
      = if 0 < count then draw index count :: positiveDraws draw (index + 1) counts
        else positiveDraws draw (index + 1) counts := by
  unfold positiveDraws
  rw [List.zipIdx_cons, List.filter_cons]
  split_ifs <;> simp_all

/-- The counts that a multi-draw looks at. -/
def countsOf (counts : Option (List Int)) (drawCount : Int) : List Int :=
  (counts.getD []).take drawCount.toNat

namespace DrawRequest

/-- How a request is carried out. -/
def perform {σ : Type} (driver : Driver σ) : DrawRequest → NativeM σ Unit
  | multiArrays mode firsts counts drawCount => multiDrawArrays driver mode firsts counts drawCount
  | multiElements mode counts type indices drawCount =>
    multiDrawElements driver mode counts type indices drawCount
  | multiElementsBaseVertex mode counts type indices drawCount baseVertices =>
    multiDrawElementsBaseVertex driver mode counts type indices drawCount baseVertices
  | elementsBaseVertex mode count type indices baseVertex =>
    drawElementsBaseVertex driver mode count type indices baseVertex
  | elementsInstancedBaseVertex mode count type indices instances baseVertex =>
    drawElementsInstancedBaseVertex driver mode count type indices instances baseVertex
  | arraysInstancedBaseInstance mode first count instances baseInstance =>
    drawArraysInstancedBaseInstance driver mode first count instances baseInstance
  | elementsInstancedBaseInstance mode count type indices instances baseInstance =>
    drawElementsInstancedBaseInstance driver mode count type indices instances baseInstance
  | elementsInstancedBaseVertexBaseInstance mode count type indices instances baseVertex
      baseInstance =>
    drawElementsInstancedBaseVertexBaseInstance driver mode count type indices instances baseVertex
      baseInstance

/-- The draws that are requested. -/
def draws : DrawRequest → List ParameterizedDraw
  | multiArrays mode firsts counts drawCount =>
    positiveDraws (fun index count =>
      (.arrays mode (firsts.getD index 0) count, { drawId := index })) 0 (countsOf counts drawCount)
  | multiElements mode counts type indices drawCount =>
    positiveDraws (fun index count =>
      (.elements mode count type (indices.getD index .null), { drawId := index })) 0
        (countsOf counts drawCount)
  | multiElementsBaseVertex mode counts type indices drawCount baseVertices =>
    positiveDraws (fun index count =>
      (.elementsBaseVertex mode count type (indices.getD index .null) (baseVertices.getD index 0),
        { drawId := index, baseVertex := baseVertices.getD index 0 })) 0 (countsOf counts drawCount)
  | elementsBaseVertex mode count type indices baseVertex =>
    [(.elementsBaseVertex mode count type indices baseVertex, { baseVertex })]
  | elementsInstancedBaseVertex mode count type indices instances baseVertex =>
    [(.elementsInstancedBaseVertex mode count type indices instances baseVertex, { baseVertex })]
  | arraysInstancedBaseInstance mode first count instances baseInstance =>
    [(.arraysInstanced mode first count instances, { baseInstance })]
  | elementsInstancedBaseInstance mode count type indices instances baseInstance =>
    [(.elementsInstanced mode count type indices instances, { baseInstance })]
  | elementsInstancedBaseVertexBaseInstance mode count type indices instances baseVertex
      baseInstance =>
    [(.elementsInstancedBaseVertex mode count type indices instances baseVertex,
      { baseVertex, baseInstance })]

/-- The number of draws that is asked for. -/
def drawCount : DrawRequest → Int
  | multiArrays _ _ _ drawCount | multiElements _ _ _ _ drawCount
  | multiElementsBaseVertex _ _ _ _ drawCount _ => drawCount
  | _ => 1

/-- The number of draws is a word with a sign, as in every call that can be made. -/
def Fits (request : DrawRequest) : Prop := request.drawCount < (word32Limit / 2 : ℕ)

instance (request : DrawRequest) : Decidable request.Fits := inferInstanceAs (Decidable (_ < _))

/-- The entry points that draw with parameters, each with the request that its arguments make. -/
def readers : List (String × (Arguments → DrawRequest)) :=
  [ ("glMultiDrawArrays", fun a => .multiArrays (a.nat 0) (a.ints 1) (a.ints? 2) (a.int 3)),
    ("glMultiDrawElements", fun a =>
      .multiElements (a.nat 0) (a.ints? 1) (a.nat 2) (a.addresses 3) (a.int 4)),
    ("glMultiDrawElementsBaseVertex", fun a =>
      .multiElementsBaseVertex (a.nat 0) (a.ints? 1) (a.nat 2) (a.addresses 3) (a.int 4)
        (a.ints 5)),
    ("glDrawElementsBaseVertex", fun a =>
      .elementsBaseVertex (a.nat 0) (a.int 1) (a.nat 2) (a.value 3) (a.int 4)),
    ("glDrawElementsInstancedBaseVertex", fun a =>
      .elementsInstancedBaseVertex (a.nat 0) (a.int 1) (a.nat 2) (a.value 3) (a.int 4) (a.int 5)),
    ("glDrawArraysInstancedBaseInstance", fun a =>
      .arraysInstancedBaseInstance (a.nat 0) (a.int 1) (a.int 2) (a.int 3) (a.nat 4)),
    ("glDrawElementsInstancedBaseInstance", fun a =>
      .elementsInstancedBaseInstance (a.nat 0) (a.int 1) (a.nat 2) (a.value 3) (a.int 4) (a.nat 5)),
    ("glDrawElementsInstancedBaseVertexBaseInstance", fun a =>
      .elementsInstancedBaseVertexBaseInstance (a.nat 0) (a.int 1) (a.nat 2) (a.value 3) (a.int 4)
        (a.int 5) (a.nat 6)) ]

/-- **The entry points that draw with parameters carry out requests**, and nothing else. -/
theorem drawEntryPoints_eq : drawEntryPoints = readers.map fun reader =>
    EntryPoint.silent reader.1 fun driver a => (reader.2 a).perform driver := rfl

end DrawRequest

/-! ## A driver with programs -/

/-- Where programs have the uniforms that stand in for draw parameters.  Different uniforms of a
program are in different places, and program 0 is no program. -/
structure UniformTable where
  location? : ℕ → DrawParameter → Option ℕ
  none_of_zero : ∀ parameter, location? 0 parameter = none
  apart : ∀ program p q location, location? program p = some location →
    location? program q = some location → p = q

/-- A draw as the shaders of the current program see it: the uniforms that the program has, with
what they hold. -/
structure Drawn where
  call : DrawCall
  uniforms : List (DrawParameter × Int)

/-- The state of a driver with programs, on top of one without. -/
structure Drawing (σ : Type) where
  current : UInt32 := 0
  /-- What the uniforms of each program hold. -/
  values : ℕ → DrawParameter → Int := fun _ _ => 0
  /-- The draws so far, in order. -/
  drawn : List Drawn := []
  native : σ

namespace UniformTable

/-- The uniforms that a program has, with values. -/
def uniforms (table : UniformTable) (program : ℕ) (values : DrawParameter → Int) :
    List (DrawParameter × Int) :=
  DrawParameter.all.filterMap fun p => (table.location? program p).map fun _ => (p, values p)

/-- What the shaders of a program are to see of a draw. -/
def see (table : UniformTable) (program : ℕ) (draw : ParameterizedDraw) : Drawn :=
  { call := draw.1, uniforms := table.uniforms program draw.2.value }

/-- The place of a uniform, as the driver tells it. -/
def known (table : UniformTable) (program : ℕ) (parameter : DrawParameter) : Option Int :=
  (table.location? program parameter).map Int.ofNat

end UniformTable

namespace Drawing

variable {σ : Type}

/-- Leaving a call to the driver below. -/
def pass (s : Drawing σ) (inner : Driver σ) (c : Call) : c.Answer × Drawing σ :=
  let answered := inner.answer c s.native
  (answered.1, { s with native := answered.2 })

/-- Making another program the current one. -/
def use (s : Drawing σ) (arguments : List Value) : Drawing σ :=
  match arguments with
  | [.int program] => { s with current := program.toNat.toUInt32 }
  | _ => s

/-- Writing a uniform of the current program. -/
def write (s : Drawing σ) (table : UniformTable) (location value : Int) : Drawing σ :=
  { s with values := fun program p =>
      if program = s.current.toNat ∧ table.known program p = some location then value
      else s.values program p }

/-- Drawing with the current program. -/
def draw (s : Drawing σ) (table : UniformTable) (c : DrawCall) : Drawing σ :=
  { s with drawn := s.drawn ++
      [{ call := c, uniforms := table.uniforms s.current.toNat (s.values s.current.toNat) }] }

end Drawing

/-- The driver whose programs have uniforms as in a table.  All else is left to a driver below. -/
def UniformTable.driver {σ : Type} (table : UniformTable) (inner : Driver σ) :
    Driver (Drawing σ) where
  answer c s :=
    match c with
    | .getInteger query =>
      if query = currentProgram then (signedOf s.current.toNat, s)
      else s.pass inner (.getInteger query)
    | .getUniformLocation program name =>
      match DrawParameter.all.find? (·.uniform == name) with
      | some parameter => ((table.known program parameter).getD (-1), s)
      | none => s.pass inner (.getUniformLocation program name)
    | .uniform location value => ((), s.write table location value)
    | .draw c => ((), s.draw table c)
    | .forward function arguments kind =>
      if function = "UseProgram".toList then (.null, s.use arguments)
      else s.pass inner (.forward function arguments kind)
    | c => s.pass inner c
  provides s name := inner.provides s.native name

/-! ## The state during a request -/

namespace Drawing

variable {σ : Type} {table : UniformTable} {inner : Driver σ} {s : Drawing σ}
  {drawn : List Drawn} {values : DrawParameter → Int} {parameter : DrawParameter}

/-- All uniforms of all programs hold zero. -/
def Cleared (s : Drawing σ) : Prop := s.values = fun _ _ => 0

/-- The state during a request that began in `s`: some draws have been made since, and there are
some values in the uniforms of the current program. -/
def during (s : Drawing σ) (table : UniformTable) (drawn : List Drawn)
    (values : DrawParameter → Int) : Drawing σ :=
  { s with
    drawn := s.drawn ++ drawn
    values := fun program p =>
      if program = s.current.toNat ∧ (table.known program p).isSome then values p
      else s.values program p }

/-- With zeros in the uniforms, it is the state from which another request can begin. -/
lemma during_zero (hs : s.Cleared) :
    s.during table drawn (fun _ => 0) = { s with drawn := s.drawn ++ drawn } := by
  have hvalues : s.values = fun _ _ => 0 := hs
  simp [during, hvalues]

/-- The uniform for a draw parameter is found where the current program has it. -/
lemma parameterLocation_ends (parameter : DrawParameter) :
    Ends (parameterLocation (table.driver inner) parameter) (s.during table drawn values)
      (table.known s.current.toNat parameter) (s.during table drawn values) := by
  have hcurrent : s.current.toNat < word32Limit := s.current.toNat_lt
  refine Ends.bind (a := signedOf s.current.toNat) rfl ?_
  split_ifs with hzero
  · rw [signedOf_eq_zero_iff hcurrent] at hzero
    have hnone : table.known s.current.toNat parameter = none := by
      rw [hzero, UniformTable.known, table.none_of_zero]
      rfl
    rw [hnone]
    exact Ends.pure none _
  · rw [wordOf_signedOf hcurrent]
    have hask : Ends (call (table.driver inner)
        (.getUniformLocation s.current.toNat parameter.uniform)) (s.during table drawn values)
        ((table.known s.current.toNat parameter).getD (-1)) (s.during table drawn values) := by
      cases parameter <;> rfl
    refine hask.bind ?_
    unfold UniformTable.known
    cases table.location? s.current.toNat parameter with
    | none => exact Ends.pure none _
    | some location => exact Ends.pure (some (Int.ofNat location)) _

/-- Only one uniform of a program is in a place. -/
lemma known_eq_iff {program : ℕ} {location : Int} {other : DrawParameter}
    (h : table.known program parameter = some location) :
    table.known program other = some location ↔ other = parameter := by
  constructor
  · intro hother
    obtain ⟨n, hn, rfl⟩ := Option.map_eq_some_iff.1 h
    obtain ⟨m, hm, hmn⟩ := Option.map_eq_some_iff.1 hother
    obtain rfl : m = n := Int.ofNat.inj hmn
    exact table.apart program other parameter m hm hn
  · rintro rfl
    exact h

/-- **Setting a uniform.** -/
lemma setParameter_ends (parameter : DrawParameter) (value : Int) :
    Ends (setParameter (table.driver inner) (table.known s.current.toNat parameter) value)
      (s.during table drawn values) ()
      (s.during table drawn (Function.update values parameter value)) := by
  cases hknown : table.known s.current.toNat parameter with
  | none =>
      -- no one sees the value of a uniform that is not there
      have hsame : s.during table drawn (Function.update values parameter value)
          = s.during table drawn values := by
        unfold during
        congr 1
        funext program p
        by_cases hp : p = parameter
        · subst hp
          by_cases hprogram : program = s.current.toNat
          · simp [hprogram, hknown]
          · simp [hprogram]
        · rw [Function.update_of_ne hp]
      rw [hsame]
      exact Ends.pure () _
  | some location =>
      show (_, (s.during table drawn values).write table location value) = _
      unfold during write
      congr 2
      funext program p
      by_cases hprogram : program = s.current.toNat
      · subst hprogram
        by_cases hp : p = parameter
        · subst hp
          simp [hknown]
        · simp [known_eq_iff hknown, hp]
      · simp [hprogram]

/-- The shaders of the current program see what was put into its uniforms. -/
lemma uniforms_during : table.uniforms s.current.toNat
    ((s.during table drawn values).values s.current.toNat)
      = table.uniforms s.current.toNat values := by
  unfold UniformTable.uniforms
  refine List.filterMap_congr fun p _ => ?_
  cases hlocation : table.location? s.current.toNat p with
  | none => rfl
  | some location => simp [during, UniformTable.known, hlocation]

/-- **Drawing.** -/
lemma draw_ends (c : DrawCall) {parameters : DrawParameters} (h : values = parameters.value) :
    Ends (call (table.driver inner) (.draw c)) (s.during table drawn values) ()
      (s.during table (drawn ++ [table.see s.current.toNat (c, parameters)]) values) := by
  show (_, (s.during table drawn values).draw table c) = _
  have hseen : table.see s.current.toNat (c, parameters)
      = { call := c, uniforms := table.uniforms s.current.toNat
            ((s.during table drawn values).values s.current.toNat) } := by
    rw [uniforms_during, h]
    rfl
  rw [hseen]
  unfold during draw
  rw [List.append_assoc]

/-! ## Several draws -/

/-- What one draw of a multi-draw has to come to, whatever the draws before it left behind: the
index has been set, the draw is made, and only some of the parameters are touched. -/
def DrawsOne (s : Drawing σ) (table : UniformTable) (touched : List DrawParameter)
    (act : ℕ → Int → NativeM (Drawing σ) Unit) (draw : ℕ → Int → ParameterizedDraw) : Prop :=
  ∀ index count drawn values, Only touched values → values .drawId = (index : ℕ) →
    ∃ values', Ends (act index count) (s.during table drawn values) ()
        (s.during table (drawn ++ [table.see s.current.toNat (draw index count)]) values') ∧
      Only touched values'

variable {touched : List DrawParameter} {act : ℕ → Int → NativeM (Drawing σ) Unit}
  {draw : ℕ → Int → ParameterizedDraw}

/-- **The draws with a positive count are made, in order.** -/
lemma drawEach_ends (htouched : .drawId ∈ touched) (hact : DrawsOne s table touched act draw) :
    ∀ (counts : List Int) (index : ℕ) (drawn : List Drawn) (values : DrawParameter → Int),
      Only touched values → index + counts.length ≤ word32Limit / 2 →
      ∃ values', Ends (drawEach (table.driver inner) (table.known s.current.toNat .drawId) act index
            counts) (s.during table drawn values) ()
          (s.during table (drawn ++ (positiveDraws draw index counts).map
            (table.see s.current.toNat)) values') ∧
        Only touched values'
  | [], index, drawn, values, hvalues, _ => by
      refine ⟨values, ?_, hvalues⟩
      rw [positiveDraws_nil, List.map_nil, List.append_nil]
      exact Ends.pure () _
  | count :: counts, index, drawn, values, hvalues, hindex => by
      rw [List.length_cons] at hindex
      rw [drawEach, positiveDraws_cons]
      split_ifs with hcount
      · obtain ⟨values₁, hdraw, hvalues₁⟩ := hact index count drawn _
          (hvalues.update htouched (signedOf index))
          ((Function.update_self ..).trans (signedOf_of_lt (by omega)))
        obtain ⟨values₂, hrest, hvalues₂⟩ := drawEach_ends htouched hact counts (index + 1)
          (drawn ++ [table.see s.current.toNat (draw index count)]) values₁ hvalues₁ (by omega)
        rw [List.append_assoc, List.singleton_append] at hrest
        exact ⟨values₂, (setParameter_ends .drawId _).bind (hdraw.bind hrest), hvalues₂⟩
      · exact drawEach_ends htouched hact counts (index + 1) drawn values hvalues (by omega)

/-- **A multi-draw.**  In the end the index is cleared. -/
lemma multiDraw_ends (htouched : .drawId ∈ touched) (hact : DrawsOne s table touched act draw)
    {drawCount : Int} (hcount : drawCount < (word32Limit / 2 : ℕ)) (counts : Option (List Int)) :
    ∃ values', Ends (multiDraw (table.driver inner) drawCount counts act)
        (s.during table [] fun _ => 0) ()
        (s.during table ((positiveDraws draw 0 (countsOf counts drawCount)).map
          (table.see s.current.toNat)) values') ∧
      Only touched values' ∧ values' .drawId = 0 := by
  cases counts with
  | none =>
      refine ⟨fun _ => 0, ?_, fun _ _ => rfl, rfl⟩
      rw [countsOf, Option.getD_none, List.take_nil, positiveDraws_nil]
      exact Ends.pure () _
  | some counts =>
      have hlength : 0 + (counts.take drawCount.toNat).length ≤ word32Limit / 2 := by
        rw [List.length_take]
        omega
      obtain ⟨values, heach, hvalues⟩ := drawEach_ends htouched hact
        (counts.take drawCount.toNat) 0 [] (fun _ => 0) (fun _ _ => rfl) hlength
      exact ⟨_, (parameterLocation_ends .drawId).bind (heach.bind (setParameter_ends .drawId 0)),
        hvalues.update htouched 0, Function.update_self ..⟩

/-! ## Requests one after the other -/

/-- Clearing the uniforms one after the other. -/
lemma clear_ends (hvalues : Only [parameter] values) :
    Ends (setParameter (table.driver inner) (table.known s.current.toNat parameter) 0)
      (s.during table drawn values) () (s.during table drawn fun _ => 0) := by
  have hclear : Function.update values parameter 0 = fun _ => 0 := by
    funext p
    by_cases hp : p = parameter
    · rw [hp, Function.update_self]
    · rw [Function.update_of_ne hp]
      exact hvalues p (by simpa using hp)
  rw [← hclear]
  exact setParameter_ends parameter 0

/-- A single draw with one parameter. -/
lemma drawWith_ends (parameter : DrawParameter) (c : DrawCall) (parameters : DrawParameters)
    (honly : Only [parameter] parameters.value) :
    Ends (drawWith (table.driver inner) parameter (parameters.value parameter) c)
      (s.during table [] fun _ => 0) ()
      (s.during table [table.see s.current.toNat (c, parameters)] fun _ => 0) := by
  have hset : Function.update (fun _ => 0) parameter (parameters.value parameter)
      = parameters.value := by
    funext p
    by_cases hp : p = parameter
    · rw [hp, Function.update_self]
    · rw [Function.update_of_ne hp]
      exact (honly p (by simpa using hp)).symm
  refine (parameterLocation_ends parameter).bind ((setParameter_ends parameter _).bind ?_)
  rw [hset]
  exact (draw_ends c rfl).bind (clear_ends honly)

/-- **A multi-draw whose draws have no parameter but the index.** -/
lemma multiDraw_index_ends (c : ℕ → Int → DrawCall) {drawCount : Int}
    (hcount : drawCount < (word32Limit / 2 : ℕ)) (counts : Option (List Int)) :
    Ends (multiDraw (table.driver inner) drawCount counts fun index count =>
        call (table.driver inner) (.draw (c index count))) (s.during table [] fun _ => 0) ()
      (s.during table ((positiveDraws (fun index count => (c index count, { drawId := index })) 0
        (countsOf counts drawCount)).map (table.see s.current.toNat)) fun _ => 0) := by
  have hact : DrawsOne s table [.drawId]
      (fun index count => call (table.driver inner) (.draw (c index count)))
      fun index count => (c index count, { drawId := index }) := by
    intro index count drawn values hvalues hindex
    have hinstance := (hvalues .baseInstance (by decide)).trans signedOf_zero.symm
    exact ⟨values, draw_ends _ (DrawParameters.eq_value hindex (hvalues .baseVertex (by decide))
      hinstance), hvalues⟩
  obtain ⟨values, hrun, hvalues, hindex⟩ := multiDraw_ends (by decide) hact hcount counts
  have hzero : values = fun _ => 0 := by
    funext p
    cases p with
    | drawId => exact hindex
    | baseVertex => exact hvalues .baseVertex (by decide)
    | baseInstance => exact hvalues .baseInstance (by decide)
  rw [hzero] at hrun
  exact hrun

/-- **A multi-draw whose draws have base vertices too.** -/
lemma multiDrawElementsBaseVertex_ends (mode : ℕ) (counts : Option (List Int)) (type : ℕ)
    (indices : List Value) {drawCount : Int} (hcount : drawCount < (word32Limit / 2 : ℕ))
    (baseVertices : List Int) :
    Ends (multiDrawElementsBaseVertex (table.driver inner) mode counts type indices drawCount
        baseVertices) (s.during table [] fun _ => 0) ()
      (s.during table ((DrawRequest.multiElementsBaseVertex mode counts type indices drawCount
        baseVertices).draws.map (table.see s.current.toNat)) fun _ => 0) := by
  have hact : DrawsOne s table [.drawId, .baseVertex]
      (fun index count => do
        setParameter (table.driver inner) (table.known s.current.toNat .baseVertex)
          (baseVertices.getD index 0)
        call (table.driver inner) (.draw (.elementsBaseVertex mode count type
          (indices.getD index .null) (baseVertices.getD index 0))))
      fun index count => (.elementsBaseVertex mode count type (indices.getD index .null)
        (baseVertices.getD index 0),
          { drawId := index, baseVertex := baseVertices.getD index 0 }) := by
    intro index count drawn values hvalues hindex
    have hinstance := (hvalues .baseInstance (by decide)).trans signedOf_zero.symm
    exact ⟨_, (setParameter_ends .baseVertex _).bind
      (draw_ends _ (DrawParameters.eq_value hindex rfl hinstance)),
      hvalues.update (by decide) (baseVertices.getD index 0)⟩
  obtain ⟨values, hrun, hvalues, hindex⟩ := multiDraw_ends (by decide) hact hcount counts
  have honly : Only [.baseVertex] values := by
    intro p hp
    cases p with
    | drawId => exact hindex
    | baseVertex => exact absurd hp (by decide)
    | baseInstance => exact hvalues .baseInstance (by decide)
  exact (parameterLocation_ends .baseVertex).bind (hrun.bind (clear_ends honly))

/-- **A draw with two parameters.** -/
lemma drawElementsInstancedBaseVertexBaseInstance_ends (mode : ℕ) (count : Int) (type : ℕ)
    (indices : Value) (instances baseVertex : Int) (baseInstance : ℕ) :
    Ends (drawElementsInstancedBaseVertexBaseInstance (table.driver inner) mode count type indices
        instances baseVertex baseInstance) (s.during table [] fun _ => 0) ()
      (s.during table [table.see s.current.toNat (.elementsInstancedBaseVertex mode count type
        indices instances baseVertex, { baseVertex, baseInstance })] fun _ => 0) := by
  have hset : Function.update (Function.update (fun _ => 0) .baseVertex baseVertex) .baseInstance
      (signedOf baseInstance) = (DrawParameters.mk 0 baseVertex baseInstance).value :=
    DrawParameters.eq_value rfl rfl (Function.update_self ..)
  have honly : Only [.baseInstance] (Function.update
      (DrawParameters.mk 0 baseVertex baseInstance).value .baseVertex 0) := by
    intro p hp
    cases p with
    | drawId => rfl
    | baseVertex => rfl
    | baseInstance => exact absurd hp (by decide)
  refine (parameterLocation_ends .baseVertex).bind ((parameterLocation_ends .baseInstance).bind
    ((setParameter_ends .baseVertex _).bind ((setParameter_ends .baseInstance _).bind ?_)))
  rw [hset]
  exact (draw_ends _ rfl).bind ((setParameter_ends .baseVertex 0).bind (clear_ends honly))

end Drawing

open Drawing in
/-- **A request is carried out as the desktop would**, from cleared uniforms to cleared uniforms. -/
theorem DrawRequest.perform_ends {σ : Type} {table : UniformTable} {inner : Driver σ}
    {s : Drawing σ} (hs : s.Cleared) (request : DrawRequest) (hcount : request.Fits) :
    Ends (request.perform (table.driver inner)) s ()
      { s with drawn := s.drawn ++ request.draws.map (table.see s.current.toNat) } := by
  suffices h : Ends (request.perform (table.driver inner)) (s.during table [] fun _ => 0) ()
      (s.during table (request.draws.map (table.see s.current.toNat)) fun _ => 0) by
    rw [during_zero hs, during_zero hs, List.append_nil] at h
    exact h
  cases request with
  | multiArrays mode firsts counts drawCount =>
      exact multiDraw_index_ends (fun index count => .arrays mode (firsts.getD index 0) count)
        hcount counts
  | multiElements mode counts type indices drawCount =>
      exact multiDraw_index_ends
        (fun index count => .elements mode count type (indices.getD index .null)) hcount counts
  | multiElementsBaseVertex mode counts type indices drawCount baseVertices =>
      exact multiDrawElementsBaseVertex_ends mode counts type indices hcount baseVertices
  | elementsBaseVertex mode count type indices baseVertex =>
      exact drawWith_ends .baseVertex _ { baseVertex } (DrawParameters.only_baseVertex baseVertex)
  | elementsInstancedBaseVertex mode count type indices instances baseVertex =>
      exact drawWith_ends .baseVertex _ { baseVertex } (DrawParameters.only_baseVertex baseVertex)
  | arraysInstancedBaseInstance mode first count instances baseInstance =>
      exact drawWith_ends .baseInstance _ { baseInstance }
        (DrawParameters.only_baseInstance baseInstance)
  | elementsInstancedBaseInstance mode count type indices instances baseInstance =>
      exact drawWith_ends .baseInstance _ { baseInstance }
        (DrawParameters.only_baseInstance baseInstance)
  | elementsInstancedBaseVertexBaseInstance mode count type indices instances baseVertex
      baseInstance =>
      exact drawElementsInstancedBaseVertexBaseInstance_ends mode count type indices instances
        baseVertex baseInstance

/-! ## Sequences -/

/-- A step of an application: it makes a program the current one, or it draws. -/
inductive DrawStep where
  | use (program : UInt32)
  | request (request : DrawRequest)

/-- How a step is carried out. -/
def DrawStep.perform {σ : Type} (driver : Driver σ) : DrawStep → NativeM σ Unit
  | use program => do
    let _ : Value ← call driver (.forward "UseProgram".toList [.nat program.toNat] .nothing)
    return ()
  | request r => r.perform driver

/-- Every number of draws is a word with a sign. -/
def DrawStep.Fits : DrawStep → Prop
  | use _ => True
  | request r => r.Fits

instance : (step : DrawStep) → Decidable step.Fits
  | .use _ => inferInstanceAs (Decidable True)
  | .request r => inferInstanceAs (Decidable r.Fits)

/-- The draws of steps one after the other, as shaders are to see them. -/
def UniformTable.drawnBy (table : UniformTable) : UInt32 → List DrawStep → List Drawn
  | _, [] => []
  | _, .use program :: steps => table.drawnBy program steps
  | current, .request r :: steps =>
    r.draws.map (table.see current.toNat) ++ table.drawnBy current steps

/-- **Uniforms carry the desktop's values at every draw, and zeros in between.**  However an
application draws, with whatever programs and arguments, the driver makes the requested draws in
order, the shaders see the parameters of each, and afterwards all uniforms hold zero again. -/
theorem drawSteps_end {σ : Type} (table : UniformTable) (inner : Driver σ) {s : Drawing σ}
    (hs : s.Cleared) (steps : List DrawStep)
    (hfits : ∀ step ∈ steps, step.Fits) :
    ∃ s', Ends (steps.forM (DrawStep.perform (table.driver inner))) s () s' ∧ s'.Cleared ∧
      s'.drawn = s.drawn ++ table.drawnBy s.current steps := by
  induction steps generalizing s with
  | nil => exact ⟨s, Ends.pure () s, hs, (List.append_nil _).symm⟩
  | cons step steps ih =>
      have hstep := hfits step List.mem_cons_self
      have hrest := fun later hlater => hfits later (List.mem_cons_of_mem step hlater)
      cases step with
      | use program =>
          have huse : Ends (DrawStep.perform (table.driver inner) (.use program)) s ()
              { s with current := program } := by
            show ((), { s with current := (Int.ofNat program.toNat).toNat.toUInt32 }) = _
            simp
          obtain ⟨s', hrun, hcleared, hdrawn⟩ := ih (s := { s with current := program }) hs hrest
          exact ⟨s', huse.bind hrun, hcleared, hdrawn⟩
      | request r =>
          obtain ⟨s', hrun, hcleared, hdrawn⟩ := ih (s := { s with
            drawn := s.drawn ++ r.draws.map (table.see s.current.toNat) }) hs hrest
          refine ⟨s', (r.perform_ends hs hstep).bind hrun, hcleared, ?_⟩
          rw [hdrawn, List.append_assoc]
          rfl

/-- Two programs, one with uniforms for the index and the base vertex, one with a uniform for the
first instance. -/
def twoPrograms : UniformTable where
  location? program parameter :=
    match program, parameter with
    | 7, .drawId => some 0
    | 7, .baseVertex => some 4
    | 9, .baseInstance => some 4
    | _, _ => none
  none_of_zero parameter := by cases parameter <;> rfl
  apart program p q location hp hq := by
    split at hp <;> split at hq <;> simp_all <;> omega

/-- A multi-draw of which two counts are positive, one that asks for nothing, and a draw with the
other program. -/
def mixedSteps : List DrawStep :=
  [ .use 7,
    .request (.multiElementsBaseVertex 4 (some [3, 0, -1, 6]) 5123
      [.int 0, .int 6, .int 6, .int 12] 4 [10, 20, 30, -40]),
    .request (.multiArrays 4 [] none 8),
    .use 9,
    .request (.arraysInstancedBaseInstance 4 0 3 2 4294967295) ]

/-- What shaders see of them. -/
theorem drawSteps_end_mixed :
    ∃ s', Ends (mixedSteps.forM (DrawStep.perform (twoPrograms.driver ScriptedNative.driver)))
        { native := {} } () s' ∧ s'.Cleared ∧
      s'.drawn =
        [ { call := .elementsBaseVertex 4 3 5123 (.int 0) 10
            uniforms := [(.drawId, 0), (.baseVertex, 10)] },
          { call := .elementsBaseVertex 4 6 5123 (.int 12) (-40)
            uniforms := [(.drawId, 3), (.baseVertex, -40)] },
          { call := .arraysInstanced 4 0 3 2, uniforms := [(.baseInstance, -1)] } ] := by
  obtain ⟨s', hrun, hcleared, hdrawn⟩ := drawSteps_end twoPrograms ScriptedNative.driver
    (s := { native := {} }) rfl mixedSteps (by decide)
  exact ⟨s', hrun, hcleared, hdrawn.trans rfl⟩

end GlBridge.Gl
