import GlBridge.Text.Basic
import GlBridge.Window.Backend

/-!
# A backend by script

A stand-in for a platform.  A few switches say which calls succeed; new contexts and surfaces are
numbered in order; frames are made up from a counter.  Every call is written down.
-/

namespace GlBridge.Window

/-- What comes of asking for a window surface. -/
inductive WindowBehavior where
  | works
  | fails
  | raises (signal : Signal)
deriving DecidableEq, Repr

/-- What a scripted backend does. -/
structure BackendScript where
  window : WindowBehavior := .works
  /-- The surface type of every configuration; `none` if it cannot be asked for. -/
  surfaceType : Option Int := some 5
  /-- The highest minor version accepted. -/
  maxMinor : Int := 2
  pbuffer : Bool := true
  makeCurrent : Bool := true
  swap : Bool := true
  interval : Bool := true
  put : Bool := true
  sizes : List (Drawable × Nat × Nat) := []
deriving DecidableEq, Repr

/-- A scripted backend and how far it has got. -/
structure ScriptedBackend where
  script : BackendScript := {}
  /-- The number of the next context or surface. -/
  next : Nat := 101
  /-- How many frames have been read. -/
  frame : Nat := 0
  calls : List Text := []
deriving DecidableEq, Repr

/-- The made-up pixels of a frame. -/
def framePixels (frame length : Nat) : Bytes :=
  (List.range length).map fun i => (7 * i + frame).toUInt8

namespace ScriptedBackend

open Text

/-- Writing down a call. -/
def note (state : ScriptedBackend) (words : List Text) : ScriptedBackend :=
  { state with calls := state.calls ++ [join [' '] words] }

/-- The number of a handle in the text of a call. -/
def handleText (handle : Option Nat) : Text := (handle.map ofNat).getD "none".toList

/-- A truth value in the text of a call. -/
def truthText (value : Bool) : Text := if value then "true".toList else "false".toList

/-- A size in the text of a call. -/
def sizeText (width height : Nat) : Text := ofNat width ++ 'x' :: ofNat height

/-- The arrow before a result. -/
def arrow : Text := "->".toList

/-- A new handle if `works`. -/
def allot (state : ScriptedBackend) (works : Bool) : Option Nat × ScriptedBackend :=
  if works then (some state.next, { state with next := state.next + 1 }) else (none, state)

/-- The sum of bytes. -/
def sumOf (pixels : Bytes) : Nat := pixels.foldl (· + ·.toNat) 0

/-- Answering a call by script. -/
def answer : (call : Call) → ScriptedBackend → call.Answer × ScriptedBackend
  | .chooseConfigs _, state => ([], state)
  | .configAttribute config name, state =>
    (state.script.surfaceType,
      state.note ["config_attrib".toList, ofNat config, ofInt name])
  | .createContext config share major minor, state =>
    let (context, state) := state.allot (minor ≤ state.script.maxMinor)
    (context, state.note ["create_context".toList, ofNat config, handleText share,
      ofInt major ++ '.' :: ofInt minor, arrow, handleText context])
  | .destroyContext context, state => ((), state.note ["destroy_context".toList, ofNat context])
  | .createWindowSurface config drawable, state =>
    let state := state.note ["create_window_surface".toList, ofNat config, ofNat drawable]
    match state.script.window with
    | .works =>
      let surface := state.next
      (.ok (some surface),
        { state with next := surface + 1 }.note ["surface".toList, ofNat surface])
    | .fails => (.ok none, state)
    | .raises signal => (.error signal, state)
  | .createPbufferSurface config width height, state =>
    let (surface, state) := state.allot state.script.pbuffer
    (surface, state.note ["create_pbuffer_surface".toList, ofNat config, sizeText width height,
      arrow, handleText surface])
  | .destroySurface surface, state => ((), state.note ["destroy_surface".toList, ofNat surface])
  | .makeCurrent surface context, state =>
    let made := context.isNone || state.script.makeCurrent
    (made, state.note ["make_current".toList, handleText surface, handleText context, arrow,
      truthText made])
  | .swapBuffers surface, state =>
    (state.script.swap, state.note ["swap_buffers".toList, ofNat surface])
  | .swapInterval interval, state =>
    (state.script.interval, state.note ["swap_interval".toList, ofInt interval])
  | .drawableSize drawable, state =>
    let size := state.script.sizes.lookup drawable
    (size, state.note ["drawable_size".toList, ofNat drawable, arrow,
      (size.map fun (width, height) => sizeText width height).getD "none".toList])
  | .readPixels width height buffer, state =>
    let frame := state.frame + 1
    (framePixels frame buffer.length,
      { state with frame }.note
        ["read_pixels".toList, sizeText width height, ofNat buffer.length])
  | .putPixels drawable width height pixels, state =>
    (state.script.put, state.note ["put_pixels".toList, ofNat drawable, sizeText width height,
      ofNat pixels.length, "sum".toList, ofNat (sumOf pixels)])

/-- The backend that follows a script. -/
def backend : Backend ScriptedBackend := { answer }

end ScriptedBackend
end GlBridge.Window
