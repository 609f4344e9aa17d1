import GlBridge.Text.Basic
import GlBridge.Window.Backend

/-!
# Attribute lists

Applications describe configurations and contexts in lists of numbers that a zero ends: an
attribute, its value, the next attribute, and so on.  In the oldest kind of list some attributes
are flags, which stand alone and count as set.

* `readAttributes` — the attributes and values of a list;
* `ConfigRequest` — a description of configurations, and the list that asks the platform for it;
* `ConfigAnswer` — where the value of a configuration's attribute comes from;
* `ContextRequest` — the context that a list asks for.
-/

namespace GlBridge.Window

/-- An attribute with its value. -/
abbrev Attribute := Int × Int

/-- The attributes that are flags in the oldest kind of list: use of drawing, true color, double
buffering and stereo. -/
def isVisualFlag (name : Int) : Bool := name == 1 || name == 4 || name == 5 || name == 6

/-- The attributes of a list.  Past its end the list reads as zeros. -/
def readAttributes (legacy : Bool) : List Int → List Attribute
  | [] => []
  | name :: rest =>
    if name = 0 then []
    else if legacy && isVisualFlag name then (name, 1) :: readAttributes legacy rest
    else
      match rest with
      | [] => [(name, 0)]
      | value :: rest => (name, value) :: readAttributes legacy rest

/-- A description of framebuffer configurations. -/
structure ConfigRequest where
  red : Int := 8
  green : Int := 8
  blue : Int := 8
  alpha : Int := 8
  depth : Int := 24
  stencil : Int := 0
  sampleBuffers : Int := 0
  samples : Int := 0
  surfaceType : Int := (windowBit + pbufferBit : Nat)
deriving DecidableEq, Repr

namespace ConfigRequest

/-- The value that leaves the choice to the platform. -/
def dontCare : Int := -1

/-- The request with one more attribute taken into account.  Most attributes are passed over: what
they ask for is given anyway, or cannot be had. -/
def apply (request : ConfigRequest) (pair : Attribute) : ConfigRequest :=
  let value := if pair.2 = dontCare then 0 else pair.2
  match pair.1 with
  | 8 => { request with red := value }
  | 9 => { request with green := value }
  | 10 => { request with blue := value }
  | 11 => { request with alpha := value }
  | 12 => { request with depth := value }
  | 13 => { request with stencil := value }
  | 100000 => { request with sampleBuffers := value }
  | 100001 => { request with samples := value }
  | _ => request

/-- The request that attributes make up. -/
def ofAttributes (pairs : List Attribute) : ConfigRequest := pairs.foldl apply {}

/-- The end of a platform list. -/
def endMark : Int := 12344

/-- The list that asks the platform for what is requested: sizes, surface type, and the embedded
language's third version; multisampling only if it is asked for. -/
def platformList (request : ConfigRequest) : List Int :=
  [12324, request.red, 12323, request.green, 12322, request.blue, 12321, request.alpha,
    12325, request.depth, 12326, request.stencil, surfaceTypeAttribute, request.surfaceType,
    12352, 64]
    ++ (if request.sampleBuffers > 0 then
        [12338, request.sampleBuffers, 12337, request.samples] else [])
    ++ [endMark]

/-- The request without windows. -/
def pbufferOnly (request : ConfigRequest) : ConfigRequest :=
  { request with surfaceType := pbufferBit }

end ConfigRequest

/-- Where the value of an attribute comes from. -/
inductive ConfigAnswer where
  /-- It is the platform's value of an attribute. -/
  | platform (name : Int)
  /-- It is the same for every configuration. -/
  | fixed (value : Int)
deriving DecidableEq, Repr

namespace ConfigAnswer

/-- The answers to all attributes that can be asked for. -/
def table : List (Int × ConfigAnswer) :=
  [(2, platform 12320), (8, platform 12324), (9, platform 12323), (10, platform 12322),
    (11, platform 12321), (12, platform 12325), (13, platform 12326), (100000, platform 12338),
    (100001, platform 12337), (0x800B, platform 12334), (0x8013, platform 12328),
    (1, fixed 1), (4, fixed 1), (5, fixed 1), (0x8012, fixed 1),
    (3, fixed 0), (6, fixed 0), (7, fixed 0),
    (0x8011, fixed 1), (0x8010, fixed 5), (0x22, fixed 0x8002), (0x20, fixed 0x8000)]

/-- The answer to an attribute. -/
def of? (name : Int) : Option ConfigAnswer := table.lookup name

end ConfigAnswer

/-- The kinds of contexts that applications ask for. -/
inductive Profile where
  | core
  | compatibility
deriving DecidableEq, Repr

/-- The context that an application asks for. -/
structure ContextRequest where
  major : Int := 1
  minor : Int := 0
  profile : Profile := .core
  flags : Int := 0
deriving DecidableEq, Repr

namespace ContextRequest

/-- The request with one more attribute taken into account. -/
def apply (request : ContextRequest) (pair : Attribute) : ContextRequest :=
  match pair.1 with
  | 0x2091 => { request with major := pair.2 }
  | 0x2092 => { request with minor := pair.2 }
  | 0x2094 => { request with flags := pair.2 }
  | 0x9126 => if pair.2 % 4 ≥ 2 then { request with profile := .compatibility } else request
  | _ => request

/-- The request that attributes make up. -/
def ofAttributes (pairs : List Attribute) : ContextRequest := pairs.foldl apply {}

end ContextRequest
end GlBridge.Window
