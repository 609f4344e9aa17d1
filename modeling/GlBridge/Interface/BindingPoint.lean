import GlBridge.Interface.Resource
import GlBridge.Layout.Assign

/-!
# Binding points

The embedded language has texture units, uniform buffers and storage buffers, each with binding
points numbered from 0 to 255.  A resource that the application bound itself keeps its number.
The others, all in the automatic set, are numbered from 0 within their category in the order of
their bindings, passing over numbers that the application uses there.

* `BindingCategory` — the three kinds of binding points;
* `assignBindingPoints` — the point of every resource that gets one.
-/

namespace GlBridge.Interface

open Layout

/-- The kinds of binding points. -/
inductive BindingCategory where
  | textureUnit
  | uniformBlock
  | storageBlock
deriving DecidableEq, Repr

/-- A resource that wants a binding point. -/
structure BoundResource where
  key : ResourceKey
  category : BindingCategory
deriving DecidableEq, Repr

namespace BoundResource

/-- Whether the binding was made up for a resource that had none. -/
def isAutomatic (resource : BoundResource) : Bool := resource.key.1 == automaticSet

/-- The binding within its group. -/
def binding (resource : BoundResource) : Nat := resource.key.2

end BoundResource

/-- The number of binding points of a category. -/
def bindingPointLimit : Nat := 256

/-- Binding points by group and binding, in that order. -/
abbrev BindingPoints := List (ResourceKey × Nat)

namespace BindingPoints

/-- Whether a key comes before another one. -/
def keyBefore (a b : ResourceKey) : Bool := a.1 < b.1 || (a.1 == b.1 && a.2 < b.2)

/-- The points with one added, in place of an earlier one of the same group and binding. -/
def insert (points : BindingPoints) (key : ResourceKey) (point : Nat) : BindingPoints :=
  points.filter (keyBefore ·.1 key) ++ (key, point) :: points.filter (keyBefore key ·.1)

end BindingPoints

/-- The least number from `start` on that is not taken. -/
def leastFree (taken : List Nat) (start : Nat) : Nat :=
  ((List.range' start (taken.length + 1)).find? (· ∉ taken)).getD start

/-- The numbers that the application's own resources of a category use. -/
def takenPoints (resources : List BoundResource) (category : BindingCategory) : List Nat :=
  (resources.filter fun r =>
    !r.isAutomatic && r.category == category && r.binding < bindingPointLimit).map
      BoundResource.binding

/-- The points of the application's own resources. -/
def chosenPoints (resources : List BoundResource) : BindingPoints :=
  (resources.filter fun r => !r.isAutomatic && r.binding < bindingPointLimit).foldl
    (fun points r => points.insert r.key r.binding) []

/-- Numbering automatic resources in order.  `next` is the number from which each category looks
for a free one. -/
def numberAutomatic (taken : BindingCategory → List Nat) (next : BindingCategory → Nat)
    (points : BindingPoints) : List BoundResource → BindingPoints
  | [] => points
  | r :: rest =>
    let point := leastFree (taken r.category) (next r.category)
    if point < bindingPointLimit then
      numberAutomatic taken (fun c => if c = r.category then point + 1 else next c)
        (points.insert r.key point) rest
    else numberAutomatic taken next points rest

/-- The binding points of resources. -/
def assignBindingPoints (resources : List BoundResource) : BindingPoints :=
  numberAutomatic (takenPoints resources) (fun _ => 0) (chosenPoints resources)
    ((resources.filter BoundResource.isAutomatic).mergeSort fun a b => a.binding ≤ b.binding)

end GlBridge.Interface
