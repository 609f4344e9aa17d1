import GlBridge.Essl.Intrinsic.Form

/-!
# Forms of functions on textures

The functions on textures have a form for every kind of texture, apart from those that nothing has
asked for.

* `requestOf?` — what the name of a function asks of a texture;
* `variedForms` — the forms of a function that some variations bring;
* `combiningForms?` — the functions that put a texture and a sampler together.
-/

namespace GlBridge.Essl

/-! ## Families -/

/-- The kinds of scalars of textures, in the order of forms. -/
def textureKinds : List Scalar := [.float, .uint, .int]

/-- The shapes of textures, in the order of forms.  A volume is never part of an array. -/
def textureShapes : List (Dimension × Bool) :=
  [(.line, false), (.line, true), (.plane, false), (.plane, true), (.volume, false),
    (.cube, false), (.cube, true)]

/-- The textures that a function has forms for.  `several` says that there are forms for textures
with several samples for each texel, `depths` that there are forms for textures of depths. -/
def textureFamily (several depths : Bool) (variations : List Variation) : List ImageType :=
  textureKinds.flatMap fun kind => textureShapes.flatMap fun (dimension, arrayed) =>
    let plain : ImageType := { dimension, arrayed, content := .color kind false }
    let single : List ImageType :=
      if depths ∧ kind = .float ∧ dimension ≠ .volume then
        [plain, { plain with content := .depth false }]
      else [plain]
    if dimension = .cube ∧ arrayed then
      if variations.contains .cubeArray then single else []
    else if dimension = .plane ∧ several
        ∧ (!arrayed || variations.contains .multisampledArray) then
      { plain with content := .color kind true } :: single
    else if variations.contains .standard then single
    else []

/-! ## Samples -/

/-- The functions that sample textures. -/
def samplingFunctions : List (Text × Sampling.Request) :=
  [("texture".toList, {}),
    ("textureGrad".toList, { level := .gradients }),
    ("textureGradOffset".toList, { moved := true, level := .gradients }),
    ("textureLod".toList, { level := .given }),
    ("textureLodOffset".toList, { moved := true, level := .given }),
    ("textureOffset".toList, { moved := true }),
    ("textureProj".toList, { projected := true }),
    ("textureProjGrad".toList, { projected := true, level := .gradients }),
    ("textureProjGradOffset".toList, { projected := true, moved := true, level := .gradients }),
    ("textureProjLod".toList, { projected := true, level := .given }),
    ("textureProjLodOffset".toList, { projected := true, moved := true, level := .given }),
    ("textureProjOffset".toList, { projected := true, moved := true })]

/-- What the name of a function asks of a texture. -/
def requestOf? (name : Text) : Option Sampling.Request := samplingFunctions.lookup name

/-- How many numbers a place in a texture is given by, the layer and the depth to compare with
included.  With `wide` a place to be divided is given by four. -/
def placeSize (image : ImageType) (request : Sampling.Request) (wide : Bool) : Nat :=
  let size := image.dimension.coordinates
  let line := image.dimension = .line
  let own :=
    if image.isDepth then
      if request.projected then 4 else if line then 3 else size + 1
    else if request.projected then if wide then 4 else size + 1
    else size
  own + (if image.arrayed ∧ !(line ∧ image.isDepth) then 1 else 0)

/-- Whether a place in a texture is given by more numbers than a vector holds, so that the depth to
compare with is an argument of its own. -/
def Sampling.Request.isSpread (request : Sampling.Request) (image : ImageType) : Bool :=
  5 ≤ placeSize image request false

/-- Whether there is a form for a kind of texture.  `wide` says that a place to be divided is given
by four numbers, `biased` that the level of detail is moved by an argument. -/
def isSampled (request : Sampling.Request) (wide biased : Bool) (image : ImageType) : Bool :=
  let depth := image.isDepth
  let given : Bool := request.level = .given
  let spread : Bool := 5 ≤ placeSize image request wide
  !(wide && (!request.projected || depth))
    && !(biased && (request.level ≠ .automatic || depth))
    && !(request.projected && (image.arrayed || image.dimension = .cube))
    && !(image.dimension = .cube && request.moved)
    && !(given && image.arrayed && depth && image.dimension = .plane)
    && !(spread && (request.level ≠ .automatic || request.moved || request.projected || biased))

/-- The form of a sampling function for a kind of texture. -/
def samplingForm (request : Sampling.Request) (wide biased : Bool) (image : ImageType) : Form :=
  let size := placeSize image request wide
  let shape := image.dimension.coordinates
  let level : List Ty := match request.level with
    | .automatic => []
    | .given => [Ty.float]
    | .gradients => [Ty.ofSize shape .float, Ty.ofSize shape .float]
  { parameters :=
      [.image image, Ty.ofSize (min 4 size) .float]
        ++ (if 5 ≤ size then [Ty.float] else [])
        ++ level
        ++ (if request.moved then [Ty.ofSize shape .int] else [])
        ++ (if biased then [Ty.float] else [])
    action := .sample { request with shadow := image.isDepth } }

/-- The forms of a sampling function for a kind of texture. -/
def samplingForms (request : Sampling.Request) (image : ImageType) : List Form :=
  [(false, false), (true, false), (false, true), (true, true)].filterMap fun (wide, biased) =>
    if isSampled request wide biased image then some (samplingForm request wide biased image)
    else none

/-! ## Sizes and texels -/

/-- The form of the function that tells how large a texture is. -/
def sizeForm (image : ImageType) : Form :=
  { parameters := .image image :: if image.isMultisampled then [] else [.scalar .int]
    action := .textureSize image.arrayed }

/-- The forms of a function that reads a texel, of which there are none for cubes. -/
def fetchForms (moved : Bool) (image : ImageType) : List Form :=
  let shape := image.dimension.coordinates
  let place := Ty.ofSize (min 4 (shape + if image.arrayed then 1 else 0)) .int
  if image.dimension = .cube then []
  else
    [{ parameters := [.image image, place, .scalar .int]
          ++ if moved then [Ty.ofSize shape .int] else []
       action := .fetch image.isMultisampled }]

/-- The forms of a function that some variations bring. -/
def variedForms (name : Text) (variations : List Variation) : List Form :=
  if let some request := requestOf? name then
    (textureFamily false true variations).flatMap (samplingForms request)
  else if name = "textureSize".toList then (textureFamily true true variations).map sizeForm
  else if name = "texelFetch".toList then
    (textureFamily true false variations).flatMap (fetchForms false)
  else if name = "texelFetchOffset".toList then
    (textureFamily true false variations).flatMap (fetchForms true)
  else []

/-- The forms of a function that puts a texture and a sampler together.  A texture that depths are
compared with is one of depths from then on, and may be one already. -/
def combiningForms? (name : Text) : Option (List Form) := do
  let shape ← Text.dropPrefix? "sampler".toList name
  match Text.dropSuffix? "Shadow".toList shape with
  | none =>
    let image ← textureShaped? .float shape
    return [{ parameters := [.image image, .sampler false], action := .combineSampler false }]
  | some shape =>
    let image ← textureShaped? .float shape
    if image.isMultisampled ∨ image.dimension = .volume then none
    else
      return [image, { image with content := .depth false }].map fun image =>
        { parameters := [.image image, .sampler true], action := .combineSampler true }

end GlBridge.Essl
