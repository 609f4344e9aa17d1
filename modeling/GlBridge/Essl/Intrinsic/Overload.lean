import GlBridge.Essl.Draft
import GlBridge.Essl.Intrinsic.Texture

/-!
# Which function is called

A name can stand for many functions, those of the language and those of the shader.  A call is meant
for the one whose parameters its arguments fit.  One that takes all arguments as they are comes
first; after that one is better than another if each argument that tells them apart fits it
better.

* `learnForms` — making the forms of a name known;
* `Fit`, `fitOf?` — how well an argument fits a parameter;
* `chooseSignature?` — the function that arguments are meant for.
-/

namespace GlBridge.Essl

/-! ## Forms that are known -/

/-- The forms of a name that variations bring. -/
def formsIn (name : Text) (variations : List Variation) : List Form :=
  (if variations.contains .standard then
    ((formsOf? name).getD []) ++ (combiningForms? name).getD []
  else [])
    ++ variedForms name variations

/-- Making the forms of a name known, as far as arguments of some types ask for them. -/
def learnForms (name : Text) (types : List Ty) : BuildM Unit := do
  let known := ((← get).shader.variations.filter (·.1 == name)).map Prod.snd
  let wanted := (.standard :: types.filterMap Variation.ofType?).eraseDups.filter
    (!known.contains ·)
  let forms := formsIn name wanted
  forms.forM fun form => mentionAll form.parameters
  modifyShader fun shader => { shader with
    variations := shader.variations ++ wanted.map (name, ·)
    signatures := shader.signatures ++ forms.map fun form =>
      { name, parameters := form.parameters.map ({ type := · }), callee := .action form.action } }

/-! ## Fits -/

/-- How well an argument fits a parameter. -/
inductive Fit where
  | exact
  /-- A whole number becomes a floating point number. -/
  | widened
  /-- Any other kind of number becomes the one that is wanted. -/
  | converted
deriving DecidableEq, Repr

/-- How well a value of one type fits where another type is wanted.  Truth values fit where numbers
are wanted, as far as the choice of a function goes. -/
def fitOf? (source target : Ty) : Option Fit :=
  match source.kind?, target.kind? with
  | some given, some into =>
    if source.withKind into ≠ target then none
    else
      match given.rank?, into.rank? with
      | some a, some b =>
        if b < a then none else if into = .float ∧ given ≠ .float then some .widened
        else some .converted
      | none, some _ => some .converted
      | _, none => none
  | _, _ => none

/-- How well an argument fits a parameter, given that they are of different types.  What is passed
out again has to fit the other way round. -/
def FormalParameter.fitOf? (parameter : FormalParameter) (type : Ty) : Option Fit :=
  match parameter.passing with
  | .both => none
  | .output => GlBridge.Essl.fitOf? parameter.type type
  | _ => GlBridge.Essl.fitOf? type parameter.type

/-- How the functions compare of which one has been looked at first. -/
structure Contest where
  best : Option Signature := none
  /-- How well the arguments fit the best one, as far as it matters. -/
  fits : List (Option Fit) := []
  ambiguous : Bool := false

/-- How a function does against the best one so far. -/
structure Challenge where
  /-- Whether all arguments so far fit exactly. -/
  exact : Bool := true
  /-- Whether it is the better one, if the arguments so far tell. -/
  better : Option Bool := none
  fits : List (Option Fit) := []
  ambiguous : Bool := false

/-- Whether an argument fits a function better than the best one so far, if that tells them
apart. -/
def fitsBetter? (new : Fit) (old : Option Fit) : Option Bool :=
  match new, old with
  | _, some .exact => some false
  | _, none => some true
  | _, _ => none

/-- A challenge after one more argument. -/
def Challenge.next (challenge : Challenge) (fit : Fit) (old : Option Fit) : Challenge :=
  if fit = .exact then { challenge with fits := challenge.fits ++ [some .exact] }
  else
    let inexact := { challenge with exact := false, fits := challenge.fits ++ [none] }
    match fitsBetter? fit old with
    | none => inexact
    | some true =>
      if challenge.better = some false then { inexact with ambiguous := true }
      else { inexact with better := some true, fits := challenge.fits ++ [some fit] }
    | some false =>
      if challenge.better = some true then { inexact with ambiguous := true }
      else { inexact with better := some false }

/-- A challenge by the rest of the parameters.  It ends where an argument does not fit at all; what
has turned out ambiguous until then remains so. -/
def Challenge.run (challenge : Challenge) :
    List FormalParameter → List Ty → List (Option Fit) → Bool × Option Challenge
  | parameter :: parameters, type :: types, olds =>
    let fit := if parameter.type = type then some .exact else parameter.fitOf? type
    match fit with
    | none => (challenge.ambiguous, none)
    | some fit =>
      (challenge.next fit (olds.head?.bind id)).run parameters types olds.tail
  | _, _, _ => (challenge.ambiguous, some challenge)

/-- The contest after a function that fits, although not exactly. -/
def Contest.next (contest : Contest) (signature : Signature) (challenge : Challenge) : Contest :=
  match challenge.better with
  | some true =>
    { best := some signature, fits := challenge.fits, ambiguous := challenge.ambiguous }
  | some false => { contest with ambiguous := challenge.ambiguous }
  | none => { contest with best := some signature, ambiguous := true }

/-- The winner of a contest between functions. -/
def Contest.run (contest : Contest) (types : List Ty) : List Signature → Option Signature
  | [] => if contest.ambiguous then none else contest.best
  | signature :: rest =>
    if signature.parameters.length ≠ types.length then contest.run types rest
    else
      match Challenge.run { ambiguous := contest.ambiguous } signature.parameters types
          contest.fits with
      | (ambiguous, none) => Contest.run { contest with ambiguous } types rest
      | (_, some challenge) =>
        if challenge.exact then some signature
        else (contest.next signature challenge).run types rest

/-- The function that arguments are meant for, if there is exactly one. -/
def chooseSignature? (signatures : List Signature) (types : List Ty) : Option Signature :=
  Contest.run {} types signatures

/-- The function that a call by name is meant for. -/
def signatureFor (name : Text) (types : List Ty) : BuildM Signature := do
  learnForms name types
  require (chooseSignature? ((← get).shader.signatures.filter (·.name == name)) types)

end GlBridge.Essl
