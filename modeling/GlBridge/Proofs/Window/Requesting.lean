import Mathlib.Data.List.Induction
import Mathlib.Data.List.Nodup
import GlBridge.Window.Attributes

/-!
# From an application's list to the platform's

An application describes a configuration in a list of numbers, and the platform is asked in another
one.  Both are ended by a mark, and a reader that is one slot off takes values for attributes from
then on and runs past the end.

**Reading.**  `writtenList` is a list as applications write it, and `asRead` is what stands in it for
an attribute.  `readWithin?` reads a list as `readAttributes` does, but from memory that has an end,
and says what it did not look at (`readAttributes_of_readWithin?`).  Of a written list it looks at all
slots and at none after the end mark (`readWithin?_writtenList`).

**Asking.**  What is requested of an attribute is the last value that is listed for it
(`field_ofAttributes`).  The platform's list is made of settings, each for another attribute, and
the request can be looked up in them.

The main result is **`platformList_of_writtenList`**.
-/

namespace GlBridge.Window

/-! ## Reading -/

/-- The slots that an attribute takes: two, or one for a flag of the oldest kind of list. -/
def slots (legacy : Bool) (pair : Attribute) : List Int :=
  if legacy && isVisualFlag pair.1 then [pair.1] else [pair.1, pair.2]

/-- A list as applications write it, with its end mark. -/
def writtenList (legacy : Bool) (pairs : List Attribute) : List Int :=
  pairs.flatMap (slots legacy) ++ [0]

/-- What is read for an attribute.  A flag counts as set. -/
def asRead (legacy : Bool) (pair : Attribute) : Attribute :=
  if legacy && isVisualFlag pair.1 then (pair.1, 1) else pair

/-- The attributes of a list in memory, with the memory that was not looked at.  There is no result if
the memory ends before the list does. -/
def readWithin? (legacy : Bool) : List Int → Option (List Attribute × List Int)
  | [] => none
  | name :: memory =>
    if name = 0 then some ([], memory)
    else if legacy && isVisualFlag name then
      (readWithin? legacy memory).map fun (pairs, rest) => ((name, 1) :: pairs, rest)
    else
      match memory with
      | [] => none
      | value :: memory =>
        (readWithin? legacy memory).map fun (pairs, rest) => ((name, value) :: pairs, rest)

variable {legacy : Bool} {pairs : List Attribute} {memory rest : List Int} {name : Int}

lemma readWithin?_end (legacy : Bool) (memory : List Int) :
    readWithin? legacy (0 :: memory) = some ([], memory) := by
  rw [readWithin?.eq_def]
  exact if_pos rfl

lemma readWithin?_flag (hname : name ≠ 0) (hflag : (legacy && isVisualFlag name) = true)
    (memory : List Int) :
    readWithin? legacy (name :: memory)
      = (readWithin? legacy memory).map fun (pairs, rest) => ((name, 1) :: pairs, rest) := by
  rw [readWithin?.eq_def]
  dsimp only
  rw [if_neg hname, if_pos hflag]

lemma readWithin?_pair (hname : name ≠ 0) (hflag : ¬ (legacy && isVisualFlag name) = true)
    (value : Int) (memory : List Int) :
    readWithin? legacy (name :: value :: memory)
      = (readWithin? legacy memory).map fun (pairs, rest) => ((name, value) :: pairs, rest) := by
  rw [readWithin?, if_neg hname, if_neg hflag]

/-- **Reading from memory is reading**, as long as the memory lasts. -/
lemma readAttributes_of_readWithin? (h : readWithin? legacy memory = some (pairs, rest)) :
    readAttributes legacy memory = pairs := by
  induction memory using readWithin?.induct legacy generalizing pairs with
  | case1 => exact nomatch h
  | case2 memory =>
      rw [readWithin?_end, Option.some.injEq, Prod.mk.injEq] at h
      rw [readAttributes.eq_def, ← h.1]
      exact if_pos rfl
  | case3 name memory hname hflag ih =>
      rw [readWithin?_flag hname hflag, Option.map_eq_some_iff] at h
      obtain ⟨⟨others, _⟩, hothers, heq⟩ := h
      obtain ⟨rfl, rfl⟩ := Prod.mk.inj heq
      rw [readAttributes.eq_def]
      dsimp only
      rw [if_neg hname, if_pos hflag, ih hothers]
  | case4 name hname hflag =>
      rw [readWithin?, if_neg hname, if_neg hflag] at h
      exact nomatch h
  | case5 name hname hflag value memory ih =>
      rw [readWithin?_pair hname hflag, Option.map_eq_some_iff] at h
      obtain ⟨⟨others, _⟩, hothers, heq⟩ := h
      obtain ⟨rfl, rfl⟩ := Prod.mk.inj heq
      rw [readAttributes, if_neg hname, if_neg hflag, ih hothers]

/-- An attribute is read with its own slots. -/
lemma readWithin?_slots {pair : Attribute} (hname : pair.1 ≠ 0) (memory : List Int) :
    readWithin? legacy (slots legacy pair ++ memory)
      = (readWithin? legacy memory).map fun (pairs, rest) => (asRead legacy pair :: pairs, rest) := by
  rw [slots, asRead]
  split_ifs with hflag
  · exact readWithin?_flag hname hflag memory
  · exact readWithin?_pair hname hflag pair.2 memory

/-- **A written list is read up to its end mark**, whatever comes after it. -/
theorem readWithin?_writtenList (legacy : Bool) (hnames : ∀ pair ∈ pairs, pair.1 ≠ 0)
    (rest : List Int) :
    readWithin? legacy (writtenList legacy pairs ++ rest)
      = some (pairs.map (asRead legacy), rest) := by
  induction pairs with
  | nil => exact readWithin?_end legacy rest
  | cons pair pairs ih =>
      obtain ⟨hname, hnames⟩ := List.forall_mem_cons.1 hnames
      have hcons : writtenList legacy (pair :: pairs) ++ rest
          = slots legacy pair ++ (writtenList legacy pairs ++ rest) := by
        simp only [writtenList, List.flatMap_cons, List.append_assoc]
      rw [hcons, readWithin?_slots hname, ih hnames]
      rfl

/-! ## Asking -/

namespace ConfigRequest

/-- The number that a listed value asks for. -/
def given (value : Int) : Int := if value = dontCare then 0 else value

/-- A number that describes a configuration: what applications and the platform call it, and what it is
if it is not listed. -/
structure Size where
  name : Int
  platformName : Int
  usual : Int
deriving DecidableEq, Repr

/-- What a list asks for of a size: the last value listed for it, or the usual one. -/
def Size.requested (size : Size) (pairs : List Attribute) : Int :=
  ((pairs.filter (·.1 = size.name)).getLast?.map fun pair => given pair.2).getD size.usual

/-- The sizes that the platform is always asked for: red, green, blue, alpha, depth and stencil. -/
def sizes : List Size :=
  [⟨8, 12324, 8⟩, ⟨9, 12323, 8⟩, ⟨10, 12322, 8⟩, ⟨11, 12321, 8⟩, ⟨12, 12325, 24⟩, ⟨13, 12326, 0⟩]

/-- The number of sample buffers. -/
def bufferCount : Size := ⟨100000, 12338, 0⟩

/-- The number of samples. -/
def sampleCount : Size := ⟨100001, 12337, 0⟩

/-- The sizes with the fields that hold them. -/
def fields : List (Size × (ConfigRequest → Int)) :=
  (sizes ++ [bufferCount, sampleCount]).zip
    [red, green, blue, alpha, depth, stencil, sampleBuffers, samples]

variable {size : Size} {field : ConfigRequest → Int}

/-- A field takes the values of its own size. -/
lemma field_apply (h : (size, field) ∈ fields) (request : ConfigRequest) (pair : Attribute) :
    field (request.apply pair) = if pair.1 = size.name then given pair.2 else field request := by
  simp only [fields, sizes, List.cons_append, List.nil_append, List.zip_cons_cons, List.zip_nil_left,
    List.mem_cons, List.not_mem_nil, or_false, Prod.mk.injEq] at h
  unfold apply
  rcases h with ⟨rfl, rfl⟩ | ⟨rfl, rfl⟩ | ⟨rfl, rfl⟩ | ⟨rfl, rfl⟩ | ⟨rfl, rfl⟩ | ⟨rfl, rfl⟩ |
    ⟨rfl, rfl⟩ | ⟨rfl, rfl⟩ <;>
  dsimp only <;> split <;> simp_all [given, bufferCount, sampleCount]

/-- At first, a field holds the usual value. -/
lemma field_default (h : (size, field) ∈ fields) : field {} = size.usual := by
  have hall : ∀ entry ∈ fields, entry.2 {} = entry.1.usual := by decide
  exact hall (size, field) h

/-- **The last value counts.**  A field holds what is requested of its size. -/
theorem field_ofAttributes (h : (size, field) ∈ fields) (pairs : List Attribute) :
    field (ofAttributes pairs) = size.requested pairs := by
  induction pairs using List.reverseRecOn with
  | nil => exact field_default h
  | append_singleton pairs pair ih =>
      rw [ofAttributes, List.foldl_concat, field_apply h, ← ofAttributes, ih, Size.requested,
        Size.requested, List.filter_append]
      by_cases hname : pair.1 = size.name
      · rw [if_pos hname, List.filter_cons_of_pos (by simpa using hname), List.filter_nil,
          List.getLast?_concat]
        rfl
      · rw [if_neg hname, List.filter_cons_of_neg (by simpa using hname), List.filter_nil,
          List.append_nil]

/-- The surface type of configurations that can be used for windows and for pbuffers. -/
def anySurface : Int := (windowBit + pbufferBit : ℕ)

lemma surfaceType_apply (request : ConfigRequest) (pair : Attribute) :
    (request.apply pair).surfaceType = request.surfaceType := by
  unfold apply
  dsimp only
  split <;> rfl

/-- No attribute changes the surface type. -/
lemma surfaceType_ofAttributes (pairs : List Attribute) :
    (ofAttributes pairs).surfaceType = anySurface := by
  induction pairs using List.reverseRecOn with
  | nil => rfl
  | append_singleton pairs pair ih =>
      rw [ofAttributes, List.foldl_concat, surfaceType_apply]
      exact ih

/-- Flags are passed over, whatever value comes with them. -/
lemma apply_asRead (request : ConfigRequest) (legacy : Bool) (pair : Attribute) :
    request.apply (asRead legacy pair) = request.apply pair := by
  obtain ⟨name, value⟩ := pair
  unfold asRead
  split_ifs with hflag
  · have hname : name = 1 ∨ name = 4 ∨ name = 5 ∨ name = 6 := by
      simpa [isVisualFlag, or_assoc] using (Bool.and_eq_true_iff.1 hflag).2
    rcases hname with rfl | rfl | rfl | rfl <;> rfl
  · rfl

lemma ofAttributes_asRead (legacy : Bool) (pairs : List Attribute) :
    ofAttributes (pairs.map (asRead legacy)) = ofAttributes pairs := by
  simp only [ofAttributes, List.foldl_map, apply_asRead]

/-- The platform's attribute for the languages that can be drawn with. -/
def languages : Int := 12352

/-- The embedded language's third version, among the languages. -/
def thirdVersion : Int := 64

/-- The settings that a request asks the platform for. -/
def settings (request : ConfigRequest) : List Attribute :=
  [(12324, request.red), (12323, request.green), (12322, request.blue), (12321, request.alpha),
    (12325, request.depth), (12326, request.stencil), (surfaceTypeAttribute, request.surfaceType),
    (languages, thirdVersion)]
    ++ if request.sampleBuffers > 0 then
        [(12338, request.sampleBuffers), (12337, request.samples)] else []

lemma platformList_eq (request : ConfigRequest) : request.platformList
    = request.settings.flatMap (fun setting => [setting.1, setting.2]) ++ [endMark] := by
  rw [platformList, settings]
  split_ifs <;> rfl

/-- What the platform calls the attributes that it is asked for. -/
def platformNames : List Int :=
  [12324, 12323, 12322, 12321, 12325, 12326, surfaceTypeAttribute, languages, 12338, 12337]

lemma settings_names (request : ConfigRequest) :
    request.settings.map Prod.fst <+: platformNames := by
  rw [settings]
  split_ifs
  · exact List.prefix_refl platformNames
  · exact ⟨[12338, 12337], rfl⟩

/-- The platform is asked for each size by the field that holds it. -/
lemma exists_field (h : size ∈ sizes) : ∃ field, (size, field) ∈ fields ∧
    ∀ request : ConfigRequest, request.settings.lookup size.platformName = some (field request) := by
  simp only [sizes, List.mem_cons, List.not_mem_nil, or_false] at h
  rcases h with rfl | rfl | rfl | rfl | rfl | rfl
  · exact ⟨red, by simp [fields, sizes], fun _ => rfl⟩
  · exact ⟨green, by simp [fields, sizes], fun _ => rfl⟩
  · exact ⟨blue, by simp [fields, sizes], fun _ => rfl⟩
  · exact ⟨alpha, by simp [fields, sizes], fun _ => rfl⟩
  · exact ⟨depth, by simp [fields, sizes], fun _ => rfl⟩
  · exact ⟨stencil, by simp [fields, sizes], fun _ => rfl⟩

lemma lookup_size (h : size ∈ sizes) (pairs : List Attribute) :
    (ofAttributes pairs).settings.lookup size.platformName = some (size.requested pairs) := by
  obtain ⟨field, hfield, hlookup⟩ := exists_field h
  rw [hlookup, field_ofAttributes hfield]

lemma lookup_sampleBuffers (request : ConfigRequest) : request.settings.lookup bufferCount.platformName
    = if 0 < request.sampleBuffers then some request.sampleBuffers else none := by
  rw [settings]
  split_ifs <;> rfl

lemma lookup_samples (request : ConfigRequest) : request.settings.lookup sampleCount.platformName
    = if 0 < request.sampleBuffers then some request.samples else none := by
  rw [settings]
  split_ifs <;> rfl

end ConfigRequest

/-! ## The result -/

open ConfigRequest

/-- **What is listed reaches the platform.**  A written list is read up to its end mark, whatever
comes after it, and gives the attributes that were written.  The platform's list for them is made of
settings for different attributes with one end mark after them.  It asks for the last value listed of
each size, for a surface type and a language that no list changes, and for samples only if there are
to be sample buffers. -/
theorem platformList_of_writtenList (legacy : Bool) (pairs : List Attribute)
    (hnames : ∀ pair ∈ pairs, pair.1 ≠ 0) (rest : List Int) :
    readWithin? legacy (writtenList legacy pairs ++ rest)
        = some (pairs.map (asRead legacy), rest) ∧
      readAttributes legacy (writtenList legacy pairs ++ rest) = pairs.map (asRead legacy) ∧
      ∃ settings : List Attribute,
        (ofAttributes (readAttributes legacy (writtenList legacy pairs ++ rest))).platformList
            = settings.flatMap (fun setting => [setting.1, setting.2]) ++ [endMark] ∧
          (settings.map Prod.fst).Nodup ∧ endMark ∉ settings.map Prod.fst ∧
          (∀ size ∈ sizes, settings.lookup size.platformName = some (size.requested pairs)) ∧
          settings.lookup surfaceTypeAttribute = some anySurface ∧
          settings.lookup languages = some thirdVersion ∧
          settings.lookup bufferCount.platformName = (if 0 < bufferCount.requested pairs
            then some (bufferCount.requested pairs) else none) ∧
          settings.lookup sampleCount.platformName = if 0 < bufferCount.requested pairs
            then some (sampleCount.requested pairs) else none := by
  have hread := readWithin?_writtenList legacy hnames rest
  have hpairs := readAttributes_of_readWithin? hread
  have hasked := settings_names (ofAttributes pairs)
  have hbuffers : (ofAttributes pairs).sampleBuffers = bufferCount.requested pairs :=
    field_ofAttributes (by simp [fields, sizes]) pairs
  have hsamples : (ofAttributes pairs).samples = sampleCount.requested pairs :=
    field_ofAttributes (by simp [fields, sizes]) pairs
  refine ⟨hread, hpairs, (ofAttributes pairs).settings, ?_, ?_, ?_,
    fun size hsize => lookup_size hsize pairs, ?_, rfl, ?_, ?_⟩
  · rw [hpairs, ofAttributes_asRead, platformList_eq]
  · exact hasked.sublist.nodup (by decide)
  · exact fun hmem => absurd (hasked.subset hmem) (by decide)
  · exact congrArg some (surfaceType_ofAttributes pairs)
  · rw [lookup_sampleBuffers, hbuffers]
  · rw [lookup_samples, hbuffers, hsamples]

/-- Flags with values that are not written, a depth that looks like the end mark, and a red size that is
listed twice. -/
def mixedPairs : List Attribute :=
  [(4, 0), (12, 0), (5, 9), (8, 5), (8, dontCare), (100000, 1), (100001, 4)]

/-- More of the list seems to follow in memory. -/
theorem platformList_of_writtenList_mixed :
    (∀ pair ∈ mixedPairs, pair.1 ≠ 0) ∧
      readWithin? true (writtenList true mixedPairs ++ [8, 3])
        = some ([(4, 1), (12, 0), (5, 1), (8, 5), (8, -1), (100000, 1), (100001, 4)], [8, 3]) ∧
      ∃ settings : List Attribute,
        (ofAttributes (readAttributes true (writtenList true mixedPairs ++ [8, 3]))).platformList
            = settings.flatMap (fun setting => [setting.1, setting.2]) ++ [endMark] ∧
          settings.lookup 12324 = some 0 ∧ settings.lookup 12325 = some 0 ∧
          settings.lookup 12323 = some 8 ∧ settings.lookup 12337 = some 4 := by
  have hnames : ∀ pair ∈ mixedPairs, pair.1 ≠ 0 := by decide
  obtain ⟨hread, -, settings, hlist, -, -, hsizes, -, -, -, hsamples⟩ :=
    platformList_of_writtenList true mixedPairs hnames [8, 3]
  exact ⟨hnames, hread, settings, hlist, hsizes ⟨8, 12324, 8⟩ (by decide),
    hsizes ⟨12, 12325, 24⟩ (by decide), hsizes ⟨9, 12323, 8⟩ (by decide), hsamples⟩

end GlBridge.Window
