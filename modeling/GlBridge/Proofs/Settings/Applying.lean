import GlBridge.Proofs.Text.Decimal
import GlBridge.Settings.Options

/-!
# Setting options one at a time

Every variable has an option of its own, and what its value says does not depend on the options there
are.  So options can be seen as a table with one entry for each variable.

**What values say.**  `Says` lists the variables by their names, and for each what may be said of it:
any text for a library, one of eight words for a flag, a text that is not empty for the directory, and
a two or a three for the version, perhaps with zeros and a plus sign before it.

**Entries.**  `Options.entry` is the option of a variable and `Options.withEntry` changes it.  The
entries are all there is to options (`ext_entry`).

**Setting.**  A call either changes the entry of the variable that it names to what its value says, or
it changes nothing (`apply_of_said`, `apply_of_silent`).  After any calls, an entry holds what the last
call that said anything of it said (`lastSaid_applyAll`).

The main result is **`applyAll_local`**.
-/

namespace GlBridge

open Text

/-! ## What values say -/

/-- The words for flags. -/
def flagWords : List (Text × Bool) :=
  [("1".toList, true), ("true".toList, true), ("yes".toList, true), ("on".toList, true),
    ("0".toList, false), ("false".toList, false), ("no".toList, false), ("off".toList, false)]

/-- How a number of one figure may be written. -/
inductive Numeral (figure : Char) : Text → Prop where
  | numeral {sign : Text} (hsign : sign = [] ∨ sign = ['+']) (zeros : ℕ) :
      Numeral figure (sign ++ List.replicate zeros '0' ++ [figure])

namespace Variable

/-- The kind of option that a variable sets. -/
def Entry : Variable → Type
  | eglLibrary => Option Text
  | glesLibrary => Option Text
  | translate => Bool
  | shaderCache => Bool
  | cacheDirectory => Option Path
  | forcePbuffer => Bool
  | glesMajor => Int

/-- What a name and a value say of the option of a variable. -/
inductive Says : Text → Text → (key : Variable) → key.Entry → Prop where
  | eglLibrary (value : Text) : Says "LIBGL_EGL".toList value .eglLibrary (some value)
  | glesLibrary (value : Text) : Says "LIBGL_GLES".toList value .glesLibrary (some value)
  | translate {value : Text} {flag : Bool} (hflag : (value, flag) ∈ flagWords) :
      Says "GLXES_TRANSLATE".toList value .translate flag
  | shaderCache {value : Text} {flag : Bool} (hflag : (value, flag) ∈ flagWords) :
      Says "GLXES_SHADER_CACHE".toList value .shaderCache flag
  | cacheDirectory {value : Text} (hvalue : value ≠ []) :
      Says "GLXES_CACHE_DIR".toList value .cacheDirectory (some value)
  | forcePbuffer {value : Text} {flag : Bool} (hflag : (value, flag) ∈ flagWords) :
      Says "GLXES_FORCE_PBUFFER".toList value .forcePbuffer flag
  | two {value : Text} (hvalue : Numeral '2' value) :
      Says "GLXES_GLES_MAJOR".toList value .glesMajor (2 : ℤ)
  | three {value : Text} (hvalue : Numeral '3' value) :
      Says "GLXES_GLES_MAJOR".toList value .glesMajor (3 : ℤ)

/-- The option of a variable of which nothing is said. -/
def initial : (key : Variable) → key.Entry
  | eglLibrary => (none : Option Text)
  | glesLibrary => (none : Option Text)
  | translate => true
  | shaderCache => true
  | cacheDirectory => (none : Option Path)
  | forcePbuffer => false
  | glesMajor => (3 : ℤ)

end Variable

/-! ## Reading values -/

section Reading

variable {value : Text}

lemma flagWords_eq : flagWords = Options.setWords.map (·, true) ++ Options.clearWords.map (·, false) :=
  rfl

/-- A flag is read from the words for flags. -/
lemma readFlag_eq_ok_iff {key : Variable} {flag : Bool} :
    Options.readFlag key value = .ok flag ↔ (value, flag) ∈ flagWords := by
  have hapart : value ∈ Options.setWords → value ∉ Options.clearWords := by
    have hall : ∀ word ∈ Options.setWords, word ∉ Options.clearWords := by decide +kernel
    exact hall value
  rw [Options.readFlag, flagWords_eq, List.mem_append, List.mem_map, List.mem_map]
  simp only [List.contains_iff_mem, Prod.mk.injEq, ↓existsAndEq, true_and]
  split_ifs with hset hclear
  · simp [hset, hapart hset, eq_comm]
  · simp [hset, hclear, eq_comm]
  · simp [hset, hclear]

/-- A version is read from the numerals for two and three. -/
lemma readMajor_eq_ok_iff {major : ℤ} :
    Options.readMajor value = .ok major ↔
      Numeral '2' value ∧ major = 2 ∨ Numeral '3' value ∧ major = 3 := by
  -- the numerals for a figure are what is read as its number
  have hnumeral {figure : Char} {n : ℕ} (hpos : 0 < n) (hn : n < 10)
      (hfigure : isDigit figure = true) (hvalue : digitValue figure = n) :
      signed32? value = some (n : ℤ) ↔ Numeral figure value := by
    rw [signed32?_eq_some_iff_of_lt_ten hpos hn]
    constructor
    · rintro ⟨sign, zeros, c, hsign, rfl, hc, hdigit⟩
      obtain rfl := digitValue_inj hc hfigure (hdigit.trans hvalue.symm)
      exact .numeral hsign zeros
    · rintro ⟨hsign, zeros⟩
      exact ⟨_, zeros, figure, hsign, rfl, hfigure, hvalue⟩
  have htwo : signed32? value = some 2 ↔ Numeral '2' value :=
    hnumeral (by decide) (by decide) (by decide) (by decide)
  have hthree : signed32? value = some 3 ↔ Numeral '3' value :=
    hnumeral (by decide) (by decide) (by decide) (by decide)
  rw [← htwo, ← hthree, Options.readMajor]
  constructor
  · intro h
    split at h
    · exact nomatch h
    · next number hnumber =>
        split_ifs at h with hrange
        obtain rfl := Except.ok.inj h
        rcases (show number = 2 ∨ number = 3 by omega) with rfl | rfl
        · exact Or.inl ⟨hnumber, rfl⟩
        · exact Or.inr ⟨hnumber, rfl⟩
  · rintro (⟨hnumber, rfl⟩ | ⟨hnumber, rfl⟩)
    · rw [hnumber]
      rfl
    · rw [hnumber]
      rfl

end Reading

namespace Variable

/-- What the value of a variable is read as, or why it is refused. -/
def read : (key : Variable) → Text → Except OptionError key.Entry
  | eglLibrary, value => .ok (some value)
  | glesLibrary, value => .ok (some value)
  | translate, value => Options.readFlag translate value
  | shaderCache, value => Options.readFlag shaderCache value
  | cacheDirectory, value => if value = [] then .error .emptyCacheDirectory else .ok (some value)
  | forcePbuffer, value => Options.readFlag forcePbuffer value
  | glesMajor, value => Options.readMajor value

/-- Every variable is found by its name. -/
lemma ofName?_name (key : Variable) : ofName? key.name = some key := by
  cases key <;> decide

/-- A variable is found by its own name only. -/
lemma ofName?_eq_some_iff {name : Text} {key : Variable} :
    ofName? name = some key ↔ name = key.name := by
  constructor
  · intro h
    have hname := List.find?_some h
    exact (beq_iff_eq.1 hname).symm
  · rintro rfl
    exact ofName?_name key

/-- What is said of a variable is what its value is read as. -/
lemma says_iff {name value : Text} {key : Variable} {said : key.Entry} :
    Says name value key said ↔ name = key.name ∧ key.read value = .ok said := by
  constructor
  · rintro (_ | _ | hflag | hflag | hvalue | hflag | hvalue | hvalue)
    · exact ⟨rfl, rfl⟩
    · exact ⟨rfl, rfl⟩
    · exact ⟨rfl, readFlag_eq_ok_iff.2 hflag⟩
    · exact ⟨rfl, readFlag_eq_ok_iff.2 hflag⟩
    · exact ⟨rfl, if_neg hvalue⟩
    · exact ⟨rfl, readFlag_eq_ok_iff.2 hflag⟩
    · exact ⟨rfl, readMajor_eq_ok_iff.2 (Or.inl ⟨hvalue, rfl⟩)⟩
    · exact ⟨rfl, readMajor_eq_ok_iff.2 (Or.inr ⟨hvalue, rfl⟩)⟩
  · rintro ⟨rfl, hread⟩
    cases key with
    | eglLibrary =>
        obtain rfl := Except.ok.inj hread
        exact .eglLibrary value
    | glesLibrary =>
        obtain rfl := Except.ok.inj hread
        exact .glesLibrary value
    | translate => exact .translate (readFlag_eq_ok_iff.1 hread)
    | shaderCache => exact .shaderCache (readFlag_eq_ok_iff.1 hread)
    | cacheDirectory =>
        rw [read] at hread
        split_ifs at hread with hempty
        obtain rfl := Except.ok.inj hread
        exact .cacheDirectory hempty
    | forcePbuffer => exact .forcePbuffer (readFlag_eq_ok_iff.1 hread)
    | glesMajor =>
        rcases readMajor_eq_ok_iff.1 hread with ⟨hvalue, rfl⟩ | ⟨hvalue, rfl⟩
        · exact .two hvalue
        · exact .three hvalue

end Variable

open Variable (Says)

namespace Options

/-- The option of a variable. -/
def entry (options : Options) : (key : Variable) → key.Entry
  | .eglLibrary => options.eglLibrary
  | .glesLibrary => options.glesLibrary
  | .translate => options.translateShaders
  | .shaderCache => options.shaderCache
  | .cacheDirectory => options.cacheDirectory
  | .forcePbuffer => options.forcePbuffer
  | .glesMajor => options.glesMajor

/-- The options with the one of a variable changed. -/
def withEntry (options : Options) : (key : Variable) → key.Entry → Options
  | .eglLibrary, library => { options with eglLibrary := library }
  | .glesLibrary, library => { options with glesLibrary := library }
  | .translate, flag => { options with translateShaders := flag }
  | .shaderCache, flag => { options with shaderCache := flag }
  | .cacheDirectory, directory => { options with cacheDirectory := directory }
  | .forcePbuffer, flag => { options with forcePbuffer := flag }
  | .glesMajor, major => { options with glesMajor := major }

variable {options : Options} {key other : Variable} {name value : Text} {said : key.Entry}

/-- **Options are their entries.** -/
lemma ext_entry {first second : Options} (h : ∀ key, first.entry key = second.entry key) :
    first = second := by
  cases first
  cases second
  rw [mk.injEq]
  exact ⟨h .eglLibrary, h .glesLibrary, h .translate, h .shaderCache, h .cacheDirectory,
    h .forcePbuffer, h .glesMajor⟩

/-- An entry that is set is what was set. -/
lemma entry_withEntry_self (options : Options) (key : Variable) (changed : key.Entry) :
    (options.withEntry key changed).entry key = changed := by
  cases key <;> rfl

/-- The entries of other variables stay. -/
lemma entry_withEntry_other (options : Options) (h : other ≠ key) (changed : key.Entry) :
    (options.withEntry key changed).entry other = options.entry other := by
  cases key <;> cases other <;> first | rfl | exact absurd rfl h

/-! ## Setting -/

/-- A variable is set to what is read, if anything is. -/
lemma set_eq (options : Options) (key : Variable) (value : Text) :
    options.set key value = (key.read value).map (options.withEntry key) := by
  cases key with
  | cacheDirectory =>
      rw [set, Variable.read]
      split_ifs <;> rfl
  | glesMajor => rfl
  | _ => rfl

/-- The options after calls one after the other. -/
def applyAll (calls : List (Text × Text)) : Options :=
  calls.foldl (fun options call => (options.apply call.1 call.2).2) {}

/-- A call that names no variable changes nothing. -/
lemma apply_of_unknown (h : Variable.ofName? name = none) (options : Options) (value : Text) :
    options.apply name value = (.ok false, options) := by
  rw [apply, h]

/-- A call that names a variable changes its entry, or changes nothing. -/
lemma apply_name (options : Options) (key : Variable) (value : Text) :
    options.apply key.name value
      = match key.read value with
        | .ok changed => (.ok true, options.withEntry key changed)
        | .error reason => (.error reason, options) := by
  rw [apply, Variable.ofName?_name]
  dsimp only
  rw [set_eq]
  cases key.read value <;> rfl

/-- **A call sets an entry to what it says of it.** -/
lemma apply_of_said (h : Says name value key said) (options : Options) :
    options.apply name value = (.ok true, options.withEntry key said) := by
  obtain ⟨rfl, hread⟩ := Variable.says_iff.1 h
  rw [apply_name, hread]

/-- A call that is accepted says something of a variable's option. -/
lemma exists_says_of_apply (h : (options.apply name value).1 = .ok true) :
    ∃ (key : Variable) (said : key.Entry), Says name value key said := by
  cases hname : Variable.ofName? name with
  | none =>
      rw [apply_of_unknown hname] at h
      exact nomatch h
  | some key =>
      obtain rfl := Variable.ofName?_eq_some_iff.1 hname
      rw [apply_name] at h
      cases hread : key.read value with
      | ok said => exact ⟨key, said, Variable.says_iff.2 ⟨rfl, hread⟩⟩
      | error reason =>
          rw [hread] at h
          exact nomatch h

/-- A call is accepted if and only if it says something of a variable's option. -/
lemma apply_eq_ok_iff (options : Options) (name value : Text) :
    (options.apply name value).1 = .ok true
      ↔ ∃ (key : Variable) (said : key.Entry), Says name value key said := by
  refine ⟨exists_says_of_apply, ?_⟩
  rintro ⟨key, said, h⟩
  rw [apply_of_said h]

/-- A call that is not accepted changes nothing. -/
lemma apply_snd_of_ne (h : (options.apply name value).1 ≠ .ok true) :
    (options.apply name value).2 = options := by
  cases hname : Variable.ofName? name with
  | none => rw [apply_of_unknown hname]
  | some key =>
      obtain rfl := Variable.ofName?_eq_some_iff.1 hname
      rw [apply_name] at h ⊢
      cases hread : key.read value with
      | ok said =>
          rw [hread] at h
          exact absurd rfl h
      | error reason => rfl

/-- A call leaves the entries alone of which it says nothing. -/
lemma apply_of_silent (h : ∀ said : key.Entry, ¬ Says name value key said) (options : Options) :
    (options.apply name value).2.entry key = options.entry key := by
  by_cases haccepted : (options.apply name value).1 = .ok true
  · obtain ⟨named, said, hsaid⟩ := exists_says_of_apply haccepted
    have hother : key ≠ named := by
      rintro rfl
      exact h said hsaid
    rw [apply_of_said hsaid]
    exact entry_withEntry_other options hother said
  · rw [apply_snd_of_ne haccepted]

/-- What a call leaves in an entry depends on no other entry. -/
lemma entry_apply_congr {first second : Options} (h : first.entry key = second.entry key)
    (name value : Text) :
    (first.apply name value).2.entry key = (second.apply name value).2.entry key := by
  by_cases hsaid : ∃ said : key.Entry, Says name value key said
  · obtain ⟨said, hsaid⟩ := hsaid
    rw [apply_of_said hsaid, apply_of_said hsaid, entry_withEntry_self, entry_withEntry_self]
  · rw [not_exists] at hsaid
    rw [apply_of_silent hsaid, apply_of_silent hsaid, h]

/-- What comes of a call does not depend on the options. -/
lemma apply_fst (first second : Options) (name value : Text) :
    (first.apply name value).1 = (second.apply name value).1 := by
  cases hname : Variable.ofName? name with
  | none => rw [apply_of_unknown hname, apply_of_unknown hname]
  | some key =>
      obtain rfl := Variable.ofName?_eq_some_iff.1 hname
      rw [apply_name, apply_name]
      cases key.read value <;> rfl

/-- Calls of different names can be exchanged. -/
lemma apply_comm (options : Options) {first second : Text × Text} (h : first.1 ≠ second.1) :
    ((options.apply first.1 first.2).2.apply second.1 second.2).2
      = ((options.apply second.1 second.2).2.apply first.1 first.2).2 := by
  refine ext_entry fun key => ?_
  -- of a variable, one of the names is not its own
  rcases ne_or_eq first.1 key.name with hname | hname
  · have hsilent : ∀ said : key.Entry, ¬ Says first.1 first.2 key said :=
      fun _ hsaid => hname (Variable.says_iff.1 hsaid).1
    exact (entry_apply_congr (apply_of_silent hsilent options) _ _).trans
      (apply_of_silent hsilent _).symm
  · have hsilent : ∀ said : key.Entry, ¬ Says second.1 second.2 key said :=
      fun _ hsaid => h (hname.trans (Variable.says_iff.1 hsaid).1.symm)
    exact (apply_of_silent hsilent _).trans
      (entry_apply_congr (apply_of_silent hsilent options) _ _).symm

/-! ## Calls one after the other -/

/-- None of the calls says anything of a variable's option. -/
def Silent (key : Variable) (calls : List (Text × Text)) : Prop :=
  ∀ call ∈ calls, ∀ said : key.Entry, ¬ Says call.1 call.2 key said

/-- What is said last of a variable's option; if nothing is, what it is at first. -/
inductive LastSaid (key : Variable) : List (Text × Text) → key.Entry → Prop where
  | initial {calls : List (Text × Text)} (hsilent : Silent key calls) :
      LastSaid key calls key.initial
  | said {earlier later : List (Text × Text)} {name value : Text} {said : key.Entry}
      (hsaid : Says name value key said) (hsilent : Silent key later) :
      LastSaid key (earlier ++ (name, value) :: later) said

lemma LastSaid.concat {calls : List (Text × Text)} (h : LastSaid key calls said)
    (hsilent : ∀ other : key.Entry, ¬ Says name value key other) :
    LastSaid key (calls ++ [(name, value)]) said := by
  have hlater {later : List (Text × Text)} (hlater : Silent key later) :
      Silent key (later ++ [(name, value)]) := by
    intro call hcall
    rcases List.mem_append.1 hcall with hcall | hcall
    · exact hlater call hcall
    · rw [List.mem_singleton.1 hcall]
      exact hsilent
  cases h with
  | initial hcalls => exact .initial (hlater hcalls)
  | said hsaid hcalls =>
      rw [List.append_assoc]
      exact .said hsaid (hlater hcalls)

/-- **What is said last counts.** -/
theorem lastSaid_applyAll (calls : List (Text × Text)) (key : Variable) :
    LastSaid key calls ((applyAll calls).entry key) := by
  induction calls using List.reverseRecOn with
  | nil =>
      have hinitial : (applyAll []).entry key = key.initial := by cases key <;> rfl
      rw [hinitial]
      exact .initial fun _ hcall => absurd hcall List.not_mem_nil
  | append_singleton calls call ih =>
      obtain ⟨name, value⟩ := call
      rw [applyAll, List.foldl_concat, ← applyAll]
      by_cases hsaid : ∃ said : key.Entry, Says name value key said
      · obtain ⟨said, hsaid⟩ := hsaid
        rw [apply_of_said hsaid, entry_withEntry_self]
        exact .said hsaid fun _ hcall => absurd hcall List.not_mem_nil
      · rw [not_exists] at hsaid
        rw [apply_of_silent hsaid]
        exact ih.concat hsaid

/-- Options that can be used without another check. -/
structure Usable (options : Options) : Prop where
  glesMajor : options.glesMajor = 2 ∨ options.glesMajor = 3
  cacheDirectory : options.cacheDirectory ≠ some []

/-- What is said of options can be used. -/
lemma Usable.withEntry (h : options.Usable) (hsaid : Says name value key said) :
    (options.withEntry key said).Usable := by
  cases hsaid with
  | two => exact ⟨Or.inl rfl, h.cacheDirectory⟩
  | three => exact ⟨Or.inr rfl, h.cacheDirectory⟩
  | cacheDirectory hvalue => exact ⟨h.glesMajor, fun hempty => hvalue (Option.some.inj hempty)⟩
  | _ => exact ⟨h.glesMajor, h.cacheDirectory⟩

lemma Usable.apply (h : options.Usable) (name value : Text) :
    (options.apply name value).2.Usable := by
  by_cases haccepted : (options.apply name value).1 = .ok true
  · obtain ⟨key, said, hsaid⟩ := exists_says_of_apply haccepted
    rw [apply_of_said hsaid]
    exact h.withEntry hsaid
  · rwa [apply_snd_of_ne haccepted]

/-- Whatever calls there were, the options are usable. -/
theorem usable_applyAll (calls : List (Text × Text)) : (applyAll calls).Usable := by
  induction calls using List.reverseRecOn with
  | nil => exact ⟨.inr rfl, nofun⟩
  | append_singleton calls call ih =>
      rw [applyAll, List.foldl_concat]
      exact ih.apply call.1 call.2

/-! ## The result -/

/-- **Setting an option is all or nothing, and sets no other one.**  After any calls, a call is accepted
if and only if it says something of a variable's option.  If it is, this entry becomes what is said and
no other one changes; otherwise the options stay as they are.  Calls of different names can be
exchanged.  An entry holds what was said of it last, or what it was at first.  The version and the
cache directory can be used without another check. -/
theorem applyAll_local (calls : List (Text × Text)) :
    let options := applyAll calls
    (∀ name value, (options.apply name value).1 = .ok true
      ↔ ∃ (key : Variable) (said : key.Entry), Says name value key said) ∧
    (∀ name value, (options.apply name value).1 ≠ .ok true →
      (options.apply name value).2 = options) ∧
    (∀ name value (key : Variable) (said : key.Entry), Says name value key said →
      (options.apply name value).2.entry key = said ∧
        ∀ other ≠ key, (options.apply name value).2.entry other = options.entry other) ∧
    (∀ first second : Text × Text, first.1 ≠ second.1 →
      let early := options.apply first.1 first.2
      let late := options.apply second.1 second.2
      (early.2.apply second.1 second.2).2 = (late.2.apply first.1 first.2).2 ∧
        (early.2.apply second.1 second.2).1 = late.1 ∧
        (late.2.apply first.1 first.2).1 = early.1) ∧
    (∀ key, LastSaid key calls (options.entry key)) ∧
    (options.glesMajor = 2 ∨ options.glesMajor = 3) ∧ options.cacheDirectory ≠ some [] := by
  have husable := usable_applyAll calls
  refine ⟨apply_eq_ok_iff _, fun _ _ => apply_snd_of_ne, ?_, ?_, lastSaid_applyAll calls,
    husable.glesMajor, husable.cacheDirectory⟩
  · intro name value key said hsaid
    rw [apply_of_said hsaid]
    exact ⟨entry_withEntry_self _ key said, fun other hother => entry_withEntry_other _ hother said⟩
  · intro first second h
    exact ⟨apply_comm _ h, apply_fst _ _ _ _, apply_fst _ _ _ _⟩

/-- Every variable is set, five of them twice or more, and one name is none of a variable. -/
def manyCalls : List (Text × Text) :=
  [("LIBGL_EGL".toList, "libEGL.so".toList), ("LIBGL_GLES".toList, []),
    ("GLXES_TRANSLATE".toList, "off".toList), ("GLXES_TRANSLATE".toList, "maybe".toList),
    ("GLXES_SHADER_CACHE".toList, "0".toList), ("GLXES_SHADER_CACHE".toList, "yes".toList),
    ("GLXES_CACHE_DIR".toList, "/tmp".toList), ("GLXES_CACHE_DIR".toList, []),
    ("GLXES_FORCE_PBUFFER".toList, "on".toList), ("GLXES_FORCE_PBUFFER".toList, "TRUE".toList),
    ("GLXES_GLES_MAJOR".toList, "+002".toList), ("GLXES_GLES_MAJOR".toList, "4294967299".toList),
    ("GLXES_GLES_MAJOR".toList, " 3".toList), ("GLXES_NOPE".toList, "1".toList)]

/-- What is set by these calls, and by a few more. -/
theorem applyAll_local_manyCalls :
    let options : Options :=
      { eglLibrary := some "libEGL.so".toList, glesLibrary := some []
        translateShaders := false, shaderCache := true, cacheDirectory := some "/tmp".toList
        forcePbuffer := true, glesMajor := 2 }
    applyAll manyCalls = options ∧
      (options.apply "GLXES_GLES_MAJOR".toList "-3".toList).2 = options ∧
      (options.apply "GLXES_GLES_MAJOR".toList "03".toList).1 = .ok true ∧
      ((options.apply "GLXES_GLES_MAJOR".toList "03".toList).2.glesMajor = 3 ∧
        (options.apply "GLXES_GLES_MAJOR".toList "03".toList).2.forcePbuffer = true) ∧
      LastSaid .glesMajor manyCalls (2 : ℤ) := by
  intro options
  have hall : applyAll manyCalls = options ∧
      (options.apply "GLXES_GLES_MAJOR".toList "-3".toList).1 ≠ .ok true := by
    unfold manyCalls options
    repeat rw [toList_literal rfl]
    decide +kernel
  obtain ⟨hoptions, hrefused⟩ := hall
  have hlocal := applyAll_local manyCalls
  rw [hoptions] at hlocal
  obtain ⟨haccepted, hkept, hset, -, hlast, -⟩ := hlocal
  have hsaid : Says "GLXES_GLES_MAJOR".toList "03".toList .glesMajor (3 : ℤ) :=
    .three (.numeral (Or.inl rfl) 1)
  obtain ⟨hthree, hothers⟩ := hset _ _ _ _ hsaid
  exact ⟨hoptions, hkept _ _ hrefused, (haccepted _ _).2 ⟨_, _, hsaid⟩,
    ⟨hthree, hothers .forcePbuffer nofun⟩, hlast .glesMajor⟩

end Options

end GlBridge
