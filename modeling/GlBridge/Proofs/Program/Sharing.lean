import GlBridge.Proofs.Program.Cache
import GlBridge.Proofs.Text.Decimal

/-!
# Processes that share a cache

Several processes may use one cache directory at the same time, and any of them may be stopped
halfway.  An entry is therefore written under a temporary name that has the number of the process
in it, and only a whole file is given the entry's name.

**Steps.**  `ProgramCache.step?` says what a process can do next: to write is to make the temporary
file, add the bytes in pieces and rename, and after a failure to remove what there is.  To rename, to
remove and to read a whole file are single steps.  A process that is stopped keeps nothing but what
is in the tree.  One that is left alone does what the operations of the cache do
(`exists_run_write`, `exists_run_read`).

**Names.**  What a process adds to is no entry, and nobody else's (`temporaryPath_apart`,
`temporaryPath_apart_entryPath`).  So bytes that are added by name are added to the file that the
process has made, as with a file that is held open.

**Origins.**  Along a run, a file that is being filled holds the first part of what its process was
asked to write (`Backed`), and an entry holds all of what some process was asked to write (`Stems`).
A step keeps this up (`Consistent.step`), so it holds after any run, however the steps are mixed.
-/

namespace GlBridge

/-! ## Names -/

/-- Two paths are not the same, and wherever they lead it is not to the same place. -/
structure Path.Apart (path other : Path) : Prop where
  ne : path ≠ other
  places : ∀ (files : Files) place, files.resolve path = .ok place → files.resolve other ≠ .ok place

/-- Different names in one directory lead apart. -/
lemma Path.apart_join {directory : Path} {name other : Text} (hname : Path.Plain name)
    (hother : Path.Plain other) (hne : name ≠ other) :
    Path.Apart (Path.join directory name) (Path.join directory other) where
  ne h := by
    have hnames := congrArg Path.names h
    rw [Path.names_join directory hname, Path.names_join directory hother] at hnames
    exact hne (List.cons.inj (List.append_cancel_left hnames)).1
  places files place hplace hsame := by
    by_cases hleads : ∃ reached, files.Leads directory reached
    · obtain ⟨reached, hleads⟩ := hleads
      rw [Files.resolve_join hleads hname] at hplace
      rw [Files.resolve_join hleads hother] at hsame
      split_ifs at hplace hsame
      have heq := (Except.ok.inj hplace).trans (Except.ok.inj hsame).symm
      exact hne (List.cons.inj (List.append_cancel_left heq)).1
    · obtain ⟨e, he⟩ := Files.resolve_join_error (not_exists.1 hleads) hname
      rw [he] at hplace
      exact absurd hplace (by simp)

namespace ProgramCache

open Files

section Names

variable {cache other : ProgramCache}

/-- The name of a temporary file says whose it is. -/
lemma process_of_temporaryName {key key' : Digest}
    (h : cache.temporaryName key = other.temporaryName key') : cache.process = other.process := by
  have hend := (List.append_inj h (by rw [key.length_toHex, key'.length_toHex])).2
  exact Text.ofNat_injective (List.append_cancel_right (List.cons.inj hend).2)

lemma temporaryPath_apart (hdirectory : cache.directory = other.directory)
    (hprocess : cache.process ≠ other.process) (key key' : Digest) :
    Path.Apart (cache.temporaryPath key) (other.temporaryPath key') := by
  rw [temporaryPath_eq, temporaryPath_eq, hdirectory]
  exact Path.apart_join (plain_temporaryName cache key) (plain_temporaryName other key')
    fun h => hprocess (process_of_temporaryName h)

lemma temporaryPath_apart_entryPath (hdirectory : cache.directory = other.directory)
    (key key' : Digest) : Path.Apart (cache.temporaryPath key) (other.entryPath key') := by
  rw [temporaryPath_eq, entryPath, hdirectory]
  exact Path.apart_join (plain_temporaryName cache key) (plain_toHex key')
    (cache.temporaryName_ne_toHex key key')

end Names

/-! ## Steps -/

/-- What a process is doing. -/
inductive Activity where
  /-- Nothing that goes on. -/
  | idle
  /-- Writing, with the temporary file to be made. -/
  | starting (key : Digest) (binary : ProgramBinary)
  /-- Writing, with the bytes that the temporary file still lacks. -/
  | filling (key : Digest) (binary : ProgramBinary) (bytes : Bytes)
  /-- Writing has failed, and the temporary file is to be removed. -/
  | failing (key : Digest)
deriving DecidableEq, Repr

/-- What a process does in one step. -/
inductive Event where
  /-- It is asked to write an entry. -/
  | write (key : Digest) (binary : ProgramBinary)
  /-- It makes its temporary file. -/
  | create
  /-- It adds some of the bytes. -/
  | append (count : ℕ)
  /-- It gives its temporary file the name of the entry. -/
  | rename
  /-- It removes its temporary file after a failure. -/
  | cleanUp
  /-- It reads the file of an entry. -/
  | read (key : Digest) (result : Except FileError Bytes)
  /-- It removes an entry. -/
  | remove (key : Digest)
  /-- It is stopped, and another one may come in its place. -/
  | crash
deriving DecidableEq

/-- A step of one process, if what it is doing admits it. -/
def step? (cache : ProgramCache) : Activity → Event → Files → Option (Activity × Files)
  | _, .crash, files => some (.idle, files)
  | .idle, .write key binary, files => some (.starting key binary, files)
  | .starting key binary, .create, files =>
    match files.create (cache.temporaryPath key) with
    | (.ok (), files) => some (.filling key binary binary.encode, files)
    | (.error _, files) => some (.failing key, files)
  | .filling key binary bytes, .append count, files =>
    match files.append (cache.temporaryPath key) (bytes.take count) with
    | (.ok (), files) => some (.filling key binary (bytes.drop count), files)
    | (.error _, files) => some (.failing key, files)
  | .filling key _ [], .rename, files =>
    match files.rename (cache.temporaryPath key) (cache.entryPath key) with
    | (.ok (), files) => some (.idle, files)
    | (.error _, files) => some (.failing key, files)
  | .failing key, .cleanUp, files => some (.idle, (files.remove (cache.temporaryPath key)).2)
  | .idle, .read key result, files =>
    if files.read (cache.entryPath key) = result then some (.idle, files) else none
  | .idle, .remove key, files => some (.idle, cache.remove key files)
  | _, _, _ => none

/-- Steps of one process. -/
def run? (cache : ProgramCache) (activity : Activity) (files : Files) (events : List Event) :
    Option (Activity × Files) :=
  events.foldlM (fun (activity, files) event => cache.step? activity event files) (activity, files)

/-- The processes and the tree that they share. -/
structure Shared (ι : Type) where
  files : Files
  activity : ι → Activity

namespace Shared

variable {ι : Type} [DecidableEq ι]

/-- A step of one of the processes. -/
def step? (cache : ι → ProgramCache) (shared : Shared ι) (step : ι × Event) : Option (Shared ι) :=
  ((cache step.1).step? (shared.activity step.1) step.2 shared.files).map fun next =>
    { files := next.2, activity := Function.update shared.activity step.1 next.1 }

/-- Steps of the processes, one after the other. -/
def run? (cache : ι → ProgramCache) (shared : Shared ι) (steps : List (ι × Event)) :
    Option (Shared ι) :=
  steps.foldlM (step? cache) shared

end Shared

/-! ## One process by itself -/

section Alone

variable {cache : ProgramCache} {files : Files} {key : Digest}

lemma run?_cons (activity : Activity) (event : Event) (events : List Event) :
    cache.run? activity files (event :: events)
      = (cache.step? activity event files).bind fun next => cache.run? next.1 next.2 events := rfl

lemma run?_nil (activity : Activity) : cache.run? activity files [] = some (activity, files) := rfl

/-- Writing without a break is a run. -/
theorem exists_run_write (cache : ProgramCache) (key : Digest) (binary : ProgramBinary)
    (files : Files) : ∃ events, .crash ∉ events ∧ cache.run? .idle files (.write key binary :: events)
      = some (.idle, (cache.write key binary files).2) := by
  rw [write, publish, fill]
  rcases hcreate : files.create (cache.temporaryPath key) with ⟨_ | _, made⟩
  · refine ⟨[.create, .cleanUp], by decide, ?_⟩
    simp only [run?_cons, run?_nil, step?, Option.bind_some, hcreate]
  rcases happend : made.append (cache.temporaryPath key) binary.encode with ⟨_ | _, filled⟩
  · refine ⟨[.create, .append binary.encode.length, .cleanUp], by simp, ?_⟩
    simp only [run?_cons, run?_nil, step?, Option.bind_some, hcreate, List.take_length, happend]
  rcases hrename : filled.rename (cache.temporaryPath key) (cache.entryPath key) with
    ⟨_ | _, renamed⟩
  · refine ⟨[.create, .append binary.encode.length, .rename, .cleanUp], by simp, ?_⟩
    simp only [run?_cons, run?_nil, step?, Option.bind_some, hcreate, List.take_length, happend,
      List.drop_length, hrename]
  · refine ⟨[.create, .append binary.encode.length, .rename], by simp, ?_⟩
    simp only [run?_cons, run?_nil, step?, Option.bind_some, hcreate, List.take_length, happend,
      List.drop_length, hrename]

/-- Reading without a break is a run. -/
theorem exists_run_read (cache : ProgramCache) (key : Digest) (files : Files) :
    ∃ events, .crash ∉ events ∧
      cache.run? .idle files (.read key (files.read (cache.entryPath key)) :: events)
        = some (.idle, (cache.read key files).2) := by
  rw [read]
  cases hread : files.read (cache.entryPath key) with
  | error e =>
      refine ⟨[], List.not_mem_nil, ?_⟩
      simp only [run?_cons, run?_nil, step?, hread, if_true, Option.bind_some]
  | ok bytes =>
      cases hdecode : ProgramBinary.decode? bytes with
      | some binary =>
          refine ⟨[], List.not_mem_nil, ?_⟩
          simp only [run?_cons, run?_nil, step?, hread, if_true, Option.bind_some, hdecode]
      | none =>
          refine ⟨[.remove key], by simp, ?_⟩
          simp only [run?_cons, run?_nil, step?, hread, if_true, Option.bind_some, hdecode]

end Alone

namespace Shared

variable {ι : Type} [DecidableEq ι]

/-- Steps of one process are steps of all of them. -/
theorem run?_alone (cache : ι → ProgramCache) (i : ι) (shared : Shared ι) (events : List Event) :
    shared.run? cache (events.map fun event => (i, event))
      = ((cache i).run? (shared.activity i) shared.files events).map fun next =>
          { files := next.2, activity := Function.update shared.activity i next.1 } := by
  induction events generalizing shared with
  | nil =>
      show some shared = some ⟨_, Function.update shared.activity i (shared.activity i)⟩
      rw [Function.update_eq_self]
  | cons event events ih =>
      rw [List.map_cons, run?, List.foldlM_cons, run?_cons, step?]
      cases (cache i).step? (shared.activity i) event shared.files with
      | none => rfl
      | some next =>
          refine (ih _).trans ?_
          simp only [Option.bind_some, Function.update_self, Function.update_idem]

/-- The processes can leave the tree as one that is left alone would, if it is idle before and after. -/
lemma exists_run?_alone {cache : ι → ProgramCache} {i : ι} {shared : Shared ι} {files : Files}
    (hidle : shared.activity i = .idle) {first : Event}
    (h : ∃ events, .crash ∉ events ∧
      (cache i).run? .idle shared.files (first :: events) = some (.idle, files)) :
    ∃ events, .crash ∉ events ∧
      shared.run? cache ((first :: events).map fun event => (i, event))
        = some { shared with files } := by
  obtain ⟨events, hcrash, hrun⟩ := h
  refine ⟨events, hcrash, ?_⟩
  rw [run?_alone, hidle, hrun, Option.map_some, ← hidle, Function.update_eq_self]

end Shared

/-! ## What a step does -/

section Step

variable {cache : ProgramCache} {place : Place} {files files' : Files} {key : Digest}
  {activity activity' : Activity} {event : Event} {asked asked' : Digest → ProgramBinary → Prop}

/-- A process has been asked to write what it writes, and its temporary file holds the first part of
it. -/
def Backed (cache : ProgramCache) (place : Place) (asked : Digest → ProgramBinary → Prop)
    (files : Files) : Activity → Prop
  | .idle => True
  | .starting key binary => asked key binary
  | .filling key binary bytes => asked key binary ∧ ∃ done, done ++ bytes = binary.encode ∧
      files.node? (cache.temporaryPlace place key) = some (.file done)
  | .failing _ => True

lemma Backed.mono (h : Backed cache place asked files activity)
    (hasked : ∀ key binary, asked key binary → asked' key binary)
    (hsame : ∀ key, files'.node? (cache.temporaryPlace place key)
      = files.node? (cache.temporaryPlace place key)) :
    Backed cache place asked' files' activity := by
  cases activity with
  | idle => trivial
  | starting key binary => exact hasked _ _ h
  | filling key binary bytes =>
      obtain ⟨hwrite, done, hdone, hfile⟩ := h
      exact ⟨hasked _ _ hwrite, done, hdone, (hsame key).trans hfile⟩
  | failing key => trivial

/-- What a step of a process does to the tree.  It changes entries and the process's own temporary
files, and the file of an entry stays as it is or comes to hold all that the process was asked to
write. -/
structure Effect (cache : ProgramCache) (place : Place) (asked : Digest → ProgramBinary → Prop)
    (files files' : Files) : Prop where
  changes : ∃ places, ChangesOnly places files files' ∧
    ∀ p ∈ places, ∃ key, p = entryPlace place key ∨ p = cache.temporaryPlace place key
  entry : ∀ key content, files'.node? (entryPlace place key) = some (.file content) →
    files.node? (entryPlace place key) = some (.file content) ∨
      ∃ binary, asked key binary ∧ content = binary.encode

/-- A change of a temporary file alone. -/
lemma effect_of_temporary (h : ChangesOnly [cache.temporaryPlace place key] files files') :
    Effect cache place asked files files' where
  changes := ⟨_, h, fun _ hp => ⟨key, Or.inr (List.mem_singleton.1 hp)⟩⟩
  entry other content hcontent := by
    rw [h.elsewhere _ (by simpa using entryPlace_ne_temporaryPlace cache place other key)] at hcontent
    exact Or.inl hcontent

lemma effect_of_node?_eq (h : files'.node? = files.node?) :
    Effect cache place asked files files' where
  changes := ⟨[], .of_node?_eq h, fun _ hp => absurd hp List.not_mem_nil⟩
  entry _ _ hcontent := Or.inl (h ▸ hcontent)

lemma effect_refl : Effect cache place asked files files := effect_of_node?_eq rfl

lemma effect_remove (h : files.Leads cache.directory place) (key : Digest) :
    Effect cache place asked files (cache.remove key files) where
  changes := ⟨_, remove_changesOnly h key, fun _ hp => ⟨key, Or.inl (List.mem_singleton.1 hp)⟩⟩
  entry _ _ hcontent :=
    Or.inl (Files.remove_nothingNew files (cache.entryPath key) _ _ hcontent)

/-- Making the temporary file. -/
lemma create_effect {result : Except FileError Unit} (h : files.Leads cache.directory place)
    (hcreate : files.create (cache.temporaryPath key) = (result, files')) :
    ChangesOnly [cache.temporaryPlace place key] files files' ∧
      (result = .ok () → files'.node? (cache.temporaryPlace place key) = some (.file [])) := by
  rcases resolve_temporaryPath h key with hlong | hplace
  · rw [create, hlong] at hcreate
    obtain ⟨rfl, rfl⟩ := Prod.mk.inj hcreate
    exact ⟨.refl _ _, fun hok => absurd hok (by simp)⟩
  · rcases create_cases hplace with ⟨e, same, herror, hsame, -⟩ | ⟨hplain, hmade⟩
    · obtain ⟨rfl, rfl⟩ := Prod.mk.inj (herror.symm.trans hcreate)
      exact ⟨.of_node?_eq hsame, fun hok => absurd hok (by simp)⟩
    · obtain ⟨rfl, rfl⟩ := Prod.mk.inj (hmade.symm.trans hcreate)
      obtain ⟨hchange, hempty⟩ := put_spent hplain []
      exact ⟨hchange, fun _ => hempty⟩

/-- Adding to the temporary file. -/
lemma append_effect {result : Except FileError Unit} (h : files.Leads cache.directory place)
    {done bytes : Bytes}
    (hfile : files.node? (cache.temporaryPlace place key) = some (.file done))
    (happend : files.append (cache.temporaryPath key) bytes = (result, files')) :
    ChangesOnly [cache.temporaryPlace place key] files files' ∧
      (result = .ok () →
        files'.node? (cache.temporaryPlace place key) = some (.file (done ++ bytes))) := by
  rcases resolve_temporaryPath h key with hlong | hplace
  · rw [append, hlong] at happend
    obtain ⟨rfl, rfl⟩ := Prod.mk.inj happend
    exact ⟨.refl _ _, fun hok => absurd hok (by simp)⟩
  · rcases append_cases hplace hfile bytes with ⟨e, same, herror, hsame, -⟩ | hadded
    · obtain ⟨rfl, rfl⟩ := Prod.mk.inj (herror.symm.trans happend)
      exact ⟨.of_node?_eq hsame, fun hok => absurd hok (by simp)⟩
    · obtain ⟨rfl, rfl⟩ := Prod.mk.inj (hadded.symm.trans happend)
      obtain ⟨hchange, hcontent⟩ := put_spent (by rw [hfile]; simp) (done ++ bytes)
      exact ⟨hchange, fun _ => hcontent⟩

/-- Removing the temporary file. -/
lemma cleanUp_effect (h : files.Leads cache.directory place) (key : Digest) :
    ChangesOnly [cache.temporaryPlace place key] files
      (files.remove (cache.temporaryPath key)).2 := by
  rcases resolve_temporaryPath h key with hlong | hplace
  · rw [remove_of_resolve_error hlong]
    exact .refl _ _
  · exact Files.remove_changesOnly hplace

/-- Giving the temporary file the name of the entry. -/
lemma rename_effect {result : Except FileError Unit} (h : files.Leads cache.directory place)
    {binary : ProgramBinary} (hasked : asked key binary)
    (hfile : files.node? (cache.temporaryPlace place key) = some (.file binary.encode))
    (hrename : files.rename (cache.temporaryPath key) (cache.entryPath key) = (result, files')) :
    Effect cache place asked files files' := by
  rcases resolve_temporaryPath h key with hlong | hplace
  · rw [rename, hlong] at hrename
    obtain ⟨rfl, rfl⟩ := Prod.mk.inj hrename
    exact effect_refl
  · rcases rename_cases hplace (resolve_entryPath h key) hfile with
      ⟨e, same, herror, hsame, -⟩ | ⟨hplain, hmove⟩
    · obtain ⟨rfl, rfl⟩ := Prod.mk.inj (herror.symm.trans hrename)
      exact effect_of_node?_eq hsame
    · obtain ⟨rfl, rfl⟩ := Prod.mk.inj (hmove.symm.trans hrename)
      have hne := entryPlace_ne_temporaryPlace cache place
      obtain ⟨hmoved, hentry, -⟩ :=
        move_spent (by rw [hfile]; simp) hplain (hne key key).symm binary.encode
      refine ⟨⟨_, hmoved, fun _ hp => ⟨key, by simpa using hp⟩⟩, fun other content hcontent => ?_⟩
      by_cases hother : other = key
      · rw [hother, hentry] at hcontent
        obtain rfl : binary.encode = content := by simpa using hcontent
        exact Or.inr ⟨binary, hother ▸ hasked, rfl⟩
      · rw [hmoved.elsewhere] at hcontent
        · exact Or.inl hcontent
        · simpa [entryPlace_inj, hother] using hne other key

/-- **What one step does**, to the tree and to the process. -/
theorem step?_effect (hleads : files.Leads cache.directory place)
    (hbacked : Backed cache place asked files activity)
    (h : cache.step? activity event files = some (activity', files'))
    (hasked : ∀ key binary, asked key binary → asked' key binary)
    (hwrite : ∀ key binary, event = .write key binary → asked' key binary) :
    Effect cache place asked files files' ∧ Backed cache place asked' files' activity' := by
  revert h
  fun_cases step? cache activity event files <;> intro h
  case case1 =>
    obtain ⟨rfl, rfl⟩ := Prod.mk.inj (Option.some.inj h)
    exact ⟨effect_refl, trivial⟩
  case case2 key binary =>
    obtain ⟨rfl, rfl⟩ := Prod.mk.inj (Option.some.inj h)
    exact ⟨effect_refl, hwrite key binary rfl⟩
  case case3 key binary made hcreate =>
    obtain ⟨rfl, rfl⟩ := Prod.mk.inj (Option.some.inj h)
    obtain ⟨hchange, hempty⟩ := create_effect hleads hcreate
    exact ⟨effect_of_temporary hchange, hasked _ _ hbacked, [], rfl, hempty rfl⟩
  case case4 key binary e made hcreate =>
    obtain ⟨rfl, rfl⟩ := Prod.mk.inj (Option.some.inj h)
    exact ⟨effect_of_temporary (create_effect hleads hcreate).1, trivial⟩
  case case5 key binary bytes count added happend =>
    obtain ⟨rfl, rfl⟩ := Prod.mk.inj (Option.some.inj h)
    obtain ⟨hwrite, done, hdone, hfile⟩ := hbacked
    obtain ⟨hchange, hcontent⟩ := append_effect hleads hfile happend
    refine ⟨effect_of_temporary hchange, hasked _ _ hwrite, done ++ bytes.take count, ?_,
      hcontent rfl⟩
    rw [List.append_assoc, List.take_append_drop, hdone]
  case case6 key binary bytes count e same happend =>
    obtain ⟨rfl, rfl⟩ := Prod.mk.inj (Option.some.inj h)
    obtain ⟨_, done, _, hfile⟩ := hbacked
    exact ⟨effect_of_temporary (append_effect hleads hfile happend).1, trivial⟩
  case case7 key binary moved hrename =>
    obtain ⟨rfl, rfl⟩ := Prod.mk.inj (Option.some.inj h)
    obtain ⟨hwrite, done, hdone, hfile⟩ := hbacked
    -- no bytes are lacking, so the temporary file holds all of them
    rw [List.append_nil] at hdone
    exact ⟨rename_effect hleads hwrite (hdone ▸ hfile) hrename, trivial⟩
  case case8 key binary e same hrename =>
    obtain ⟨rfl, rfl⟩ := Prod.mk.inj (Option.some.inj h)
    obtain ⟨hwrite, done, hdone, hfile⟩ := hbacked
    rw [List.append_nil] at hdone
    exact ⟨rename_effect hleads hwrite (hdone ▸ hfile) hrename, trivial⟩
  case case9 key =>
    obtain ⟨rfl, rfl⟩ := Prod.mk.inj (Option.some.inj h)
    exact ⟨effect_of_temporary (cleanUp_effect hleads key), trivial⟩
  case case10 key =>
    obtain ⟨rfl, rfl⟩ := Prod.mk.inj (Option.some.inj h)
    exact ⟨effect_refl, trivial⟩
  case case11 => exact absurd h (by simp)
  case case12 key =>
    obtain ⟨rfl, rfl⟩ := Prod.mk.inj (Option.some.inj h)
    exact ⟨effect_remove hleads key, trivial⟩
  case case13 => exact absurd h (by simp)

end Step

/-! ## Runs -/

namespace Shared

variable {ι : Type} [DecidableEq ι] {cache : ι → ProgramCache}

/-- Some process was asked to write the content under the key. -/
def Stems (past : List (ι × Event)) (key : Digest) (content : Bytes) : Prop :=
  ∃ i binary, (i, .write key binary) ∈ past ∧ content = binary.encode

/-- What holds along a run.  Entries that were not there at the start are what was asked for, and
every process has to show for what it is doing. -/
structure Consistent (cache : ι → ProgramCache) (place : Place) (start : Files)
    (past : List (ι × Event)) (shared : Shared ι) : Prop where
  leads : ∀ i, shared.files.Leads (cache i).directory place
  entry : ∀ key content, shared.files.node? (entryPlace place key) = some (.file content) →
    start.node? (entryPlace place key) = some (.file content) ∨ Stems past key content
  backed : ∀ i, Backed (cache i) place (fun key binary => (i, .write key binary) ∈ past)
    shared.files (shared.activity i)

variable {place : Place} {start : Files} {past : List (ι × Event)} {shared shared' : Shared ι}

/-- **A step keeps this up**, whoever does it. -/
theorem Consistent.step (h : Consistent cache place start past shared)
    (hprocess : Function.Injective fun i => (cache i).process) {step : ι × Event}
    (hstep : shared.step? cache step = some shared') :
    Consistent cache place start (past ++ [step]) shared' := by
  obtain ⟨i, event⟩ := step
  obtain ⟨⟨activity', files'⟩, hown, rfl⟩ := Option.map_eq_some_iff.1 hstep
  have hpast : ∀ step ∈ past, step ∈ past ++ [(i, event)] := fun _ => List.mem_append_left _
  have hnew : ∀ key binary, event = .write key binary →
      (i, Event.write key binary) ∈ past ++ [(i, event)] := by
    rintro key binary rfl
    exact List.mem_append_right _ List.mem_cons_self
  obtain ⟨⟨⟨places, hchange, hplaces⟩, hentry⟩, hbacked⟩ :=
    step?_effect (h.leads i) (h.backed i) hown (fun _ _ => hpast _) hnew
  refine ⟨fun j => (h.leads j).changed hchange, fun key content hcontent => ?_, fun j => ?_⟩
  · rcases hentry key content hcontent with hbefore | ⟨binary, hasked, rfl⟩
    · rcases h.entry key content hbefore with hstart | ⟨j, binary, hwrite, rfl⟩
      · exact Or.inl hstart
      · exact Or.inr ⟨j, binary, hpast _ hwrite, rfl⟩
    · exact Or.inr ⟨i, binary, hpast _ hasked, rfl⟩
  · show Backed (cache j) place _ files' (Function.update shared.activity i activity' j)
    by_cases hj : j = i
    · rw [hj, Function.update_self]
      exact hbacked
    · rw [Function.update_of_ne hj]
      refine (h.backed j).mono (fun _ _ => hpast _) fun key => hchange.elsewhere _ fun hmem => ?_
      -- the temporary file of another process is none of the places that change
      obtain ⟨other, hother | hother⟩ := hplaces _ hmem
      · exact entryPlace_ne_temporaryPlace (cache j) place other key hother.symm
      · exact hj (hprocess (process_of_temporaryName
          (List.cons.inj (List.append_cancel_left hother)).1))

/-- **It holds after any run.** -/
theorem Consistent.run (h : Consistent cache place start past shared)
    (hprocess : Function.Injective fun i => (cache i).process) {steps : List (ι × Event)}
    (hrun : shared.run? cache steps = some shared') :
    Consistent cache place start (past ++ steps) shared' := by
  induction steps generalizing past shared with
  | nil =>
      rw [run?, List.foldlM_nil, Option.pure_def, Option.some.injEq] at hrun
      rwa [List.append_nil, ← hrun]
  | cons step steps ih =>
      rw [run?, List.foldlM_cons, Option.bind_eq_bind, Option.bind_eq_some_iff] at hrun
      obtain ⟨middle, hstep, hrun⟩ := hrun
      rw [List.append_cons]
      exact ih (h.step hprocess hstep) hrun

/-! ## What is read -/

/-- A file that is read is what the tree holds then. -/
lemma read_of_step? {cache : ProgramCache} {activity : Activity} {files : Files} {key : Digest}
    {result : Except FileError Bytes} {next : Activity × Files}
    (h : cache.step? activity (.read key result) files = some next) :
    files.read (cache.entryPath key) = result := by
  cases activity with
  | idle => exact (Option.ite_none_right_eq_some.1 h).1
  | starting key binary => exact absurd h (by simp [ProgramCache.step?])
  | filling key binary bytes => exact absurd h (by simp [ProgramCache.step?])
  | failing key => exact absurd h (by simp [ProgramCache.step?])

/-- Where there is no directory, nothing changes. -/
lemma step?_of_unreached {cache : ProgramCache} {activity activity' : Activity} {event : Event}
    {files files' : Files} (h : ∀ place, ¬ files.Leads cache.directory place)
    (hstep : cache.step? activity event files = some (activity', files')) : files' = files := by
  have hentry : ∀ key, ∃ e, files.resolve (cache.entryPath key) = .error e := fun key =>
    (resolve_error h key).1
  have htemporary : ∀ key, ∃ e, files.resolve (cache.temporaryPath key) = .error e := fun key =>
    (resolve_error h key).2
  revert hstep
  fun_cases ProgramCache.step? cache activity event files <;> intro hstep
  case case3 key binary made hcreate =>
    obtain ⟨e, he⟩ := htemporary key
    rw [create, he] at hcreate
    exact absurd hcreate (by simp)
  case case4 key binary e made hcreate =>
    obtain ⟨e, he⟩ := htemporary key
    rw [create, he] at hcreate
    obtain ⟨rfl, rfl⟩ := Prod.mk.inj (Option.some.inj hstep)
    exact (Prod.mk.inj hcreate).2.symm
  case case5 key binary bytes count added happend =>
    obtain ⟨e, he⟩ := htemporary key
    rw [append, he] at happend
    exact absurd happend (by simp)
  case case6 key binary bytes count e same happend =>
    obtain ⟨e, he⟩ := htemporary key
    rw [append, he] at happend
    obtain ⟨rfl, rfl⟩ := Prod.mk.inj (Option.some.inj hstep)
    exact (Prod.mk.inj happend).2.symm
  case case7 key binary moved hrename =>
    obtain ⟨e, he⟩ := htemporary key
    rw [rename, he] at hrename
    exact absurd hrename (by simp)
  case case8 key binary e same hrename =>
    obtain ⟨e, he⟩ := htemporary key
    rw [rename, he] at hrename
    obtain ⟨rfl, rfl⟩ := Prod.mk.inj (Option.some.inj hstep)
    exact (Prod.mk.inj hrename).2.symm
  case case9 key =>
    obtain ⟨e, he⟩ := htemporary key
    obtain ⟨rfl, rfl⟩ := Prod.mk.inj (Option.some.inj hstep)
    exact remove_of_resolve_error he
  case case12 key =>
    obtain ⟨e, he⟩ := hentry key
    obtain ⟨rfl, rfl⟩ := Prod.mk.inj (Option.some.inj hstep)
    exact remove_of_resolve_error he
  all_goals simp_all

lemma run?_of_unreached {shared shared' : Shared ι} {steps : List (ι × Event)}
    (h : ∀ i place, ¬ shared.files.Leads (cache i).directory place)
    (hrun : shared.run? cache steps = some shared') : shared'.files = shared.files := by
  induction steps generalizing shared with
  | nil =>
      rw [run?, List.foldlM_nil, Option.pure_def, Option.some.injEq] at hrun
      rw [hrun]
  | cons step steps ih =>
      rw [run?, List.foldlM_cons, Option.bind_eq_bind, Option.bind_eq_some_iff] at hrun
      obtain ⟨middle, hstep, hrun⟩ := hrun
      obtain ⟨next, hown, rfl⟩ := Option.map_eq_some_iff.1 hstep
      have hsame := step?_of_unreached (h step.1) hown
      refine (ih (fun i place => ?_) hrun).trans hsame
      rw [hsame]
      exact h i place

/-- After a run from a directory without entries, a file that is read under a key is all of what some
process was asked to write under it. -/
lemma stems_of_read (hprocess : Function.Injective fun i => (cache i).process)
    (hdirectory : ∀ i j, (cache i).directory = (cache j).directory) {start last : Shared ι}
    (hidle : ∀ i, start.activity i = .idle)
    (hempty : ∀ i key content, start.files.read ((cache i).entryPath key) ≠ .ok content)
    {steps : List (ι × Event)} (hrun : start.run? cache steps = some last) {i : ι} {key : Digest}
    {content : Bytes} (hread : last.files.read ((cache i).entryPath key) = .ok content) :
    Stems steps key content := by
  by_cases hleads : ∃ place, start.files.Leads (cache i).directory place
  · obtain ⟨place, hleads⟩ := hleads
    have hconsistent : Consistent cache place start.files [] start := by
      refine ⟨fun j => hdirectory i j ▸ hleads, fun _ _ h => Or.inl h, fun j => ?_⟩
      rw [hidle j]
      trivial
    have hafter := hconsistent.run hprocess hrun
    rw [List.nil_append] at hafter
    rcases hafter.entry key content ((read_of_leads (hafter.leads i) key content).1 hread) with
      hstart | hstems
    · exact absurd ((read_of_leads hleads key content).2 hstart) (hempty i key content)
    · exact hstems
  · have hsame : last.files = start.files :=
      run?_of_unreached (fun j => hdirectory i j ▸ not_exists.1 hleads) hrun
    exact absurd (hsame ▸ hread) (hempty i key content)

/-- **Readers never see half an entry.**  However many processes share a directory that has no entries
at the start, and however their steps are mixed, a file that is read under a key is all of a binary
that some process was asked to write under that key before.  A temporary file is one process's alone
and no entry.

Afterwards, `ProgramCache.write` and `ProgramCache.read` are steps that an idle process can go on
with, nobody else coming in between, and what `ProgramCache.read` gives is a binary that was written
under the key. -/
theorem reads_whole (hprocess : Function.Injective fun i => (cache i).process)
    (hdirectory : ∀ i j, (cache i).directory = (cache j).directory) {start last : Shared ι}
    (hidle : ∀ i, start.activity i = .idle)
    (hempty : ∀ i key content, start.files.read ((cache i).entryPath key) ≠ .ok content)
    {steps : List (ι × Event)} (hrun : start.run? cache steps = some last) :
    (∀ before i key content after, steps = before ++ (i, .read key (.ok content)) :: after →
      Stems before key content) ∧
    (∀ i j key other, i ≠ j →
      Path.Apart ((cache i).temporaryPath key) ((cache j).temporaryPath other)) ∧
    (∀ i j key other, Path.Apart ((cache i).temporaryPath key) ((cache j).entryPath other)) ∧
    (∀ i, last.activity i = .idle → ∀ key,
      (∀ binary, ∃ events, .crash ∉ events ∧
        last.run? cache ((.write key binary :: events).map fun event => (i, event))
          = some { last with files := ((cache i).write key binary last.files).2 }) ∧
      ∃ events, .crash ∉ events ∧
        last.run? cache
            ((.read key (last.files.read ((cache i).entryPath key)) :: events).map fun event =>
              (i, event))
          = some { last with files := ((cache i).read key last.files).2 }) ∧
    ∀ i key binary, ((cache i).read key last.files).1 = some binary →
      ∃ j, (j, .write key binary) ∈ steps := by
  refine ⟨?_, fun i j key other hne => ?_, fun i j key other => ?_, fun i hi key => ⟨?_, ?_⟩, ?_⟩
  · rintro before i key content after rfl
    rw [run?, List.foldlM_append, Option.bind_eq_bind, Option.bind_eq_some_iff] at hrun
    obtain ⟨middle, hbefore, hrun⟩ := hrun
    rw [List.foldlM_cons, Option.bind_eq_bind, Option.bind_eq_some_iff] at hrun
    obtain ⟨next, hstep, -⟩ := hrun
    obtain ⟨_, hown, -⟩ := Option.map_eq_some_iff.1 hstep
    exact stems_of_read hprocess hdirectory hidle hempty hbefore (read_of_step? hown)
  · exact temporaryPath_apart (hdirectory i j) (fun h => hne (hprocess h)) key other
  · exact temporaryPath_apart_entryPath (hdirectory i j) key other
  · exact fun binary => exists_run?_alone hi (exists_run_write (cache i) key binary last.files)
  · exact exists_run?_alone hi (exists_run_read (cache i) key last.files)
  · intro i key binary hbinary
    obtain ⟨-, content, hread, hdecode⟩ := read_eq_some hbinary
    obtain ⟨j, written, hwrite, rfl⟩ :=
      stems_of_read hprocess hdirectory hidle hempty hrun hread
    rw [ProgramBinary.decode?_encode] at hdecode
    exact ⟨j, Option.some.inj hdecode ▸ hwrite⟩

/-- Three processes in one directory. -/
def sharedCache (i : Fin 3) : ProgramCache := { directory := "/cache".toList, process := 41 + i }

/-- A directory without entries, and nobody at work. -/
def sharedStart : Shared (Fin 3) where
  files := { nodes := [(["cache".toList], .directory)] }
  activity _ := .idle

/-- Two processes write the same entry in pieces.  One is stopped halfway, and the other one's file is
read, once it is there. -/
def mixedSteps : List (Fin 3 × Event) :=
  let key : Digest := ⟨List.replicate 32 171, rfl⟩
  [(0, .write key ⟨1, [5, 6, 7]⟩), (0, .create), (1, .write key ⟨2, [8]⟩), (0, .append 6), (1, .create),
    (1, .append 1), (2, .read key (.error .notFound)), (0, .crash), (1, .append 9),
    (2, .read key (.error .notFound)), (1, .rename), (2, .read key (.ok [2, 0, 0, 0, 8])),
    (2, .remove key), (0, .write key ⟨1, [5, 6, 7]⟩), (0, .create)]

theorem reads_whole_mixed :
    (∃ last, sharedStart.run? sharedCache mixedSteps = some last) ∧
      Stems (mixedSteps.take 11) ⟨List.replicate 32 171, rfl⟩ [2, 0, 0, 0, 8] := by
  have hrun : (sharedStart.run? sharedCache mixedSteps).isSome = true := by decide +kernel
  obtain ⟨last, hlast⟩ := Option.isSome_iff_exists.1 hrun
  have hempty : ∀ (i : Fin 3) key content,
      sharedStart.files.read ((sharedCache i).entryPath key) ≠ .ok content := by
    intro i key content hread
    have hleads : sharedStart.files.Leads (sharedCache i).directory ["cache".toList] :=
      ⟨rfl, rfl⟩
    have hnode := (read_of_leads hleads key content).1 hread
    exact absurd hnode (by simp [node?, entryPlace, sharedStart, List.lookup_cons])
  refine ⟨⟨last, hlast⟩, (reads_whole (fun i j h => ?_) (fun _ _ => rfl) (fun _ => rfl) hempty
    hlast).1 _ 2 _ _ (mixedSteps.drop 12) rfl⟩
  exact Fin.ext (Nat.add_left_cancel h)

end Shared

end ProgramCache

end GlBridge
