import GlBridge.Program.Script
import GlBridge.Proofs.Program.Cache

/-!
# The program cache is a finite map

Between the writes, removals and lookups of a program cache there are file operations that can fail,
files that can be too short, and a driver that can say no.  Seen from outside there is only a map
from keys to binaries.  This file says which one, for all that can be asked of a cache, in any order.

**Histories.**  A `Moment` is what there is between two operations, and `Moment.after` lets a list
of them pass, the latest first.

**The map.**  `Moment.latest?` reads off the history of operations which binary a key has: that of
the latest write, or save, that succeeded, if the key was not removed and no load of it was rejected
since.

**The invariant.**  A directory is `Tidy` if it holds entries and nothing else.  Then a write that
fails leaves no trace, so that the directory is tidy again after any operation (`Tidy.next`), and
the binary of every entry is as the map says (`Tidy.binaryAt?_next`).

The main result is **`Moment.after_finiteMap`**.
-/

namespace GlBridge.ProgramCache

open Files (ChangesOnly)

variable {σ : Type}

/-! ## Histories -/

/-- What is asked of a cache. -/
inductive Operation where
  | read (key : Digest)
  | write (key : Digest) (binary : ProgramBinary)
  | remove (key : Digest)
  | load (key : Digest) (program : ℕ)
  | save (key : Digest) (program : ℕ)

/-- The key that an operation is about. -/
def Operation.key : Operation → Digest
  | read key | write key _ | remove key | load key _ | save key _ => key

/-- What there is between two operations. -/
structure Moment (σ : Type) where
  files : Files
  native : σ

section Histories

variable (cache : ProgramCache) (driver : ProgramDriver σ)

namespace Moment

/-- The moment after an operation. -/
def next (now : Moment σ) : Operation → Moment σ
  | .read key => { now with files := (cache.read key now.files).2 }
  | .write key binary => { now with files := (cache.write key binary now.files).2 }
  | .remove key => { now with files := cache.remove key now.files }
  | .load key program =>
    let (_, files, native) := cache.load driver key program now.files now.native
    { files, native }
  | .save key program =>
    let (files, native) := cache.save driver key program now.files now.native
    { files, native }

/-- The moment after some operations, the latest first. -/
def after (start : Moment σ) : List Operation → Moment σ
  | [] => start
  | operation :: earlier => (start.after earlier).next cache driver operation

/-- The binary that an operation stores under its key: that of a write that succeeds, or that of a
program which is saved, if it is not empty and writing it succeeds. -/
def stores? (now : Moment σ) : Operation → Option ProgramBinary
  | .write key binary => if (cache.write key binary now.files).1.isOk then some binary else none
  | .save key program => (driver.binary? program now.native).1.filter fun binary =>
      binary.blob ≠ [] ∧ (cache.write key binary now.files).1.isOk
  | .read _ | .remove _ | .load _ _ => none

/-- Whether an operation takes away what its key has: a removal does, and a load if the driver is
given what is stored and rejects it. -/
def drops (now : Moment σ) : Operation → Bool
  | .remove _ => true
  | .load key program => (cache.read key now.files).1.any fun binary =>
      !(driver.load program binary now.native).1
  | .read _ | .write _ _ | .save _ _ => false

/-- The binary that a key has after some operations. -/
def latest? (start : Moment σ) (key : Digest) : List Operation → Option ProgramBinary
  | [] => none
  | operation :: earlier =>
    if operation.key ≠ key then start.latest? key earlier
    else
      ((start.after cache driver earlier).stores? cache driver operation).or <|
        if (start.after cache driver earlier).drops cache driver operation then none
        else start.latest? key earlier

end Moment

end Histories

/-! ## Tidy directories -/

/-- A directory that holds entries and nothing else. -/
structure Tidy (cache : ProgramCache) (place : Place) (files : Files) : Prop where
  leads : files.Leads cache.directory place
  entry : ∀ name node, files.node? (place ++ [name]) = some node →
    ∃ key : Digest, name = key.toHex ∧ ∃ content, node = .file content

section Steps

variable {cache : ProgramCache} {driver : ProgramDriver σ} {place : Place} {files files' : Files}

lemma Tidy.temporary (h : Tidy cache place files) (key : Digest) :
    files.node? (cache.temporaryPlace place key) = none := by
  cases hnode : files.node? (cache.temporaryPlace place key) with
  | none => rfl
  | some node =>
      obtain ⟨other, hname, -⟩ := h.entry _ _ hnode
      exact absurd hname (cache.temporaryName_ne_toHex key other)

lemma Tidy.entry_ne_directory (h : Tidy cache place files) (key : Digest) :
    files.node? (entryPlace place key) ≠ some .directory := by
  intro hnode
  obtain ⟨_, _, _, hfile⟩ := h.entry _ _ hnode
  exact absurd hfile (by simp)

/-- A change of one entry leaves a tidy directory. -/
lemma Tidy.changed (h : Tidy cache place files) {key : Digest}
    (hchange : ChangesOnly [entryPlace place key] files files') : Tidy cache place files' where
  leads := h.leads.changed hchange
  entry name node hnode := by
    by_cases hname : place ++ [name] = entryPlace place key
    · have hkey : name = key.toHex := by simpa [entryPlace] using hname
      cases node with
      | directory =>
          rw [hname] at hnode
          exact absurd ((hchange.directory _).1 hnode) (h.entry_ne_directory key)
      | file content => exact ⟨key, hkey, content, rfl⟩
    · rw [hchange.elsewhere _ (by simpa using hname)] at hnode
      exact h.entry _ _ hnode

/-- In a tidy directory, a write changes the entry or nothing. -/
lemma Tidy.write_cases (h : Tidy cache place files) (key : Digest) (binary : ProgramBinary) :
    (cache.write key binary files).1 = .ok () ∧
        ChangesOnly [entryPlace place key] files (cache.write key binary files).2 ∧
        (cache.write key binary files).2.binaryAt? (entryPlace place key) = some binary ∨
      (∃ message, (cache.write key binary files).1 = .error message) ∧
        (cache.write key binary files).2.node? = files.node? := by
  have htemporary := h.temporary key
  generalize hwrite : cache.write key binary files = written
  have hwritten := write_written h.leads key binary
  rw [hwrite] at hwritten
  obtain ⟨result, files'⟩ := written
  cases hwritten with
  | stored hchange hentry hgone =>
      refine .inl ⟨rfl, ⟨fun p hp => ?_, hchange.directory⟩, ?_⟩
      · by_cases hp' : p = cache.temporaryPlace place key
        · rw [hp', hgone, htemporary]
        · exact hchange.elsewhere p (by simpa using ⟨by simpa using hp, hp'⟩)
      · simp only [Files.binaryAt?, hentry]
        exact ProgramBinary.decode?_encode binary
  | failed hchange hgone =>
      refine .inr ⟨⟨_, rfl⟩, funext fun p => ?_⟩
      by_cases hp : p = cache.temporaryPlace place key
      · rcases hgone with hgone | hgone
        · rw [hp, hgone, htemporary]
        · rw [hp, hgone]
      · exact hchange.elsewhere p (by simpa using hp)

/-! ## One operation -/

lemma Tidy.binaryAt?_write (h : Tidy cache place files) (key : Digest) (binary : ProgramBinary) :
    (cache.write key binary files).2.binaryAt? (entryPlace place key)
      = if (cache.write key binary files).1.isOk then some binary
        else files.binaryAt? (entryPlace place key) := by
  rcases h.write_cases key binary with ⟨hok, -, hbinary⟩ | ⟨⟨message, herror⟩, hsame⟩
  · rw [hok, hbinary]
    rfl
  · rw [herror, Files.binaryAt?, hsame]
    rfl

lemma Tidy.write_changesOnly (h : Tidy cache place files) (key : Digest) (binary : ProgramBinary) :
    ChangesOnly [entryPlace place key] files (cache.write key binary files).2 := by
  rcases h.write_cases key binary with ⟨-, hchange, -⟩ | ⟨-, hsame⟩
  · exact hchange
  · exact .of_node?_eq hsame

/-- **An operation changes nothing but the entry of its key.** -/
theorem Tidy.next_changesOnly {now : Moment σ} (h : Tidy cache place now.files)
    (operation : Operation) :
    ChangesOnly [entryPlace place operation.key] now.files
      (now.next cache driver operation).files := by
  cases operation with
  | read key => exact read_changesOnly h.leads key
  | write key binary => exact h.write_changesOnly key binary
  | remove key => exact remove_changesOnly h.leads key
  | load key program =>
      have hread := read_changesOnly h.leads key
      rw [Moment.next]
      cases hfound : (cache.read key now.files).1 with
      | none => rwa [load_of_none hfound]
      | some binary =>
          rw [load_of_some hfound]
          simp only
          split_ifs
          · exact hread
          · exact hread.trans (remove_changesOnly (h.leads.changed hread) key)
  | save key program =>
      rw [Moment.next]
      cases hbinary : (driver.binary? program now.native).1 with
      | none =>
          rw [save_of_none hbinary]
          exact .refl _ _
      | some binary =>
          rw [save_of_some hbinary]
          simp only
          split_ifs
          · exact .refl _ _
          · exact h.write_changesOnly key binary

lemma Tidy.next {now : Moment σ} (h : Tidy cache place now.files) (operation : Operation) :
    Tidy cache place (now.next cache driver operation).files :=
  h.changed (h.next_changesOnly operation)

/-- **What an operation makes of the entry of its key**: it stores a binary, or takes the one that
is there away, or leaves it. -/
theorem Tidy.binaryAt?_next {now : Moment σ} (h : Tidy cache place now.files)
    (operation : Operation) :
    (now.next cache driver operation).files.binaryAt? (entryPlace place operation.key)
      = (now.stores? cache driver operation).or
          (if now.drops cache driver operation then none
          else now.files.binaryAt? (entryPlace place operation.key)) := by
  cases operation with
  | read key => exact binaryAt?_read h.leads key _
  | write key binary =>
      rw [Moment.next, Operation.key, h.binaryAt?_write, Moment.stores?, Moment.drops]
      cases (cache.write key binary now.files).1.isOk <;> rfl
  | remove key => exact binaryAt?_remove h.leads key
  | load key program =>
      have hread := read_changesOnly h.leads key
      rw [Moment.next, Operation.key, Moment.stores?, Moment.drops]
      cases hfound : (cache.read key now.files).1 with
      | none =>
          rw [load_of_none hfound]
          exact binaryAt?_read h.leads key _
      | some binary =>
          rw [load_of_some hfound]
          by_cases haccepted : (driver.load program binary now.native).1 = true
          · simp only [haccepted, if_true, Option.any_some]
            exact binaryAt?_read h.leads key _
          · simp only [haccepted, Option.any_some]
            exact binaryAt?_remove (h.leads.changed hread) key
  | save key program =>
      rw [Moment.next, Operation.key, Moment.stores?, Moment.drops]
      cases hbinary : (driver.binary? program now.native).1 with
      | none =>
          rw [save_of_none hbinary]
          rfl
      | some binary =>
          rw [save_of_some hbinary]
          by_cases hempty : binary.blob = []
          · simp [Option.filter, hempty]
          · simp only [if_neg hempty, h.binaryAt?_write]
            cases hok : (cache.write key binary now.files).1.isOk <;>
              simp [Option.filter, hempty, hok]

/-! ## All operations -/

/-- A directory with nothing in it but truncated entries. -/
structure Fresh (cache : ProgramCache) (place : Place) (files : Files) : Prop where
  leads : files.Leads cache.directory place
  truncated : ∀ name node, files.node? (place ++ [name]) = some node →
    ∃ key : Digest, name = key.toHex ∧ ∃ content, node = .file content ∧ content.length < 4

lemma Fresh.tidy (h : Fresh cache place files) : Tidy cache place files where
  leads := h.leads
  entry name node hnode := by
    obtain ⟨key, hname, content, hfile, -⟩ := h.truncated name node hnode
    exact ⟨key, hname, content, hfile⟩

lemma Fresh.binaryAt?_eq (h : Fresh cache place files) (key : Digest) :
    files.binaryAt? (entryPlace place key) = none := by
  cases hnode : files.node? (entryPlace place key) with
  | none => rw [Files.binaryAt?, hnode, Option.bind_none]
  | some node =>
      obtain ⟨_, -, content, rfl, hshort⟩ := h.truncated _ _ hnode
      exact binaryAt?_of_truncated hnode hshort

variable (driver) in
lemma Tidy.after {start : Moment σ} (h : Tidy cache place start.files)
    (operations : List Operation) :
    Tidy cache place (start.after cache driver operations).files := by
  induction operations with
  | nil => exact h
  | cons operation earlier ih => exact ih.next operation

variable (driver) in
/-- **Every entry has the binary that the history says.** -/
theorem Fresh.binaryAt?_after {start : Moment σ} (h : Fresh cache place start.files)
    (operations : List Operation) (key : Digest) :
    (start.after cache driver operations).files.binaryAt? (entryPlace place key)
      = start.latest? cache driver key operations := by
  induction operations with
  | nil => exact h.binaryAt?_eq key
  | cons operation earlier ih =>
      have htidy := h.tidy.after driver earlier
      rw [Moment.after, Moment.latest?]
      by_cases hkey : operation.key = key
      · rw [if_neg (not_not.2 hkey), ← hkey, htidy.binaryAt?_next, hkey, ih]
      · have hplace : entryPlace place key ∉ [entryPlace place operation.key] := by
          rw [List.mem_singleton, entryPlace_inj]
          exact Ne.symm hkey
        rw [if_pos hkey, (htidy.next_changesOnly operation).binaryAt?_eq hplace, ih]

/-- What it means that a cache is a finite map.  Between the moments `start` and `now` there were
`operations`, the latest first, and what comes next goes by the map that they make up. -/
structure FiniteMap (cache : ProgramCache) (driver : ProgramDriver σ) (place : Place)
    (start : Moment σ) (operations : List Operation) (now : Moment σ) : Prop where
  /-- Reading gives the binary that the history says. -/
  read_eq : ∀ key, (cache.read key now.files).1 = start.latest? cache driver key operations
  /-- An operation on one key does not change what another one reads. -/
  read_next : ∀ operation key, operation.key ≠ key →
    (cache.read key (now.next cache driver operation).files).1 = (cache.read key now.files).1
  /-- A write succeeds if nothing goes wrong with the files. -/
  write_eq_ok : now.files.Faultless → cache.process < word32Limit → ∀ key binary,
    (cache.write key binary now.files).1 = .ok ()
  /-- A write that fails leaves everything as it was. -/
  failed_write : ∀ key binary message, (cache.write key binary now.files).1 = .error message →
    (cache.write key binary now.files).2.node? = now.files.node?
  /-- A truncated entry is read as none, and is gone then. -/
  truncated : ∀ key content, now.files.read (cache.entryPath key) = .ok content →
    content.length < 4 → (cache.read key now.files).1 = none ∧
      (cache.read key now.files).2.read (cache.entryPath key) = .error .notFound
  /-- A load succeeds only if there is a binary and the driver accepts it. -/
  load_accepted : ∀ key program,
    (cache.load driver key program now.files now.native).1 = true →
      ∃ binary, start.latest? cache driver key operations = some binary ∧
        (driver.load program binary now.native).1 = true
  /-- No temporary file is left after a write. -/
  no_temporary : ∀ key binary, (cache.write key binary now.files).1 = .ok () → ∀ other content,
    (cache.write key binary now.files).2.read (cache.temporaryPath other) ≠ .ok content
  /-- There are no files but entries. -/
  entry : ∀ name node, now.files.node? (place ++ [name]) = some node →
    ∃ key : Digest, name = key.toHex ∧ ∃ content, node = .file content

lemma Tidy.read_temporary (h : Tidy cache place files) (key : Digest) (content : Bytes) :
    files.read (cache.temporaryPath key) ≠ .ok content := by
  rcases resolve_temporaryPath h.leads key with hlong | htemporary
  · rw [Files.read, hlong]
    exact fun hread => absurd hread (by simp [bind, Except.bind])
  · rw [Files.read_of_resolve htemporary, h.temporary]
    exact fun hread => absurd hread (by simp)

/-- A truncated entry is gone once it was read. -/
lemma Tidy.read_truncated (h : Tidy cache place files) {key : Digest} {content : Bytes}
    (hread : files.read (cache.entryPath key) = .ok content) (hshort : content.length < 4) :
    (cache.read key files).1 = none ∧
      (cache.read key files).2.read (cache.entryPath key) = .error .notFound := by
  have hresolve := resolve_entryPath h.leads key
  have hgone : (cache.remove key files).node? (entryPlace place key) = none := by
    refine Files.node?_remove hresolve fun hdirectory => ?_
    rw [Files.read_of_resolve hresolve, hdirectory] at hread
    exact absurd hread (by simp)
  have hremoved : cache.read key files = (none, cache.remove key files) := by
    rw [ProgramCache.read, hread]
    simp only [ProgramBinary.decode?_eq_none_iff.2 hshort]
  rw [hremoved]
  refine ⟨rfl, ?_⟩
  rw [Files.read_of_resolve (Files.resolve_changed (remove_changesOnly h.leads key) hresolve), hgone]

/-- **A program cache is a finite map**, whatever is asked of it in any order and whatever the
driver answers, if its directory held nothing but truncated entries at first. -/
theorem Moment.after_finiteMap {start : Moment σ} (h : Fresh cache place start.files)
    (operations : List Operation) :
    FiniteMap cache driver place start operations (start.after cache driver operations) := by
  have htidy := h.tidy.after driver operations
  have hbinary := h.binaryAt?_after driver operations
  generalize start.after cache driver operations = now at htidy hbinary
  have hread : ∀ key, (cache.read key now.files).1 = start.latest? cache driver key operations :=
    fun key => (read_fst htidy.leads key).trans (hbinary key)
  exact
    { read_eq := hread
      read_next := fun operation key hkey => by
        have hplace : entryPlace place key ∉ [entryPlace place operation.key] := by
          rw [List.mem_singleton, entryPlace_inj]
          exact Ne.symm hkey
        rw [read_fst (htidy.next operation).leads, read_fst htidy.leads,
          (htidy.next_changesOnly operation).binaryAt?_eq hplace]
      write_eq_ok := fun hfaultless hprocess key binary =>
        ProgramCache.write_eq_ok htidy.leads hprocess hfaultless (htidy.entry_ne_directory key)
          (by rw [htidy.temporary]; simp) binary
      failed_write := fun key binary message herror => by
        rcases htidy.write_cases key binary with ⟨hok, -, -⟩ | ⟨-, hsame⟩
        · rw [hok] at herror
          exact absurd herror (by simp)
        · exact hsame
      truncated := fun key content hcontent hshort => htidy.read_truncated hcontent hshort
      load_accepted := fun key program hload => by
        cases hfound : (cache.read key now.files).1 with
        | none =>
            rw [load_of_none hfound] at hload
            exact absurd hload (by simp)
        | some binary =>
            rw [load_of_some hfound] at hload
            exact ⟨binary, by rw [← hread, hfound], hload⟩
      no_temporary := fun key binary _ other content =>
        (htidy.changed (htidy.write_changesOnly key binary)).read_temporary other content
      entry := htidy.entry }

end Steps

/-! ## A history -/

/-- A cache in the directory of the root that is called `cache`. -/
def sample : ProgramCache := { directory := "/cache".toList, process := 7 }

/-- The key whose bytes are all the same. -/
def sampleKey (byte : UInt8) : Digest := ⟨List.replicate 32 byte, List.length_replicate⟩

/-- At first there is a truncated entry, and the second write to come fails at its first step.  The
driver accepts no binary. -/
def sampleStart : Moment ProgramScript where
  files :=
    { nodes :=
        [(["cache".toList], .directory), (["cache".toList, (sampleKey 1).toHex], .file [7, 0])]
      faults := [none, none, none, some .noSpace] }
  native := { accept := .none }

/-- The truncated entry is read, then written, then a write fails, and another entry is written that
the driver rejects.  The latest comes first. -/
def sampleOperations : List Operation :=
  [.load (sampleKey 2) 3, .write (sampleKey 2) ⟨9, [5]⟩, .write (sampleKey 1) ⟨8, [4, 4]⟩,
    .write (sampleKey 1) ⟨263, []⟩, .read (sampleKey 1)]

lemma sampleStart_fresh : Fresh sample ["cache".toList] sampleStart.files where
  leads := ⟨by decide, by decide⟩
  truncated name node hnode := by
    rw [Files.node?, if_neg (by simp)] at hnode
    obtain ⟨before, after, hnodes, -⟩ := List.lookup_eq_some_iff.1 hnode
    have hmem : (["cache".toList] ++ [name], node) ∈ sampleStart.files.nodes := by
      rw [hnodes]
      exact List.mem_append_right _ List.mem_cons_self
    rcases List.mem_pair.1 hmem with hentry | hentry
    · exact absurd (congrArg (·.1.length) hentry) (by simp)
    · simp only [Prod.mk.injEq, List.cons_append, List.nil_append, List.cons.injEq, true_and,
        and_true] at hentry
      exact ⟨sampleKey 1, hentry.1, [7, 0], hentry.2, by decide⟩

/-- The map that this history makes up has the first binary that was written, and the one that was
rejected is gone. -/
theorem Moment.after_finiteMap_sample :
    Fresh sample ["cache".toList] sampleStart.files ∧
      sampleStart.latest? sample ProgramScript.driver (sampleKey 1) sampleOperations
        = some ⟨263, []⟩ ∧
      sampleStart.latest? sample ProgramScript.driver (sampleKey 2) sampleOperations = none ∧
      FiniteMap sample ProgramScript.driver ["cache".toList] sampleStart sampleOperations
        (sampleStart.after sample ProgramScript.driver sampleOperations) :=
  ⟨sampleStart_fresh, by decide, by decide,
    after_finiteMap sampleStart_fresh sampleOperations⟩

end GlBridge.ProgramCache
