import GlBridge.Program.Cache
import GlBridge.Proofs.Program.Binary
import GlBridge.Proofs.System.Files
import GlBridge.Proofs.Text.Hex
import GlBridge.Text.Decimal

/-!
# What the operations of the program cache do

The directory of the cache is a place in the tree, and each key has one file in it and one more
while its entry is being written.  The names of these files are all different: the digits of a
digest tell it from others, and a temporary name is longer than any of them.

Every operation is described by what it leaves of the tree, for every outcome of the file operations
that it is made of.  Nothing is assumed about the directory but that it is one: there may be
truncated files, temporary files that other processes left, or directories in the place of entries.

* `binaryAt?` — the binary that the file at a place stores;
* `read_fst`, `binaryAt?_read` — reading gives the binary of an entry, and changes none;
* `binaryAt?_remove` — removing leaves none;
* **`Written`** — the two things that a write comes to.
-/

namespace GlBridge

open Files (ChangesOnly)

/-- The binary that a node stores, if it is a file and long enough. -/
def Node.binary? : Node → Option ProgramBinary
  | .directory => none
  | .file content => ProgramBinary.decode? content

/-- The binary that the file at a place stores. -/
def Files.binaryAt? (files : Files) (place : Place) : Option ProgramBinary :=
  (files.node? place).bind Node.binary?

/-- Elsewhere the same binaries are read. -/
lemma Files.ChangesOnly.binaryAt?_eq {places : List Place} {files files' : Files}
    (h : ChangesOnly places files files') {p : Place} (hp : p ∉ places) :
    files'.binaryAt? p = files.binaryAt? p := by
  rw [Files.binaryAt?, h.elsewhere p hp, Files.binaryAt?]

namespace ProgramCache

/-! ## Names -/

/-- The digits of a key name a file. -/
lemma plain_toHex (key : Digest) : Path.Plain key.toHex where
  ne_nil h := absurd key.length_toHex (by simp [h])
  slash h := absurd (Bytes.isHexDigit_of_mem_toHex h) (by decide)
  nul h := absurd (Bytes.isHexDigit_of_mem_toHex h) (by decide)
  ne_here h := absurd key.length_toHex (by simp [h])
  ne_up h := absurd key.length_toHex (by simp [h])

/-- What a temporary name has after the digits of the key. -/
def temporaryEnd (cache : ProgramCache) : Text :=
  '.' :: Text.ofNat cache.process ++ ".tmp".toList

/-- The name of the file that an entry is first written to. -/
def temporaryName (cache : ProgramCache) (key : Digest) : Text := key.toHex ++ cache.temporaryEnd

/-- The temporary file stands in the directory of the cache. -/
lemma temporaryPath_eq (cache : ProgramCache) (key : Digest) :
    cache.temporaryPath key = Path.join cache.directory (cache.temporaryName key) := by
  rw [temporaryPath, temporaryName, temporaryEnd, List.append_assoc]

/-- A temporary name is longer than the name of an entry. -/
lemma length_temporaryName (cache : ProgramCache) (key : Digest) :
    64 < (cache.temporaryName key).length := by
  rw [temporaryName, List.length_append, key.length_toHex, temporaryEnd]
  simp

/-- The name of a temporary file is longer than any key, so the file is no entry. -/
lemma temporaryName_ne_toHex (cache : ProgramCache) (key other : Digest) :
    cache.temporaryName key ≠ other.toHex := by
  intro h
  have hlength := cache.length_temporaryName key
  rw [h, other.length_toHex] at hlength
  exact absurd hlength (Nat.lt_irrefl 64)

/-- The characters of temporary names: hexadecimal digits and those of the ending. -/
lemma mem_temporaryName {cache : ProgramCache} {key : Digest} {c : Char}
    (h : c ∈ cache.temporaryName key) :
    c ∈ Bytes.hexDigits ∨ c.isDigit = true ∨ c ∈ ".tmp".toList := by
  rw [temporaryName, temporaryEnd, List.mem_append] at h
  rcases h with h | h
  · exact .inl (Bytes.isHexDigit_of_mem_toHex h)
  · rcases List.mem_append.1 h with h | h
    · rcases List.mem_cons.1 h with rfl | h
      · exact .inr (.inr (by decide))
      · exact .inr (.inl (Nat.isDigit_of_mem_toDigits (by decide) (by decide) h))
    · exact .inr (.inr h)

/-- The name of a temporary file names a file. -/
lemma plain_temporaryName (cache : ProgramCache) (key : Digest) :
    Path.Plain (cache.temporaryName key) where
  ne_nil h := absurd (cache.length_temporaryName key) (by simp [h])
  slash h := absurd (mem_temporaryName h) (by decide)
  nul h := absurd (mem_temporaryName h) (by decide)
  ne_here h := absurd (cache.length_temporaryName key) (by simp [h])
  ne_up h := absurd (cache.length_temporaryName key) (by simp [h])

/-! ## Places -/

/-- The place of an entry in the directory of the cache. -/
def entryPlace (place : Place) (key : Digest) : Place := place ++ [key.toHex]

/-- The place of the file that an entry is first written to. -/
def temporaryPlace (cache : ProgramCache) (place : Place) (key : Digest) : Place :=
  place ++ [cache.temporaryName key]

/-- Different keys have different entries. -/
lemma entryPlace_inj {place : Place} {key other : Digest} :
    entryPlace place key = entryPlace place other ↔ key = other := by
  rw [entryPlace, entryPlace, List.append_cancel_left_eq, List.singleton_inj]
  exact Digest.toHex_injective.eq_iff

/-- No entry is a temporary file. -/
lemma entryPlace_ne_temporaryPlace (cache : ProgramCache) (place : Place) (key other : Digest) :
    entryPlace place key ≠ cache.temporaryPlace place other := by
  rw [entryPlace, temporaryPlace, Ne, List.append_cancel_left_eq, List.singleton_inj]
  exact (cache.temporaryName_ne_toHex other key).symm

section Operations

variable {cache : ProgramCache} {files : Files} {place : Place}

/-- Where the directory of the cache leads somewhere, an entry is in it. -/
lemma resolve_entryPath (h : files.Leads cache.directory place) (key : Digest) :
    files.resolve (cache.entryPath key) = .ok (entryPlace place key) := by
  rw [entryPath, Files.resolve_join h (plain_toHex key), if_neg, entryPlace]
  rw [key.byteLength_toHex]
  decide

/-- So is a temporary file, unless its name is too long. -/
lemma resolve_temporaryPath (h : files.Leads cache.directory place) (key : Digest) :
    files.resolve (cache.temporaryPath key) = .error .nameTooLong ∨
      files.resolve (cache.temporaryPath key) = .ok (cache.temporaryPlace place key) := by
  rw [temporaryPath_eq, Files.resolve_join h (cache.plain_temporaryName key), temporaryPlace]
  split_ifs
  · exact .inl rfl
  · exact .inr rfl

/-! ## Removing and reading -/

/-- Removing an entry changes no other place. -/
lemma remove_changesOnly (h : files.Leads cache.directory place) (key : Digest) :
    ChangesOnly [entryPlace place key] files (cache.remove key files) :=
  Files.remove_changesOnly (resolve_entryPath h key)

/-- No binary is left under a key that is removed. -/
lemma binaryAt?_remove (h : files.Leads cache.directory place) (key : Digest) :
    (cache.remove key files).binaryAt? (entryPlace place key) = none := by
  rw [Files.binaryAt?, remove]
  by_cases hfile : files.node? (entryPlace place key) = some .directory
  · rw [((Files.remove_changesOnly (resolve_entryPath h key)).directory _).2 hfile]
    rfl
  · rw [Files.node?_remove (resolve_entryPath h key) hfile]
    rfl

/-- Reading leaves the tree as it is, but for a truncated entry, which is removed. -/
lemma read_cases (h : files.Leads cache.directory place) (key : Digest) :
    cache.read key files = (files.binaryAt? (entryPlace place key), files) ∨
      (∃ content, files.node? (entryPlace place key) = some (.file content) ∧
        content.length < 4) ∧ cache.read key files = (none, cache.remove key files) := by
  rw [read, Files.read_of_resolve (resolve_entryPath h key), Files.binaryAt?]
  rcases files.node? (entryPlace place key) with _ | _ | content
  · exact .inl rfl
  · exact .inl rfl
  · simp only [Option.bind_some, Node.binary?]
    cases hdecode : ProgramBinary.decode? content with
    | none => exact .inr ⟨⟨content, rfl, ProgramBinary.decode?_eq_none_iff.1 hdecode⟩, rfl⟩
    | some binary => exact .inl rfl

/-- A file that is too short for the header is no entry. -/
lemma binaryAt?_of_truncated {p : Place} {content : Bytes}
    (hnode : files.node? p = some (.file content)) (hshort : content.length < 4) :
    files.binaryAt? p = none := by
  rw [Files.binaryAt?, hnode]
  exact ProgramBinary.decode?_eq_none_iff.2 hshort

/-- **Reading gives the binary of the entry.** -/
theorem read_fst (h : files.Leads cache.directory place) (key : Digest) :
    (cache.read key files).1 = files.binaryAt? (entryPlace place key) := by
  rcases read_cases h key with hread | ⟨⟨content, hnode, hshort⟩, hread⟩
  · rw [hread]
  · rw [hread, binaryAt?_of_truncated hnode hshort]

/-- Reading an entry changes no other place: at most, a broken entry is removed. -/
lemma read_changesOnly (h : files.Leads cache.directory place) (key : Digest) :
    ChangesOnly [entryPlace place key] files (cache.read key files).2 := by
  rcases read_cases h key with hread | ⟨-, hread⟩
  · rw [hread]
    exact .refl _ _
  · rw [hread]
    exact remove_changesOnly h key

/-- **Reading changes no binary**: what is removed has none. -/
theorem binaryAt?_read (h : files.Leads cache.directory place) (key : Digest) (p : Place) :
    (cache.read key files).2.binaryAt? p = files.binaryAt? p := by
  rcases read_cases h key with hread | ⟨⟨content, hnode, hshort⟩, hread⟩
  · rw [hread]
  · rw [hread]
    by_cases hp : p = entryPlace place key
    · rw [hp, binaryAt?_remove h, binaryAt?_of_truncated hnode hshort]
    · exact (remove_changesOnly h key).binaryAt?_eq (by simpa using hp)

/-! ## Writing -/

/-- Filling a file fails or succeeds, and changes nothing but that file. -/
lemma fill_cases {path : Path} {p : Place} (h : files.resolve path = .ok p) (bytes : Bytes) :
    ∃ result files', fill files path bytes = (result, files') ∧ ChangesOnly [p] files files' ∧
      (result = .ok () → files'.node? p = some (.file bytes)) := by
  rw [fill]
  rcases Files.create_cases h with ⟨e, files', hcreate, hsame, -⟩ | ⟨hplain, hcreate⟩ <;> rw [hcreate]
  · exact ⟨_, _, rfl, .of_node?_eq hsame, fun hok => absurd hok (by simp)⟩
  · obtain ⟨hmade, hempty⟩ := Files.put_spent hplain []
    have hthere := Files.resolve_changed hmade h
    rcases Files.append_cases hthere hempty bytes with ⟨e, files', happend, hsame, -⟩ | happend
    · exact ⟨_, _, happend, hmade.trans (.of_node?_eq hsame), fun hok => absurd hok (by simp)⟩
    · obtain ⟨hfilled, hcontent⟩ := Files.put_spent (by rw [hempty]; simp) ([] ++ bytes)
      exact ⟨_, _, happend, hmade.trans hfilled, fun _ => hcontent⟩

/-- What a write comes to. -/
inductive Written (cache : ProgramCache) (place : Place) (key : Digest) (binary : ProgramBinary)
    (files : Files) : Except Text Unit → Files → Prop where
  /-- The entry is there, and its temporary file is gone. -/
  | stored {files' : Files}
      (hchange : ChangesOnly [entryPlace place key, cache.temporaryPlace place key] files files')
      (hentry : files'.node? (entryPlace place key) = some (.file binary.encode))
      (htemporary : files'.node? (cache.temporaryPlace place key) = none) :
      Written cache place key binary files (.ok ()) files'
  /-- No file is there that was not there before. -/
  | failed {message : Text} {files' : Files}
      (hchange : ChangesOnly [cache.temporaryPlace place key] files files')
      (htemporary : files'.node? (cache.temporaryPlace place key) = none ∨
        files'.node? (cache.temporaryPlace place key)
          = files.node? (cache.temporaryPlace place key)) :
      Written cache place key binary files (.error message) files'

/-- Publishing fails, and changes nothing but the temporary file, or it succeeds. -/
lemma publish_cases (h : files.Leads cache.directory place) {key : Digest}
    (htemporary : files.resolve (cache.temporaryPath key) = .ok (cache.temporaryPlace place key))
    (binary : ProgramBinary) :
    (∃ e files', cache.publish key binary files = (.error e, files') ∧
      ChangesOnly [cache.temporaryPlace place key] files files') ∨
      ∃ files', cache.publish key binary files = (.ok (), files') ∧
        ChangesOnly [entryPlace place key, cache.temporaryPlace place key] files files' ∧
        files'.node? (entryPlace place key) = some (.file binary.encode) ∧
        files'.node? (cache.temporaryPlace place key) = none := by
  obtain ⟨filled, files₁, hfill, hchange, hcontent⟩ := fill_cases htemporary binary.encode
  rw [publish, hfill]
  cases filled with
  | error e => exact .inl ⟨_, _, rfl, hchange⟩
  | ok _ =>
      have hfile := hcontent rfl
      have hsource := Files.resolve_changed hchange htemporary
      have htarget := Files.resolve_changed hchange (resolve_entryPath h key)
      rcases Files.rename_cases hsource htarget hfile with
        ⟨e, files', hrename, hsame, -⟩ | ⟨hplain, hrename⟩
      · exact .inl ⟨_, _, hrename, hchange.trans (.of_node?_eq hsame)⟩
      · have hne := entryPlace_ne_temporaryPlace cache place key key
        obtain ⟨hmoved, hentry, hgone⟩ :=
          Files.move_spent (by rw [hfile]; simp) hplain hne.symm binary.encode
        exact .inr ⟨_, hrename, (hchange.mono (by simp)).trans hmoved, hentry, hgone⟩

/-- **A write comes to one of two things.** -/
theorem write_written (h : files.Leads cache.directory place) (key : Digest)
    (binary : ProgramBinary) :
    Written cache place key binary files (cache.write key binary files).1
      (cache.write key binary files).2 := by
  rcases resolve_temporaryPath h key with hlong | htemporary
  · -- The temporary name is too long: not even the first step is made, and nothing is removed.
    have hpublish : cache.publish key binary files = (.error .nameTooLong, files) := by
      rw [publish, fill, Files.create, hlong]
    rw [write, hpublish]
    simp only [Files.remove_of_resolve_error hlong]
    exact .failed (.refl _ _) (.inr rfl)
  · rcases publish_cases h htemporary binary with
      ⟨e, files₁, hpublish, hchange⟩ | ⟨files', hpublish, hchange, hentry, hgone⟩
    · rw [write, hpublish]
      have hthere := Files.resolve_changed hchange htemporary
      have hremove := Files.remove_changesOnly hthere
      refine .failed (hchange.trans hremove) ?_
      by_cases hdirectory : files₁.node? (cache.temporaryPlace place key) = some .directory
      · exact .inr (((hremove.directory _).2 hdirectory).trans
          ((hchange.directory _).1 hdirectory).symm)
      · exact .inl (Files.node?_remove hthere hdirectory)
    · rw [write, hpublish]
      exact .stored hchange hentry hgone

/-! ## Files of entries -/

/-- Without its directory a cache has no files. -/
lemma resolve_error (h : ∀ place, ¬ files.Leads cache.directory place) (key : Digest) :
    (∃ e, files.resolve (cache.entryPath key) = .error e) ∧
      ∃ e, files.resolve (cache.temporaryPath key) = .error e :=
  ⟨Files.resolve_join_error h (plain_toHex key),
    temporaryPath_eq cache key ▸ Files.resolve_join_error h (cache.plain_temporaryName key)⟩

/-- The content of an entry is read where it is. -/
lemma read_of_leads (h : files.Leads cache.directory place) (key : Digest) (content : Bytes) :
    files.read (cache.entryPath key) = .ok content ↔
      files.node? (entryPlace place key) = some (.file content) := by
  rw [Files.read_of_resolve (resolve_entryPath h key)]
  rcases files.node? (entryPlace place key) with _ | _ | content' <;> simp

/-- What leads nowhere is not read. -/
lemma read_ne_ok_of_resolve_error {path : Path} {e : FileError}
    (h : files.resolve path = .error e) (content : Bytes) : files.read path ≠ .ok content := by
  rw [Files.read, h]
  exact fun hread => absurd hread (by simp [bind, Except.bind])

/-- No file is left of an entry that is removed. -/
lemma entry_remove (cache : ProgramCache) (files : Files) (key : Digest) (content : Bytes) :
    (cache.remove key files).read (cache.entryPath key) ≠ .ok content := by
  by_cases h : ∃ place, files.Leads cache.directory place
  · obtain ⟨place, h⟩ := h
    have hremove := remove_changesOnly h key
    rw [Ne, read_of_leads (h.changed hremove)]
    intro hfile
    have hplain : files.node? (entryPlace place key) ≠ some .directory := fun hdirectory => by
      rw [(hremove.directory _).2 hdirectory] at hfile
      exact absurd hfile (by simp)
    rw [remove, Files.node?_remove (resolve_entryPath h key) hplain] at hfile
    exact absurd hfile (by simp)
  · obtain ⟨⟨e, hresolve⟩, -⟩ := resolve_error (not_exists.1 h) key
    rw [remove, Files.remove_of_resolve_error hresolve]
    exact read_ne_ok_of_resolve_error hresolve content

/-- An entry that is read is whole. -/
lemma read_eq_some {key : Digest} {binary : ProgramBinary}
    (hread : (cache.read key files).1 = some binary) :
    (cache.read key files).2 = files ∧ ∃ content, files.read (cache.entryPath key) = .ok content ∧
      ProgramBinary.decode? content = some binary := by
  rw [read] at hread ⊢
  cases hcontent : files.read (cache.entryPath key) with
  | error e =>
      rw [hcontent] at hread
      exact absurd hread (by simp)
  | ok content =>
      rw [hcontent] at hread
      cases hdecode : ProgramBinary.decode? content with
      | none => exact absurd hread (by simp [hdecode])
      | some binary' =>
          simp only [hdecode, Option.some.injEq] at hread ⊢
          exact ⟨trivial, content, rfl, by rw [hdecode, hread]⟩

/-- If no binary is read, no file is left, and there is nothing new. -/
lemma read_eq_none {key : Digest} (hread : (cache.read key files).1 = none) :
    (∀ content, (cache.read key files).2.read (cache.entryPath key) ≠ .ok content) ∧
      Files.NothingNew files (cache.read key files).2 := by
  rw [read] at hread ⊢
  cases hcontent : files.read (cache.entryPath key) with
  | error e => exact ⟨fun content => by simp [hcontent], fun _ _ hnode => hnode⟩
  | ok content =>
      rw [hcontent] at hread
      cases hdecode : ProgramBinary.decode? content with
      | none =>
          simp only [hdecode]
          exact ⟨cache.entry_remove files key, Files.remove_nothingNew _ _⟩
      | some binary => exact absurd hread (by simp [hdecode])

/-- After a write an entry is the binary that is written, or what was there before. -/
lemma entry_write {key : Digest} {binary : ProgramBinary} {content : Bytes}
    (hcontent : (cache.write key binary files).2.read (cache.entryPath key) = .ok content) :
    content = binary.encode ∨ files.read (cache.entryPath key) = .ok content := by
  by_cases h : ∃ place, files.Leads cache.directory place
  · obtain ⟨place, h⟩ := h
    have hwritten := write_written h key binary
    generalize cache.write key binary files = written at hwritten hcontent
    obtain ⟨result, files'⟩ := written
    cases hwritten with
    | stored hchange hentry _ =>
        rw [read_of_leads (h.changed hchange), hentry] at hcontent
        exact .inl (by simpa using hcontent.symm)
    | failed hchange _ =>
        have hne := entryPlace_ne_temporaryPlace cache place key key
        rw [read_of_leads (h.changed hchange), hchange.elsewhere _ (by simpa using hne),
          ← read_of_leads h] at hcontent
        exact .inr hcontent
  · obtain ⟨-, e, hresolve⟩ := resolve_error (not_exists.1 h) key
    have hpublish : cache.publish key binary files = (.error e, files) := by
      rw [publish, fill, Files.create, hresolve]
    rw [write, hpublish] at hcontent
    simp only [Files.remove_of_resolve_error hresolve] at hcontent
    exact .inr hcontent

/-! ## Writing without faults -/

/-- Without faults, a file is filled. -/
lemma fill_eq_ok {path : Path} {p : Place} (h : files.resolve path = .ok p)
    (hplain : files.node? p ≠ some .directory) (hfaultless : files.Faultless) (bytes : Bytes) :
    (fill files path bytes).1 = .ok () ∧ (fill files path bytes).2.Faultless := by
  rw [fill]
  obtain ⟨hnone, hspent⟩ := hfaultless.nextFault
  rcases Files.create_cases h with ⟨e, _, -, -, hdirectory | hfault⟩ | ⟨-, hcreate⟩
  · exact absurd hdirectory hplain
  · exact absurd hfault (by simp [hnone])
  · obtain ⟨hmade, hempty⟩ := Files.put_spent hplain []
    have hmadeFaultless : (files.nextFault.2.put p (.file [])).Faultless := hspent
    obtain ⟨hnone', hspent'⟩ := hmadeFaultless.nextFault
    rw [hcreate]
    rcases Files.append_cases (Files.resolve_changed hmade h) hempty bytes with
      ⟨e, _, -, -, hfault⟩ | happend
    · exact absurd hfault (by simp [hnone'])
    · simp only [happend, true_and]
      exact hspent'

/-- With a process number that fits, the name of a temporary file is not too long. -/
lemma byteLength_temporaryName (hprocess : cache.process < word32Limit) (key : Digest) :
    Text.byteLength (cache.temporaryName key) ≤ Files.nameLimit := by
  have hsize : ∀ c ∈ cache.temporaryName key, c.utf8Size = 1 := fun c hc => by
    rcases mem_temporaryName hc with h | h | h
    · exact Bytes.utf8Size_of_mem_hexDigits c h
    · rw [Char.isDigit, Bool.and_eq_true, decide_eq_true_iff, decide_eq_true_iff] at h
      rw [Char.utf8Size, if_pos (UInt32.le_trans h.2 (by decide))]
    · have hsuffix : ∀ c ∈ ".tmp".toList, c.utf8Size = 1 := Text.utf8Size_of_mem (by decide)
      exact hsuffix c h
  have hlimit : word32Limit ≤ 10 ^ 10 := by decide
  have hdigits : (Text.ofNat cache.process).length ≤ 10 :=
    (Nat.length_toDigits_le_iff (by decide) (by decide)).2 (Nat.lt_of_lt_of_le hprocess hlimit)
  rw [Text.byteLength_eq_length hsize, temporaryName, temporaryEnd, List.length_append,
    key.length_toHex]
  simp [Files.nameLimit]
  omega

/-- **A write succeeds if nothing goes wrong**: no fault comes up, and there is no directory in the
place of a file. -/
theorem write_eq_ok (h : files.Leads cache.directory place) (hprocess : cache.process < word32Limit)
    (hfaultless : files.Faultless) {key : Digest}
    (hentry : files.node? (entryPlace place key) ≠ some .directory)
    (htemporary : files.node? (cache.temporaryPlace place key) ≠ some .directory)
    (binary : ProgramBinary) : (cache.write key binary files).1 = .ok () := by
  have hresolve := (resolve_temporaryPath h key).resolve_left fun hlong => by
    rw [temporaryPath_eq, Files.resolve_join h (cache.plain_temporaryName key),
      if_neg (Nat.not_lt.2 (byteLength_temporaryName hprocess key))] at hlong
    exact absurd hlong (by simp)
  obtain ⟨hfilled, hfaultless'⟩ := fill_eq_ok hresolve htemporary hfaultless binary.encode
  obtain ⟨result, files', hfill, hchange, hcontent⟩ := fill_cases hresolve binary.encode
  rw [hfill] at hfilled hfaultless'
  obtain rfl : result = .ok () := hfilled
  rw [write, publish, hfill]
  rcases Files.rename_cases (Files.resolve_changed hchange hresolve)
    (Files.resolve_changed hchange (resolve_entryPath h key)) (hcontent rfl) with
    ⟨e, _, -, -, hdirectory | hfault⟩ | ⟨-, hrename⟩
  · exact absurd ((hchange.directory _).1 hdirectory) hentry
  · exact absurd hfault (by simp [hfaultless'.nextFault.1])
  · simp only [hrename]

end Operations

/-! ## Loading and saving -/

section Driver

variable {σ : Type} {driver : ProgramDriver σ} {cache : ProgramCache} {key : Digest} {files : Files}
  {program : ℕ} {native : σ} {binary : ProgramBinary}

/-- Without an entry, nothing is loaded. -/
lemma load_of_none (hread : (cache.read key files).1 = none) :
    cache.load driver key program files native = (false, (cache.read key files).2, native) := by
  rw [load]
  generalize cache.read key files = found at hread ⊢
  obtain ⟨_, files'⟩ := found
  obtain rfl := hread
  rfl

/-- An entry is loaded, and removed if the driver refuses it. -/
lemma load_of_some (hread : (cache.read key files).1 = some binary) :
    cache.load driver key program files native =
      ((driver.load program binary native).1,
        if (driver.load program binary native).1 then (cache.read key files).2
        else cache.remove key (cache.read key files).2,
        (driver.load program binary native).2) := by
  rw [load]
  generalize cache.read key files = found at hread ⊢
  obtain ⟨_, files'⟩ := found
  obtain rfl := hread
  simp only
  generalize driver.load program binary native = loaded
  obtain ⟨accepted, native'⟩ := loaded
  cases accepted <;> rfl

/-- Without a binary from the driver, nothing is saved. -/
lemma save_of_none (hbinary : (driver.binary? program native).1 = none) :
    cache.save driver key program files native
      = (files, (driver.binary? program native).2) := by
  rw [save]
  generalize driver.binary? program native = answer at hbinary ⊢
  obtain ⟨_, native'⟩ := answer
  obtain rfl := hbinary
  rfl

/-- A binary is saved, unless it is empty. -/
lemma save_of_some (hbinary : (driver.binary? program native).1 = some binary) :
    cache.save driver key program files native =
      (if binary.blob = [] then files else (cache.write key binary files).2,
        (driver.binary? program native).2) := by
  rw [save]
  generalize driver.binary? program native = answer at hbinary ⊢
  obtain ⟨_, native'⟩ := answer
  obtain rfl := hbinary
  simp only
  split_ifs <;> rfl

end Driver

end ProgramCache
end GlBridge
