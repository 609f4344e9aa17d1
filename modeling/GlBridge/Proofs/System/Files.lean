import GlBridge.Proofs.Entries
import GlBridge.Proofs.System.Path
import GlBridge.System.Files

/-!
# What file operations change

An operation on a file can fail in many ways, and a caller that goes on after a failure has to know
what is left.  Two things are said about every operation, and callers need nothing else.

**What it leaves alone.**  `ChangesOnly places files files'` says that the trees differ at some of
the places at most, and there only in files: the directories are the same.  It holds for every operation, failed or not,
with the places that its paths lead to.

**What it leaves behind.**  If an operation succeeds, `node?` tells what is at its places then.

Paths are resolved in a tree, which changes.  But whatever leads to a directory keeps leading there
under `ChangesOnly` (`Leads.changed`), and `resolve_join` tells once and for all where a file of that
directory is.
-/

namespace GlBridge.Files

/-! ## Places -/

@[simp] lemma node?_root (files : Files) : files.node? [] = some .directory := rfl

/-- A place that has been cleared is empty, and no other one has changed. -/
lemma node?_clear (files : Files) {place : Place} (hplace : place ≠ []) (p : Place) :
    (files.clear place).node? p = if p = place then none else files.node? p := by
  rw [node?, clear, lookup_filter_ne, node?]
  by_cases hp : p = []
  · rw [if_pos hp, if_pos hp, if_neg (by rw [hp]; exact Ne.symm hplace)]
  · rw [if_neg hp, if_neg hp]

/-- A place holds what was put there last. -/
lemma node?_put (files : Files) {place : Place} (hplace : place ≠ []) (node : Node) (p : Place) :
    (files.put place node).node? p = if p = place then some node else files.node? p := by
  rw [node?, put, List.lookup_append, lookup_filter_ne, node?]
  by_cases hp : p = []
  · rw [if_pos hp, if_pos hp, if_neg (by rw [hp]; exact Ne.symm hplace)]
  · by_cases hpp : p = place
    · subst hpp
      simp [hp]
    · have hne : (p == place) = false := by simpa using hpp
      simp [hp, hpp, hne, List.lookup_cons]

/-- A fault that is spent changes nothing in the tree. -/
lemma node?_nextFault (files : Files) : files.nextFault.2.node? = files.node? := by
  rw [nextFault]
  cases files.faults <;> rfl

/-- Nothing goes wrong for reasons outside the tree. -/
def Faultless (files : Files) : Prop := ∀ fault ∈ files.faults, fault = none

/-- Without faults, none comes next. -/
lemma Faultless.nextFault {files : Files} (h : files.Faultless) :
    files.nextFault.1 = none ∧ files.nextFault.2.Faultless := by
  rw [Files.nextFault]
  cases hfaults : files.faults with
  | nil => exact ⟨rfl, h⟩
  | cons fault faults =>
      rw [Faultless, hfaults] at h
      exact ⟨h fault List.mem_cons_self, fun later hlater => h later (List.mem_cons_of_mem _ hlater)⟩

/-- Taking a fault off the list changes no file. -/
lemma nextFault_spent (files : Files) :
    ∃ fault spent, files.nextFault = (fault, spent) ∧ spent.node? = files.node? :=
  ⟨_, _, rfl, files.node?_nextFault⟩

/-! ## What is left alone -/

/-- The trees differ only in files at the given places. -/
structure ChangesOnly (places : List Place) (files files' : Files) : Prop where
  elsewhere : ∀ p ∉ places, files'.node? p = files.node? p
  directory : ∀ p, files'.node? p = some .directory ↔ files.node? p = some .directory

namespace ChangesOnly

variable {places : List Place} {files files' files'' : Files}

/-- What stands where it stood is no change. -/
lemma of_node?_eq (h : files'.node? = files.node?) : ChangesOnly places files files' where
  elsewhere p _ := congrFun h p
  directory p := by rw [h]

lemma refl (places : List Place) (files : Files) : ChangesOnly places files files :=
  of_node?_eq rfl

/-- Changes add up. -/
lemma trans (h : ChangesOnly places files files') (h' : ChangesOnly places files' files'') :
    ChangesOnly places files files'' where
  elsewhere p hp := (h'.elsewhere p hp).trans (h.elsewhere p hp)
  directory p := (h'.directory p).trans (h.directory p)

/-- Changes of some places are changes of more. -/
lemma mono {more : List Place} (h : ChangesOnly places files files') (hsub : places ⊆ more) :
    ChangesOnly more files files' where
  elsewhere p hp := h.elsewhere p fun hmem => hp (hsub hmem)
  directory := h.directory

end ChangesOnly

/-- A place that is no directory is not the root. -/
lemma ne_nil_of_node? {files : Files} {place : Place} (h : files.node? place ≠ some .directory) :
    place ≠ [] := by
  rintro rfl
  exact h rfl

/-- What is at one place may change, if there is no directory before and none afterwards. -/
lemma changesOnly_of_place {files files' : Files} {place : Place} {now : Option Node}
    (h : files.node? place ≠ some .directory) (hnow : now ≠ some .directory)
    (hnode : ∀ p, files'.node? p = if p = place then now else files.node? p) :
    ChangesOnly [place] files files' where
  elsewhere p hp := by
    rw [hnode, if_neg (by simpa using hp)]
  directory p := by
    rw [hnode]
    split_ifs with hp
    · rw [hp]
      exact iff_of_false hnow h
    · rfl

/-- Putting a file changes its place only. -/
lemma put_changesOnly {files : Files} {place : Place} (h : files.node? place ≠ some .directory)
    (content : Bytes) : ChangesOnly [place] files (files.put place (.file content)) :=
  changesOnly_of_place h (by simp) (node?_put files (ne_nil_of_node? h) (.file content))

/-- Clearing a place changes it only. -/
lemma clear_changesOnly {files : Files} {place : Place} (h : files.node? place ≠ some .directory) :
    ChangesOnly [place] files (files.clear place) :=
  changesOnly_of_place h (by simp) (node?_clear _ (ne_nil_of_node? h))

/-- What operations that succeed do: spending no fault, they put a file at a place. -/
lemma put_spent {files : Files} {place : Place} (h : files.node? place ≠ some .directory)
    (content : Bytes) :
    ChangesOnly [place] files (files.nextFault.2.put place (.file content)) ∧
      (files.nextFault.2.put place (.file content)).node? place = some (.file content) := by
  have hspent := files.node?_nextFault
  constructor
  · exact (ChangesOnly.of_node?_eq hspent).trans (put_changesOnly (by rwa [hspent]) content)
  · rw [node?_put _ (ne_nil_of_node? h), if_pos rfl]

/-- In a renaming that succeeds, a file is put at one place and nothing at the other. -/
lemma move_spent {files : Files} {place place' : Place} (h : files.node? place ≠ some .directory)
    (h' : files.node? place' ≠ some .directory) (hne : place ≠ place') (content : Bytes) :
    ChangesOnly [place', place] files
        ((files.nextFault.2.clear place).put place' (.file content)) ∧
      ((files.nextFault.2.clear place).put place' (.file content)).node? place'
        = some (.file content) ∧
      ((files.nextFault.2.clear place).put place' (.file content)).node? place = none := by
  have hspent := files.node?_nextFault
  have hclear : ChangesOnly [place] files (files.nextFault.2.clear place) :=
    (ChangesOnly.of_node?_eq hspent).trans (clear_changesOnly (by rwa [hspent]))
  have hplain : (files.nextFault.2.clear place).node? place' ≠ some .directory := by
    rwa [Ne, hclear.directory]
  refine ⟨(hclear.mono (by simp)).trans ((put_changesOnly hplain content).mono (by simp)), ?_, ?_⟩
  · rw [node?_put _ (ne_nil_of_node? h'), if_pos rfl]
  · rw [node?_put _ (ne_nil_of_node? h'), if_neg hne, node?_clear _ (ne_nil_of_node? h), if_pos rfl]

/-! ## Where paths lead -/

/-- A path leads to a directory. -/
structure Leads (files : Files) (path : Path) (place : Place) : Prop where
  resolve_eq : files.resolve path = .ok place
  node?_eq : files.node? place = some .directory

/-- A path is walked name by name. -/
lemma walk_append_singleton (files : Files) (place : Place) (names : List Text) (name : Text) :
    files.walk place (names ++ [name])
      = (files.walk place names).bind fun reached => files.walk reached [name] := by
  induction names generalizing place with
  | nil => rfl
  | cons next names ih =>
      rw [List.cons_append, walk, walk]
      cases files.node? place with
      | none => rfl
      | some node =>
          cases node with
          | file _ => rfl
          | directory =>
              simp only
              split_ifs with hhere hup hlong
              · exact ih place
              · exact ih place.dropLast
              · rfl
              · exact ih (place ++ [next])

/-- A walk that succeeds passes directories only, so it succeeds as long as these stay. -/
lemma walk_eq_ok_of_directories {files files' : Files}
    (hstay : ∀ p, files.node? p = some .directory → files'.node? p = some .directory)
    {names : List Text} {place reached : Place} (h : files.walk place names = .ok reached) :
    files'.walk place names = .ok reached := by
  induction names generalizing place with
  | nil => exact h
  | cons name names ih =>
      rw [walk] at h ⊢
      cases hnode : files.node? place with
      | none =>
          rw [hnode] at h
          exact absurd h (by simp)
      | some node =>
          cases node with
          | file content =>
              rw [hnode] at h
              exact absurd h (by simp)
          | directory =>
              rw [hnode] at h
              rw [hstay place hnode]
              simp only at h ⊢
              split_ifs at h ⊢ with hhere hup hlong
              · exact ih h
              · exact ih h
              · exact ih h

/-- Changes of files do not change where paths lead. -/
lemma resolve_changed {files files' : Files} {places : List Place}
    (hchange : ChangesOnly places files files') {path : Path} {place : Place}
    (h : files.resolve path = .ok place) : files'.resolve path = .ok place := by
  rw [resolve] at h ⊢
  split_ifs at h ⊢
  exact walk_eq_ok_of_directories (fun p => (hchange.directory p).2) h

/-- What leads to a directory keeps leading there. -/
lemma Leads.changed {files files' : Files} {path : Path} {place : Place} {places : List Place}
    (h : files.Leads path place) (hchange : ChangesOnly places files files') :
    files'.Leads path place where
  resolve_eq := resolve_changed hchange h.resolve_eq
  node?_eq := (hchange.directory place).2 h.node?_eq

/-- **Where a file of a directory is.**  Its name can be too long for the system. -/
theorem resolve_join {files : Files} {path : Path} {place : Place} {name : Text}
    (h : files.Leads path place) (hname : Path.Plain name) :
    files.resolve (Path.join path name)
      = if nameLimit < Text.byteLength name then .error .nameTooLong else .ok (place ++ [name]) := by
  have hresolve := h.resolve_eq
  rw [resolve] at hresolve ⊢
  split_ifs at hresolve with hnul
  rw [if_neg (by rwa [Path.nul_mem_join path hname]), Path.names_join path hname,
    walk_append_singleton, hresolve]
  simp only [Except.bind, walk, h.node?_eq, if_neg hname.ne_here, if_neg hname.ne_up]

/-- A directory that is not there holds no files. -/
lemma resolve_join_error {files : Files} {path : Path} {name : Text}
    (h : ∀ place, ¬ files.Leads path place) (hname : Path.Plain name) :
    ∃ e, files.resolve (Path.join path name) = .error e := by
  rw [resolve]
  split_ifs with hnul
  · exact ⟨_, rfl⟩
  · rw [Path.names_join path hname, walk_append_singleton]
    rw [Path.nul_mem_join path hname] at hnul
    cases hwalk : files.walk [] path.names with
    | error e => exact ⟨e, rfl⟩
    | ok place =>
        have hresolve : files.resolve path = .ok place := by rw [resolve, if_neg hnul, hwalk]
        simp only [Except.bind, walk]
        rcases hnode : files.node? place with _ | _ | content
        · exact ⟨_, rfl⟩
        · exact absurd ⟨hresolve, hnode⟩ (h place)
        · exact ⟨_, rfl⟩

/-! ## The operations -/

section Operations

variable {files : Files} {path : Path} {place : Place}

/-- What is read is what stands where the path leads. -/
lemma read_of_resolve (h : files.resolve path = .ok place) :
    files.read path = match files.node? place with
      | none => .error .notFound
      | some .directory => .error .isADirectory
      | some (.file content) => .ok content := by
  rw [read, h]
  rfl

/-- What is removed is the file where the path leads. -/
lemma remove_of_resolve (h : files.resolve path = .ok place) :
    (files.remove path).2 = match files.node? place with
      | some (.file _) => files.clear place
      | _ => files := by
  rw [remove, h]
  simp only
  rcases files.node? place with _ | _ | content <;> rfl

/-- What leads nowhere is not removed. -/
lemma remove_of_resolve_error {e : FileError} (h : files.resolve path = .error e) :
    (files.remove path).2 = files := by
  rw [remove, h]

/-- Removing changes the place where the path leads only. -/
lemma remove_changesOnly (h : files.resolve path = .ok place) :
    ChangesOnly [place] files (files.remove path).2 := by
  rw [remove_of_resolve h]
  rcases hnode : files.node? place with _ | _ | content
  · exact .refl _ _
  · exact .refl _ _
  · exact clear_changesOnly (by simp [hnode])

/-- A file that is removed is gone, and a directory is not removed. -/
lemma node?_remove (h : files.resolve path = .ok place)
    (hfile : files.node? place ≠ some .directory) : (files.remove path).2.node? place = none := by
  rw [remove_of_resolve h]
  rcases hnode : files.node? place with _ | _ | content
  · exact hnode
  · exact absurd hnode hfile
  · simp only
    rw [node?_clear _ (ne_nil_of_node? hfile), if_pos rfl]

/-- There is nothing in the second tree that is not in the first. -/
def NothingNew (files files' : Files) : Prop :=
  ∀ p node, files'.node? p = some node → files.node? p = some node

/-- Removing makes no file. -/
lemma remove_nothingNew (files : Files) (path : Path) : NothingNew files (files.remove path).2 := by
  intro p node hnode
  cases hresolve : files.resolve path with
  | error e => rwa [remove_of_resolve_error hresolve] at hnode
  | ok place =>
      rw [remove_of_resolve hresolve] at hnode
      rcases hplace : files.node? place with _ | _ | content <;> rw [hplace] at hnode
      · exact hnode
      · exact hnode
      · have hplain : place ≠ [] := ne_nil_of_node? (by rw [hplace]; simp)
        simp only [node?_clear files hplain] at hnode
        split_ifs at hnode
        exact hnode

/-- Making a file fails, and the tree is as it was, or it succeeds. -/
lemma create_cases (h : files.resolve path = .ok place) :
    (∃ e files', files.create path = (.error e, files') ∧ files'.node? = files.node? ∧
      (files.node? place = some .directory ∨ files.nextFault.1 = some e)) ∨
      files.node? place ≠ some .directory ∧
        files.create path = (.ok (), files.nextFault.2.put place (.file [])) := by
  rw [create, h]
  obtain ⟨fault, spent, hfault, hspent⟩ := files.nextFault_spent
  rw [hfault]
  cases fault <;> rcases hnode : files.node? place with _ | _ | content <;>
    simp [hnode, hspent]

/-- Adding to a file fails, and the tree is as it was, or it succeeds. -/
lemma append_cases {content : Bytes} (h : files.resolve path = .ok place)
    (hfile : files.node? place = some (.file content)) (bytes : Bytes) :
    (∃ e files', files.append path bytes = (.error e, files') ∧ files'.node? = files.node? ∧
      files.nextFault.1 = some e) ∨
      files.append path bytes
        = (.ok (), files.nextFault.2.put place (.file (content ++ bytes))) := by
  rw [append, h]
  obtain ⟨fault, spent, hfault, hspent⟩ := files.nextFault_spent
  rw [hfault]
  cases fault <;> simp [hfile, hspent]

/-- Renaming a file fails, and the tree is as it was, or it succeeds. -/
lemma rename_cases {target : Path} {place' : Place} {content : Bytes}
    (h : files.resolve path = .ok place) (h' : files.resolve target = .ok place')
    (hfile : files.node? place = some (.file content)) :
    (∃ e files', files.rename path target = (.error e, files') ∧ files'.node? = files.node? ∧
      (files.node? place' = some .directory ∨ files.nextFault.1 = some e)) ∨
      files.node? place' ≠ some .directory ∧ files.rename path target
        = (.ok (), (files.nextFault.2.clear place).put place' (.file content)) := by
  rw [rename, h, h']
  obtain ⟨fault, spent, hfault, hspent⟩ := files.nextFault_spent
  rw [hfault]
  cases fault <;> rcases hnode : files.node? place' with _ | _ | content' <;>
    simp [hfile, hnode, hspent]

end Operations

end GlBridge.Files
