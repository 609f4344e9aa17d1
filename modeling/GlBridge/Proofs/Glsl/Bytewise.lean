import GlBridge.Proofs.Glsl.Piece
import GlBridge.Proofs.Text.Slicing

/-!
# Scanning the bytes of a source

Sources are scanned byte by byte, and no scanner decodes a character.  This is sound because all
that a scanner looks for is ASCII, and no byte of any other character is.  Here the scan is run on
the bytes of a text, each read as a character of its own.

* `Piece.lineLength_bytewise`, `Piece.blockLength_bytewise`, `Piece.directiveLength_bytewise` — the
  lengths of comments and directives, in bytes;
* `Piece.lead_bytewise` — the piece that a text starts with;
* **`Piece.scanFrom_bytewise`** — scanning the bytes of a text gives the bytes of its pieces, so
  that every piece ends where a character does.
-/

namespace GlBridge.Glsl

open Text

lemma blunt_isWordChar : Blunt isWordChar := blunt_of_isAscii fun _ => isAscii_of_isWordChar

namespace Piece

variable {text rest : Text} {c d : Char} {lineStart : Bool}

/-! ## Lengths in bytes -/

lemma lineLength_bytewise (text : Text) :
    lineLength (bytewise text) = byteOffset text (lineLength text) :=
  length_takeWhile_bytewise (blunt_ne (by decide)) text

/-- No block comment ends among characters that are not ASCII. -/
lemma blockLength_append {ds : Text} (hds : ∀ d ∈ ds, isAscii d = false) (rest : Text) :
    blockLength (ds ++ rest) = ds.length + blockLength rest := by
  induction ds with
  | nil => exact (Nat.zero_add _).symm
  | cons d ds ih =>
      rw [List.forall_mem_cons] at hds
      have hd : d ≠ '*' := ne_of_isAscii (by decide) hds.1
      rw [List.cons_append, blockLength_cons fun h => hd h.1, ih hds.2, List.length_cons]
      omega

lemma blockLength_bytewise : ∀ text,
    blockLength (bytewise text) = byteOffset text (blockLength text)
  | [] => rfl
  | c :: rest => by
      have ih := blockLength_bytewise rest
      cases hc : isAscii c with
      | true =>
          rw [bytewise_ascii hc]
          by_cases hclose : c = '*' ∧ rest.head? = some '/'
          · obtain ⟨rfl, hhead⟩ := hclose
            obtain ⟨rest, rfl⟩ := List.head?_eq_some_iff.1 hhead
            rw [bytewise_ascii (by decide)]
            rfl
          · have hclose' : ¬ (c = '*' ∧ (bytewise rest).head? = some '/') := by
              rwa [head?_bytewise (by decide)]
            rw [blockLength_cons hclose', blockLength_cons hclose, ih, Nat.add_comm 1 (blockLength _),
              byteOffset_cons_ascii hc]
      | false =>
          have hne : c ≠ '*' := ne_of_isAscii (by decide) hc
          rw [bytewise_cons, blockLength_append fun d => isAscii_of_mem_bytewise hc, ih,
            blockLength_cons fun h => hne h.1, Nat.add_comm 1 (blockLength _), byteOffset_cons]

/-- No directive ends among characters that are not ASCII. -/
lemma directiveLength_append {ds : Text} (hds : ∀ d ∈ ds, isAscii d = false) (rest : Text) :
    directiveLength (ds ++ rest) = ds.length + directiveLength rest := by
  induction ds with
  | nil => exact (Nat.zero_add _).symm
  | cons d ds ih =>
      rw [List.forall_mem_cons] at hds
      have hfeed : d ≠ '\n' := ne_of_isAscii (by decide) hds.1
      have hslash : d ≠ '\\' := ne_of_isAscii (by decide) hds.1
      rw [List.cons_append, directiveLength_cons hfeed fun h => hslash h.1, ih hds.2,
        List.length_cons]
      omega

lemma directiveLength_bytewise (text : Text) :
    directiveLength (bytewise text) = byteOffset text (directiveLength text) := by
  fun_induction directiveLength text with
  | case1 rest ih =>
      rw [bytewise_ascii (by decide), bytewise_ascii (by decide), directiveLength, ih,
        Nat.add_comm 2 (directiveLength rest), byteOffset_cons_ascii (by decide),
        byteOffset_cons_ascii (by decide), ← Nat.add_assoc]
  | case2 rest =>
      rw [bytewise_ascii (by decide), directiveLength]
      rfl
  | case3 c rest hcontinues hfeed ih =>
      have hgoes : ¬ (c = '\\' ∧ rest.head? = some '\n') := by
        rintro ⟨hslash, hhead⟩
        obtain ⟨tail, hrest⟩ := List.head?_eq_some_iff.1 hhead
        exact hcontinues tail hslash hrest
      cases hc : isAscii c with
      | true =>
          have hgoes' : ¬ (c = '\\' ∧ (bytewise rest).head? = some '\n') := by
            rwa [head?_bytewise (by decide)]
          rw [bytewise_ascii hc, directiveLength_cons hfeed hgoes', ih,
            Nat.add_comm 1 (directiveLength rest), byteOffset_cons_ascii hc]
      | false =>
          rw [bytewise_cons, directiveLength_append fun d => isAscii_of_mem_bytewise hc, ih,
            Nat.add_comm 1 (directiveLength rest), byteOffset_cons]
  | case4 => rfl

/-! ## Pieces -/

/-- The leading piece of a text is that of its bytes. -/
lemma lead_bytewise (lineStart : Bool) (c : Char) (rest : Text) :
    lead lineStart c (Text.bytewise rest)
      = ((lead lineStart c rest).1, byteOffset rest (lead lineStart c rest).2) := by
  have hline : (bytewise rest).head? = some '/' ↔ rest.head? = some '/' :=
    head?_bytewise (by decide)
  have hblock : (bytewise rest).head? = some '*' ↔ rest.head? = some '*' :=
    head?_bytewise (by decide)
  simp only [lead, hline, hblock]
  split_ifs with _ _ _ hopens
  · rfl
  · rfl
  · rw [lineLength_bytewise]
  · obtain ⟨rest, rfl⟩ := List.head?_eq_some_iff.1 hopens.2
    rw [bytewise_ascii (by decide), List.drop_one, List.tail_cons, List.drop_one, List.tail_cons,
      blockLength_bytewise, Nat.add_comm 1 (blockLength rest), byteOffset_cons_ascii (by decide)]
  · rw [directiveLength_bytewise]
  · rw [length_takeWhile_bytewise blunt_isWordChar]
  · rw [length_takeWhile_bytewise (Blunt.not fun _ _ hc hd => hc.trans hd.symm)]

/-- A character that is not ASCII starts a token. -/
lemma lead_other (hc : isAscii c = false) (rest : Text) :
    lead lineStart c rest = (.token, (rest.takeWhile fun d => !isAscii d).length) := by
  have hne {e : Char} (he : isAscii e = true) : c ≠ e := ne_of_isAscii he hc
  have hblank : isAsciiBlank c = false := by
    simp only [isAsciiBlank, Bool.or_eq_false_iff, beq_eq_false_iff_ne]
    exact ⟨⟨⟨⟨hne (by decide), hne (by decide)⟩, hne (by decide)⟩, hne (by decide)⟩, hne (by decide)⟩
  have hword : isWordChar c = false := by
    rw [← Bool.not_eq_true]
    intro hword
    rw [isAscii_of_isWordChar hword] at hc
    exact Bool.noConfusion hc
  have hfeed : c ≠ '\n' := hne (by decide)
  have hslash : c ≠ '/' := hne (by decide)
  have hhash : c ≠ '#' := hne (by decide)
  simp [lead, hfeed, hslash, hhash, hblank, hword]

/-- The bytes of a piece. -/
def bytewise (piece : Piece) : Piece := { piece with text := piece.text.bytewise }

/-- **Scanning the bytes of a text gives the bytes of its pieces.** -/
theorem scanFrom_bytewise (lineStart : Bool) (text : Text) :
    scanFrom lineStart text.bytewise = (scanFrom lineStart text).map bytewise := by
  fun_induction scanFrom lineStart text with
  | case1 => rw [bytewise_nil, scanFrom]; rfl
  | case2 lineStart c rest kind length hlead ih =>
      rw [List.map_cons, ← ih]
      cases hc : isAscii c with
      | true =>
          rw [bytewise_ascii hc, scanFrom, lead_bytewise, hlead]
          simp only [take_bytewise, drop_bytewise, bytewise, bytewise_ascii hc]
      | false =>
          obtain ⟨d, ds, hcons⟩ := exists_bytewise c
          have hall (e : Char) (he : e ∈ d :: ds) : isAscii e = false :=
            isAscii_of_mem_bytewise hc (hcons ▸ he)
          have hds : ∀ e ∈ ds, (!isAscii e) = true := fun e he => by
            rw [hall e (List.mem_cons_of_mem d he)]
            rfl
          have htaken : ((ds ++ Text.bytewise rest).takeWhile fun e => !isAscii e).length
              = ds.length + byteOffset rest length := by
            rw [lead_other hc, Prod.mk.injEq] at hlead
            rw [List.takeWhile_append_of_pos hds, List.length_append,
              length_takeWhile_bytewise (Blunt.not fun _ _ hc hd => hc.trans hd.symm), hlead.2]
          have hkind : kind = .token := by
            rw [lead_other hc, Prod.mk.injEq] at hlead
            exact hlead.1.symm
          rw [bytewise_cons, hcons, List.cons_append, scanFrom, lead_other (hall d List.mem_cons_self),
            htaken, hkind]
          simp only [List.take_length_add_append, List.drop_length_add_append, take_bytewise,
            drop_bytewise, bytewise]
          rw [bytewise_cons c, hcons, List.cons_append]

end Piece

end GlBridge.Glsl
