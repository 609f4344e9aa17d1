import GlBridge.Proofs.Text.Encoding
import GlBridge.Text.Blank

/-!
# Slicing encoded text

A program that keeps its texts in UTF-8 addresses them by byte offsets, and slicing one fails if
the range is no range, goes past the end, or cuts a character in two.  This file says what such
programs rely on.

**Slices.**  `Bytes.slice?` is the slice with its three checks.  Between the offsets of two
characters it gives the characters between them (`slice?_encode`).

**Offsets.**  Byte offsets of characters add up along a text (`byteOffset_add`), and they keep the
order of the characters (`byteOffset_mono`, `byteOffset_lt`), so that spans that come one after the
other in a text do so in its bytes (`slices_inBytes`).

**Bytes as characters.**  A scanner that only looks for ASCII characters is run on bytes by reading
each byte as the character of its number.  `bytewise` is a text read in this way: an ASCII
character stays itself, and any other one becomes several, none of them ASCII.  What a scanner
takes or drops by such a class of characters, it takes or drops of the bytes (`Blunt`).
-/

namespace GlBridge

/-! ## Slices -/

namespace Bytes

/-- Whether a byte goes on with a character that an earlier one started. -/
def continues (b : UInt8) : Bool := 0x80 ≤ b.toNat && b.toNat < 0xC0

/-- Whether an offset is one at which a character starts or the bytes end. -/
def isBoundary (bytes : Bytes) (offset : ℕ) : Bool :=
  offset == 0 ||
    match bytes[offset]? with
    | some b => !continues b
    | none => offset == bytes.length

/-- The text between two offsets, if these are in order and no character is cut in two. -/
def slice? (bytes : Bytes) (start stop : ℕ) : Option Text :=
  if start ≤ stop ∧ bytes.isBoundary start ∧ bytes.isBoundary stop then
    some (Text.decode ((bytes.take stop).drop start))
  else none

end Bytes

namespace Text

variable {text rest : Text} {a b : ℕ}

/-! ## Encoded characters -/

@[simp] lemma encode_nil : encode [] = [] := rfl

lemma encode_cons (c : Char) (text : Text) : encode (c :: text) = encodeChar c ++ encode text :=
  List.flatMap_cons ..

lemma encode_append (text rest : Text) : encode (text ++ rest) = encode text ++ encode rest :=
  List.flatMap_append

/-- A byte that is no continuation starts a character. -/
lemma continues_toUInt8 {n : ℕ} (h : n < 256) (hlead : n < 0x80 ∨ 0xC0 ≤ n) :
    Bytes.continues n.toUInt8 = false := by
  simp only [Bytes.continues, toNat_toUInt8 h, Bool.and_eq_false_iff, decide_eq_false_iff_not]
  omega

/-- The first byte of a character goes on with no other one. -/
lemma exists_encodeChar (c : Char) :
    ∃ b bytes, encodeChar c = b :: bytes ∧ Bytes.continues b = false := by
  have hvalid := toNat_cases c
  simp only [encodeChar]
  split_ifs with h1 h2 h3
  · exact ⟨_, _, rfl, continues_toUInt8 (by omega) (by omega)⟩
  · exact ⟨_, _, rfl, continues_toUInt8 (by omega) (by omega)⟩
  · exact ⟨_, _, rfl, continues_toUInt8 (by omega) (by omega)⟩
  · exact ⟨_, _, rfl, continues_toUInt8 (by omega) (by omega)⟩

/-- A character takes as many bytes as its code point needs. -/
lemma length_encodeChar (c : Char) : (encodeChar c).length = c.utf8Size := by
  have hval : c.val.toNat = c.toNat := rfl
  simp only [encodeChar, Char.utf8Size, UInt32.le_iff_toNat_le, hval]
  split_ifs <;> simp_all <;> omega

/-- The length of a text in bytes is the length of its encoding. -/
lemma length_encode (text : Text) : (encode text).length = byteLength text := by
  have hsum : ∀ n, text.foldl (· + ·.utf8Size) n = n + (encode text).length := by
    induction text with
    | nil => exact fun _ => rfl
    | cons c text ih =>
        intro n
        rw [List.foldl_cons, ih, encode_cons, List.length_append, length_encodeChar, Nat.add_assoc]
  rw [byteLength, hsum, Nat.zero_add]

/-! ## Offsets -/

/-- The offset of a character is what the characters before it take. -/
lemma byteOffset_eq (text : Text) (position : ℕ) :
    byteOffset text position = (encode (text.take position)).length :=
  (length_encode _).symm

@[simp] lemma byteOffset_zero (text : Text) : byteOffset text 0 = 0 := rfl

lemma byteOffset_length (text : Text) : byteOffset text text.length = (encode text).length := by
  rw [byteOffset_eq, List.take_length]

lemma byteOffset_append (text rest : Text) :
    byteOffset (text ++ rest) text.length = (encode text).length := by
  rw [byteOffset_eq, List.take_left]

/-- **Offsets add up.** -/
lemma byteOffset_add (text : Text) (a b : ℕ) :
    byteOffset text (a + b) = byteOffset text a + byteOffset (text.drop a) b := by
  rw [byteOffset_eq, byteOffset_eq, byteOffset_eq, List.take_add, encode_append, List.length_append]

/-- The offset after the characters that stand at a position. -/
lemma byteOffset_of_drop {source : Text} {position : ℕ} (h : source.drop position = text ++ rest) :
    byteOffset source (position + text.length) = byteOffset source position + (encode text).length := by
  rw [byteOffset_add, h, byteOffset_append]

/-- Later characters have later offsets. -/
lemma byteOffset_mono (h : a ≤ b) : byteOffset text a ≤ byteOffset text b := by
  obtain ⟨n, rfl⟩ := Nat.exists_eq_add_of_le h
  rw [byteOffset_add]
  exact Nat.le_add_right _ _

/-- Every character takes a byte at least. -/
lemma byteOffset_lt (hab : a < b) (hb : b ≤ text.length) : byteOffset text a < byteOffset text b := by
  obtain ⟨n, rfl⟩ := Nat.exists_eq_add_of_lt hab
  obtain ⟨c, rest, hdrop⟩ : ∃ c rest, text.drop a = c :: rest :=
    List.exists_cons_of_ne_nil fun hnil => by
      have := List.drop_eq_nil_iff.1 hnil
      omega
  obtain ⟨lead, bytes, hchar, _⟩ := exists_encodeChar c
  rw [Nat.add_assoc, byteOffset_add, hdrop, byteOffset_eq (c :: rest), List.take_succ_cons,
    encode_cons, hchar]
  simp

/-- Up to the end of the text, offsets have the order of the positions. -/
lemma byteOffset_inj (ha : a ≤ text.length) (hb : b ≤ text.length) :
    byteOffset text a = byteOffset text b ↔ a = b := by
  refine ⟨fun h => ?_, fun h => h ▸ rfl⟩
  rcases lt_trichotomy a b with hlt | heq | hlt
  · exact absurd h (byteOffset_lt hlt hb).ne
  · exact heq
  · exact absurd h (byteOffset_lt hlt ha).ne'

/-! ## Slices of encoded text -/

/-- Bytes up to an offset are the bytes of the characters up to there. -/
lemma encode_take (text : Text) (position : ℕ) :
    (encode text).take (byteOffset text position) = encode (text.take position) := by
  conv_lhs => rw [← List.take_append_drop position text, encode_append]
  rw [byteOffset_eq, List.take_append_drop, List.take_left]

/-- Bytes from an offset on are the bytes of the characters from there on. -/
lemma encode_drop (text : Text) (position : ℕ) :
    (encode text).drop (byteOffset text position) = encode (text.drop position) := by
  conv_lhs => rw [← List.take_append_drop position text, encode_append]
  rw [byteOffset_eq, List.take_append_drop, List.drop_left]

/-- A character starts at its offset. -/
lemma isBoundary_byteOffset (text : Text) (position : ℕ) :
    (encode text).isBoundary (byteOffset text position) = true := by
  rw [Bytes.isBoundary, Bool.or_eq_true]
  refine Or.inr ?_
  have hhead : (encode text)[byteOffset text position]? = (encode (text.drop position)).head? := by
    rw [← encode_drop, List.head?_drop]
  rw [hhead]
  cases hdrop : text.drop position with
  | nil =>
      have hlength : byteOffset text position = (encode text).length := by
        rw [byteOffset_eq, List.take_of_length_le (List.drop_eq_nil_iff.1 hdrop)]
      simp [hlength]
  | cons c rest =>
      obtain ⟨lead, bytes, hchar, hlead⟩ := exists_encodeChar c
      rw [encode_cons, hchar, List.cons_append, List.head?_cons]
      simp [hlead]

/-- **Between the offsets of two characters stand the characters between them.** -/
theorem slice?_encode (text : Text) (h : a ≤ b) :
    (encode text).slice? (byteOffset text a) (byteOffset text b) = some (text.slice a b) := by
  have htake : (encode (text.take b)).drop (byteOffset text a) = encode ((text.take b).drop a) := by
    have hoffset : byteOffset text a = byteOffset (text.take b) a := by
      rw [byteOffset_eq, byteOffset_eq, List.take_take, Nat.min_eq_left h]
    rw [hoffset, encode_drop]
  rw [Bytes.slice?, if_pos ⟨byteOffset_mono h, isBoundary_byteOffset .., isBoundary_byteOffset ..⟩,
    encode_take, htake, decode_encode, slice]

example : (encode "né".toList).slice? 0 2 = none := by decide

/-- The slice from the offset of a character to the end. -/
lemma slice?_encode_end (text : Text) {position : ℕ} (h : position ≤ text.length) :
    (encode text).slice? (byteOffset text position) (encode text).length
      = some (text.drop position) := by
  rw [← byteOffset_length, slice?_encode text h, slice, List.take_length]

/-- A text is cut in two where its first part ends. -/
lemma slice?_append_left (text rest : Text) :
    (encode (text ++ rest)).slice? 0 (encode text).length = some text := by
  have hslice := slice?_encode (text ++ rest) (Nat.zero_le text.length)
  rwa [byteOffset_zero, byteOffset_append, slice, List.drop_zero, List.take_left] at hslice

/-- What comes after a text is a slice of the whole. -/
lemma slice?_append_right (text rest : Text) :
    (encode (text ++ rest)).slice? (encode text).length (encode (text ++ rest)).length
      = some rest := by
  have hle : text.length ≤ (text ++ rest).length := by rw [List.length_append]; omega
  have hslice := slice?_encode_end (text ++ rest) hle
  rwa [byteOffset_append, List.drop_left] at hslice

lemma length_slice (h : b ≤ text.length) : (text.slice a b).length = b - a := by
  rw [slice, List.length_drop, List.length_take, Nat.min_eq_left h]

/-- The rest of a text is a slice and the rest after it. -/
lemma drop_eq_slice_append (text : Text) (h : a ≤ b) :
    text.drop a = text.slice a b ++ text.drop b := by
  rw [slice, List.drop_take, ← Nat.add_sub_cancel' h, ← List.drop_drop, Nat.add_sub_cancel_left,
    List.take_append_drop]

/-- Offsets in a slice start over at its beginning. -/
lemma byteOffset_slice {position : ℕ} (h : position ≤ (text.slice a b).length) :
    byteOffset (text.slice a b) position + byteOffset text a = byteOffset text (a + position) := by
  have hle : position ≤ b - a := h.trans (slice_length_le text a b)
  have htake : (text.slice a b).take position = (text.drop a).take position := by
    rw [slice, List.drop_take, List.take_take, Nat.min_eq_left hle]
  rw [byteOffset_add, Nat.add_comm, byteOffset_eq (text.slice a b), htake, ← byteOffset_eq]

end Text

/-- The offsets between which the characters of a span stand. -/
def Span.inBytes (source : Text) (span : Span) : Span :=
  { start := Text.byteOffset source span.start, stop := Text.byteOffset source span.stop }

/-- Ranges that come one after the other, and each of which can be sliced out of bytes. -/
structure Bytes.Slices (bytes : Bytes) (spans : List Span) : Prop where
  disjoint : spans.Pairwise fun earlier later => earlier.stop ≤ later.start
  increasing : spans.Pairwise fun earlier later => earlier.start < later.start
  sliced : ∀ span ∈ spans, (bytes.slice? span.start span.stop).isSome = true

/-- Spans that come one after the other in a text do so in its bytes. -/
lemma Text.slices_inBytes {source : Text} {spans : List Span}
    (hordered : spans.Pairwise fun earlier later =>
      earlier.stop ≤ later.start ∧ earlier.start < later.start)
    (hwithin : ∀ span ∈ spans, span.start ≤ span.stop ∧ span.stop ≤ source.length) :
    (encode source).Slices (spans.map (Span.inBytes source)) where
  disjoint := List.pairwise_map.2 (hordered.imp fun h => byteOffset_mono h.1)
  increasing := List.pairwise_map.2 <| hordered.imp_of_mem fun _ hlater h =>
    byteOffset_lt h.2 ((hwithin _ hlater).1.trans (hwithin _ hlater).2)
  sliced := List.forall_mem_map.2 fun span hspan => by
    rw [Span.inBytes, slice?_encode source (hwithin span hspan).1]
    rfl

/-! ## Bytes as characters -/

/-- The bytes, each read as the character of its number. -/
def Bytes.characters (bytes : Bytes) : Text := bytes.map fun b => Char.ofNat b.toNat

namespace Text

/-- The bytes of a text, each read as the character of its number. -/
def bytewise (text : Text) : Text := (encode text).characters

variable {text rest : Text} {c d : Char}

@[simp] lemma bytewise_nil : bytewise [] = [] := rfl

lemma bytewise_append (text rest : Text) :
    bytewise (text ++ rest) = bytewise text ++ bytewise rest := by
  rw [bytewise, encode_append, Bytes.characters, List.map_append]
  rfl

lemma length_bytewise (text : Text) : (bytewise text).length = (encode text).length :=
  List.length_map ..

/-- An ASCII character is its own byte. -/
lemma bytewise_ascii (h : isAscii c = true) (text : Text) :
    bytewise (c :: text) = c :: bytewise text := by
  have hn : c.toNat < 0x80 := by simpa [isAscii] using h
  have hchar : encodeChar c = [c.toNat.toUInt8] := by simp only [encodeChar, if_pos hn]
  have hback : Char.ofNat c.toNat.toUInt8.toNat = c := by
    rw [toNat_toUInt8 (hn.trans (by decide)), Char.ofNat_toNat]
  rw [bytewise, encode_cons, hchar, Bytes.characters, List.map_append, List.map_singleton, hback]
  rfl

/-- All bytes of a character outside ASCII are outside ASCII. -/
lemma toNat_of_mem_encodeChar (hc : 0x80 ≤ c.toNat) {b : UInt8} (hb : b ∈ encodeChar c) :
    0x80 ≤ b.toNat := by
  have hvalid := toNat_cases c
  simp only [encodeChar, if_neg (not_lt.2 hc)] at hb
  split_ifs at hb <;> simp only [List.mem_cons, List.not_mem_nil, or_false] at hb
  · rcases hb with rfl | rfl <;> rw [toNat_toUInt8 (by omega)] <;> omega
  · rcases hb with rfl | rfl | rfl <;> rw [toNat_toUInt8 (by omega)] <;> omega
  · rcases hb with rfl | rfl | rfl | rfl <;> rw [toNat_toUInt8 (by omega)] <;> omega

/-- No byte of any other character is an ASCII character. -/
lemma isAscii_of_mem_bytewise (hc : isAscii c = false) (hd : d ∈ bytewise [c]) :
    isAscii d = false := by
  have hn : 0x80 ≤ c.toNat := by simpa [isAscii] using hc
  rw [bytewise, encode_cons, encode_nil, List.append_nil, Bytes.characters, List.mem_map] at hd
  obtain ⟨b, hb, rfl⟩ := hd
  have hback : (Char.ofNat b.toNat).toNat = b.toNat := by
    have hlt := b.toNat_lt
    rw [Char.toNat_ofNat, if_pos (Or.inl (by omega))]
  simp only [isAscii, hback, decide_eq_false_iff_not, not_lt]
  exact toNat_of_mem_encodeChar hn hb

/-- Characters are read as bytes one by one. -/
lemma bytewise_cons (c : Char) (text : Text) : bytewise (c :: text) = bytewise [c] ++ bytewise text :=
  bytewise_append [c] text

/-- Every character has a first byte. -/
lemma exists_bytewise (c : Char) : ∃ d ds, bytewise [c] = d :: ds := by
  obtain ⟨b, bytes, hchar, _⟩ := exists_encodeChar c
  refine ⟨Char.ofNat b.toNat, Bytes.characters bytes, ?_⟩
  rw [bytewise, encode_cons, hchar, encode_nil, List.append_nil]
  rfl

lemma bytewise_eq_nil : bytewise text = [] ↔ text = [] := by
  refine ⟨fun h => ?_, fun h => by rw [h, bytewise_nil]⟩
  cases text with
  | nil => rfl
  | cons c rest =>
      obtain ⟨d, ds, hcons⟩ := exists_bytewise c
      rw [bytewise_cons, hcons, List.cons_append] at h
      exact absurd h (List.cons_ne_nil _ _)

/-! ## Classes of characters -/

/-- A class of characters that all characters outside ASCII belong to, or none. -/
def Blunt (keep : Char → Bool) : Prop :=
  ∀ c d, isAscii c = false → isAscii d = false → keep c = keep d

variable {keep : Char → Bool}

/-- Characters that a class leaves out do not belong to it, whatever they are outside ASCII. -/
lemma blunt_of_isAscii (h : ∀ c, keep c = true → isAscii c = true) : Blunt keep := by
  have hnone (c : Char) (hc : isAscii c = false) : keep c = false := by
    rw [← Bool.not_eq_true]
    intro hkeep
    rw [h c hkeep] at hc
    exact Bool.noConfusion hc
  exact fun c d hc hd => (hnone c hc).trans (hnone d hd).symm

/-- A character outside ASCII is not one inside. -/
lemma ne_of_isAscii (hc : isAscii c = true) (hd : isAscii d = false) : d ≠ c := by
  rintro rfl
  rw [hc] at hd
  exact Bool.noConfusion hd

/-- Being no ASCII character in particular is blunt. -/
lemma blunt_ne (hc : isAscii c = true) : Blunt (· ≠ c) := by
  intro d e hd he
  simp [ne_of_isAscii hc hd, ne_of_isAscii hc he]

/-- What is left out of a blunt class is blunt. -/
lemma Blunt.not (h : Blunt keep) : Blunt fun c => !keep c :=
  fun c d hc hd => congrArg (!·) (h c d hc hd)

/-- What is taken of the bytes is what is taken of the text. -/
lemma takeWhile_bytewise (hkeep : Blunt keep) :
    ∀ text, (bytewise text).takeWhile keep = bytewise (text.takeWhile keep)
  | [] => rfl
  | c :: text => by
      have ih := takeWhile_bytewise hkeep text
      rw [List.takeWhile_cons]
      cases hc : isAscii c with
      | true =>
          rw [bytewise_ascii hc, List.takeWhile_cons]
          split_ifs
          · rw [bytewise_ascii hc, ih]
          · rfl
      | false =>
          have hall (d : Char) (hd : d ∈ bytewise [c]) : keep d = keep c :=
            hkeep d c (isAscii_of_mem_bytewise hc hd) hc
          rw [bytewise_cons]
          split_ifs with hk
          · rw [List.takeWhile_append_of_pos fun d hd => (hall d hd).trans hk, ih, ← bytewise_cons]
          · obtain ⟨d, ds, hcons⟩ := exists_bytewise c
            have hd : keep d = keep c := hall d (by simp [hcons])
            rw [hcons, List.cons_append, List.takeWhile_cons_of_neg (by rwa [hd])]
            rfl

/-- What is left of the bytes is what is left of the text. -/
lemma dropWhile_bytewise (hkeep : Blunt keep) (text : Text) :
    (bytewise text).dropWhile keep = bytewise (text.dropWhile keep) := by
  have hsplit : bytewise (text.takeWhile keep) ++ (bytewise text).dropWhile keep
      = bytewise (text.takeWhile keep) ++ bytewise (text.dropWhile keep) := by
    rw [← takeWhile_bytewise hkeep, List.takeWhile_append_dropWhile, takeWhile_bytewise hkeep,
      ← bytewise_append, List.takeWhile_append_dropWhile]
  exact List.append_cancel_left hsplit

/-- An ASCII character comes first in the bytes if and only if it does in the text. -/
lemma head?_bytewise (hc : isAscii c = true) :
    (bytewise text).head? = some c ↔ text.head? = some c := by
  cases text with
  | nil => rfl
  | cons e text =>
      cases he : isAscii e with
      | true => rw [bytewise_ascii he, List.head?_cons, List.head?_cons]
      | false =>
          obtain ⟨d, ds, hcons⟩ := exists_bytewise e
          have hd : isAscii d = false := isAscii_of_mem_bytewise he (by simp [hcons])
          rw [bytewise_cons, hcons, List.cons_append, List.head?_cons, List.head?_cons]
          simp [ne_of_isAscii hc he, ne_of_isAscii hc hd]

/-- How many bytes are taken. -/
lemma length_takeWhile_bytewise (hkeep : Blunt keep) (text : Text) :
    ((bytewise text).takeWhile keep).length = byteOffset text (text.takeWhile keep).length := by
  rw [takeWhile_bytewise hkeep, length_bytewise, byteOffset_eq,
    ← List.prefix_iff_eq_take.1 (List.takeWhile_prefix keep)]

/-- An offset counts the bytes of each character before it. -/
lemma byteOffset_cons (c : Char) (text : Text) (position : ℕ) :
    byteOffset (c :: text) (position + 1) = (bytewise [c]).length + byteOffset text position := by
  rw [Nat.add_comm, byteOffset_add, byteOffset_eq, length_bytewise]
  rfl

/-- An ASCII character counts for one. -/
lemma byteOffset_cons_ascii (hc : isAscii c = true) (text : Text) (position : ℕ) :
    byteOffset (c :: text) (position + 1) = 1 + byteOffset text position := by
  rw [byteOffset_cons, bytewise_ascii hc]
  rfl

/-- The bytes of the first characters are the first bytes. -/
lemma take_bytewise (text : Text) (position : ℕ) :
    (bytewise text).take (byteOffset text position) = bytewise (text.take position) := by
  rw [bytewise, Bytes.characters, ← List.map_take, encode_take]
  rfl

/-- From an offset on, the bytes are those of the characters from there on. -/
lemma drop_bytewise (text : Text) (position : ℕ) :
    (bytewise text).drop (byteOffset text position) = bytewise (text.drop position) := by
  rw [bytewise, Bytes.characters, ← List.map_drop, encode_drop]
  rfl

end Text
end GlBridge
