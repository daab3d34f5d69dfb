import Mathlib

/-!
This module contains byte strings that are read as UTF-8, piece by piece: a code point where there is
one, and stray bytes elsewhere. The readers differ in how many bytes they take for one stray piece.
-/

namespace Utf8

def encodeChars (cs : List Char) : List UInt8 :=
  cs.flatMap String.utf8EncodeChar

def encode (s : String) : List UInt8 :=
  encodeChars s.toList

def decodeChar? (bytes : List UInt8) : Option Char :=
  bytes.toByteArray.utf8DecodeChar? 0

inductive Rune where
  | char (c : Char)
  | byte (b : UInt8)
  deriving DecidableEq, Repr

def Rune.bytes (r : Rune) : List UInt8 :=
  match r with
  | .char c => String.utf8EncodeChar c
  | .byte b => [b]

def Rune.toChar (r : Rune) : Char :=
  match r with
  | .char c => c
  | .byte _ => '\uFFFD'

/--
The runes behind the first `skip` bytes. Where no code point begins, the byte there stands for itself and
for the bytes behind it that the reader counts to it.
-/
def runesFrom (more : UInt8 → List UInt8 → Nat) (skip : Nat) (bytes : List UInt8) : List Rune :=
  match skip, bytes with
  | _, [] => []
  | skip + 1, _ :: bytes => runesFrom more skip bytes
  | 0, b :: bytes =>
    match decodeChar? (b :: bytes) with
    | some c => .char c :: runesFrom more (c.utf8Size - 1) bytes
    | none => .byte b :: runesFrom more (more b bytes) bytes

def runes (bytes : List UInt8) : List Rune :=
  runesFrom (fun _ _ => 0) 0 bytes

def bytesOf (rs : List Rune) : List UInt8 :=
  rs.flatMap Rune.bytes

/--
The text of a byte string, where `U+FFFD` takes the place of a byte that is in no code point.
-/
def lossy (bytes : List UInt8) : String :=
  String.ofList ((runes bytes).map Rune.toChar)

/--
The bounds of the bytes that follow a first byte.
-/
def followers (b : UInt8) : List (UInt8 × UInt8) :=
  let tail := (0x80, 0xBF)
  if 0xC2 ≤ b ∧ b ≤ 0xDF then [tail]
  else if b = 0xE0 then [(0xA0, 0xBF), tail]
  else if b = 0xED then [(0x80, 0x9F), tail]
  else if 0xE1 ≤ b ∧ b ≤ 0xEF then [tail, tail]
  else if b = 0xF0 then [(0x90, 0xBF), tail, tail]
  else if 0xF1 ≤ b ∧ b ≤ 0xF3 then [tail, tail, tail]
  else if b = 0xF4 then [(0x80, 0x8F), tail, tail]
  else []

def within (bounds : List (UInt8 × UInt8)) (bytes : List UInt8) : Nat :=
  match bounds, bytes with
  | (low, high) :: bounds, b :: bytes => if low ≤ b ∧ b ≤ high then within bounds bytes + 1 else 0
  | _, _ => 0

/--
`String::from_utf8_lossy`: one `U+FFFD` takes the place of a code point that breaks off, as far as it got.
-/
def fromUtf8Lossy (bytes : List UInt8) : String :=
  String.ofList ((runesFrom (fun b => within (followers b)) 0 bytes).map Rune.toChar)

example : fromUtf8Lossy [0xE2, 0x82, 0x41, 0xE2, 0xED, 0xA0] = "\uFFFDA\uFFFD\uFFFD\uFFFD" := by decide

def IsValid (bytes : List UInt8) : Prop :=
  ∃ s, bytes = encode s

theorem decodeChar?_append (c : Char) (bytes : List UInt8)
    : decodeChar? (String.utf8EncodeChar c ++ bytes) = some c := by
  unfold decodeChar?
  rw [List.toByteArray_append]
  apply ByteArray.utf8DecodeChar?_utf8EncodeChar_append

section Readers

variable (more : UInt8 → List UInt8 → Nat)

theorem runesFrom_append (front bytes : List UInt8)
    : runesFrom more front.length (front ++ bytes) = runesFrom more 0 bytes := by
  induction front with
  | nil => rfl
  | cons b front ih => exact ih

theorem runesFrom_char (c : Char) (bytes : List UInt8)
    : runesFrom more 0 (String.utf8EncodeChar c ++ bytes) = .char c :: runesFrom more 0 bytes := by
  have hlength := String.length_utf8EncodeChar c
  have hdecode := decodeChar?_append c bytes
  have hpos := c.utf8Size_pos
  cases hbytes : String.utf8EncodeChar c with
  | nil =>
    rw [hbytes] at hlength
    simp at hlength
    omega
  | cons b front =>
    rw [hbytes, List.length_cons] at hlength
    rw [hbytes, List.cons_append] at hdecode
    rw [List.cons_append, runesFrom, hdecode]
    dsimp only
    have hskip : c.utf8Size - 1 = front.length := by omega
    rw [hskip, runesFrom_append]

theorem runesFrom_encodeChars (cs : List Char) : runesFrom more 0 (encodeChars cs) = cs.map .char := by
  induction cs with
  | nil => rfl
  | cons c cs ih =>
    unfold encodeChars at ih ⊢
    rw [List.flatMap_cons, runesFrom_char, ih, List.map_cons]

theorem ofList_runesFrom (s : String)
    : String.ofList ((runesFrom more 0 (encode s)).map Rune.toChar) = s := by
  unfold encode
  rw [runesFrom_encodeChars, List.map_map]
  have hid : Rune.toChar ∘ Rune.char = id := rfl
  rw [hid, List.map_id, String.ofList_toList]

end Readers

theorem runes_encodeChars (cs : List Char) : runes (encodeChars cs) = cs.map .char :=
  runesFrom_encodeChars _ cs

@[simp]
theorem lossy_encode (s : String) : lossy (encode s) = s :=
  ofList_runesFrom _ s

@[simp]
theorem fromUtf8Lossy_encode (s : String) : fromUtf8Lossy (encode s) = s :=
  ofList_runesFrom _ s

theorem encode_injective {s t : String} (h : encode s = encode t) : s = t := by
  rw [← lossy_encode s, h, lossy_encode]

section Bytes

theorem encodeChars_append (s t : List Char) : encodeChars (s ++ t) = encodeChars s ++ encodeChars t :=
  List.flatMap_append

theorem encodeChars_cons (c : Char) (s : List Char) : encodeChars (c :: s) = String.utf8EncodeChar c ++ encodeChars s :=
  rfl

theorem encodeChars_replicate {c : Char} {b : UInt8} (h : String.utf8EncodeChar c = [b]) (n : Nat)
    : encodeChars (List.replicate n c) = List.replicate n b := by
  induction n with
  | zero => rfl
  | succ n ih => rw [List.replicate_succ, encodeChars_cons, h, ih, List.replicate_succ, List.singleton_append]

theorem length_le_encodeChars (s : List Char) : s.length ≤ (encodeChars s).length := by
  induction s with
  | nil => exact Nat.le_refl _
  | cons c s ih =>
    have := c.utf8Size_pos
    rw [encodeChars_cons, List.length_append, String.length_utf8EncodeChar, List.length_cons]
    omega

theorem length_encodeChars_eq_iff {s : List Char} : (encodeChars s).length = s.length ↔ ∀ c ∈ s, c.utf8Size = 1 := by
  induction s with
  | nil => simp [encodeChars]
  | cons c s ih =>
    have hpos := c.utf8Size_pos
    have hle := length_le_encodeChars s
    rw [encodeChars_cons, List.length_append, String.length_utf8EncodeChar, List.length_cons, List.forall_mem_cons,
      ← ih]
    omega

theorem eq_of_prefix_encode {c d : Char} {s : List Char} (h : String.utf8EncodeChar c <+: encodeChars (d :: s))
    : c = d := by
  obtain ⟨rest, hrest⟩ := h
  have hdecode := decodeChar?_append c rest
  rw [hrest, encodeChars_cons, decodeChar?_append] at hdecode
  exact (Option.some.inj hdecode).symm

theorem eq_of_mem_encode {c d : Char} {b : UInt8} (hd : String.utf8EncodeChar d = [b])
    (h : b ∈ String.utf8EncodeChar c) : c = d := by
  obtain ⟨i, hi, hget⟩ := List.getElem_of_mem h
  have hfirst : b.IsUTF8FirstByte := by
    have hzero := UInt8.isUTF8FirstByte_getElem_zero_utf8EncodeChar (c := d)
    simpa only [hd, List.getElem_cons_zero] using hzero
  rw [← hget, UInt8.isUTF8FirstByte_getElem_utf8EncodeChar] at hfirst
  subst hfirst
  have hprefix : String.utf8EncodeChar d <+: encodeChars [c] := by
    obtain ⟨e, rest, hc⟩ := List.exists_cons_of_ne_nil (String.utf8EncodeChar_ne_nil (c := c))
    simp only [hc, List.getElem_cons_zero] at hget
    rw [hd, ← hget, encodeChars_cons, hc]
    exact ⟨rest ++ encodeChars [], rfl⟩
  exact (eq_of_prefix_encode hprefix).symm

theorem not_mem_encodeChars {d : Char} {b : UInt8} (hd : String.utf8EncodeChar d = [b]) {cs : List Char}
    (h : d ∉ cs) : b ∉ encodeChars cs := by
  intro hmem
  obtain ⟨c, hc, hb⟩ := List.mem_flatMap.mp hmem
  rw [eq_of_mem_encode hd hb] at hc
  exact h hc

end Bytes

end Utf8
