import PqCas.Lib.Text

/-!
This module contains byte strings written in hexadecimal: the writer, a strict reader and the reader
that stops at the first pair it cannot read.
-/

namespace Hex

def LOWER : List Char := "0123456789abcdef".toList

def digits (byte : UInt8) : List Char :=
  [LOWER.getD (byte.toNat / 16) '0', LOWER.getD (byte.toNat % 16) '0']

def encode (bytes : List UInt8) : String :=
  String.ofList ((bytes.flatMap digits).map Char.toUpper)

def value (c : Char) : Option Nat :=
  let n := c.toNat
  if 48 ≤ n ∧ n ≤ 57 then
    some (n - 48)
  else if 97 ≤ n ∧ n ≤ 102 then
    some (n - 87)
  else if 65 ≤ n ∧ n ≤ 70 then
    some (n - 55)
  else
    none

def byte (hi lo : Char) : Option UInt8 := do
  let h ← value hi
  let l ← value lo
  return UInt8.ofNat (16 * h + l)

def decode (s : List Char) : Option (List UInt8) :=
  match s with
  | [] => some []
  | [_] => none
  | hi :: lo :: s => do
    let b ← byte hi lo
    let bs ← decode s
    return b :: bs

/--
Reads pairs of digits up to the first one that is none.
-/
def decodeLenient (s : List Char) : List UInt8 :=
  match s with
  | hi :: lo :: s =>
    match byte hi lo with
    | some b => b :: decodeLenient s
    | none => []
  | _ => []

def IsHex (s : String) : Prop :=
  s.toList.length % 2 = 0 ∧ ∀ c ∈ s.toList, (value c).isSome

theorem value_upper_digit : ∀ n < 16, value (LOWER.getD n '0').toUpper = some n := by
  decide

theorem byte_digits (b : UInt8)
    : byte (LOWER.getD (b.toNat / 16) '0').toUpper (LOWER.getD (b.toNat % 16) '0').toUpper = some b := by
  have hlt : b.toNat < 256 := b.toNat_lt_size
  have hhalves : 16 * (b.toNat / 16) + b.toNat % 16 = b.toNat := by omega
  unfold byte
  rw [value_upper_digit _ (by omega)]
  rw [value_upper_digit _ (by omega)]
  dsimp only [Option.bind_eq_bind, Option.bind_some]
  rw [hhalves, UInt8.ofNat_toNat]
  rfl

theorem decode_pair {hi lo : Char} {s : List Char} {bytes : List UInt8}
    : decode (hi :: lo :: s) = some bytes ↔ ∃ b bs, byte hi lo = some b ∧ decode s = some bs ∧ bytes = b :: bs := by
  rw [decode]
  cases byte hi lo with
  | none => simp
  | some b =>
    cases decode s with
    | none => simp
    | some bs => simp [eq_comm]

theorem decode_map_toUpper (bytes : List UInt8)
    : decode ((bytes.flatMap digits).map Char.toUpper) = some bytes := by
  induction bytes with
  | nil => rfl
  | cons b bytes ih =>
    rw [List.flatMap_cons, List.map_append]
    exact decode_pair.mpr ⟨b, bytes, byte_digits b, ih, rfl⟩

@[simp]
theorem decode_encode (bytes : List UInt8) : decode (encode bytes).toList = some bytes := by
  rw [encode, String.toList_ofList]
  exact decode_map_toUpper bytes

theorem decodeLenient_of_decode {s : List Char} {bytes : List UInt8} (h : decode s = some bytes)
    : decodeLenient s = bytes := by
  induction s using decode.induct generalizing bytes with
  | case1 =>
    cases h
    rfl
  | case2 => cases h
  | case3 hi lo s ih =>
    obtain ⟨b, bs, hb, hbs, rfl⟩ := decode_pair.mp h
    unfold decodeLenient
    rw [hb]
    dsimp only
    rw [ih hbs]

@[simp]
theorem decodeLenient_encode (bytes : List UInt8) : decodeLenient (encode bytes).toList = bytes :=
  decodeLenient_of_decode (decode_encode bytes)

theorem byte_isSome {hi lo : Char} : (byte hi lo).isSome = ((value hi).isSome && (value lo).isSome) := by
  unfold byte
  cases value hi <;> cases value lo <;> rfl

theorem decode_isSome_iff (s : List Char)
    : (decode s).isSome ↔ s.length % 2 = 0 ∧ ∀ c ∈ s, (value c).isSome := by
  fun_induction decode s with
  | case1 => simp
  | case2 => simp
  | case3 hi lo s ih =>
    have hparity : (hi :: lo :: s).length % 2 = s.length % 2 := by
      simp only [List.length_cons]
      omega
    have hbind : (decode (hi :: lo :: s)).isSome = ((byte hi lo).isSome && (decode s).isSome) := by
      rw [decode]
      cases byte hi lo <;> cases decode s <;> rfl
    rw [decode] at hbind
    rw [hbind, hparity, Bool.and_eq_true, ih, byte_isSome, Bool.and_eq_true]
    simp only [List.forall_mem_cons]
    tauto

instance (s : String) : Decidable (IsHex s) :=
  decidable_of_iff ((decode s.toList).isSome = true) (decode_isSome_iff s.toList)

theorem length_of_decode {s : List Char} {bytes : List UInt8} (h : decode s = some bytes)
    : s.length = 2 * bytes.length := by
  induction s using decode.induct generalizing bytes with
  | case1 =>
    cases h
    rfl
  | case2 => cases h
  | case3 hi lo s ih =>
    obtain ⟨b, bs, -, hbs, rfl⟩ := decode_pair.mp h
    simp only [List.length_cons]
    rw [ih hbs]
    omega

theorem IsHex.decode {s : String} (h : IsHex s)
    : ∃ bytes, Hex.decode s.toList = some bytes ∧ s.toList.length = 2 * bytes.length := by
  obtain ⟨bytes, hbytes⟩ := Option.isSome_iff_exists.mp ((decode_isSome_iff s.toList).mpr h)
  exact ⟨bytes, hbytes, length_of_decode hbytes⟩

theorem isHex_encode (bytes : List UInt8) : IsHex (encode bytes) := by
  apply (decode_isSome_iff _).mp
  rw [decode_encode]
  rfl

theorem encode_ne_empty {bytes : List UInt8} (h : bytes ≠ []) : encode bytes ≠ "" := by
  intro hempty
  have hdecode := decode_encode bytes
  rw [hempty] at hdecode
  cases hdecode
  exact h rfl

theorem value_of_isWhitespace {c : Char} (h : Text.isWhitespace c = true) : value c = none := by
  simp only [Text.isWhitespace, Bool.or_eq_true, Bool.and_eq_true, decide_eq_true_eq, beq_iff_eq] at h
  unfold value
  dsimp only
  rw [if_neg (by omega), if_neg (by omega), if_neg (by omega)]

theorem value_of_isJsSpace {c : Char} (h : Text.isJsSpace c = true) : value c = none := by
  simp only [Text.isJsSpace, Bool.or_eq_true, Bool.and_eq_true, decide_eq_true_eq, beq_iff_eq] at h
  unfold value
  dsimp only
  rw [if_neg (by omega), if_neg (by omega), if_neg (by omega)]

section Case

theorem value_ofNat_lower : ∀ k < 128, ∀ n < 16,
    value (Char.ofNat k) = some n → (Char.ofNat k).toLower = LOWER.getD n '0' := by
  decide +kernel

theorem toNat_of_value {c : Char} {n : Nat} (h : value c = some n) : c.toNat < 128 ∧ n < 16 := by
  unfold value at h
  dsimp only at h
  split at h
  . cases h
    omega
  split at h
  . cases h
    omega
  split at h
  . cases h
    omega
  . cases h

theorem toLower_of_value {c : Char} {n : Nat} (h : value c = some n) : c.toLower = LOWER.getD n '0' := by
  obtain ⟨hc, hn⟩ := toNat_of_value h
  have hofNat := value_ofNat_lower c.toNat hc n hn
  rw [Char.ofNat_toNat] at hofNat
  exact hofNat h

theorem value_ofNat_toLower : ∀ k < 128, value (Char.ofNat k).toLower = value (Char.ofNat k) := by
  decide +kernel

theorem value_toLower (c : Char) : value c.toLower = value c := by
  by_cases hc : c.toNat < 128
  . have hofNat := value_ofNat_toLower c.toNat hc
    rwa [Char.ofNat_toNat] at hofNat
  . have hupper : c.isUpper = false := by
      rw [← Bool.not_eq_true]
      intro hupper
      have hrange : 65 ≤ c.toNat ∧ c.toNat ≤ 90 := by
        simpa [Char.isUpper, UInt32.le_iff_toNat_le] using hupper
      omega
    rw [Char.toLower_eq_of_not_isUpper (by simp [hupper])]

theorem decode_map_toLower (s : List Char) : decode (s.map Char.toLower) = decode s := by
  induction s using decode.induct with
  | case1 => rfl
  | case2 => rfl
  | case3 hi lo s ih =>
    rw [List.map_cons, List.map_cons, decode, decode, ih]
    unfold byte
    rw [value_toLower, value_toLower]

theorem byte_inj {hi lo hi' lo' : Char} {b : UInt8} (h : byte hi lo = some b)
    (h' : byte hi' lo' = some b) : hi.toLower = hi'.toLower ∧ lo.toLower = lo'.toLower := by
  unfold byte at h h'
  cases hhi : value hi with
  | none => simp [hhi] at h
  | some m =>
    cases hlo : value lo with
    | none => simp [hhi, hlo] at h
    | some n =>
      cases hhi' : value hi' with
      | none => simp [hhi'] at h'
      | some m' =>
        cases hlo' : value lo' with
        | none => simp [hhi', hlo'] at h'
        | some n' =>
          have hm := (toNat_of_value hhi).2
          have hn := (toNat_of_value hlo).2
          have hm' := (toNat_of_value hhi').2
          have hn' := (toNat_of_value hlo').2
          have heq : UInt8.ofNat (16 * m + n) = UInt8.ofNat (16 * m' + n') := by
            simp only [hhi, hlo, Option.bind_eq_bind, Option.bind_some, Option.pure_def, Option.some.injEq]
              at h
            simp only [hhi', hlo', Option.bind_eq_bind, Option.bind_some, Option.pure_def,
              Option.some.injEq] at h'
            rw [h, h']
          have hnat := congrArg UInt8.toNat heq
          rw [UInt8.toNat_ofNat_of_lt' (by dsimp [UInt8.size]; omega),
            UInt8.toNat_ofNat_of_lt' (by dsimp [UInt8.size]; omega)] at hnat
          have hmm : m = m' := by omega
          have hnn : n = n' := by omega
          rw [toLower_of_value hhi, toLower_of_value hlo, toLower_of_value hhi', toLower_of_value hlo', hmm,
            hnn]
          exact ⟨rfl, rfl⟩

theorem map_toLower_of_decode {s t : List Char} {bytes : List UInt8} (hs : decode s = some bytes)
    (ht : decode t = some bytes) : s.map Char.toLower = t.map Char.toLower := by
  induction s using decode.induct generalizing t bytes with
  | case1 =>
    cases hs
    have hlength := length_of_decode ht
    rw [List.length_eq_zero_iff.mp hlength]
  | case2 => cases hs
  | case3 hi lo s ih =>
    obtain ⟨b, bs, hb, hbs, rfl⟩ := decode_pair.mp hs
    match t, ht with
    | hi' :: lo' :: t, ht =>
      obtain ⟨b', bs', hb', hbs', heq⟩ := decode_pair.mp ht
      cases heq
      obtain ⟨hhi, hlo⟩ := byte_inj hb hb'
      simp only [List.map_cons]
      rw [hhi, hlo, ih hbs hbs']

theorem eqIgnoreAsciiCase_iff_decode {a b : String} {bytes : List UInt8}
    (h : decode b.toList = some bytes)
    : Text.eqIgnoreAsciiCase a b = true ↔ decode a.toList = some bytes := by
  unfold Text.eqIgnoreAsciiCase
  rw [beq_iff_eq]
  constructor
  . intro hlower
    rw [← decode_map_toLower, hlower, decode_map_toLower, h]
  . intro ha
    exact map_toLower_of_decode ha h

end Case

namespace IsHex

theorem not_space {s : String} (h : IsHex s) {isSpace : Char → Bool}
    (hspace : ∀ {c}, isSpace c = true → value c = none) : ∀ c ∈ s.toList, isSpace c = false := by
  intro c hc
  rw [Bool.eq_false_iff]
  intro hsp
  have := h.2 c hc
  rw [hspace hsp] at this
  cases this

theorem trim_eq {s : String} (h : IsHex s) : Text.trim s = s :=
  Text.trim_eq_self (h.not_space value_of_isWhitespace)

theorem jsTrim_eq {s : String} (h : IsHex s) : Text.jsTrim s = s :=
  Text.jsTrim_eq_self (h.not_space value_of_isJsSpace)

end IsHex

end Hex
