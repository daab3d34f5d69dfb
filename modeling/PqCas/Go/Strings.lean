import PqCas.Go.Reports

/-!
The string functions of the Go adapter on text: they do to its bytes what those of the Rust standard library do
to its characters.
-/

namespace PqCas

namespace go

section Strings

theorem map_dropWhile_isSpace (cs : List Char)
    : (cs.map Utf8.Rune.char).dropWhile isSpace = (cs.dropWhile Text.isWhitespace).map .char := by
  rw [List.dropWhile_map]
  rfl

theorem bytesOf_map_char (cs : List Char) : Utf8.bytesOf (cs.map .char) = Utf8.encodeChars cs :=
  List.flatMap_map ..

theorem trimSpace_text (s : String) : trimSpace (text s) = text (Text.trim s) := by
  unfold trimSpace text Utf8.encode Text.trim Text.trimList List.rdropWhile
  rw [Utf8.runes_encodeChars, map_dropWhile_isSpace, ← List.map_reverse, map_dropWhile_isSpace, ← List.map_reverse,
    bytesOf_map_char, String.toList_ofList]

theorem fields_text (s : String) : fields (text s) = (Text.splitWhitespace s).map text := by
  unfold fields text Utf8.encode Text.splitWhitespace
  rw [Utf8.runes_encodeChars, Search.splitOnP_map, List.filter_map, List.map_map, List.map_map]
  have hblank : (fun piece : List Utf8.Rune => decide (piece ≠ [])) ∘ List.map Utf8.Rune.char
      = fun piece => decide (piece ≠ []) := by
    funext piece
    cases piece <;> rfl
  have hspace : isSpace ∘ Utf8.Rune.char = Text.isWhitespace := rfl
  rw [hblank, hspace]
  apply List.map_congr_left
  intro piece _
  simp only [Function.comp_apply, String.toList_ofList, bytesOf_map_char]

theorem hasPrefix_text (pre s : String) : hasPrefix pre (text (pre ++ s)) = true := by
  unfold hasPrefix
  rw [text_append, decide_eq_true_eq]
  apply List.prefix_append

theorem cut_text {sep : String} {d : Char} {b : UInt8} (hsep : sep.toList = [d])
    (hd : String.utf8EncodeChar d = [b]) {line : String} (h : d ∈ line.toList)
    : ∃ front rest, Text.splitOnce sep line = some (front, rest) ∧ cut sep (text line) = some (text front, text rest) := by
  obtain ⟨front, rest, hline, hfront⟩ := List.eq_append_cons_of_mem h
  refine ⟨String.ofList front, String.ofList rest, ?_, ?_⟩
  . unfold Text.splitOnce
    rw [hsep, hline, Search.splitOnce_of_not_mem hfront]
    rfl
  . unfold cut text Utf8.encode
    have hbytes : Utf8.encodeChars [d] = [b] := by rw [Utf8.encodeChars_cons, hd]; rfl
    have hline' : Utf8.encodeChars (front ++ d :: rest) = Utf8.encodeChars front ++ b :: Utf8.encodeChars rest := by
      rw [Utf8.encodeChars_append, Utf8.encodeChars_cons, hd]
      rfl
    rw [hsep, hline, hbytes, hline', Search.splitOnce_of_not_mem (Utf8.not_mem_encodeChars hd hfront),
      String.toList_ofList, String.toList_ofList]

end Strings

section Head

def crlf : GoString := [0x0D, 0x0A]

theorem text_crlf : text "\r\n" = crlf := by
  decide

theorem text_blankLine : text "\r\n\r\n" = crlf ++ crlf := by
  decide

theorem startsLate_crlf {line : GoString} (h : 0x0D ∉ line) (behind rest : GoString)
    : Search.StartsLate (crlf ++ behind) line rest :=
  Search.startsLate_of_not_mem h rest

variable {first body : GoString} {ls : List GoString}

theorem splitOnce_crlf {c : UInt8} (hc : ¬ 0x0D = c) (rest : GoString)
    : Search.splitOnce (crlf ++ crlf) (crlf ++ c :: rest)
        =
      (Search.splitOnce (crlf ++ crlf) (c :: rest)).map (fun (front, rest) => (crlf ++ front, rest)) := by
  have hcr : ¬ crlf ++ crlf <+: 0x0D :: 0x0A :: c :: rest := by simp [crlf, hc]
  have hlf : ¬ crlf ++ crlf <+: 0x0A :: c :: rest := by simp [crlf]
  have hhere : crlf ++ c :: rest = 0x0D :: 0x0A :: c :: rest := rfl
  generalize hrest : Search.splitOnce (crlf ++ crlf) (c :: rest) = found
  rw [hhere, Search.splitOnce, if_neg hcr, Search.splitOnce, if_neg hlf, hrest, Option.map_map]
  rfl

theorem cut_lines (h : ∀ line ∈ first :: ls, 0x0D ∉ line ∧ line ≠ [])
    : cut "\r\n\r\n" (first ++ (crlf ++ (ls.flatMap (· ++ crlf) ++ (crlf ++ body))))
        =
      some (crlf.intercalate (first :: ls), body) := by
  unfold cut
  rw [text_blankLine]
  induction ls generalizing first with
  | nil =>
    have hlate := startsLate_crlf (h first List.mem_cons_self).1 crlf (crlf ++ crlf ++ body)
    rw [List.flatMap_nil, List.nil_append, ← List.append_assoc crlf, Search.splitOnce_append hlate,
      Search.splitOnce_self]
    simp
  | cons second ls ih =>
    have hlate := startsLate_crlf (h first List.mem_cons_self).1 crlf
    have hsecond := h second (List.mem_cons_of_mem first List.mem_cons_self)
    have ih := ih (fun line hline => h line (List.mem_cons_of_mem first hline))
    obtain ⟨c, line, rfl⟩ := List.exists_cons_of_ne_nil hsecond.2
    have hc : ¬ 0x0D = c := fun heq => hsecond.1 (by rw [heq]; exact List.mem_cons_self)
    rw [Search.splitOnce_append (hlate _), List.flatMap_cons, List.append_assoc, List.append_assoc, List.cons_append,
      splitOnce_crlf hc, ← List.cons_append, ih]
    simp [List.intercalate]

theorem splitAll_lines (h : ∀ line ∈ first :: ls, 0x0D ∉ line)
    : Search.splitAll crlf (crlf.intercalate (first :: ls)) = first :: ls := by
  induction ls generalizing first with
  | nil =>
    have hcr := h first List.mem_cons_self
    have hnot : ¬ crlf <:+: first := fun hin => hcr (hin.subset List.mem_cons_self)
    simpa using Search.splitAll_of_not_infix hnot
  | cons second ls ih =>
    have hcr := h first List.mem_cons_self
    have ih := ih (fun line hline => h line (List.mem_cons_of_mem first hline))
    have hlate := startsLate_crlf hcr [] (crlf ++ crlf.intercalate (second :: ls))
    rw [List.append_nil] at hlate
    have hjoin : crlf.intercalate (first :: second :: ls) = first ++ (crlf ++ crlf.intercalate (second :: ls)) := by
      simp [List.intercalate]
    rw [hjoin, Search.splitAll_append (by decide) _ hlate, ih]

theorem headAndBody_lines (h : ∀ line ∈ first :: ls, 0x0D ∉ line ∧ line ≠ [])
    : headAndBody (first ++ (crlf ++ (ls.flatMap (· ++ crlf) ++ (crlf ++ body)))) = (first :: ls, body) := by
  unfold headAndBody
  rw [cut_lines h, Option.getD_some, text_crlf]
  dsimp only
  rw [splitAll_lines (fun line hline => (h line hline).1)]

end Head

section Digits

variable {digits : List Char}

def decimal (digits : List Char) : Nat :=
  digits.foldl (fun n c => 10 * n + (c.toNat - '0'.toNat)) 0

theorem toNat_of_isDigit {c : Char} (h : c.isDigit = true) : 48 ≤ c.toNat ∧ c.toNat ≤ 57 := by
  simpa [Char.isDigit, UInt32.le_iff_toNat_le] using h

theorem decimal_lt (h : ∀ c ∈ digits, c.isDigit = true) : decimal digits < 10 ^ digits.length := by
  have hfrom : ∀ n, digits.foldl (fun n c => 10 * n + (c.toNat - '0'.toNat)) n < (n + 1) * 10 ^ digits.length := by
    induction digits with
    | nil => simp
    | cons c digits ih =>
      intro n
      have hrange := toNat_of_isDigit (h c List.mem_cons_self)
      have hzero : '0'.toNat = 48 := rfl
      have hstep : 10 * n + (c.toNat - '0'.toNat) + 1 ≤ 10 * (n + 1) := by omega
      rw [List.foldl_cons, List.length_cons, Nat.pow_succ]
      calc
        _ < (10 * n + (c.toNat - '0'.toNat) + 1) * 10 ^ digits.length :=
          ih (fun d hd => h d (List.mem_cons_of_mem c hd)) _
        _ ≤ 10 * (n + 1) * 10 ^ digits.length := Nat.mul_le_mul_right _ hstep
        _ = (n + 1) * (10 ^ digits.length * 10) := by ring
  have hzero := hfrom 0
  rwa [Nat.zero_add, Nat.one_mul] at hzero

theorem parseUnsigned_decimal (hne : digits ≠ []) (h : ∀ c ∈ digits, c.isDigit = true) {bound : Nat}
    (hbound : 10 ^ digits.length ≤ bound) : Text.parseUnsigned bound (String.ofList digits) = some (decimal digits) := by
  have hlt := decimal_lt h
  unfold Text.parseUnsigned
  rw [String.toList_ofList]
  split
  . next rest =>
    cases h '+' List.mem_cons_self
  . dsimp only
    rw [if_pos ⟨hne, List.all_eq_true.mpr h⟩]
    exact if_pos (by unfold decimal at hlt; omega)

theorem encode_isDigit {c : Char} (h : c.isDigit = true)
    : ∃ b : UInt8, String.utf8EncodeChar c = [b] ∧ isDigit b = true ∧ b.toNat = c.toNat := by
  have hrange := toNat_of_isDigit h
  have hval : c.val.toNat = c.toNat := rfl
  have hsize : c.utf8Size = 1 := by
    rw [Char.utf8Size_eq_one_iff, UInt32.le_iff_toNat_le, hval]
    simp
    omega
  have hbyte : c.val.toUInt8.toNat = c.toNat := by
    rw [UInt32.toNat_toUInt8, hval]
    omega
  refine ⟨c.val.toUInt8, String.utf8EncodeChar_eq_singleton hsize, ?_, hbyte⟩
  unfold isDigit
  rw [Bool.and_eq_true, decide_eq_true_eq, decide_eq_true_eq, UInt8.le_iff_toNat_le, UInt8.le_iff_toNat_le, hbyte]
  exact hrange

theorem foldl_encodeChars (h : ∀ c ∈ digits, c.isDigit = true) (n : Nat)
    : (Utf8.encodeChars digits).foldl (fun n b => 10 * n + (b.toNat - 0x30)) n
        =
      digits.foldl (fun n c => 10 * n + (c.toNat - '0'.toNat)) n := by
  induction digits generalizing n with
  | nil => rfl
  | cons c digits ih =>
    obtain ⟨b, hc, -, hb⟩ := encode_isDigit (h c List.mem_cons_self)
    rw [Utf8.encodeChars_cons, hc, List.singleton_append, List.foldl_cons, List.foldl_cons, hb,
      ih (fun d hd => h d (List.mem_cons_of_mem c hd))]
    rfl

theorem isDigit_of_mem_encodeChars (h : ∀ c ∈ digits, c.isDigit = true) {b : UInt8}
    (hb : b ∈ Utf8.encodeChars digits) : isDigit b = true := by
  obtain ⟨c, hc, hmem⟩ := List.mem_flatMap.mp hb
  obtain ⟨d, hd, hdigit, -⟩ := encode_isDigit (h c hc)
  rw [hd, List.mem_singleton] at hmem
  rw [hmem]
  exact hdigit

theorem scanDecimal_text (h : ∀ c ∈ digits, c.isDigit = true) (hlength : digits.length ≤ 18)
    : scanDecimal (text (String.ofList digits)) = decimal digits := by
  have hall : ∀ b ∈ text (String.ofList digits), isDigit b = true := by
    intro b hb
    unfold text Utf8.encode at hb
    rw [String.toList_ofList] at hb
    exact isDigit_of_mem_encodeChars h hb
  have hvalue : (text (String.ofList digits)).foldl (fun n b => 10 * n + (b.toNat - 0x30)) 0 = decimal digits := by
    unfold text Utf8.encode
    rw [String.toList_ofList]
    exact foldl_encodeChars h 0
  have hlt : decimal digits < 2 ^ 63 := by
    have hpow : 10 ^ digits.length ≤ 10 ^ 18 := Nat.pow_le_pow_right (by omega) hlength
    have := decimal_lt h
    omega
  unfold scanDecimal
  split
  next sign rest hmatch =>
    have hsign : sign = 1 ∧ rest = text (String.ofList digits) := by
      split at hmatch
      . next hplus => cases hall 0x2B (by rw [hplus]; exact List.mem_cons_self)
      . next hminus => cases hall 0x2D (by rw [hminus]; exact List.mem_cons_self)
      . cases hmatch
        exact ⟨rfl, rfl⟩
    rw [hsign.1, hsign.2, List.takeWhile_eq_self_iff.mpr hall, hvalue]
    dsimp only
    rw [if_pos (by omega), Int.one_mul]

end Digits

end go

end PqCas
