import PqCas.Lib.Search
import PqCas.Lib.Text

/-!
This module contains the string functions of the Rust standard library that output of programs is
scanned with.
-/

namespace Text

/--
A line without its line feed, and without a carriage return before that.
-/
def chomp (line : List Char) : List Char :=
  if line.getLast? = some '\n' then
    if line.dropLast.getLast? = some '\r' then
      line.dropLast.dropLast
    else
      line.dropLast
  else
    line

def lines (s : String) : List String :=
  (Search.splitInclusive '\n' s.toList).map (fun line => String.ofList (chomp line))

/--
What follows the first occurrence of a pattern (`str::find` and a slice).
-/
def after (needle s : String) : Option String :=
  (Search.after needle.toList s.toList).map String.ofList

def split (sep : Char) (s : String) : List String :=
  (s.toList.splitOn sep).map String.ofList

def splitOnce (sep s : String) : Option (String × String) :=
  (Search.splitOnce sep.toList s.toList).map (fun (front, rest) =>
    (String.ofList front, String.ofList rest))

def splitWhitespace (s : String) : List String :=
  ((s.toList.splitOnP isWhitespace).filter (· ≠ [])).map String.ofList

def join (sep : String) (parts : List String) : String :=
  String.ofList (sep.toList.intercalate (parts.map String.toList))

/--
`str::parse` for an unsigned integer below `bound`: ASCII digits, with a plus sign in front if one
likes.
-/
def parseUnsigned (bound : Nat) (s : String) : Option Nat :=
  let digits := match s.toList with
    | '+' :: rest => rest
    | cs => cs
  if digits ≠ [] ∧ digits.all Char.isDigit = true then
    let n := digits.foldl (fun n c => 10 * n + (c.toNat - '0'.toNat)) 0
    if n < bound then some n else none
  else
    none

/--
The code points of the general categories `Nd`, `Nl` and `No` of Unicode 16.
-/
def numericRanges : List (Nat × Nat) :=
  [
    (0x30, 0x39), (0xB2, 0xB3), (0xB9, 0xB9), (0xBC, 0xBE), (0x660, 0x669), (0x6F0, 0x6F9),
    (0x7C0, 0x7C9), (0x966, 0x96F), (0x9E6, 0x9EF), (0x9F4, 0x9F9), (0xA66, 0xA6F), (0xAE6, 0xAEF),
    (0xB66, 0xB6F), (0xB72, 0xB77), (0xBE6, 0xBF2), (0xC66, 0xC6F), (0xC78, 0xC7E), (0xCE6, 0xCEF),
    (0xD58, 0xD5E), (0xD66, 0xD78), (0xDE6, 0xDEF), (0xE50, 0xE59), (0xED0, 0xED9), (0xF20, 0xF33),
    (0x1040, 0x1049), (0x1090, 0x1099), (0x1369, 0x137C), (0x16EE, 0x16F0), (0x17E0, 0x17E9),
    (0x17F0, 0x17F9), (0x1810, 0x1819), (0x1946, 0x194F), (0x19D0, 0x19DA), (0x1A80, 0x1A89),
    (0x1A90, 0x1A99), (0x1B50, 0x1B59), (0x1BB0, 0x1BB9), (0x1C40, 0x1C49), (0x1C50, 0x1C59),
    (0x2070, 0x2070), (0x2074, 0x2079), (0x2080, 0x2089), (0x2150, 0x2182), (0x2185, 0x2189),
    (0x2460, 0x249B), (0x24EA, 0x24FF), (0x2776, 0x2793), (0x2CFD, 0x2CFD), (0x3007, 0x3007),
    (0x3021, 0x3029), (0x3038, 0x303A), (0x3192, 0x3195), (0x3220, 0x3229), (0x3248, 0x324F),
    (0x3251, 0x325F), (0x3280, 0x3289), (0x32B1, 0x32BF), (0xA620, 0xA629), (0xA6E6, 0xA6EF),
    (0xA830, 0xA835), (0xA8D0, 0xA8D9), (0xA900, 0xA909), (0xA9D0, 0xA9D9), (0xA9F0, 0xA9F9),
    (0xAA50, 0xAA59), (0xABF0, 0xABF9), (0xFF10, 0xFF19), (0x10107, 0x10133), (0x10140, 0x10178),
    (0x1018A, 0x1018B), (0x102E1, 0x102FB), (0x10320, 0x10323), (0x10341, 0x10341),
    (0x1034A, 0x1034A), (0x103D1, 0x103D5), (0x104A0, 0x104A9), (0x10858, 0x1085F),
    (0x10879, 0x1087F), (0x108A7, 0x108AF), (0x108FB, 0x108FF), (0x10916, 0x1091B),
    (0x109BC, 0x109BD), (0x109C0, 0x109CF), (0x109D2, 0x109FF), (0x10A40, 0x10A48),
    (0x10A7D, 0x10A7E), (0x10A9D, 0x10A9F), (0x10AEB, 0x10AEF), (0x10B58, 0x10B5F),
    (0x10B78, 0x10B7F), (0x10BA9, 0x10BAF), (0x10CFA, 0x10CFF), (0x10D30, 0x10D39),
    (0x10D40, 0x10D49), (0x10E60, 0x10E7E), (0x10F1D, 0x10F26), (0x10F51, 0x10F54),
    (0x10FC5, 0x10FCB), (0x11052, 0x1106F), (0x110F0, 0x110F9), (0x11136, 0x1113F),
    (0x111D0, 0x111D9), (0x111E1, 0x111F4), (0x112F0, 0x112F9), (0x11450, 0x11459),
    (0x114D0, 0x114D9), (0x11650, 0x11659), (0x116C0, 0x116C9), (0x116D0, 0x116E3),
    (0x11730, 0x1173B), (0x118E0, 0x118F2), (0x11950, 0x11959), (0x11BF0, 0x11BF9),
    (0x11C50, 0x11C6C), (0x11D50, 0x11D59), (0x11DA0, 0x11DA9), (0x11F50, 0x11F59),
    (0x11FC0, 0x11FD4), (0x12400, 0x1246E), (0x16130, 0x16139), (0x16A60, 0x16A69),
    (0x16AC0, 0x16AC9), (0x16B50, 0x16B59), (0x16B5B, 0x16B61), (0x16D70, 0x16D79),
    (0x16E80, 0x16E96), (0x1CCF0, 0x1CCF9), (0x1D2C0, 0x1D2D3), (0x1D2E0, 0x1D2F3),
    (0x1D360, 0x1D378), (0x1D7CE, 0x1D7FF), (0x1E140, 0x1E149), (0x1E2F0, 0x1E2F9),
    (0x1E4F0, 0x1E4F9), (0x1E5F1, 0x1E5FA), (0x1E8C7, 0x1E8CF), (0x1E950, 0x1E959),
    (0x1EC71, 0x1ECAB), (0x1ECAD, 0x1ECAF), (0x1ECB1, 0x1ECB4), (0x1ED01, 0x1ED2D),
    (0x1ED2F, 0x1ED3D), (0x1F100, 0x1F10C), (0x1FBF0, 0x1FBF9)
  ]

def isNumeric (c : Char) : Bool :=
  numericRanges.any (fun range => range.1 ≤ c.toNat && c.toNat ≤ range.2)

def trimStart (s : String) : String :=
  String.ofList (s.toList.dropWhile isWhitespace)

def stripPrefix (pre s : String) : Option String :=
  if pre.toList <+: s.toList then some (String.ofList (s.toList.drop pre.toList.length)) else none

/--
`str::strip_prefix` with a predicate, which takes off one character.
-/
def stripChar (p : Char → Bool) (s : String) : Option String :=
  match s.toList with
  | [] => none
  | c :: rest => if p c then some (String.ofList rest) else none

def takeChars (n : Nat) (s : String) : String :=
  String.ofList (s.toList.take n)

theorem split_join_iff {c : Char} {sep : String} (hsep : sep.toList = [c]) {names : List String}
    (hne : names ≠ []) : split c (join sep names) = names ↔ ∀ name ∈ names, c ∉ name.toList := by
  have hinv : names = (names.map String.toList).map String.ofList := by simp [Function.comp_def]
  have hmap : names.map String.toList ≠ [] := by simpa
  have hpieces := @Search.splitOn_intercalate_iff Char _ c _ hmap
  have hinj : Function.Injective (List.map String.ofList) :=
    List.map_injective_iff.mpr (fun _ _ h => String.ofList_injective h)
  unfold split join
  rw [String.toList_ofList, hsep]
  constructor
  . intro h
    rw [hinv] at h
    simpa using hpieces.mp (hinj (by simpa using h))
  . intro h
    rw [hpieces.mpr (by simpa using h)]
    exact hinv.symm

theorem toLower_eq_iff {c d : Char} (hd : d.isAlpha = false) : c.toLower = d ↔ c = d := by
  have hlower : d.isLower = false := by
    rw [Char.isAlpha, Bool.or_eq_false_iff] at hd
    exact hd.2
  by_cases hc : c.isUpper = true
  . have halpha : c.isAlpha = true := by simp [Char.isAlpha, hc]
    constructor
    . rintro rfl
      rw [Char.isLower_toLower_eq_isAlpha, halpha] at hlower
      cases hlower
    . rintro rfl
      rw [halpha] at hd
      cases hd
  . rw [Char.toLower_eq_of_not_isUpper hc]

theorem mem_toAsciiLowercase {c : Char} (hc : c.isAlpha = false) (s : String)
    : c ∈ (toAsciiLowercase s).toList ↔ c ∈ s.toList := by
  simp [toAsciiLowercase, toLower_eq_iff hc]

theorem chomp_of_not_mem {line : List Char} (h : '\n' ∉ line) : chomp line = line := by
  unfold chomp
  rw [if_neg]
  intro hlast
  exact h (List.mem_of_getLast? hlast)

theorem chomp_line {line : List Char} (h : line.getLast? ≠ some '\r') : chomp (line ++ ['\n']) = line := by
  simp [chomp, h]

theorem chomp_line_cr (line : List Char) : chomp (line ++ ['\r', '\n']) = line := by
  have hlast : (line ++ ['\r', '\n']) = (line ++ ['\r']) ++ ['\n'] := by simp
  rw [hlast]
  simp [chomp]

theorem infix_chomp (line : List Char) : chomp line <:+: line := by
  unfold chomp
  split
  . split
    . exact ((List.dropLast_prefix _).trans (List.dropLast_prefix _)).isInfix
    . exact (List.dropLast_prefix _).isInfix
  . exact List.infix_refl _

theorem prefix_chomp_line (line : List Char) : chomp (line ++ ['\n']) <+: line := by
  unfold chomp
  simp only [List.getLast?_concat, List.dropLast_concat, ↓reduceIte]
  split
  . exact List.dropLast_prefix _
  . exact List.prefix_refl _

theorem exists_unterminated (s : String)
    : ∃ front rest, s = front ++ rest ∧ '\n' ∉ rest.toList ∧ (front = "" ∨ ∃ t, front = t ++ "\n") := by
  obtain ⟨front, rest, hs, hrest, hfront⟩ := Search.exists_unterminated '\n' s.toList
  refine ⟨String.ofList front, String.ofList rest, ?_, by simpa using hrest, ?_⟩
  . rw [← String.ofList_append, ← hs, String.ofList_toList]
  . rcases hfront with rfl | ⟨t, rfl⟩
    . exact .inl rfl
    . exact .inr ⟨String.ofList t, by simp [String.ofList_append]⟩

theorem newline_not_mem_of_mem_lines {s line : String} (h : line ∈ lines s) : '\n' ∉ line.toList := by
  obtain ⟨piece, hpiece, rfl⟩ := List.mem_map.mp h
  obtain ⟨text, htext, heq⟩ := Search.mem_splitInclusive _ hpiece
  rw [String.toList_ofList]
  rcases heq with rfl | rfl
  . rw [chomp_of_not_mem htext]
    exact htext
  . exact fun hmem => htext ((prefix_chomp_line text).subset hmem)

theorem lines_line {line : List Char} (h : '\n' ∉ line)
    : lines (String.ofList line ++ "\n") = [String.ofList (chomp (line ++ ['\n']))] := by
  have hlist : (String.ofList line ++ "\n").toList = line ++ ['\n'] := by simp
  unfold lines
  rw [hlist, Search.splitInclusive_line _ h]
  rfl

@[simp]
theorem lines_empty : lines "" = [] := rfl

theorem lines_append (s t : String) : lines (s ++ "\n" ++ t) = lines (s ++ "\n") ++ lines t := by
  unfold lines
  have happ : (s ++ "\n" ++ t).toList = s.toList ++ '\n' :: t.toList := by simp
  have hone : (s ++ "\n").toList = s.toList ++ ['\n'] := by simp
  rw [happ, hone, Search.splitInclusive_append, List.map_append]

theorem infix_of_mem_lines {s line : String} (h : line ∈ lines s) : line.toList <:+: s.toList := by
  unfold lines at h
  obtain ⟨piece, hpiece, rfl⟩ := List.mem_map.mp h
  rw [String.toList_ofList]
  apply (infix_chomp piece).trans
  have hflat := Search.flatten_splitInclusive '\n' s.toList
  rw [← hflat]
  exact List.infix_of_mem_flatten hpiece

theorem after_eq_none_iff {needle s : String}
    : after needle s = none ↔ ¬ needle.toList <:+: s.toList := by
  simp [after, Search.after_eq_none_iff]

theorem trimList_trimList (isSpace : Char → Bool) (s : List Char)
    : trimList isSpace (trimList isSpace s) = trimList isSpace s := by
  have htrim : ∀ l, trimList isSpace l = (l.dropWhile isSpace).rdropWhile isSpace := fun _ => rfl
  have hfront : (trimList isSpace s).dropWhile isSpace = trimList isSpace s := by
    rw [List.dropWhile_eq_self_iff]
    intro hlength
    -- The first character is the one that stopped the trimming in front.
    have hprefix : trimList isSpace s <+: s.dropWhile isSpace := by
      rw [htrim]
      apply List.rdropWhile_prefix
    have hhead := hprefix.getElem hlength
    rw [hhead]
    have hself := List.dropWhile_idempotent (p := isSpace) (l := s)
    apply List.dropWhile_eq_self_iff.mp hself
  rw [htrim (trimList isSpace s), hfront, htrim s, List.rdropWhile_idempotent]

theorem trimList_of_imp {p q : Char → Bool} {s : List Char} (h : ∀ c, q c = true → p c = true)
    (hs : trimList p s = s) : trimList q s = s := by
  have htrim : ∀ (r : Char → Bool) (l : List Char), trimList r l = (l.dropWhile r).rdropWhile r := fun _ _ => rfl
  have hfront : s.dropWhile p = s := by
    apply (List.dropWhile_suffix p).eq_of_length_le
    have hlength := congrArg List.length hs
    have hback := (List.rdropWhile_prefix p (s.dropWhile p)).length_le
    rw [htrim] at hlength
    omega
  have hback : s.rdropWhile p = s := by rw [htrim, hfront] at hs; exact hs
  have hfront' : s.dropWhile q = s := by
    rw [List.dropWhile_eq_self_iff] at hfront ⊢
    exact fun hlength hc => hfront hlength (h _ hc)
  rw [htrim, hfront', List.rdropWhile_eq_self_iff]
  rw [List.rdropWhile_eq_self_iff] at hback
  exact fun hne hc => hback hne (h _ hc)

theorem trim_trim (s : String) : trim (trim s) = trim s := by
  unfold trim
  rw [String.toList_ofList, trimList_trimList]

theorem isWhitespace_of_isAlpha {c : Char} (h : c.isAlpha = true) : isWhitespace c = false := by
  have hrange : (65 ≤ c.toNat ∧ c.toNat ≤ 90) ∨ (97 ≤ c.toNat ∧ c.toNat ≤ 122) := by
    simpa [Char.isAlpha, Char.isUpper, Char.isLower, UInt32.le_iff_toNat_le] using h
  unfold isWhitespace
  simp only [Bool.or_eq_false_iff, Bool.and_eq_false_iff, decide_eq_false_iff_not, beq_eq_false_iff_ne]
  omega

theorem isWhitespace_toLower (c : Char) : isWhitespace c.toLower = isWhitespace c := by
  cases halpha : c.isAlpha with
  | true =>
    rw [isWhitespace_of_isAlpha halpha]
    apply isWhitespace_of_isAlpha
    rw [Char.isAlpha_toLower_eq_isAlpha, halpha]
  | false => rw [(toLower_eq_iff halpha).mpr rfl]

theorem trimList_map {isSpace : Char → Bool} {f : Char → Char} (h : ∀ c, isSpace (f c) = isSpace c)
    (s : List Char) : trimList isSpace (s.map f) = (trimList isSpace s).map f := by
  have hcomp : isSpace ∘ f = isSpace := funext h
  unfold trimList
  rw [List.dropWhile_map, hcomp, ← List.map_reverse, List.dropWhile_map, hcomp, ← List.map_reverse]

section Compare

variable {a b : String}

theorem count_eq_of_eqIgnoreAsciiCase (h : eqIgnoreAsciiCase a b = true) {c : Char}
    (hc : c.isAlpha = false) : a.toList.count c = b.toList.count c := by
  have hcount : ∀ s : List Char, (s.map Char.toLower).count c = s.count c := by
    intro s
    unfold List.count
    rw [List.countP_map]
    apply List.countP_congr
    intro d _
    simp [toLower_eq_iff hc]
  have hmap : a.toList.map Char.toLower = b.toList.map Char.toLower := by
    simpa [eqIgnoreAsciiCase] using h
  rw [← hcount, ← hcount b.toList, hmap]

theorem mem_iff_of_eqIgnoreAsciiCase (h : eqIgnoreAsciiCase a b = true) {c : Char}
    (hc : c.isAlpha = false) : c ∈ a.toList ↔ c ∈ b.toList := by
  rw [← List.count_pos_iff, ← List.count_pos_iff, count_eq_of_eqIgnoreAsciiCase h hc]

theorem length_eq_of_eqIgnoreAsciiCase (h : eqIgnoreAsciiCase a b = true)
    : a.toList.length = b.toList.length := by
  have hmap : a.toList.map Char.toLower = b.toList.map Char.toLower := by
    simpa [eqIgnoreAsciiCase] using h
  simpa using congrArg List.length hmap

theorem trim_eq_self_of_eqIgnoreAsciiCase (h : eqIgnoreAsciiCase (trim a) a = true) : trim a = a := by
  have hlength := length_eq_of_eqIgnoreAsciiCase h
  have hinside := infix_trimList isWhitespace a.toList
  unfold trim at hlength ⊢
  rw [String.toList_ofList] at hlength
  rw [hinside.eq_of_length hlength, String.ofList_toList]

theorem trim_eq_self_of_eq (h : eqIgnoreAsciiCase a b = true) (ha : trim a = a) : trim b = b := by
  have hmap : a.toList.map Char.toLower = b.toList.map Char.toLower := by
    simpa [eqIgnoreAsciiCase] using h
  have htrim : ∀ s : String, (trim s).toList.map Char.toLower
      = trimList isWhitespace (s.toList.map Char.toLower) := by
    intro s
    unfold trim
    rw [String.toList_ofList, trimList_map isWhitespace_toLower]
  apply trim_eq_self_of_eqIgnoreAsciiCase
  unfold eqIgnoreAsciiCase
  rw [beq_iff_eq, htrim, ← hmap, ← htrim, ha]

theorem exists_last_of_trim_eq_self (h : trim a = a) (hne : a ≠ "")
    : ∃ s c, a.toList = s ++ [c] ∧ isWhitespace c = false := by
  have hlist : trimList isWhitespace a.toList = a.toList := by
    conv => rhs; rw [← h]
    simp [trim]
  rcases List.eq_nil_or_concat a.toList with hnil | ⟨s, c, hs⟩
  . exact absurd (String.toList_eq_nil_iff.mp hnil) hne
  rw [List.concat_eq_append] at hs
  refine ⟨s, c, hs, ?_⟩
  rw [← Bool.not_eq_true]
  intro hc
  rw [hs, trimList_append_space s hc] at hlist
  have hle := (infix_trimList isWhitespace s).length_le
  rw [hlist, List.length_append, List.length_singleton] at hle
  omega

end Compare

section Numbers

variable {n : Nat}

theorem toList_toString (n : Nat) : (toString n).toList = Nat.toDigits 10 n := by
  simp [toString, Nat.repr]

theorem isDigit_of_mem_toString {c : Char} (h : c ∈ (toString n).toList) : c.isDigit = true := by
  rw [toList_toString] at h
  exact Nat.isDigit_of_mem_toDigits (by omega) (by omega) h

theorem isWhitespace_of_isDigit {c : Char} (h : c.isDigit = true) : isWhitespace c = false := by
  have hrange : 48 ≤ c.toNat ∧ c.toNat ≤ 57 := by
    simpa [Char.isDigit, UInt32.le_iff_toNat_le] using h
  unfold isWhitespace
  simp only [Bool.or_eq_false_iff, Bool.and_eq_false_iff, decide_eq_false_iff_not, beq_eq_false_iff_ne]
  omega

theorem parseUnsigned_toString {bound : Nat} (h : n < bound)
    : parseUnsigned bound (toString n) = some n := by
  have hne : Nat.toDigits 10 n ≠ [] := Nat.toDigits_ne_nil
  have hdigits : ∀ c ∈ Nat.toDigits 10 n, c.isDigit = true := by
    intro c hc
    exact Nat.isDigit_of_mem_toDigits (by omega) (by omega) hc
  have hvalue := @Nat.ofDigitChars_ten_toDigits n
  rw [Nat.ofDigitChars_eq_foldl] at hvalue
  unfold parseUnsigned
  rw [toList_toString]
  split
  . next rest hplus =>
    -- A plus sign is not a digit.
    cases hdigits '+' (by simp [hplus])
  . dsimp only
    rw [if_pos ⟨hne, List.all_eq_true.mpr hdigits⟩, hvalue, if_pos h]

end Numbers

section Words

variable {word : List Char}

theorem splitWhitespace_cons (hne : word ≠ []) (h : ∀ c ∈ word, isWhitespace c = false) (rest : List Char)
    : splitWhitespace (String.ofList (word ++ ' ' :: rest))
        =
      String.ofList word :: splitWhitespace (String.ofList rest) := by
  have hspace : isWhitespace ' ' = true := by decide
  unfold splitWhitespace
  rw [String.toList_ofList, List.splitOnP_append_cons_of_forall_mem h _ hspace, String.toList_ofList]
  simp [hne]

theorem splitWhitespace_word (hne : word ≠ []) (h : ∀ c ∈ word, isWhitespace c = false)
    : splitWhitespace (String.ofList word) = [String.ofList word] := by
  unfold splitWhitespace
  rw [String.toList_ofList, List.splitOnP_eq_singleton h]
  simp [hne]

end Words

section Terminated

def IsLine (line : String) : Prop :=
  '\n' ∉ line.toList ∧ line.toList.getLast? ≠ some '\r'

instance (line : String) : Decidable (IsLine line) :=
  inferInstanceAs (Decidable (_ ∧ _))

theorem IsLine.append {a b : String} (ha : IsLine a) (hb : IsLine b) : IsLine (a ++ b) := by
  unfold IsLine
  rw [String.toList_append, List.mem_append, not_or, List.getLast?_append]
  refine ⟨⟨ha.1, hb.1⟩, ?_⟩
  cases hlast : b.toList.getLast? with
  | none => simpa using ha.2
  | some c =>
    have hb' := hb.2
    rw [hlast] at hb'
    exact hb'

theorem isLine_of_trim {a : String} (htrim : trim a = a) (h : '\n' ∉ a.toList) : IsLine a := by
  refine ⟨h, ?_⟩
  by_cases hempty : a = ""
  . subst hempty
    decide
  . obtain ⟨s, c, hs, hc⟩ := exists_last_of_trim_eq_self htrim hempty
    rw [hs, List.getLast?_concat]
    rintro ⟨⟩
    cases hc

theorem isLine_toString (n : Nat) : IsLine (toString n) := by
  constructor
  . intro hmem
    cases isDigit_of_mem_toString hmem
  . intro hlast
    cases isDigit_of_mem_toString (List.mem_of_getLast? hlast)

def lineEnd (crlf : Bool) : String :=
  if crlf then "\r\n" else "\n"

def unlines (crlf : Bool) : List String → String
  | [] => ""
  | line :: lines => line ++ lineEnd crlf ++ unlines crlf lines

theorem lines_cons {line : String} (h : IsLine line) (crlf : Bool) (t : String)
    : lines (line ++ lineEnd crlf ++ t) = line :: lines t := by
  obtain ⟨hnewline, hcr⟩ := h
  cases crlf with
  | false =>
    have hline := lines_line hnewline
    rw [chomp_line hcr, String.ofList_toList] at hline
    unfold lineEnd
    rw [if_neg (by simp), lines_append, hline]
    rfl
  | true =>
    have htext : line ++ lineEnd true = String.ofList (line.toList ++ ['\r']) ++ "\n" := by
      have hcrlf : lineEnd true = String.ofList ['\r'] ++ "\n" := by decide
      rw [String.ofList_append, String.ofList_toList, hcrlf, String.append_assoc]
    have hlineCr : '\n' ∉ line.toList ++ ['\r'] := by simp [hnewline]
    have hchomp : chomp (line.toList ++ ['\r'] ++ ['\n']) = line.toList := by
      rw [List.append_assoc]
      exact chomp_line_cr line.toList
    rw [htext, lines_append, lines_line hlineCr, hchomp, String.ofList_toList]
    rfl

theorem lines_unlines {ls : List String} (h : ∀ line ∈ ls, IsLine line) (crlf : Bool) (t : String)
    : lines (unlines crlf ls ++ t) = ls ++ lines t := by
  induction ls with
  | nil =>
    unfold unlines
    rw [String.empty_append, List.nil_append]
  | cons line ls ih =>
    unfold unlines
    rw [String.append_assoc, lines_cons (h line List.mem_cons_self),
      ih (fun l hl => h l (List.mem_cons_of_mem _ hl)), List.cons_append]

theorem not_infix_unlines {needle : List Char} (hne : needle ≠ []) (hnewline : '\n' ∉ needle)
    (hcr : '\r' ∉ needle) {ls : List String} (h : ∀ line ∈ ls, ¬ needle <:+: line.toList) (crlf : Bool)
    : ¬ needle <:+: (unlines crlf ls).toList := by
  induction ls with
  | nil =>
    unfold unlines
    rw [String.toList_empty, List.infix_nil]
    exact hne
  | cons line ls ih =>
    have hline := h line List.mem_cons_self
    have hrest := ih (fun l hl => h l (List.mem_cons_of_mem _ hl))
    unfold unlines
    cases crlf with
    | false =>
      have hlist : (line ++ lineEnd false ++ unlines false ls).toList
          = line.toList ++ '\n' :: (unlines false ls).toList := by simp [lineEnd]
      rw [hlist, Search.infix_append_cons_iff hnewline hne, not_or]
      exact ⟨hline, hrest⟩
    | true =>
      have hlist : (line ++ lineEnd true ++ unlines true ls).toList
          = line.toList ++ '\r' :: ([] ++ '\n' :: (unlines true ls).toList) := by simp [lineEnd]
      rw [hlist, Search.infix_append_cons_iff hcr hne, Search.infix_append_cons_iff hnewline hne]
      simp [hline, hrest, hne]

end Terminated

end Text
