import Mathlib

/-!
This module contains the string operations of the Rust standard library that are compared, trimmed
and searched with, stated on the list of characters of a string.
-/

namespace Text

/--
`str::to_ascii_lowercase`: only `A` to `Z` are changed.
-/
def toAsciiLowercase (s : String) : String :=
  String.ofList (s.toList.map Char.toLower)

def eqIgnoreAsciiCase (a b : String) : Bool :=
  a.toList.map Char.toLower == b.toList.map Char.toLower

def contains (s needle : String) : Bool :=
  decide (needle.toList <:+: s.toList)

def startsWith (s pre : String) : Bool :=
  decide (pre.toList <+: s.toList)

/--
The code points with the Unicode property `White_Space`, which is what `str::trim` removes.
-/
def isWhitespace (c : Char) : Bool :=
  let n := c.toNat
  (9 ≤ n && n ≤ 13) || n == 0x20 || n == 0x85 || n == 0xA0 || n == 0x1680
    || (0x2000 ≤ n && n ≤ 0x200A) || n == 0x2028 || n == 0x2029 || n == 0x202F || n == 0x205F
    || n == 0x3000

def trimList (isSpace : Char → Bool) (s : List Char) : List Char :=
  (((s.dropWhile isSpace).reverse).dropWhile isSpace).reverse

def trim (s : String) : String :=
  String.ofList (trimList isWhitespace s.toList)

/--
The characters that `\s` and `String.prototype.trim` of JavaScript take for white space.
-/
def isJsSpace (c : Char) : Bool :=
  let n := c.toNat
  (9 ≤ n && n ≤ 13) || n == 0x20 || n == 0xA0 || n == 0x1680 || (0x2000 ≤ n && n ≤ 0x200A)
    || n == 0x2028 || n == 0x2029 || n == 0x202F || n == 0x205F || n == 0x3000 || n == 0xFEFF

def jsTrim (s : String) : String :=
  String.ofList (trimList isJsSpace s.toList)

/--
`String.prototype.toUpperCase` on text whose upper case is ASCII letter for letter: besides `a` to `z`
two letters have such an upper case.
-/
def jsToUpperCase (s : String) : String :=
  String.ofList (s.toList.map (fun c =>
    if c = 'ſ' then
      'S'
    else if c = 'ı' then
      'I'
    else
      c.toUpper))

@[simp]
theorem eqIgnoreAsciiCase_iff {a b : String}
    : eqIgnoreAsciiCase a b = true ↔ toAsciiLowercase a = toAsciiLowercase b := by
  simp [eqIgnoreAsciiCase, toAsciiLowercase, String.ofList_inj]

theorem eqIgnoreAsciiCase_comm (a b : String) : eqIgnoreAsciiCase a b = eqIgnoreAsciiCase b a := by
  rw [Bool.eq_iff_iff]
  simp only [eqIgnoreAsciiCase_iff]
  exact eq_comm

theorem eqIgnoreAsciiCase_trans {a b c : String} (hab : eqIgnoreAsciiCase a b = true)
    (hbc : eqIgnoreAsciiCase b c = true) : eqIgnoreAsciiCase a c = true := by
  rw [eqIgnoreAsciiCase_iff] at *
  exact hab.trans hbc

@[simp]
theorem toAsciiLowercase_toAsciiLowercase (s : String)
    : toAsciiLowercase (toAsciiLowercase s) = toAsciiLowercase s := by
  simp [toAsciiLowercase, Function.comp_def]

theorem trimList_eq_self {isSpace : Char → Bool} {s : List Char} (h : ∀ c ∈ s, isSpace c = false)
    : trimList isSpace s = s := by
  have hdrop : ∀ l : List Char, (∀ c ∈ l, isSpace c = false) → l.dropWhile isSpace = l := by
    intro l hl
    cases l with
    | nil => rfl
    | cons c l => simp [hl c (by simp)]
  unfold trimList
  rw [hdrop s h]
  rw [hdrop s.reverse (by simpa using h)]
  simp

theorem trimList_append_singleton {isSpace : Char → Bool} (s : List Char) {c : Char}
    (hc : isSpace c = false) : trimList isSpace (s ++ [c]) = s.dropWhile isSpace ++ [c] := by
  have hdrop : (s ++ [c]).dropWhile isSpace = s.dropWhile isSpace ++ [c] := by
    rw [List.dropWhile_append]
    split
    . next h => simp [List.isEmpty_iff.mp h, hc]
    . rfl
  unfold trimList
  rw [hdrop]
  simp [hc]

theorem prefix_trimList (isSpace : Char → Bool) (s : List Char) : trimList isSpace s <+: s.dropWhile isSpace := by
  unfold trimList
  rw [← List.reverse_suffix, List.reverse_reverse]
  apply List.dropWhile_suffix

theorem infix_trimList (isSpace : Char → Bool) (s : List Char) : trimList isSpace s <:+: s :=
  (prefix_trimList isSpace s).isInfix.trans (List.dropWhile_suffix _).isInfix

theorem mem_trimList {isSpace : Char → Bool} {s : List Char} {c : Char} (h : c ∈ s)
    (hc : isSpace c = false) : c ∈ trimList isSpace s := by
  have hdrop : ∀ {l : List Char}, c ∈ l → c ∈ l.dropWhile isSpace := by
    intro l hl
    have hsplit := List.takeWhile_append_dropWhile (p := isSpace) (l := l)
    rw [← hsplit, List.mem_append] at hl
    rcases hl with htake | hdrop
    . have := List.mem_takeWhile_imp htake
      rw [hc] at this
      cases this
    . exact hdrop
  unfold trimList
  rw [List.mem_reverse]
  apply hdrop
  rw [List.mem_reverse]
  exact hdrop h

theorem trimList_dropWhile (isSpace : Char → Bool) (s : List Char)
    : trimList isSpace (s.dropWhile isSpace) = trimList isSpace s := by
  unfold trimList
  rw [List.dropWhile_idempotent]

theorem trimList_append_space {isSpace : Char → Bool} (s : List Char) {c : Char} (hc : isSpace c = true)
    : trimList isSpace (s ++ [c]) = trimList isSpace s := by
  unfold trimList
  rw [List.dropWhile_append]
  split
  . next h => simp [List.isEmpty_iff.mp h, hc]
  . simp [hc]

theorem trim_eq_self {s : String} (h : ∀ c ∈ s.toList, isWhitespace c = false) : trim s = s := by
  simp [trim, trimList_eq_self h]

theorem jsTrim_eq_self {s : String} (h : ∀ c ∈ s.toList, isJsSpace c = false) : jsTrim s = s := by
  simp [jsTrim, trimList_eq_self h]

end Text
