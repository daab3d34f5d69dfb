import PqCas.Lib.Scan
import PqCas.Lib.Utf8

/-!
This module contains two ways to cut a text short for display: the first characters of its lines put together
anew, and the first bytes of the trimmed text.
-/

namespace Excerpt

/--
The lines of a text with a line feed between them: a carriage return in front of a line feed is dropped, and
so is a line end at the end of the text.
-/
def rejoin : List Char → List Char
  | [] => []
  | c :: s =>
    if c = '\n' then
      if s = [] then [] else '\n' :: rejoin s
    else if c = '\r' ∧ s.head? = some '\n' then
      rejoin s
    else
      c :: rejoin s

theorem rejoin_newline (s : List Char) : rejoin ('\n' :: s) = if s = [] then [] else '\n' :: rejoin s := by
  rw [rejoin, if_pos rfl]

theorem rejoin_crlf (s : List Char) : rejoin ('\r' :: '\n' :: s) = rejoin ('\n' :: s) := by
  rw [rejoin, if_neg (by decide), if_pos ⟨rfl, rfl⟩]

theorem rejoin_cons {c : Char} {s : List Char} (hnewline : c ≠ '\n')
    (hcr : ¬ (c = '\r' ∧ s.head? = some '\n')) : rejoin (c :: s) = c :: rejoin s := by
  rw [rejoin, if_neg hnewline, if_neg hcr]

section Lines

theorem rejoin_of_not_mem {s : List Char} (h : '\n' ∉ s) : rejoin s = s := by
  induction s with
  | nil => rfl
  | cons c s ih =>
    rw [List.mem_cons, not_or] at h
    rw [rejoin_cons (Ne.symm h.1), ih h.2]
    rintro ⟨-, hhead⟩
    exact h.2 (List.mem_of_head? hhead)

theorem chomp_cons {c : Char} {line : List Char} (h : ¬ (c = '\r' ∧ line = []))
    : Text.chomp (c :: line ++ ['\n']) = c :: Text.chomp (line ++ ['\n']) := by
  unfold Text.chomp
  rw [List.getLast?_concat, List.dropLast_concat, List.getLast?_concat, List.dropLast_concat]
  simp only [↓reduceIte]
  cases line with
  | nil =>
    have hc : c ≠ '\r' := fun hc => h ⟨hc, rfl⟩
    simp [hc]
  | cons d line =>
    rw [List.getLast?_cons_cons, List.dropLast_cons_cons]
    split
    . rfl
    . rfl

theorem rejoin_line {line : List Char} (h : '\n' ∉ line) (s : List Char)
    : rejoin (line ++ '\n' :: s)
        =
      Text.chomp (line ++ ['\n']) ++ if s = [] then [] else '\n' :: rejoin s := by
  induction line with
  | nil => exact rejoin_newline s
  | cons c line ih =>
    rw [List.mem_cons, not_or] at h
    have ih := ih h.2
    by_cases hcr : c = '\r' ∧ line = []
    . obtain ⟨rfl, rfl⟩ := hcr
      exact (rejoin_crlf s).trans (rejoin_newline s)
    . have hhead : ¬ (c = '\r' ∧ (line ++ '\n' :: s).head? = some '\n') := by
        rintro ⟨rfl, hhead⟩
        cases line with
        | nil => exact hcr ⟨rfl, rfl⟩
        | cons d line =>
          cases hhead
          exact h.2 List.mem_cons_self
      rw [List.cons_append, rejoin_cons (Ne.symm h.1) hhead, ih, chomp_cons hcr, List.cons_append]

theorem intercalate_chomp (s : List Char)
    : ['\n'].intercalate ((Search.splitInclusive '\n' s).map Text.chomp) = rejoin s := by
  induction hn : s.length using Nat.strong_induction_on generalizing s with
  | _ n ih =>
    by_cases hmem : '\n' ∈ s
    . obtain ⟨line, rest, rfl, hline⟩ := List.eq_append_cons_of_mem hmem
      have hrest := ih rest.length (by simp at hn; omega) rest rfl
      have hsplit : Search.splitInclusive '\n' (line ++ '\n' :: rest)
          = (line ++ ['\n']) :: Search.splitInclusive '\n' rest := by
        rw [Search.splitInclusive_append, Search.splitInclusive_line _ hline]
        rfl
      rw [hsplit, rejoin_line hline, List.map_cons]
      by_cases hnil : rest = []
      . subst hnil
        simp [Search.splitInclusive]
      . rw [if_neg hnil, ← hrest]
        cases hlines : Search.splitInclusive '\n' rest with
        | nil => exact absurd ((Search.splitInclusive_eq_nil _).mp hlines) hnil
        | cons piece pieces => simp [List.intercalate]
    . rw [rejoin_of_not_mem hmem]
      by_cases hnil : s = []
      . subst hnil
        rfl
      . rw [Search.splitInclusive_of_not_mem _ hmem hnil, List.map_singleton, Text.chomp_of_not_mem hmem]
        simp

theorem toList_join_lines (s : String) : (Text.join "\n" (Text.lines s)).toList = rejoin s.toList := by
  have hsep : "\n".toList = ['\n'] := rfl
  have hmap : (Text.lines s).map String.toList = (Search.splitInclusive '\n' s.toList).map Text.chomp := by
    unfold Text.lines
    rw [List.map_map]
    apply List.map_congr_left
    intro piece _
    exact String.toList_ofList
  unfold Text.join
  rw [String.toList_ofList, hmap, hsep, intercalate_chomp]

end Lines

section Members

theorem mem_of_mem_rejoin {s : List Char} {c : Char} (h : c ∈ rejoin s) : c ∈ s := by
  induction s with
  | nil => cases h
  | cons d s ih =>
    unfold rejoin at h
    split at h
    . next hd =>
      split at h
      . cases h
      . rcases List.mem_cons.mp h with rfl | h
        . simp [hd]
        . exact List.mem_cons_of_mem d (ih h)
    . split at h
      . exact List.mem_cons_of_mem d (ih h)
      . rcases List.mem_cons.mp h with rfl | h
        . exact List.mem_cons_self
        . exact List.mem_cons_of_mem d (ih h)

theorem mem_rejoin {s : List Char} {c : Char} (h : c ∈ s) (hcr : c ≠ '\r') (hnewline : c ≠ '\n')
    : c ∈ rejoin s := by
  induction s with
  | nil => cases h
  | cons d s ih =>
    unfold rejoin
    rcases List.mem_cons.mp h with rfl | h
    . rw [if_neg hnewline, if_neg (fun hboth => hcr hboth.1)]
      exact List.mem_cons_self
    . split
      . rw [if_neg (List.ne_nil_of_mem h)]
        exact List.mem_cons_of_mem _ (ih h)
      . split
        . exact ih h
        . exact List.mem_cons_of_mem _ (ih h)

theorem trimList_eq_nil_iff {p : Char → Bool} {s : List Char} : Text.trimList p s = [] ↔ ∀ c ∈ s, p c = true := by
  constructor
  . intro h c hc
    by_contra hp
    have hmem := Text.mem_trimList hc (by simpa using hp)
    rw [h] at hmem
    cases hmem
  . intro h
    rw [List.eq_nil_iff_forall_not_mem]
    intro c hc
    have hdrop : s.dropWhile p = [] := by rwa [List.dropWhile_eq_nil_iff]
    unfold Text.trimList at hc
    rw [hdrop] at hc
    cases hc

theorem trimList_rejoin_eq_nil_iff (s : List Char)
    : Text.trimList Text.isWhitespace (rejoin s) = [] ↔ Text.trimList Text.isWhitespace s = [] := by
  rw [trimList_eq_nil_iff, trimList_eq_nil_iff]
  constructor
  . intro h c hc
    by_cases hcr : c = '\r'
    . rw [hcr]
      decide
    by_cases hnewline : c = '\n'
    . rw [hnewline]
      decide
    exact h c (mem_rejoin hc hcr hnewline)
  . exact fun h c hc => h c (mem_of_mem_rejoin hc)

end Members

section Prefix

theorem rejoin_append {t : List Char} (h : ∀ c, t.getLast? = some c → c ≠ '\r' ∧ c ≠ '\n') (blank : List Char)
    : rejoin (t ++ blank) = rejoin t ++ rejoin blank := by
  induction t with
  | nil => rfl
  | cons c t ih =>
    by_cases hnil : t = []
    . subst hnil
      obtain ⟨hcr, hnewline⟩ := h c rfl
      rw [List.singleton_append, rejoin_cons hnewline (fun hboth => hcr hboth.1),
        rejoin_cons hnewline (fun hboth => hcr hboth.1)]
      rfl
    . have hlast : ∀ c, t.getLast? = some c → c ≠ '\r' ∧ c ≠ '\n' := by
        intro d hd
        apply h d
        rw [List.getLast?_cons, hd]
        rfl
      have hhead : (t ++ blank).head? = t.head? := List.head?_append_of_ne_nil t hnil
      rw [List.cons_append]
      by_cases hnewline : c = '\n'
      . have happend : t ++ blank ≠ [] := by simp [hnil]
        rw [hnewline, rejoin_newline, rejoin_newline, if_neg happend, if_neg hnil, ih hlast, List.cons_append]
      . by_cases hcr : c = '\r' ∧ t.head? = some '\n'
        . have hcr' : c = '\r' ∧ (t ++ blank).head? = some '\n' := by rwa [hhead]
          rw [rejoin, if_neg hnewline, if_pos hcr', ih hlast]
          rw [rejoin, if_neg hnewline, if_pos hcr]
        . have hcr' : ¬ (c = '\r' ∧ (t ++ blank).head? = some '\n') := by rwa [hhead]
          rw [rejoin_cons hnewline hcr', rejoin_cons hnewline hcr, ih hlast, List.cons_append]

theorem length_rejoin_le (s : List Char) : (rejoin s).length ≤ s.length := by
  induction s with
  | nil => exact Nat.le_refl _
  | cons c s ih =>
    unfold rejoin
    rw [List.length_cons]
    split
    . split
      . simp
      . simp [ih]
    . split
      . omega
      . simp [ih]

theorem take_rejoin {s : List Char} {n : Nat} (h : ¬ ['\r', '\n'] <:+: s.take (n + 1))
    (hlast : s.getLast? ≠ some '\n') : (rejoin s).take n = s.take n := by
  induction s generalizing n with
  | nil => rfl
  | cons c s ih =>
    cases n with
    | zero => rfl
    | succ n =>
      rw [List.take_succ_cons] at h ⊢
      have hrest : ¬ ['\r', '\n'] <:+: s.take (n + 1) := fun hin => h (hin.trans (List.suffix_cons _ _).isInfix)
      have hne : c = '\n' → s ≠ [] := by
        rintro rfl rfl
        exact hlast rfl
      have hlast' : s.getLast? ≠ some '\n' := by
        intro heq
        apply hlast
        rw [List.getLast?_cons, heq]
        rfl
      by_cases hnewline : c = '\n'
      . rw [hnewline, rejoin_newline, if_neg (hne hnewline), List.take_succ_cons, ih hrest hlast']
      . have hcr : ¬ (c = '\r' ∧ s.head? = some '\n') := by
          rintro ⟨rfl, hhead⟩
          cases s with
          | nil => cases hhead
          | cons d s =>
            cases hhead
            apply h
            rw [List.take_succ_cons]
            exact (List.prefix_append ['\r', '\n'] _).isInfix
        rw [rejoin_cons hnewline hcr, List.take_succ_cons, ih hrest hlast']

theorem exists_early {s : List Char} {n : Nat} (h : ['\r', '\n'] <:+: s.take (n + 1))
    : ∃ front rest, s = front ++ '\r' :: '\n' :: rest ∧ front.length < n
        ∧ (rest ≠ [] → ∃ behind, rejoin s = front ++ '\n' :: behind) := by
  induction s generalizing n with
  | nil =>
    rw [List.take_nil, List.infix_nil] at h
    cases h
  | cons c s ih =>
    rw [List.take_succ_cons] at h
    by_cases hcr : c = '\r' ∧ s.head? = some '\n'
    . obtain ⟨rfl, hhead⟩ := hcr
      cases s with
      | nil => cases hhead
      | cons d s =>
        cases hhead
        have hn : 0 < n := by
          cases n with
          | zero =>
            have := h.length_le
            simp at this
          | succ n => omega
        refine ⟨[], s, rfl, hn, ?_⟩
        intro hne
        rw [rejoin_crlf, rejoin_newline, if_neg hne]
        exact ⟨_, rfl⟩
    . cases n with
      | zero =>
        have := h.length_le
        simp at this
      | succ n =>
        have hrest : ['\r', '\n'] <:+: s.take (n + 1) := by
          rcases List.infix_cons_iff.mp h with hprefix | hinfix
          . obtain ⟨t, ht⟩ := hprefix
            rw [List.cons_append, List.cons.injEq, List.singleton_append] at ht
            cases s with
            | nil => cases ht.2
            | cons d s =>
              rw [List.take_succ_cons, List.cons.injEq] at ht
              exact absurd ⟨ht.1.symm, by rw [← ht.2.1]; rfl⟩ hcr
          . exact hinfix
        obtain ⟨front, rest, rfl, hlength, hbehind⟩ := ih hrest
        refine ⟨c :: front, rest, rfl, by rw [List.length_cons]; omega, ?_⟩
        intro hne
        obtain ⟨behind, heq⟩ := hbehind hne
        by_cases hnewline : c = '\n'
        . rw [hnewline, rejoin_newline, if_neg (by simp), heq]
          exact ⟨behind, rfl⟩
        . rw [rejoin_cons hnewline hcr, heq]
          exact ⟨behind, rfl⟩

theorem rejoin_eq_nil_iff {s : List Char} : rejoin s = [] ↔ s = [] ∨ s = ['\n'] ∨ s = ['\r', '\n'] := by
  constructor
  . intro h
    cases s with
    | nil => exact .inl rfl
    | cons c s =>
      by_cases hnewline : c = '\n'
      . rw [hnewline, rejoin_newline] at h
        split at h
        . next hnil => exact .inr (.inl (by rw [hnewline, hnil]))
        . cases h
      . by_cases hcr : c = '\r' ∧ s.head? = some '\n'
        . obtain ⟨rfl, hhead⟩ := hcr
          cases s with
          | nil => cases hhead
          | cons d s =>
            cases hhead
            rw [rejoin_crlf, rejoin_newline] at h
            split at h
            . next hnil => exact .inr (.inr (by rw [hnil]))
            . cases h
        . rw [rejoin_cons hnewline hcr] at h
          cases h
  . rintro (rfl | rfl | rfl) <;> decide

end Prefix

/--
A text of which both ways show the same: nothing blank in front, no carriage return that goes with a line feed
among the first `n` characters, and either these take one byte each, or the text is no longer than `n` bytes
and has at most a line end behind.
-/
structure Plain (n : Nat) (s : List Char) : Prop where
  front : Text.trimList Text.isWhitespace s <+: s
  lines : ¬ ['\r', '\n'] <:+: (Text.trimList Text.isWhitespace s).take (n + 1)
  size :
    (n ≤ (Text.trimList Text.isWhitespace s).length
        ∧ ∀ c ∈ (Text.trimList Text.isWhitespace s).take n, c.utf8Size = 1)
      ∨ ((Utf8.encodeChars (Text.trimList Text.isWhitespace s)).length ≤ n
        ∧ ∃ behind ∈ [[], ['\n'], ['\r', '\n']], s = Text.trimList Text.isWhitespace s ++ behind)

section Same

open Utf8

variable {s t blank : List Char} {n : Nat}

theorem last_of_trimList (c : Char) (h : (Text.trimList Text.isWhitespace s).getLast? = some c)
    : c ≠ '\r' ∧ c ≠ '\n' := by
  have hspace : Text.isWhitespace c = false := by
    unfold Text.trimList at h
    rw [List.getLast?_reverse] at h
    have hdrop := List.head?_dropWhile_not Text.isWhitespace (s.dropWhile Text.isWhitespace).reverse
    rw [h] at hdrop
    simpa using hdrop
  constructor
  . rintro rfl
    cases hspace
  . rintro rfl
    cases hspace

theorem encode_take_of_plain (h : Plain n s)
    : Utf8.encodeChars ((rejoin s).take n) = (Utf8.encodeChars (Text.trimList Text.isWhitespace s)).take n := by
  obtain ⟨blank, hs⟩ := h.front
  have hsize := h.size
  have hlines := h.lines
  have hlast := last_of_trimList (s := s)
  generalize ht : Text.trimList Text.isWhitespace s = t at hs hsize hlines hlast
  have hlast' : t.getLast? ≠ some '\n' := fun heq => (hlast _ heq).2 rfl
  have htake := take_rejoin hlines hlast'
  rw [← hs, rejoin_append hlast]
  rcases hsize with ⟨hlong, hone⟩ | ⟨hshort, behind, hbehind, heq⟩
  . have hlength : n ≤ (rejoin t).length := by
      have h := congrArg List.length htake
      rw [List.length_take, List.length_take] at h
      omega
    have hbytes : (Utf8.encodeChars (t.take n)).length = n := by
      rw [length_encodeChars_eq_iff.mpr hone, List.length_take]
      omega
    rw [List.take_append_of_le_length hlength, htake]
    have hsplit := congrArg Utf8.encodeChars (List.take_append_drop n t)
    rw [encodeChars_append] at hsplit
    rw [← hsplit, List.take_left' hbytes]
  . have hle := length_le_encodeChars t
    have hlength := length_rejoin_le t
    have hwhole : rejoin t = t := by
      rwa [List.take_of_length_le (by omega), List.take_of_length_le (by omega)] at htake
    have hnil : rejoin blank = [] := by
      have hblank : blank = behind := by
        rw [heq] at hs
        exact List.append_cancel_left hs
      rw [hblank, rejoin_eq_nil_iff]
      simpa using hbehind
    rw [hwhole, hnil, List.append_nil, List.take_of_length_le (by omega), List.take_of_length_le hshort]

theorem exists_blank_head {c : Char} (hspace : Text.isWhitespace c = true) (hne : rejoin (c :: s) ≠ [])
    : ∃ d rest, rejoin (c :: s) = d :: rest ∧ Text.isWhitespace d = true := by
  by_cases hnewline : c = '\n'
  . rw [hnewline, rejoin_newline] at hne ⊢
    split
    . next hnil =>
      rw [if_pos hnil] at hne
      exact absurd rfl hne
    . exact ⟨'\n', rejoin s, rfl, by decide⟩
  . by_cases hcr : c = '\r' ∧ s.head? = some '\n'
    . obtain ⟨rfl, hhead⟩ := hcr
      cases s with
      | nil => cases hhead
      | cons d s =>
        cases hhead
        rw [rejoin_crlf, rejoin_newline] at hne ⊢
        split
        . next hnil =>
          rw [if_pos hnil] at hne
          exact absurd rfl hne
        . exact ⟨'\n', rejoin s, rfl, by decide⟩
    . exact ⟨c, rejoin s, rejoin_cons hnewline hcr, hspace⟩

theorem head_of_trimList {c : Char} (h : (Text.trimList Text.isWhitespace s).head? = some c)
    : Text.isWhitespace c = false := by
  have hhead : (s.dropWhile Text.isWhitespace).head? = some c := by
    obtain ⟨rest, hrest⟩ := Text.prefix_trimList Text.isWhitespace s
    rw [← hrest, List.head?_append, h]
    rfl
  have hnot := List.head?_dropWhile_not Text.isWhitespace s
  rw [hhead] at hnot
  simpa using hnot

theorem prefix_trimList_of_head {c : Char} (h : Text.isWhitespace c = false)
    : Text.trimList Text.isWhitespace (c :: s) <+: c :: s := by
  have hprefix := Text.prefix_trimList Text.isWhitespace (c :: s)
  rwa [List.dropWhile_cons_of_neg (by rw [h]; exact Bool.false_ne_true)] at hprefix

section Converse

variable (h : Utf8.encodeChars ((rejoin s).take n) = (Utf8.encodeChars (Text.trimList Text.isWhitespace s)).take n)
  (hn : 0 < n) (hvisible : Text.trimList Text.isWhitespace s ≠ [])

include h hn hvisible

theorem front_of_encode_take : Text.trimList Text.isWhitespace s <+: s := by
  cases hs : s with
  | nil =>
    rw [hs] at hvisible
    exact absurd rfl hvisible
  | cons c rest =>
    by_cases hspace : Text.isWhitespace c = true
    . exfalso
      have hne : rejoin (c :: rest) ≠ [] := by
        intro hnil
        apply hvisible
        rw [← trimList_rejoin_eq_nil_iff, hs, hnil]
        rfl
      obtain ⟨d, behind, hrejoin, hd⟩ := exists_blank_head hspace hne
      cases htrim : Text.trimList Text.isWhitespace s with
      | nil => exact hvisible htrim
      | cons e t =>
        have he : Text.isWhitespace e = false := head_of_trimList (s := s) (by rw [htrim]; rfl)
        have hprefix : String.utf8EncodeChar d <+: Utf8.encodeChars (e :: t) := by
          obtain ⟨m, rfl⟩ := Nat.exists_eq_succ_of_ne_zero (Nat.ne_of_gt hn)
          apply List.IsPrefix.trans _ (List.take_prefix (m + 1) _)
          rw [← htrim, ← h, hs, hrejoin, List.take_succ_cons, encodeChars_cons]
          apply List.prefix_append
        rw [eq_of_prefix_encode hprefix, he] at hd
        cases hd
    . exact prefix_trimList_of_head (by simpa using hspace)

theorem lines_of_encode_take : ¬ ['\r', '\n'] <:+: (Text.trimList Text.isWhitespace s).take (n + 1) := by
  intro hcrlf
  obtain ⟨blank, hs⟩ := front_of_encode_take h hn hvisible
  obtain ⟨front, rest, ht, hlength, hbehind⟩ := exists_early hcrlf
  have hlast := last_of_trimList (s := s)
  have hrest : rest ≠ [] := by
    rintro rfl
    apply (hlast '\n' _).2 rfl
    rw [ht]
    simp
  obtain ⟨behind, hrejoin⟩ := hbehind hrest
  have hwhole : (rejoin s).take n = front ++ ['\n'] ++ (behind ++ rejoin blank).take (n - front.length - 1) := by
    rw [← hs, rejoin_append hlast, hrejoin, List.append_assoc, List.take_append, List.take_of_length_le (by omega),
      List.cons_append]
    obtain ⟨m, hm⟩ : ∃ m, n - front.length = m + 1 := ⟨n - front.length - 1, by omega⟩
    rw [hm, List.take_succ_cons, List.append_assoc]
    rfl
  have hprefix : Utf8.encodeChars (front ++ ['\n']) <+: Utf8.encodeChars (front ++ '\r' :: '\n' :: rest) := by
    rw [← ht]
    apply List.IsPrefix.trans _ (List.take_prefix n _)
    rw [← h, hwhole, encodeChars_append (front ++ ['\n'])]
    apply List.prefix_append
  rw [encodeChars_append, encodeChars_append, List.prefix_append_right_inj] at hprefix
  cases eq_of_prefix_encode (c := '\n') hprefix

theorem plain_of_encode_take : Plain n s := by
  have hlines := lines_of_encode_take h hn hvisible
  obtain ⟨blank, hs⟩ := front_of_encode_take h hn hvisible
  have hlast := last_of_trimList (s := s)
  refine ⟨⟨blank, hs⟩, hlines, ?_⟩
  generalize Text.trimList Text.isWhitespace s = t at h hs hlines hlast
  have htake := take_rejoin hlines (fun heq => (hlast _ heq).2 rfl)
  have hle := length_le_encodeChars t
  have hrejoin := length_rejoin_le t
  rw [← hs, rejoin_append hlast] at h
  by_cases hlong : n ≤ t.length
  . refine .inl ⟨hlong, ?_⟩
    have hlength : n ≤ (rejoin t).length := by
      have hlength := congrArg List.length htake
      rw [List.length_take, List.length_take] at hlength
      omega
    rw [List.take_append_of_le_length hlength, htake] at h
    have hbytes := congrArg List.length h
    rw [List.length_take, Nat.min_eq_left (by omega)] at hbytes
    rw [← length_encodeChars_eq_iff, hbytes, List.length_take, Nat.min_eq_left hlong]
  . have hwhole : rejoin t = t := by
      rwa [List.take_of_length_le (by omega), List.take_of_length_le (by omega)] at htake
    rw [hwhole, List.take_append, List.take_of_length_le (by omega), encodeChars_append] at h
    have hbytes := congrArg List.length h
    rw [List.length_append, List.length_take] at hbytes
    have hnone : Utf8.encodeChars ((rejoin blank).take (n - t.length)) = [] := by
      rw [← List.length_eq_zero_iff]
      omega
    have hcount := length_le_encodeChars ((rejoin blank).take (n - t.length))
    rw [hnone, List.length_take, List.length_nil] at hcount
    have hnil : rejoin blank = [] := by
      rw [← List.length_eq_zero_iff]
      omega
    refine .inr ⟨by omega, blank, ?_, hs.symm⟩
    simpa using rejoin_eq_nil_iff.mp hnil

end Converse

theorem encode_take_iff (hn : 0 < n) (hvisible : Text.trimList Text.isWhitespace s ≠ [])
    : Utf8.encodeChars ((rejoin s).take n) = (Utf8.encodeChars (Text.trimList Text.isWhitespace s)).take n
        ↔
      Plain n s :=
  ⟨fun h => plain_of_encode_take h hn hvisible, encode_take_of_plain⟩

end Same

end Excerpt
