import Mathlib.Data.List.Basic
import Mathlib.Data.List.Induction
import Mathlib.Data.List.Infix

/-!
This module contains searching for a list in a list and cutting a list into lines, over any alphabet.
-/

namespace Search

variable {α : Type} [DecidableEq α]

def after (needle : List α) : List α → Option (List α)
  | [] => if needle = [] then some [] else none
  | c :: s => if needle <+: c :: s then some ((c :: s).drop needle.length) else after needle s

def splitOnce (sep : List α) : List α → Option (List α × List α)
  | [] => if sep = [] then some ([], []) else none
  | c :: s =>
    if sep <+: c :: s then
      some ([], (c :: s).drop sep.length)
    else
      (splitOnce sep s).map (fun (front, rest) => (c :: front, rest))

/--
The pieces between the occurrences of `sep`, where the first `skip` letters still belong to one.
-/
def splitAllFrom (sep : List α) (skip : Nat) : List α → List (List α)
  | [] => [[]]
  | c :: s =>
    match skip with
    | skip + 1 => splitAllFrom sep skip s
    | 0 =>
      if sep <+: c :: s then
        [] :: splitAllFrom sep (sep.length - 1) s
      else
        (splitAllFrom sep 0 s).modifyHead (c :: ·)

def splitAll (sep s : List α) : List (List α) :=
  splitAllFrom sep 0 s

theorem splitAllFrom_append (sep front s : List α) : splitAllFrom sep front.length (front ++ s) = splitAll sep s := by
  induction front with
  | nil => rfl
  | cons c front ih => exact ih

theorem after_eq_none_iff {needle s : List α} : after needle s = none ↔ ¬ needle <:+: s := by
  induction s with
  | nil => simp [after]
  | cons c s ih =>
    rw [List.infix_cons_iff, after]
    split
    . next h => simp [h]
    . next h => simp [h, ih]

theorem eq_append_of_after {needle s rest : List α} (h : after needle s = some rest)
    : ∃ pre, s = pre ++ needle ++ rest := by
  induction s with
  | nil =>
    unfold after at h
    split at h
    . next hnil =>
      cases h
      exact ⟨[], by simp [hnil]⟩
    . cases h
  | cons c s ih =>
    unfold after at h
    split at h
    . next hpre =>
      cases h
      obtain ⟨t, ht⟩ := hpre
      exact ⟨[], by simp [← ht]⟩
    . obtain ⟨pre, hpre⟩ := ih h
      exact ⟨c :: pre, by simp [hpre]⟩

theorem after_append_right {needle s rest : List α} (h : after needle s = some rest) (t : List α)
    : after needle (s ++ t) = some (rest ++ t) := by
  induction s with
  | nil =>
    unfold after at h
    split at h
    . next hnil =>
      cases h
      subst hnil
      cases t <;> simp [after]
    . cases h
  | cons c s ih =>
    unfold after at h
    rw [List.cons_append, after]
    split at h
    . next hpre =>
      cases h
      have hlong : needle <+: c :: (s ++ t) := hpre.trans (List.prefix_append (c :: s) t)
      rw [if_pos hlong, ← List.cons_append, List.drop_append_of_le_length hpre.length_le]
    . next hpre =>
      -- The needle fits into the text, so it does not run out of it.
      obtain ⟨pre, rfl⟩ := eq_append_of_after h
      rw [if_neg, ih h]
      intro hlong
      apply hpre
      rw [← List.cons_append] at hlong
      apply List.prefix_of_prefix_length_le hlong (List.prefix_append _ _)
      simp
      omega

/--
No occurrence starts before the end of `pre`.
-/
def StartsLate (needle pre s : List α) : Prop :=
  ∀ t, t <:+ pre → t ≠ [] → ¬ needle <+: t ++ s

theorem after_append {needle pre s : List α} (h : StartsLate needle pre s)
    : after needle (pre ++ s) = after needle s := by
  induction pre with
  | nil => rfl
  | cons c pre ih =>
    have hhead : ¬ needle <+: c :: (pre ++ s) := h (c :: pre) (List.suffix_refl _) (by simp)
    rw [List.cons_append, after, if_neg hhead]
    apply ih
    exact fun t ht => h t (ht.trans (List.suffix_cons c pre))

omit [DecidableEq α] in
theorem startsLate_of_not_mem {c : α} {needle pre : List α} (h : c ∉ pre) (s : List α)
    : StartsLate (c :: needle) pre s := by
  rintro t ht hne hneedle
  obtain ⟨d, rest, rfl⟩ := List.exists_cons_of_ne_nil hne
  obtain ⟨u, hu⟩ := hneedle
  rw [List.cons_append, List.cons_append, List.cons.injEq] at hu
  apply h
  rw [hu.1]
  exact ht.subset List.mem_cons_self

@[simp]
theorem after_self (needle s : List α) : after needle (needle ++ s) = some s := by
  cases hs : needle ++ s with
  | nil =>
    obtain ⟨rfl, rfl⟩ := List.append_eq_nil_iff.mp hs
    rfl
  | cons c t =>
    rw [after, if_pos (hs ▸ List.prefix_append needle s), ← hs, List.drop_left]

/--
No occurrence of `a` that starts before one of `b` runs into it.
-/
def Apart (a b : List α) : Prop :=
  ∀ t ∈ a.tails, t ≠ [] → t ≠ a → ¬ t <+: b ∧ ¬ b <+: t

instance (a b : List α) : Decidable (Apart a b) :=
  inferInstanceAs (Decidable (∀ t ∈ a.tails, t ≠ [] → t ≠ a → ¬ t <+: b ∧ ¬ b <+: t))

omit [DecidableEq α] in
theorem Apart.startsLate {needle pre mid : List α} (h : Apart needle mid) (hpre : ¬ needle <:+: pre)
    (s : List α) : StartsLate needle pre (mid ++ s) := by
  intro t ht hne hneedle
  rcases List.prefix_or_prefix_of_prefix hneedle (List.prefix_append t (mid ++ s)) with hin | hout
  . exact hpre (hin.isInfix.trans ht.isInfix)
  . -- The occurrence runs out of `pre` and into `mid`.
    obtain ⟨u, rfl⟩ := hout
    have hu : u <+: mid ++ s := by simpa using hneedle
    by_cases hnil : u = []
    . subst hnil
      rw [List.append_nil] at hpre
      exact hpre ht.isInfix
    have hproper : u ≠ t ++ u := by simpa using hne
    have hapart := h u ((List.mem_tails _ _).mpr (List.suffix_append t u)) hnil hproper
    rcases List.prefix_or_prefix_of_prefix hu (List.prefix_append mid s) with hpm | hmp
    . exact hapart.1 hpm
    . exact hapart.2 hmp

structure Clear (a b : List α) : Prop where
  not_prefix : ¬ a <+: b
  not_extends : ¬ b <+: a
  left : Apart a b
  right : Apart b a

instance (a b : List α) : Decidable (Clear a b) :=
  decidable_of_iff (¬ a <+: b ∧ ¬ b <+: a ∧ Apart a b ∧ Apart b a)
    ⟨fun ⟨h₁, h₂, h₃, h₄⟩ => ⟨h₁, h₂, h₃, h₄⟩, fun ⟨h₁, h₂, h₃, h₄⟩ => ⟨h₁, h₂, h₃, h₄⟩⟩

omit [DecidableEq α] in
theorem Clear.symm {a b : List α} (h : Clear a b) : Clear b a :=
  ⟨h.not_extends, h.not_prefix, h.right, h.left⟩

theorem Clear.after_eq {a b pre : List α} (h : Clear a b) (hpre : ¬ a <:+: pre) (s : List α)
    : after a (pre ++ (b ++ s)) = after a s := by
  rw [after_append (h.left.startsLate hpre s)]
  apply after_append
  intro t ht hne hneedle
  by_cases hwhole : t = b
  . subst hwhole
    rcases List.prefix_or_prefix_of_prefix hneedle (List.prefix_append t s) with h' | h'
    . exact h.not_prefix h'
    . exact h.not_extends h'
  have hapart := h.right t ((List.mem_tails _ _).mpr ht) hne hwhole
  rcases List.prefix_or_prefix_of_prefix hneedle (List.prefix_append t s) with h' | h'
  . exact hapart.2 h'
  . exact hapart.1 h'

theorem Apart.after_eq {needle pre : List α} (h : Apart needle needle) (hpre : ¬ needle <:+: pre)
    (s : List α) : after needle (pre ++ (needle ++ s)) = some s := by
  rw [after_append (h.startsLate hpre s), after_self]

theorem splitOnce_append {sep pre s : List α} (h : StartsLate sep pre s)
    : splitOnce sep (pre ++ s) = (splitOnce sep s).map (fun (front, rest) => (pre ++ front, rest)) := by
  induction pre with
  | nil => cases hs : splitOnce sep s <;> simp [hs]
  | cons c pre ih =>
    have hhead : ¬ sep <+: c :: (pre ++ s) := h (c :: pre) (List.suffix_refl _) (by simp)
    have hrest : StartsLate sep pre s := fun t ht => h t (ht.trans (List.suffix_cons c pre))
    rw [List.cons_append, splitOnce, if_neg hhead, ih hrest]
    cases splitOnce sep s <;> rfl

theorem splitOnce_self (sep s : List α) : splitOnce sep (sep ++ s) = some ([], s) := by
  cases hs : sep ++ s with
  | nil =>
    obtain ⟨rfl, rfl⟩ := List.append_eq_nil_iff.mp hs
    rfl
  | cons c t => rw [splitOnce, if_pos (hs ▸ List.prefix_append sep s), ← hs, List.drop_left]

theorem splitOnce_of_not_mem {c : α} {front : List α} (h : c ∉ front) (rest : List α)
    : splitOnce [c] (front ++ c :: rest) = some (front, rest) := by
  have hself : splitOnce [c] (c :: rest) = some ([], rest) := splitOnce_self [c] rest
  rw [splitOnce_append (startsLate_of_not_mem h (c :: rest)), hself, Option.map_some]
  dsimp only
  rw [List.append_nil]

theorem splitAll_append {sep pre : List α} (hne : sep ≠ []) (s : List α)
    (h : StartsLate sep pre (sep ++ s)) : splitAll sep (pre ++ (sep ++ s)) = pre :: splitAll sep s := by
  unfold splitAll
  induction pre with
  | nil =>
    obtain ⟨c, rest, rfl⟩ := List.exists_cons_of_ne_nil hne
    have hprefix : c :: rest <+: c :: (rest ++ s) := List.prefix_append (c :: rest) s
    rw [List.nil_append, List.cons_append, splitAllFrom, if_pos hprefix, List.length_cons, Nat.add_sub_cancel,
      splitAllFrom_append]
    rfl
  | cons c pre ih =>
    have hhead : ¬ sep <+: c :: (pre ++ (sep ++ s)) := h (c :: pre) (List.suffix_refl _) (by simp)
    have hrest : StartsLate sep pre (sep ++ s) := fun t ht => h t (ht.trans (List.suffix_cons c pre))
    rw [List.cons_append, splitAllFrom, if_neg hhead, ih hrest]
    rfl

theorem splitAll_of_not_infix {sep s : List α} (h : ¬ sep <:+: s) : splitAll sep s = [s] := by
  unfold splitAll
  induction s with
  | nil => rfl
  | cons c s ih =>
    rw [List.infix_cons_iff, not_or] at h
    rw [splitAllFrom, if_neg h.1, ih h.2]
    rfl

theorem Apart.splitOnce_eq {sep pre : List α} (h : Apart sep sep) (hpre : ¬ sep <:+: pre) (s : List α)
    : splitOnce sep (pre ++ (sep ++ s)) = some (pre, s) := by
  rw [splitOnce_append (h.startsLate hpre s), splitOnce_self, Option.map_some]
  dsimp only
  rw [List.append_nil]

theorem Clear.not_infix {a b pre s : List α} (h : Clear a b) (hpre : ¬ a <:+: pre) (hs : ¬ a <:+: s)
    : ¬ a <:+: pre ++ (b ++ s) := by
  rw [← after_eq_none_iff, h.after_eq hpre, after_eq_none_iff]
  exact hs

theorem not_infix_append {c : α} {needle pre s : List α} (hc : c ∉ pre) (hs : ¬ c :: needle <:+: s)
    : ¬ c :: needle <:+: pre ++ s := by
  rw [← after_eq_none_iff, after_append, after_eq_none_iff]
  . exact hs
  . intro t ht hne hneedle
    cases t with
    | nil => exact hne rfl
    | cons d t =>
      obtain ⟨u, hu⟩ := hneedle
      rw [List.cons_append, List.cons_append, List.cons.injEq] at hu
      rw [hu.1] at hc
      exact hc (ht.subset List.mem_cons_self)

omit [DecidableEq α] in
theorem infix_append_cons_iff {needle s t : List α} {c : α} (hc : c ∉ needle) (hne : needle ≠ [])
    : needle <:+: s ++ c :: t ↔ needle <:+: s ∨ needle <:+: t := by
  constructor
  . rintro ⟨front, rest, h⟩
    rw [List.append_assoc] at h
    -- The letter is in front of the occurrence or behind it.
    rcases List.append_eq_append_iff.mp h with ⟨a, rfl, ha⟩ | ⟨b, rfl, hb⟩
    . rcases List.append_eq_append_iff.mp ha with ⟨d, rfl, -⟩ | ⟨d, hd, hdt⟩
      . exact .inl ⟨front, d, by simp⟩
      . cases d with
        | nil =>
          left
          exact ⟨front, [], by simp [hd]⟩
        | cons x d =>
          rw [List.cons_append, List.cons.injEq] at hdt
          exact absurd (by simp [hd, hdt.1]) hc
    . cases b with
      | nil =>
        cases needle with
        | nil => exact absurd rfl hne
        | cons x needle =>
          rw [List.nil_append, List.cons_append, List.cons.injEq] at hb
          exact absurd (by simp [hb.1]) hc
      | cons x b =>
        rw [List.cons_append, List.cons.injEq] at hb
        exact .inr ⟨b, rest, by simp [hb.2]⟩
  . rintro (h | h)
    . exact h.trans (List.prefix_append s _).isInfix
    . exact h.trans ((List.suffix_cons c t).trans (List.suffix_append s _)).isInfix

omit [DecidableEq α] in
theorem infix_append_cons {a b s t : List α} {c : α} (ha : c ∉ a) (hs : c ∉ s)
    (h : a ++ c :: b <:+: s ++ c :: t) : (a <:+ s ∧ b <+: t) ∨ a ++ c :: b <:+: t := by
  obtain ⟨front, rest, heq⟩ := h
  have hsplit : (front ++ a) ++ c :: (b ++ rest) = s ++ c :: t := by simpa using heq
  rcases List.append_eq_append_iff.mp hsplit with ⟨d, hd, hrest⟩ | ⟨d, hd, hrest⟩
  . cases d with
    | nil =>
      rw [List.nil_append, List.cons.injEq] at hrest
      left
      exact ⟨⟨front, by simpa using hd.symm⟩, ⟨rest, hrest.2⟩⟩
    | cons x d =>
      rw [List.cons_append, List.cons.injEq] at hrest
      exact absurd (by simp [hd, hrest.1]) hs
  . cases d with
    | nil =>
      rw [List.nil_append, List.cons.injEq] at hrest
      left
      exact ⟨⟨front, by simpa using hd⟩, ⟨rest, hrest.2.symm⟩⟩
    | cons x d =>
      -- The first `c` is in front of the occurrence.
      rw [List.cons_append, List.cons.injEq] at hrest
      obtain ⟨rfl, ht⟩ := hrest
      right
      rcases List.append_eq_append_iff.mp hd with ⟨e, -, hae⟩ | ⟨e, -, hde⟩
      . exact absurd (by simp [hae]) ha
      . cases e with
        | nil => exact absurd (by rw [← List.nil_append a, ← hde]; simp) ha
        | cons y e =>
          rw [List.cons_append, List.cons.injEq] at hde
          exact ⟨e, rest, by simp [ht, hde.2]⟩

section Split

variable {sep : α}

theorem sublist_of_mem_splitOn {s l : List α} (h : l ∈ s.splitOn sep) : l.Sublist s := by
  induction s generalizing l with
  | nil =>
    simp only [List.splitOn_nil, List.mem_singleton] at h
    simp [h]
  | cons c s ih =>
    rw [List.splitOn_cons_eq_if_modifyHead] at h
    split at h
    . rcases List.mem_cons.mp h with rfl | h
      . simp
      . exact (ih h).cons c
    . cases hs : s.splitOn sep with
      | nil => exact absurd hs (List.splitOn_ne_nil _ _)
      | cons piece pieces =>
        rw [hs] at h ih
        rcases List.mem_cons.mp h with rfl | h
        . exact (ih List.mem_cons_self).cons_cons c
        . exact (ih (List.mem_cons_of_mem _ h)).cons c

theorem not_mem_of_mem_splitOn {s l : List α} (h : l ∈ s.splitOn sep) : sep ∉ l := by
  induction s generalizing l with
  | nil =>
    simp only [List.splitOn_nil, List.mem_singleton] at h
    simp [h]
  | cons c s ih =>
    rw [List.splitOn_cons_eq_if_modifyHead] at h
    split at h
    . rcases List.mem_cons.mp h with rfl | h
      . simp
      . exact ih h
    . next hc =>
      cases hs : s.splitOn sep with
      | nil => exact absurd hs (List.splitOn_ne_nil _ _)
      | cons piece pieces =>
        rw [hs] at h ih
        rcases List.mem_cons.mp h with rfl | h
        . rw [List.mem_cons, not_or]
          exact ⟨fun heq => hc (by simp [heq]), ih List.mem_cons_self⟩
        . exact ih (List.mem_cons_of_mem _ h)

theorem splitOn_intercalate_iff {pieces : List (List α)} (hne : pieces ≠ [])
    : ([sep].intercalate pieces).splitOn sep = pieces ↔ ∀ piece ∈ pieces, sep ∉ piece := by
  constructor
  . intro h piece hpiece
    rw [← h] at hpiece
    exact not_mem_of_mem_splitOn hpiece
  . exact fun h => List.splitOn_intercalate sep h hne

omit [DecidableEq α] in
theorem splitOnP_map {β : Type} (f : α → β) (p : β → Bool) (s : List α)
    : (s.map f).splitOnP p = (s.splitOnP (p ∘ f)).map (List.map f) := by
  induction s with
  | nil => rfl
  | cons c s ih =>
    rw [List.map_cons, List.splitOnP_cons_eq_if_modifyHead, List.splitOnP_cons_eq_if_modifyHead, ih]
    dsimp only [Function.comp_apply]
    split
    . rfl
    . cases s.splitOnP (p ∘ f) <;> rfl

end Split

section Lines

variable (sep : α)

def splitInclusive : List α → List (List α)
  | [] => []
  | c :: s =>
    if c = sep then
      [c] :: splitInclusive s
    else
      match splitInclusive s with
      | [] => [[c]]
      | line :: lines => (c :: line) :: lines

theorem flatten_splitInclusive (s : List α) : (splitInclusive sep s).flatten = s := by
  induction s with
  | nil => rfl
  | cons c s ih =>
    unfold splitInclusive
    split
    . rw [List.flatten_cons, ih]
      rfl
    . split
      . next h =>
        rw [h] at ih
        rw [← ih]
        rfl
      . next h =>
        rw [h] at ih
        rw [← ih]
        rfl

theorem splitInclusive_eq_nil {s : List α} : splitInclusive sep s = [] ↔ s = [] := by
  constructor
  . intro h
    rw [← flatten_splitInclusive sep s, h]
    rfl
  . rintro rfl
    rfl

theorem mem_splitInclusive {s piece : List α} (h : piece ∈ splitInclusive sep s)
    : ∃ line, sep ∉ line ∧ (piece = line ∨ piece = line ++ [sep]) := by
  induction s generalizing piece with
  | nil => cases h
  | cons c s ih =>
    unfold splitInclusive at h
    split at h
    . next hc =>
      rcases List.mem_cons.mp h with rfl | h
      . exact ⟨[], by simp, .inr (by simp [hc])⟩
      . exact ih h
    . next hc =>
      cases hs : splitInclusive sep s with
      | nil =>
        rw [hs] at h
        rw [List.mem_singleton.mp h]
        exact ⟨[c], by simpa using Ne.symm hc, .inl rfl⟩
      | cons first rest =>
        rw [hs] at h ih
        rcases List.mem_cons.mp h with rfl | h
        . obtain ⟨line, hline, hfirst⟩ := ih List.mem_cons_self
          refine ⟨c :: line, by simp [hline, Ne.symm hc], ?_⟩
          rcases hfirst with rfl | rfl
          . exact .inl rfl
          . exact .inr rfl
        . exact ih (List.mem_cons_of_mem _ h)

theorem splitInclusive_append (s t : List α)
    : splitInclusive sep (s ++ sep :: t)
        =
      splitInclusive sep (s ++ [sep]) ++ splitInclusive sep t := by
  induction s with
  | nil => simp [splitInclusive]
  | cons c s ih =>
    simp only [List.cons_append, splitInclusive]
    split
    . rw [ih, List.cons_append]
    . rw [ih]
      have hne : splitInclusive sep (s ++ [sep]) ≠ [] := by simp [splitInclusive_eq_nil]
      cases hs : splitInclusive sep (s ++ [sep]) with
      | nil => exact absurd hs hne
      | cons line lines => rfl

omit [DecidableEq α] in
theorem exists_unterminated (s : List α)
    : ∃ front rest, s = front ++ rest ∧ sep ∉ rest ∧ (front = [] ∨ ∃ t, front = t ++ [sep]) := by
  induction s using List.reverseRecOn with
  | nil => exact ⟨[], [], rfl, by simp, .inl rfl⟩
  | append_singleton s c ih =>
    by_cases hc : c = sep
    . subst hc
      exact ⟨s ++ [c], [], by simp, by simp, .inr ⟨s, rfl⟩⟩
    . obtain ⟨front, rest, rfl, hrest, hfront⟩ := ih
      refine ⟨front, rest ++ [c], by simp, ?_, hfront⟩
      simp [hrest, Ne.symm hc]

theorem splitInclusive_of_not_mem {s : List α} (h : sep ∉ s) (hne : s ≠ [])
    : splitInclusive sep s = [s] := by
  induction s with
  | nil => exact absurd rfl hne
  | cons c s ih =>
    rw [List.mem_cons, not_or] at h
    rw [splitInclusive, if_neg (Ne.symm h.1)]
    cases s with
    | nil => rfl
    | cons d s => rw [ih h.2 (by simp)]

theorem splitInclusive_line {s : List α} (h : sep ∉ s)
    : splitInclusive sep (s ++ [sep]) = [s ++ [sep]] := by
  induction s with
  | nil => simp [splitInclusive]
  | cons c s ih =>
    rw [List.mem_cons, not_or] at h
    rw [List.cons_append, splitInclusive, if_neg (Ne.symm h.1), ih h.2]

end Lines

end Search
