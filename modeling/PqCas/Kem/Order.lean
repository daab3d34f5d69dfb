import PqCas.Lib.Text

/-!
The judgement of a recovered preference order against PQC best practice (`evaluate_order` in
`kem.rs`).
-/

namespace PqCas

namespace kem

/--
Groups that provide no post-quantum protection, in every spelling a stack may report.
-/
def CLASSICAL : List String :=
  [
    "x25519",
    "x448",
    "secp256r1",
    "secp384r1",
    "secp521r1",
    "prime256v1",
    "prime384v1",
    "prime521v1",
    "p-256",
    "p-384",
    "p-521"
  ]

def isClassical (group : String) : Bool :=
  CLASSICAL.contains (Text.toAsciiLowercase group)

/--
Coarse security level used for the descending-order check among PQ groups.
-/
def pqLevel (group : String) : Option Nat :=
  let g := Text.toAsciiLowercase group
  if isClassical g then
    none
  else if Text.contains g "1024" || Text.contains g "mceliece460896" then
    some 5
  else if Text.contains g "768" || Text.contains g "976" then
    some 3
  else if Text.contains g "512" || Text.contains g "640" then
    some 1
  else
    some 3

structure Scan where
  findings : List String := []
  seenClassical : Bool := false
  bestPqSoFar : Option Nat := none
  deriving DecidableEq, Repr

namespace Scan

def visit (s : Scan) (group : String) : Scan :=
  match pqLevel group with
  | none => { s with seenClassical := true }
  | some level =>
    -- Two ways to be misplaced: behind a classical group, or behind a weaker post-quantum one.
    let behindClassical := s.seenClassical
    let behindWeakerPq := s.bestPqSoFar.any (fun best => level > best)
    { s with
      findings :=
        if behindClassical || behindWeakerPq then
          s.findings ++ [group]
        else
          s.findings
      bestPqSoFar := some (match s.bestPqSoFar with
        | none => level
        | some best => min best level) }

end Scan

def evaluateOrder (order : List String) : List String :=
  (order.foldl Scan.visit {}).findings

def Misplaced (a b : String) : Prop :=
  ∃ level, pqLevel b = some level ∧ ∀ best, pqLevel a = some best → best < level

def WellOrdered (order : List String) : Prop :=
  order.Pairwise (fun a b => ¬ Misplaced a b)

structure Scan.Knows (order : List String) (s : Scan) : Prop where
  seenClassical : s.seenClassical = true ↔ ∃ a ∈ order, pqLevel a = none
  attained : ∀ best, s.bestPqSoFar = some best → ∃ a ∈ order, pqLevel a = some best
  least : ∀ a ∈ order, ∀ level, pqLevel a = some level → ∃ best ≤ level, s.bestPqSoFar = some best
  findings : s.findings = [] ↔ WellOrdered order

/--
A group of a given level is misplaced behind the groups seen so far exactly when one of the two tests
of the loop succeeds.
-/
theorem Scan.Knows.behind_iff {order : List String} {s : Scan} (h : s.Knows order) {b : String}
    {level : Nat} (hb : pqLevel b = some level)
    : (s.seenClassical || s.bestPqSoFar.any (fun best => level > best)) = true
        ↔
      ∃ a ∈ order, Misplaced a b := by
  simp only [Bool.or_eq_true, h.seenClassical, Option.any_eq_true, decide_eq_true_eq]
  constructor
  . rintro (⟨a, ha, hnone⟩ | ⟨best, hbest, hlt⟩)
    . exact ⟨a, ha, level, hb, by simp [hnone]⟩
    . obtain ⟨a, ha, hlevel⟩ := h.attained best hbest
      refine ⟨a, ha, level, hb, ?_⟩
      intro x hx
      cases hlevel.symm.trans hx
      exact hlt
  . rintro ⟨a, ha, level', hb', hlower⟩
    cases hb.symm.trans hb'
    cases hlevel : pqLevel a with
    | none => exact .inl ⟨a, ha, hlevel⟩
    | some x =>
      obtain ⟨best, hle, hbest⟩ := h.least a ha x hlevel
      have := hlower x hlevel
      exact .inr ⟨best, hbest, by omega⟩

theorem wellOrdered_append_singleton {order : List String} {b : String}
    : WellOrdered (order ++ [b]) ↔ WellOrdered order ∧ ¬ ∃ a ∈ order, Misplaced a b := by
  unfold WellOrdered
  rw [List.pairwise_append]
  simp

theorem Scan.Knows.visit {order : List String} {s : Scan} (h : s.Knows order) (b : String)
    : (s.visit b).Knows (order ++ [b]) := by
  unfold Scan.visit
  cases hb : pqLevel b with
  | none =>
    constructor
    case seenClassical => simp [hb]
    case attained =>
      intro best hbest
      obtain ⟨a, ha, hlevel⟩ := h.attained best hbest
      exact ⟨a, by simp [ha], hlevel⟩
    case least =>
      intro a ha level hlevel
      rw [List.mem_append, List.mem_singleton] at ha
      rcases ha with ha | rfl
      . exact h.least a ha level hlevel
      . cases hb.symm.trans hlevel
    case findings =>
      have hnot : ¬ ∃ a ∈ order, Misplaced a b := by simp [Misplaced, hb]
      rw [wellOrdered_append_singleton]
      simp [h.findings, hnot]
  | some level =>
    constructor
    case seenClassical => simp [h.seenClassical, hb]
    case attained =>
      intro best hbest
      dsimp only at hbest
      cases hso : s.bestPqSoFar with
      | none =>
        rw [hso] at hbest
        cases hbest
        exact ⟨b, by simp, hb⟩
      | some x =>
        rw [hso] at hbest
        dsimp only at hbest
        obtain ⟨a, ha, hlevel⟩ := h.attained x hso
        by_cases hle : x ≤ level
        . rw [Nat.min_eq_left hle] at hbest
          cases hbest
          exact ⟨a, by simp [ha], hlevel⟩
        . rw [Nat.min_eq_right (by omega)] at hbest
          cases hbest
          exact ⟨b, by simp, hb⟩
    case least =>
      intro a ha x hlevel
      rw [List.mem_append, List.mem_singleton] at ha
      rcases ha with ha | rfl
      . obtain ⟨best, hle, hbest⟩ := h.least a ha x hlevel
        refine ⟨min best level, by omega, ?_⟩
        simp [hbest]
      . cases hb.symm.trans hlevel
        cases hso : s.bestPqSoFar with
        | none => exact ⟨level, Nat.le_refl _, rfl⟩
        | some best => exact ⟨min best level, by omega, rfl⟩
    case findings =>
      rw [wellOrdered_append_singleton, ← h.behind_iff hb, ← h.findings]
      dsimp only
      split
      . next hbehind => simp [hbehind]
      . next hbehind => simp [hbehind]

theorem Scan.knows_foldl (order : List String) : (order.foldl Scan.visit {}).Knows order := by
  induction order using List.reverseRecOn with
  | nil => exact ⟨by simp, by simp, by simp, by simp [WellOrdered]⟩
  | append_singleton order b ih =>
    rw [List.foldl_append, List.foldl_cons, List.foldl_nil]
    exact ih.visit b

theorem evaluateOrder_eq_nil_iff (order : List String) : evaluateOrder order = [] ↔ WellOrdered order :=
  (Scan.knows_foldl order).findings

instance (a b : String) : Decidable (Misplaced a b) :=
  match hb : pqLevel b with
  | none => isFalse (by simp [Misplaced, hb])
  | some level =>
    match ha : pqLevel a with
    | none => isTrue ⟨level, hb, by simp [ha]⟩
    | some best => decidable_of_iff (best < level) (by simp [Misplaced, ha, hb])

def misplaced (order : List String) : List String :=
  (order.zipIdx.filter (fun (b, i) => (order.take i).any (fun a => Misplaced a b))).map Prod.fst

theorem misplaced_append_singleton (order : List String) (b : String)
    : misplaced (order ++ [b])
        =
      misplaced order ++ if order.any (fun a => Misplaced a b) then [b] else [] := by
  have hfront : ∀ p ∈ order.zipIdx, ((order ++ [b]).take p.2).any (fun a => Misplaced a p.1)
      = (order.take p.2).any (fun a => Misplaced a p.1) := by
    intro p hp
    have hlt : p.2 < order.length := by simpa using List.snd_lt_of_mem_zipIdx hp
    rw [List.take_append_of_le_length (Nat.le_of_lt hlt)]
  unfold misplaced
  rw [List.zipIdx_append, List.filter_append, List.map_append, List.filter_congr hfront]
  congr 1
  simp only [List.zipIdx_cons, List.zipIdx_nil, Nat.zero_add, List.filter_cons, List.filter_nil]
  rw [List.take_left]
  split <;> rfl

theorem evaluateOrder_append_singleton (order : List String) (b : String)
    : evaluateOrder (order ++ [b])
        =
      evaluateOrder order ++ if order.any (fun a => Misplaced a b) then [b] else [] := by
  have hknows := Scan.knows_foldl order
  unfold evaluateOrder
  rw [List.foldl_append, List.foldl_cons, List.foldl_nil]
  generalize order.foldl Scan.visit {} = s at hknows
  unfold Scan.visit
  cases hb : pqLevel b with
  | none =>
    have hnot : order.any (fun a => Misplaced a b) = false := by simp [Misplaced, hb]
    simp [hnot]
  | some level =>
    have hbehind := hknows.behind_iff hb
    have hiff : (s.seenClassical || s.bestPqSoFar.any (fun best => level > best))
        = order.any (fun a => Misplaced a b) := by
      rw [Bool.eq_iff_iff, hbehind, List.any_eq_true]
      simp
    dsimp only
    rw [hiff]
    split <;> simp

/--
`evaluate_order` is its specification: it returns the misplaced groups in order, and there are none
exactly if every post-quantum group precedes every classical one and the levels do not increase.
-/
theorem evaluateOrder_spec (order : List String)
    : evaluateOrder order = misplaced order
        ∧ (evaluateOrder order = []
            ↔
          order.Pairwise (fun a b => pqLevel a = none → pqLevel b = none)
            ∧ order.Pairwise (fun a b => ∀ x y, pqLevel a = some x → pqLevel b = some y → y ≤ x)) := by
  constructor
  . induction order using List.reverseRecOn with
    | nil => rfl
    | append_singleton order b ih =>
      rw [evaluateOrder_append_singleton, misplaced_append_singleton, ih]
  . rw [evaluateOrder_eq_nil_iff, WellOrdered, ← List.pairwise_and_iff]
    apply List.Pairwise.iff
    intro a b
    cases ha : pqLevel a <;> cases hb : pqLevel b <;> simp [Misplaced, ha, hb]

end kem

end PqCas
