import PqCas.Kem.Modes

/-!
A TLS server with a preference list, as a priority run sees it: which group it picks from an offer,
under which names that group may be reported, and how the probing can end.
-/

namespace PqCas

namespace kem

inductive Curve where
  | x25519
  | x448
  | p256
  | p384
  | p521
  deriving DecidableEq, Repr

/--
The curves that the spellings of `CLASSICAL` denote.
-/
def CURVES : List (String × Curve) :=
  [
    ("x25519", .x25519),
    ("x448", .x448),
    ("secp256r1", .p256),
    ("secp384r1", .p384),
    ("secp521r1", .p521),
    ("prime256v1", .p256),
    ("prime384v1", .p384),
    ("prime521v1", .p521),
    ("p-256", .p256),
    ("p-384", .p384),
    ("p-521", .p521)
  ]

theorem map_fst_CURVES : CURVES.map Prod.fst = CLASSICAL := rfl

def curve (group : String) : Option Curve :=
  CURVES.lookup (Text.toAsciiLowercase group)

/--
Two names of one group: the same name up to ASCII case, or two spellings of one classical curve.
-/
def sameGroup (a b : String) : Bool :=
  Text.eqIgnoreAsciiCase a b || ((curve a).isSome && curve a == curve b)

theorem mem_of_lookup_isSome {α β : Type} [BEq α] [LawfulBEq α] {a : α} {l : List (α × β)}
    (h : (l.lookup a).isSome = true) : a ∈ l.map Prod.fst := by
  induction l with
  | nil => cases h
  | cons x l ih =>
    rw [List.lookup_cons] at h
    cases hx : a == x.1 with
    | true =>
      rw [eq_of_beq hx]
      simp
    | false =>
      rw [hx] at h
      simp [ih h]

theorem pqLevel_of_curve {group : String} (h : (curve group).isSome = true) : pqLevel group = none := by
  have hmem : Text.toAsciiLowercase group ∈ CLASSICAL := map_fst_CURVES ▸ mem_of_lookup_isSome h
  have hclassical : isClassical (Text.toAsciiLowercase group) = true := by
    unfold isClassical
    rw [Text.toAsciiLowercase_toAsciiLowercase]
    exact List.contains_iff_mem.mpr hmem
  unfold pqLevel
  dsimp only
  rw [if_pos hclassical]

theorem pqLevel_eq_of_sameGroup {a b : String} (h : sameGroup a b = true) : pqLevel a = pqLevel b := by
  unfold sameGroup at h
  rw [Bool.or_eq_true, Bool.and_eq_true, beq_iff_eq] at h
  rcases h with h | ⟨ha, hab⟩
  . rw [Text.eqIgnoreAsciiCase_iff] at h
    unfold pqLevel
    rw [h]
  . rw [pqLevel_of_curve ha, pqLevel_of_curve (hab ▸ ha)]

theorem misplaced_congr {a a' b b' : String} (ha : sameGroup a a' = true) (hb : sameGroup b b' = true)
    : Misplaced a b ↔ Misplaced a' b' := by
  unfold Misplaced
  rw [pqLevel_eq_of_sameGroup ha, pqLevel_eq_of_sameGroup hb]

theorem wellOrdered_congr {as bs : List String}
    (h : List.Forall₂ (fun a b => sameGroup a b = true) as bs) : WellOrdered as ↔ WellOrdered bs := by
  unfold WellOrdered
  induction h with
  | nil => simp
  | @cons a b as bs hab htail ih =>
    rw [List.pairwise_cons, List.pairwise_cons, ih]
    have hheads : (∀ x ∈ as, ¬ Misplaced a x) ↔ ∀ y ∈ bs, ¬ Misplaced b y := by
      clear ih
      induction htail with
      | nil => simp
      | cons hxy _ ih =>
        rw [List.forall_mem_cons, List.forall_mem_cons, ih, misplaced_congr hab hxy]
    rw [hheads]

def restrict (preferences offer : List String) : List String :=
  preferences.filter (fun group => offer.any (sameGroup group))

inductive Outcome where
  /-- The server picked `chosen` and the adapter reported it as `reported`. -/
  | accepted (chosen reported : String)
  /-- No offered group is acceptable to the server. -/
  | refused
  /-- The adapter could not be reached, or failed on its own. -/
  | unreachable
  deriving DecidableEq, Repr

namespace Outcome

def chosen? : Outcome → Option String
  | .accepted chosen _ => some chosen
  | _ => none

def reported? : Outcome → Option String
  | .accepted _ reported => some reported
  | _ => none

def Matches (outcome : Outcome) (response : ProbeResponse) : Prop :=
  match outcome with
  | .accepted _ reported =>
    response.handshakeSuccess = true ∧ response.negotiated.group = some reported
  | _ => response.handshakeSuccess = false

end Outcome

/--
`Sees preferences offer outcomes`: the sequences of outcomes that a run can see from a server with
these preferences when it starts with this offer. The server picks what it likes best among the
offered groups, and the adapter reports it under any of its names.
-/
inductive Sees (preferences : List String) : List String → List Outcome → Prop where
  | exhausted : Sees preferences [] []
  | refused {offer : List String} (hoffer : offer ≠ []) (hnone : restrict preferences offer = [])
    : Sees preferences offer [.refused]
  | unreachable {offer : List String} (hoffer : offer ≠ [])
    : Sees preferences offer [.unreachable]
  | unlisted {offer : List String} {chosen reported : String}
      (hchosen : (restrict preferences offer).head? = some chosen)
      (hsame : sameGroup reported chosen = true)
      (hkept : (retain offer reported).length = offer.length)
    : Sees preferences offer [.accepted chosen reported]
  | accepted {offer : List String} {chosen reported : String} {rest : List Outcome}
      (hchosen : (restrict preferences offer).head? = some chosen)
      (hsame : sameGroup reported chosen = true)
      (hshorter : (retain offer reported).length ≠ offer.length)
      (hrest : Sees preferences (retain offer reported) rest)
    : Sees preferences offer (.accepted chosen reported :: rest)

def chosen (outcomes : List Outcome) : List String :=
  outcomes.filterMap Outcome.chosen?

def reported (outcomes : List Outcome) : List String :=
  outcomes.filterMap Outcome.reported?

theorem Sees.forall₂_reported {preferences offer : List String} {outcomes : List Outcome}
    (h : Sees preferences offer outcomes)
    : List.Forall₂ (fun a b => sameGroup a b = true) (reported outcomes) (chosen outcomes) := by
  induction h with
  | exhausted => exact .nil
  | refused => exact .nil
  | unreachable => exact .nil
  | unlisted _ hsame _ => exact .cons hsame .nil
  | accepted _ hsame _ _ ih => exact .cons hsame ih

theorem Sees.evaluateOrder_eq_nil_iff {preferences offer : List String} {outcomes : List Outcome}
    (h : Sees preferences offer outcomes)
    : evaluateOrder (reported outcomes) = [] ↔ WellOrdered (chosen outcomes) := by
  rw [kem.evaluateOrder_eq_nil_iff]
  exact wellOrdered_congr h.forall₂_reported

end kem

end PqCas
