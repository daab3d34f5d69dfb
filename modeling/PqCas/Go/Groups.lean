import PqCas.Domain.Jobs
import PqCas.Lib.Scan

/-!
The groups that the Go adapter advertises and the ones it can probe (`adapters/go/main.go`).
-/

namespace PqCas

namespace go

inductive CurveID where
  | x25519
  | curveP256
  | curveP384
  | curveP521
  | x25519MLKEM768
  deriving DecidableEq, Repr

/--
The catalog spelling and the common aliases of the curves that Go implements.
-/
def groupByName : List (String × CurveID) :=
  [
    ("x25519", .x25519),
    ("X25519", .x25519),
    ("P-256", .curveP256),
    ("secp256r1", .curveP256),
    ("P-384", .curveP384),
    ("secp384r1", .curveP384),
    ("P-521", .curveP521),
    ("secp521r1", .curveP521),
    ("X25519MLKEM768", .x25519MLKEM768),
    ("x25519MLKEM768", .x25519MLKEM768)
  ]

def supportedGroups.collect (order : List (String × CurveID)) (seen : List CurveID) : List String :=
  match order with
  | [] => []
  | (name, id) :: order =>
    if id ∈ seen then
      collect order seen
    else
      name :: collect order (id :: seen)

/--
The names in the capabilities. A loop over a Go map meets its entries in any order.
-/
def supportedGroups (order : List (String × CurveID)) : List String :=
  (supportedGroups.collect order []).mergeSort (fun a b => a ≤ b)

def accepts (name : String) : Bool :=
  (groupByName.lookup name).isSome

def firstAlias (order : List (String × CurveID)) (id : CurveID) : Option String :=
  (order.find? (fun entry => entry.2 = id)).map Prod.fst

section Order

variable {order : List (String × CurveID)} {id : CurveID} {name : String}

theorem firstAlias_cons (entry : String × CurveID) (order : List (String × CurveID)) (id : CurveID)
    : firstAlias (entry :: order) id = if entry.2 = id then some entry.1 else firstAlias order id := by
  unfold firstAlias
  rw [List.find?_cons]
  by_cases h : entry.2 = id <;> simp [h]

theorem supportedGroups.mem_collect {seen : List CurveID}
    : name ∈ supportedGroups.collect order seen ↔ ∃ id, id ∉ seen ∧ firstAlias order id = some name := by
  induction order generalizing seen with
  | nil => simp [supportedGroups.collect, firstAlias]
  | cons entry order ih =>
    obtain ⟨first, curve⟩ := entry
    unfold supportedGroups.collect
    split
    . next hseen =>
      rw [ih]
      apply exists_congr
      intro id
      rw [firstAlias_cons]
      by_cases hid : curve = id
      . subst hid
        simp [hseen]
      . simp [hid]
    . next hseen =>
      rw [List.mem_cons, ih]
      constructor
      . rintro (rfl | ⟨id, hid, hname⟩)
        . exact ⟨curve, hseen, by simp [firstAlias_cons]⟩
        . rw [List.mem_cons, not_or] at hid
          refine ⟨id, hid.2, ?_⟩
          rw [firstAlias_cons, if_neg (Ne.symm hid.1), hname]
      . rintro ⟨id, hid, hname⟩
        rw [firstAlias_cons] at hname
        split at hname
        . next heq =>
          cases hname
          exact .inl rfl
        . next hne =>
          refine .inr ⟨id, ?_, hname⟩
          rw [List.mem_cons, not_or]
          exact ⟨Ne.symm hne, hid⟩

theorem mem_supportedGroups
    : name ∈ supportedGroups order ↔ ∃ id, firstAlias order id = some name := by
  unfold supportedGroups
  rw [List.mem_mergeSort, supportedGroups.mem_collect]
  simp

theorem mem_of_firstAlias (h : firstAlias order id = some name) : (name, id) ∈ order := by
  unfold firstAlias at h
  obtain ⟨entry, hentry, rfl⟩ := Option.map_eq_some_iff.mp h
  have hid : entry.2 = id := by simpa using List.find?_some hentry
  rw [← hid]
  exact List.mem_of_find?_eq_some hentry

theorem exists_firstAlias (h : (name, id) ∈ order) : ∃ first, firstAlias order id = some first := by
  unfold firstAlias
  cases hfind : order.find? (fun entry => entry.2 = id) with
  | some entry => exact ⟨entry.1, rfl⟩
  | none =>
    have hnone := List.find?_eq_none.mp hfind (name, id) h
    simp at hnone

end Order

section Alike

variable {order : List (String × CurveID)} {a b n : String} {id : CurveID}

theorem accepts_iff : accepts n = true ↔ n ∈ groupByName.map Prod.fst := by
  unfold accepts
  rw [List.lookup_isSome_iff, List.mem_map]
  constructor
  . rintro ⟨p, hp, hn⟩
    exact ⟨p, hp, (eq_of_beq hn).symm⟩
  . rintro ⟨p, hp, hn⟩
    exact ⟨p, hp, by simp [hn]⟩

theorem curve_unique : ∀ p ∈ groupByName, ∀ q ∈ groupByName,
    Text.eqIgnoreAsciiCase p.1 q.1 = true → p.2 = q.2 := by
  decide

theorem nodup_names : (groupByName.map Prod.fst).Nodup := by
  decide

theorem eq_or_eq_of_curve : ∀ p ∈ groupByName, ∀ q ∈ groupByName, p.2 = q.2 → p.1 ≠ q.1 →
    ∀ r ∈ groupByName, r.2 = p.2 → r.1 = p.1 ∨ r.1 = q.1 := by
  decide

theorem idxOf_lt_of_firstAlias (hnodup : (order.map Prod.fst).Nodup) (ha : firstAlias order id = some a)
    (hb : (b, id) ∈ order) (hab : a ≠ b)
    : (order.map Prod.fst).idxOf a < (order.map Prod.fst).idxOf b := by
  induction order with
  | nil => cases hb
  | cons entry order ih =>
    rw [List.map_cons, List.nodup_cons] at hnodup
    rw [firstAlias_cons] at ha
    rw [List.map_cons, List.idxOf_cons, List.idxOf_cons]
    split at ha
    . next hid =>
      cases ha
      have hne : (entry.1 == b) = false := by simpa using hab
      simp [hne]
    . next hid =>
      have hbRest : (b, id) ∈ order := by
        rcases List.mem_cons.mp hb with rfl | hb
        . exact absurd rfl hid
        . exact hb
      have hne : ∀ {name}, (name, id) ∈ order → (entry.1 == name) = false := by
        intro name hname
        rw [beq_eq_false_iff_ne]
        intro heq
        apply hnodup.1
        rw [heq]
        exact List.mem_map_of_mem hname
      rw [hne (mem_of_firstAlias ha), hne hbRest]
      have hlt := ih hnodup.2 ha hbRest
      simp only [cond_false]
      omega

theorem firstAlias_iff (hperm : order.Perm groupByName) (hab : a ≠ b) (ha : (a, id) ∈ groupByName)
    (hb : (b, id) ∈ groupByName)
    : firstAlias order id = some a ↔ (order.map Prod.fst).idxOf a < (order.map Prod.fst).idxOf b := by
  have hnodup : (order.map Prod.fst).Nodup := ((hperm.map Prod.fst).nodup_iff).mpr nodup_names
  have haOrder := hperm.mem_iff.mpr ha
  have hbOrder := hperm.mem_iff.mpr hb
  constructor
  . exact fun hfirst => idxOf_lt_of_firstAlias hnodup hfirst hbOrder hab
  . intro hlt
    obtain ⟨first, hsome⟩ := exists_firstAlias haOrder
    have hmem := hperm.mem_iff.mp (mem_of_firstAlias hsome)
    rcases eq_or_eq_of_curve (a, id) ha (b, id) hb rfl hab (first, id) hmem rfl with heq | heq
    . dsimp only at heq
      rwa [heq] at hsome
    . dsimp only at heq
      rw [heq] at hsome
      have hgt := idxOf_lt_of_firstAlias hnodup hsome haOrder (Ne.symm hab)
      omega

theorem advertised_iff (hperm : order.Perm groupByName) (ha : (a, id) ∈ groupByName)
    (hn : Text.eqIgnoreAsciiCase a n = true)
    : advertised (supportedGroups order) n = true
        ↔
      ∃ first, firstAlias order id = some first ∧ Text.eqIgnoreAsciiCase first n = true := by
  unfold advertised
  rw [List.any_eq_true]
  constructor
  . rintro ⟨name, hname, hsame⟩
    obtain ⟨id', hid⟩ := mem_supportedGroups.mp hname
    have hmem := hperm.mem_iff.mp (mem_of_firstAlias hid)
    have hcurve : id' = id := by
      apply curve_unique _ hmem _ ha
      rw [Text.eqIgnoreAsciiCase_iff] at hsame hn ⊢
      rw [hsame, hn]
    rw [hcurve] at hid
    exact ⟨name, hid, hsame⟩
  . rintro ⟨first, hfirst, hsame⟩
    exact ⟨first, mem_supportedGroups.mpr ⟨id, hfirst⟩, hsame⟩

end Alike

def nistAliases : List (String × String) :=
  [
    ("P-256", "secp256r1"),
    ("secp256r1", "P-256"),
    ("P-384", "secp384r1"),
    ("secp384r1", "P-384"),
    ("P-521", "secp521r1"),
    ("secp521r1", "P-521")
  ]

/--
When the capabilities tell the truth about a name: it is no name of a curve in any case, or one of the
names whose aliases differ in case only, or one alias of a NIST curve, and the loop meets it before the
other one if and only if it is spelled like the alias.
-/
def Agrees (order : List (String × CurveID)) (name : String) : Prop :=
  (∀ entry ∈ groupByName, Text.eqIgnoreAsciiCase entry.1 name = false)
    ∨ name ∈ ["x25519", "X25519", "X25519MLKEM768", "x25519MLKEM768"]
    ∨ ∃ pair ∈ nistAliases, Text.eqIgnoreAsciiCase pair.1 name = true
      ∧ (name = pair.1 ↔ (order.map Prod.fst).idxOf pair.1 < (order.map Prod.fst).idxOf pair.2)

section Agreement

variable {order : List (String × CurveID)} {name : String}

theorem eq_trans {a b c : String} (h : Text.eqIgnoreAsciiCase a c = true)
    (h' : Text.eqIgnoreAsciiCase b c = true) : Text.eqIgnoreAsciiCase a b = true := by
  rw [Text.eqIgnoreAsciiCase_iff] at h h' ⊢
  rw [h, h']

theorem not_advertised (hperm : order.Perm groupByName)
    (h : ∀ entry ∈ groupByName, Text.eqIgnoreAsciiCase entry.1 name = false)
    : advertised (supportedGroups order) name = false ∧ accepts name = false := by
  constructor
  . unfold advertised
    rw [List.any_eq_false]
    intro first hfirst
    obtain ⟨id, hid⟩ := mem_supportedGroups.mp hfirst
    simp [h _ (hperm.mem_iff.mp (mem_of_firstAlias hid))]
  . rw [← Bool.not_eq_true, accepts_iff, List.mem_map]
    rintro ⟨entry, hentry, rfl⟩
    have hdiffers := h entry hentry
    rw [Text.eqIgnoreAsciiCase_iff.mpr rfl] at hdiffers
    cases hdiffers

theorem agrees_of_caseOnly (hperm : order.Perm groupByName) {a : String} {id : CurveID}
    (ha : (a, id) ∈ groupByName) (hn : Text.eqIgnoreAsciiCase a name = true)
    (hcase : id = .x25519 ∨ id = .x25519MLKEM768)
    : (advertised (supportedGroups order) name = true ↔ accepts name = true) ↔ Agrees order name := by
  have hnames : ∀ entry ∈ groupByName, entry.2 = .x25519 ∨ entry.2 = .x25519MLKEM768 →
      entry.1 ∈ ["x25519", "X25519", "X25519MLKEM768", "x25519MLKEM768"]
        ∧ ∀ other ∈ groupByName, other.2 = entry.2 → Text.eqIgnoreAsciiCase other.1 entry.1 = true := by
    decide
  have hlist : ∀ x ∈ ["x25519", "X25519", "X25519MLKEM768", "x25519MLKEM768"], x ∈ groupByName.map Prod.fst := by
    decide
  have hnist : ∀ pair ∈ nistAliases, ∃ entry ∈ groupByName, entry.1 = pair.1
      ∧ ¬ (entry.2 = .x25519 ∨ entry.2 = .x25519MLKEM768) := by
    decide
  have hadvertised : advertised (supportedGroups order) name = true := by
    rw [advertised_iff hperm ha hn]
    obtain ⟨first, hfirst⟩ := exists_firstAlias (hperm.mem_iff.mpr ha)
    have hmem := hperm.mem_iff.mp (mem_of_firstAlias hfirst)
    have hsame := (hnames (a, id) ha hcase).2 _ hmem rfl
    refine ⟨first, hfirst, ?_⟩
    rw [Text.eqIgnoreAsciiCase_iff] at hsame hn ⊢
    rw [hsame, hn]
  rw [iff_true_left hadvertised, accepts_iff]
  constructor
  . intro hkey
    obtain ⟨entry, hentry, rfl⟩ := List.mem_map.mp hkey
    have hid := curve_unique _ ha _ hentry hn
    exact .inr (.inl (hnames entry hentry (hid ▸ hcase)).1)
  . rintro (hnone | hin | ⟨pair, hpair, hsame, -⟩)
    . rw [hnone _ ha] at hn
      cases hn
    . exact hlist name hin
    . obtain ⟨entry, hentry, heq, hother⟩ := hnist pair hpair
      rw [← heq] at hsame
      have hid := curve_unique _ ha _ hentry (eq_trans hn hsame)
      exact absurd (hid ▸ hcase) hother

theorem agrees_of_nist (hperm : order.Perm groupByName) {a b : String} (hpair : (a, b) ∈ nistAliases)
    (hn : Text.eqIgnoreAsciiCase a name = true)
    : (advertised (supportedGroups order) name = true ↔ accepts name = true) ↔ Agrees order name := by
  have hcurves : ∀ pair ∈ nistAliases, ∃ entry ∈ groupByName, (pair.1, entry.2) ∈ groupByName
      ∧ (pair.2, entry.2) ∈ groupByName ∧ Text.eqIgnoreAsciiCase pair.2 pair.1 = false := by
    decide
  have hkeys : ∀ pair ∈ nistAliases, ∀ entry ∈ groupByName,
      Text.eqIgnoreAsciiCase entry.1 pair.1 = true → entry.1 = pair.1 := by
    decide
  have hlist : ∀ pair ∈ nistAliases, ∀ x ∈ ["x25519", "X25519", "X25519MLKEM768", "x25519MLKEM768"],
      Text.eqIgnoreAsciiCase pair.1 x = false := by
    decide
  have hunique : ∀ pair ∈ nistAliases, ∀ other ∈ nistAliases,
      Text.eqIgnoreAsciiCase other.1 pair.1 = true → other = pair := by
    decide
  obtain ⟨⟨_, id⟩, _, ha, hb, happart⟩ := hcurves _ hpair
  dsimp only at ha hb happart
  have hab : a ≠ b := by
    rintro rfl
    rw [Text.eqIgnoreAsciiCase_iff.mpr rfl] at happart
    cases happart
  have hadvertised : advertised (supportedGroups order) name = true
      ↔ (order.map Prod.fst).idxOf a < (order.map Prod.fst).idxOf b := by
    rw [advertised_iff hperm ha hn, ← firstAlias_iff hperm hab ha hb]
    constructor
    . rintro ⟨first, hfirst, hsame⟩
      have hmem := hperm.mem_iff.mp (mem_of_firstAlias hfirst)
      rcases eq_or_eq_of_curve _ ha _ hb rfl hab _ hmem rfl with heq | heq
      . dsimp only at heq
        rwa [heq] at hfirst
      . dsimp only at heq
        rw [heq] at hsame
        rw [eq_trans hsame hn] at happart
        cases happart
    . exact fun hfirst => ⟨a, hfirst, hn⟩
  have haccepts : accepts name = true ↔ name = a := by
    rw [accepts_iff, List.mem_map]
    constructor
    . rintro ⟨entry, hentry, rfl⟩
      apply hkeys _ hpair entry hentry
      rw [Text.eqIgnoreAsciiCase_comm]
      exact hn
    . rintro rfl
      exact ⟨_, ha, rfl⟩
  rw [hadvertised, haccepts]
  constructor
  . exact fun h => .inr (.inr ⟨_, hpair, hn, h.symm⟩)
  . rintro (hnone | hin | ⟨other, hother, hsame, h⟩)
    . rw [hnone _ ha] at hn
      cases hn
    . rw [hlist _ hpair name hin] at hn
      cases hn
    . have heq := hunique _ hpair other hother (eq_trans hsame hn)
      rw [heq] at h
      exact h.symm

/--
Whatever order the loop meets the map in, the capabilities agree with the probe on exactly these names.
-/
theorem advertised_iff_accepts_iff (hperm : order.Perm groupByName)
    : (advertised (supportedGroups order) name = true ↔ accepts name = true) ↔ Agrees order name := by
  by_cases hnone : ∀ entry ∈ groupByName, Text.eqIgnoreAsciiCase entry.1 name = false
  . obtain ⟨hadvertised, haccepts⟩ := not_advertised hperm hnone
    rw [hadvertised, haccepts]
    exact iff_of_true Iff.rfl (.inl hnone)
  . have hentries : ∀ entry ∈ groupByName, (entry.2 = .x25519 ∨ entry.2 = .x25519MLKEM768)
        ∨ ∃ pair ∈ nistAliases, pair.1 = entry.1 := by
      decide
    push Not at hnone
    obtain ⟨entry, hentry, hsame⟩ := hnone
    rw [ne_eq, Bool.not_eq_false] at hsame
    rcases hentries entry hentry with hcase | ⟨pair, hpair, heq⟩
    . exact agrees_of_caseOnly hperm hentry hsame hcase
    . rw [← heq] at hsame
      exact agrees_of_nist hperm hpair hsame

end Agreement

theorem advertised_iff_accepts_p256
    : advertised (supportedGroups groupByName) "P-256" = true ↔ accepts "P-256" = true := by
  apply (advertised_iff_accepts_iff (List.Perm.refl groupByName)).mpr
  exact .inr (.inr ⟨("P-256", "secp256r1"), by decide, by decide, by decide⟩)

/--
`secp256r1` is probed whatever happens, and advertised in one iteration order only.
-/
theorem not_advertised_secp256r1
    : accepts "secp256r1" = true
        ∧ advertised (supportedGroups groupByName) "secp256r1" = false
        ∧ groupByName.reverse.Perm groupByName
        ∧ advertised (supportedGroups groupByName.reverse) "secp256r1" = true := by
  have hentry : ("secp256r1", CurveID.curveP256) ∈ groupByName := by decide
  have hsame : Text.eqIgnoreAsciiCase "secp256r1" "secp256r1" = true := by decide
  have hperm := List.reverse_perm groupByName
  have hfirst : firstAlias groupByName .curveP256 = some "P-256" := by decide
  have hlast : firstAlias groupByName.reverse .curveP256 = some "secp256r1" := by decide
  refine ⟨by decide, ?_, hperm, ?_⟩
  . rw [← Bool.not_eq_true, advertised_iff (List.Perm.refl _) hentry hsame, hfirst]
    decide
  . rw [advertised_iff hperm hentry hsame]
    exact ⟨"secp256r1", hlast, hsame⟩

end go

end PqCas
