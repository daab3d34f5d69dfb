import PqCas.Api.Seed
import PqCas.Api.Tests

/-!
The seeded catalog (`routes/catalog.rs`): the algorithms, and the lab endpoints, which the API can add to and
edit between two runs of the seed.
-/

namespace PqCas

namespace api

open seed

abbrev AlgorithmRow :=
  Keyed.Row Int AlgorithmSeed

abbrev EndpointRow :=
  Keyed.Row Uuid EndpointSeed

structure Collation where
  le : String → String → Bool
  total : ∀ a b, (le a b || le b a) = true
  trans : ∀ a b c, le a b = true → le b c = true → le a c = true
  antisymm : ∀ a b, le a b = true → le b a = true → a = b

/--
`ORDER BY kind, sort_order, name`.
-/
def Collation.leAlgorithm (c : Collation) (a b : AlgorithmSeed) : Bool :=
  if a.kind ≠ b.kind then
    c.le a.kind b.kind
  else if a.sortOrder ≠ b.sortOrder then
    a.sortOrder ≤ b.sortOrder
  else
    c.le a.name b.name

structure AlgorithmQuery where
  kind : Option String := none
  includeDisabled : Bool := true

structure NewEndpoint where
  slug : String
  label : String
  labelZh : String
  host : String
  port : Int
  notes : Option String

/--
The columns of the row after the statement. The `DO UPDATE` leaves `enabled` alone, and its default is true.
-/
def NewEndpoint.columns (body : NewEndpoint) (old : Option EndpointSeed) : EndpointSeed :=
  {
    slug := body.slug
    label := body.label
    labelZh := body.labelZh
    host := body.host
    port := body.port
    notes := body.notes
    enabled := (old.map EndpointSeed.enabled).getD true
  }

variable {ids : Ids}

def AlgorithmQuery.selects (query : AlgorithmQuery) (row : AlgorithmRow) : Bool :=
  (query.kind = none ∨ query.kind = some row.columns.kind) ∧ (query.includeDisabled ∨ row.columns.enabled)

def AlgorithmQuery.check (query : AlgorithmQuery) : Except ApiError Unit :=
  match query.kind with
  | none => .ok ()
  | some kind =>
    if kind ≠ "kem_group" ∧ kind ≠ "sig_alg" then
      .error (.badRequest s!"unknown algorithm kind {kind}")
    else
      .ok ()

def listAlgorithms (c : Collation) (failure : Option Err) (query : AlgorithmQuery) (db : Tables ids)
    : Except ApiError (List AlgorithmRow) := do
  query.check
  match failure with
  | some err => .error (.database err)
  | none =>
    .ok ((db.algorithms.rows.filter query.selects).mergeSort (fun a b => c.leAlgorithm a.columns b.columns))

def algorithmsOf (db : Tables ids) : List Algorithm :=
  db.algorithms.rows.map (fun row => ⟨row.columns.kind, row.columns.name⟩)

def listEndpoints (c : Collation) (failure : Option Err) (db : Tables ids) : Except ApiError (List EndpointRow) :=
  match failure with
  | some err => .error (.database err)
  | none => .ok (db.endpoints.rows.mergeSort (fun a b => c.le a.columns.slug b.columns.slug))

def createEndpoint (failure : Option Err) (body : NewEndpoint) (db : Tables ids)
    : Except ApiError EndpointRow × Tables ids :=
  if Text.trim body.slug = "" then
    (.error (.badRequest "slug is required"), db)
  else if ¬ (1 ≤ body.port ∧ body.port ≤ 65535) then
    (.error (.badRequest "port must be 1-65535"), db)
  else
    match failure with
    | some err => (.error (.database err), db)
    | none =>
      let db := db.put (.endpoint (body.columns (db.endpoints.columns? body.slug)))
      match db.endpoints.rows.find? (fun row => row.columns.slug = body.slug) with
      | some row => (.ok row, db)
      | none => (.error .rowNotFound, db)

namespace catalog

inductive Call where
  | seed (files : Files)
  | interrupted (files : Files) (n : Nat)
  | createEndpoint (failure : Option Err) (body : NewEndpoint)

def Call.exec (db : Tables ids) (call : Call) : Tables ids :=
  match call with
  | .seed files => ((seed.run files).eval db).2
  | .interrupted files n => stopped files n db
  | .createEndpoint failure body => (api.createEndpoint failure body db).2

def runCalls (db : Tables ids) (calls : List Call) : Tables ids :=
  calls.foldl Call.exec db

def Call.seeded (call : Call) : List EndpointSeed :=
  match call with
  | .seed files | .interrupted files _ => held files.endpoints
  | .createEndpoint _ _ => []

end catalog

end api

namespace seed

variable {ids : Ids}

def Entry.Valid (entry : Entry) : Prop :=
  match entry with
  | .algorithm alg => alg.kind = "kem_group" ∨ alg.kind = "sig_alg"
  | .endpoint e => 1 ≤ e.port ∧ e.port ≤ 65535
  | .pack _ => True

structure Tables.Valid (db : Tables ids) : Prop where
  kinds : ∀ row ∈ db.algorithms.rows, row.columns.kind = "kem_group" ∨ row.columns.kind = "sig_alg"
  ports : ∀ row ∈ db.endpoints.rows, 1 ≤ row.columns.port ∧ row.columns.port ≤ 65535

/--
No row went away, none changed its id or its key, and new rows come last. An endpoint is as enabled as it was, or
as one of the `seeded` ones says.
-/
structure Tables.Later (seeded : List EndpointSeed) (db db' : Tables ids) : Prop where
  algorithms : db.algorithms.places <+: db'.algorithms.places
  endpoints : db.endpoints.places <+: db'.endpoints.places
  packs : db.packs.places <+: db'.packs.places
  enabled : ∀ row ∈ db.endpoints.rows, ∃ row' ∈ db'.endpoints.rows, row'.id = row.id
    ∧ row'.columns.slug = row.columns.slug
    ∧ (row'.columns.enabled = row.columns.enabled
      ∨ ∃ e ∈ seeded, e.slug = row.columns.slug ∧ e.enabled = row'.columns.enabled)
  valid : db.Valid → db'.Valid

section Later

variable {seeded seeded' : List EndpointSeed} {db db' db'' : Tables ids} {entry : Entry}

theorem Tables.Later.refl (seeded : List EndpointSeed) (db : Tables ids) : db.Later seeded db := by
  constructor
  case algorithms => apply List.prefix_refl
  case endpoints => apply List.prefix_refl
  case packs => apply List.prefix_refl
  case enabled =>
    intro row hrow
    exists row
    simp [hrow]
  case valid =>
    intro h
    apply h

theorem Tables.Later.trans (h : db.Later seeded db') (h' : db'.Later seeded db'') : db.Later seeded db'' := by
  constructor
  case algorithms => apply h.algorithms.trans h'.algorithms
  case endpoints => apply h.endpoints.trans h'.endpoints
  case packs => apply h.packs.trans h'.packs
  case enabled =>
    intro row hrow
    obtain ⟨row', hrow', hid, hslug, henabled⟩ := h.enabled row hrow
    obtain ⟨row'', hrow'', hid', hslug', henabled'⟩ := h'.enabled row' hrow'
    exists row''
    rw [hid', hid, hslug', hslug]
    rw [hslug] at henabled'
    simp only [hrow'', true_and]
    rcases henabled' with hsame | hseeded
    . rw [hsame]
      apply henabled
    . apply Or.inr hseeded
  case valid =>
    intro hvalid
    apply h'.valid
    apply h.valid hvalid

theorem Tables.Later.mono (h : db.Later seeded db') (hsub : seeded ⊆ seeded') : db.Later seeded' db' := by
  constructor
  case algorithms => apply h.algorithms
  case endpoints => apply h.endpoints
  case packs => apply h.packs
  case enabled =>
    intro row hrow
    obtain ⟨row', hrow', hid, hslug, henabled⟩ := h.enabled row hrow
    exists row'
    simp only [hrow', hid, hslug, true_and]
    apply henabled.imp_right
    rintro ⟨e, he, hsame⟩
    exists e
    simp only [hsub he, hsame, and_self]
  case valid => apply h.valid

theorem Tables.valid_put (h : db.Valid) (hentry : entry.Valid) : (db.put entry).Valid := by
  cases entry with
  | algorithm alg =>
    constructor
    case kinds =>
      intro row hrow
      rcases Keyed.Rows.mem_upsert hrow with heq | hmem
      . rw [heq]
        apply hentry
      . apply h.kinds row hmem
    case ports => apply h.ports
  | endpoint e =>
    constructor
    case kinds => apply h.kinds
    case ports =>
      intro row hrow
      rcases Keyed.Rows.mem_upsert hrow with heq | hmem
      . rw [heq]
        apply hentry
      . apply h.ports row hmem
  | pack p =>
    constructor
    case kinds => apply h.kinds
    case ports => apply h.ports

def Entry.Leaves (seeded : List EndpointSeed) (db : Tables ids) (entry : Entry) : Prop :=
  ∀ e, entry = .endpoint e →
    e ∈ seeded ∨ ∀ row ∈ db.endpoints.rows, row.columns.slug = e.slug → e.enabled = row.columns.enabled

theorem Tables.enabled_put (h : entry.Leaves seeded db) {row : Keyed.Row Uuid EndpointSeed}
    (hrow : row ∈ db.endpoints.rows)
    : ∃ row' ∈ (db.put entry).endpoints.rows, row'.id = row.id ∧ row'.columns.slug = row.columns.slug
        ∧ (row'.columns.enabled = row.columns.enabled
          ∨ ∃ e ∈ seeded, e.slug = row.columns.slug ∧ e.enabled = row'.columns.enabled) := by
  cases entry with
  | algorithm | pack =>
    exists row
    simp only [true_or, and_true]
    exact hrow
  | endpoint e =>
    have hupsert : (db.put (.endpoint e)).endpoints = db.endpoints.upsert e := rfl
    rw [hupsert]
    by_cases hkey : ∃ old ∈ db.endpoints.rows, old.columns.slug = e.slug
    . rw [Keyed.Rows.rows_upsert_of_mem hkey]
      by_cases hslug : row.columns.slug = e.slug
      . exists ⟨row.id, e⟩
        constructor
        . apply Table.mem_updateWhere.mpr
          left
          exists row
          simp [hrow, hslug]
        . simp only [hslug, true_and]
          rcases h e rfl with hseeded | hsame
          . right
            exists e
          . left
            apply hsame row hrow hslug
      . exists row
        constructor
        . apply Table.mem_updateWhere.mpr
          right
          simp [hrow, hslug]
        . simp
    . rw [Keyed.Rows.rows_upsert_of_not_mem hkey]
      exists row
      simp [hrow]

theorem Tables.later_put (hentry : entry.Valid) (h : entry.Leaves seeded db) : db.Later seeded (db.put entry) := by
  constructor
  case algorithms =>
    cases entry with
    | algorithm alg => apply Keyed.Rows.prefix_places_upsert
    | endpoint | pack => apply List.prefix_refl
  case endpoints =>
    cases entry with
    | endpoint e => apply Keyed.Rows.prefix_places_upsert
    | algorithm | pack => apply List.prefix_refl
  case packs =>
    cases entry with
    | pack p => apply Keyed.Rows.prefix_places_upsert
    | algorithm | endpoint => apply List.prefix_refl
  case enabled =>
    intro row hrow
    apply Tables.enabled_put h hrow
  case valid =>
    intro hvalid
    apply Tables.valid_put hvalid hentry

end Later

section Writes

variable {α β : Type} {seeded : List EndpointSeed} {files : Files}

def SeedM.Extends (seeded : List EndpointSeed) (m : SeedM ids α) : Prop :=
  ∀ db : Tables ids, db.Later seeded (m.eval db).2

theorem SeedM.Extends.liftExcept (r : Except Err α) : SeedM.Extends seeded (liftExcept r : SeedM ids α) := by
  intro db
  cases r with
  | error err => apply Tables.Later.refl
  | ok a => apply Tables.Later.refl

theorem SeedM.Extends.bind {m : SeedM ids α} {f : α → SeedM ids β} (hm : m.Extends seeded)
    (hf : ∀ a db db', m.eval db = (.ok a, db') → (f a).Extends seeded) : (m >>= f).Extends seeded := by
  intro db
  have hfirst := hm db
  rw [SeedM.eval_bind]
  split
  . next a db' heval =>
    rw [heval] at hfirst
    apply hfirst.trans
    apply hf a db db' heval
  . next err db' heval =>
    rw [heval] at hfirst
    apply hfirst

theorem SeedM.Extends.perform {s : Statement} (h : ∀ e, s = .endpoint e → e ∈ seeded)
    : SeedM.Extends seeded (s.perform : SeedM ids Unit) := by
  intro db
  rw [eval_perform]
  cases hentry : s.entry with
  | error err => apply Tables.Later.refl
  | ok entry =>
    apply Tables.later_put
    . rcases entry_cases hentry with ⟨alg, rfl, rfl⟩ | ⟨e, rfl, rfl⟩ | ⟨p, pack, -, -, rfl⟩
      . unfold Statement.entry at hentry
        dsimp only at hentry
        split at hentry
        . assumption
        . cases hentry
      . unfold Statement.entry at hentry
        dsimp only at hentry
        split at hentry
        . assumption
        . cases hentry
      . trivial
    . intro e he
      left
      rcases entry_cases hentry with ⟨alg, rfl, rfl⟩ | ⟨e', rfl, rfl⟩ | ⟨p, pack, -, -, rfl⟩
      . cases he
      . cases he
        apply h e rfl
      . cases he

theorem SeedM.Extends.forM {as : List α} {g : α → SeedM ids Unit} (h : ∀ a ∈ as, (g a).Extends seeded)
    : SeedM.Extends seeded (as.forM g) := by
  induction as with
  | nil =>
    intro db
    apply Tables.Later.refl
  | cons a as ih =>
    have hcons : (a :: as).forM g = (g a >>= fun _ => as.forM g) := rfl
    rw [hcons]
    apply SeedM.Extends.bind
    . apply h
      simp
    . intro _ _ _ _
      apply ih
      intro b hb
      apply h
      simp [hb]

theorem extends_run (files : Files) : SeedM.Extends (held files.endpoints) (run files : SeedM ids Unit) := by
  unfold run
  apply SeedM.Extends.bind (SeedM.Extends.liftExcept _)
  intro algorithms _ _ _
  apply SeedM.Extends.bind
  . apply SeedM.Extends.forM
    intro alg _
    apply SeedM.Extends.perform (s := .algorithm alg)
    intro e he
    cases he
  intro _ _ _ _
  apply SeedM.Extends.bind (SeedM.Extends.liftExcept _)
  intro endpoints _ _ hendpoints
  apply SeedM.Extends.bind
  . apply SeedM.Extends.forM
    intro endpoint hmem
    apply SeedM.Extends.perform (s := .endpoint endpoint)
    intro e he
    cases he
    rw [SeedM.of_eval_liftExcept hendpoints]
    apply hmem
  intro _ _ _ _
  apply SeedM.Extends.bind (SeedM.Extends.liftExcept _)
  intro packs _ _ _
  apply SeedM.Extends.forM
  intro pack _
  apply SeedM.Extends.perform (s := .pack pack)
  intro e he
  cases he

theorem later_stopped (files : Files) (n : Nat) (db : Tables ids)
    : db.Later (held files.endpoints) (stopped files n db) := by
  unfold stopped
  revert db
  apply SeedM.Extends.forM
  intro s hs
  apply SeedM.Extends.perform
  rintro e rfl
  have hmem := List.mem_of_mem_take hs
  simpa [statements] using hmem

end Writes

end seed

namespace api

open seed

section Listing

variable {ids : Ids} {c : Collation} {failure : Option Err} {query : AlgorithmQuery} {db db' : Tables ids}
  {rows : List AlgorithmRow} {seeded : List EndpointSeed} {row : AlgorithmRow}

theorem mem_listAlgorithms (h : listAlgorithms c failure query db = .ok rows)
    : row ∈ rows ↔ row ∈ db.algorithms.rows ∧ query.selects row = true := by
  unfold listAlgorithms at h
  cases hcheck : query.check with
  | error err =>
    rw [hcheck] at h
    cases h
  | ok _ =>
    rw [hcheck] at h
    cases failure with
    | some err => cases h
    | none =>
      cases h
      rw [List.mem_mergeSort, List.mem_filter]

theorem mem_algorithmsOf (h : listAlgorithms c failure query db = .ok rows) (hlater : db.Later seeded db')
    (hrow : row ∈ rows) : ⟨row.columns.kind, row.columns.name⟩ ∈ algorithmsOf db' := by
  have hplace : (row.id, row.columns.key) ∈ db.algorithms.places :=
    List.mem_map_of_mem ((mem_listAlgorithms h).mp hrow).1
  obtain ⟨row', hrow', hkey⟩ := Keyed.Rows.exists_of_mem_places (hlater.algorithms.subset hplace)
  apply List.mem_map.mpr
  exists row'
  constructor
  . apply hrow'
  . unfold AlgorithmSeed.key at hkey
    dsimp only at hkey
    rw [Prod.mk.injEq] at hkey
    rw [hkey.1, hkey.2]

end Listing

namespace catalog

variable {ids : Ids}

theorem later_createEndpoint (failure : Option Err) (body : NewEndpoint) (db : Tables ids)
    : db.Later [] (createEndpoint failure body db).2 := by
  unfold createEndpoint
  split
  . apply Tables.Later.refl
  split
  . apply Tables.Later.refl
  next hport =>
  rw [Decidable.not_not] at hport
  split
  . apply Tables.Later.refl
  have hput : db.Later [] (db.put (.endpoint (body.columns (db.endpoints.columns? body.slug)))) := by
    apply Tables.later_put
    . exact hport
    . rintro e heq
      cases heq
      right
      intro row hrow hslug
      -- The statement does not set `enabled` where there is a row already.
      have hold := Keyed.Rows.columns?_of_mem hrow
      rw [hslug] at hold
      unfold NewEndpoint.columns at hold ⊢
      dsimp only at hold ⊢
      rw [hold]
      rfl
  dsimp only
  split
  . apply hput
  . apply hput

theorem later_exec (db : Tables ids) (call : Call) : db.Later call.seeded (call.exec db) := by
  cases call with
  | seed files => exact extends_run files db
  | interrupted files n => apply later_stopped
  | createEndpoint failure body => apply later_createEndpoint

/--
Whatever runs of the seed and requests write the catalog, and wherever they fail or are cut off: no algorithm, endpoint
or pack goes away or changes its id, the tables keep their constraints, and only the seed switches an endpoint on
or off.
-/
theorem later_runCalls (db : Tables ids) (calls : List Call)
    : db.Later (calls.flatMap Call.seeded) (runCalls db calls) := by
  induction calls generalizing db with
  | nil => apply Tables.Later.refl
  | cons call calls ih =>
    have hcall : db.Later ((call :: calls).flatMap Call.seeded) (call.exec db) := by
      apply (later_exec db call).mono
      simp
    have hcalls : (call.exec db).Later ((call :: calls).flatMap Call.seeded) (runCalls (call.exec db) calls) := by
      apply (ih (call.exec db)).mono
      simp
    apply hcall.trans hcalls

end catalog

end api

end PqCas
