import Mathlib.Data.List.Nodup
import Mathlib.Logic.Function.Basic
import PqCas.Cavp.Packs
import PqCas.Cavp.Validate
import PqCas.Lib.Table

/-!
This module contains the sessions of the exercise: seeding the question packs (`seed.rs`), opening a
session on a pack and grading a submission to it, and with which answer key that happens over a run of
such calls.
-/

namespace PqCas

namespace cavp

structure PackSeed where
  slug : String
  capability : String
  parameterSet : String
  vsId : Int
  prompt : Json
  answerKey : Json
  registration : Json

/--
The row an entry stands for. The cast to `cavp_capability` refuses what is no label of that type.
-/
def PackSeed.toPack (entry : PackSeed) : Except Err Pack := do
  let capability ← Fallible.okOr
    ([Capability.keyGen, .sigGen, .sigVer].find? (fun c => c.asStr == entry.capability))
    s!"invalid input value for enum cavp_capability: \"{entry.capability}\""
  return {
    slug := entry.slug
    capability := capability
    parameterSet := entry.parameterSet
    vsId := entry.vsId
    registration := entry.registration
    prompt := entry.prompt
    answerKey := entry.answerKey
  }

/--
`gen_random_uuid()`: the ids in the order they are drawn, none of them twice.
-/
structure UuidSource where
  draw : Nat → Uuid
  injective : Function.Injective draw

structure PackRow extends Pack where
  id : Uuid

structure Snapshot where
  packId : Uuid
  capability : Capability
  parameterSet : String
  vsId : Int
  prompt : Json

structure SessionRow extends Snapshot where
  id : Uuid
  submitted : Option Json := none
  validation : Option ValidationReport := none

def PackRow.overwrite (pack : Pack) (row : PackRow) : PackRow :=
  { row with
    capability := pack.capability
    parameterSet := pack.parameterSet
    vsId := pack.vsId
    prompt := pack.prompt
    answerKey := pack.answerKey
    registration := pack.registration }

def SessionRow.record (submitted : Json) (report : ValidationReport) (row : SessionRow) : SessionRow :=
  { row with
    submitted := some submitted
    validation := some report }

structure Tables (uuids : UuidSource) where
  packs : List PackRow
  sessions : List SessionRow
  drawn : Nat
  packs_slug : (packs.map (·.slug)).Nodup
  packs_id : (packs.map (·.id)).Nodup
  sessions_id : (sessions.map (·.id)).Nodup
  packs_drawn : ∀ row ∈ packs, ∃ n < drawn, row.id = uuids.draw n
  sessions_drawn : ∀ row ∈ sessions, ∃ n < drawn, row.id = uuids.draw n
  sessions_packId : ∀ row ∈ sessions, row.packId ∈ packs.map (·.id)

namespace Tables

variable {uuids : UuidSource}

def empty : Tables uuids :=
  {
    packs := []
    sessions := []
    drawn := 0
    packs_slug := .nil
    packs_id := .nil
    sessions_id := .nil
    packs_drawn := by simp
    sessions_drawn := by simp
    sessions_packId := by simp
  }

def pack? (db : Tables uuids) (slug : String) : Option PackRow :=
  db.packs.find? (fun row => row.slug == slug)

def packById? (db : Tables uuids) (id : Uuid) : Option PackRow :=
  db.packs.find? (fun row => row.id == id)

def session? (db : Tables uuids) (id : Uuid) : Option SessionRow :=
  db.sessions.find? (fun row => row.id == id)

theorem draw_ne_of_drawn {n : Nat} {id : Uuid} (h : ∃ m < n, id = uuids.draw m) : id ≠ uuids.draw n := by
  obtain ⟨m, hm, rfl⟩ := h
  intro hdraw
  have := uuids.injective hdraw
  omega

theorem drawn_succ {n : Nat} {id : Uuid} (h : ∃ m < n, id = uuids.draw m)
    : ∃ m < n + 1, id = uuids.draw m := by
  obtain ⟨m, hm, hid⟩ := h
  exact ⟨m, by omega, hid⟩

def insertPack (db : Tables uuids) (pack : Pack) (h : ∀ row ∈ db.packs, row.slug ≠ pack.slug)
    : Tables uuids :=
  { db with
    packs := db.packs ++ [{ pack with id := uuids.draw db.drawn }]
    drawn := db.drawn + 1
    packs_slug := Table.nodup_map_concat db.packs_slug h
    packs_id := Table.nodup_map_concat db.packs_id (fun row hrow => draw_ne_of_drawn (db.packs_drawn row hrow))
    packs_drawn := by
      intro row hrow
      rcases List.mem_append.mp hrow with hrow | hrow
      . exact drawn_succ (db.packs_drawn row hrow)
      . rw [List.mem_singleton.mp hrow]
        exact ⟨db.drawn, by omega, rfl⟩
    sessions_drawn := fun row hrow => drawn_succ (db.sessions_drawn row hrow)
    sessions_packId := by
      intro row hrow
      rw [List.map_append, List.mem_append]
      exact .inl (db.sessions_packId row hrow) }

def updatePack (db : Tables uuids) (pack : Pack) : Tables uuids :=
  have hslug : (Table.updateWhere db.packs (fun row => row.slug == pack.slug) (.overwrite pack)).map (·.slug)
      = db.packs.map (·.slug) := Table.map_updateWhere (fun row : PackRow => row.slug) (fun _ => rfl)
  have hid : (Table.updateWhere db.packs (fun row => row.slug == pack.slug) (.overwrite pack)).map (·.id)
      = db.packs.map (·.id) := Table.map_updateWhere (fun row : PackRow => row.id) (fun _ => rfl)
  { db with
    packs := Table.updateWhere db.packs (fun row => row.slug == pack.slug) (.overwrite pack)
    packs_slug := by rw [hslug]; exact db.packs_slug
    packs_id := by rw [hid]; exact db.packs_id
    packs_drawn := by
      intro row hrow
      rcases Table.mem_updateWhere.mp hrow with ⟨old, hold, -, rfl⟩ | ⟨hrow, -⟩
      . exact db.packs_drawn old hold
      . exact db.packs_drawn row hrow
    sessions_packId := by rw [hid]; exact db.sessions_packId }

def upsertPack (db : Tables uuids) (pack : Pack) : Tables uuids :=
  if h : ∃ row ∈ db.packs, row.slug = pack.slug then
    db.updatePack pack
  else
    db.insertPack pack (fun row hrow hslug => h ⟨row, hrow, hslug⟩)

def insertSession (db : Tables uuids) (snapshot : Snapshot)
    (h : snapshot.packId ∈ db.packs.map (·.id)) : Tables uuids :=
  { db with
    sessions := db.sessions ++ [{ snapshot with id := uuids.draw db.drawn }]
    drawn := db.drawn + 1
    sessions_id := Table.nodup_map_concat db.sessions_id
      (fun row hrow => draw_ne_of_drawn (db.sessions_drawn row hrow))
    packs_drawn := fun row hrow => drawn_succ (db.packs_drawn row hrow)
    sessions_drawn := by
      intro row hrow
      rcases List.mem_append.mp hrow with hrow | hrow
      . exact drawn_succ (db.sessions_drawn row hrow)
      . rw [List.mem_singleton.mp hrow]
        exact ⟨db.drawn, by omega, rfl⟩
    sessions_packId := by
      intro row hrow
      rcases List.mem_append.mp hrow with hrow | hrow
      . exact db.sessions_packId row hrow
      . rw [List.mem_singleton.mp hrow]
        exact h }

/--
`UPDATE cavp_sessions SET submitted = $2, validation = $3 WHERE id = $1`.
-/
def recordValidation (db : Tables uuids) (id : Uuid) (submitted : Json) (report : ValidationReport)
    : Tables uuids :=
  have hid : (Table.updateWhere db.sessions (fun row => row.id == id) (.record submitted report)).map (·.id)
      = db.sessions.map (·.id) := Table.map_updateWhere (fun row : SessionRow => row.id) (fun _ => rfl)
  { db with
    sessions := Table.updateWhere db.sessions (fun row => row.id == id) (.record submitted report)
    sessions_id := by rw [hid]; exact db.sessions_id
    sessions_drawn := by
      intro row hrow
      rcases Table.mem_updateWhere.mp hrow with ⟨old, hold, -, rfl⟩ | ⟨hrow, -⟩
      . exact db.sessions_drawn old hold
      . exact db.sessions_drawn row hrow
    sessions_packId := by
      intro row hrow
      rcases Table.mem_updateWhere.mp hrow with ⟨old, hold, -, rfl⟩ | ⟨hrow, -⟩
      . exact db.sessions_packId old hold
      . exact db.sessions_packId row hrow }

end Tables

def ValidationReport.hasNul (report : ValidationReport) : Bool :=
  let texts := report.cases.flatMap (fun c => c.field.toList ++ c.reason.toList)
  (report.mode :: report.parameterSet :: texts).any (fun text => text.toList.contains '\x00')

/--
No `jsonb` column takes the code point 0.
-/
def refuses (submitted : Json) (report : ValidationReport) : Bool :=
  submitted.hasNul || report.hasNul

/--
`recordValidation`, unless Postgres refuses what is to be recorded.
-/
def Tables.saveValidation {uuids : UuidSource} (db : Tables uuids) (id : Uuid) (submitted : Json)
    (report : ValidationReport) : Except Err (Tables uuids) :=
  if refuses submitted report then
    .error "unsupported Unicode escape sequence"
  else
    .ok (db.recordValidation id submitted report)

def ValidateError.toText (err : ValidateError) : String :=
  match err with
  | .json err => s!"results payload is not valid JSON: {err}"
  | .unknownParameterSet name => s!"unknown parameter set {name}"
  | .modeMismatch got want => s!"results are for {got}, expected {want}"
  | .vsIdMismatch got want => s!"results are for vsId {got}, expected {want}"
  | .missingTestGroups => "results are missing the testGroups array"

structure SessionDetail where
  id : Uuid
  slug : String
  capability : Capability
  parameterSet : String
  vsId : Int
  prompt : Json
  submitted : Option Json
  validation : Option ValidationReport

section Handlers

variable {uuids : UuidSource}

/--
The packs of the seed file, up to one that the database refuses. What was written before it stays.
-/
def seedPacks (db : Tables uuids) (entries : List PackSeed) : Except Err Unit × Tables uuids :=
  match entries with
  | [] => (.ok (), db)
  | entry :: entries =>
    match entry.toPack with
    | .error err => (.error err, db)
    | .ok pack => seedPacks (db.upsertPack pack) entries

theorem mem_packs_of_pack? {db : Tables uuids} {slug : String} {row : PackRow}
    (h : db.pack? slug = some row) : row.id ∈ db.packs.map (·.id) := by
  apply List.mem_map_of_mem
  exact List.mem_of_find?_eq_some h

/--
`create_session`, with the tables it leaves when it returns. It changes nothing when it fails.
-/
def createSession (db : Tables uuids) (slug : String)
    : Except api.ApiError (SessionDetail × Tables uuids) := do
  let row ← fetchPack (db.packs.map PackRow.toPack) slug
  match h : db.pack? slug with
  | none => throw .rowNotFound
  | some packRow =>
    let snapshot : Snapshot :=
      {
        packId := packRow.id
        capability := row.capability
        parameterSet := row.parameterSet
        vsId := row.vsId
        prompt := row.prompt
      }
    let detail : SessionDetail :=
      {
        id := uuids.draw db.drawn
        slug := slug
        capability := row.capability
        parameterSet := row.parameterSet
        vsId := row.vsId
        prompt := row.prompt
        submitted := none
        validation := none
      }
    return (detail, db.insertSession snapshot (mem_packs_of_pack? h))

/--
The two reads of `validate_session`: the answer key a session is graded with.
-/
def sessionAnswerKey (db : Tables uuids) (id : Uuid) : Except api.ApiError Json := do
  let session ← Fallible.okOr (db.session? id) (.notFound "cavp session")
  let row ← Fallible.okOr (db.packById? session.packId) .rowNotFound
  return row.answerKey

/--
`validate_session`, with the tables it leaves when it returns. It changes nothing when it fails.
-/
def validateSession (crates : Crates) (db : Tables uuids) (id : Uuid) (results : String)
    : Except api.ApiError (ValidationReport × Tables uuids) := do
  let answerKeyJson ← sessionAnswerKey db id
  let answerKey ← (AnswerKey.fromValue answerKeyJson).mapError .json
  let report ← (validate crates results answerKey).mapError (fun err => .badRequest err.toText)
  let submitted := (crates.fromStr results).toOption.getD .null
  let db' ← (db.saveValidation id submitted report).mapError .database
  return (report, db')

end Handlers

inductive Call where
  | seed (entries : List PackSeed)
  | createSession (slug : String)
  | validateSession (id : Uuid) (results : String)

section Runs

variable {uuids : UuidSource} (crates : Crates)

def Call.exec (db : Tables uuids) (call : Call) : Tables uuids :=
  match call with
  | .seed entries => (seedPacks db entries).2
  | .createSession slug =>
    match cavp.createSession db slug with
    | .ok (_, db') => db'
    | .error _ => db
  | .validateSession id results =>
    match cavp.validateSession crates db id results with
    | .ok (_, db') => db'
    | .error _ => db

def runCalls (db : Tables uuids) (calls : List Call) : Tables uuids :=
  calls.foldl (Call.exec crates) db

end Runs

def landed (entries : List PackSeed) : List Pack :=
  match entries with
  | [] => []
  | entry :: entries =>
    match entry.toPack with
    | .error _ => []
    | .ok pack => pack :: landed entries

def Call.landed (call : Call) : List Pack :=
  match call with
  | .seed entries => cavp.landed entries
  | .createSession _ | .validateSession _ _ => []

def lastSeeded (calls : List Call) (slug : String) : Option Pack :=
  (calls.flatMap Call.landed).reverse.find? (fun pack => pack.slug == slug)

section Lookups

variable {uuids : UuidSource}

theorem PackRow.overwrite_of_slug {pack : Pack} {row : PackRow} (h : row.slug = pack.slug)
    : row.overwrite pack = { pack with id := row.id } := by
  unfold PackRow.overwrite
  rw [h]

theorem Tables.pack?_eq_some_iff {db : Tables uuids} {slug : String} {row : PackRow}
    : db.pack? slug = some row ↔ row ∈ db.packs ∧ row.slug = slug := by
  apply Table.find?_key_eq_some_iff
  exact List.pairwise_map.mp db.packs_slug

theorem Tables.packById?_eq_some_iff {db : Tables uuids} {id : Uuid} {row : PackRow}
    : db.packById? id = some row ↔ row ∈ db.packs ∧ row.id = id := by
  apply Table.find?_key_eq_some_iff
  exact List.pairwise_map.mp db.packs_id

theorem pack?_upsertPack (db : Tables uuids) (pack : Pack) (slug : String)
    : (db.upsertPack pack).pack? slug
        =
      if pack.slug = slug then
        some { pack with id := ((db.pack? slug).map (·.id)).getD (uuids.draw db.drawn) }
      else
        db.pack? slug := by
  unfold Tables.upsertPack
  split
  . next h =>
    have hfind : (db.updatePack pack).pack? slug
        = (db.pack? slug).map (fun row => if row.slug == pack.slug then row.overwrite pack else row) := by
      have hkey : ∀ row : PackRow, (row.overwrite pack).slug = row.slug := fun _ => rfl
      have := @Table.find?_updateWhere_key _ _ _ db.packs (fun row => row.slug == pack.slug)
        (PackRow.overwrite pack) (fun row => row.slug) hkey slug
      simpa [Tables.pack?, Tables.updatePack, beq_eq_decide] using this
    rw [hfind]
    split
    . next hslug =>
      subst hslug
      obtain ⟨row, hrow, hslug⟩ := h
      have hrow : db.pack? pack.slug = some row := Tables.pack?_eq_some_iff.mpr ⟨hrow, hslug⟩
      simp [hrow, hslug, PackRow.overwrite_of_slug hslug]
    . next hslug =>
      cases hrow : db.pack? slug with
      | none => rfl
      | some row =>
        have hne : row.slug ≠ pack.slug := by
          rw [(Tables.pack?_eq_some_iff.mp hrow).2]
          exact fun heq => hslug heq.symm
        simp [hne]
  . next h =>
    have hfind : (db.insertPack pack (fun row hrow hslug => h ⟨row, hrow, hslug⟩)).pack? slug
        = (db.pack? slug).or
            (if pack.slug = slug then some { pack with id := uuids.draw db.drawn } else none) := by
      simp [Tables.pack?, Tables.insertPack, List.find?_append, List.find?_singleton]
    rw [hfind]
    split
    . next hslug =>
      have hnone : db.pack? slug = none := by
        unfold Tables.pack?
        rw [List.find?_eq_none]
        intro row hrow hkey
        exact h ⟨row, hrow, by rw [hslug]; simpa using hkey⟩
      simp [hnone]
    . simp

def Tables.version? (db : Tables uuids) (slug : String) : Option Pack :=
  (db.pack? slug).map PackRow.toPack

def Tables.packId? (db : Tables uuids) (slug : String) : Option Uuid :=
  (db.pack? slug).map (·.id)

def Tables.snapshot? (db : Tables uuids) (id : Uuid) : Option Snapshot :=
  (db.session? id).map SessionRow.toSnapshot

theorem version?_upsertPack (db : Tables uuids) (pack : Pack) (slug : String)
    : (db.upsertPack pack).version? slug = if pack.slug = slug then some pack else db.version? slug := by
  unfold Tables.version?
  rw [pack?_upsertPack]
  split
  . rfl
  . rfl

theorem packId?_upsertPack {db : Tables uuids} {slug : String} {id : Uuid} (h : db.packId? slug = some id)
    (pack : Pack) : (db.upsertPack pack).packId? slug = some id := by
  unfold Tables.packId? at h ⊢
  rw [pack?_upsertPack, h]
  split
  . rfl
  . exact h

theorem sessions_upsertPack (db : Tables uuids) (pack : Pack)
    : (db.upsertPack pack).sessions = db.sessions := by
  unfold Tables.upsertPack
  split
  . rfl
  . rfl

theorem seedPacks_snd (db : Tables uuids) (entries : List PackSeed)
    : (seedPacks db entries).2 = (landed entries).foldl Tables.upsertPack db := by
  induction entries generalizing db with
  | nil => rfl
  | cons entry entries ih =>
    unfold seedPacks landed
    cases entry.toPack with
    | error err => rfl
    | ok pack => exact ih (db.upsertPack pack)

theorem fetchPack_map_toPack (db : Tables uuids) (slug : String)
    : fetchPack (db.packs.map PackRow.toPack) slug
        =
      Fallible.okOr (db.version? slug) (.notFound "cavp pack") := by
  unfold fetchPack Tables.version? Tables.pack?
  rw [List.find?_map]
  rfl

def PackRow.snapshot (row : PackRow) : Snapshot :=
  {
    packId := row.id
    capability := row.capability
    parameterSet := row.parameterSet
    vsId := row.vsId
    prompt := row.prompt
  }

theorem createSession_of_ok {db db' : Tables uuids} {slug : String} {detail : SessionDetail}
    (h : createSession db slug = .ok (detail, db'))
    : ∃ (row : PackRow) (hmem : row.snapshot.packId ∈ db.packs.map (·.id)),
        db.pack? slug = some row
          ∧
        detail.id = uuids.draw db.drawn
          ∧
        db' = db.insertSession row.snapshot hmem := by
  unfold createSession at h
  rw [fetchPack_map_toPack, Fallible.bind_eq_ok_iff] at h
  obtain ⟨pack, hpack, h⟩ := h
  rw [Fallible.okOr_eq_ok_iff] at hpack
  split at h
  . cases h
  . next row hrow =>
    simp only [Tables.version?, hrow, Option.map_some, Option.some.injEq] at hpack
    subst hpack
    cases h
    exact ⟨row, mem_packs_of_pack? hrow, hrow, rfl, rfl⟩

theorem saveValidation_eq_ok_iff {db db' : Tables uuids} {id : Uuid} {submitted : Json} {report : ValidationReport}
    : (db.saveValidation id submitted report).mapError api.ApiError.database = .ok db'
        ↔
      refuses submitted report = false ∧ db' = db.recordValidation id submitted report := by
  unfold Tables.saveValidation
  split
  . next hrefuses => simp [hrefuses, Except.mapError]
  . next hrefuses => simp [hrefuses, Except.mapError, eq_comm]

theorem validateSession_eq {crates : Crates} {db db' : Tables uuids} {id : Uuid} {results : String}
    {report : ValidationReport} (h : validateSession crates db id results = .ok (report, db'))
    : db' = db.recordValidation id ((crates.fromStr results).toOption.getD .null) report := by
  unfold validateSession at h
  simp only [Fallible.bind_eq_ok_iff] at h
  obtain ⟨_, -, _, -, report', -, db'', hsave, h⟩ := h
  cases h
  exact (saveValidation_eq_ok_iff.mp hsave).2

theorem session?_insertSession (db : Tables uuids) (snapshot : Snapshot)
    (hpack : snapshot.packId ∈ db.packs.map (·.id)) (id : Uuid)
    : (db.insertSession snapshot hpack).session? id
        =
      (db.session? id).or
        (if uuids.draw db.drawn = id then some { snapshot with id := uuids.draw db.drawn } else none) := by
  simp [Tables.session?, Tables.insertSession, List.find?_append, List.find?_singleton]

theorem session?_draw (db : Tables uuids) : db.session? (uuids.draw db.drawn) = none := by
  unfold Tables.session?
  rw [List.find?_eq_none]
  intro row hrow hid
  apply Tables.draw_ne_of_drawn (db.sessions_drawn row hrow)
  simpa using hid

theorem snapshot?_recordValidation (db : Tables uuids) (id : Uuid) (submitted : Json)
    (report : ValidationReport) (id' : Uuid)
    : (db.recordValidation id submitted report).snapshot? id' = db.snapshot? id' := by
  have hfind : (db.recordValidation id submitted report).session? id'
      = (db.session? id').map (fun row => if row.id == id then row.record submitted report else row) := by
    have hkey : ∀ row : SessionRow, (row.record submitted report).id = row.id := fun _ => rfl
    have := @Table.find?_updateWhere_key _ _ _ db.sessions (fun row => row.id == id)
      (SessionRow.record submitted report) (fun row => row.id) hkey id'
    simpa [Tables.session?, Tables.recordValidation, beq_eq_decide] using this
  unfold Tables.snapshot?
  rw [hfind]
  cases db.session? id' with
  | none => rfl
  | some row =>
    dsimp only [Option.map_some]
    split
    . rfl
    . rfl

end Lookups

section Steps

variable {uuids : UuidSource} (crates : Crates)

theorem packs_exec (db : Tables uuids) (call : Call)
    : (call.exec crates db).packs = (call.landed.foldl Tables.upsertPack db).packs := by
  cases call with
  | seed entries =>
    unfold Call.exec Call.landed
    dsimp only
    rw [seedPacks_snd]
  | createSession slug =>
    unfold Call.exec Call.landed
    dsimp only
    split
    . next detail db' h =>
      obtain ⟨row, hmem, -, -, rfl⟩ := createSession_of_ok h
      rfl
    . rfl
  | validateSession id results =>
    unfold Call.exec Call.landed
    dsimp only
    split
    . next report db' h =>
      rw [validateSession_eq h]
      rfl
    . rfl

theorem version?_exec (db : Tables uuids) (call : Call) (slug : String)
    : (call.exec crates db).version? slug
        =
      (call.landed.reverse.find? (fun pack => pack.slug == slug)).or (db.version? slug) := by
  rw [← Table.get_foldl_put version?_upsertPack]
  unfold Tables.version? Tables.pack?
  rw [packs_exec]

theorem packId?_exec {db : Tables uuids} {slug : String} {id : Uuid} (h : db.packId? slug = some id)
    (call : Call) : (call.exec crates db).packId? slug = some id := by
  have hfold : (call.landed.foldl Tables.upsertPack db).packId? slug = some id := by
    induction call.landed generalizing db with
    | nil => exact h
    | cons pack packs ih => exact ih (packId?_upsertPack h pack)
  unfold Tables.packId? Tables.pack? at hfold ⊢
  rw [packs_exec]
  exact hfold

theorem sessions_seedPacks (db : Tables uuids) (entries : List PackSeed)
    : (seedPacks db entries).2.sessions = db.sessions := by
  rw [seedPacks_snd]
  induction landed entries generalizing db with
  | nil => rfl
  | cons pack packs ih => rw [List.foldl_cons, ih, sessions_upsertPack]

theorem snapshot?_exec {db : Tables uuids} {id : Uuid} {snapshot : Snapshot}
    (h : db.snapshot? id = some snapshot) (call : Call)
    : (call.exec crates db).snapshot? id = some snapshot := by
  cases call with
  | seed entries =>
    unfold Tables.snapshot? Tables.session? Call.exec at *
    dsimp only
    rw [sessions_seedPacks]
    exact h
  | createSession slug =>
    unfold Call.exec
    dsimp only
    split
    . next detail db' hcreate =>
      obtain ⟨row, hmem, -, -, rfl⟩ := createSession_of_ok hcreate
      unfold Tables.snapshot? at *
      rw [session?_insertSession]
      obtain ⟨session, hsession, rfl⟩ := Option.map_eq_some_iff.mp h
      rw [hsession]
      rfl
    . exact h
  | validateSession id' results =>
    unfold Call.exec
    dsimp only
    split
    . next report db' hvalidate =>
      rw [validateSession_eq hvalidate, snapshot?_recordValidation]
      exact h
    . exact h

theorem version?_runCalls (db : Tables uuids) (calls : List Call) (slug : String)
    : (runCalls crates db calls).version? slug = (lastSeeded calls slug).or (db.version? slug) := by
  induction calls generalizing db with
  | nil => rfl
  | cons call calls ih =>
    unfold runCalls lastSeeded at *
    rw [List.foldl_cons, ih, version?_exec, List.flatMap_cons, List.reverse_append, List.find?_append,
      Option.or_assoc]

theorem snapshot?_runCalls {db : Tables uuids} {id : Uuid} {snapshot : Snapshot}
    (h : db.snapshot? id = some snapshot) (calls : List Call)
    : (runCalls crates db calls).snapshot? id = some snapshot := by
  induction calls generalizing db with
  | nil => exact h
  | cons call calls ih => exact ih (snapshot?_exec crates h call)

theorem packId?_runCalls {db : Tables uuids} {slug : String} {id : Uuid} (h : db.packId? slug = some id)
    (calls : List Call) : (runCalls crates db calls).packId? slug = some id := by
  induction calls generalizing db with
  | nil => exact h
  | cons call calls ih => exact ih (packId?_exec crates h call)

theorem runCalls_cons (db : Tables uuids) (call : Call) (calls : List Call)
    : runCalls crates db (call :: calls) = runCalls crates (call.exec crates db) calls := rfl

theorem runCalls_append (db : Tables uuids) (calls calls' : List Call)
    : runCalls crates db (calls ++ calls') = runCalls crates (runCalls crates db calls) calls' :=
  List.foldl_append

theorem exec_createSession_of_ok {db db' : Tables uuids} {slug : String} {detail : SessionDetail}
    (h : createSession db slug = .ok (detail, db')) : (Call.createSession slug).exec crates db = db' := by
  unfold Call.exec
  dsimp only
  rw [h]

theorem sessionAnswerKey_eq {db : Tables uuids} {id : Uuid} {snapshot : Snapshot} {slug : String}
    {pack : Pack} (hsnapshot : db.snapshot? id = some snapshot)
    (hid : db.packId? slug = some snapshot.packId) (hversion : db.version? slug = some pack)
    : sessionAnswerKey db id = .ok pack.answerKey := by
  obtain ⟨session, hsession, rfl⟩ := Option.map_eq_some_iff.mp hsnapshot
  obtain ⟨row, hrow, rfl⟩ := Option.map_eq_some_iff.mp hversion
  have hrowId : row.id = session.packId := by
    unfold Tables.packId? at hid
    rw [hrow] at hid
    exact Option.some.inj hid
  have hbyId : db.packById? session.packId = some row :=
    Tables.packById?_eq_some_iff.mpr ⟨(Tables.pack?_eq_some_iff.mp hrow).1, hrowId⟩
  unfold sessionAnswerKey
  rw [hsession]
  dsimp [Fallible.okOr, bind, Except.bind]
  rw [hbyId]
  rfl

end Steps

structure Validation (uuids : UuidSource) (crates : Crates) (calls : List Call) where
  before : List Call
  slug : String
  between : List Call
  id : Uuid
  results : String
  after : List Call
  calls_eq : calls
    = before ++ .createSession slug :: (between ++ .validateSession id results :: after)
  created : ∃ detail db, createSession (runCalls crates (.empty : Tables uuids) before) slug = .ok (detail, db)
    ∧ detail.id = id

namespace Validation

variable {uuids : UuidSource} {crates : Crates} {calls : List Call} (v : Validation uuids crates calls)

def atCreation : Tables uuids :=
  runCalls crates .empty v.before

def atValidation : Tables uuids :=
  runCalls crates .empty (v.before ++ .createSession v.slug :: v.between)

def UsesOwnKey : Prop :=
  ∃ pack snapshot,
    v.atCreation.version? v.slug = some pack
      ∧
    v.atValidation.snapshot? v.id = some snapshot
      ∧
    snapshot.prompt = pack.prompt
      ∧
    snapshot.vsId = pack.vsId
      ∧
    snapshot.parameterSet = pack.parameterSet
      ∧
    sessionAnswerKey v.atValidation v.id = .ok pack.answerKey

def KeyKept : Prop :=
  ∀ old new, lastSeeded v.before v.slug = some old → lastSeeded v.between v.slug = some new →
    new.answerKey = old.answerKey

theorem exists_opened
    : ∃ (row : PackRow) (hmem : row.snapshot.packId ∈ v.atCreation.packs.map (·.id)),
        v.atCreation.pack? v.slug = some row
          ∧
        v.id = uuids.draw v.atCreation.drawn
          ∧
        v.atValidation = runCalls crates (v.atCreation.insertSession row.snapshot hmem) v.between := by
  obtain ⟨detail, db, hcreate, hid⟩ := v.created
  have hexec : v.atValidation = runCalls crates db v.between := by
    unfold atValidation
    rw [runCalls_append, runCalls_cons, exec_createSession_of_ok crates hcreate]
  obtain ⟨row, hmem, hrow, hdraw, rfl⟩ := createSession_of_ok hcreate
  exact ⟨row, hmem, hrow, hid ▸ hdraw, hexec⟩

theorem version?_atCreation : v.atCreation.version? v.slug = lastSeeded v.before v.slug := by
  unfold atCreation
  rw [version?_runCalls]
  apply Option.or_none

theorem usesOwnKey_iff_keyKept : v.UsesOwnKey ↔ v.KeyKept := by
  obtain ⟨row, hmem, hrow, hid, hopened⟩ := v.exists_opened
  have hversion : v.atCreation.version? v.slug = some row.toPack := by
    unfold Tables.version?
    rw [hrow]
    rfl
  have hsnapshot : v.atValidation.snapshot? v.id = some row.snapshot := by
    rw [hopened]
    apply snapshot?_runCalls
    unfold Tables.snapshot?
    rw [session?_insertSession, hid, session?_draw]
    simp
  have hpackId : v.atValidation.packId? v.slug = some row.snapshot.packId := by
    rw [hopened]
    apply packId?_runCalls
    exact congrArg (Option.map (·.id)) hrow
  have hnow : v.atValidation.version? v.slug = some ((lastSeeded v.between v.slug).getD row.toPack) := by
    rw [hopened, version?_runCalls]
    have hinsert : (v.atCreation.insertSession row.snapshot hmem).version? v.slug = some row.toPack := hversion
    rw [hinsert, Option.or_some]
  have hkey := sessionAnswerKey_eq hsnapshot hpackId hnow
  unfold UsesOwnKey KeyKept
  rw [← v.version?_atCreation, hversion, hsnapshot, hkey]
  constructor
  . rintro ⟨pack, snapshot, hpack, -, -, -, -, hanswerKey⟩ old new hold hnew
    cases hpack
    cases hold
    rw [hnew] at hanswerKey
    exact Except.ok.inj hanswerKey
  . intro hkept
    refine ⟨row.toPack, row.snapshot, rfl, rfl, rfl, rfl, rfl, ?_⟩
    cases hnew : lastSeeded v.between v.slug with
    | none => rfl
    | some new => exact congrArg _ (hkept _ _ rfl hnew)

end Validation

/--
All validations of a run grade with the key of the session's own prompt exactly when no session's pack
is seeded with another key before the session is graded.
-/
theorem usesOwnKey_iff (uuids : UuidSource) (crates : Crates) (calls : List Call)
    : (∀ v : Validation uuids crates calls, v.UsesOwnKey)
        ↔
      (∀ v : Validation uuids crates calls, v.KeyKept) := by
  constructor
  . intro h v
    exact v.usesOwnKey_iff_keyKept.mp (h v)
  . intro h v
    exact v.usesOwnKey_iff_keyKept.mpr (h v)

namespace sessionsLab

def uuids : UuidSource := ⟨id, fun _ _ h => h⟩

def answerKey (testPassed : Bool) : Json :=
  .obj [
    ("vsId", .int 91023),
    ("mode", .str "sigVer"),
    ("parameterSet", .str "ML-DSA-65"),
    ("cases", .arr [.obj [("tcId", .int 1), ("testPassed", .bool testPassed)]])
  ]

def prompt (signature : String) : Json :=
  .obj [
    ("vsId", .int 91023),
    ("mode", .str "sigVer"),
    ("testGroups", .arr [
      .obj [("tests", .arr [.obj [("tcId", .int 1), ("signature", .str signature)]])]
    ])
  ]

def entry (signature : String) (testPassed : Bool) : PackSeed :=
  {
    slug := "mldsa65-03-sigver"
    capability := "sig_ver"
    parameterSet := "ML-DSA-65"
    vsId := 91023
    prompt := prompt signature
    answerKey := answerKey testPassed
    registration := .null
  }

def results : Json :=
  .obj [
    ("vsId", .int 91023),
    ("mode", .str "sigVer"),
    ("testGroups", .arr [
      .obj [
        ("tgId", .int 1),
        ("tests", .arr [.obj [("tcId", .int 1), ("testPassed", .bool true)]])
      ]
    ])
  ]

def text : String :=
  "\x7b\n  \"vsId\": 91023,\n  \"mode\": \"sigVer\",\n  \"testGroups\": [\n    \x7b\n      \"tgId\": 1,\n"
    ++ "      \"tests\": [\n        \x7b\n          \"tcId\": 1,\n          \"testPassed\": true\n        \x7d\n"
    ++ "      ]\n    \x7d\n  ]\n\x7d"

def crates : Crates :=
  {
    fromStr := fun _ => .ok results
    hexDecode := fun _ => .error "Odd number of digits"
  }

def before : List Call := [.seed [entry "00" true]]

def between : List Call := [.seed [entry "01" false]]

def calls : List Call :=
  before ++ .createSession "mldsa65-03-sigver" :: (between ++ [.validateSession 1 text])

def validation : Validation uuids crates calls :=
  {
    before := before
    slug := "mldsa65-03-sigver"
    between := between
    id := 1
    results := text
    after := []
    calls_eq := rfl
    created := ⟨_, _, rfl, rfl⟩
  }

/--
A deployment with a new pack while a session is open: the right results for the session's prompt are all
counted as wrong.
-/
theorem graded_with_other_key
    : ¬(∀ v : Validation uuids crates calls, v.UsesOwnKey)
        ∧
      (validateSession crates validation.atValidation 1 text).map (·.1.correct) = .ok 0
        ∧
      (validateSession crates (runCalls crates (runCalls crates .empty before)
        [.createSession "mldsa65-03-sigver"] : Tables uuids) 1 text).map (·.1.correct) = .ok 1 := by
  refine ⟨?_, by rfl, by rfl⟩
  intro h
  have hkept : validation.KeyKept := validation.usesOwnKey_iff_keyKept.mp (h validation)
  have hkey := hkept ⟨_, _, _, _, _, _, _⟩ ⟨_, _, _, _, _, _, _⟩ (by rfl) (by rfl)
  simp [entry, answerKey] at hkey

end sessionsLab

end cavp

end PqCas
