import PqCas.Cavp.Sessions

/-!
Reading a session back (`get_session` in `routes/cavp.rs`): what it keeps of its pack, and what was last submitted
to it.
-/

namespace PqCas

namespace cavp

variable {uuids : UuidSource}

/--
The session, with the slug of its pack. The join finds nothing where either of them is missing.
-/
def getSession (db : Tables uuids) (id : Uuid) : Except api.ApiError SessionDetail := do
  let session ← Fallible.okOr (db.session? id) (.notFound "cavp session")
  let pack ← Fallible.okOr (db.packById? session.packId) (.notFound "cavp session")
  return {
    id := session.id
    slug := pack.slug
    capability := session.capability
    parameterSet := session.parameterSet
    vsId := session.vsId
    prompt := session.prompt
    submitted := session.submitted
    validation := session.validation
  }

section Recorded

variable (crates : Crates)

def Call.recorded (db : Tables uuids) (id : Uuid) (call : Call) : Option (Json × ValidationReport) :=
  match call with
  | .validateSession id' results =>
    if id' = id then
      match cavp.validateSession crates db id results with
      | .ok (report, _) => some ((crates.fromStr results).toOption.getD .null, report)
      | .error _ => none
    else
      none
  | .seed _ | .createSession _ => none

def recorded (db : Tables uuids) (id : Uuid) (calls : List Call) : List (Json × ValidationReport) :=
  match calls with
  | [] => []
  | call :: calls => (call.recorded crates db id).toList ++ recorded (call.exec crates db) id calls

end Recorded

def SessionRow.after (row : SessionRow) (entry : Option (Json × ValidationReport)) : SessionRow :=
  match entry with
  | some (submitted, report) => row.record submitted report
  | none => row

theorem SessionRow.after_after (row : SessionRow) (entry entry' : Option (Json × ValidationReport))
    : (row.after entry).after entry' = row.after (entry'.or entry) := by
  cases entry' with
  | none => rfl
  | some =>
    cases entry with
    | none => rfl
    | some => rfl

theorem session?_recordValidation {db : Tables uuids} {id : Uuid} {row : SessionRow} (h : db.session? id = some row)
    (id' : Uuid) (submitted : Json) (report : ValidationReport)
    : (db.recordValidation id' submitted report).session? id
        =
      some (if id' = id then row.record submitted report else row) := by
  have hkey : ∀ row : SessionRow, (row.record submitted report).id = row.id := fun _ => rfl
  have hfind := @Table.find?_updateWhere_key _ _ _ db.sessions (fun row => row.id == id')
    (SessionRow.record submitted report) (fun row => row.id) hkey id
  have hsession : db.sessions.find? (fun row => row.id == id) = some row := h
  have hid : row.id = id := by simpa using List.find?_some hsession
  unfold Tables.session? Tables.recordValidation
  dsimp only
  simp only [beq_eq_decide] at hfind hsession ⊢
  rw [hfind, hsession, Option.map_some]
  by_cases hsame : id' = id
  . simp [hid, hsame]
  . simp [hid, hsame, Ne.symm hsame]

section Runs

variable {crates : Crates} {db db₁ : Tables uuids} {id : Uuid} {row : SessionRow}
variable {slug : String} {detail : SessionDetail}

theorem session?_exec (h : db.session? id = some row) (call : Call)
    : (call.exec crates db).session? id = some (row.after (call.recorded crates db id)) := by
  cases call with
  | seed entries =>
    unfold Call.exec Call.recorded Tables.session? at *
    dsimp only
    rw [sessions_seedPacks]
    apply h
  | createSession slug =>
    unfold Call.exec Call.recorded
    dsimp only
    split
    . next detail db' hcreate =>
      obtain ⟨packRow, hmem, -, -, rfl⟩ := createSession_of_ok hcreate
      rw [session?_insertSession, h]
      rfl
    . apply h
  | validateSession id' results =>
    unfold Call.exec Call.recorded
    dsimp only
    by_cases hsame : id' = id
    . subst hsame
      rw [if_pos rfl]
      cases hvalidate : validateSession crates db id' results with
      | error err => apply h
      | ok done =>
        dsimp only
        rw [validateSession_eq hvalidate, session?_recordValidation h, if_pos rfl]
        rfl
    . rw [if_neg hsame]
      split
      . next report db' hvalidate =>
        rw [validateSession_eq hvalidate, session?_recordValidation h, if_neg hsame]
        rfl
      . apply h

theorem session?_runCalls (h : db.session? id = some row) (calls : List Call)
    : (runCalls crates db calls).session? id = some (row.after (recorded crates db id calls).getLast?) := by
  induction calls generalizing db row with
  | nil => apply h
  | cons call calls ih =>
    have hcons : recorded crates db id (call :: calls)
        = (call.recorded crates db id).toList ++ recorded crates (call.exec crates db) id calls := rfl
    rw [runCalls_cons, ih (session?_exec h call), SessionRow.after_after, hcons, List.getLast?_append]
    cases call.recorded crates db id with
    | none => rfl
    | some entry => rfl

def PackRow.opened (row : PackRow) (id : Uuid) : SessionDetail :=
  {
    id := id
    slug := row.slug
    capability := row.capability
    parameterSet := row.parameterSet
    vsId := row.vsId
    prompt := row.prompt
    submitted := none
    validation := none
  }

theorem detail_of_createSession (h : createSession db slug = .ok (detail, db₁))
    : ∃ packRow, db.pack? slug = some packRow ∧ detail = packRow.opened (uuids.draw db.drawn) := by
  unfold createSession at h
  rw [fetchPack_map_toPack, Fallible.bind_eq_ok_iff] at h
  obtain ⟨pack, hpack, h⟩ := h
  rw [Fallible.okOr_eq_ok_iff] at hpack
  split at h
  . cases h
  . next row hrow =>
    simp only [Tables.version?, hrow, Option.map_some, Option.some.injEq] at hpack
    subst hpack
    cases h
    exists row
    constructor
    . apply hrow
    . rw [← (Tables.pack?_eq_some_iff.mp hrow).2]
      rfl

/--
Whatever happens after a session was created, to other sessions and to its pack as well: it can be read, it shows
the pack as it was when the session was created, and of what was submitted to it the last text that could be
graded and recorded, with its report.
-/
theorem getSession_runCalls (hcreate : createSession db slug = .ok (detail, db₁)) (calls : List Call)
    : (∃ packRow, db.pack? slug = some packRow ∧ detail = packRow.opened (uuids.draw db.drawn))
        ∧ getSession (runCalls crates db₁ calls) detail.id
            =
          .ok { detail with
            submitted := (recorded crates db₁ detail.id calls).getLast?.map Prod.fst
            validation := (recorded crates db₁ detail.id calls).getLast?.map Prod.snd } := by
  refine ⟨detail_of_createSession hcreate, ?_⟩
  obtain ⟨packRow, hmem, hpack, hid, hdb⟩ := createSession_of_ok hcreate
  obtain ⟨packRow', hpack', hdetail⟩ := detail_of_createSession hcreate
  cases hpack.symm.trans hpack'
  have hsession : db₁.session? detail.id = some { packRow.snapshot with id := detail.id } := by
    rw [hdb, hid, session?_insertSession, session?_draw]
    simp
  have hpackId : db₁.packId? packRow.slug = some packRow.id := by
    rw [hdb, (Tables.pack?_eq_some_iff.mp hpack).2]
    apply congrArg (Option.map (·.id)) hpack
  -- The pack has its id and its slug for good.
  obtain ⟨now, hnow, hsame⟩ := Option.map_eq_some_iff.mp (packId?_runCalls crates hpackId calls)
  rw [Tables.pack?_eq_some_iff] at hnow
  have hbyId : (runCalls crates db₁ calls).packById? packRow.id = some now :=
    Tables.packById?_eq_some_iff.mpr ⟨hnow.1, hsame⟩
  have hread := @session?_runCalls uuids crates db₁ detail.id _ hsession calls
  unfold getSession
  rw [hread]
  generalize (recorded crates db₁ detail.id calls).getLast? = last
  rw [hdetail]
  cases last with
  | none =>
    dsimp only [Fallible.okOr, bind, Except.bind, SessionRow.after, PackRow.snapshot]
    rw [hbyId]
    dsimp only
    rw [hnow.2]
    rfl
  | some entry =>
    dsimp only [Fallible.okOr, bind, Except.bind, SessionRow.after, SessionRow.record, PackRow.snapshot]
    rw [hbyId]
    dsimp only
    rw [hnow.2]
    rfl

end Runs

theorem getSession_runCalls_lab
    : ∃ (detail : SessionDetail) (db₁ : Tables sessionsLab.uuids),
        createSession (runCalls sessionsLab.crates .empty sessionsLab.before) "mldsa65-03-sigver" = .ok (detail, db₁)
          ∧ (∃ packRow : PackRow, detail = packRow.opened 1)
          ∧ getSession (runCalls sessionsLab.crates db₁
              (sessionsLab.between ++ [.validateSession 1 sessionsLab.text])) detail.id
            =
          .ok { detail with
            submitted := (recorded sessionsLab.crates db₁ detail.id
              (sessionsLab.between ++ [.validateSession 1 sessionsLab.text])).getLast?.map Prod.fst
            validation := (recorded sessionsLab.crates db₁ detail.id
              (sessionsLab.between ++ [.validateSession 1 sessionsLab.text])).getLast?.map Prod.snd } := by
  have hcreate : ∃ (detail : SessionDetail) (db₁ : Tables sessionsLab.uuids),
      createSession (runCalls sessionsLab.crates .empty sessionsLab.before) "mldsa65-03-sigver" = .ok (detail, db₁) :=
    ⟨_, _, rfl⟩
  obtain ⟨detail, db₁, hcreate⟩ := hcreate
  obtain ⟨⟨packRow, -, hdetail⟩, hread⟩ := getSession_runCalls hcreate
    (sessionsLab.between ++ [.validateSession 1 sessionsLab.text])
  exact ⟨detail, db₁, hcreate, ⟨packRow, hdetail⟩, hread⟩

end cavp

end PqCas
