import PqCas.Cli.Report
import PqCas.Store.Statements

/-!
The status `save_report` gives to the report of a response, next to how far the probe got.
-/

namespace PqCas

inductive Origin where
  | client (backend : cli.Backend) (adapter : String) (request : ProbeRequest) (stdout stderr : String)
  | mock (config : cli.Config) (request : ProbeRequest)
  | failure (adapter : String) (stage : Stage) (error : String)

namespace Origin

def response : Origin → Option ProbeResponse
  | client backend adapter request stdout stderr => cli.parse backend adapter request stdout stderr
  | mock config request => some (cli.mock config request)
  | failure adapter stage error => some (.failure adapter stage error)

def Clean : Origin → Prop
  | client _ _ _ stdout _ => (cli.parseHttp stdout).isSome = true
  | mock config request =>
    cli.vulnerable request = false ∧ cli.groupOk config request = true ∧ cli.sigOk config request = true
  | failure _ stage _ => stage ≠ .complete

end Origin

/--
The status that says whether the probe finished the flow it was asked to run.
-/
def truthfulStatus (response : ProbeResponse) : ReportStatus :=
  if response.failedStage = .complete then .complete else .partial_

namespace SubtaskRow

theorem reportStatusOf_failure (adapter : String) (stage : Stage) (error : String)
    : reportStatusOf (.failure adapter stage error) = .partial_ := rfl

theorem reportStatusOf_of_messages {response : ProbeResponse} {m : HandshakeMessage}
    (h : response.messages[0]? = some m) : reportStatusOf response = .complete := by
  have hrows : response.messages.isEmpty = false := by
    cases hmessages : response.messages with
    | nil =>
      rw [hmessages] at h
      cases h
    | cons _ _ => rfl
  unfold reportStatusOf
  rw [hrows]
  split <;> rfl

theorem reportStatusOf_of_coherent {request : ProbeRequest} {response : ProbeResponse}
    (h : cli.Coherent request response)
    : reportStatusOf response = truthfulStatus response ↔ response.http.isSome = true := by
  rw [reportStatusOf_of_messages h.clientHello, ← h.complete_iff]
  unfold truthfulStatus
  split
  . next hstage => simp [hstage]
  . next hstage => simp [hstage]

end SubtaskRow

namespace cli

theorem isSome_http_mock (config : Config) (request : ProbeRequest)
    : (mock config request).http.isSome = true
        ↔
      vulnerable request = false ∧ groupOk config request = true ∧ sigOk config request = true := by
  unfold mock buildResponse
  cases vulnerable request <;> cases groupOk config request <;> cases sigOk config request <;> simp

end cli

namespace Origin

variable {origin : Origin} {response : ProbeResponse}

theorem reportStatusOf_eq_iff (h : origin.response = some response)
    : SubtaskRow.reportStatusOf response = truthfulStatus response ↔ origin.Clean := by
  cases origin with
  | client backend adapter request stdout stderr =>
    have hhttp := cli.parse_http h
    rw [SubtaskRow.reportStatusOf_of_coherent (cli.coherent_parse h), hhttp]
    rfl
  | mock config request =>
    cases h
    rw [SubtaskRow.reportStatusOf_of_coherent (cli.coherent_mock config request)]
    apply cli.isSome_http_mock
  | failure adapter stage error =>
    cases h
    rw [SubtaskRow.reportStatusOf_failure]
    unfold truthfulStatus Clean
    cases stage <;> simp [ProbeResponse.failure]

/--
The stored status tells the truth exactly for a probe that ran to its end and for one that did not reach
the wire: whatever a client printed before it stopped is stored as a complete report.
-/
theorem stored_status_iff (h : origin.response = some response) {db db' : Db} {id : Uuid} {row : SubtaskRow}
    (hrow : db.subtask? id = some row) {now : Time} {result : ResultStatus}
    (hsave : db.saveReport now id result response = .ok db')
    : (db'.subtask? id).map (fun row => row.reportStatus) = some (truthfulStatus response)
        ↔
      origin.Clean := by
  obtain ⟨saved, hsaved, -, -, hrow'⟩ := Db.saveReport_of_subtask? now hrow result response
  rw [hsaved] at hsave
  cases hsave
  rw [hrow', Option.map_some, Option.some.injEq]
  exact reportStatusOf_eq_iff h

def labSubtask : SubtaskRow :=
  {
    id := 2
    testId := 1
    ordinal := 0
    groupName := "X25519MLKEM768"
    sigAlg := "mldsa65"
  }

def labStore : Db :=
  { subtasks := [labSubtask] }

def labProbe : ProbeRequest :=
  .new ⟨"lab.example", 443, none, none⟩

theorem stored_status_unreachable
    : ((labStore.saveReport 5 2 .failed (.failure "openssl" .tcp "client failed")).toOption.bind
        (fun db => db.subtask? 2)).map (fun row => row.reportStatus) = some .partial_ := by
  have hsave : labStore.saveReport 5 2 .failed (.failure "openssl" .tcp "client failed")
      = .ok { labStore with
          subtaskReports := [Db.reportRow 2 (.failure "openssl" .tcp "client failed")]
          subtasks := [labSubtask.finish 5 .failed (.failure "openssl" .tcp "client failed")] } := rfl
  have hresponse : (failure "openssl" .tcp "client failed").response
      = some (.failure "openssl" .tcp "client failed") := rfl
  have hrow : labStore.subtask? 2 = some labSubtask := rfl
  have hstored := (stored_status_iff hresponse hrow hsave).mpr (by simp [Clean])
  rw [hsave]
  exact hstored

/--
A handshake that fails after the ClientHello is stored as a complete report.
-/
theorem stored_status_wrong
    : ∃ response,
        (client .openSsl "openssl" labProbe "" "").response = some response
          ∧ response.failedStage = .tlsHandshake
          ∧ ((labStore.saveReport 5 2 .failed response).toOption.bind
              (fun db => db.subtask? 2)).map (fun row => row.reportStatus) = some .complete := by
  refine ⟨cli.parseOpenssl "openssl" labProbe "" "", rfl, rfl, rfl⟩

end Origin

end PqCas
