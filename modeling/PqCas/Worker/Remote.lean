import PqCas.Cli.Server
import PqCas.Worker.Verdict

/-!
The worker and an adapter put together: what is stored of a probe is what the backend of the adapter
reported, as if the worker had run the client itself.
-/

namespace PqCas

open cli

namespace cli.Answer

def probeReply (print : Json → String) (answer : Answer) : ProbeReply :=
  match answer with
  | .json status body =>
    if status.isSuccess then
      match ProbeResponse.fromJson body with
      | some response => .report response
      | none => .unreadable "error decoding response body"
    else
      .refused status.display (print body)
  | .text status body =>
    if status.isSuccess then
      .unreadable "error decoding response body"
    else
      .refused status.display body

def capabilitiesReply (answer : Answer) : Except Err Capabilities :=
  match answer with
  | .json status body =>
    if status.isSuccess then
      match Capabilities.fromJson body with
      | some capabilities => .ok capabilities
      | none => .error "error decoding response body"
    else
      .error s!"HTTP status error ({status.display})"
  | .text status _ =>
    if status.isSuccess then
      .error "error decoding response body"
    else
      .error s!"HTTP status error ({status.display})"

theorem probeReply_report {body : Json} {response : ProbeResponse}
    (h : ProbeResponse.fromJson body = some response) (print : Json → String)
    : (Answer.json .ok body).probeReply print = .report response := by
  have hok : StatusCode.ok.isSuccess = true := rfl
  unfold probeReply
  dsimp only
  rw [if_pos hok, h]

theorem capabilitiesReply_ok {body : Json} {capabilities : Capabilities}
    (h : Capabilities.fromJson body = some capabilities)
    : (Answer.json .ok body).capabilitiesReply = .ok capabilities := by
  have hok : StatusCode.ok.isSuccess = true := rfl
  unfold capabilitiesReply
  dsimp only
  rw [if_pos hok, h]

end cli.Answer

/--
Behind a base URL there is an adapter, and every call reaches it.
-/
structure Serves (env : Env) (base : String) (host : Host) (settings : Settings) (backend : Backend)
    : Prop where
  probe : ∀ n request, env.postProbe n base request
    = (server.probe host settings backend request.toJson).probeReply host.print
  capabilities : ∀ n, env.fetchCapabilities n base = (server.capabilities settings).capabilitiesReply

namespace Serves

variable {env : Env} {base : String} {host : Host} {settings : Settings} {backend : Backend}

theorem postProbe_eq (h : Serves env base host settings backend) (n : Nat) {request : ProbeRequest}
    (hhost : Text.trim request.target.host ≠ "")
    : env.postProbe n base request = .report (run host settings request backend) := by
  rw [h.probe, server.probe_eq (ProbeRequest.fromJson_toJson request), if_neg hhost]
  exact cli.Answer.probeReply_report (ProbeResponse.fromJson_toJson _) host.print

theorem fetchCapabilities_eq (h : Serves env base host settings backend) (n : Nat)
    : env.fetchCapabilities n base = .ok (server.capabilitiesOf settings) := by
  rw [h.capabilities]
  exact cli.Answer.capabilitiesReply_ok (Capabilities.fromJson_toJson _)

end Serves

namespace remote

variable {adapters : AdapterRegistry} {env : Env} {w : World} {job : ProbeJob} {base : String}
  {host : Host} {settings : Settings} {backend : Backend}

/--
What is known of the capabilities of an adapter is what it answers.
-/
def CacheOk (w : World) (adapter : String) (settings : Settings) : Prop :=
  ∀ capabilities, w.cache.lookup adapter = some capabilities →
    capabilities = server.capabilitiesOf settings

theorem response_eq (hserves : Serves env base host settings backend)
    (hbase : adapters.bases.lookup job.adapter = some base) (hhost : Text.trim job.host ≠ "")
    : probe.response adapters env w job = run host settings (probe.requestFor job) backend := by
  have htarget : Text.trim (probe.requestFor job).target.host ≠ "" := hhost
  unfold probe.response AdapterRegistry.probeOutcome
  rw [hbase]
  dsimp only
  rw [hserves.postProbe_eq w.calls htarget]
  rfl

theorem outcome_eq (hserves : Serves env base host settings backend)
    (hbase : adapters.bases.lookup job.adapter = some base) (hcache : CacheOk w job.adapter settings)
    : probe.outcome adapters env w job = .ok (server.capabilitiesOf settings) := by
  unfold probe.outcome AdapterRegistry.capabilitiesOutcome
  dsimp only
  cases hcached : w.cache.lookup job.adapter with
  | some capabilities =>
    dsimp only
    rw [hcache capabilities hcached]
  | none =>
    rw [hbase]
    exact hserves.fetchCapabilities_eq _

theorem subtaskReports_finishDb (env : Env) (job : ProbeJob) (db : Db)
    : (probe.finishDb env job db).subtaskReports = db.subtaskReports := by
  unfold probe.finishDb
  dsimp only
  split <;> rfl

theorem subtask?_finishDb (env : Env) (job : ProbeJob) (db : Db) (id : Uuid)
    : (probe.finishDb env job db).subtask? id = db.subtask? id := by
  unfold probe.finishDb
  dsimp only
  split <;> rfl

/--
The tables when the report is saved: the test and the subtask are running.
-/
def startedDb (env : Env) (w : World) (job : ProbeJob) : Db :=
  (w.db.markTestRunning env.now job.testId).markSubtaskRunning env.now job.subtaskId

theorem subtask?_startedDb {row : SubtaskRow} (hrow : w.db.subtask? job.subtaskId = some row)
    : (startedDb env w job).subtask? job.subtaskId = some (row.start env.now) := by
  unfold startedDb
  rw [Db.subtask?_markSubtaskRunning, Db.subtask?_markTestRunning, hrow]
  rfl

theorem eval_handle_db_of_refusal (hserves : Serves env base host settings backend)
    (hbase : adapters.bases.lookup job.adapter = some base) (hhost : Text.trim job.host ≠ "")
    (henv : env.OnlyRefuses (run host settings (probe.requestFor job) backend))
    : ((probe.handle adapters job).eval env w).2.db
        =
      match Db.refusal (run host settings (probe.requestFor job) backend) with
      | some _ => startedDb env w job
      | none =>
        match (startedDb env w job).saveReport env.now job.subtaskId (probe.result adapters env w job)
            (run host settings (probe.requestFor job) backend) with
        | .error _ => startedDb env w job
        | .ok db => probe.finishDb env job db := by
  have hconf : adapters.isConfigured job.adapter = true := by
    unfold AdapterRegistry.isConfigured
    rw [hbase]
    rfl
  rw [probe.eval_handle_db]
  simp only [henv.others .markTestRunning (by decide), henv.others .markSubtaskRunning (by decide),
    henv.others .publishSubtaskUpdated (by decide), probe.terminalWrite, henv.saveFailure, hconf, ↓reduceIte,
    response_eq hserves hbase hhost, startedDb]
  cases Db.refusal (run host settings (probe.requestFor job) backend) with
  | some err => rfl
  | none => rfl

/--
The report `r` is stored as it is, next to the evidence, and the verdict is drawn from it and from the lists the adapter
is configured with.
-/
structure Stored (job : ProbeJob) (settings : Settings) (r : ProbeResponse) (evidence : Option String) (db : Db)
    : Prop where
  report : db.subtaskReports.filter (fun report => report.subtaskId = job.subtaskId) = [{
    subtaskId := job.subtaskId
    adapter := r.adapter
    tlsSummary := {
      handshakeSuccess := r.handshakeSuccess
      tlsVersion := r.negotiated.tlsVersion
      cipherSuite := r.negotiated.cipherSuite
      keyExchangeGroup := r.negotiated.group
      certVerifySigAlg := r.negotiated.certVerifySigAlg
      alert := r.alert
    }
    messages := r.messages
    certChain := r.certChain
    http := r.http
    diagnostics := r.diagnostics
    raw := r
    evidence := evidence
    durationMs := r.durationMs
  }]
  row : ∃ row, db.subtask? job.subtaskId = some row
    ∧ row.execStatus = .finished
    ∧ row.resultStatus = classify r [job.groupName, job.sigAlg] {
        adapter := settings.adapterName
        version := settings.version
        kemGroups := splitList settings.kemGroups
        sigAlgs := splitList settings.sigAlgs
        tlsVersions := ["TLSv1.3", "TLSv1.2"]
      }
    ∧ row.failedStage = some r.failedStage.asStr
    ∧ row.errorSummary = r.errorSummary

/--
For a job whose adapter is up, and a database that does its work, what is stored is the report that the backend makes
of exactly the request of the job. If that report has the code point 0 in one of its texts then nothing is stored, and
the subtask stays on `running`. The reports of other subtasks stay as they were.
-/
theorem stored_report (hserves : Serves env base host settings backend)
    (hbase : adapters.bases.lookup job.adapter = some base) (hhost : Text.trim job.host ≠ "")
    (henv : env.OnlyRefuses (run host settings (probe.requestFor job) backend))
    (hcache : CacheOk w job.adapter settings) {row : SubtaskRow}
    (hrow : w.db.subtask? job.subtaskId = some row)
    (hkeys : (w.db.subtaskReports.map SubtaskReportRow.subtaskId).Nodup)
    : let request : ProbeRequest := {
        target := {
          host := job.host
          port := job.port
          sni := some job.host
          httpPath := some job.httpPath
        }
        kemGroups := [job.groupName]
        sigAlgs := [job.sigAlg]
        tlsVersions := ["TLSv1.3", "TLSv1.2"]
        cipherSuites := []
        timeoutMs := job.timeoutMs
        capture := {
          rawRecords := true
          keylog := false
        }
      }
      let r := run host settings request backend
      let evidence := (rawOutput host settings request backend).map host.base64
      let db := ((probe.handle adapters job).eval env w).2.db
      (r.toJson.hasNul = false → Stored job settings r evidence db)
        ∧ (r.toJson.hasNul = true →
            db.subtaskReports = w.db.subtaskReports
              ∧ db.subtask? job.subtaskId = some (row.start env.now))
        ∧ ∀ id, id ≠ job.subtaskId →
            db.subtaskReports.filter (fun report => report.subtaskId = id)
              = w.db.subtaskReports.filter (fun report => report.subtaskId = id) := by
  intro request r evidence db
  have hdb : db = _ := eval_handle_db_of_refusal hserves hbase hhost henv
  have hstarted : (startedDb env w job).subtask? job.subtaskId = some (row.start env.now) := subtask?_startedDb hrow
  have hr : run host settings (probe.requestFor job) backend = r := rfl
  rw [hr] at hdb
  cases hnul : r.toJson.hasNul with
  | true =>
    have hrefusal : Db.refusal r = some "unsupported Unicode escape sequence" := if_pos hnul
    rw [hrefusal] at hdb
    rw [hdb]
    refine ⟨by simp, fun _ => ⟨rfl, hstarted⟩, fun id _ => rfl⟩
  | false =>
    have hrefusal : Db.refusal r = none := by
      unfold Db.refusal
      rw [hnul]
      rfl
    obtain ⟨saved, hsave, -, -, hsub⟩ := Db.saveReport_of_subtask? env.now hstarted
      (probe.result adapters env w job) r
    have hresult : probe.result adapters env w job
        = classify r [job.groupName, job.sigAlg] (server.capabilitiesOf settings) := by
      unfold probe.result probe.verdict
      rewrite [outcome_eq hserves hbase hcache, response_eq hserves hbase hhost]
      rfl
    have hreports : saved.subtaskReports
        = Table.upsert SubtaskReportRow.subtaskId w.db.subtaskReports (Db.reportRow job.subtaskId r) :=
      (Db.of_saveReport hsave).2.2
    have hevidence : r.evidence.udsDumpB64 = evidence :=
      (reportOk_run host settings request backend).raw
    rw [hrefusal] at hdb
    dsimp only at hdb
    rw [hsave] at hdb
    dsimp only at hdb
    refine ⟨fun _ => ?_, by simp, ?_⟩
    . constructor
      case report =>
        rw [hdb, subtaskReports_finishDb, hreports, ← hevidence]
        exact Table.filter_upsert_self (Db.reportRow job.subtaskId r) hkeys
      case row =>
        rw [hdb, subtask?_finishDb]
        exact ⟨_, hsub, rfl, hresult, rfl, rfl⟩
    . intro id hid
      rw [hdb, subtaskReports_finishDb, hreports]
      exact Table.filter_upsert_ne hid

def labHost : Host :=
  {
    client := fun _ _ => .exited (Utf8.encode "Cipher is A\n") []
    elapsedMs := 7
    base64 := id
    print := fun _ => "null"
    rejection := fun _ => "not a request"
  }

def labSettings : Settings :=
  {
    backend := "openssl"
    name := none
    kemGroups := "X25519MLKEM768, mlkem768"
    sigAlgs := "mldsa65"
    clientBin := "openssl"
    version := "3.5.0"
    workdir := none
  }

def labEnv : Env :=
  {
    now := 0
    fetchCapabilities := fun _ _ => (server.capabilities labSettings).capabilitiesReply
    postProbe := fun _ _ request =>
      (server.probe labHost labSettings .openSsl request.toJson).probeReply labHost.print
  }

theorem labServes (base : String) : Serves labEnv base labHost labSettings .openSsl := by
  constructor
  case probe =>
    intro n request
    unfold labEnv
    dsimp only
  case capabilities =>
    intro n
    unfold labEnv
    dsimp only

theorem hasNul_labReport
    : (run labHost labSettings (probe.requestFor (probe.labJob "mlkem768" "mldsa65")) .openSsl).toJson.hasNul
        =
      false := by
  decide +kernel

theorem stored_report_lab
    : Stored (probe.labJob "mlkem768" "mldsa65") labSettings
        (run labHost labSettings (probe.requestFor (probe.labJob "mlkem768" "mldsa65")) .openSsl)
        ((rawOutput labHost labSettings (probe.requestFor (probe.labJob "mlkem768" "mldsa65")) .openSsl).map
          labHost.base64)
        ((probe.handle probe.labRegistry (probe.labJob "mlkem768" "mldsa65")).eval labEnv probe.labWorld).2.db := by
  have henv : labEnv.OnlyRefuses
      (run labHost labSettings (probe.requestFor (probe.labJob "mlkem768" "mldsa65")) .openSsl) := by
    constructor
    case saveInsert =>
      unfold Db.refusal
      rw [hasNul_labReport]
      rfl
    case others =>
      intro step _
      rfl
  have hcache : CacheOk probe.labWorld "openssl" labSettings := by
    intro capabilities h
    cases h
  have hhost : Text.trim (probe.labJob "mlkem768" "mldsa65").host ≠ "" := by decide
  exact (stored_report (labServes _) rfl hhost henv hcache rfl List.nodup_nil).1 hasNul_labReport

end remote

end PqCas
