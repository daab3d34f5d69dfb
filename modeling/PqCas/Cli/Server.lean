import PqCas.Cli.Report
import PqCas.Domain.Contract
import PqCas.Lib.Utf8
import PqCas.Worker.OneRequest

/-!
The adapter as a whole (`run` of `backend.rs`, and `server.rs`): a request comes in, a client is run, and
a report goes out, however the client ends.
-/

namespace PqCas

namespace cli

structure Settings extends Config where
  clientBin : String
  version : String
  workdir : Option String

structure Command where
  program : String
  args : List String
  workdir : Option String
  stdin : String

/--
How a client process ends, as far as `run` tells the ends apart.
-/
inductive Ended where
  | notLaunched (err : Err)
  | timedOut
  | failed (err : Err)
  | exited (stdout stderr : List UInt8)

structure Host where
  /-- Run a client for at most that many milliseconds. -/
  client : Command → UInt64 → Ended
  elapsedMs : UInt64
  base64 : String → String
  /-- `serde_json::to_string`. -/
  print : Json → String
  /-- What is answered to a body that is no request. -/
  rejection : Json → String

def transcript (settings : Settings) (args : List String) (stdout stderr : String) : String :=
  let line := Text.join " " args
  s!"$ {settings.clientBin} {line}\n--- stdout ---\n{stdout}\n--- stderr ---\n{stderr}"

section Run

variable (host : Host) (settings : Settings) (request : ProbeRequest)

def keepRaw (raw : String) (response : ProbeResponse) : ProbeResponse :=
  if request.capture.rawRecords then
    { response with
      evidence := { response.evidence with udsDumpB64 := some (host.base64 raw) } }
  else
    response

def runClient (args : List String) (parse : String → String → ProbeResponse) : ProbeResponse :=
  let adapter := settings.adapterName
  let command := ⟨settings.clientBin, args, settings.workdir, httpRequestLine request⟩
  match host.client command request.timeoutMs with
  | .notLaunched err => .failure adapter .tcp s!"cannot launch {settings.clientBin}: {err}"
  | .timedOut => .failure adapter .tlsHandshake s!"timed out after {request.timeoutMs} ms"
  | .failed err => .failure adapter .tcp s!"client failed: {err}"
  | .exited out err =>
    let stdout := Utf8.fromUtf8Lossy out
    let stderr := Utf8.fromUtf8Lossy err
    { keepRaw host request (transcript settings args stdout stderr) (parse stdout stderr) with
      durationMs := host.elapsedMs }

def run (backend : Backend) : ProbeResponse :=
  let adapter := settings.adapterName
  match backend with
  | .mock => { mock settings.toConfig request with durationMs := host.elapsedMs }
  | .openSsl => runClient host settings request (opensslArgs request) (parseOpenssl adapter request)
  | .boringSsl =>
    runClient host settings request (boringsslArgs request) (parseBoringssl adapter request)
  | .wolfSsl => runClient host settings request (wolfsslArgs request) (parseWolfssl adapter request)

end Run

inductive StatusCode where
  | ok
  | badRequest
  | unprocessableEntity
  deriving DecidableEq, Repr

namespace StatusCode

def display (status : StatusCode) : String :=
  match status with
  | .ok => "200 OK"
  | .badRequest => "400 Bad Request"
  | .unprocessableEntity => "422 Unprocessable Entity"

def isSuccess (status : StatusCode) : Bool :=
  status == .ok

end StatusCode

inductive Answer where
  | json (status : StatusCode) (body : Json)
  | text (status : StatusCode) (body : String)

namespace server

def capabilitiesOf (settings : Settings) : Capabilities :=
  {
    adapter := settings.adapterName
    version := settings.version
    kemGroups := settings.kemGroupList
    sigAlgs := settings.sigAlgList
    tlsVersions := ["TLSv1.3", "TLSv1.2"]
  }

def capabilities (settings : Settings) : Answer :=
  .json .ok (capabilitiesOf settings).toJson

def hostRequired : Json :=
  .obj [("error", .str "target host is required")]

def probe (host : Host) (settings : Settings) (backend : Backend) (body : Json) : Answer :=
  match ProbeRequest.fromJson body with
  | none => .text .unprocessableEntity (host.rejection body)
  | some request =>
    if Text.trim request.target.host = "" then
      .json .badRequest hostRequired
    else
      .json .ok (run host settings request backend).toJson

theorem probe_eq {host : Host} {settings : Settings} {backend : Backend} {body : Json}
    {request : ProbeRequest} (h : ProbeRequest.fromJson body = some request)
    : probe host settings backend body
        =
      if Text.trim request.target.host = "" then
        .json .badRequest hostRequired
      else
        .json .ok (run host settings request backend).toJson := by
  unfold probe
  rw [h]

end server

section Reports

/--
A report of a handshake that was tried: either its parts agree, or nothing got as far as a report of the
client.
-/
def Honest (adapter : String) (request : ProbeRequest) (r : ProbeResponse) : Prop :=
  Coherent request r
    ∨ ∃ stage err, (stage = .tcp ∨ stage = .tlsHandshake) ∧ r = .failure adapter stage err

variable {host : Host} {settings : Settings} {request : ProbeRequest}

theorem coherent_congr {r : ProbeResponse} (h : Coherent request r) (evidence : Evidence)
    (durationMs : UInt64)
    : Coherent request { r with evidence := evidence, durationMs := durationMs } :=
  ⟨h.success_of_http, h.complete_iff, h.httpRequest_iff, h.tlsHandshake_iff, h.clientHello, h.index_eq,
    h.serverHello_iff, h.alert_iff, h.errorSummary⟩

def rawOutput (host : Host) (settings : Settings) (request : ProbeRequest) (backend : Backend)
    : Option String :=
  match clientArgs backend request with
  | none => none
  | some args =>
    let command := ⟨settings.clientBin, args, settings.workdir, httpRequestLine request⟩
    match host.client command request.timeoutMs with
    | .exited out err => some (transcript settings args (Utf8.fromUtf8Lossy out) (Utf8.fromUtf8Lossy err))
    | _ => none

/--
What is said of a report: who made it, that its parts agree, and which raw evidence it carries.
-/
structure ReportOk (host : Host) (settings : Settings) (request : ProbeRequest) (backend : Backend)
    (r : ProbeResponse) : Prop where
  adapter : r.adapter = settings.adapterName
  honest : Honest settings.adapterName request r
  raw : r.evidence.udsDumpB64
    = if request.capture.rawRecords then
        (rawOutput host settings request backend).map host.base64
      else
        none
  keylog : r.evidence.keylog = none

theorem reportOk_runClient {backend : Backend} {args : List String} {read : String → String → ProbeResponse}
    (hargs : clientArgs backend request = some args)
    (hread : ∀ stdout stderr, parse backend settings.adapterName request stdout stderr
      = some (read stdout stderr))
    (hadapter : ∀ stdout stderr, (read stdout stderr).adapter = settings.adapterName)
    (hdump : ∀ stdout stderr, (read stdout stderr).evidence.udsDumpB64 = none)
    (hkeylog : ∀ stdout stderr, (read stdout stderr).evidence.keylog = none)
    : ReportOk host settings request backend (runClient host settings request args read) := by
  unfold runClient
  dsimp only
  cases hended : host.client ⟨settings.clientBin, args, settings.workdir, httpRequestLine request⟩
    request.timeoutMs with
  | notLaunched err =>
    constructor
    case adapter => rfl
    case honest => exact .inr ⟨.tcp, _, .inl rfl, rfl⟩
    case raw => simp [rawOutput, hargs, hended, ProbeResponse.failure]
    case keylog => rfl
  | timedOut =>
    constructor
    case adapter => rfl
    case honest => exact .inr ⟨.tlsHandshake, _, .inr rfl, rfl⟩
    case raw => simp [rawOutput, hargs, hended, ProbeResponse.failure]
    case keylog => rfl
  | failed err =>
    constructor
    case adapter => rfl
    case honest => exact .inr ⟨.tcp, _, .inl rfl, rfl⟩
    case raw => simp [rawOutput, hargs, hended, ProbeResponse.failure]
    case keylog => rfl
  | exited out err =>
    have hcoherent := coherent_parse (hread (Utf8.fromUtf8Lossy out) (Utf8.fromUtf8Lossy err))
    unfold keepRaw
    dsimp only
    split
    . next hraw =>
      constructor
      case adapter => exact hadapter _ _
      case honest => exact .inl (coherent_congr hcoherent _ _)
      case raw => simp [rawOutput, hargs, hended, hraw]
      case keylog => exact hkeylog _ _
    . next hraw =>
      constructor
      case adapter => exact hadapter _ _
      case honest => exact .inl (coherent_congr hcoherent _ _)
      case raw =>
        rw [if_neg hraw]
        exact hdump _ _
      case keylog => exact hkeylog _ _

theorem reportOk_run (host : Host) (settings : Settings) (request : ProbeRequest) (backend : Backend)
    : ReportOk host settings request backend (run host settings request backend) := by
  cases backend with
  | mock =>
    have hmock : ∀ config : Config, (mock config request).adapter = config.adapterName
        ∧ (mock config request).evidence.udsDumpB64 = none
        ∧ (mock config request).evidence.keylog = none := by
      intro config
      unfold mock
      dsimp only
      split
      . exact ⟨rfl, rfl, rfl⟩
      . split <;> exact ⟨rfl, rfl, rfl⟩
    obtain ⟨hadapter, hdump, hkeylog⟩ := hmock settings.toConfig
    constructor
    case adapter => exact hadapter
    case honest => exact .inl (coherent_congr (coherent_mock settings.toConfig request) _ _)
    case raw =>
      have hnone : rawOutput host settings request .mock = none := rfl
      rw [hnone, Option.map_none, ite_self]
      exact hdump
    case keylog => exact hkeylog
  | openSsl =>
    exact reportOk_runClient rfl (fun _ _ => rfl) (fun _ _ => rfl) (fun _ _ => rfl) (fun _ _ => rfl)
  | boringSsl =>
    exact reportOk_runClient rfl (fun _ _ => rfl) (fun _ _ => rfl) (fun _ _ => rfl) (fun _ _ => rfl)
  | wolfSsl =>
    exact reportOk_runClient rfl (fun _ _ => rfl) (fun _ _ => rfl) (fun _ _ => rfl) (fun _ _ => rfl)

end Reports

end cli

end PqCas
