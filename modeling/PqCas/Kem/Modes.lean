import PqCas.Kem.Order
import PqCas.Kem.Console

/-!
The three modes of a KEM DEMO run and the handler of a KEM job (`kem.rs`). The log lines are part of
the product.
-/

namespace PqCas

namespace kem

def MATRIX_ADAPTERS : List String :=
  ["openssl", "boringssl", "wolfssl", "go", "bouncycastle", "aws-lc", "nss", "circl"]

def MATRIX_KEMS : List String :=
  [
    "MLKEM1024",
    "MLKEM768",
    "SecP256r1MLKEM768",
    "SecP384r1MLKEM1024",
    "X25519Kyber768Draft00",
    "X25519MLKEM768"
  ]

def requestFor (job : KemJob) (groups : List String) : ProbeRequest :=
  { ProbeRequest.new {
      host := job.host
      port := job.port
      sni := some job.host
      httpPath := some "/"
    } with
    kemGroups := groups
  }

/--
The KEM DEMO drives a single stack; prefer OpenSSL, and fall back to whatever the deployment does
have.
-/
def preferredAdapter (adapters : AdapterRegistry) : Except Err String :=
  match ["openssl", "go", "boringssl", "wolfssl"].find? adapters.isConfigured with
  | some candidate => .ok candidate
  | none =>
    match adapters.names.head? with
    | some name => .ok name
    | none => .error "no adapters are configured"

def probe (adapters : AdapterRegistry) (adapter : String) (request : ProbeRequest)
    : ConsoleM ProbeResponse :=
  .ofWorker (ExceptT.lift (adapters.probe adapter request))

/--
Whether a column can do a KEM at all. A column whose capabilities cannot be fetched counts as one
that cannot, after a line that says why.
-/
def supported (adapters : AdapterRegistry) (kem adapter : String) : ConsoleM Bool := do
  match ← ConsoleM.outcome (.ofWorker (adapters.capabilities adapter)) with
  | .ok caps => return caps.kemGroups.any (fun g => Text.eqIgnoreAsciiCase g kem)
  | .error err =>
    Console.log "info" s!"{adapter}: capabilities unavailable ({err})"
    return false

def libraryCell (adapters : AdapterRegistry) (job : KemJob) (kem adapter : String)
    : ConsoleM Unit := do
  if !adapters.isConfigured adapter then
    Console.cell kem adapter .disabled none
  else if !(← supported adapters kem adapter) then
    Console.cell kem adapter .unsupported none
  else
    let response ← probe adapters adapter (requestFor job [kem])
    let verdict := if response.handshakeSuccess then .passed else .failed
    Console.cell kem adapter verdict response.errorSummary
    let word := if response.handshakeSuccess then "PASS" else "FAIL"
    Console.log "info" s!"{adapter} × {kem}: {word}"

def libraryCompat (adapters : AdapterRegistry) (job : KemJob) : ConsoleM Unit := do
  Console.log "info" s!"=== run_library_compat ({job.host}:{job.port}) ==="
  MATRIX_KEMS.forM fun kem =>
    MATRIX_ADAPTERS.forM fun adapter =>
      libraryCell adapters job kem adapter
  Console.log "result" "Result: compatibility matrix complete"

def statusText (status : UInt16) : String :=
  match status.toNat with
  | 200 => "OK"
  | 204 => "No Content"
  | 301 => "Moved Permanently"
  | 302 => "Found"
  | 400 => "Bad Request"
  | 403 => "Forbidden"
  | 404 => "Not Found"
  | 500 => "Internal Server Error"
  | _ => ""

def resultLine (response : ProbeResponse) : String :=
  let version := response.negotiated.tlsVersion.getD "unknown"
  let cipher := response.negotiated.cipherSuite.getD "unknown"
  let group := response.negotiated.group.getD "unknown"
  let sent := response.evidence.bytesSent
  let received := response.evidence.bytesReceived
  s!"Result: ApplicationData - {version} {cipher}; group={group}; sent={sent} bytes; received={received} bytes"

/--
Prefer the alert name over the raw error string of the stack.
-/
def failureReason (response : ProbeResponse) : String :=
  ((response.alert.map Alert.description).or response.errorSummary).getD "unknown"

def httpLines (http : HttpOutcome) : ConsoleM Unit := do
  let reason := statusText http.status
  Console.log "info" "========== HTTPS response header =========="
  Console.log "info" s!"HTTP/1.1 {http.status} {reason}"
  http.headers.forM fun header => do
    let value := String.intercalate ", " header.values
    Console.log "info" s!"{header.label}: {value}"
  Console.log "info" "========== HTTPS response header =========="
  Console.log "info" "response success"

def groupCompat (adapters : AdapterRegistry) (job : KemJob) : ConsoleM Unit := do
  let adapter ← liftExcept (preferredAdapter adapters)
  let kems := String.intercalate ", " job.kemGroups
  Console.log "info" s!"=== run_full_handshake ({job.host}:{job.port}) ==="
  Console.log "info" s!"Using KEMs: {kems}"
  let response ← probe adapters adapter (requestFor job job.kemGroups)
  if !response.handshakeSuccess then
    let reason := failureReason response
    Console.log "info" "key_gen TLS 完整交握失敗："
    Console.log "result" s!"Result: HandshakeFailed - {reason}"
  else
    match response.http with
    | some http => httpLines http
    | none => pure ()
    Console.log "result" (resultLine response)

/--
The offer without every spelling of a group (`remaining.retain`).
-/
def retain (remaining : List String) (group : String) : List String :=
  remaining.filter (fun g => !Text.eqIgnoreAsciiCase g group)

theorem length_retain_le (remaining : List String) (group : String)
    : (retain remaining group).length ≤ remaining.length :=
  List.length_filter_le _ _

/--
Offer everything the server has not picked yet until it picks nothing, or something that was not in
the offer. Each round that goes on shortens the offer.
-/
def priorityRounds (adapters : AdapterRegistry) (adapter : String) (job : KemJob)
    (remaining order : List String) : ConsoleM (List String) :=
  if remaining.isEmpty then
    pure order
  else do
    let response ← probe adapters adapter (requestFor job remaining)
    if !response.handshakeSuccess then
      return order
    else
      match response.negotiated.group with
      | none => return order
      | some group =>
        Console.log "info" group
        if _h : (retain remaining group).length = remaining.length then
          return order ++ [group]
        else
          priorityRounds adapters adapter job (retain remaining group) (order ++ [group])
termination_by remaining.length
decreasing_by
  have := length_retain_le remaining group
  omega

def quoted (g : String) : String := "\"" ++ g ++ "\""

def priority (adapters : AdapterRegistry) (job : KemJob) : ConsoleM Unit := do
  let adapter ← liftExcept (preferredAdapter adapters)
  Console.log "info" s!"=== run_priority_test ({job.host}:{job.port}) ==="
  Console.log "info" "=== 演算法指定順序測試 ==="
  let caps ← ConsoleM.ofWorker (adapters.capabilities adapter)
  let offer := if job.kemGroups.isEmpty then caps.kemGroups else job.kemGroups
  let order ← priorityRounds adapters adapter job offer []
  let findings := evaluateOrder order
  if findings.isEmpty then
    Console.log "finding_ok" "[+] 伺服器的演算法指定順序符合安全性等級從高到低的最佳實踐"
  else
    findings.forM fun group =>
      Console.log "finding_warn" s!"[-] 伺服器將安全性較高演算法放在後面：{group}"
  let names := String.intercalate "," (order.map quoted)
  Console.log "result" s!"Final Order: [{names}]"

def runMode (adapters : AdapterRegistry) (job : KemJob) : ConsoleM Unit :=
  match job.mode with
  | .libraryCompat => libraryCompat adapters job
  | .groupCompat => groupCompat adapters job
  | .priority => priority adapters job

def startRun (runId : Uuid) : WorkerM Unit :=
  .attempt (.perform (Op.startKemRun runId))

def runConsole (adapters : AdapterRegistry) (job : KemJob) : ConsoleM Unit := do
  match ← ConsoleM.outcome (runMode adapters job) with
  | .ok () => Console.finish .finished
  | .error err =>
    Console.log "result" s!"Result: RunFailed - {err}"
    Console.finish .failed

def handle (adapters : AdapterRegistry) (job : KemJob) : WorkerM Unit := do
  startRun job.runId
  WorkerM.attempt (do
    let (outcome, _) ← (runConsole adapters job).run.run ⟨job.runId, 0⟩
    return outcome)

end kem

end PqCas
