import PqCas.Go.Groups
import PqCas.Go.Http

/-!
The probe of the Go adapter (`probe` in `adapters/go/main.go`). What the standard library makes of the
connection is a parameter.
-/

namespace PqCas

namespace go

def versionName (v : UInt16) : String :=
  match v with
  | 0x0304 => "TLSv1.3"
  | 0x0303 => "TLSv1.2"
  | 0x0302 => "TLSv1.1"
  | 0x0301 => "TLSv1.0"
  | v => "0x" ++ String.ofList ((Nat.toDigits 16 v.toNat).leftpad 4 '0')

inductive Curve where
  | known (id : CurveID)
  | other (name : String)

def isCapitalised (name : String) : Bool :=
  match name.toList with
  | [] => false
  | c :: rest => name.toList = c.toUpper :: rest

/--
Two loops over the map, each in an order of its own.
-/
def groupName (first second : List (String × CurveID)) (curve : Curve) : String :=
  match curve with
  | .other name => name
  | .known id =>
    match first.find? (fun entry => entry.2 = id && isCapitalised entry.1) with
    | some entry => entry.1
    | none => (firstAlias second id).getD ""

/--
`strings.ToLower`, as far as ASCII letters come of it: besides `A` to `Z` two letters have one as their lower case.
-/
def toLower (s : String) : String :=
  String.ofList (s.toList.map (fun c =>
    if c = '\u0130' then
      'i'
    else if c = '\u212A' then
      'k'
    else
      c.toLower))

def alertFromError (msg : String) : Option Alert :=
  let msg := toLower msg
  let fatal (description : String) : Option Alert := some ⟨text "fatal", text description⟩
  if Text.contains msg "handshake failure" then
    fatal "handshake_failure"
  else if Text.contains msg "bad record mac" || Text.contains msg "decryption failed" then
    fatal "bad_record_mac"
  else if Text.contains msg "protocol version" then
    fatal "protocol_version"
  else if Text.contains msg "illegal parameter" then
    fatal "illegal_parameter"
  else if Text.contains msg "unknown certificate authority" || Text.contains msg "unknown ca" then
    fatal "unknown_ca"
  else
    none

def clientHello (request : ProbeRequest) : HandshakeMessage :=
  let versions := if request.tlsVersions.getD [] = [] then
      texts ["TLSv1.3", "TLSv1.2"]
    else
      request.tlsVersions
  {
    index := 0
    direction := text "outbound"
    kind := text "ClientHello"
    fields := some [
      ⟨text "Offered Groups", request.kemGroups⟩,
      ⟨text "Signature Algorithms", request.sigAlgs⟩,
      ⟨text "Supported Versions", versions⟩,
      ⟨text "Cipher Suites Offered",
        texts ["TLS_AES_128_GCM_SHA256", "TLS_AES_256_GCM_SHA384", "TLS_CHACHA20_POLY1305_SHA256"]⟩
    ]
  }

structure PeerCertificate where
  subject : String
  issuer : String
  notBefore : String
  notAfter : String
  signatureAlgorithm : String
  publicKeyAlgorithm : String

structure ConnectionState where
  version : UInt16
  cipherSuiteName : String
  curve : Curve
  peerCertificates : List PeerCertificate

inductive Outcome where
  | dialError (err : String)
  | handshakeError (err : String) (written read : UInt64)
  | connected (state : ConnectionState) (exchange : Exchange) (written read : UInt64)

/--
The probe does not dial: there are names in the offer, and none of them is in the map.
-/
def refuses (request : ProbeRequest) : Bool :=
  let names := request.kemGroups.getD []
  names ≠ [] && names.all (fun name => name ∉ groupByName.map (fun entry => text entry.1))

def unknownGroups (request : ProbeRequest) : GoString :=
  (text ", ").intercalate ((request.kemGroups.getD []).filter (fun name =>
    name ∉ groupByName.map (fun entry => text entry.1)))

def blankResponse (request : ProbeRequest) (adapterName : String) (elapsed : UInt64) : ProbeResponse :=
  {
    adapter := text adapterName
    handshakeSuccess := false
    negotiated := {}
    messages := some [clientHello request]
    alert := none
    certChain := some []
    http := none
    failedStage := text "tls_handshake"
    errorSummary := none
    diagnostics := {
      offeredGroups := request.kemGroups
      offeredSigAlgs := request.sigAlgs
      note := text "crypto/tls does not expose signature_algorithms selection; groups are pinned, signature algorithms are advisory"
    }
    evidence := {}
    durationMS := elapsed
  }

def alertMessage (alert : Alert) : HandshakeMessage :=
  {
    index := 1
    direction := text "inbound"
    kind := text "Alert"
    fields := some [⟨text "Level", some [alert.level]⟩, ⟨text "Description", some [alert.description]⟩]
  }

def serverHello (state : ConnectionState) (group : String) : HandshakeMessage :=
  {
    index := 1
    direction := text "inbound"
    kind := text "ServerHello"
    fields := some [
      ⟨text "Version", texts [versionName state.version]⟩,
      ⟨text "Cipher Suite", texts [state.cipherSuiteName]⟩,
      ⟨text "Key Exchange Group", texts [group]⟩
    ]
  }

def certificateOf (cert : PeerCertificate) : Certificate :=
  {
    subject := text cert.subject
    issuer := text cert.issuer
    notBefore := some (text cert.notBefore)
    notAfter := some (text cert.notAfter)
    signatureAlgorithm := some (text cert.signatureAlgorithm)
    publicKeyAlgorithm := some (text cert.publicKeyAlgorithm)
  }

section Probe

-- The order of the n-th loop over the map, and the standard encoding of `encoding/base64`.
variable (order : Nat → List (String × CurveID)) (base64 : GoString → String)

def rawBytes (exchange : Exchange) : GoString :=
  match exchange with
  | .failed _ => []
  | .answer raw => raw

def probe (request : ProbeRequest) (adapterName : String) (outcome : Outcome) (elapsed : UInt64)
    : ProbeResponse :=
  let resp := blankResponse request adapterName elapsed
  if refuses request then
    { resp with errorSummary := some (text "crypto/tls does not implement: " ++ unknownGroups request) }
  else
    match outcome with
    | .dialError err => { resp with failedStage := text "tcp", errorSummary := some (text err) }
    | .handshakeError err written read =>
      let alert := alertFromError err
      { resp with
        alert := alert
        errorSummary := some (text err)
        messages := some (clientHello request :: (alert.map alertMessage).toList)
        evidence := { bytesSent := written, bytesReceived := read }
      }
    | .connected state exchange written read =>
      let resp := { resp with
        handshakeSuccess := true
        negotiated := {
          tlsVersion := some (text (versionName state.version))
          cipherSuite := some (text state.cipherSuiteName)
          group := some (text (groupName (order 0) (order 1) state.curve))
        }
        messages := some [clientHello request, serverHello state (groupName (order 2) (order 3) state.curve)]
        certChain := some (state.peerCertificates.map certificateOf)
        evidence := { bytesSent := written, bytesReceived := read }
      }
      match doHTTP exchange with
      | .ok http =>
        { resp with
          http := some http
          failedStage := text "complete"
          evidence := { resp.evidence with
            udsDumpB64 := if request.capture.rawRecords then some (text (base64 (rawBytes exchange))) else none
          }
        }
      | .error err => { resp with failedStage := text "http_request", errorSummary := some (text err) }

end Probe

end go

end PqCas
