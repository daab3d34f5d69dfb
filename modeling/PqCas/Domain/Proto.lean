import PqCas.Domain.Status
import PqCas.Lib.Json

/-!
The wire contract between the worker and the TLS prober adapters (`adapter-proto`).
-/

namespace PqCas

structure Target where
  host : String
  port : UInt16
  sni : Option String
  httpPath : Option String

structure CaptureOptions where
  rawRecords : Bool
  keylog : Bool

structure ProbeRequest where
  target : Target
  /-- TLS `key_share` / `supported_groups` entries to offer, in preference order. -/
  kemGroups : List String
  sigAlgs : List String
  tlsVersions : List String
  cipherSuites : List String
  timeoutMs : UInt64
  capture : CaptureOptions

namespace ProbeRequest

def defaultTlsVersions : List String := ["TLSv1.3", "TLSv1.2"]

def defaultTimeoutMs : UInt64 := 15000

def new (target : Target) : ProbeRequest :=
  {
    target := target
    kemGroups := []
    sigAlgs := []
    tlsVersions := defaultTlsVersions
    cipherSuites := []
    timeoutMs := defaultTimeoutMs
    capture := ⟨false, false⟩
  }

end ProbeRequest

inductive Stage where
  | dns
  | tcp
  | tlsHandshake
  | httpRequest
  | complete
  deriving DecidableEq, Repr

def Stage.asStr (s : Stage) : String :=
  match s with
  | .dns => "dns"
  | .tcp => "tcp"
  | .tlsHandshake => "tls_handshake"
  | .httpRequest => "http_request"
  | .complete => "complete"

inductive Direction where
  | outbound
  | inbound
  deriving DecidableEq, Repr

structure MessageField where
  label : String
  values : List String
  deriving DecidableEq, Repr

structure HandshakeMessage where
  index : UInt32
  direction : Direction
  kind : String
  fields : List MessageField
  deriving DecidableEq, Repr

structure Alert where
  level : String
  description : String
  deriving DecidableEq, Repr

structure Negotiated where
  tlsVersion : Option String := none
  cipherSuite : Option String := none
  group : Option String := none
  certVerifySigAlg : Option String := none
  deriving DecidableEq, Repr

structure Certificate where
  subject : String
  issuer : String
  notBefore : Option String
  notAfter : Option String
  signatureAlgorithm : Option String
  publicKeyAlgorithm : Option String
  sha256Fingerprint : Option String
  deriving DecidableEq, Repr

structure HttpOutcome where
  status : UInt16
  headers : List MessageField
  bodyExcerpt : Option String
  deriving DecidableEq, Repr

structure Evidence where
  bytesSent : UInt64 := 0
  bytesReceived : UInt64 := 0
  udsDumpB64 : Option String := none
  keylog : Option String := none
  deriving DecidableEq, Repr

structure ProbeResponse where
  adapter : String
  handshakeSuccess : Bool
  negotiated : Negotiated
  messages : List HandshakeMessage
  alert : Option Alert
  certChain : List Certificate
  http : Option HttpOutcome
  failedStage : Stage
  errorSummary : Option String
  diagnostics : Json
  evidence : Evidence
  durationMs : UInt64

/--
A response for something that never reached the wire.
-/
def ProbeResponse.failure (adapter : String) (stage : Stage) (error : String) : ProbeResponse :=
  {
    adapter := adapter
    handshakeSuccess := false
    negotiated := {}
    messages := []
    alert := none
    certChain := []
    http := none
    failedStage := stage
    errorSummary := some error
    diagnostics := .null
    evidence := {}
    durationMs := 0
  }

/--
Advertised by each adapter, to tell "this stack cannot do that algorithm" from "we did not build
that adapter".
-/
structure Capabilities where
  adapter : String
  version : String
  kemGroups : List String
  sigAlgs : List String
  tlsVersions : List String
  deriving DecidableEq, Repr

end PqCas
