import PqCas.Domain.Proto
import PqCas.Lib.Utf8

/-!
The wire contract as the Go adapter mirrors it by hand (`adapters/go/main.go`): the structs, and what
`encoding/json` makes of them.
-/

namespace PqCas

namespace go

abbrev GoString := List UInt8

def text (s : String) : GoString :=
  Utf8.encode s

/--
A Go slice. A nil slice is not an empty one when it is encoded.
-/
abbrev Slice (α : Type) := Option (List α)

def texts (names : List String) : Slice GoString :=
  some (names.map text)

structure Target where
  host : GoString
  port : Int
  sni : GoString
  httpPath : GoString

structure CaptureOptions where
  rawRecords : Bool
  keylog : Bool

structure ProbeRequest where
  target : Target
  kemGroups : Slice GoString
  sigAlgs : Slice GoString
  tlsVersions : Slice GoString
  cipherSuites : Slice GoString
  timeoutMS : Int
  capture : CaptureOptions

structure MessageField where
  label : GoString
  values : Slice GoString

structure HandshakeMessage where
  index : UInt32
  direction : GoString
  kind : GoString
  fields : Slice MessageField

structure Alert where
  level : GoString
  description : GoString

structure Negotiated where
  tlsVersion : Option GoString := none
  cipherSuite : Option GoString := none
  group : Option GoString := none
  certVerifySigAl : Option GoString := none

structure Certificate where
  subject : GoString
  issuer : GoString
  notBefore : Option GoString
  notAfter : Option GoString
  signatureAlgorithm : Option GoString
  publicKeyAlgorithm : Option GoString

structure HttpOutcome where
  status : Int
  headers : Slice MessageField
  bodyExcerpt : Option GoString

structure Evidence where
  bytesSent : UInt64 := 0
  bytesReceived : UInt64 := 0
  udsDumpB64 : Option GoString := none

structure Diagnostics where
  offeredGroups : Slice GoString
  offeredSigAlgs : Slice GoString
  note : GoString

structure ProbeResponse where
  adapter : GoString
  handshakeSuccess : Bool
  negotiated : Negotiated
  messages : Slice HandshakeMessage
  alert : Option Alert
  certChain : Slice Certificate
  http : Option HttpOutcome
  failedStage : GoString
  errorSummary : Option GoString
  diagnostics : Diagnostics
  evidence : Evidence
  durationMS : UInt64

section Encoding

/--
A string is written as UTF-8, whatever bytes it has.
-/
def jsonString (s : GoString) : Json :=
  .str (Utf8.lossy s)

def jsonSlice {α : Type} (f : α → Json) (items : Slice α) : Json :=
  match items with
  | some items => .arr (items.map f)
  | none => .null

def jsonUInt64 (n : UInt64) : Json :=
  .int n.toNat

def MessageField.toJson (field : MessageField) : Json :=
  .obj [("label", jsonString field.label), ("values", jsonSlice jsonString field.values)]

def HandshakeMessage.toJson (message : HandshakeMessage) : Json :=
  .obj [
    ("index", .int message.index.toNat),
    ("direction", jsonString message.direction),
    ("kind", jsonString message.kind),
    ("fields", jsonSlice MessageField.toJson message.fields)
  ]

def Alert.toJson (alert : Alert) : Json :=
  .obj [("level", jsonString alert.level), ("description", jsonString alert.description)]

/--
A field that is left out when the pointer is nil (`omitempty`).
-/
def jsonPointer {α : Type} (name : String) (f : α → Json) (value : Option α) : List (String × Json) :=
  Json.field name (value.map f)

def Negotiated.toJson (negotiated : Negotiated) : Json :=
  .obj (jsonPointer "tls_version" jsonString negotiated.tlsVersion
    ++ jsonPointer "cipher_suite" jsonString negotiated.cipherSuite
    ++ jsonPointer "group" jsonString negotiated.group
    ++ jsonPointer "cert_verify_sig_alg" jsonString negotiated.certVerifySigAl)

def Certificate.toJson (cert : Certificate) : Json :=
  .obj ([("subject", jsonString cert.subject), ("issuer", jsonString cert.issuer)]
    ++ jsonPointer "not_before" jsonString cert.notBefore
    ++ jsonPointer "not_after" jsonString cert.notAfter
    ++ jsonPointer "signature_algorithm" jsonString cert.signatureAlgorithm
    ++ jsonPointer "public_key_algorithm" jsonString cert.publicKeyAlgorithm)

def HttpOutcome.toJson (http : HttpOutcome) : Json :=
  .obj ([("status", .int http.status), ("headers", jsonSlice MessageField.toJson http.headers)]
    ++ jsonPointer "body_excerpt" jsonString http.bodyExcerpt)

def Evidence.toJson (evidence : Evidence) : Json :=
  .obj ([("bytes_sent", jsonUInt64 evidence.bytesSent), ("bytes_received", jsonUInt64 evidence.bytesReceived)]
    ++ jsonPointer "uds_dump_b64" jsonString evidence.udsDumpB64)

/--
The keys of a map are sorted.
-/
def Diagnostics.toJson (diagnostics : Diagnostics) : Json :=
  .obj [
    ("note", jsonString diagnostics.note),
    ("offeredGroups", jsonSlice jsonString diagnostics.offeredGroups),
    ("offeredSigAlgs", jsonSlice jsonString diagnostics.offeredSigAlgs)
  ]

def ProbeResponse.toJson (response : ProbeResponse) : Json :=
  .obj ([
      ("adapter", jsonString response.adapter),
      ("handshake_success", .bool response.handshakeSuccess),
      ("negotiated", response.negotiated.toJson),
      ("messages", jsonSlice HandshakeMessage.toJson response.messages)
    ]
    ++ jsonPointer "alert" Alert.toJson response.alert
    ++ [("cert_chain", jsonSlice Certificate.toJson response.certChain)]
    ++ jsonPointer "http" HttpOutcome.toJson response.http
    ++ [("failed_stage", jsonString response.failedStage)]
    ++ jsonPointer "error_summary" jsonString response.errorSummary
    ++ [
      ("diagnostics", response.diagnostics.toJson),
      ("evidence", response.evidence.toJson),
      ("duration_ms", jsonUInt64 response.durationMS)
    ])

end Encoding

section Decoding

/--
`Decode` into a field: nothing happens to it when the key is missing or the value is `null`.
-/
def decodeField {α : Type} (j : Json) (name : String) (zero : α) (f : Json → Option α) : Option α :=
  match j.get name with
  | none | some .null => some zero
  | some value => f value

def decodeString (j : Json) : Option GoString :=
  j.asStr.map text

def decodeInt (j : Json) : Option Int :=
  j.asI64

def decodeItem (j : Json) : Option GoString :=
  match j with
  | .null => some []
  | j => decodeString j

def decodeStrings (j : Json) : Option (Slice GoString) :=
  match j with
  | .arr items => (items.mapM decodeItem).map some
  | _ => none

def decodeTarget (j : Json) : Option Target := do
  let _ ← j.asObject
  return {
    host := ← decodeField j "host" [] decodeString
    port := ← decodeField j "port" 0 decodeInt
    sni := ← decodeField j "sni" [] decodeString
    httpPath := ← decodeField j "http_path" [] decodeString
  }

def decodeCapture (j : Json) : Option CaptureOptions := do
  let _ ← j.asObject
  return {
    rawRecords := ← decodeField j "raw_records" false Json.asBool
    keylog := ← decodeField j "keylog" false Json.asBool
  }

def ProbeRequest.fromJson (j : Json) : Option ProbeRequest := do
  let _ ← j.asObject
  return {
    target := ← decodeField j "target" ⟨[], 0, [], []⟩ decodeTarget
    kemGroups := ← decodeField j "kem_groups" none decodeStrings
    sigAlgs := ← decodeField j "sig_algs" none decodeStrings
    tlsVersions := ← decodeField j "tls_versions" none decodeStrings
    cipherSuites := ← decodeField j "cipher_suites" none decodeStrings
    timeoutMS := ← decodeField j "timeout_ms" 0 decodeInt
    capture := ← decodeField j "capture" ⟨false, false⟩ decodeCapture
  }

end Decoding

end go

end PqCas
