import PqCas.Domain.Proto
import PqCas.Lib.Serde

/-!
What `serde` makes of the wire contract: a request is written, a report is read.
-/

namespace PqCas

section Writing

def Target.toJson (target : Target) : Json :=
  .obj ([("host", .str target.host), ("port", .int target.port.toNat)]
    ++ Json.field "sni" (target.sni.map .str)
    ++ Json.field "http_path" (target.httpPath.map .str))

def CaptureOptions.toJson (capture : CaptureOptions) : Json :=
  .obj [("raw_records", .bool capture.rawRecords), ("keylog", .bool capture.keylog)]

def ProbeRequest.toJson (request : ProbeRequest) : Json :=
  .obj [
    ("target", request.target.toJson),
    ("kem_groups", Json.strings request.kemGroups),
    ("sig_algs", Json.strings request.sigAlgs),
    ("tls_versions", Json.strings request.tlsVersions),
    ("cipher_suites", Json.strings request.cipherSuites),
    ("timeout_ms", .int request.timeoutMs.toNat),
    ("capture", request.capture.toJson)
  ]

end Writing

section Reading

def Stage.fromJson (j : Json) : Option Stage :=
  match j with
  | .str "dns" => some .dns
  | .str "tcp" => some .tcp
  | .str "tls_handshake" => some .tlsHandshake
  | .str "http_request" => some .httpRequest
  | .str "complete" => some .complete
  | _ => none

def Direction.fromJson (j : Json) : Option Direction :=
  match j with
  | .str "outbound" => some .outbound
  | .str "inbound" => some .inbound
  | _ => none

def MessageField.fromJson (j : Json) : Option MessageField := do
  return {
    label := ← j.required "label" Json.asStr
    values := ← j.required "values" (Json.asVec Json.asStr)
  }

def HandshakeMessage.fromJson (j : Json) : Option HandshakeMessage := do
  return {
    index := ← j.required "index" Json.asU32
    direction := ← j.required "direction" Direction.fromJson
    kind := ← j.required "kind" Json.asStr
    fields := ← j.orElse "fields" [] (Json.asVec MessageField.fromJson)
  }

def Alert.fromJson (j : Json) : Option Alert := do
  return {
    level := ← j.required "level" Json.asStr
    description := ← j.required "description" Json.asStr
  }

def Negotiated.fromJson (j : Json) : Option Negotiated := do
  let _ ← j.asObject
  return {
    tlsVersion := ← j.optional "tls_version" Json.asStr
    cipherSuite := ← j.optional "cipher_suite" Json.asStr
    group := ← j.optional "group" Json.asStr
    certVerifySigAlg := ← j.optional "cert_verify_sig_alg" Json.asStr
  }

def Certificate.fromJson (j : Json) : Option Certificate := do
  return {
    subject := ← j.required "subject" Json.asStr
    issuer := ← j.required "issuer" Json.asStr
    notBefore := ← j.optional "not_before" Json.asStr
    notAfter := ← j.optional "not_after" Json.asStr
    signatureAlgorithm := ← j.optional "signature_algorithm" Json.asStr
    publicKeyAlgorithm := ← j.optional "public_key_algorithm" Json.asStr
    sha256Fingerprint := ← j.optional "sha256_fingerprint" Json.asStr
  }

def HttpOutcome.fromJson (j : Json) : Option HttpOutcome := do
  return {
    status := ← j.required "status" Json.asU16
    headers := ← j.orElse "headers" [] (Json.asVec MessageField.fromJson)
    bodyExcerpt := ← j.optional "body_excerpt" Json.asStr
  }

def Evidence.fromJson (j : Json) : Option Evidence := do
  let _ ← j.asObject
  return {
    bytesSent := ← j.orElse "bytes_sent" 0 Json.asU64
    bytesReceived := ← j.orElse "bytes_received" 0 Json.asU64
    udsDumpB64 := ← j.optional "uds_dump_b64" Json.asStr
    keylog := ← j.optional "keylog" Json.asStr
  }

def ProbeResponse.fromJson (j : Json) : Option ProbeResponse := do
  return {
    adapter := ← j.required "adapter" Json.asStr
    handshakeSuccess := ← j.required "handshake_success" Json.asBool
    negotiated := ← j.orElse "negotiated" {} Negotiated.fromJson
    messages := ← j.orElse "messages" [] (Json.asVec HandshakeMessage.fromJson)
    alert := ← j.optional "alert" Alert.fromJson
    certChain := ← j.orElse "cert_chain" [] (Json.asVec Certificate.fromJson)
    http := ← j.optional "http" HttpOutcome.fromJson
    failedStage := ← j.required "failed_stage" Stage.fromJson
    errorSummary := ← j.optional "error_summary" Json.asStr
    diagnostics := ← j.orElse "diagnostics" .null some
    evidence := ← j.orElse "evidence" {} Evidence.fromJson
    durationMs := ← j.required "duration_ms" Json.asU64
  }

end Reading

end PqCas
