import PqCas.Domain.Wire
import PqCas.Lib.Codec

/-!
The sides of the wire contract (`adapter-proto`) that the adapter takes: a request is read, a report and
the capabilities are written. What either side writes, the other one reads back.
-/

namespace PqCas

section Requests

def Target.fromJson (j : Json) : Option Target := do
  return {
    host := ← j.required "host" Json.asStr
    port := ← j.required "port" Json.asU16
    sni := ← j.optional "sni" Json.asStr
    httpPath := ← j.optional "http_path" Json.asStr
  }

def CaptureOptions.fromJson (j : Json) : Option CaptureOptions := do
  let _ ← j.asObject
  return {
    rawRecords := ← j.orElse "raw_records" false Json.asBool
    keylog := ← j.orElse "keylog" false Json.asBool
  }

def ProbeRequest.fromJson (j : Json) : Option ProbeRequest := do
  return {
    target := ← j.required "target" Target.fromJson
    kemGroups := ← j.orElse "kem_groups" [] (Json.asVec Json.asStr)
    sigAlgs := ← j.orElse "sig_algs" [] (Json.asVec Json.asStr)
    tlsVersions := ← j.orElse "tls_versions" defaultTlsVersions (Json.asVec Json.asStr)
    cipherSuites := ← j.orElse "cipher_suites" [] (Json.asVec Json.asStr)
    timeoutMs := ← j.orElse "timeout_ms" defaultTimeoutMs Json.asU64
    capture := ← j.orElse "capture" ⟨false, false⟩ CaptureOptions.fromJson
  }

theorem Target.fromJson_toJson (target : Target) : Target.fromJson target.toJson = some target := by
  have hsni : target.toJson.optional "sni" Json.asStr = some target.sni := by
    apply Json.optional_str
    simp [Target.toJson, Json.lookup_entry, List.lookup_append, Json.lookup_field]
  have hpath : target.toJson.optional "http_path" Json.asStr = some target.httpPath := by
    apply Json.optional_str
    simp [Target.toJson, Json.lookup_entry, List.lookup_append, Json.lookup_field]
  have hport : target.toJson.required "port" Json.asU16 = some target.port :=
    Json.Codec.u16.required_of_get rfl
  unfold Target.fromJson
  rw [hsni, hpath, hport]
  rfl

theorem CaptureOptions.fromJson_toJson (capture : CaptureOptions)
    : CaptureOptions.fromJson capture.toJson = some capture := rfl

def Target.codec : Json.Codec Target :=
  ⟨toJson, fromJson, fromJson_toJson, nofun⟩

def CaptureOptions.codec : Json.Codec CaptureOptions :=
  ⟨toJson, fromJson, fromJson_toJson, nofun⟩

theorem ProbeRequest.fromJson_toJson (request : ProbeRequest)
    : ProbeRequest.fromJson request.toJson = some request := by
  have htarget : request.toJson.required "target" Target.fromJson = some request.target :=
    Target.codec.required_of_get rfl
  have hstrings : ∀ (name : String) (default items : List String),
      request.toJson.get name = some (Json.strings items) →
      request.toJson.orElse name default (Json.asVec Json.asStr) = some items :=
    fun _ _ _ h => Json.Codec.string.list.orElse_of_get h
  have htimeout : request.toJson.orElse "timeout_ms" defaultTimeoutMs Json.asU64
      = some request.timeoutMs :=
    Json.Codec.u64.orElse_of_get rfl
  have hcapture : request.toJson.orElse "capture" ⟨false, false⟩ CaptureOptions.fromJson
      = some request.capture :=
    CaptureOptions.codec.orElse_of_get rfl
  unfold ProbeRequest.fromJson
  rw [htarget, hstrings "kem_groups" _ _ rfl, hstrings "sig_algs" _ _ rfl,
    hstrings "tls_versions" _ _ rfl, hstrings "cipher_suites" _ _ rfl, htimeout, hcapture]
  rfl

end Requests

section Reports

def Stage.toJson (s : Stage) : Json :=
  .str s.asStr

def Direction.toJson (direction : Direction) : Json :=
  match direction with
  | .outbound => .str "outbound"
  | .inbound => .str "inbound"

def MessageField.toJson (field : MessageField) : Json :=
  .obj [("label", .str field.label), ("values", Json.strings field.values)]

def HandshakeMessage.toJson (message : HandshakeMessage) : Json :=
  .obj [
    ("index", .int message.index.toNat),
    ("direction", message.direction.toJson),
    ("kind", .str message.kind),
    ("fields", .arr (message.fields.map MessageField.toJson))
  ]

def Alert.toJson (alert : Alert) : Json :=
  .obj [("level", .str alert.level), ("description", .str alert.description)]

def Negotiated.toJson (negotiated : Negotiated) : Json :=
  .obj (Json.field "tls_version" (negotiated.tlsVersion.map .str)
    ++ Json.field "cipher_suite" (negotiated.cipherSuite.map .str)
    ++ Json.field "group" (negotiated.group.map .str)
    ++ Json.field "cert_verify_sig_alg" (negotiated.certVerifySigAlg.map .str))

def Certificate.toJson (cert : Certificate) : Json :=
  .obj ([("subject", .str cert.subject), ("issuer", .str cert.issuer)]
    ++ Json.field "not_before" (cert.notBefore.map .str)
    ++ Json.field "not_after" (cert.notAfter.map .str)
    ++ Json.field "signature_algorithm" (cert.signatureAlgorithm.map .str)
    ++ Json.field "public_key_algorithm" (cert.publicKeyAlgorithm.map .str)
    ++ Json.field "sha256_fingerprint" (cert.sha256Fingerprint.map .str))

def HttpOutcome.toJson (http : HttpOutcome) : Json :=
  .obj ([
      ("status", .int http.status.toNat),
      ("headers", .arr (http.headers.map MessageField.toJson))
    ]
    ++ Json.field "body_excerpt" (http.bodyExcerpt.map .str))

def Evidence.toJson (evidence : Evidence) : Json :=
  .obj ([
      ("bytes_sent", .int evidence.bytesSent.toNat),
      ("bytes_received", .int evidence.bytesReceived.toNat)
    ]
    ++ Json.field "uds_dump_b64" (evidence.udsDumpB64.map .str)
    ++ Json.field "keylog" (evidence.keylog.map .str))

def ProbeResponse.toJson (response : ProbeResponse) : Json :=
  .obj ([
      ("adapter", .str response.adapter),
      ("handshake_success", .bool response.handshakeSuccess),
      ("negotiated", response.negotiated.toJson),
      ("messages", .arr (response.messages.map HandshakeMessage.toJson))
    ]
    ++ Json.field "alert" (response.alert.map Alert.toJson)
    ++ [("cert_chain", .arr (response.certChain.map Certificate.toJson))]
    ++ Json.field "http" (response.http.map HttpOutcome.toJson)
    ++ [("failed_stage", response.failedStage.toJson)]
    ++ Json.field "error_summary" (response.errorSummary.map .str)
    ++ [
      ("diagnostics", response.diagnostics),
      ("evidence", response.evidence.toJson),
      ("duration_ms", .int response.durationMs.toNat)
    ])

theorem Stage.fromJson_toJson (s : Stage) : Stage.fromJson s.toJson = some s := by
  cases s <;> rfl

theorem Direction.fromJson_toJson (direction : Direction)
    : Direction.fromJson direction.toJson = some direction := by
  cases direction <;> rfl

theorem MessageField.fromJson_toJson (field : MessageField)
    : MessageField.fromJson field.toJson = some field := by
  have hvalues : field.toJson.required "values" (Json.asVec Json.asStr) = some field.values :=
    Json.Codec.string.list.required_of_get rfl
  unfold MessageField.fromJson
  rw [hvalues]
  rfl

def Stage.codec : Json.Codec Stage :=
  ⟨toJson, fromJson, fromJson_toJson, nofun⟩

def Direction.codec : Json.Codec Direction :=
  ⟨toJson, fromJson, fromJson_toJson, fun direction => by cases direction <;> nofun⟩

def MessageField.codec : Json.Codec MessageField :=
  ⟨toJson, fromJson, fromJson_toJson, nofun⟩

theorem HandshakeMessage.fromJson_toJson (message : HandshakeMessage)
    : HandshakeMessage.fromJson message.toJson = some message := by
  have hindex : message.toJson.required "index" Json.asU32 = some message.index :=
    Json.Codec.u32.required_of_get rfl
  have hdirection : message.toJson.required "direction" Direction.fromJson = some message.direction :=
    Direction.codec.required_of_get rfl
  have hfields : message.toJson.orElse "fields" [] (Json.asVec MessageField.fromJson)
      = some message.fields :=
    MessageField.codec.list.orElse_of_get rfl
  unfold HandshakeMessage.fromJson
  rw [hindex, hdirection, hfields]
  rfl

theorem Alert.fromJson_toJson (alert : Alert) : Alert.fromJson alert.toJson = some alert := rfl

theorem Negotiated.fromJson_toJson (negotiated : Negotiated)
    : Negotiated.fromJson negotiated.toJson = some negotiated := by
  unfold Negotiated.fromJson
  rw [Json.optional_str, Json.optional_str, Json.optional_str, Json.optional_str]
  . rfl
  all_goals
    simp [Negotiated.toJson, List.lookup_append, Json.lookup_field]

theorem Certificate.fromJson_toJson (cert : Certificate)
    : Certificate.fromJson cert.toJson = some cert := by
  unfold Certificate.fromJson
  rw [Json.optional_str, Json.optional_str, Json.optional_str, Json.optional_str, Json.optional_str]
  . rfl
  all_goals
    simp [Certificate.toJson, Json.lookup_entry, List.lookup_append, Json.lookup_field]

theorem HttpOutcome.fromJson_toJson (http : HttpOutcome)
    : HttpOutcome.fromJson http.toJson = some http := by
  have hstatus : http.toJson.required "status" Json.asU16 = some http.status :=
    Json.Codec.u16.required_of_get rfl
  have hheaders : http.toJson.orElse "headers" [] (Json.asVec MessageField.fromJson)
      = some http.headers :=
    MessageField.codec.list.orElse_of_get rfl
  have hexcerpt : http.toJson.optional "body_excerpt" Json.asStr = some http.bodyExcerpt := by
    apply Json.optional_str
    simp [HttpOutcome.toJson, Json.lookup_entry, Json.lookup_field]
  unfold HttpOutcome.fromJson
  rw [hstatus, hheaders, hexcerpt]
  rfl

theorem Evidence.fromJson_toJson (evidence : Evidence)
    : Evidence.fromJson evidence.toJson = some evidence := by
  have hsent : evidence.toJson.orElse "bytes_sent" 0 Json.asU64 = some evidence.bytesSent :=
    Json.Codec.u64.orElse_of_get rfl
  have hreceived : evidence.toJson.orElse "bytes_received" 0 Json.asU64 = some evidence.bytesReceived :=
    Json.Codec.u64.orElse_of_get rfl
  have hdump : evidence.toJson.optional "uds_dump_b64" Json.asStr = some evidence.udsDumpB64 := by
    apply Json.optional_str
    simp [Evidence.toJson, Json.lookup_entry, List.lookup_append, Json.lookup_field]
  have hkeylog : evidence.toJson.optional "keylog" Json.asStr = some evidence.keylog := by
    apply Json.optional_str
    simp [Evidence.toJson, Json.lookup_entry, List.lookup_append, Json.lookup_field]
  unfold Evidence.fromJson
  rw [hsent, hreceived, hdump, hkeylog]
  rfl

def HandshakeMessage.codec : Json.Codec HandshakeMessage :=
  ⟨toJson, fromJson, fromJson_toJson, nofun⟩

def Alert.codec : Json.Codec Alert :=
  ⟨toJson, fromJson, fromJson_toJson, nofun⟩

def Negotiated.codec : Json.Codec Negotiated :=
  ⟨toJson, fromJson, fromJson_toJson, nofun⟩

def Certificate.codec : Json.Codec Certificate :=
  ⟨toJson, fromJson, fromJson_toJson, nofun⟩

def HttpOutcome.codec : Json.Codec HttpOutcome :=
  ⟨toJson, fromJson, fromJson_toJson, nofun⟩

def Evidence.codec : Json.Codec Evidence :=
  ⟨toJson, fromJson, fromJson_toJson, nofun⟩

theorem ProbeResponse.fromJson_toJson (response : ProbeResponse)
    : ProbeResponse.fromJson response.toJson = some response := by
  have hnegotiated : response.toJson.orElse "negotiated" {} Negotiated.fromJson
      = some response.negotiated :=
    Negotiated.codec.orElse_of_get rfl
  have hmessages : response.toJson.orElse "messages" [] (Json.asVec HandshakeMessage.fromJson)
      = some response.messages :=
    HandshakeMessage.codec.list.orElse_of_get rfl
  have halert : response.toJson.optional "alert" Alert.fromJson = some response.alert := by
    apply Alert.codec.optional_of_get
    simp [ProbeResponse.toJson, Alert.codec, Json.lookup_entry, List.lookup_append, Json.lookup_field]
  have hcerts : response.toJson.orElse "cert_chain" [] (Json.asVec Certificate.fromJson)
      = some response.certChain := by
    apply Certificate.codec.list.orElse_of_get
    simp [ProbeResponse.toJson, Certificate.codec, Json.Codec.list, Json.lookup_entry,
      List.lookup_append, Json.lookup_field]
  have hhttp : response.toJson.optional "http" HttpOutcome.fromJson = some response.http := by
    apply HttpOutcome.codec.optional_of_get
    simp [ProbeResponse.toJson, HttpOutcome.codec, Json.lookup_entry, List.lookup_append,
      Json.lookup_field]
  have hstage : response.toJson.required "failed_stage" Stage.fromJson = some response.failedStage := by
    apply Stage.codec.required_of_get
    simp [ProbeResponse.toJson, Stage.codec, Json.lookup_entry, List.lookup_append, Json.lookup_field]
  have hsummary : response.toJson.optional "error_summary" Json.asStr = some response.errorSummary := by
    apply Json.optional_str
    simp [ProbeResponse.toJson, Json.lookup_entry, List.lookup_append,
      Json.lookup_field]
  have hdiagnostics : response.toJson.orElse "diagnostics" .null some = some response.diagnostics := by
    apply Json.orElse_of_get
    simp [ProbeResponse.toJson, Json.lookup_entry, List.lookup_append, Json.lookup_field]
  have hevidence : response.toJson.orElse "evidence" {} Evidence.fromJson = some response.evidence := by
    apply Evidence.codec.orElse_of_get
    simp [ProbeResponse.toJson, Evidence.codec, Json.lookup_entry, List.lookup_append, Json.lookup_field]
  have hduration : response.toJson.required "duration_ms" Json.asU64 = some response.durationMs := by
    apply Json.Codec.u64.required_of_get
    simp [ProbeResponse.toJson, Json.Codec.u64, Json.lookup_entry, List.lookup_append,
      Json.lookup_field]
  unfold ProbeResponse.fromJson
  rw [hnegotiated, hmessages, halert, hcerts, hhttp, hstage, hsummary, hdiagnostics, hevidence, hduration]
  rfl

end Reports

section Capabilities

def Capabilities.toJson (capabilities : Capabilities) : Json :=
  .obj [
    ("adapter", .str capabilities.adapter),
    ("version", .str capabilities.version),
    ("kem_groups", Json.strings capabilities.kemGroups),
    ("sig_algs", Json.strings capabilities.sigAlgs),
    ("tls_versions", Json.strings capabilities.tlsVersions)
  ]

def Capabilities.fromJson (j : Json) : Option Capabilities := do
  return {
    adapter := ← j.required "adapter" Json.asStr
    version := ← j.required "version" Json.asStr
    kemGroups := ← j.orElse "kem_groups" [] (Json.asVec Json.asStr)
    sigAlgs := ← j.orElse "sig_algs" [] (Json.asVec Json.asStr)
    tlsVersions := ← j.orElse "tls_versions" [] (Json.asVec Json.asStr)
  }

theorem Capabilities.fromJson_toJson (capabilities : Capabilities)
    : Capabilities.fromJson capabilities.toJson = some capabilities := by
  have hstrings : ∀ (name : String) (items : List String),
      capabilities.toJson.get name = some (Json.strings items) →
      capabilities.toJson.orElse name [] (Json.asVec Json.asStr) = some items :=
    fun _ _ h => Json.Codec.string.list.orElse_of_get h
  unfold Capabilities.fromJson
  rw [hstrings "kem_groups" _ rfl, hstrings "sig_algs" _ rfl, hstrings "tls_versions" _ rfl]
  rfl

end Capabilities

end PqCas
