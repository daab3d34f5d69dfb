import PqCas.Domain.Wire
import PqCas.Go.Probe

/-!
The structs of the Go adapter next to the ones of the worker: a report with the values of a response is
read as that response.
-/

namespace PqCas

namespace go

section Mirror

def mirrorField (field : PqCas.MessageField) : MessageField :=
  ⟨text field.label, texts field.values⟩

def directionName (direction : Direction) : String :=
  match direction with
  | .outbound => "outbound"
  | .inbound => "inbound"

def mirrorMessage (message : PqCas.HandshakeMessage) : HandshakeMessage :=
  {
    index := message.index
    direction := text (directionName message.direction)
    kind := text message.kind
    fields := some (message.fields.map mirrorField)
  }

def mirrorAlert (alert : PqCas.Alert) : Alert :=
  ⟨text alert.level, text alert.description⟩

def mirrorNegotiated (negotiated : PqCas.Negotiated) : Negotiated :=
  {
    tlsVersion := negotiated.tlsVersion.map text
    cipherSuite := negotiated.cipherSuite.map text
    group := negotiated.group.map text
    certVerifySigAl := negotiated.certVerifySigAlg.map text
  }

def mirrorCertificate (cert : PqCas.Certificate) : Certificate :=
  {
    subject := text cert.subject
    issuer := text cert.issuer
    notBefore := cert.notBefore.map text
    notAfter := cert.notAfter.map text
    signatureAlgorithm := cert.signatureAlgorithm.map text
    publicKeyAlgorithm := cert.publicKeyAlgorithm.map text
  }

def mirrorHttp (http : PqCas.HttpOutcome) : HttpOutcome :=
  {
    status := http.status.toNat
    headers := some (http.headers.map mirrorField)
    bodyExcerpt := http.bodyExcerpt.map text
  }

def mirrorEvidence (evidence : PqCas.Evidence) : Evidence :=
  {
    bytesSent := evidence.bytesSent
    bytesReceived := evidence.bytesReceived
    udsDumpB64 := evidence.udsDumpB64.map text
  }

/--
The two structs have the same values. What the adapter does not have in its structs is absent, and the
free-form diagnostics are what was written.
-/
structure Mirrors (report : ProbeResponse) (response : PqCas.ProbeResponse) : Prop where
  adapter : report.adapter = text response.adapter
  handshakeSuccess : report.handshakeSuccess = response.handshakeSuccess
  negotiated : report.negotiated = mirrorNegotiated response.negotiated
  messages : report.messages = some (response.messages.map mirrorMessage)
  alert : report.alert = response.alert.map mirrorAlert
  certChain : report.certChain = some (response.certChain.map mirrorCertificate)
  fingerprints : ∀ cert ∈ response.certChain, cert.sha256Fingerprint = none
  http : report.http = response.http.map mirrorHttp
  failedStage : report.failedStage = text response.failedStage.asStr
  errorSummary : report.errorSummary = response.errorSummary.map text
  diagnostics : report.diagnostics.toJson = response.diagnostics
  evidence : report.evidence = mirrorEvidence response.evidence
  keylog : response.evidence.keylog = none
  durationMS : report.durationMS = response.durationMs

end Mirror

section Reading

theorem asStr_jsonString (s : String) : (jsonString (text s)).asStr = some s := by
  unfold jsonString text
  rw [Utf8.lossy_encode]
  rfl

theorem jsonString_ne_null (s : String) : jsonString (text s) ≠ .null := nofun

theorem jsonSlice_map {α β : Type} (f : α → Json) (g : β → α) (items : List β)
    : jsonSlice f (some (items.map g)) = .arr (items.map (fun x => f (g x))) := by
  unfold jsonSlice
  dsimp only
  rw [List.map_map]
  rfl

theorem asVec_texts (names : List String) : Json.asVec Json.asStr (jsonSlice jsonString (texts names)) = some names := by
  unfold texts
  rw [jsonSlice_map]
  exact Json.asVec_map (fun name _ => asStr_jsonString name)

theorem fromJson_field (field : PqCas.MessageField)
    : PqCas.MessageField.fromJson (mirrorField field).toJson = some field := by
  unfold PqCas.MessageField.fromJson
  rw [Json.required_of_get rfl, Json.required_of_get rfl]
  have hlabel : (jsonString (mirrorField field).label).asStr = some field.label :=
    asStr_jsonString field.label
  have hvalues : Json.asVec Json.asStr (jsonSlice jsonString (mirrorField field).values) = some field.values :=
    asVec_texts field.values
  rw [hlabel, hvalues]
  rfl

theorem asVec_fields (fields : List PqCas.MessageField)
    : Json.asVec PqCas.MessageField.fromJson (jsonSlice MessageField.toJson (some (fields.map mirrorField)))
        =
      some fields := by
  rw [jsonSlice_map]
  exact Json.asVec_map (fun field _ => fromJson_field field)

theorem fromJson_direction (direction : Direction)
    : Direction.fromJson (jsonString (text (directionName direction))) = some direction := by
  unfold jsonString text
  rw [Utf8.lossy_encode]
  cases direction <;> rfl

theorem fromJson_stage (stage : Stage) : Stage.fromJson (jsonString (text stage.asStr)) = some stage := by
  unfold jsonString text
  rw [Utf8.lossy_encode]
  cases stage <;> rfl

theorem fromJson_message (message : PqCas.HandshakeMessage)
    : PqCas.HandshakeMessage.fromJson (mirrorMessage message).toJson = some message := by
  unfold PqCas.HandshakeMessage.fromJson
  rw [Json.required_of_get rfl, Json.required_of_get rfl, Json.required_of_get rfl, Json.orElse_of_get rfl]
  have hindex : Json.asU32 (.int (mirrorMessage message).index.toNat) = some message.index :=
    Json.asU32_int message.index
  have hdirection : Direction.fromJson (jsonString (mirrorMessage message).direction) = some message.direction :=
    fromJson_direction message.direction
  have hkind : (jsonString (mirrorMessage message).kind).asStr = some message.kind :=
    asStr_jsonString message.kind
  have hfields : Json.asVec PqCas.MessageField.fromJson
      (jsonSlice MessageField.toJson (mirrorMessage message).fields) = some message.fields :=
    asVec_fields message.fields
  rw [hindex, hdirection, hkind, hfields]
  rfl

theorem fromJson_alert (alert : PqCas.Alert)
    : PqCas.Alert.fromJson (mirrorAlert alert).toJson = some alert := by
  unfold PqCas.Alert.fromJson
  rw [Json.required_of_get rfl, Json.required_of_get rfl]
  have hlevel : (jsonString (mirrorAlert alert).level).asStr = some alert.level := asStr_jsonString alert.level
  have hdescription : (jsonString (mirrorAlert alert).description).asStr = some alert.description :=
    asStr_jsonString alert.description
  rw [hlevel, hdescription]
  rfl

theorem lookup_pointer {α : Type} (name key : String) (f : α → Json) (value : Option α)
    : (jsonPointer name f value).lookup key = if key = name then value.map f else none :=
  Json.lookup_field name key (value.map f)

theorem optional_string {j : Json} {name : String} {value : Option String}
    (h : j.get name = (value.map text).map jsonString) : j.optional name Json.asStr = some value := by
  rw [Option.map_map] at h
  exact Json.optional_of_get h jsonString_ne_null asStr_jsonString

theorem fromJson_negotiated (negotiated : PqCas.Negotiated)
    : PqCas.Negotiated.fromJson (mirrorNegotiated negotiated).toJson = some negotiated := by
  unfold PqCas.Negotiated.fromJson
  rw [optional_string, optional_string, optional_string, optional_string]
  . rfl
  all_goals
    simp [Negotiated.toJson, mirrorNegotiated, List.lookup_append, lookup_pointer]

theorem fromJson_certificate {cert : PqCas.Certificate} (h : cert.sha256Fingerprint = none)
    : PqCas.Certificate.fromJson (mirrorCertificate cert).toJson = some cert := by
  unfold PqCas.Certificate.fromJson
  rw [Json.required_of_get rfl, Json.required_of_get rfl]
  have hsubject : (jsonString (mirrorCertificate cert).subject).asStr = some cert.subject :=
    asStr_jsonString cert.subject
  have hissuer : (jsonString (mirrorCertificate cert).issuer).asStr = some cert.issuer :=
    asStr_jsonString cert.issuer
  have hfingerprint : (mirrorCertificate cert).toJson.optional "sha256_fingerprint" Json.asStr
      = some cert.sha256Fingerprint := by
    apply optional_string
    simp only [Certificate.toJson, Json.get_obj, List.cons_append, Json.lookup_entry, List.lookup_append,
      lookup_pointer, h]
    simp
  rw [hsubject, hissuer, hfingerprint, optional_string, optional_string, optional_string, optional_string]
  . rfl
  all_goals
    simp [Certificate.toJson, mirrorCertificate, Json.lookup_entry, List.lookup_append, lookup_pointer]

theorem fromJson_http (http : PqCas.HttpOutcome)
    : PqCas.HttpOutcome.fromJson (mirrorHttp http).toJson = some http := by
  unfold PqCas.HttpOutcome.fromJson
  rw [Json.required_of_get rfl, Json.orElse_of_get rfl, optional_string]
  . have hstatus : Json.asU16 (.int (mirrorHttp http).status) = some http.status := Json.asU16_int http.status
    have hheaders : Json.asVec PqCas.MessageField.fromJson
        (jsonSlice MessageField.toJson (mirrorHttp http).headers) = some http.headers :=
      asVec_fields http.headers
    rw [hstatus, hheaders]
    rfl
  . simp [HttpOutcome.toJson, mirrorHttp, Json.lookup_entry, lookup_pointer]

theorem fromJson_evidence {evidence : PqCas.Evidence} (h : evidence.keylog = none)
    : PqCas.Evidence.fromJson (mirrorEvidence evidence).toJson = some evidence := by
  unfold PqCas.Evidence.fromJson
  have hkeylog : (mirrorEvidence evidence).toJson.optional "keylog" Json.asStr = some evidence.keylog := by
    apply optional_string
    simp only [Evidence.toJson, Json.get_obj, List.cons_append, Json.lookup_entry, List.nil_append,
      lookup_pointer, h]
    simp
  rw [Json.orElse_of_get rfl, Json.orElse_of_get rfl, hkeylog, optional_string]
  . have hsent : Json.asU64 (jsonUInt64 (mirrorEvidence evidence).bytesSent) = some evidence.bytesSent :=
      Json.asU64_int evidence.bytesSent
    have hreceived : Json.asU64 (jsonUInt64 (mirrorEvidence evidence).bytesReceived) = some evidence.bytesReceived :=
      Json.asU64_int evidence.bytesReceived
    rw [hsent, hreceived]
    rfl
  . simp [Evidence.toJson, mirrorEvidence, Json.lookup_entry, lookup_pointer]

theorem fromJson_mirrors {report : ProbeResponse} {response : PqCas.ProbeResponse}
    (h : Mirrors report response) : PqCas.ProbeResponse.fromJson report.toJson = some response := by
  unfold PqCas.ProbeResponse.fromJson
  have hadapter : report.toJson.required "adapter" Json.asStr = some response.adapter := by
    rw [Json.required_of_get rfl, h.adapter]
    apply asStr_jsonString
  have hsuccess : report.toJson.required "handshake_success" Json.asBool = some response.handshakeSuccess := by
    rw [Json.required_of_get rfl, h.handshakeSuccess]
    rfl
  have hnegotiated : report.toJson.orElse "negotiated" {} PqCas.Negotiated.fromJson
      = some response.negotiated := by
    rw [Json.orElse_of_get rfl, h.negotiated]
    apply fromJson_negotiated
  have hmessages : report.toJson.orElse "messages" [] (Json.asVec PqCas.HandshakeMessage.fromJson)
      = some response.messages := by
    rw [Json.orElse_of_get rfl, h.messages, jsonSlice_map]
    exact Json.asVec_map (fun message _ => fromJson_message message)
  have halert : report.toJson.optional "alert" PqCas.Alert.fromJson = some response.alert := by
    apply Json.optional_of_get (g := fun alert => (mirrorAlert alert).toJson) _ nofun fromJson_alert
    simp [ProbeResponse.toJson, Json.lookup_entry, List.lookup_append, lookup_pointer, h.alert, Function.comp_def]
  have hcerts : report.toJson.orElse "cert_chain" [] (Json.asVec PqCas.Certificate.fromJson)
      = some response.certChain := by
    have hcertGet : report.toJson.get "cert_chain" = some (jsonSlice Certificate.toJson report.certChain) := by
      simp [ProbeResponse.toJson, Json.lookup_entry, List.lookup_append, lookup_pointer]
    rw [Json.orElse_of_get hcertGet, h.certChain, jsonSlice_map]
    exact Json.asVec_map (fun cert hcert => fromJson_certificate (h.fingerprints cert hcert))
  have hhttp : report.toJson.optional "http" PqCas.HttpOutcome.fromJson = some response.http := by
    apply Json.optional_of_get (g := fun http => (mirrorHttp http).toJson) _ nofun fromJson_http
    simp [ProbeResponse.toJson, Json.lookup_entry, List.lookup_append, lookup_pointer, h.http, Function.comp_def]
  have hstage : report.toJson.required "failed_stage" Stage.fromJson = some response.failedStage := by
    have hstageGet : report.toJson.get "failed_stage" = some (jsonString report.failedStage) := by
      simp [ProbeResponse.toJson, Json.lookup_entry, List.lookup_append, lookup_pointer]
    rw [Json.required_of_get hstageGet, h.failedStage]
    apply fromJson_stage
  have hsummary : report.toJson.optional "error_summary" Json.asStr = some response.errorSummary := by
    apply optional_string
    simp [ProbeResponse.toJson, Json.lookup_entry, List.lookup_append, lookup_pointer, h.errorSummary]
  have hdiagnostics : report.toJson.orElse "diagnostics" .null some = some response.diagnostics := by
    have hdiagnosticsGet : report.toJson.get "diagnostics" = some report.diagnostics.toJson := by
      simp [ProbeResponse.toJson, Json.lookup_entry, List.lookup_append, lookup_pointer]
    rw [Json.orElse_of_get hdiagnosticsGet, h.diagnostics]
  have hevidence : report.toJson.orElse "evidence" {} PqCas.Evidence.fromJson = some response.evidence := by
    have hevidenceGet : report.toJson.get "evidence" = some report.evidence.toJson := by
      simp [ProbeResponse.toJson, Json.lookup_entry, List.lookup_append, lookup_pointer]
    rw [Json.orElse_of_get hevidenceGet, h.evidence]
    exact fromJson_evidence h.keylog
  have hduration : report.toJson.required "duration_ms" Json.asU64 = some response.durationMs := by
    have hdurationGet : report.toJson.get "duration_ms" = some (jsonUInt64 report.durationMS) := by
      simp [ProbeResponse.toJson, Json.lookup_entry, List.lookup_append, lookup_pointer]
    rw [Json.required_of_get hdurationGet, h.durationMS]
    exact Json.asU64_int response.durationMs
  rw [hadapter, hsuccess, hnegotiated, hmessages, halert, hcerts, hhttp, hstage, hsummary, hdiagnostics,
    hevidence, hduration]
  rfl

end Reading

end go

end PqCas
