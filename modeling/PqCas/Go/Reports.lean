import PqCas.Go.Mirror

/-!
What the worker reads out of a report of the Go adapter.
-/

namespace PqCas

namespace go

section Requests

theorem decodeField_strings {j : Json} {name : String} {names : List String}
    (h : j.get name = some (Json.strings names)) : decodeField j name none decodeStrings = some (texts names) := by
  have hitems : (names.map Json.str).mapM decodeItem = some (names.map text) :=
    Json.mapM_map (fun _ _ => rfl)
  unfold decodeField
  rw [h]
  unfold Json.strings decodeStrings
  dsimp only
  rw [hitems]
  rfl

theorem fromJson_request {request : PqCas.ProbeRequest} {received : ProbeRequest}
    (h : ProbeRequest.fromJson request.toJson = some received)
    : received.kemGroups = texts request.kemGroups ∧ received.sigAlgs = texts request.sigAlgs
        ∧ received.tlsVersions = texts request.tlsVersions := by
  have hgroups : decodeField request.toJson "kem_groups" none decodeStrings = some (texts request.kemGroups) :=
    decodeField_strings rfl
  have hsigs : decodeField request.toJson "sig_algs" none decodeStrings = some (texts request.sigAlgs) :=
    decodeField_strings rfl
  have hversions : decodeField request.toJson "tls_versions" none decodeStrings
      = some (texts request.tlsVersions) :=
    decodeField_strings rfl
  unfold ProbeRequest.fromJson at h
  rw [hgroups, hsigs, hversions] at h
  obtain ⟨_, -, h⟩ := Option.bind_eq_some_iff.mp h
  obtain ⟨target, -, h⟩ := Option.bind_eq_some_iff.mp h
  obtain ⟨groups, ⟨⟩, h⟩ := Option.bind_eq_some_iff.mp h
  obtain ⟨sigs, ⟨⟩, h⟩ := Option.bind_eq_some_iff.mp h
  obtain ⟨versions, ⟨⟩, h⟩ := Option.bind_eq_some_iff.mp h
  obtain ⟨suites, -, h⟩ := Option.bind_eq_some_iff.mp h
  obtain ⟨timeout, -, h⟩ := Option.bind_eq_some_iff.mp h
  obtain ⟨capture, -, h⟩ := Option.bind_eq_some_iff.mp h
  cases h
  exact ⟨rfl, rfl, rfl⟩

end Requests

section Valid

theorem text_append (s t : String) : text (s ++ t) = text s ++ text t := by
  unfold text Utf8.encode Utf8.encodeChars
  rw [String.toList_append, List.flatMap_append]

def ReadableHeader (line : GoString) : Prop :=
  ∀ name value, cut ":" line = some (name, value) → Utf8.IsValid (trimSpace name) ∧ Utf8.IsValid (trimSpace value)

def Readable (exchange : Exchange) : Prop :=
  match exchange with
  | .failed _ => True
  | .answer raw =>
    ∀ statusLine headerLines body, headAndBody raw = (statusLine :: headerLines, body) →
      hasPrefix "HTTP/" statusLine = true →
      (∀ token, (fields statusLine)[1]? = some token → 0 ≤ scanDecimal token ∧ scanDecimal token < 2 ^ 16)
        ∧ (∀ line ∈ headerLines, ReadableHeader line)
        ∧ Utf8.IsValid ((trimSpace body).take 512)

theorem statusOf_lt {statusLine : GoString}
    : (0 ≤ statusOf statusLine ∧ statusOf statusLine < 2 ^ 16)
        ↔
      ∀ token, (fields statusLine)[1]? = some token → 0 ≤ scanDecimal token ∧ scanDecimal token < 2 ^ 16 := by
  unfold statusOf
  cases (fields statusLine)[1]? with
  | none => simp
  | some token => simp

theorem headers_iff {headerLines : List GoString}
    : (∃ headers : List PqCas.MessageField, headerLines.filterMap headerOf = headers.map mirrorField)
        ↔
      ∀ line ∈ headerLines, ReadableHeader line := by
  constructor
  . rintro ⟨headers, hheaders⟩ line hline name value hcut
    have hmem : (⟨trimSpace name, some [trimSpace value]⟩ : MessageField) ∈ headers.map mirrorField := by
      rw [← hheaders, List.mem_filterMap]
      refine ⟨line, hline, ?_⟩
      unfold headerOf
      rw [hcut]
      rfl
    obtain ⟨field, -, hfield⟩ := List.mem_map.mp hmem
    unfold mirrorField texts at hfield
    rw [MessageField.mk.injEq, Option.some.injEq] at hfield
    obtain ⟨hlabel, hvalues⟩ := hfield
    have hvalue : trimSpace value ∈ field.values.map text := by simp [hvalues]
    obtain ⟨content, -, hcontent⟩ := List.mem_map.mp hvalue
    exact ⟨⟨field.label, hlabel.symm⟩, ⟨content, hcontent.symm⟩⟩
  . intro h
    induction headerLines with
    | nil => exact ⟨[], rfl⟩
    | cons line headerLines ih =>
      obtain ⟨headers, hheaders⟩ := ih (fun l hl => h l (List.mem_cons_of_mem line hl))
      cases hcut : cut ":" line with
      | none =>
        refine ⟨headers, ?_⟩
        rw [List.filterMap_cons_none, hheaders]
        unfold headerOf
        rw [hcut]
        rfl
      | some parts =>
        obtain ⟨name, value⟩ := parts
        obtain ⟨⟨label, hlabel⟩, ⟨content, hcontent⟩⟩ := h line List.mem_cons_self name value hcut
        have hfield : headerOf line = some (mirrorField ⟨label, [content]⟩) := by
          unfold headerOf
          rw [hcut, Option.map_some]
          dsimp only
          rw [hlabel, hcontent]
          rfl
        refine ⟨⟨label, [content]⟩ :: headers, ?_⟩
        rw [List.filterMap_cons_some hfield, hheaders, List.map_cons]

theorem excerpt_iff {body : GoString}
    : (∃ excerpt : Option String, excerptOf body = excerpt.map text) ↔ Utf8.IsValid ((trimSpace body).take 512) := by
  unfold excerptOf
  dsimp only
  split
  . constructor
    . rintro ⟨excerpt, h⟩
      obtain ⟨s, -, hs⟩ := Option.map_eq_some_iff.mp h.symm
      exact ⟨s, hs.symm⟩
    . rintro ⟨s, hs⟩
      exact ⟨some s, by rw [hs]; rfl⟩
  . next hempty =>
    rw [ne_eq, not_not] at hempty
    rw [hempty]
    exact iff_of_true ⟨none, rfl⟩ ⟨"", rfl⟩

theorem readable_of_error {exchange : Exchange} {err : String} (h : doHTTP exchange = .error err)
    : Readable exchange := by
  cases exchange with
  | failed err => trivial
  | answer raw =>
    intro statusLine headerLines body hparts hprefix
    unfold doHTTP at h
    dsimp only at h
    rw [hparts] at h
    dsimp only at h
    rw [if_pos hprefix] at h
    cases h

theorem mirrorHttp_iff {exchange : Exchange} {http : HttpOutcome} (h : doHTTP exchange = .ok http)
    : (∃ outcome, http = mirrorHttp outcome) ↔ Readable exchange := by
  cases exchange with
  | failed err => cases h
  | answer raw =>
    unfold doHTTP at h
    dsimp only at h
    unfold Readable
    dsimp only
    generalize headAndBody raw = parts at h
    obtain ⟨lines, body⟩ := parts
    cases lines with
    | nil => cases h
    | cons statusLine headerLines =>
      dsimp only at h
      split at h
      . next hprefix =>
        cases h
        constructor
        . rintro ⟨outcome, houtcome⟩ _ _ _ hparts -
          cases hparts
          unfold mirrorHttp at houtcome
          rw [HttpOutcome.mk.injEq, Option.some.injEq] at houtcome
          obtain ⟨hstatus, hheaders, hexcerpt⟩ := houtcome
          have hlt := outcome.status.toNat_lt
          refine ⟨statusOf_lt.mp ?_, headers_iff.mp ⟨_, hheaders⟩, excerpt_iff.mp ⟨_, hexcerpt⟩⟩
          omega
        . intro hreadable
          obtain ⟨hstatus, hheaders, hexcerpt⟩ := hreadable _ _ _ rfl hprefix
          obtain ⟨hnonneg, hlt⟩ := statusOf_lt.mpr hstatus
          obtain ⟨headers, hheaders⟩ := headers_iff.mpr hheaders
          obtain ⟨excerpt, hexcerpt⟩ := excerpt_iff.mpr hexcerpt
          refine ⟨⟨UInt16.ofNat (statusOf statusLine).toNat, headers, excerpt⟩, ?_⟩
          unfold mirrorHttp
          rw [hheaders, hexcerpt]
          have hsize : (UInt16.ofNat (statusOf statusLine).toNat).toNat = (statusOf statusLine).toNat := by
            apply UInt16.toNat_ofNat_of_lt'
            have hbound : UInt16.size = 2 ^ 16 := rfl
            omega
          dsimp only
          rw [hsize, Int.toNat_of_nonneg hnonneg]
      . cases h

end Valid

section Reports

variable {request : PqCas.ProbeRequest} {received : ProbeRequest}

def Dials (request : PqCas.ProbeRequest) : Prop :=
  request.kemGroups = [] ∨ ∃ name ∈ request.kemGroups, accepts name = true

theorem text_mem_iff {name : String} : text name ∈ groupByName.map (fun entry => text entry.1) ↔ accepts name = true := by
  rw [accepts_iff]
  simp only [List.mem_map]
  constructor
  . rintro ⟨entry, hentry, htext⟩
    exact ⟨entry, hentry, Utf8.encode_injective htext⟩
  . rintro ⟨entry, hentry, rfl⟩
    exact ⟨entry, hentry, rfl⟩

theorem not_mem_text_eq : (fun name => decide (name ∉ groupByName.map (fun entry => text entry.1))) ∘ text
    = fun name => !accepts name := by
  funext name
  rw [Function.comp_apply, Bool.eq_iff_iff, decide_eq_true_iff, text_mem_iff]
  simp

theorem refuses_iff (h : received.kemGroups = texts request.kemGroups)
    : refuses received = true ↔ ¬ Dials request := by
  unfold refuses Dials texts at *
  rw [h]
  dsimp only [Option.getD_some]
  rw [List.all_map, not_mem_text_eq]
  simp

theorem exists_intercalate (sep : String) (names : List String)
    : ∃ s, (text sep).intercalate (names.map text) = text s := by
  induction names with
  | nil => exact ⟨"", rfl⟩
  | cons name names ih =>
    cases names with
    | nil => exact ⟨name, by simp [List.intercalate]⟩
    | cons next names =>
      obtain ⟨s, hs⟩ := ih
      refine ⟨name ++ sep ++ s, ?_⟩
      rw [text_append, text_append, ← hs]
      simp [List.intercalate]

theorem exists_unknownGroups (h : received.kemGroups = texts request.kemGroups)
    : ∃ names : String, unknownGroups received = text names := by
  unfold unknownGroups
  rw [h]
  unfold texts
  rw [Option.getD_some, List.filter_map]
  apply exists_intercalate

def helloOf (request : PqCas.ProbeRequest) : PqCas.HandshakeMessage :=
  {
    index := 0
    direction := .outbound
    kind := "ClientHello"
    fields := [
      ⟨"Offered Groups", request.kemGroups⟩,
      ⟨"Signature Algorithms", request.sigAlgs⟩,
      ⟨"Supported Versions", if request.tlsVersions = [] then ["TLSv1.3", "TLSv1.2"] else request.tlsVersions⟩,
      ⟨"Cipher Suites Offered",
        ["TLS_AES_128_GCM_SHA256", "TLS_AES_256_GCM_SHA384", "TLS_CHACHA20_POLY1305_SHA256"]⟩
    ]
  }

theorem clientHello_eq (hgroups : received.kemGroups = texts request.kemGroups)
    (hsigs : received.sigAlgs = texts request.sigAlgs)
    (hversions : received.tlsVersions = texts request.tlsVersions)
    : clientHello received = mirrorMessage (helloOf request) := by
  unfold clientHello helloOf mirrorMessage
  rw [hgroups, hsigs, hversions]
  by_cases hnil : request.tlsVersions = []
  . rw [hnil]
    rfl
  . have hne : (texts request.tlsVersions).getD [] ≠ [] := by simpa [texts] using hnil
    rw [if_neg hnil]
    dsimp only
    rw [if_neg hne]
    rfl

theorem exists_alert (msg : String) : ∃ alert : Option PqCas.Alert, alertFromError msg = alert.map mirrorAlert := by
  have hfatal : ∀ description, ∃ alert : Option PqCas.Alert,
      some (⟨text "fatal", text description⟩ : Alert) = alert.map mirrorAlert :=
    fun description => ⟨some ⟨"fatal", description⟩, rfl⟩
  unfold alertFromError
  dsimp only
  split
  . apply hfatal
  . split
    . apply hfatal
    . split
      . apply hfatal
      . split
        . apply hfatal
        . split
          . apply hfatal
          . exact ⟨none, rfl⟩

variable {adapterName : String} {elapsed : UInt64}

def blankOf (request : PqCas.ProbeRequest) (adapterName : String) (elapsed : UInt64) : PqCas.ProbeResponse :=
  {
    adapter := adapterName
    handshakeSuccess := false
    negotiated := {}
    messages := [helloOf request]
    alert := none
    certChain := []
    http := none
    failedStage := .tlsHandshake
    errorSummary := none
    diagnostics := .obj [
      ("note", .str "crypto/tls does not expose signature_algorithms selection; groups are pinned, signature algorithms are advisory"),
      ("offeredGroups", Json.strings request.kemGroups),
      ("offeredSigAlgs", Json.strings request.sigAlgs)
    ]
    evidence := {}
    durationMs := elapsed
  }

theorem jsonSlice_texts (names : List String) : jsonSlice jsonString (texts names) = Json.strings names := by
  unfold texts Json.strings
  rw [jsonSlice_map]
  congr 1
  apply List.map_congr_left
  intro name _
  unfold jsonString text
  rw [Utf8.lossy_encode]

theorem mirrors_blank (hgroups : received.kemGroups = texts request.kemGroups)
    (hsigs : received.sigAlgs = texts request.sigAlgs)
    (hversions : received.tlsVersions = texts request.tlsVersions)
    : Mirrors (blankResponse received adapterName elapsed) (blankOf request adapterName elapsed) := by
  have hello := clientHello_eq hgroups hsigs hversions
  constructor
  case messages =>
    unfold blankResponse blankOf
    rw [hello]
    rfl
  case diagnostics =>
    unfold blankResponse blankOf Diagnostics.toJson
    dsimp only
    rw [hgroups, hsigs, jsonSlice_texts, jsonSlice_texts]
    unfold jsonString text
    rw [Utf8.lossy_encode]
  all_goals first | rfl | nofun

def alertMessageOf (alert : PqCas.Alert) : PqCas.HandshakeMessage :=
  {
    index := 1
    direction := .inbound
    kind := "Alert"
    fields := [⟨"Level", [alert.level]⟩, ⟨"Description", [alert.description]⟩]
  }

def serverHelloOf (state : ConnectionState) (group : String) : PqCas.HandshakeMessage :=
  {
    index := 1
    direction := .inbound
    kind := "ServerHello"
    fields := [
      ⟨"Version", [versionName state.version]⟩,
      ⟨"Cipher Suite", [state.cipherSuiteName]⟩,
      ⟨"Key Exchange Group", [group]⟩
    ]
  }

def peerOf (cert : PeerCertificate) : PqCas.Certificate :=
  {
    subject := cert.subject
    issuer := cert.issuer
    notBefore := some cert.notBefore
    notAfter := some cert.notAfter
    signatureAlgorithm := some cert.signatureAlgorithm
    publicKeyAlgorithm := some cert.publicKeyAlgorithm
    sha256Fingerprint := none
  }

def Outcome.Readable (outcome : Outcome) : Prop :=
  match outcome with
  | .connected _ exchange _ _ => go.Readable exchange
  | .dialError _ | .handshakeError _ _ _ => True

variable {order : Nat → List (String × CurveID)} {base64 : GoString → String}

theorem exists_mirror_handshakeError (hgroups : received.kemGroups = texts request.kemGroups)
    (hsigs : received.sigAlgs = texts request.sigAlgs)
    (hversions : received.tlsVersions = texts request.tlsVersions) (hdials : refuses received = false)
    (err : String) (written read : UInt64)
    : ∃ r, Mirrors (probe order base64 received adapterName (.handshakeError err written read) elapsed) r := by
  have hblank := @mirrors_blank request received adapterName elapsed hgroups hsigs hversions
  obtain ⟨alert, halert⟩ := exists_alert err
  unfold probe
  dsimp only
  rw [hdials, if_neg (by decide), halert, clientHello_eq hgroups hsigs hversions]
  refine ⟨{ blankOf request adapterName elapsed with
    alert := alert
    errorSummary := some err
    messages := helloOf request :: (alert.map alertMessageOf).toList
    evidence := { bytesSent := written, bytesReceived := read } }, ?_⟩
  have hmessages : some (mirrorMessage (helloOf request) :: ((alert.map mirrorAlert).map alertMessage).toList)
      = some ((helloOf request :: (alert.map alertMessageOf).toList).map mirrorMessage) := by
    cases alert <;> rfl
  exact { hblank with alert := rfl, errorSummary := rfl, messages := hmessages, evidence := rfl, keylog := rfl }

theorem exists_mirror_connected (hgroups : received.kemGroups = texts request.kemGroups)
    (hsigs : received.sigAlgs = texts request.sigAlgs)
    (hversions : received.tlsVersions = texts request.tlsVersions) (hdials : refuses received = false)
    (state : ConnectionState) {exchange : Exchange} (hread : Readable exchange) (written read : UInt64)
    : ∃ r, Mirrors (probe order base64 received adapterName (.connected state exchange written read) elapsed) r := by
  have hblank := @mirrors_blank request received adapterName elapsed hgroups hsigs hversions
  have hcerts : some (state.peerCertificates.map certificateOf)
      = some ((state.peerCertificates.map peerOf).map mirrorCertificate) := by
    rw [List.map_map]
    rfl
  have hfingerprints : ∀ cert ∈ state.peerCertificates.map peerOf, cert.sha256Fingerprint = none := by
    intro cert hcert
    obtain ⟨peer, -, rfl⟩ := List.mem_map.mp hcert
    rfl
  let connected : PqCas.ProbeResponse := { blankOf request adapterName elapsed with
    handshakeSuccess := true
    negotiated := {
      tlsVersion := some (versionName state.version)
      cipherSuite := some state.cipherSuiteName
      group := some (groupName (order 0) (order 1) state.curve)
    }
    messages := [helloOf request, serverHelloOf state (groupName (order 2) (order 3) state.curve)]
    certChain := state.peerCertificates.map peerOf }
  unfold probe
  dsimp only
  rw [hdials, if_neg (by decide), clientHello_eq hgroups hsigs hversions]
  cases hhttp : doHTTP exchange with
  | error err =>
    refine ⟨{ connected with
      failedStage := .httpRequest
      errorSummary := some err
      evidence := { bytesSent := written, bytesReceived := read } }, ?_⟩
    exact { hblank with
      handshakeSuccess := rfl, negotiated := rfl, messages := rfl, certChain := hcerts
      fingerprints := hfingerprints, failedStage := rfl, errorSummary := rfl, evidence := rfl, keylog := rfl }
  | ok http =>
    obtain ⟨outcome, rfl⟩ := (mirrorHttp_iff hhttp).mpr hread
    refine ⟨{ connected with
      http := some outcome
      failedStage := .complete
      evidence := {
        bytesSent := written
        bytesReceived := read
        udsDumpB64 := if received.capture.rawRecords then some (base64 (rawBytes exchange)) else none
      } }, ?_⟩
    have hevidence : ({
          bytesSent := written
          bytesReceived := read
          udsDumpB64 := if received.capture.rawRecords then some (text (base64 (rawBytes exchange))) else none
        } : Evidence)
        = mirrorEvidence {
          bytesSent := written
          bytesReceived := read
          udsDumpB64 := if received.capture.rawRecords then some (base64 (rawBytes exchange)) else none
        } := by
      unfold mirrorEvidence
      cases received.capture.rawRecords <;> rfl
    exact { hblank with
      handshakeSuccess := rfl, negotiated := rfl, messages := rfl, certChain := hcerts
      fingerprints := hfingerprints, http := rfl, failedStage := rfl, evidence := hevidence, keylog := rfl }

/--
The report of the Go adapter is read with the values it has exactly when the answer of the web server,
if there is one, is readable.
-/
theorem report_decodes_iff (hreceived : ProbeRequest.fromJson request.toJson = some received) (outcome : Outcome)
    : (∃ response,
        PqCas.ProbeResponse.fromJson (probe order base64 received adapterName outcome elapsed).toJson = some response
          ∧ Mirrors (probe order base64 received adapterName outcome elapsed) response)
        ↔
      (Dials request → outcome.Readable) := by
  obtain ⟨hgroups, hsigs, hversions⟩ := fromJson_request hreceived
  have hblank := @mirrors_blank request received adapterName elapsed hgroups hsigs hversions
  constructor
  . rintro ⟨response, -, hmirrors⟩ hdials
    have hrefuses : refuses received = false := by
      rw [← Bool.not_eq_true, refuses_iff hgroups, not_not]
      exact hdials
    cases outcome with
    | dialError err => trivial
    | handshakeError err written read => trivial
    | connected state exchange written read =>
      have hhttp := hmirrors.http
      unfold probe at hhttp
      dsimp only at hhttp
      rw [hrefuses, if_neg (by decide)] at hhttp
      cases hdo : doHTTP exchange with
      | error err => exact readable_of_error hdo
      | ok http =>
        rw [hdo] at hhttp
        obtain ⟨outcome, -, houtcome⟩ := Option.map_eq_some_iff.mp hhttp.symm
        exact (mirrorHttp_iff hdo).mp ⟨outcome, houtcome.symm⟩
  . intro hreadable
    suffices h : ∃ r, Mirrors (probe order base64 received adapterName outcome elapsed) r by
      obtain ⟨response, hmirrors⟩ := h
      exact ⟨response, fromJson_mirrors hmirrors, hmirrors⟩
    cases hrefuses : refuses received with
    | true =>
      obtain ⟨names, hnames⟩ := exists_unknownGroups hgroups
      unfold probe
      dsimp only
      rw [hrefuses, if_pos rfl, hnames, ← text_append]
      exact ⟨{ blankOf request adapterName elapsed with
        errorSummary := some ("crypto/tls does not implement: " ++ names) }, { hblank with errorSummary := rfl }⟩
    | false =>
      have hdials : Dials request := by
        rw [← not_not (a := Dials request), ← refuses_iff hgroups, hrefuses]
        decide
      cases outcome with
      | dialError err =>
        unfold probe
        dsimp only
        rw [hrefuses, if_neg (by decide)]
        exact ⟨{ blankOf request adapterName elapsed with failedStage := .tcp, errorSummary := some err },
          { hblank with failedStage := rfl, errorSummary := rfl }⟩
      | handshakeError err written read =>
        exact exists_mirror_handshakeError hgroups hsigs hversions hrefuses err written read
      | connected state exchange written read =>
        exact exists_mirror_connected hgroups hsigs hversions hrefuses state (hreadable hdials) written read

theorem status_of_fromJson {report : ProbeResponse} {http : HttpOutcome} {response : PqCas.ProbeResponse}
    (hhttp : report.http = some http) (h : PqCas.ProbeResponse.fromJson report.toJson = some response)
    : 0 ≤ http.status ∧ http.status < 2 ^ 16 := by
  unfold PqCas.ProbeResponse.fromJson at h
  obtain ⟨_, -, h⟩ := Option.bind_eq_some_iff.mp h
  obtain ⟨_, -, h⟩ := Option.bind_eq_some_iff.mp h
  obtain ⟨_, -, h⟩ := Option.bind_eq_some_iff.mp h
  obtain ⟨_, -, h⟩ := Option.bind_eq_some_iff.mp h
  obtain ⟨_, -, h⟩ := Option.bind_eq_some_iff.mp h
  obtain ⟨_, -, h⟩ := Option.bind_eq_some_iff.mp h
  obtain ⟨_, hread, -⟩ := Option.bind_eq_some_iff.mp h
  have hget : report.toJson.get "http" = some http.toJson := by
    simp [ProbeResponse.toJson, Json.lookup_entry, List.lookup_append, lookup_pointer, hhttp]
  unfold Json.optional at hread
  rw [hget] at hread
  obtain ⟨outcome, houtcome, -⟩ := Option.map_eq_some_iff.mp hread
  unfold PqCas.HttpOutcome.fromJson at houtcome
  obtain ⟨status, hstatus, -⟩ := Option.bind_eq_some_iff.mp houtcome
  rw [Json.required_of_get rfl] at hstatus
  obtain ⟨n, hn, -⟩ := Option.map_eq_some_iff.mp hstatus
  unfold Json.asUnsigned Json.int at hn
  dsimp only at hn
  split at hn
  . next hrange => exact hrange
  . cases hn

end Reports

section Lab

def labRequest : PqCas.ProbeRequest :=
  { PqCas.ProbeRequest.new ⟨"tls-good", 443, none, some "/"⟩ with kemGroups := ["X25519MLKEM768"] }

def labState : ConnectionState :=
  {
    version := 0x0304
    cipherSuiteName := "TLS_AES_128_GCM_SHA256"
    curve := .known .x25519MLKEM768
    peerCertificates := []
  }

def labOutcome (raw : String) : Outcome :=
  .connected labState (.answer (text raw)) 1500 4000

def labReceived : ProbeRequest :=
  {
    target := ⟨text "tls-good", 443, [], text "/"⟩
    kemGroups := texts ["X25519MLKEM768"]
    sigAlgs := texts []
    tlsVersions := texts ["TLSv1.3", "TLSv1.2"]
    cipherSuites := texts []
    timeoutMS := 15000
    capture := ⟨false, false⟩
  }

theorem labReceived_eq : ProbeRequest.fromJson labRequest.toJson = some labReceived := by
  rfl

def labProbe (raw : String) : ProbeResponse :=
  probe (fun _ => groupByName) (fun _ => "") labReceived "go" (labOutcome raw) 12

theorem report_decodes_lab
    : ∃ response, PqCas.ProbeResponse.fromJson (labProbe "HTTP/1.1 200 OK\r\n\r\nok").toJson = some response
        ∧ Mirrors (labProbe "HTTP/1.1 200 OK\r\n\r\nok") response := by
  apply (report_decodes_iff labReceived_eq _).mpr
  intro _ statusLine headerLines body hparts _
  have hlab : headAndBody (text "HTTP/1.1 200 OK\r\n\r\nok") = ([text "HTTP/1.1 200 OK"], text "ok") := by
    decide
  rw [hlab] at hparts
  cases hparts
  refine ⟨?_, nofun, ⟨"ok", by decide⟩⟩
  intro token htoken
  have hfields : (fields (text "HTTP/1.1 200 OK"))[1]? = some (text "200") := by decide
  rw [hfields] at htoken
  cases htoken
  decide

theorem report_unreadable_lab
    : (labProbe "HTTP/1.1 99999 OK\r\n\r\n").handshakeSuccess = true
        ∧ PqCas.ProbeResponse.fromJson (labProbe "HTTP/1.1 99999 OK\r\n\r\n").toJson = none := by
  have hstatus : (labProbe "HTTP/1.1 99999 OK\r\n\r\n").http = some ⟨99999, some [], none⟩ := by
    rfl
  refine ⟨rfl, ?_⟩
  cases hread : PqCas.ProbeResponse.fromJson (labProbe "HTTP/1.1 99999 OK\r\n\r\n").toJson with
  | none => rfl
  | some response =>
    have hrange := status_of_fromJson hstatus hread
    dsimp only at hrange
    omega

end Lab

end go

end PqCas
