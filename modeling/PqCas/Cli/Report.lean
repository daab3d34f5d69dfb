import PqCas.Cli.Forged

/-!
The mock backend (`adapters/cli/src/backend.rs`), and what the parts of a report say about each other
whichever backend has built it.
-/

namespace PqCas

namespace cli

structure Config where
  backend : String
  name : Option String
  kemGroups : String
  sigAlgs : String

def splitList (raw : String) : List String :=
  ((Text.split ',' raw).map Text.trim).filter (fun s => s ≠ "")

namespace Config

def adapterName (config : Config) : String :=
  config.name.getD config.backend

def kemGroupList (config : Config) : List String :=
  splitList config.kemGroups

def sigAlgList (config : Config) : List String :=
  splitList config.sigAlgs

end Config

section Mock

variable (config : Config) (request : ProbeRequest)

/--
A host that looks like the deliberately broken target of the lab.
-/
def vulnerable : Bool :=
  Text.contains request.target.host "vuln" || request.target.port == 8888

def groupOk : Bool :=
  let known := config.kemGroupList
  let offeredGroup := request.kemGroups.head?.getD ""
  known.isEmpty || known.any (fun g => Text.eqIgnoreAsciiCase g offeredGroup)

def sigOk : Bool :=
  let knownSigs := config.sigAlgList
  let offeredSig := request.sigAlgs.head?.getD ""
  offeredSig == "" || knownSigs.isEmpty || knownSigs.any (fun s => Text.eqIgnoreAsciiCase s offeredSig)

/--
A group the stack advertises succeeds and anything else fails the way a real server would.
-/
def mock : ProbeResponse :=
  let adapter := config.adapterName
  let offeredGroup := request.kemGroups.head?.getD ""
  let offeredSig := request.sigAlgs.head?.getD ""
  if vulnerable request then
    { buildResponse adapter request false {} (some ⟨"fatal", "bad_record_mac"⟩) [] none {}
        (some "InvalidTag:") with
      errorSummary := some "InvalidTag:" }
  else if !groupOk config request || !sigOk config request then
    buildResponse adapter request false {} (some ⟨"fatal", "handshake_failure"⟩) [] none {}
      (some ("no shared " ++ if groupOk config request then "signature algorithm" else "group"))
  else
    buildResponse adapter request true
      {
        tlsVersion := some "TLSv1.3"
        cipherSuite := some "TLS_AES_256_GCM_SHA384"
        group := some offeredGroup
        certVerifySigAlg := some (if offeredSig = "" then "ecdsa_secp256r1_sha256" else offeredSig)
      }
      none
      [{
        subject := "CN=" ++ request.target.host
        issuer := "CN=pqcas-lab-ca"
        notBefore := none
        notAfter := none
        signatureAlgorithm := some "mldsa65"
        publicKeyAlgorithm := some "ML-DSA-65"
        sha256Fingerprint := none
      }]
      (some {
        status := 200
        headers := [
          ⟨"Server", ["pqcas-mock/1.0"]⟩,
          ⟨"Content-Type", ["application/json"]⟩,
          ⟨"Connection", ["close"]⟩
        ]
        bodyExcerpt := some "\x7b\"mock\":true\x7d"
      })
      { bytesSent := 9240, bytesReceived := 1658 }
      none

end Mock

structure Coherent (request : ProbeRequest) (r : ProbeResponse) : Prop where
  success_of_http : r.http.isSome = true → r.handshakeSuccess = true
  complete_iff : r.failedStage = .complete ↔ r.http.isSome = true
  httpRequest_iff : r.failedStage = .httpRequest ↔ r.handshakeSuccess = true ∧ r.http = none
  tlsHandshake_iff : r.failedStage = .tlsHandshake ↔ r.handshakeSuccess = false
  clientHello : r.messages[0]? = some {
    index := 0
    direction := .outbound
    kind := "ClientHello"
    fields := [
      ⟨"Offered Groups", request.kemGroups⟩,
      ⟨"Signature Algorithms", request.sigAlgs⟩,
      ⟨"Supported Versions", request.tlsVersions⟩,
      ⟨"Cipher Suites Offered",
        if request.cipherSuites = [] then defaultCipherSuites else request.cipherSuites⟩
    ] }
  index_eq : ∀ (k : Nat) (m : HandshakeMessage), r.messages[k]? = some m → m.index.toNat = k
  serverHello_iff : (∃ m ∈ r.messages, m.kind = "ServerHello") ↔ r.handshakeSuccess = true
  alert_iff : (∃ m ∈ r.messages, m.kind = "Alert") ↔ r.handshakeSuccess = false ∧ r.alert.isSome = true
  errorSummary : r.handshakeSuccess = true → r.errorSummary = none

section Build

variable {adapter : String} {request : ProbeRequest} {handshakeSuccess : Bool} {negotiated : Negotiated}
  {alert : Option Alert} {certChain : List Certificate} {http : Option HttpOutcome} {evidence : Evidence}
  {errorSummary : Option String}

theorem coherent_buildResponse (h : http.isSome = true → handshakeSuccess = true)
    : Coherent request
        (buildResponse adapter request handshakeSuccess negotiated alert certChain http evidence errorSummary) := by
  -- The rows depend on the success and on the alert, the stage on the success and on the response.
  have hindex : ∀ row : HandshakeMessage, row.index = 1 → ∀ (k : Nat) (m : HandshakeMessage),
      [cli.clientHello request, row][k]? = some m → m.index.toNat = k := by
    intro row hrow k m hm
    match k with
    | 0 =>
      cases hm
      rfl
    | 1 =>
      cases hm
      rw [hrow]
      rfl
    | _ + 2 => cases hm
  cases handshakeSuccess with
  | true =>
    constructor
    case index_eq => exact hindex _ rfl
    all_goals cases http <;> simp [buildResponse, cli.clientHello]
  | false =>
    have hnone : http = none := by
      cases http with
      | none => rfl
      | some http => cases h rfl
    subst hnone
    cases alert with
    | some alert =>
      constructor
      case index_eq => exact hindex _ rfl
      all_goals simp [buildResponse, cli.clientHello]
    | none =>
      constructor
      case index_eq =>
        intro k m hm
        match k with
        | 0 =>
          cases hm
          rfl
        | _ + 1 => cases hm
      all_goals simp [buildResponse, cli.clientHello]

end Build

theorem coherent_mock (config : Config) (request : ProbeRequest) : Coherent request (mock config request) := by
  unfold mock
  dsimp only
  split
  . have hbuilt := @coherent_buildResponse config.adapterName request false {}
      (some ⟨"fatal", "bad_record_mac"⟩) [] none {} (some "InvalidTag:") (by simp)
    exact { hbuilt with errorSummary := by simp [buildResponse] }
  . split
    . apply coherent_buildResponse
      simp
    . apply coherent_buildResponse
      simp

section Alert

def successTexts (backend : Backend) : List String :=
  match backend with
  | .openSsl => ["Cipher    : ", "Cipher is ", "HTTP/1."]
  | .boringSsl => ["Cipher: ", "HTTP/1."]
  | .wolfSsl => ["SSL cipher suite is ", "HTTP/1."]
  | .mock => []

def Inserted (text s s' : String) : Prop :=
  s' = s ∨ ∃ front rest,
    (front = "" ∨ ∃ t, front = t ++ "\n") ∧ s = front ++ rest ∧ s' = front ++ text ++ "\n" ++ rest

variable {text s s' : String}

theorem Inserted.refl (text s : String) : Inserted text s s :=
  .inl rfl

theorem Inserted.append_right (h : Inserted text s s') (t : String) : Inserted text (s ++ t) (s' ++ t) := by
  rcases h with rfl | ⟨front, rest, hfront, rfl, rfl⟩
  . exact .inl rfl
  . right
    exact ⟨front, rest ++ t, hfront, by simp only [String.append_assoc], by simp only [String.append_assoc]⟩

theorem Inserted.append_left (h : Inserted text s s') (t : String)
    : Inserted text (t ++ "\n" ++ s) (t ++ "\n" ++ s') := by
  rcases h with rfl | ⟨front, rest, hfront, rfl, rfl⟩
  . exact .inl rfl
  . right
    refine ⟨t ++ "\n" ++ front, rest, .inr ?_, by simp only [String.append_assoc], by simp only [String.append_assoc]⟩
    rcases hfront with rfl | ⟨u, rfl⟩
    . exact ⟨t, by rw [String.append_empty]⟩
    . exact ⟨t ++ "\n" ++ u, by simp only [String.append_assoc]⟩

theorem not_infix_terminated {needle : List Char} (hne : needle ≠ []) (hnewline : '\n' ∉ needle)
    (h : ¬ needle <:+: text.toList) : ¬ needle <:+: (text ++ "\n").toList := by
  have hlist : (text ++ "\n").toList = text.toList ++ '\n' :: [] := by simp
  rw [hlist, Search.infix_append_cons_iff hnewline hne, not_or]
  exact ⟨h, by simpa using hne⟩

theorem Inserted.valueAfter_eq {needle : String} (hne : needle.toList ≠ []) (hnewline : '\n' ∉ needle.toList)
    (htext : ¬ needle.toList <:+: text.toList) (h : Inserted text s s')
    : valueAfter s' needle = valueAfter s needle := by
  rcases h with rfl | ⟨front, rest, hfront, rfl, rfl⟩
  . rfl
  . have hnone : valueAfter (text ++ "\n") needle = none :=
      valueAfter_eq_none (not_infix_terminated hne hnewline htext)
    have hassoc : front ++ text ++ "\n" ++ rest = front ++ (text ++ "\n" ++ rest) := by
      simp only [String.append_assoc]
    rw [hassoc, valueAfter_front hfront, valueAfter_front hfront, valueAfter_append, hnone, Option.none_or]

theorem isSome_parseHttp (text : String)
    : (parseHttp text).isSome
        =
      ((Text.after "HTTP/1." text).bind (fun rest =>
        (Text.lines ("HTTP/1." ++ rest)).head?.bind (fun line =>
          (Text.splitWhitespace line)[1]?.bind (Text.parseUnsigned (2 ^ 16))))).isSome := by
  unfold parseHttp
  generalize 2 ^ 16 = bound
  cases Text.after "HTTP/1." text with
  | none => rfl
  | some rest =>
    cases hlines : Text.lines ("HTTP/1." ++ rest) with
    | nil => simp [hlines]
    | cons line lines =>
      cases htoken : (Text.splitWhitespace line)[1]? with
      | none => simp [hlines, htoken]
      | some token =>
        cases hstatus : Text.parseUnsigned bound token <;> simp [hlines, htoken, hstatus]

theorem head?_lines_append (s t u : String)
    : (Text.lines (s ++ "\n" ++ t)).head? = (Text.lines (s ++ "\n" ++ u)).head? := by
  have hne : Text.lines (s ++ "\n") ≠ [] := by
    unfold Text.lines
    rw [ne_eq, List.map_eq_nil_iff, Search.splitInclusive_eq_nil]
    simp
  rw [Text.lines_append, Text.lines_append, List.head?_append_of_ne_nil _ hne, List.head?_append_of_ne_nil _ hne]

theorem after_append {front rest : String} (h : Text.after "HTTP/1." front = some rest) (t : String)
    : Text.after "HTTP/1." (front ++ t) = some (rest ++ t) := by
  unfold Text.after at h ⊢
  obtain ⟨chars, hchars, rfl⟩ := Option.map_eq_some_iff.mp h
  rw [String.toList_append, Search.after_append_right hchars, Option.map_some, String.ofList_append,
    String.ofList_toList]

theorem after_front {front : String} (hfront : front = "" ∨ ∃ t, front = t ++ "\n")
    (h : ¬ "HTTP/1.".toList <:+: front.toList) (t : String)
    : Text.after "HTTP/1." (front ++ t) = Text.after "HTTP/1." t := by
  rcases hfront with rfl | ⟨u, rfl⟩
  . rw [String.empty_append]
  . have hclear : Search.Clear "HTTP/1.".toList ['\n'] := by decide
    have hu : ¬ "HTTP/1.".toList <:+: u.toList := by
      intro hin
      apply h
      rw [String.toList_append]
      exact hin.trans (List.prefix_append _ _).isInfix
    have hlist : (u ++ "\n" ++ t).toList = u.toList ++ (['\n'] ++ t.toList) := by simp
    unfold Text.after
    rw [hlist, hclear.after_eq hu]

theorem Inserted.isSome_parseHttp_eq (htext : ¬ "HTTP/1.".toList <:+: text.toList) (h : Inserted text s s')
    : (parseHttp s').isSome = (parseHttp s).isSome := by
  rcases h with rfl | ⟨front, rest, hfront, rfl, rfl⟩
  . rfl
  . rw [isSome_parseHttp, isSome_parseHttp]
    have hassoc : front ++ text ++ "\n" ++ rest = front ++ (text ++ "\n" ++ rest) := by
      simp only [String.append_assoc]
    cases hafter : Text.after "HTTP/1." front with
    | none =>
      have hno := Text.after_eq_none_iff.mp hafter
      have hline := not_infix_terminated (by decide) (by decide) htext
      rw [hassoc, after_front hfront hno, after_front hfront hno, after_front (.inr ⟨text, rfl⟩) hline]
    | some found =>
      -- The line the response starts with ends in front of the inserted ones.
      obtain ⟨u, hu⟩ : ∃ u, "HTTP/1." ++ found = u ++ "\n" := by
        rcases hfront with rfl | ⟨t, rfl⟩
        . cases hafter
        . unfold Text.after at hafter
          obtain ⟨chars, hchars, rfl⟩ := Option.map_eq_some_iff.mp hafter
          obtain ⟨pre, hpre⟩ := Search.eq_append_of_after hchars
          have hlast : ("HTTP/1.".toList ++ chars).getLast? = some '\n' := by
            have hwhole := congrArg List.getLast? hpre
            have hne : "HTTP/1.".toList ++ chars ≠ [] := by simp
            rw [List.append_assoc, List.getLast?_append_of_ne_nil _ hne] at hwhole
            rw [← hwhole]
            simp
          obtain ⟨init, hinit⟩ := List.getLast?_eq_some_iff.mp hlast
          refine ⟨String.ofList init, ?_⟩
          rw [← String.toList_inj]
          simpa using hinit
      have hfound : ∀ t, "HTTP/1." ++ (found ++ t) = u ++ "\n" ++ t := by
        intro t
        rw [← String.append_assoc, hu]
      rw [hassoc, after_append hafter, after_append hafter, Option.bind_some, Option.bind_some, hfound, hfound,
        head?_lines_append u _ rest]

def cipherSuite (backend : Backend) (stdout stderr : String) : Option String :=
  match backend with
  | .openSsl => (opensslNegotiated stdout).cipherSuite
  | .boringSsl => (boringsslNegotiated stderr).cipherSuite
  | .wolfSsl => (wolfsslNegotiated (stdout ++ "\n" ++ stderr)).cipherSuite
  | .mock => none

section Parsed

variable {backend : Backend} {adapter : String} {request : ProbeRequest} {stdout stderr stdout' stderr' : String}
  {response response' : ProbeResponse}

theorem parse_eq (h : parse backend adapter request stdout stderr = some response)
    : ∃ negotiated certChain evidence errorSummary,
        response
          =
        buildResponse adapter request
          ((cipherSuite backend stdout stderr).isSome || (parseHttp stdout).isSome) negotiated
          (parseAlert (stdout ++ "\n" ++ stderr)) certChain (parseHttp stdout) evidence errorSummary := by
  cases backend with
  | mock => cases h
  | openSsl | boringSsl | wolfSsl =>
    cases h
    exact ⟨_, _, _, _, rfl⟩

theorem coherent_parse (h : parse backend adapter request stdout stderr = some response)
    : Coherent request response := by
  obtain ⟨negotiated, certChain, evidence, errorSummary, rfl⟩ := parse_eq h
  apply coherent_buildResponse
  intro hhttp
  rw [hhttp, Bool.or_true]

theorem parse_http (h : parse backend adapter request stdout stderr = some response)
    : response.http = parseHttp stdout := by
  obtain ⟨negotiated, certChain, evidence, errorSummary, rfl⟩ := parse_eq h
  rfl

theorem parse_alert (h : parse backend adapter request stdout stderr = some response)
    : response.alert = parseAlert (stdout ++ "\n" ++ stderr) := by
  obtain ⟨negotiated, certChain, evidence, errorSummary, rfl⟩ := parse_eq h
  rfl

theorem cipherSuite_eq_of_inserted (htext : ∀ needle ∈ successTexts backend, ¬ needle.toList <:+: text.toList)
    (hout : Inserted text stdout stdout') (herr : Inserted text stderr stderr')
    : cipherSuite backend stdout' stderr' = cipherSuite backend stdout stderr := by
  unfold cipherSuite
  cases backend with
  | mock => rfl
  | openSsl =>
    have hlong := hout.valueAfter_eq (by decide) (by decide) (htext "Cipher    : " (by decide))
    have hshort := hout.valueAfter_eq (by decide) (by decide) (htext "Cipher is " (by decide))
    unfold opensslNegotiated
    dsimp only
    rw [hlong, hshort]
  | boringSsl => exact herr.valueAfter_eq (by decide) (by decide) (htext "Cipher: " (by decide))
  | wolfSsl =>
    -- The two outputs are read as one.
    have hfirst : Inserted text (stdout ++ "\n" ++ stderr) (stdout' ++ "\n" ++ stderr) := by
      rw [String.append_assoc, String.append_assoc]
      exact hout.append_right _
    have hsuite : "SSL cipher suite is " ∈ successTexts .wolfSsl := by decide
    exact ((herr.append_left stdout').valueAfter_eq (by decide) (by decide) (htext _ hsuite)).trans
      (hfirst.valueAfter_eq (by decide) (by decide) (htext _ hsuite))

theorem stage_eq_of_inserted (htext : ∀ needle ∈ successTexts backend, ¬ needle.toList <:+: text.toList)
    (hout : Inserted text stdout stdout') (herr : Inserted text stderr stderr')
    (h : parse backend adapter request stdout stderr = some response)
    (h' : parse backend adapter request stdout' stderr' = some response')
    : response'.handshakeSuccess = response.handshakeSuccess ∧ response'.failedStage = response.failedStage := by
  have hhttp : (parseHttp stdout').isSome = (parseHttp stdout).isSome := by
    apply hout.isSome_parseHttp_eq
    cases backend with
    | mock => cases h
    | openSsl | boringSsl | wolfSsl => exact htext "HTTP/1." (by decide)
  have hsuite := cipherSuite_eq_of_inserted htext hout herr
  obtain ⟨negotiated, certChain, evidence, errorSummary, rfl⟩ := parse_eq h
  obtain ⟨negotiated', certChain', evidence', errorSummary', rfl⟩ := parse_eq h'
  unfold buildResponse
  dsimp only
  rw [hhttp, hsuite]
  exact ⟨rfl, rfl⟩

end Parsed

/--
Every report is coherent, and on a success lines that say something about an alert, wherever they are put
into the output, do not change how far the probe got.
-/
theorem reports_coherent (request : ProbeRequest)
    : (∀ (backend : Backend) (adapter stdout stderr : String) (response : ProbeResponse),
        parse backend adapter request stdout stderr = some response →
          Coherent request response
          ∧ response.alert = parseAlert (stdout ++ "\n" ++ stderr)
          ∧ (response.handshakeSuccess = true →
              ∀ (text stdout' stderr' : String) (response' : ProbeResponse),
                (∀ needle ∈ successTexts backend, ¬ needle.toList <:+: text.toList) →
                Inserted text stdout stdout' → Inserted text stderr stderr' →
                parse backend adapter request stdout' stderr' = some response' →
                  response'.handshakeSuccess = true ∧ response'.failedStage = response.failedStage))
      ∧ ∀ config : Config, Coherent request (mock config request) := by
  constructor
  . intro backend adapter stdout stderr response h
    refine ⟨coherent_parse h, parse_alert h, ?_⟩
    intro hsuccess text stdout' stderr' response' htext hout herr h'
    have hsame := stage_eq_of_inserted htext hout herr h h'
    rw [hsuccess] at hsame
    exact hsame
  . intro config
    exact coherent_mock config request

def alertRequest : ProbeRequest :=
  .new ⟨"lab.example", 443, none, none⟩

theorem reports_coherent_alert
    : Coherent alertRequest (parseOpenssl "openssl" alertRequest "Cipher is A\nSSL alert number 40\n" "")
      ∧ (parseOpenssl "openssl" alertRequest "Cipher is A\nSSL alert number 40\n" "").handshakeSuccess = true
      ∧ (parseOpenssl "openssl" alertRequest "Cipher is A\nSSL alert number 40\n" "").failedStage
          =
        (parseOpenssl "openssl" alertRequest "Cipher is A\n" "").failedStage := by
  have hplain := (reports_coherent alertRequest).1 .openSsl "openssl" "Cipher is A\n" "" _ rfl
  have halert := (reports_coherent alertRequest).1 .openSsl "openssl" "Cipher is A\nSSL alert number 40\n" "" _ rfl
  have hsuccess : (parseOpenssl "openssl" alertRequest "Cipher is A\n" "").handshakeSuccess = true := by
    decide +kernel
  have htext : ∀ needle ∈ successTexts .openSsl, ¬ needle.toList <:+: "SSL alert number 40".toList := by
    decide +kernel
  have hinserted : Inserted "SSL alert number 40" "Cipher is A\n" "Cipher is A\nSSL alert number 40\n" :=
    .inr ⟨"Cipher is A\n", "", .inr ⟨"Cipher is A", rfl⟩, rfl, rfl⟩
  exact ⟨halert.1, hplain.2.2 hsuccess _ _ _ _ htext hinserted (.refl _ _) rfl⟩

end Alert

end cli

end PqCas
