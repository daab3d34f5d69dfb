import PqCas.Cli.Backend

/-!
Reading the output of the TLS clients (`adapters/cli/src/backend.rs`).
-/

namespace PqCas

namespace cli

/--
What follows `needle` on a line, if it is more than white space.
-/
def valueOn (needle line : String) : Option String :=
  match Text.after needle line with
  | none => none
  | some rest =>
    let value := Text.trim rest
    if value ≠ "" then some value else none

def valueAfter (haystack needle : String) : Option String :=
  (Text.lines haystack).findSome? (valueOn needle)

/--
OpenSSL reports the alert numerically.
-/
def alertDescription (number : Nat) : String :=
  match number with
  | 0 => "close_notify"
  | 10 => "unexpected_message"
  | 20 => "bad_record_mac"
  | 40 => "handshake_failure"
  | 42 => "bad_certificate"
  | 47 => "illegal_parameter"
  | 48 => "unknown_ca"
  | 50 => "decode_error"
  | 51 => "decrypt_error"
  | 70 => "protocol_version"
  | 71 => "insufficient_security"
  | 80 => "internal_error"
  | 109 => "missing_extension"
  | 112 => "unrecognized_name"
  | 116 => "certificate_required"
  | 120 => "no_application_protocol"
  | _ => "unknown"

def parseAlert (text : String) : Option Alert :=
  match valueAfter text "SSL alert number " with
  | some rest => do
    -- A number that does not parse ends the search.
    let token ← (Text.splitWhitespace rest).head?
    let number ← Text.parseUnsigned (2 ^ 16) token
    return ⟨"fatal", alertDescription number⟩
  | none =>
    ["handshake_failure", "bad_record_mac", "illegal_parameter", "protocol_version"].findSome?
      (fun name => if Text.contains text name then some ⟨"fatal", name⟩ else none)

def parseHeaders (lines : List String) : List MessageField × List String :=
  match lines with
  | [] => ([], [])
  | line :: lines =>
    if Text.trim line = "" then
      ([], lines)
    else
      let (headers, body) := parseHeaders lines
      match Text.splitOnce ":" line with
      | some (name, value) => (⟨Text.trim name, [Text.trim value]⟩ :: headers, body)
      | none => (headers, body)

def parseHttp (text : String) : Option HttpOutcome := do
  let rest ← Text.after "HTTP/1." text
  let (statusLine, lines) ← match Text.lines ("HTTP/1." ++ rest) with
    | [] => none
    | line :: lines => some (line, lines)
  let token ← (Text.splitWhitespace statusLine)[1]?
  let status ← Text.parseUnsigned (2 ^ 16) token
  let (headers, bodyLines) := parseHeaders lines
  let body := Text.join "\n" bodyLines
  return {
    status := UInt16.ofNat status
    headers := headers
    bodyExcerpt := if Text.trim body ≠ "" then some (Text.takeChars 512 body) else none
  }

/--
A line such as `0 s:CN=server i:CN=ca`. The depth is one numeric character.
-/
def parseOpensslCert (line : String) : Option Certificate := do
  let rest ← Text.stripChar Text.isNumeric (Text.trim line)
  let subject ← Text.stripPrefix "s:" (Text.trimStart rest)
  let (subject, issuer) := match Text.splitOnce " i:" subject with
    | some (s, i) => (Text.trim s, Text.trim i)
    | none => (Text.trim subject, "")
  return {
    subject := subject
    issuer := issuer
    notBefore := none
    notAfter := none
    signatureAlgorithm := none
    publicKeyAlgorithm := none
    sha256Fingerprint := none
  }

def parseOpensslCerts (stdout : String) : List Certificate :=
  (Text.lines stdout).filterMap parseOpensslCert

/--
The bytes sent and received, from a line such as
`SSL handshake has read 4567 bytes and written 1234 bytes`.
-/
def byteCounts (text : String) : UInt64 × UInt64 :=
  match (Text.lines text).find? (fun line => Text.contains line "SSL handshake has read") with
  | none => (0, 0)
  | some line =>
    match (Text.splitWhitespace line).filterMap (Text.parseUnsigned (2 ^ 64)) with
    | read :: written :: _ => (UInt64.ofNat written, UInt64.ofNat read)
    | _ => (0, 0)

/--
Peel the group name out of the temp-key line of OpenSSL, which is `X25519, 253 bits` or
`ECDH, P-256, 256 bits`.
-/
def stripKeySize (value : String) : String :=
  match (Text.split ',' value).map Text.trim with
  | [] => value
  | [first] => first
  | mechanism :: group :: _ =>
    if Text.eqIgnoreAsciiCase mechanism "ECDH" || Text.eqIgnoreAsciiCase mechanism "ECDHE" then
      group
    else
      mechanism

def firstErrorLine (text : String) : Option String :=
  (((Text.lines text).map Text.trim).find? (fun line =>
    let lower := Text.toAsciiLowercase line
    Text.contains lower "error" || Text.contains lower "alert" || Text.contains lower "failed")).map
      (Text.takeChars 300)

def buildResponse (adapter : String) (request : ProbeRequest) (handshakeSuccess : Bool)
    (negotiated : Negotiated) (alert : Option Alert) (certChain : List Certificate)
    (http : Option HttpOutcome) (evidence : Evidence) (errorSummary : Option String)
    : ProbeResponse :=
  let row :=
    if handshakeSuccess then
      [{
        index := 1
        direction := .inbound
        kind := "ServerHello"
        fields := [
          ⟨"Version", [negotiated.tlsVersion.getD "unknown"]⟩,
          ⟨"Cipher Suite", [negotiated.cipherSuite.getD "unknown"]⟩,
          ⟨"Key Exchange Group", [negotiated.group.getD "unknown"]⟩
        ]
      }]
    else
      match alert with
      | some alert =>
        [{
          index := 1
          direction := .inbound
          kind := "Alert"
          fields := [⟨"Level", [alert.level]⟩, ⟨"Description", [alert.description]⟩]
        }]
      | none => []
  {
    adapter := adapter
    handshakeSuccess := handshakeSuccess
    negotiated := negotiated
    messages := clientHello request :: row
    alert := alert
    certChain := certChain
    http := http
    failedStage :=
      if handshakeSuccess then
        if http.isSome then .complete else .httpRequest
      else
        .tlsHandshake
    errorSummary := if handshakeSuccess then none else errorSummary
    diagnostics := .obj [
      ("offeredGroups", .arr (request.kemGroups.map .str)),
      ("offeredSigAlgs", .arr (request.sigAlgs.map .str))
    ]
    evidence := evidence
    durationMs := 0
  }

/--
`s_client` prints everything to stdout, the application data included.
-/
def opensslNegotiated (stdout : String) : Negotiated :=
  let tlsVersion := ((valueAfter stdout "Protocol  : ").or (valueAfter stdout "Protocol: ")).or
    ((valueAfter stdout "New, ").bind (fun rest => (Text.split ',' rest).head?.map Text.trim))
  let cipherSuite := ((valueAfter stdout "Cipher    : ").or (valueAfter stdout "Cipher is ")).filter
    (fun c => c ≠ "0000" && c ≠ "(NONE)" && c ≠ "NONE")
  let group := (((valueAfter stdout "Negotiated TLS1.3 group: ").or
    ((valueAfter stdout "Peer Temp Key: ").map stripKeySize)).or
    ((valueAfter stdout "Server Temp Key: ").map stripKeySize)).filter
    (fun g => g ≠ "<NULL>" && g ≠ "(NONE)")
  {
    tlsVersion := tlsVersion
    cipherSuite := cipherSuite
    group := group
    certVerifySigAlg := valueAfter stdout "Peer signature type: "
  }

def parseOpenssl (adapter : String) (request : ProbeRequest) (stdout stderr : String) : ProbeResponse :=
  let combined := stdout ++ "\n" ++ stderr
  let negotiated := opensslNegotiated stdout
  let http := parseHttp stdout
  let (sent, received) := byteCounts stdout
  buildResponse adapter request (negotiated.cipherSuite.isSome || http.isSome) negotiated
    (parseAlert combined) (parseOpensslCerts stdout) http
    { bytesSent := sent, bytesReceived := received } (firstErrorLine combined)

/--
`bssl client` prints its summary to stderr, and only the application data to stdout.
-/
def boringsslNegotiated (stderr : String) : Negotiated :=
  {
    tlsVersion := valueAfter stderr "Version: "
    cipherSuite := valueAfter stderr "Cipher: "
    group := ((valueAfter stderr "ECDHE group: ").or (valueAfter stderr "ECDHE curve: ")).or
      (valueAfter stderr "Group: ")
    certVerifySigAlg := valueAfter stderr "Signature algorithm: "
  }

def boringsslCerts (stderr : String) : List Certificate :=
  match valueAfter stderr "Cert subject: " with
  | some subject =>
    [{
      subject := subject
      issuer := (valueAfter stderr "Cert issuer: ").getD ""
      notBefore := none
      notAfter := none
      signatureAlgorithm := none
      publicKeyAlgorithm := none
      sha256Fingerprint := none
    }]
  | none => []

def parseBoringssl (adapter : String) (request : ProbeRequest) (stdout stderr : String)
    : ProbeResponse :=
  let combined := stdout ++ "\n" ++ stderr
  let negotiated := boringsslNegotiated stderr
  let http := parseHttp stdout
  buildResponse adapter request (negotiated.cipherSuite.isSome || http.isSome) negotiated
    (parseAlert combined) (boringsslCerts stderr) http {} (firstErrorLine combined)

/--
The curve is reported even when a post-quantum KEM was used, so the line of the KEM wins.
-/
def wolfsslNegotiated (combined : String) : Negotiated :=
  {
    tlsVersion := valueAfter combined "SSL version is "
    cipherSuite := valueAfter combined "SSL cipher suite is "
    group := (valueAfter combined "Using Post-Quantum KEM: ").or
      (valueAfter combined "SSL curve name is ")
  }

def parseWolfssl (adapter : String) (request : ProbeRequest) (stdout stderr : String)
    : ProbeResponse :=
  let combined := stdout ++ "\n" ++ stderr
  let negotiated := wolfsslNegotiated combined
  let http := parseHttp stdout
  buildResponse adapter request (negotiated.cipherSuite.isSome || http.isSome) negotiated
    (parseAlert combined) [] http {} (firstErrorLine combined)

def parse (backend : Backend) (adapter : String) (request : ProbeRequest) (stdout stderr : String)
    : Option ProbeResponse :=
  match backend with
  | .openSsl => some (parseOpenssl adapter request stdout stderr)
  | .boringSsl => some (parseBoringssl adapter request stdout stderr)
  | .wolfSsl => some (parseWolfssl adapter request stdout stderr)
  | .mock => none

end cli

end PqCas
