import PqCas.Domain.Proto
import PqCas.Lib.Scan

/-!
The command lines of the TLS clients (`adapters/cli/src/backend.rs`), and the row of the trace that
says what was offered.
-/

namespace PqCas

namespace cli

inductive Backend where
  | openSsl
  | boringSsl
  | wolfSsl
  | mock
  deriving DecidableEq, Repr

def connectArg (request : ProbeRequest) : String :=
  s!"{request.target.host}:{request.target.port}"

def sni (request : ProbeRequest) : String :=
  request.target.sni.getD request.target.host

def isClassicalGroup (name : String) : Bool :=
  match Text.toAsciiLowercase name with
  | "x25519"
  | "x448"
  | "p-256"
  | "p-384"
  | "p-521"
  | "secp256r1"
  | "secp384r1"
  | "secp521r1"
  | "prime256v1" => true
  | _ => false

/--
Catalog names are not the same strings every TLS stack accepts.
-/
def stackGroup (backend : Backend) (name : String) : String :=
  let lower := Text.toAsciiLowercase name
  match backend with
  | .openSsl | .boringSsl =>
    match lower with
    | "mlkem512" => "MLKEM512"
    | "mlkem768" => "MLKEM768"
    | "mlkem1024" => "MLKEM1024"
    | "x25519mlkem768" => "X25519MLKEM768"
    | "secp256r1mlkem768" => "SecP256r1MLKEM768"
    | "secp384r1mlkem1024" => "SecP384r1MLKEM1024"
    | "p-256" | "secp256r1" => "P-256"
    | "p-384" | "secp384r1" => "P-384"
    | "p-521" | "secp521r1" => "P-521"
    | "x25519" => "x25519"
    | "x448" => "x448"
    | _ => name
  | .wolfSsl =>
    -- The hybrids pair differently there and are left unmapped.
    match lower with
    | "mlkem512" => "ML_KEM_512"
    | "mlkem768" => "ML_KEM_768"
    | "mlkem1024" => "ML_KEM_1024"
    | _ => name
  | .mock => name

def renamings (backend : Backend) : List (String × String) :=
  match backend with
  | .openSsl | .boringSsl =>
    [
      ("mlkem512", "MLKEM512"),
      ("mlkem768", "MLKEM768"),
      ("mlkem1024", "MLKEM1024"),
      ("x25519mlkem768", "X25519MLKEM768"),
      ("secp256r1mlkem768", "SecP256r1MLKEM768"),
      ("secp384r1mlkem1024", "SecP384r1MLKEM1024"),
      ("p-256", "P-256"),
      ("secp256r1", "P-256"),
      ("p-384", "P-384"),
      ("secp384r1", "P-384"),
      ("p-521", "P-521"),
      ("secp521r1", "P-521"),
      ("x25519", "x25519"),
      ("x448", "x448")
    ]
  | .wolfSsl =>
    [
      ("mlkem512", "ML_KEM_512"),
      ("mlkem768", "ML_KEM_768"),
      ("mlkem1024", "ML_KEM_1024")
    ]
  | .mock => []

theorem stackGroup_cases (backend : Backend) (name : String)
    : (Text.toAsciiLowercase name, stackGroup backend name) ∈ renamings backend
        ∨ stackGroup backend name = name := by
  unfold stackGroup renamings
  cases backend with
  | mock => exact .inr rfl
  | openSsl | boringSsl | wolfSsl =>
    dsimp only
    split
    all_goals first
      | exact .inr rfl
      | next h =>
        rw [h]
        exact .inl (by decide)

def stackGroups (backend : Backend) (request : ProbeRequest) : List String :=
  request.kemGroups.map (stackGroup backend)

def opensslArgs (request : ProbeRequest) : List String :=
  [
    "s_client",
    "-connect",
    connectArg request,
    "-servername",
    sni request,
    "-showcerts",
    "-ign_eof"
  ]
  ++ (if request.tlsVersions.any (· == "TLSv1.3") && request.tlsVersions.length == 1 then
      ["-tls1_3"]
    else
      [])
  ++ (if request.kemGroups ≠ [] then
      ["-groups", Text.join ":" (stackGroups .openSsl request)]
    else
      [])
  ++ (if request.sigAlgs ≠ [] then
      ["-sigalgs", Text.join ":" request.sigAlgs]
    else
      [])

def boringsslArgs (request : ProbeRequest) : List String :=
  [
    "client",
    "-connect",
    connectArg request,
    "-server-name",
    sni request
  ]
  ++ (if request.kemGroups ≠ [] then
      ["-curves", Text.join ":" (stackGroups .boringSsl request)]
    else
      [])

/--
`--pqc` only accepts post-quantum names. Classical probes run with the default curve selection.
-/
def wolfsslArgs (request : ProbeRequest) : List String :=
  [
    "-h",
    request.target.host,
    "-p",
    toString request.target.port,
    "-v",
    "4",
    "-S",
    sni request,
    "-d"
  ]
  ++ (match request.kemGroups.head?.filter (fun g => !isClassicalGroup g) with
    | some group => ["--pqc", stackGroup .wolfSsl group]
    | none => [])
  ++ ["-g"]

def clientArgs (backend : Backend) (request : ProbeRequest) : Option (List String) :=
  match backend with
  | .openSsl => some (opensslArgs request)
  | .boringSsl => some (boringsslArgs request)
  | .wolfSsl => some (wolfsslArgs request)
  | .mock => none

def defaultCipherSuites : List String :=
  [
    "TLS_AES_128_GCM_SHA256",
    "TLS_AES_256_GCM_SHA384",
    "TLS_CHACHA20_POLY1305_SHA256",
    "ECDHE-ECDSA-AES128-GCM-SHA256",
    "ECDHE-RSA-AES128-GCM-SHA256",
    "ECDHE-ECDSA-AES256-GCM-SHA384",
    "ECDHE-RSA-AES256-GCM-SHA384"
  ]

def clientHello (request : ProbeRequest) : HandshakeMessage :=
  {
    index := 0
    direction := .outbound
    kind := "ClientHello"
    fields := [
      ⟨"Offered Groups", request.kemGroups⟩,
      ⟨"Signature Algorithms", request.sigAlgs⟩,
      ⟨"Supported Versions", request.tlsVersions⟩,
      ⟨"Cipher Suites Offered",
        if request.cipherSuites = [] then defaultCipherSuites else request.cipherSuites⟩
    ]
  }

end cli

end PqCas
