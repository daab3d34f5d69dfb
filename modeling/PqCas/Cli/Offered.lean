import PqCas.Cli.Parse

/-!
What a TLS client is told to offer, and what the trace says was offered.
-/

namespace PqCas

namespace cli

/--
The values of option `name` on a command line, when the options of `valued` take a value.
-/
def optionValues (valued : List String) (name : String) (args : List String) : List String :=
  match args with
  | [] => []
  | [_] => []
  | arg :: value :: rest =>
    if arg ∈ valued then
      (if arg = name then [value] else []) ++ optionValues valued name rest
    else
      optionValues valued name (value :: rest)

def valuedOptions (backend : Backend) : List String :=
  match backend with
  | .openSsl => ["-connect", "-servername", "-groups", "-sigalgs"]
  | .boringSsl => ["-connect", "-server-name", "-curves"]
  | .wolfSsl => ["-h", "-p", "-v", "-S", "--pqc"]
  | .mock => []

def passedGroups (backend : Backend) (args : List String) : List String :=
  let values := optionValues (valuedOptions backend)
  match backend with
  | .openSsl => (values "-groups" args).flatMap (Text.split ':')
  | .boringSsl => (values "-curves" args).flatMap (Text.split ':')
  | .wolfSsl => values "--pqc" args
  | .mock => []

/--
The signature algorithms a client reads off its command line. Only OpenSSL is given an option for them.
-/
def passedSigAlgs (backend : Backend) (args : List String) : List String :=
  match backend with
  | .openSsl => (optionValues (valuedOptions backend) "-sigalgs" args).flatMap (Text.split ':')
  | _ => []

def fieldValues (label : String) (row : HandshakeMessage) : List String :=
  ((row.fields.find? (fun field => field.label = label)).map MessageField.values).getD []

structure Recorded (backend : Backend) (args : List String) (row : HandshakeMessage) : Prop where
  kind : row.kind = "ClientHello"
  groups : passedGroups backend args = (fieldValues "Offered Groups" row).map (stackGroup backend)
  sigAlgs : passedSigAlgs backend args = fieldValues "Signature Algorithms" row

section Passed

variable (request : ProbeRequest)

theorem passed_openssl
    : passedGroups .openSsl (opensslArgs request)
          =
        (if request.kemGroups = [] then
          []
        else
          Text.split ':' (Text.join ":" (stackGroups .openSsl request)))
      ∧ passedSigAlgs .openSsl (opensslArgs request)
          =
        (if request.sigAlgs = [] then
          []
        else
          Text.split ':' (Text.join ":" request.sigAlgs)) := by
  unfold opensslArgs
  -- Each of the optional parts is there or not.
  by_cases htls : (request.tlsVersions.any (· == "TLSv1.3") && request.tlsVersions.length == 1) = true
  . rw [if_pos htls]
    by_cases hgroups : request.kemGroups = [] <;> by_cases hsigs : request.sigAlgs = [] <;>
      simp [passedGroups, passedSigAlgs, valuedOptions, optionValues, hgroups, hsigs]
  . rw [if_neg htls]
    by_cases hgroups : request.kemGroups = [] <;> by_cases hsigs : request.sigAlgs = [] <;>
      simp [passedGroups, passedSigAlgs, valuedOptions, optionValues, hgroups, hsigs]

theorem passedGroups_boringssl
    : passedGroups .boringSsl (boringsslArgs request)
        =
      if request.kemGroups = [] then
        []
      else
        Text.split ':' (Text.join ":" (stackGroups .boringSsl request)) := by
  unfold boringsslArgs
  by_cases hgroups : request.kemGroups = [] <;>
    simp [passedGroups, valuedOptions, optionValues, hgroups]

theorem passedGroups_wolfssl
    : passedGroups .wolfSsl (wolfsslArgs request)
        =
      (match request.kemGroups.head?.filter (fun g => !isClassicalGroup g) with
        | some group => [stackGroup .wolfSsl group]
        | none => []) := by
  unfold wolfsslArgs
  cases request.kemGroups.head?.filter (fun g => !isClassicalGroup g) <;>
    simp [passedGroups, valuedOptions, optionValues]

end Passed

theorem colon_mem_stackGroup (backend : Backend) (name : String)
    : ':' ∈ (stackGroup backend name).toList ↔ ':' ∈ name.toList := by
  rcases stackGroup_cases backend name with hrenamed | hsame
  . have htable : ∀ p ∈ renamings backend, ':' ∉ p.1.toList ∧ ':' ∉ p.2.toList := by
      cases backend <;> decide
    have hfree := htable _ hrenamed
    rw [← Text.mem_toAsciiLowercase (by decide : ':'.isAlpha = false) name]
    exact iff_of_false hfree.2 hfree.1
  . rw [hsame]

def Pinned (backend : Backend) (request : ProbeRequest) : Prop :=
  match backend with
  | .openSsl =>
    (∀ group ∈ request.kemGroups, ':' ∉ group.toList) ∧ ∀ alg ∈ request.sigAlgs, ':' ∉ alg.toList
  | .boringSsl => (∀ group ∈ request.kemGroups, ':' ∉ group.toList) ∧ request.sigAlgs = []
  | .wolfSsl =>
    (request.kemGroups = [] ∨ ∃ group, request.kemGroups = [group] ∧ isClassicalGroup group = false)
      ∧ request.sigAlgs = []
  | .mock => True

theorem parse_messages {backend : Backend} {adapter : String} {request : ProbeRequest}
    {stdout stderr : String} {response : ProbeResponse}
    (h : parse backend adapter request stdout stderr = some response)
    : response.messages.head? = some (clientHello request) := by
  cases backend <;> cases h <;> rfl

section Recorded

variable {request : ProbeRequest}

theorem split_stackGroups_iff {backend : Backend} (hne : request.kemGroups ≠ [])
    : Text.split ':' (Text.join ":" (stackGroups backend request)) = stackGroups backend request
        ↔
      ∀ group ∈ request.kemGroups, ':' ∉ group.toList := by
  have hsep : ":".toList = [':'] := rfl
  rw [Text.split_join_iff hsep (by simpa [stackGroups] using hne)]
  simp [stackGroups, colon_mem_stackGroup]

theorem groups_iff {backend : Backend} {passed : List String}
    (h : passed = if request.kemGroups = [] then [] else
      Text.split ':' (Text.join ":" (stackGroups backend request)))
    : passed = request.kemGroups.map (stackGroup backend)
        ↔
      ∀ group ∈ request.kemGroups, ':' ∉ group.toList := by
  by_cases hnil : request.kemGroups = []
  . simp [h, hnil]
  . rw [if_neg hnil] at h
    rw [h]
    exact split_stackGroups_iff hnil

theorem recorded_openssl_iff
    : Recorded .openSsl (opensslArgs request) (clientHello request) ↔ Pinned .openSsl request := by
  obtain ⟨hgroups, hsigs⟩ := passed_openssl request
  have hsig : passedSigAlgs .openSsl (opensslArgs request) = request.sigAlgs
      ↔ ∀ alg ∈ request.sigAlgs, ':' ∉ alg.toList := by
    have hsep : ":".toList = [':'] := rfl
    rw [hsigs]
    by_cases hnil : request.sigAlgs = []
    . simp [hnil]
    . rw [if_neg hnil]
      exact Text.split_join_iff hsep hnil
  constructor
  . intro h
    exact ⟨(groups_iff hgroups).mp h.groups, hsig.mp h.sigAlgs⟩
  . rintro ⟨hg, hs⟩
    exact ⟨rfl, (groups_iff hgroups).mpr hg, hsig.mpr hs⟩

theorem recorded_boringssl_iff
    : Recorded .boringSsl (boringsslArgs request) (clientHello request)
        ↔
      Pinned .boringSsl request := by
  have hgroups := passedGroups_boringssl request
  constructor
  . intro h
    exact ⟨(groups_iff hgroups).mp h.groups, h.sigAlgs.symm⟩
  . rintro ⟨hg, hs⟩
    exact ⟨rfl, (groups_iff hgroups).mpr hg, hs.symm⟩

theorem recorded_wolfssl_iff
    : Recorded .wolfSsl (wolfsslArgs request) (clientHello request) ↔ Pinned .wolfSsl request := by
  have hpassed := passedGroups_wolfssl request
  have hgroups : passedGroups .wolfSsl (wolfsslArgs request) = request.kemGroups.map (stackGroup .wolfSsl)
      ↔ request.kemGroups = [] ∨ ∃ group, request.kemGroups = [group] ∧ isClassicalGroup group = false := by
    rw [hpassed]
    cases request.kemGroups with
    | nil => simp
    | cons group rest =>
      cases hclassical : isClassicalGroup group with
      | true => simp [Option.filter, hclassical]
      | false => simp [Option.filter, hclassical]
  constructor
  . intro h
    exact ⟨hgroups.mp h.groups, h.sigAlgs.symm⟩
  . rintro ⟨hg, hs⟩
    exact ⟨rfl, hgroups.mpr hg, hs.symm⟩

end Recorded

/--
The trace of a probe says what the client was told to offer exactly when no name needs a colon and the
client has a way to be told: BoringSSL and wolfSSL get no signature algorithms, and wolfSSL gets one
group that is not classical.
-/
theorem recorded_iff {backend : Backend} {adapter : String} {request : ProbeRequest}
    {stdout stderr : String} {args : List String} {response : ProbeResponse}
    (hargs : clientArgs backend request = some args)
    (hparse : parse backend adapter request stdout stderr = some response)
    : (∃ row, response.messages.head? = some row ∧ Recorded backend args row)
        ↔
      Pinned backend request := by
  rw [parse_messages hparse]
  simp only [Option.some.injEq, exists_eq_left']
  cases backend with
  | openSsl =>
    cases hargs
    exact recorded_openssl_iff
  | boringSsl =>
    cases hargs
    exact recorded_boringssl_iff
  | wolfSsl =>
    cases hargs
    exact recorded_wolfssl_iff
  | mock => cases hargs

def labRequest : ProbeRequest :=
  { ProbeRequest.new ⟨"tls-good", 443, none, some "/"⟩ with
    kemGroups := ["X25519MLKEM768"]
    sigAlgs := ["mldsa65"]
  }

def labStderr : String :=
  "Connected.\n  Version: TLSv1.3\n  Cipher: TLS_AES_128_GCM_SHA256\n  ECDHE group: X25519MLKEM768\n  Signature algorithm: ecdsa_secp256r1_sha256\n"

def labWideRequest : ProbeRequest :=
  { labRequest with
    kemGroups := ["X25519MLKEM768", "mlkem1024"]
    sigAlgs := ["mldsa65", "mldsa87"]
  }

theorem recorded_lab
    : ∃ row, (parseOpenssl "openssl" labWideRequest "" "").messages.head? = some row
        ∧ Recorded .openSsl (opensslArgs labWideRequest) row := by
  have hargs : clientArgs .openSsl labWideRequest = some (opensslArgs labWideRequest) := rfl
  have hparse : parse .openSsl "openssl" labWideRequest "" ""
      = some (parseOpenssl "openssl" labWideRequest "" "") := rfl
  apply (recorded_iff hargs hparse).mpr
  exact ⟨by decide, by decide⟩

set_option maxRecDepth 20000 in
/--
BoringSSL is not told about the signature algorithm of the probe, the handshake succeeds with another
one, and the trace says that `mldsa65` was offered.
-/
theorem not_recorded_boringssl
    : (parseBoringssl "boringssl" labRequest "" labStderr).handshakeSuccess = true
        ∧ passedSigAlgs .boringSsl (boringsslArgs labRequest) = []
        ∧ fieldValues "Signature Algorithms" (clientHello labRequest) = ["mldsa65"]
        ∧ ¬ ∃ row, (parseBoringssl "boringssl" labRequest "" labStderr).messages.head? = some row
          ∧ Recorded .boringSsl (boringsslArgs labRequest) row := by
  refine ⟨by decide, rfl, rfl, ?_⟩
  rintro ⟨row, hrow, hrecorded⟩
  cases hrow
  cases hrecorded.sigAlgs

end cli

end PqCas
