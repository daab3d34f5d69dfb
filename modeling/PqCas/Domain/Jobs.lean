import PqCas.Domain.Proto
import PqCas.Lib.Text

/-!
Payloads placed on the Redis streams, the events published back out for SSE, and the mapping of a
probe result onto the status vocabulary the matrix paints with.
-/

namespace PqCas

def STREAM_PROBE : String := "jobs:probe"

def STREAM_KEM : String := "jobs:kem"

structure ProbeJob where
  testId : Uuid
  subtaskId : Uuid
  host : String
  port : UInt16
  httpPath : String
  adapter : String
  groupName : String
  sigAlg : String
  timeoutMs : UInt64
  deriving DecidableEq, Repr

/--
A KEM DEMO run, which the worker expands into many handshakes itself.
-/
structure KemJob where
  runId : Uuid
  mode : KemRunMode
  host : String
  port : UInt16
  kemGroups : List String
  deriving DecidableEq, Repr

/--
The pub/sub channels `events:test:<id>` and `events:kem:<id>`.
-/
inductive Channel where
  | test (testId : Uuid)
  | kem (runId : Uuid)
  deriving DecidableEq, Repr

inductive Event where
  | subtaskUpdated (subtaskId : Uuid) (execStatus : ExecStatus) (resultStatus : ResultStatus)
      (groupName sigAlg : String)
  | testFinished (testId : Uuid) (passed failed : UInt32)
  | log (seq : Int) (time : Nat) (level message : String)
  | cell (kem adapter : String) (verdict : ResultStatus) (detail : Option String)
  | finished (runId : Uuid)
  deriving DecidableEq, Repr

/--
Some name of the list is `alg` up to ASCII case. Spellings differ between catalogs and TLS stacks.
-/
def advertised (names : List String) (alg : String) : Bool :=
  names.any (fun known => Text.eqIgnoreAsciiCase known alg)

/--
Map an adapter probe result onto a result status. The search is over the groups and the signature
algorithms together, and one known offer is enough.
-/
def classify (response : ProbeResponse) (offered : List String) (capabilities : Capabilities)
    : ResultStatus :=
  let known := advertised (capabilities.kemGroups ++ capabilities.sigAlgs)
  let unsupported := !offered.any known
  if unsupported then
    .unsupported
  else if response.handshakeSuccess then
    .passed
  else
    .failed

@[simp]
theorem advertised_append (as bs : List String) (alg : String)
    : advertised (as ++ bs) alg = (advertised as alg || advertised bs alg) := by
  simp [advertised]

def NoneAdvertised (offered : List String) (capabilities : Capabilities) : Prop :=
  ∀ alg ∈ offered, advertised capabilities.kemGroups alg = false
    ∧ advertised capabilities.sigAlgs alg = false

theorem classify_of_noneAdvertised {offered : List String} {capabilities : Capabilities}
    (h : NoneAdvertised offered capabilities) (response : ProbeResponse)
    : classify response offered capabilities = .unsupported := by
  unfold classify
  dsimp
  rw [if_pos]
  simpa [NoneAdvertised] using h

theorem classify_of_not_noneAdvertised {offered : List String} {capabilities : Capabilities}
    (h : ¬ NoneAdvertised offered capabilities) (response : ProbeResponse)
    : classify response offered capabilities
        =
      if response.handshakeSuccess then .passed else .failed := by
  unfold classify
  dsimp
  rw [if_neg]
  simpa [NoneAdvertised] using h

theorem classify_mem (response : ProbeResponse) (offered : List String) (capabilities : Capabilities)
    : classify response offered capabilities ∈ [ResultStatus.passed, .failed, .unsupported] := by
  unfold classify
  dsimp
  split
  . simp
  . split <;> simp

end PqCas
