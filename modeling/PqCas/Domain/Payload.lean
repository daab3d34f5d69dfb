import PqCas.Domain.Jobs
import PqCas.Lib.Codec

/-!
What the API puts on the job streams and what a worker makes of it: `serde` on `ProbeJob` and `KemJob`.
The text of a `Uuid` and the text of a JSON value are those of the crates.
-/

namespace PqCas

/--
`serde_json` on text, with what it says of a value that is not of the type.
-/
structure JsonText where
  print : Json → String
  parse : String → Except Err Json
  invalid : Json → Err

namespace JsonText

variable {α : Type} (text : JsonText) (f : Json → Option α)

def fromStr (payload : String) : Except Err α :=
  match text.parse payload with
  | .error err => .error err
  | .ok j =>
    match f j with
    | some value => .ok value
    | none => .error (text.invalid j)

theorem fromStr_print {j : Json} {value : α} (htext : text.parse (text.print j) = .ok j)
    (hread : f j = some value) : text.fromStr f (text.print j) = .ok value := by
  unfold fromStr
  rw [htext]
  dsimp only
  rw [hread]

end JsonText

namespace KemRunMode

def asStr (mode : KemRunMode) : String :=
  match mode with
  | .libraryCompat => "library_compat"
  | .groupCompat => "group_compat"
  | .priority => "priority"

def toJson (mode : KemRunMode) : Json :=
  .str mode.asStr

def fromJson (j : Json) : Option KemRunMode :=
  match j.asStr with
  | some "library_compat" => some .libraryCompat
  | some "group_compat" => some .groupCompat
  | some "priority" => some .priority
  | _ => none

theorem fromJson_toJson (mode : KemRunMode) : fromJson mode.toJson = some mode := by
  cases mode <;> rfl

def codec : Json.Codec KemRunMode :=
  ⟨toJson, fromJson, fromJson_toJson, nofun⟩

end KemRunMode

section Jobs

variable (uuid : Json.Codec Uuid)

def ProbeJob.toJson (job : ProbeJob) : Json :=
  .obj [
    ("test_id", uuid.encode job.testId),
    ("subtask_id", uuid.encode job.subtaskId),
    ("host", .str job.host),
    ("port", .int job.port.toNat),
    ("http_path", .str job.httpPath),
    ("adapter", .str job.adapter),
    ("group_name", .str job.groupName),
    ("sig_alg", .str job.sigAlg),
    ("timeout_ms", .int job.timeoutMs.toNat)
  ]

def ProbeJob.fromJson (j : Json) : Option ProbeJob := do
  return {
    testId := ← j.required "test_id" uuid.decode
    subtaskId := ← j.required "subtask_id" uuid.decode
    host := ← j.required "host" Json.asStr
    port := ← j.required "port" Json.asU16
    httpPath := ← j.required "http_path" Json.asStr
    adapter := ← j.required "adapter" Json.asStr
    groupName := ← j.required "group_name" Json.asStr
    sigAlg := ← j.required "sig_alg" Json.asStr
    timeoutMs := ← j.required "timeout_ms" Json.asU64
  }

def KemJob.toJson (job : KemJob) : Json :=
  .obj [
    ("run_id", uuid.encode job.runId),
    ("mode", job.mode.toJson),
    ("host", .str job.host),
    ("port", .int job.port.toNat),
    ("kem_groups", Json.strings job.kemGroups)
  ]

def KemJob.fromJson (j : Json) : Option KemJob := do
  return {
    runId := ← j.required "run_id" uuid.decode
    mode := ← j.required "mode" KemRunMode.fromJson
    host := ← j.required "host" Json.asStr
    port := ← j.required "port" Json.asU16
    kemGroups := ← j.required "kem_groups" (Json.asVec Json.asStr)
  }

theorem ProbeJob.fromJson_toJson (job : ProbeJob) : fromJson uuid (job.toJson uuid) = some job := by
  have hstr : ∀ (name s : String), (job.toJson uuid).get name = some (.str s) →
      (job.toJson uuid).required name Json.asStr = some s :=
    fun _ _ h => Json.Codec.string.required_of_get h
  have htest : (job.toJson uuid).required "test_id" uuid.decode = some job.testId :=
    uuid.required_of_get rfl
  have hsubtask : (job.toJson uuid).required "subtask_id" uuid.decode = some job.subtaskId :=
    uuid.required_of_get rfl
  have hport : (job.toJson uuid).required "port" Json.asU16 = some job.port :=
    Json.Codec.u16.required_of_get rfl
  have htimeout : (job.toJson uuid).required "timeout_ms" Json.asU64 = some job.timeoutMs :=
    Json.Codec.u64.required_of_get rfl
  unfold fromJson
  rw [htest, hsubtask, hport, htimeout, hstr "host" _ rfl, hstr "http_path" _ rfl, hstr "adapter" _ rfl,
    hstr "group_name" _ rfl, hstr "sig_alg" _ rfl]
  rfl

theorem KemJob.fromJson_toJson (job : KemJob) : fromJson uuid (job.toJson uuid) = some job := by
  have hrun : (job.toJson uuid).required "run_id" uuid.decode = some job.runId :=
    uuid.required_of_get rfl
  have hmode : (job.toJson uuid).required "mode" KemRunMode.fromJson = some job.mode :=
    KemRunMode.codec.required_of_get rfl
  have hhost : (job.toJson uuid).required "host" Json.asStr = some job.host :=
    Json.Codec.string.required_of_get rfl
  have hport : (job.toJson uuid).required "port" Json.asU16 = some job.port :=
    Json.Codec.u16.required_of_get rfl
  have hgroups : (job.toJson uuid).required "kem_groups" (Json.asVec Json.asStr) = some job.kemGroups :=
    Json.Codec.string.list.required_of_get rfl
  unfold fromJson
  rw [hrun, hmode, hhost, hport, hgroups]
  rfl

end Jobs

end PqCas
