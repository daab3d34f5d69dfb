import Mathlib.Logic.Relation
import PqCas.Domain.Payload
import PqCas.Lib.Ledger
import PqCas.Worker.Consumer
import PqCas.Worker.Recorded

/-!
The main task of a worker process (`main.rs`): start-up, the loop around `tick`, the semaphore that the
spawned tasks share and the shutdown. Any number of processes run against the two job streams, with any
interleaving, failing requests, lost replies, panicking tasks and crashes.
-/

namespace PqCas

inductive Job where
  | probe (job : ProbeJob)
  | kem (job : KemJob)
  deriving DecidableEq, Repr

namespace Job

def stream (job : Job) : StreamName :=
  match job with
  | .probe _ => .probe
  | .kem _ => .kem

def toJson (uuid : Json.Codec Uuid) (job : Job) : Json :=
  match job with
  | .probe job => job.toJson uuid
  | .kem job => job.toJson uuid

def fields (uuid : Json.Codec Uuid) (text : JsonText) (job : Job) : Fields :=
  queue.fields (text.print (job.toJson uuid))

def handle (adapters : AdapterRegistry) (job : Job) : WorkerM Unit :=
  match job with
  | .probe job => probe.handle adapters job
  | .kem job => kem.handle adapters job

end Job

def JsonText.serde (uuid : Json.Codec Uuid) (text : JsonText) : Serde :=
  ⟨text.fromStr (ProbeJob.fromJson uuid), text.fromStr (KemJob.fromJson uuid)⟩

namespace main

inductive Phase where
  | connected
  /-- The group of the probe stream is ensured. -/
  | probeGroup
  | reading
  /-- There was nothing new. -/
  | claimingProbe
  | claimingKem (deliveries : List Claim)
  | spawning (deliveries : List Claim)
  /-- The sleep after a failed tick. It is not part of the `select!`. -/
  | backoff
  /-- `acquire_many` after the shutdown signal. -/
  | draining
  | exited
  deriving DecidableEq, Repr

inductive Stage where
  | handling
  | acking
  | done
  deriving DecidableEq, Repr

structure Task where
  claim : Claim
  stage : Stage
  deriving DecidableEq, Repr

/--
A worker process. The permits are those that the semaphore has left.
-/
structure Process where
  name : String
  concurrency : Nat
  permits : Nat
  phase : Phase
  tasks : List Task
  deriving DecidableEq, Repr

structure World where
  streams : StreamName → JobStream
  enqueued : List (Nat × Job)
  skipped : StreamName → List (Nat × Fields)
  delivered : StreamName → List (Nat × Fields)
  handled : List Claim

structure State where
  world : World
  processes : List Process

def init : State :=
  ⟨⟨fun _ => .empty, [], fun _ => [], fun _ => [], []⟩, []⟩

inductive Call where
  | nothing
  | ensure (name : StreamName)
  | read
  | autoclaim (name : StreamName)
  | handled (claim : Claim)
  | ack (claim : Claim)
  deriving DecidableEq, Repr

def Phase.request (phase : Phase) : Option Call :=
  match phase with
  | .reading => some .read
  | .claimingProbe => some (.autoclaim .probe)
  | .claimingKem _ => some (.autoclaim .kem)
  | _ => none

def Phase.deliveries (phase : Phase) : List Claim :=
  match phase with
  | .claimingKem deliveries | .spawning deliveries => deliveries
  | _ => []

/--
The tick is polled together with the shutdown signal.
-/
def Phase.ticking (phase : Phase) : Bool :=
  match phase with
  | .reading | .claimingProbe | .claimingKem _ | .spawning _ => true
  | _ => false

inductive Served (consumer : String) : World → Call → List Claim → World → Prop where
  | nothing {w} : Served consumer w .nothing [] w
  | create {w s'} (name : StreamName) (hnone : (w.streams name).group = none)
      (h : stream.ensureGroup (w.streams name) = .ok s')
    : Served consumer w (.ensure name) []
        { w with
          streams := Function.update w.streams name s'
          skipped := Function.update w.skipped name (w.streams name).entries }
  | busy {w} (name : StreamName) (hsome : (w.streams name).group ≠ none)
      (h : stream.ensureGroup (w.streams name) = .ok (w.streams name))
    : Served consumer w (.ensure name) [] w
  | read {w} (groups : StreamName → Redis.Group String)
      (h : ∀ name, (w.streams name).group = some (groups name))
    : Served consumer w .read
        (stream.collect .probe ((w.streams .probe).unread (groups .probe) 16)
          ++ stream.collect .kem ((w.streams .kem).unread (groups .kem) 16))
        { w with
          streams := fun name => (w.streams name).xreadgroup (groups name) (h name) consumer 16
          delivered := fun name => w.delivered name ++ (w.streams name).unread (groups name) 16 }
  | autoclaim {w} (name : StreamName) (g : Redis.Group String) (h : (w.streams name).group = some g)
      (idle : Nat → Bool)
    : Served consumer w (.autoclaim name)
        (stream.collect name ((w.streams name).entries.filter (fun e =>
          e.1 ∈ Redis.Stream.stale g idle 16)))
        { w with
          streams := Function.update w.streams name ((w.streams name).xautoclaim g h consumer idle 16) }
  | handled {w} (claim : Claim)
    : Served consumer w (.handled claim) [] { w with handled := w.handled ++ [claim] }
  | ack {w} (claim : Claim)
    : Served consumer w (.ack claim) []
        { w with
          streams := Function.update w.streams claim.stream ((w.streams claim.stream).xack claim.id) }

inductive Turn : Process → Call → List Claim → Process → Prop where
  | ensureProbe {p} (h : p.phase = .connected)
    : Turn p (.ensure .probe) [] { p with phase := .probeGroup }
  | ensureKem {p} (h : p.phase = .probeGroup)
    : Turn p (.ensure .kem) [] { p with phase := .reading }
  | read {p} (deliveries : List Claim) (h : p.phase = .reading)
    : Turn p .read deliveries
        { p with phase := if deliveries.isEmpty then .claimingProbe else .spawning deliveries }
  | claimProbe {p} (deliveries : List Claim) (h : p.phase = .claimingProbe)
    : Turn p (.autoclaim .probe) deliveries { p with phase := .claimingKem deliveries }
  | claimKem {p deliveries} (more : List Claim) (h : p.phase = .claimingKem deliveries)
    : Turn p (.autoclaim .kem) more { p with phase := .spawning (deliveries ++ more) }
  /-- The request of the tick failed before it reached the server. -/
  | requestFails {p call} (h : p.phase.request = some call)
    : Turn p .nothing [] { p with phase := .backoff }
  | replyLost {p call} (lost : List Claim) (h : p.phase.request = some call)
    : Turn p call lost { p with phase := .backoff }
  | retry {p} (h : p.phase = .backoff) : Turn p .nothing [] { p with phase := .reading }
  | spawn {p claim deliveries permits} (h : p.phase = .spawning (claim :: deliveries))
      (hpermits : p.permits = permits + 1)
    : Turn p .nothing []
        { p with
          permits := permits
          phase := .spawning deliveries
          tasks := p.tasks ++ [⟨claim, .handling⟩] }
  | tickDone {p} (h : p.phase = .spawning []) : Turn p .nothing [] { p with phase := .reading }
  /-- The tick is dropped, with the deliveries it holds. -/
  | shutdown {p} (h : p.phase.ticking = true) : Turn p .nothing [] { p with phase := .draining }
  /-- The handler returned, with or without an error. -/
  | handled {p claim ts₁ ts₂} (h : p.tasks = ts₁ ++ ⟨claim, .handling⟩ :: ts₂) (hphase : p.phase ≠ .exited)
    : Turn p (.handled claim) [] { p with tasks := ts₁ ++ ⟨claim, .acking⟩ :: ts₂ }
  | ack {p claim ts₁ ts₂} (h : p.tasks = ts₁ ++ ⟨claim, .acking⟩ :: ts₂) (hphase : p.phase ≠ .exited)
    : Turn p (.ack claim) [] { p with tasks := ts₁ ++ ⟨claim, .done⟩ :: ts₂ }
  /-- The task is over, or panicked, or gave up on the acknowledgement. It drops its permit. -/
  | ended {p task ts₁ ts₂} (h : p.tasks = ts₁ ++ task :: ts₂) (hphase : p.phase ≠ .exited)
    : Turn p .nothing [] { p with permits := p.permits + 1, tasks := ts₁ ++ ts₂ }
  /-- `acquire_many(config.concurrency as u32)` has its permits, and `main` returns. -/
  | exit {p} (h : p.phase = .draining) (hpermits : p.concurrency % 2 ^ 32 ≤ p.permits)
    : Turn p .nothing [] { p with phase := .exited }

inductive Step (uuid : Json.Codec Uuid) (text : JsonText) : State → State → Prop where
  | enqueue {w ps} (job : Job) (id : Nat) (h : (w.streams job.stream).lastId < id)
    : Step uuid text ⟨w, ps⟩
        ⟨{ w with
            streams := Function.update w.streams job.stream
              ((w.streams job.stream).xadd id (job.fields uuid text) h)
            enqueued := w.enqueued ++ [(id, job)] }, ps⟩
  | boot {w ps} (name : String) (concurrency : Nat)
    : Step uuid text ⟨w, ps⟩ ⟨w, ⟨name, concurrency, concurrency, .connected, []⟩ :: ps⟩
  | turn {w w' ps₁ ps₂ p p' call reply} (hserved : Served p.name w call reply w')
      (hturn : Turn p call reply p')
    : Step uuid text ⟨w, ps₁ ++ p :: ps₂⟩ ⟨w', ps₁ ++ p' :: ps₂⟩
  | crash {w ps₁ ps₂} (p : Process) : Step uuid text ⟨w, ps₁ ++ p :: ps₂⟩ ⟨w, ps₁ ++ ps₂⟩

abbrev Run (uuid : Json.Codec Uuid) (text : JsonText) : State → State → Prop :=
  Relation.ReflTransGen (Step uuid text)

namespace lab

open consumer.lab

def printUuid (id : Uuid) : Json :=
  if id = 1 then
    .str "00000000-0000-0000-0000-000000000001"
  else if id = 2 then
    .str "00000000-0000-0000-0000-000000000002"
  else
    .int id

def readUuid (j : Json) : Option Uuid :=
  match j with
  | .str s => if s = "00000000-0000-0000-0000-000000000001" then some 1 else some 2
  | .num (.int n) => some n.toNat
  | _ => none

theorem readUuid_printUuid (id : Uuid) : readUuid (printUuid id) = some id := by
  by_cases hone : id = 1
  . subst hone
    rfl
  . by_cases htwo : id = 2
    . subst htwo
      rfl
    . unfold printUuid
      rw [if_neg hone, if_neg htwo]
      exact congrArg some (Int.toNat_natCast id)

theorem printUuid_ne_null (id : Uuid) : printUuid id ≠ .null := by
  unfold printUuid
  split
  . nofun
  . split <;> nofun

def uuid : Json.Codec Uuid :=
  ⟨printUuid, readUuid, readUuid_printUuid, printUuid_ne_null⟩

def job : Job :=
  .probe (probe.labJob "X25519MLKEM768" "mldsa65")

def text : JsonText :=
  {
    print := fun _ => tick.labPayload
    parse := fun payload =>
      if payload = tick.labPayload then
        .ok (job.toJson uuid)
      else
        .error "expected value"
    invalid := fun _ => "missing field"
  }

theorem parse_print : text.parse (text.print (job.toJson uuid)) = .ok (job.toJson uuid) := by
  unfold text
  dsimp only
  exact if_pos rfl

def claim : Claim :=
  ⟨.probe, 1, tick.labPayload⟩

def probeReady : World :=
  { init.world with
    streams := Function.update (fun _ => .empty) .probe grouped
    skipped := Function.update (fun _ => []) .probe [] }

def ready : World :=
  { probeReady with
    streams := both
    skipped := Function.update probeReady.skipped .kem [] }

def queued : World :=
  { ready with
    streams := Function.update both .probe ((both .probe).xadd 1 (job.fields uuid text) (lastId_both .probe))
    enqueued := [(1, job)] }

def group : Redis.Group String :=
  ⟨0, []⟩

theorem group_queued (name : StreamName) : (queued.streams name).group = some group := by
  cases name <;> rfl

def taken : World :=
  { queued with
    streams := fun name => (queued.streams name).xreadgroup group (group_queued name) "worker-1" 16
    delivered := fun name => [] ++ (queued.streams name).unread group 16 }

def busy : Process :=
  ⟨"worker-1", 8, 7, .spawning [], [⟨claim, .handling⟩]⟩

theorem ready_run : Run uuid text init ⟨ready, [⟨"worker-1", 8, 8, .reading, []⟩]⟩ := by
  have hprobe : Step uuid text ⟨init.world, [] ++ ⟨"worker-1", 8, 8, .connected, []⟩ :: []⟩
      ⟨probeReady, [] ++ ⟨"worker-1", 8, 8, .probeGroup, []⟩ :: []⟩ :=
    .turn (.create .probe rfl ensureGroup_empty) (.ensureProbe rfl)
  have hkem : Step uuid text ⟨probeReady, [] ++ ⟨"worker-1", 8, 8, .probeGroup, []⟩ :: []⟩
      ⟨ready, [] ++ ⟨"worker-1", 8, 8, .reading, []⟩ :: []⟩ :=
    .turn (.create .kem rfl ensureGroup_empty) (.ensureKem rfl)
  exact .tail (.tail (.tail .refl (.boot "worker-1" 8)) hprobe) hkem

theorem busy_run : Run uuid text init ⟨taken, [busy]⟩ := by
  have hread : Step uuid text ⟨queued, [] ++ ⟨"worker-1", 8, 8, .reading, []⟩ :: []⟩
      ⟨taken, [] ++ ⟨"worker-1", 8, 8, .spawning [claim], []⟩ :: []⟩ :=
    .turn (.read (fun _ => group) group_queued) (.read [claim] rfl)
  have hspawn : Step uuid text ⟨taken, [] ++ ⟨"worker-1", 8, 8, .spawning [claim], []⟩ :: []⟩
      ⟨taken, [] ++ busy :: []⟩ :=
    .turn .nothing (.spawn rfl rfl)
  exact .tail (.tail (.tail ready_run (.enqueue job 1 (lastId_both .probe))) hread) hspawn

def handled : World :=
  { taken with handled := taken.handled ++ [claim] }

def acked : World :=
  { handled with
    streams := Function.update handled.streams .probe ((handled.streams .probe).xack 1) }

def exited : Process :=
  ⟨"worker-1", 8, 8, .exited, []⟩

theorem exited_run : Run uuid text init ⟨acked, [exited]⟩ := by
  have hhandled : Step uuid text ⟨taken, [] ++ busy :: []⟩
      ⟨handled, [] ++ { busy with tasks := [] ++ ⟨claim, .acking⟩ :: [] } :: []⟩ :=
    .turn (.handled claim) (.handled rfl (by decide))
  have hacked : Step uuid text ⟨handled, [] ++ { busy with tasks := [] ++ ⟨claim, .acking⟩ :: [] } :: []⟩
      ⟨acked, [] ++ { busy with tasks := [] ++ ⟨claim, .done⟩ :: [] } :: []⟩ :=
    .turn (.ack claim) (.ack rfl (by decide))
  have hended : Step uuid text ⟨acked, [] ++ { busy with tasks := [] ++ ⟨claim, .done⟩ :: [] } :: []⟩
      ⟨acked, [] ++ { busy with permits := 8, tasks := [] } :: []⟩ :=
    .turn .nothing (.ended (p := { busy with tasks := [] ++ ⟨claim, .done⟩ :: [] }) rfl (by decide))
  have hidle : Step uuid text ⟨acked, [] ++ { busy with permits := 8, tasks := [] } :: []⟩
      ⟨acked, [] ++ { exited with phase := .reading } :: []⟩ :=
    .turn .nothing (.tickDone rfl)
  have hshutdown : Step uuid text ⟨acked, [] ++ { exited with phase := .reading } :: []⟩
      ⟨acked, [] ++ { exited with phase := .draining } :: []⟩ :=
    .turn .nothing (.shutdown rfl)
  have hexit : Step uuid text ⟨acked, [] ++ { exited with phase := .draining } :: []⟩
      ⟨acked, [] ++ exited :: []⟩ :=
    .turn .nothing (.exit rfl (by decide))
  exact (((((busy_run.tail hhandled).tail hacked).tail hended).tail hidle).tail hshutdown).tail hexit

end lab

end main

end PqCas
