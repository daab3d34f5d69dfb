import PqCas.Domain.Jobs
import PqCas.Lib.Stream

/-!
The job streams between the API and the workers (`queue.rs`, `stream.rs` and the loop of `main.rs`):
which entries a worker group can still get at, over every order in which the API and the workers
start, enqueue, read, claim, acknowledge and crash.
-/

namespace PqCas

inductive StreamName where
  | probe
  | kem
  deriving DecidableEq, Repr

def StreamName.key (name : StreamName) : String :=
  match name with
  | .probe => STREAM_PROBE
  | .kem => STREAM_KEM

abbrev Fields := List (String × String)

abbrev JobStream := Redis.Stream Fields String

structure Claim where
  stream : StreamName
  id : Nat
  payload : String
  deriving DecidableEq, Repr

namespace stream

/--
Create the consumer group, tolerating the error that means it is already there.
-/
def ensureGroup (s : JobStream) : Except Err JobStream :=
  match s.xgroupCreate with
  | .ok s' => .ok s'
  | .error err =>
    if Text.contains err "BUSYGROUP" then
      .ok s
    else
      .error err

theorem contains_busygroup
    : Text.contains "BUSYGROUP Consumer Group name already exists" "BUSYGROUP" = true := by
  decide

theorem ensureGroup_cases {s s' : JobStream} (h : ensureGroup s = .ok s')
    : (s.group ≠ none ∧ s' = s) ∨ (s.group = none ∧ s'.group ≠ none ∧ s.xgroupCreate = .ok s') := by
  unfold ensureGroup at h
  cases hgroup : s.group with
  | some g =>
    have hcreate : s.xgroupCreate = .error "BUSYGROUP Consumer Group name already exists" := by
      unfold Redis.Stream.xgroupCreate
      split
      . rfl
      . next hnone =>
        rw [hgroup] at hnone
        cases hnone
    rw [hcreate] at h
    dsimp only at h
    rw [if_pos contains_busygroup] at h
    cases h
    exact .inl ⟨by simp, rfl⟩
  | none =>
    have hcreate : ∃ created, s.xgroupCreate = .ok created ∧ created.group ≠ none := by
      unfold Redis.Stream.xgroupCreate
      split
      . next g hsome =>
        rw [hgroup] at hsome
        cases hsome
      . exact ⟨_, rfl, by simp⟩
    obtain ⟨created, hcreated, hsome⟩ := hcreate
    rw [hcreated] at h
    cases h
    exact .inr ⟨rfl, hsome, hcreated⟩

def collect (name : StreamName) (entries : List (Nat × Fields)) : List Claim :=
  entries.filterMap (fun e => (e.2.lookup "job").map (fun payload => ⟨name, e.1, payload⟩))

end stream

namespace queue

def fields (payload : String) : Fields :=
  [("job", payload)]

end queue

namespace consumer

inductive Startup where
  | connected
  /-- The group of the probe stream is ensured. -/
  | probeGroup
  /-- Both are, and the loop runs. -/
  | ready
  deriving DecidableEq, Repr

/--
A worker process with the entries its tasks are handling.
-/
structure Worker where
  name : String
  startup : Startup
  tasks : List Claim
  deriving DecidableEq, Repr

structure State where
  streams : StreamName → JobStream
  workers : List Worker

def init : State :=
  ⟨fun _ => .empty, []⟩

inductive Step : State → State → Prop where
  | enqueue {streams ws} (name : StreamName) (id : Nat) (payload : String)
      (h : (streams name).lastId < id)
    : Step ⟨streams, ws⟩
        ⟨Function.update streams name ((streams name).xadd id (queue.fields payload) h), ws⟩
  | boot {streams ws} (name : String) : Step ⟨streams, ws⟩ ⟨streams, ⟨name, .connected, []⟩ :: ws⟩
  | ensureProbe {streams ws₁ ws₂ tasks s'} (name : String)
      (h : stream.ensureGroup (streams .probe) = .ok s')
    : Step ⟨streams, ws₁ ++ ⟨name, .connected, tasks⟩ :: ws₂⟩
        ⟨Function.update streams .probe s', ws₁ ++ ⟨name, .probeGroup, tasks⟩ :: ws₂⟩
  | ensureKem {streams ws₁ ws₂ tasks s'} (name : String)
      (h : stream.ensureGroup (streams .kem) = .ok s')
    : Step ⟨streams, ws₁ ++ ⟨name, .probeGroup, tasks⟩ :: ws₂⟩
        ⟨Function.update streams .kem s', ws₁ ++ ⟨name, .ready, tasks⟩ :: ws₂⟩
  | read {streams ws₁ ws₂ tasks} (name : String) (groups : StreamName → Redis.Group String)
      (h : ∀ st, (streams st).group = some (groups st))
    : Step ⟨streams, ws₁ ++ ⟨name, .ready, tasks⟩ :: ws₂⟩
        ⟨fun st => (streams st).xreadgroup (groups st) (h st) name 16,
          ws₁ ++ ⟨name, .ready, tasks
            ++ stream.collect .probe ((streams .probe).unread (groups .probe) 16)
            ++ stream.collect .kem ((streams .kem).unread (groups .kem) 16)⟩ :: ws₂⟩
  | autoclaim {streams ws₁ ws₂ tasks} (name : String) (st : StreamName) (g : Redis.Group String)
      (h : (streams st).group = some g) (idle : Nat → Bool)
    : Step ⟨streams, ws₁ ++ ⟨name, .ready, tasks⟩ :: ws₂⟩
        ⟨Function.update streams st ((streams st).xautoclaim g h name idle 16),
          ws₁ ++ ⟨name, .ready, tasks
            ++ stream.collect st ((streams st).entries.filter (fun e =>
              e.1 ∈ Redis.Stream.stale g idle 16))⟩ :: ws₂⟩
  | ack {streams ws₁ ws₂ tasks₁ tasks₂} (name : String) (startup : Startup) (claim : Claim)
    : Step ⟨streams, ws₁ ++ ⟨name, startup, tasks₁ ++ claim :: tasks₂⟩ :: ws₂⟩
        ⟨Function.update streams claim.stream ((streams claim.stream).xack claim.id),
          ws₁ ++ ⟨name, startup, tasks₁ ++ tasks₂⟩ :: ws₂⟩
  | crash {streams ws₁ ws₂} (worker : Worker)
    : Step ⟨streams, ws₁ ++ worker :: ws₂⟩ ⟨streams, ws₁ ++ ws₂⟩

def NoSkip (s : State) : Prop :=
  ∀ name, (s.streams name).NoSkip

def CreatesOnEmpty (s s' : State) : Prop :=
  ∀ name, (s.streams name).group = none → (s'.streams name).group ≠ none →
    (s.streams name).entries = []

section Steps

variable {st st' : JobStream}

def Keeps (st st' : JobStream) : Prop :=
  st.NoSkip → (st'.NoSkip ↔ (st.group = none → st'.group ≠ none → st.entries = []))

theorem keeps_of_noSkip (hgroup : st.group = none → st'.group = none) (h : st.NoSkip → st'.NoSkip)
    : Keeps st st' := by
  intro hst
  constructor
  . exact fun _ hnone hsome => absurd (hgroup hnone) hsome
  . exact fun _ => h hst

theorem keeps_ensureGroup (h : stream.ensureGroup st = .ok st') : Keeps st st' := by
  intro hst
  rcases stream.ensureGroup_cases h with ⟨hsome, rfl⟩ | ⟨hnone, hsome, hcreate⟩
  . exact ⟨fun _ hnone => absurd hnone hsome, fun _ => hst⟩
  . rw [Redis.Stream.noSkip_xgroupCreate_iff hcreate]
    exact ⟨fun h _ _ => h, fun h => h hnone hsome⟩

theorem group_xack (id : Nat) (h : st.group = none) : (st.xack id).group = none := by
  unfold Redis.Stream.xack
  split
  . exact h
  . next g hg =>
    rw [h] at hg
    cases hg

theorem keeps_update {streams : StreamName → JobStream} {name : StreamName}
    (h : Keeps (streams name) st') (st : StreamName)
    : Keeps (streams st) (Function.update streams name st' st) := by
  by_cases hst : st = name
  . subst hst
    rw [Function.update_self]
    exact h
  . rw [Function.update_of_ne hst]
    exact keeps_of_noSkip id id

theorem Step.keeps {s s' : State} (h : Step s s') (name : StreamName)
    : Keeps (s.streams name) (s'.streams name) := by
  cases h with
  | enqueue st newId payload hlt =>
    apply keeps_update
    exact keeps_of_noSkip id (fun h => Redis.Stream.noSkip_xadd h hlt)
  | boot | crash => exact keeps_of_noSkip id id
  | ensureProbe _ h => exact keeps_update (keeps_ensureGroup h) name
  | ensureKem _ h => exact keeps_update (keeps_ensureGroup h) name
  | read worker groups hgroups =>
    apply keeps_of_noSkip
    . intro hnone
      rw [hgroups name] at hnone
      cases hnone
    . exact fun h => Redis.Stream.noSkip_xreadgroup h (hgroups name) worker 16
  | autoclaim worker st g hg idle =>
    apply keeps_update
    apply keeps_of_noSkip
    . intro hnone
      rw [hg] at hnone
      cases hnone
    . exact fun h => Redis.Stream.noSkip_xautoclaim h hg worker idle 16
  | ack worker startup claim =>
    apply keeps_update
    exact keeps_of_noSkip (group_xack claim.id) (fun h => Redis.Stream.noSkip_xack h claim.id)

end Steps

theorem noSkip_step {s s' : State} (h : NoSkip s) (hstep : Step s s')
    : NoSkip s' ↔ CreatesOnEmpty s s' :=
  forall_congr' (fun name => hstep.keeps name (h name))

theorem noSkip_chain_iff {s : State} {states : List State} (hs : NoSkip s)
    (hrun : List.IsChain Step (s :: states))
    : (∀ s' ∈ s :: states, NoSkip s') ↔ List.IsChain CreatesOnEmpty (s :: states) := by
  induction states generalizing s with
  | nil => simpa using hs
  | cons s' states ih =>
    rw [List.isChain_cons_cons] at hrun ⊢
    rw [List.forall_mem_cons]
    have hstep := noSkip_step hs hrun.1
    constructor
    . rintro ⟨-, hall⟩
      have hs' : NoSkip s' := hall s' (by simp)
      exact ⟨hstep.mp hs', (ih hs' hrun.2).mp hall⟩
    . rintro ⟨hcreate, hchain⟩
      exact ⟨hs, (ih (hstep.mpr hcreate) hrun.2).mpr hchain⟩

theorem noSkip_init : NoSkip init := by
  intro name g hg
  cases hg

/--
In a run of the API and any number of workers, every entry that nobody acknowledged is deliverable or
pending in every state that has a group, exactly when each worker that creates a group finds its
stream empty.
-/
theorem noSkip_run_iff {states : List State} (hrun : List.IsChain Step (init :: states))
    : (∀ s ∈ init :: states, NoSkip s) ↔ List.IsChain CreatesOnEmpty (init :: states) :=
  noSkip_chain_iff noSkip_init hrun

namespace lab

def grouped : JobStream :=
  { (Redis.Stream.empty : JobStream) with
    group := some ⟨0, []⟩
    lastDelivered_le := by simp [Redis.Stream.empty]
    acked_of_none := by simp }

theorem ensureGroup_empty : stream.ensureGroup .empty = .ok grouped := rfl

def both : StreamName → JobStream :=
  Function.update (Function.update (fun _ => .empty) .probe grouped) .kem grouped

theorem both_eq (name : StreamName) : both name = grouped := by
  cases name <;> rfl

theorem lastId_both (name : StreamName) : (both name).lastId < 1 := by
  rw [both_eq]
  decide

def workerFirst : List State :=
  [
    ⟨fun _ => .empty, [⟨"worker-1", .connected, []⟩]⟩,
    ⟨Function.update (fun _ => .empty) .probe grouped, [⟨"worker-1", .probeGroup, []⟩]⟩,
    ⟨both, [⟨"worker-1", .ready, []⟩]⟩,
    ⟨Function.update both .probe ((both .probe).xadd 1 (queue.fields "job") (lastId_both .probe)),
      [⟨"worker-1", .ready, []⟩]⟩
  ]

theorem workerFirst_chain : List.IsChain Step (init :: workerFirst) := by
  have hprobe : Step ⟨fun _ => .empty, [] ++ ⟨"worker-1", .connected, []⟩ :: []⟩
      ⟨Function.update (fun _ => .empty) .probe grouped, [] ++ ⟨"worker-1", .probeGroup, []⟩ :: []⟩ :=
    .ensureProbe "worker-1" ensureGroup_empty
  have hkem : Step ⟨Function.update (fun _ => .empty) .probe grouped,
        [] ++ ⟨"worker-1", .probeGroup, []⟩ :: []⟩
      ⟨both, [] ++ ⟨"worker-1", .ready, []⟩ :: []⟩ :=
    .ensureKem "worker-1" ensureGroup_empty
  refine .cons_cons (.boot "worker-1") ?_
  refine .cons_cons hprobe ?_
  refine .cons_cons hkem ?_
  refine .cons_cons (.enqueue .probe 1 "job" (lastId_both .probe)) ?_
  exact .singleton _

theorem noSkip_workerFirst
    : List.IsChain Step (init :: workerFirst) ∧ ∀ s ∈ init :: workerFirst, NoSkip s := by
  refine ⟨workerFirst_chain, (noSkip_run_iff workerFirst_chain).mpr ?_⟩
  refine .cons_cons ?_ (.cons_cons ?_ (.cons_cons ?_ (.cons_cons ?_ (.singleton _))))
  . exact fun _ _ _ => rfl
  . exact fun _ _ _ => rfl
  . intro name _ _
    cases name <;> rfl
  . intro name hnone
    dsimp only at hnone
    rw [both_eq] at hnone
    cases hnone

/--
The API enqueues a job before the first worker starts: the group is created behind it.
-/
theorem skipped_of_api_first
    : ∃ s₁ s₂ s₃, List.IsChain Step [init, s₁, s₂, s₃] ∧ ¬ NoSkip s₃ := by
  let added : JobStream := Redis.Stream.empty.xadd 1 (queue.fields "job") Nat.zero_lt_one
  let streams : StreamName → JobStream := Function.update (fun _ => .empty) .probe added
  obtain ⟨created, hcreated⟩ : ∃ created, stream.ensureGroup added = .ok created := ⟨_, rfl⟩
  have hprobe : Step ⟨streams, [] ++ ⟨"worker-1", .connected, []⟩ :: []⟩
      ⟨Function.update streams .probe created, [] ++ ⟨"worker-1", .probeGroup, []⟩ :: []⟩ :=
    .ensureProbe "worker-1" hcreated
  have hchain : List.IsChain Step [init, ⟨streams, []⟩, _, _] :=
    .cons_cons (.enqueue .probe 1 "job" Nat.zero_lt_one)
      (.cons_cons (.boot "worker-1") (.cons_cons hprobe (.singleton _)))
  refine ⟨_, _, _, hchain, ?_⟩
  intro h
  have hskip := h .probe
  dsimp only at hskip
  rw [Function.update_self] at hskip
  rcases stream.ensureGroup_cases hcreated with ⟨hsome, -⟩ | ⟨-, -, hcreate⟩
  . exact hsome rfl
  . rw [Redis.Stream.noSkip_xgroupCreate_iff hcreate] at hskip
    cases hskip

end lab

end consumer

end PqCas
