import PqCas.Worker.Loop

/-!
Where every job is, over all runs of the API and the workers: no entry is lost and none is acknowledged
unhandled, no process runs more tasks than it has permits, and the job that a task handles is the one
that was enqueued.
-/

namespace PqCas

namespace stream

theorem mem_collect {name : StreamName} {entries : List (Nat × Fields)} {claim : Claim}
    (h : claim ∈ collect name entries)
    : claim.stream = name
        ∧ ∃ fields, (claim.id, fields) ∈ entries ∧ fields.lookup "job" = some claim.payload := by
  obtain ⟨e, he, hclaim⟩ := List.mem_filterMap.mp h
  obtain ⟨payload, hpayload, rfl⟩ := Option.map_eq_some_iff.mp hclaim
  exact ⟨rfl, e.2, he, hpayload⟩

theorem length_collect_le (name : StreamName) (entries : List (Nat × Fields))
    : (collect name entries).length ≤ entries.length :=
  List.length_filterMap_le _ _

theorem length_collect_unread_le (name : StreamName) (s : JobStream) (g : Redis.Group String) (count : Nat)
    : (collect name (s.unread g count)).length ≤ count := by
  have := length_collect_le name (s.unread g count)
  have : (s.unread g count).length ≤ count := List.length_take_le _ _
  omega

theorem length_collect_claimed_le (name : StreamName) (s : JobStream) (g : Redis.Group String)
    (idle : Nat → Bool) (count : Nat)
    : (collect name (s.entries.filter (fun e => e.1 ∈ Redis.Stream.stale g idle count))).length ≤ count := by
  have hids : ((s.entries.filter (fun e => e.1 ∈ Redis.Stream.stale g idle count)).map Prod.fst).length
      ≤ (Redis.Stream.stale g idle count).length := by
    apply List.Subperm.length_le
    apply List.subperm_of_subset
    . exact (List.filter_sublist.map Prod.fst).nodup s.nodup_ids
    . intro id hid
      obtain ⟨e, he, rfl⟩ := List.mem_map.mp hid
      simpa using List.of_mem_filter he
  have hstale : (Redis.Stream.stale g idle count).length ≤ count := List.length_take_le _ _
  have := length_collect_le name (s.entries.filter (fun e => e.1 ∈ Redis.Stream.stale g idle count))
  rw [List.length_map] at hids
  omega

end stream

namespace main

section Tracked

variable {name : StreamName} {s s' : JobStream} {skipped delivered : List (Nat × Fields)}
  {handled : List Claim}

structure Tracked (name : StreamName) (s : JobStream) (skipped delivered : List (Nat × Fields))
    (handled : List Claim) : Prop where
  ledger : ∀ g, s.group = some g → s.Ledger g skipped delivered
  fresh : s.group = none → delivered = []
  acked : ∀ id ∈ s.acked, ∃ claim ∈ handled, claim.stream = name ∧ claim.id = id

namespace Tracked

theorem xadd (h : Tracked name s skipped delivered handled) {id : Nat} {fields : Fields}
    (hid : s.lastId < id) : Tracked name (s.xadd id fields hid) skipped delivered handled := by
  constructor
  case ledger => exact fun g hg => (h.ledger g hg).xadd hg hid
  case fresh => exact h.fresh
  case acked => exact h.acked

theorem ensureGroup (h : Tracked name s skipped delivered handled) (hnone : s.group = none)
    (hensure : stream.ensureGroup s = .ok s') : Tracked name s' s.entries delivered handled := by
  rcases stream.ensureGroup_cases hensure with ⟨hsome, -⟩ | ⟨-, hsome, hcreate⟩
  . exact absurd hnone hsome
  . constructor
    case ledger =>
      intro g hg
      rw [h.fresh hnone]
      exact .of_xgroupCreate hcreate hg
    case fresh => exact fun hnone' => absurd hnone' hsome
    case acked =>
      rw [Redis.Stream.acked_xgroupCreate hcreate]
      exact h.acked

theorem xreadgroup (h : Tracked name s skipped delivered handled) {g : Redis.Group String}
    (hg : s.group = some g) (consumer : String) (count : Nat)
    : Tracked name (s.xreadgroup g hg consumer count) skipped (delivered ++ s.unread g count)
        handled := by
  constructor
  case ledger => exact fun g' hg' => (h.ledger g hg).xreadgroup hg consumer count hg'
  case fresh => exact nofun
  case acked => exact h.acked

theorem xautoclaim (h : Tracked name s skipped delivered handled) {g : Redis.Group String}
    (hg : s.group = some g) (consumer : String) (idle : Nat → Bool) (count : Nat)
    : Tracked name (s.xautoclaim g hg consumer idle count) skipped delivered handled := by
  constructor
  case ledger => exact fun g' hg' => (h.ledger g hg).xautoclaim hg consumer idle count hg'
  case fresh => exact nofun
  case acked => exact h.acked

theorem xack (h : Tracked name s skipped delivered handled) {claim : Claim} (hname : claim.stream = name)
    (hclaim : claim ∈ handled) : Tracked name (s.xack claim.id) skipped delivered handled := by
  cases hgroup : s.group with
  | none =>
    rw [Redis.Stream.xack_of_none hgroup]
    exact h
  | some g =>
    constructor
    case ledger => exact fun g' hg' => (h.ledger g hgroup).xack hgroup claim.id hg'
    case fresh =>
      intro hnone
      rw [Redis.Stream.group_xack hgroup] at hnone
      cases hnone
    case acked =>
      intro id hid
      rw [Redis.Stream.acked_xack hgroup] at hid
      split at hid
      . rw [List.mem_append, List.mem_singleton] at hid
        rcases hid with hid | rfl
        . exact h.acked id hid
        . exact ⟨claim, hclaim, hname, rfl⟩
      . exact h.acked id hid

theorem mono {more : List Claim} (h : Tracked name s skipped delivered handled) (hmore : handled ⊆ more)
    : Tracked name s skipped delivered more := by
  constructor
  case ledger => exact h.ledger
  case fresh => exact h.fresh
  case acked =>
    intro id hid
    obtain ⟨claim, hclaim, hsame⟩ := h.acked id hid
    exact ⟨claim, hmore hclaim, hsame⟩

end Tracked

end Tracked

section Worlds

variable {consumer : String} {w w' : World} {call : Call} {reply : List Claim}

def World.Delivered (w : World) (claim : Claim) : Prop :=
  ∃ fields, (claim.id, fields) ∈ w.delivered claim.stream ∧ fields.lookup "job" = some claim.payload

structure World.Ok (w : World) : Prop where
  tracked : ∀ name, Tracked name (w.streams name) (w.skipped name) (w.delivered name) w.handled
  handled : ∀ claim ∈ w.handled, w.Delivered claim

structure World.Le (w w' : World) : Prop where
  delivered : ∀ name, w.delivered name ⊆ w'.delivered name
  handled : w.handled ⊆ w'.handled

theorem World.Delivered.mono {claim : Claim} (h : w.Delivered claim) (hle : w.Le w') : w'.Delivered claim := by
  obtain ⟨fields, hmem, hjob⟩ := h
  exact ⟨fields, hle.delivered _ hmem, hjob⟩

theorem Served.le (h : Served consumer w call reply w') : w.Le w' := by
  cases h with
  | read groups hgroups => exact ⟨fun _ => List.subset_append_left _ _, List.Subset.refl _⟩
  | handled claim => exact ⟨fun _ => List.Subset.refl _, List.subset_append_left _ _⟩
  | _ => exact ⟨fun _ => List.Subset.refl _, List.Subset.refl _⟩

theorem tracked_update (h : w.Ok) {name : StreamName} {s' : JobStream}
    (hs : Tracked name s' (w.skipped name) (w.delivered name) w.handled) (st : StreamName)
    : Tracked st (Function.update w.streams name s' st) (w.skipped st) (w.delivered st) w.handled := by
  by_cases hst : st = name
  . subst hst
    rw [Function.update_self]
    exact hs
  . rw [Function.update_of_ne hst]
    exact h.tracked st

theorem World.Ok.served (h : w.Ok) (hserved : Served consumer w call reply w')
    (hhandled : ∀ claim, call = .handled claim → w.Delivered claim)
    (hack : ∀ claim, call = .ack claim → claim ∈ w.handled) : w'.Ok := by
  constructor
  case tracked =>
    cases hserved with
    | nothing => exact h.tracked
    | create name hnone hensure =>
      intro st
      dsimp only
      by_cases hst : st = name
      . subst hst
        rw [Function.update_self, Function.update_self]
        exact (h.tracked st).ensureGroup hnone hensure
      . rw [Function.update_of_ne hst, Function.update_of_ne hst]
        exact h.tracked st
    | busy name hsome hensure => exact h.tracked
    | read groups hgroups => exact fun name => (h.tracked name).xreadgroup (hgroups name) consumer 16
    | autoclaim name g hg idle =>
      exact tracked_update h ((h.tracked name).xautoclaim hg consumer idle 16)
    | handled claim => exact fun name => (h.tracked name).mono (List.subset_append_left _ _)
    | ack claim => exact tracked_update h ((h.tracked claim.stream).xack rfl (hack claim rfl))
  case handled =>
    intro claim hclaim
    apply World.Delivered.mono _ hserved.le
    cases hserved with
    | handled done =>
      rw [List.mem_append, List.mem_singleton] at hclaim
      rcases hclaim with hclaim | rfl
      . exact h.handled claim hclaim
      . exact hhandled claim rfl
    | _ => exact h.handled claim hclaim

theorem Served.delivered_reply (h : w.Ok) (hserved : Served consumer w call reply w') {claim : Claim}
    (hclaim : claim ∈ reply) : w'.Delivered claim := by
  cases hserved with
  | read groups hgroups =>
    rw [List.mem_append] at hclaim
    rcases hclaim with hclaim | hclaim
    all_goals
      obtain ⟨hname, fields, hmem, hjob⟩ := stream.mem_collect hclaim
      refine ⟨fields, ?_, hjob⟩
      rw [hname]
      exact List.mem_append_right _ hmem
  | autoclaim name g hg idle =>
    obtain ⟨hname, fields, hmem, hjob⟩ := stream.mem_collect hclaim
    rw [List.mem_filter] at hmem
    refine ⟨fields, ?_, hjob⟩
    rw [hname]
    apply ((h.tracked name).ledger g hg).mem_delivered hmem.1
    exact Redis.Stream.mem_pending_of_mem_stale (by simpa using hmem.2)
  | _ => cases hclaim

end Worlds

section Processes

variable {w w' : World} {p p' : Process} {call : Call} {reply : List Claim}

def Phase.room (phase : Phase) : Nat :=
  match phase with
  | .claimingKem _ => 16
  | _ => 32

def Call.room (call : Call) : Nat :=
  match call with
  | .read => 32
  | .autoclaim _ => 16
  | _ => 0

theorem Served.length_le {consumer : String} (h : Served consumer w call reply w') : reply.length ≤ call.room := by
  cases h with
  | read groups hgroups =>
    have := stream.length_collect_unread_le .probe (w.streams .probe) (groups .probe) 16
    have := stream.length_collect_unread_le .kem (w.streams .kem) (groups .kem) 16
    rw [List.length_append]
    dsimp only [Call.room]
    omega
  | autoclaim name g hg idle => exact stream.length_collect_claimed_le name (w.streams name) g idle 16
  | _ => exact Nat.zero_le _

structure Process.Ok (w : World) (p : Process) : Prop where
  permits : p.permits + p.tasks.length = p.concurrency
  deliveries : ∀ claim ∈ p.phase.deliveries, w.Delivered claim
  room : p.phase.deliveries.length ≤ p.phase.room
  tasks : ∀ task ∈ p.tasks, w.Delivered task.claim
  handled : ∀ task ∈ p.tasks, task.stage ≠ .handling → task.claim ∈ w.handled
  exited : p.phase = .exited → p.tasks.length ≤ p.concurrency / 2 ^ 32 * 2 ^ 32

namespace Process.Ok

theorem mono (h : p.Ok w) (hle : w.Le w') : p.Ok w' := by
  constructor
  case permits => exact h.permits
  case deliveries => exact fun claim hclaim => (h.deliveries claim hclaim).mono hle
  case room => exact h.room
  case tasks => exact fun task htask => (h.tasks task htask).mono hle
  case handled => exact fun task htask hstage => hle.handled (h.handled task htask hstage)
  case exited => exact h.exited

theorem goto (h : p.Ok w) {phase : Phase} (hdeliveries : ∀ claim ∈ phase.deliveries, w.Delivered claim)
    (hroom : phase.deliveries.length ≤ phase.room) (hphase : phase ≠ .exited)
    : ({ p with phase := phase } : Process).Ok w := by
  constructor
  case permits => exact h.permits
  case deliveries => exact hdeliveries
  case room => exact hroom
  case tasks => exact h.tasks
  case handled => exact h.handled
  case exited => exact fun heq => absurd heq hphase

theorem goto_empty (h : p.Ok w) {phase : Phase} (hnil : phase.deliveries = []) (hphase : phase ≠ .exited)
    : ({ p with phase := phase } : Process).Ok w := by
  apply h.goto _ _ hphase
  . rw [hnil]
    nofun
  . rw [hnil]
    exact Nat.zero_le _

theorem replaceTask (h : p.Ok w) {ts₁ ts₂ : List Task} {claim : Claim} {stage stage' : Stage}
    (htasks : p.tasks = ts₁ ++ ⟨claim, stage⟩ :: ts₂) (hphase : p.phase ≠ .exited)
    (hclaim : claim ∈ w.handled) : ({ p with tasks := ts₁ ++ ⟨claim, stage'⟩ :: ts₂ } : Process).Ok w := by
  have hmem : ∀ task ∈ ts₁ ++ ⟨claim, stage'⟩ :: ts₂, task.claim = claim ∨ task ∈ p.tasks := by
    intro task htask
    rw [htasks]
    simp only [List.mem_append, List.mem_cons] at htask ⊢
    rcases htask with htask | rfl | htask
    . exact .inr (.inl htask)
    . exact .inl rfl
    . exact .inr (.inr (.inr htask))
  have hold : w.Delivered claim := h.tasks ⟨claim, stage⟩ (by simp [htasks])
  constructor
  case permits =>
    have := h.permits
    rw [htasks] at this
    simpa using this
  case deliveries => exact h.deliveries
  case room => exact h.room
  case tasks =>
    intro task htask
    rcases hmem task htask with heq | htask
    . rw [heq]
      exact hold
    . exact h.tasks task htask
  case handled =>
    intro task htask hstage
    rcases hmem task htask with heq | htask
    . rw [heq]
      exact hclaim
    . exact h.handled task htask hstage
  case exited => exact fun heq => absurd heq hphase

theorem removeTask (h : p.Ok w) {ts₁ ts₂ : List Task} {task : Task} (htasks : p.tasks = ts₁ ++ task :: ts₂)
    (hphase : p.phase ≠ .exited)
    : ({ p with permits := p.permits + 1, tasks := ts₁ ++ ts₂ } : Process).Ok w := by
  have hmem : ∀ task ∈ ts₁ ++ ts₂, task ∈ p.tasks := by
    intro t ht
    rw [htasks]
    simp only [List.mem_append, List.mem_cons] at ht ⊢
    rcases ht with ht | ht
    . exact .inl ht
    . exact .inr (.inr ht)
  constructor
  case permits =>
    have := h.permits
    rw [htasks, List.length_append, List.length_cons] at this
    dsimp only
    rw [List.length_append]
    omega
  case deliveries => exact h.deliveries
  case room => exact h.room
  case tasks => exact fun t ht => h.tasks t (hmem t ht)
  case handled => exact fun t ht => h.handled t (hmem t ht)
  case exited => exact fun heq => absurd heq hphase

theorem spawn (h : p.Ok w) {claim : Claim} {deliveries : List Claim} {permits : Nat}
    (hphase : p.phase = .spawning (claim :: deliveries)) (hpermits : p.permits = permits + 1)
    : ({ p with
          permits := permits
          phase := .spawning deliveries
          tasks := p.tasks ++ [⟨claim, .handling⟩] } : Process).Ok w := by
  have hdeliveries := h.deliveries
  have hroom := h.room
  rw [hphase] at hdeliveries hroom
  constructor
  case permits =>
    have := h.permits
    dsimp only
    rw [List.length_append, List.length_singleton]
    omega
  case deliveries => exact fun c hc => hdeliveries c (List.mem_cons_of_mem _ hc)
  case room =>
    dsimp only [Phase.deliveries, Phase.room] at hroom ⊢
    rw [List.length_cons] at hroom
    omega
  case tasks =>
    intro task htask
    rw [List.mem_append, List.mem_singleton] at htask
    rcases htask with htask | rfl
    . exact h.tasks task htask
    . exact hdeliveries claim List.mem_cons_self
  case handled =>
    intro task htask hstage
    rw [List.mem_append, List.mem_singleton] at htask
    rcases htask with htask | rfl
    . exact h.handled task htask hstage
    . exact absurd rfl hstage
  case exited => exact nofun

theorem exit (h : p.Ok w) (hpermits : p.concurrency % 2 ^ 32 ≤ p.permits)
    : ({ p with phase := .exited } : Process).Ok w := by
  constructor
  case permits => exact h.permits
  case deliveries => exact nofun
  case room => exact Nat.zero_le _
  case tasks => exact h.tasks
  case handled => exact h.handled
  case exited =>
    intro _
    have := h.permits
    dsimp only
    omega

end Process.Ok

theorem Turn.ok (hturn : Turn p call reply p') (h : p.Ok w) (hw : w.Ok) (hserved : Served p.name w call reply w')
    : p'.Ok w' := by
  have hp : p.Ok w' := h.mono hserved.le
  have hreply : ∀ claim ∈ reply, w'.Delivered claim := fun _ hclaim => hserved.delivered_reply hw hclaim
  have hlength := hserved.length_le
  cases hturn with
  | ensureProbe | ensureKem | retry | tickDone | requestFails | replyLost | shutdown =>
    exact hp.goto_empty rfl nofun
  | read deliveries hphase =>
    split
    . exact hp.goto_empty rfl nofun
    . exact hp.goto hreply hlength nofun
  | claimProbe deliveries hphase => exact hp.goto hreply hlength nofun
  | claimKem more hphase =>
    have hdeliveries := hp.deliveries
    have hroom := hp.room
    rw [hphase] at hdeliveries hroom
    refine hp.goto ?_ ?_ nofun
    . intro claim hclaim
      dsimp only [Phase.deliveries] at hclaim
      rw [List.mem_append] at hclaim
      rcases hclaim with hclaim | hclaim
      . exact hdeliveries claim hclaim
      . exact hreply claim hclaim
    . dsimp only [Phase.deliveries, Phase.room, Call.room] at hroom hlength ⊢
      rw [List.length_append]
      omega
  | spawn hphase hpermits => exact hp.spawn hphase hpermits
  | handled htasks hphase =>
    apply hp.replaceTask htasks hphase
    cases hserved
    exact List.mem_append_right _ (List.mem_singleton_self _)
  | ack htasks hphase =>
    apply hp.replaceTask htasks hphase
    exact hp.handled ⟨_, .acking⟩ (by simp [htasks]) nofun
  | ended htasks hphase => exact hp.removeTask htasks hphase
  | exit hphase hpermits => exact hp.exit hpermits

theorem Phase.request_ne {phase : Phase} (hrequest : phase.request = some call) (claim : Claim)
    : call ≠ .handled claim ∧ call ≠ .ack claim := by
  cases phase with
  | reading | claimingProbe | claimingKem =>
    cases hrequest
    exact ⟨nofun, nofun⟩
  | _ => cases hrequest

theorem World.Ok.turn (hw : w.Ok) (h : p.Ok w) (hturn : Turn p call reply p')
    (hserved : Served p.name w call reply w') : w'.Ok := by
  apply hw.served hserved
  . rintro claim rfl
    cases hturn with
    | replyLost lost hrequest => exact absurd rfl (Phase.request_ne hrequest claim).1
    | handled htasks hphase => exact h.tasks ⟨claim, .handling⟩ (by simp [htasks])
  . rintro claim rfl
    cases hturn with
    | replyLost lost hrequest => exact absurd rfl (Phase.request_ne hrequest claim).2
    | ack htasks hphase => exact h.handled ⟨claim, .acking⟩ (by simp [htasks]) nofun

end Processes

section Runs

variable {uuid : Json.Codec Uuid} {text : JsonText} {s s' : State}

structure State.Ok (s : State) : Prop where
  world : s.world.Ok
  processes : ∀ p ∈ s.processes, p.Ok s.world

theorem ok_init : init.Ok := by
  constructor
  case world =>
    constructor
    case tracked =>
      intro name
      constructor
      case ledger => exact nofun
      case fresh => exact fun _ => rfl
      case acked => exact nofun
    case handled => exact nofun
  case processes => exact nofun

theorem ok_step (h : s.Ok) (hstep : Step uuid text s s') : s'.Ok := by
  have hworld := h.world
  have hprocesses := h.processes
  cases hstep with
  | enqueue job id hid =>
    constructor
    case world => exact ⟨tracked_update hworld ((hworld.tracked job.stream).xadd hid), hworld.handled⟩
    case processes =>
      exact fun p hp => (hprocesses p hp).mono ⟨fun _ => List.Subset.refl _, List.Subset.refl _⟩
  | boot name concurrency =>
    constructor
    case world => exact hworld
    case processes =>
      rw [List.forall_mem_cons]
      refine ⟨?_, hprocesses⟩
      exact ⟨rfl, nofun, Nat.zero_le _, nofun, nofun, nofun⟩
  | turn hserved hturn =>
    have hp := hprocesses _ List.mem_append_cons_self
    constructor
    case world => exact hworld.turn hp hturn hserved
    case processes =>
      intro q hq
      rw [List.mem_append, List.mem_cons] at hq
      rcases hq with hq | rfl | hq
      . exact (hprocesses q (by simp [hq])).mono hserved.le
      . exact hturn.ok hp hworld hserved
      . exact (hprocesses q (by simp [hq])).mono hserved.le
  | crash p =>
    constructor
    case world => exact hworld
    case processes =>
      intro q hq
      rw [List.mem_append] at hq
      apply hprocesses
      rw [List.mem_append, List.mem_cons]
      rcases hq with hq | hq
      . exact .inl hq
      . exact .inr (.inr hq)

theorem ok_run (h : Run uuid text init s) : s.Ok := by
  induction h with
  | refl => exact ok_init
  | tail _ hstep ih => exact ok_step ih hstep

/--
In every reachable state a stream with a group is split into the entries that were there before the
group, those that were delivered, in order and each once, and those still to come. The delivered ones
are pending until they are acknowledged, and whatever was acknowledged has been handled before.
-/
theorem accounted (h : Run uuid text init s) {name : StreamName} {g : Redis.Group String}
    (hg : (s.world.streams name).group = some g)
    : (s.world.streams name).entries
          = s.world.skipped name ++ s.world.delivered name ++ (s.world.streams name).waiting g
        ∧ g.pending.map Prod.fst
          = ((s.world.delivered name).map Prod.fst).filter (fun id => id ∉ (s.world.streams name).acked)
        ∧ ∀ id ∈ (s.world.streams name).acked,
          ∃ claim ∈ s.world.handled, claim.stream = name ∧ claim.id = id := by
  have htracked := (ok_run h).world.tracked name
  have hledger := htracked.ledger g hg
  exact ⟨hledger.entries, hledger.pending, htracked.acked⟩

theorem accounted_lab
    : (lab.acked.streams .probe).entries = [(1, lab.job.fields lab.uuid lab.text)]
        ∧ ([] : List Nat) = (([(1, lab.job.fields lab.uuid lab.text)] : List (Nat × Fields)).map Prod.fst).filter
          (fun id => id ∉ (lab.acked.streams .probe).acked)
        ∧ ∀ id ∈ ([1] : List Nat), ∃ claim ∈ lab.acked.handled, claim.stream = .probe ∧ claim.id = id :=
  have hgroup : (lab.acked.streams .probe).group = some ⟨1, []⟩ := rfl
  accounted lab.exited_run hgroup

/--
No process runs more tasks than its concurrency or holds more than 32 deliveries, and one that exits
after a shutdown cuts off none of its tasks, as long as its concurrency fits 32 bits.
-/
theorem drained (h : Run uuid text init s) {p : Process} (hp : p ∈ s.processes)
    : p.permits + p.tasks.length = p.concurrency
        ∧ p.phase.deliveries.length ≤ 32
        ∧ (p.phase = .exited → p.tasks.length ≤ p.concurrency / 2 ^ 32 * 2 ^ 32)
        ∧ (p.phase = .exited → p.concurrency < 2 ^ 32 → p.tasks = []) := by
  have hok := (ok_run h).processes p hp
  have hroom : p.phase.room ≤ 32 := by
    unfold Phase.room
    split <;> omega
  refine ⟨hok.permits, hok.room.trans hroom, hok.exited, ?_⟩
  intro hexited hlt
  have := hok.exited hexited
  apply List.eq_nil_of_length_eq_zero
  omega

theorem drained_lab
    : 8 + 0 = 8 ∧ lab.exited.phase.deliveries.length ≤ 32
        ∧ (lab.exited.phase = .exited → lab.exited.tasks.length ≤ 8 / 2 ^ 32 * 2 ^ 32)
        ∧ (lab.exited.phase = .exited → 8 < 2 ^ 32 → lab.exited.tasks = []) :=
  drained lab.exited_run (List.mem_singleton_self lab.exited)

section Dispatch

def World.Holds (uuid : Json.Codec Uuid) (text : JsonText) (w : World) : Prop :=
  ∀ name, (w.streams name).entries
    = (w.enqueued.filter (fun e => e.2.stream = name)).map (fun e => (e.1, e.2.fields uuid text))

theorem Served.enqueued_eq {consumer : String} {w w' : World} {call : Call} {reply : List Claim}
    (h : Served consumer w call reply w')
    : w'.enqueued = w.enqueued ∧ ∀ name, (w'.streams name).entries = (w.streams name).entries := by
  have hupdate : ∀ (name st : StreamName) (s' : JobStream), s'.entries = (w.streams name).entries →
      (Function.update w.streams name s' st).entries = (w.streams st).entries := by
    intro name st s' heq
    by_cases hst : st = name
    . subst hst
      rw [Function.update_self, heq]
    . rw [Function.update_of_ne hst]
  cases h with
  | nothing | busy | read | handled => exact ⟨rfl, fun _ => rfl⟩
  | create name hnone hensure =>
    refine ⟨rfl, fun st => hupdate name st _ ?_⟩
    rcases stream.ensureGroup_cases hensure with ⟨hsome, -⟩ | ⟨-, -, hcreate⟩
    . exact absurd hnone hsome
    . exact Redis.Stream.entries_xgroupCreate hcreate
  | autoclaim name g hg idle => exact ⟨rfl, fun st => hupdate name st _ rfl⟩
  | ack claim => exact ⟨rfl, fun st => hupdate claim.stream st _ (Redis.Stream.entries_xack _ _)⟩

theorem holds_step (h : s.world.Holds uuid text) (hstep : Step uuid text s s')
    : s'.world.Holds uuid text := by
  cases hstep with
  | enqueue job id hid =>
    intro name
    dsimp only
    rw [List.filter_append, List.map_append, ← h name]
    by_cases hname : name = job.stream
    . subst hname
      rw [Function.update_self]
      simp [Redis.Stream.xadd]
    . rw [Function.update_of_ne hname, List.filter_cons_of_neg (by simpa using Ne.symm hname)]
      simp
  | boot | crash => exact h
  | turn hserved hturn =>
    obtain ⟨henqueued, hentries⟩ := hserved.enqueued_eq
    intro name
    dsimp only
    rw [henqueued, hentries]
    exact h name

theorem holds_run (h : Run uuid text init s) : s.world.Holds uuid text := by
  induction h with
  | refl => exact fun _ => rfl
  | tail _ hstep ih => exact holds_step ih hstep

theorem job_of_delivered (h : Run uuid text init s) {claim : Claim} (hclaim : s.world.Delivered claim)
    : ∃ job, (claim.id, job) ∈ s.world.enqueued ∧ job.stream = claim.stream
        ∧ claim.payload = text.print (job.toJson uuid) := by
  obtain ⟨fields, hmem, hjob⟩ := hclaim
  have hentries : (claim.id, fields) ∈ (s.world.streams claim.stream).entries := by
    have htracked := (ok_run h).world.tracked claim.stream
    cases hg : (s.world.streams claim.stream).group with
    | none =>
      rw [htracked.fresh hg] at hmem
      cases hmem
    | some g =>
      rw [(htracked.ledger g hg).entries]
      simp [hmem]
  rw [holds_run h, List.mem_map] at hentries
  obtain ⟨⟨id, job⟩, hentry, heq⟩ := hentries
  cases heq
  rw [List.mem_filter] at hentry
  refine ⟨job, hentry.1, by simpa using hentry.2, ?_⟩
  simpa [Job.fields, queue.fields] using hjob.symm

theorem dispatch_print (adapters : AdapterRegistry) {job : Job}
    (htext : text.parse (text.print (job.toJson uuid)) = .ok (job.toJson uuid)) (id : String)
    : tick.dispatch (text.serde uuid) adapters ⟨job.stream.key, id, text.print (job.toJson uuid)⟩
        =
      job.handle adapters := by
  unfold tick.dispatch
  cases job with
  | probe job =>
    have hread : (text.serde uuid).probeJob (text.print ((Job.probe job).toJson uuid)) = .ok job :=
      text.fromStr_print _ htext (job.fromJson_toJson uuid)
    apply (if_pos rfl).trans
    dsimp only
    rw [hread]
    rfl
  | kem job =>
    have hread : (text.serde uuid).kemJob (text.print ((Job.kem job).toJson uuid)) = .ok job :=
      text.fromStr_print _ htext (job.fromJson_toJson uuid)
    have hstream : STREAM_KEM ≠ STREAM_PROBE := by decide
    apply (if_neg hstream).trans
    apply (if_pos rfl).trans
    dsimp only
    rw [hread]
    rfl

/--
In every reachable state each task of each process handles a job that the API enqueued, as it was
enqueued: an unknown stream or a payload that cannot be decoded never comes up.
-/
theorem dispatched (h : Run uuid text init s)
    (htext : ∀ e ∈ s.world.enqueued, text.parse (text.print (e.2.toJson uuid)) = .ok (e.2.toJson uuid))
    {p : Process} (hp : p ∈ s.processes) {task : Task} (htask : task ∈ p.tasks)
    : ∃ job, (task.claim.id, job) ∈ s.world.enqueued
        ∧ ∀ adapters id,
          tick.dispatch (text.serde uuid) adapters ⟨task.claim.stream.key, id, task.claim.payload⟩
            = job.handle adapters := by
  have hdelivered := ((ok_run h).processes p hp).tasks task htask
  obtain ⟨job, hmem, hstream, hpayload⟩ := job_of_delivered h hdelivered
  refine ⟨job, hmem, ?_⟩
  intro adapters id
  rw [← hstream, hpayload]
  exact dispatch_print adapters (htext _ hmem) id

theorem dispatched_lab
    : ∃ job, (1, job) ∈ lab.taken.enqueued
        ∧ ∀ adapters id,
          tick.dispatch (lab.text.serde lab.uuid) adapters ⟨STREAM_PROBE, id, tick.labPayload⟩
            = job.handle adapters := by
  have hbusy : lab.busy ∈ [lab.busy] := List.mem_singleton_self _
  have htask : (⟨lab.claim, .handling⟩ : Task) ∈ lab.busy.tasks := List.mem_singleton_self _
  apply dispatched lab.busy_run _ hbusy htask
  intro e he
  cases List.mem_singleton.mp he
  exact lab.parse_print

end Dispatch

end Runs

end main

end PqCas
