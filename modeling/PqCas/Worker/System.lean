import PqCas.Worker.Protocol
import PqCas.Worker.Recorded

/-!
Tasks of any number of workers that share one database and one adapter registry, interleaved
statement by statement. An entry may be delivered again at any time until it is acknowledged.
-/

namespace PqCas

variable {serde : Serde}

namespace system

section Steps

variable (serde) in
abbrev State := Pool (ProbeEntry serde) (Prog Op Op.Reply Unit) World

variable (serde) in
abbrev PhaseState := Pool (ProbeEntry serde) Phase World

/--
`XREADGROUP` and `XAUTOCLAIM`: an entry of the stream that nobody has acknowledged yet can be
delivered, to any worker, whether or not another task is handling it.
-/
def Deliverable (queue : List (ProbeEntry serde)) (w : World) (entry : ProbeEntry serde) : Prop :=
  entry ∈ queue ∧ (entry.delivery.stream, entry.delivery.id) ∉ w.acked

def Exec (good : Env → Prop) (op : Op) (w : World) (r : op.Reply) (w' : World) : Prop :=
  ∃ env : Env, good env ∧ env.exec op w = (r, w')

variable (good : Env → Prop) (adapters : AdapterRegistry) (queue : List (ProbeEntry serde))

def Step (s : State serde) (l : Pool.Label (ProbeEntry serde) Op) (s' : State serde) : Prop :=
  Pool.Step (Deliverable queue) (Exec good)
    (fun entry => tick.task serde adapters entry.delivery) s l s'

def PhaseStep (a : PhaseState serde) (l : Pool.Label (ProbeEntry serde) Op) (a' : PhaseState serde)
    : Prop :=
  Pool.PhaseStep (Deliverable queue) (Exec good)
    (fun entry => Next adapters entry.delivery entry.job) .received a l a'

def init (w : World) : State serde :=
  ⟨w, []⟩

def Reachable (w : World) (s : State serde) : Prop :=
  Relation.ReflTransGen (fun s s' => ∃ l, Step good adapters queue s l s') (init w) s

def Run (guard : State serde → Pool.Label (ProbeEntry serde) Op → Prop) (s s' : State serde) : Prop :=
  Relation.ReflTransGen (fun s s' => ∃ l, guard s l ∧ Step good adapters queue s l s') s s'

def Simulates (s : State serde) (a : PhaseState serde) : Prop :=
  Pool.Simulates (fun entry => Next adapters entry.delivery entry.job)
    (fun _ _ phase => phase = .acked) s a

variable {good adapters queue}

theorem reachable_stop {w : World} {s : State serde} {env : Env} (hs : Reachable good adapters queue w s)
    (henv : good env) {entry : ProbeEntry serde} (hentry : Deliverable queue s.world entry) (n : Nat)
    : Reachable good adapters queue w
        ⟨((tick.task serde adapters entry.delivery).stop env.exec n s.world).2,
          (entry, ((tick.task serde adapters entry.delivery).stop env.exec n s.world).1) :: s.threads⟩ := by
  apply (Relation.ReflTransGen.tail hs ⟨_, .spawn entry hentry⟩).trans
  exact Pool.steps_stop (fun op w => ⟨env, henv, rfl⟩) entry n _ s.world [] s.threads

theorem reachable_run {w : World} {s : State serde} {env : Env} (hs : Reachable good adapters queue w s)
    (henv : good env) {entry : ProbeEntry serde} (hentry : Deliverable queue s.world entry)
    : Reachable good adapters queue w
        ⟨((tick.task serde adapters entry.delivery).run env.exec s.world).2,
          (entry, .pure ()) :: s.threads⟩ := by
  obtain ⟨n, hn⟩ := Prog.exists_stop_eq_run env.exec (tick.task serde adapters entry.delivery) s.world
  have h := reachable_stop hs henv hentry n
  rw [hn] at h
  exact h

theorem run_stop {guard : State serde → Pool.Label (ProbeEntry serde) Op → Prop} {env : Env}
    (henv : good env) (entry : ProbeEntry serde) (n : Nat) (p : Prog Op Op.Reply Unit) (w : World)
    (ts : List (ProbeEntry serde × Prog Op Op.Reply Unit))
    (hguard : ∀ m < n, match p.stop env.exec m w with
      | (.op op k, w') => guard ⟨w', (entry, .op op k) :: ts⟩ (.perform entry op)
      | (.pure _, _) => True)
    : Run good adapters queue guard ⟨w, (entry, p) :: ts⟩
        ⟨(p.stop env.exec n w).2, (entry, (p.stop env.exec n w).1) :: ts⟩ := by
  induction n generalizing p w with
  | zero => exact .refl
  | succ n ih =>
    cases p with
    | pure u => exact .refl
    | op op k =>
      apply Relation.ReflTransGen.head
      . refine ⟨.perform entry op, hguard 0 (by omega), ?_⟩
        have hstep : Step good adapters queue ⟨w, [] ++ (entry, .op op k) :: ts⟩ (.perform entry op)
            ⟨(env.exec op w).2, [] ++ (entry, k (env.exec op w).1) :: ts⟩ :=
          .perform entry op k _ ⟨env, henv, rfl⟩
        exact hstep
      . apply ih
        intro m hm
        exact hguard (m + 1) (by omega)

theorem run_invariant {guard : State serde → Pool.Label (ProbeEntry serde) Op → Prop}
    {P : PhaseState serde → Prop} {s s' : State serde} {a : PhaseState serde}
    (hstep : ∀ s a l a', Simulates adapters s a → guard s l → P a →
      PhaseStep good adapters queue a l a' → P a')
    (hsim : Simulates adapters s a) (ha : P a) (h : Run good adapters queue guard s s')
    : ∃ a', Simulates adapters s' a' ∧ P a' :=
  Pool.Simulates.invariant (fun entry => tick.task_conforms adapters entry) hstep hsim ha h

theorem simulates_init (w : World) : Simulates adapters (init w : State serde) ⟨w, []⟩ :=
  ⟨rfl, .nil⟩

theorem reachable_invariant {P : PhaseState serde → Prop} {w : World} {s : State serde}
    (hinit : P ⟨w, []⟩) (hstep : ∀ a l a', P a → PhaseStep good adapters queue a l a' → P a')
    (h : Reachable good adapters queue w s) : ∃ a, Simulates adapters s a ∧ P a := by
  have hrun : Run good adapters queue (fun _ _ => True) (init w) s := by
    apply Relation.ReflTransGen.mono _ _ _ h
    exact fun _ _ ⟨l, hl⟩ => ⟨l, trivial, hl⟩
  exact run_invariant (fun _ a l a' _ _ ha => hstep a l a' ha) (simulates_init w) hinit hrun

end Steps

end system

/--
A queue whose entries name distinct existing subtasks of the tests they belong to.
-/
structure Queued (queue : List (ProbeEntry serde)) (db : Db) : Prop where
  ids_nodup : (db.subtasks.map SubtaskRow.id).Nodup
  row_of_job : ∀ entry ∈ queue,
    ∃ row ∈ db.subtasks, row.id = entry.job.subtaskId ∧ row.testId = entry.job.testId
  job_unique : ∀ entry ∈ queue, ∀ entry' ∈ queue,
    entry.job.subtaskId = entry'.job.subtaskId → entry = entry'

namespace Queued

variable {queue : List (ProbeEntry serde)} {db db' : Db} {entry : ProbeEntry serde} {testId : Uuid}

theorem testId_eq (h : Queued queue db) (hentry : entry ∈ queue) {row : SubtaskRow}
    (hrow : row ∈ db.subtasks) (hid : entry.job.subtaskId = row.id)
    : row.testId = entry.job.testId := by
  obtain ⟨row', hrow', hid', htest'⟩ := h.row_of_job entry hentry
  have : row' = row := List.inj_on_of_nodup_map h.ids_nodup hrow' hrow (hid'.trans hid)
  exact this ▸ htest'

theorem exists_row (h : Queued queue db) (hentry : entry ∈ queue)
    : ∃ row ∈ db.subtasksOf entry.job.testId, row.id = entry.job.subtaskId := by
  obtain ⟨row, hrow, hid, htest⟩ := h.row_of_job entry hentry
  exact ⟨row, List.mem_filter.mpr ⟨hrow, by simpa using htest⟩, hid⟩

theorem write (h : Queued queue db) {p : SubtaskRow → Bool} {f : SubtaskRow → SubtaskRow}
    (hid : ∀ row, (f row).id = row.id) (htestId : ∀ row, (f row).testId = row.testId)
    (hsub : db'.subtasks = Table.updateWhere db.subtasks p f) : Queued queue db' := by
  constructor
  . rw [hsub, Table.map_updateWhere SubtaskRow.id hid]
    exact h.ids_nodup
  . intro entry hentry
    obtain ⟨row, hmem, hrowid, hrowtest⟩ := h.row_of_job entry hentry
    by_cases hp : p row = true
    . refine ⟨f row, ?_, (hid row).trans hrowid, (htestId row).trans hrowtest⟩
      rw [hsub, Table.mem_updateWhere]
      exact .inl ⟨row, hmem, hp, rfl⟩
    . refine ⟨row, ?_, hrowid, hrowtest⟩
      rw [hsub, Table.mem_updateWhere]
      exact .inr ⟨hmem, by simpa using hp⟩
  . exact h.job_unique

theorem updateWhere_of_ne (h : Queued queue db) (hentry : entry ∈ queue)
    (hne : entry.job.testId ≠ testId) (f : SubtaskRow → SubtaskRow)
    : Table.updateWhere (db.subtasksOf testId) (fun row => row.id = entry.job.subtaskId) f
        =
      db.subtasksOf testId := by
  apply Table.updateWhere_eq_self
  intro row hrowof
  rw [decide_eq_false_iff_not]
  intro hrowid
  apply hne
  rw [← h.testId_eq hentry (List.mem_of_mem_filter hrowof) hrowid.symm]
  simpa using List.of_mem_filter hrowof

theorem saveReport_eq (h : Queued queue db) (hentry : entry ∈ queue) (now : Time)
    (result : ResultStatus) (response : ProbeResponse)
    : ∃ db',
        db.saveReport now entry.job.subtaskId result response = .ok db'
          ∧ db'.tests = db.tests
          ∧ db'.subtasks
              =
            Table.updateWhere db.subtasks (fun row => row.id = entry.job.subtaskId)
              (.finish now result response) := by
  obtain ⟨row, hrow, hid, -⟩ := h.row_of_job entry hentry
  obtain ⟨row', hrow'⟩ : ∃ row', db.subtask? entry.job.subtaskId = some row' := by
    rw [← Option.isSome_iff_exists]
    unfold Db.subtask?
    rw [List.find?_isSome]
    exact ⟨row, hrow, by simpa using hid⟩
  obtain ⟨db', hsave, htests, hsub, -⟩ := Db.saveReport_of_subtask? now hrow' result response
  exact ⟨db', hsave, htests, hsub⟩

end Queued

/--
A test as `create_test` leaves it: pending, at least one subtask, every subtask queued in the table
and on the stream. Its subtasks were counted in an `integer` column.
-/
structure Created (queue : List (ProbeEntry serde)) (db : Db) (testId : Uuid) : Prop
    extends Queued queue db where
  pending : ∃ test, db.test? testId = some test ∧ test.status = .pending
  queued : ∀ row ∈ db.subtasksOf testId, row.execStatus = .queued
  job_of_row : ∀ row ∈ db.subtasksOf testId, ∃ entry ∈ queue, entry.job.subtaskId = row.id
  nonempty : db.subtasksOf testId ≠ []
  count_lt : (db.subtasksOf testId).length < 2 ^ 31

end PqCas
