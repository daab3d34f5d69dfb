import PqCas.Worker.Coherent
import PqCas.Worker.Live
import PqCas.Worker.Outstanding

/-!
How often a test is closed when every job is handled once and nothing fails. The count of the close-out
and its update are separate statements: every handler that counts after the last row was written closes
the test.
-/

namespace PqCas

namespace Phase

def wrote (s : Phase) : Bool :=
  match s with
  | .received | .opened | .running => false
  | _ => true

def late (s : Phase) : Bool :=
  match s with
  | .saved | .announced => true
  | _ => false

def isClosing (s : Phase) : Bool :=
  match s with
  | .closing _ => true
  | _ => false

end Phase

namespace closedOnce

variable {serde : Serde} (adapters : AdapterRegistry) (queue : List (ProbeEntry serde)) (testId : Uuid)

abbrev Steps (serde : Serde) := List (system.State serde × Pool.Label (ProbeEntry serde) Op)

/--
The update of `finish_test_if_done`, after which it returns `Some`.
-/
def closes (l : Pool.Label (ProbeEntry serde) Op) : Bool :=
  match l with
  | .perform _ (.closeTest id _) => id == testId
  | _ => false

def closeOuts (tr : Steps serde) : Nat :=
  tr.countP (fun step => closes testId step.2)

def announcesEnd (event : Event) : Bool :=
  match event with
  | .testFinished id _ _ => id == testId
  | _ => false

def endEvents (w : World) : Nat :=
  w.published.countP (fun event => announcesEnd testId event.2)

def ClosedOnce (tr : Steps serde) (s : system.State serde) : Prop :=
  closeOuts testId tr = 1 ∧ endEvents testId s.world = 1

def Uncounted (p : Prog Op Op.Reply Unit) : Prop :=
  match p with
  | .op (.publish _ (.subtaskUpdated ..)) _ | .op (.countSubtasks _) _ => True
  | _ => False

/--
When the last outstanding subtask of the test is written, no handler of another one is between its own
write and its count.
-/
def Alone (s : system.State serde) (l : Pool.Label (ProbeEntry serde) Op) : Prop :=
  match l with
  | .perform entry (.saveReport ..) | .perform entry (.markSubtaskError ..) =>
    entry.job.testId = testId → s.world.db.OthersTerminal entry.job →
      ∀ t ∈ s.threads, t.1.job.testId = testId → ¬Uncounted t.2
  | _ => True

variable {adapters queue testId}

theorem uncounted_iff {entry : ProbeEntry serde} {p : Prog Op Op.Reply Unit} {s : Phase}
    (h : p.Conforms (Next adapters entry.delivery entry.job) (fun _ phase => phase = .acked) s)
    : Uncounted p ↔ s.late = true := by
  cases p with
  | pure u =>
    cases h
    simp [Uncounted, Phase.late]
  | op op k =>
    -- Any environment answers any operation.
    obtain ⟨s', hs', -⟩ := h (probe.labEnv.exec op probe.labWorld).1
    generalize (probe.labEnv.exec op probe.labWorld).1 = r at hs'
    cases hs' with
    | call hop =>
      cases op with
      | postProbe | cachedCapabilities | fetchCapabilities | cacheCapabilities =>
        simp [Uncounted, Phase.late]
      | _ => cases hop
    | _ => simp [Uncounted, Phase.late, probe.subtaskUpdated, probe.testFinished]

section Counts

variable (p : Phase → Bool) (testId)

def tasks (threads : List (ProbeEntry serde × Phase)) : Nat :=
  threads.countP (fun t => t.1.job.testId = testId && p t.2)

variable {p testId} {ts₁ ts₂ : List (ProbeEntry serde × Phase)} {t : ProbeEntry serde} {s s' : Phase}

theorem tasks_replace (hmine : t.job.testId = testId)
    : tasks testId p (ts₁ ++ (t, s') :: ts₂) + (p s).toNat = tasks testId p (ts₁ ++ (t, s) :: ts₂) + (p s').toNat := by
  unfold tasks
  simp only [List.countP_append, List.countP_cons, hmine, decide_true, Bool.true_and]
  cases p s <;> cases p s' <;> simp <;> omega

theorem tasks_replace_of_ne (hmine : t.job.testId ≠ testId)
    : tasks testId p (ts₁ ++ (t, s') :: ts₂) = tasks testId p (ts₁ ++ (t, s) :: ts₂) := by
  unfold tasks
  simp [List.countP_append, hmine]

theorem tasks_eq_zero_iff {threads : List (ProbeEntry serde × Phase)}
    : tasks testId p threads = 0 ↔ ∀ u ∈ threads, u.1.job.testId = testId → p u.2 = false := by
  unfold tasks
  simp [List.countP_eq_zero]

end Counts

def Written (threads : List (ProbeEntry serde × Phase)) (id : Uuid) : Prop :=
  ∃ t ∈ threads, t.1.job.subtaskId = id ∧ t.2.wrote = true

variable (queue testId) in
/--
The ledger of the close-outs. As long as something is outstanding there is none, and afterwards those
that were made and those that are still to come are one more than the handlers that were not alone.
-/
structure Inv (tr : Steps serde) (a : system.PhaseState serde) : Prop
    extends Queued queue a.world.db where
  job_of_row : ∀ row ∈ a.world.db.subtasksOf testId, ∃ entry ∈ queue, entry.job.subtaskId = row.id
  threads_mem : ∀ t ∈ a.threads, t.1 ∈ queue
  once : (a.threads.map Prod.fst).Nodup
  rows : ∀ row ∈ a.world.db.subtasksOf testId,
    row.execStatus.outstanding = false ↔ Written a.threads row.id
  before : ¬a.world.db.NothingOutstanding testId →
    closeOuts testId tr = 0
      ∧ (∀ step ∈ tr, Alone testId step.1 step.2)
      ∧ ∀ t ∈ a.threads, t.1.job.testId = testId → t.2.carries = none
  after : a.world.db.NothingOutstanding testId →
    0 < closeOuts testId tr + tasks testId Phase.owes a.threads
      ∧ (closeOuts testId tr + tasks testId Phase.owes a.threads = 1
          ↔
        ∀ step ∈ tr, Alone testId step.1 step.2)
  events : endEvents testId a.world + tasks testId Phase.isClosing a.threads = closeOuts testId tr

section Once

variable {w w' : World} {ts₁ ts₂ : List (ProbeEntry serde × Phase)} {t : ProbeEntry serde}
variable {s s' : Phase} {tr : Steps serde}

theorem subtaskId_ne (h : Inv queue testId tr ⟨w, ts₁ ++ (t, s) :: ts₂⟩) {u : ProbeEntry serde × Phase}
    (hu : u ∈ ts₁ ∨ u ∈ ts₂) : u.1.job.subtaskId ≠ t.job.subtaskId := by
  intro hid
  have hmem : t ∈ queue := h.threads_mem (t, s) (by simp)
  have hqueue : u.1 ∈ queue := h.threads_mem u (by rcases hu with hu | hu <;> simp [hu])
  have heq : u.1 = t := h.job_unique u.1 hqueue t hmem hid
  have honce := h.once
  dsimp only at honce
  rw [List.map_append, List.map_cons, List.nodup_append, List.nodup_cons] at honce
  obtain ⟨-, ⟨hnot, -⟩, hdisjoint⟩ := honce
  rcases hu with hu | hu
  . exact hdisjoint u.1 (List.mem_map_of_mem hu) t (by simp) heq
  . apply hnot
    have hu' := List.mem_map_of_mem (f := Prod.fst) hu
    rw [heq] at hu'
    exact hu'

theorem written_self_iff (h : Inv queue testId tr ⟨w, ts₁ ++ (t, s) :: ts₂⟩)
    : Written (ts₁ ++ (t, s') :: ts₂) t.job.subtaskId ↔ s'.wrote = true := by
  constructor
  . rintro ⟨u, hu, hid, hwrote⟩
    rw [List.mem_append, List.mem_cons] at hu
    rcases hu with hu | rfl | hu
    . exact absurd hid (subtaskId_ne h (.inl hu))
    . exact hwrote
    . exact absurd hid (subtaskId_ne h (.inr hu))
  . exact fun hwrote => ⟨(t, s'), by simp, rfl, hwrote⟩

theorem written_of_ne {id : Uuid} (hne : id ≠ t.job.subtaskId)
    : Written (ts₁ ++ (t, s') :: ts₂) id ↔ Written (ts₁ ++ (t, s) :: ts₂) id := by
  constructor
  . exact fun h => Pool.exists_replace h (fun ⟨hid, _⟩ => absurd hid.symm hne)
  . exact fun h => Pool.exists_replace h (fun ⟨hid, _⟩ => absurd hid.symm hne)

theorem written_replace (h : Inv queue testId tr ⟨w, ts₁ ++ (t, s) :: ts₂⟩) (hwrote : s'.wrote = s.wrote)
    (id : Uuid) : Written (ts₁ ++ (t, s') :: ts₂) id ↔ Written (ts₁ ++ (t, s) :: ts₂) id := by
  by_cases hid : id = t.job.subtaskId
  . subst hid
    rw [written_self_iff h, written_self_iff h, hwrote]
  . exact written_of_ne hid

theorem outstanding_of_not_wrote (h : Inv queue testId tr ⟨w, ts₁ ++ (t, s) :: ts₂⟩)
    (hmine : t.job.testId = testId) (hs : s.wrote = false) : ¬w.db.NothingOutstanding testId := by
  intro hall
  obtain ⟨row, hrow, hrowid⟩ := h.exists_row (h.threads_mem (t, s) (by simp))
  rw [hmine] at hrow
  have hwritten := (h.rows row hrow).mp (hall row hrow)
  dsimp only at hwritten
  rw [hrowid, written_self_iff h, hs] at hwritten
  cases hwritten

theorem once_replace (h : (List.map Prod.fst (ts₁ ++ (t, s) :: ts₂)).Nodup)
    : (List.map Prod.fst (ts₁ ++ (t, s') :: ts₂)).Nodup := by
  simpa using h

end Once

section Moves

variable {w w' : World} {ts₁ ts₂ : List (ProbeEntry serde × Phase)} {t : ProbeEntry serde}
variable {s s' : Phase} {tr : Steps serde} {p : system.State serde}
variable {l : Pool.Label (ProbeEntry serde) Op}

theorem closeOuts_append : closeOuts testId (tr ++ [(p, l)]) = closeOuts testId tr + (closes testId l).toNat := by
  unfold closeOuts
  rw [List.countP_append, List.countP_singleton]
  cases closes testId l <;> rfl

theorem forall_append_iff (halone : Alone testId p l)
    : (∀ step ∈ tr ++ [(p, l)], Alone testId step.1 step.2) ↔ ∀ step ∈ tr, Alone testId step.1 step.2 := by
  simp only [List.forall_mem_append, List.forall_mem_singleton, halone, and_true]

theorem endEvents_of_published (hpub : w'.published = w.published) : endEvents testId w' = endEvents testId w := by
  unfold endEvents
  rw [hpub]

theorem endEvents_publish {channel : Channel} {event : Event}
    (hpub : w'.published = w.published ++ [(channel, event)])
    : endEvents testId w' = endEvents testId w + (announcesEnd testId event).toNat := by
  unfold endEvents
  rw [hpub, List.countP_append, List.countP_singleton]
  cases announcesEnd testId event <;> rfl

theorem inv_keep (h : Inv queue testId tr ⟨w, ts₁ ++ (t, s) :: ts₂⟩) (hqueued : Queued queue w'.db)
    (hof : w'.db.subtasksOf testId = w.db.subtasksOf testId) (halone : Alone testId p l)
    (hwritten : ∀ row ∈ w.db.subtasksOf testId,
      (Written (ts₁ ++ (t, s') :: ts₂) row.id ↔ Written (ts₁ ++ (t, s) :: ts₂) row.id))
    (hbefore : ¬w.db.NothingOutstanding testId →
      closes testId l = false ∧ ∀ u ∈ ts₁ ++ (t, s') :: ts₂, u.1.job.testId = testId → u.2.carries = none)
    (hafter : w.db.NothingOutstanding testId →
      (closes testId l).toNat + tasks testId Phase.owes (ts₁ ++ (t, s') :: ts₂)
        = tasks testId Phase.owes (ts₁ ++ (t, s) :: ts₂))
    (hevents : endEvents testId w' + tasks testId Phase.isClosing (ts₁ ++ (t, s') :: ts₂)
      = endEvents testId w + tasks testId Phase.isClosing (ts₁ ++ (t, s) :: ts₂) + (closes testId l).toNat)
    : Inv queue testId (tr ++ [(p, l)]) ⟨w', ts₁ ++ (t, s') :: ts₂⟩ := by
  have hnothing : w'.db.NothingOutstanding testId ↔ w.db.NothingOutstanding testId := by
    unfold Db.NothingOutstanding
    rw [hof]
  constructor
  case toQueued => exact hqueued
  case job_of_row =>
    dsimp only
    rw [hof]
    exact h.job_of_row
  case threads_mem => exact Pool.forall_replace h.threads_mem id
  case once => exact once_replace h.once
  case rows =>
    intro row hrow
    dsimp only at hrow ⊢
    rw [hof] at hrow
    rw [hwritten row hrow]
    exact h.rows row hrow
  case before =>
    intro hnot
    dsimp only at hnot ⊢
    rw [hnothing] at hnot
    obtain ⟨hcloses, hcarries⟩ := hbefore hnot
    obtain ⟨hzero, hall, -⟩ := h.before hnot
    rw [closeOuts_append, forall_append_iff halone, hzero, hcloses]
    exact ⟨rfl, hall, hcarries⟩
  case after =>
    intro hall
    dsimp only at hall ⊢
    rw [hnothing] at hall
    have hledger := hafter hall
    have hold := h.after hall
    rw [closeOuts_append, forall_append_iff halone, ← hold.2]
    dsimp only at hold ⊢
    omega
  case events =>
    have hold := h.events
    rw [closeOuts_append]
    dsimp only at hold ⊢
    omega

theorem inv_other (h : Inv queue testId tr ⟨w, ts₁ ++ (t, s) :: ts₂⟩) (hmine : t.job.testId ≠ testId)
    (hqueued : Queued queue w'.db) (hof : w'.db.subtasksOf testId = w.db.subtasksOf testId)
    (halone : Alone testId p l) (hcloses : closes testId l = false)
    (hevents : endEvents testId w' = endEvents testId w)
    : Inv queue testId (tr ++ [(p, l)]) ⟨w', ts₁ ++ (t, s') :: ts₂⟩ := by
  have hmem : t ∈ queue := h.threads_mem (t, s) (by simp)
  apply inv_keep h hqueued hof halone
  case hwritten =>
    intro row hrow
    apply written_of_ne
    intro hid
    apply hmine
    rw [← h.testId_eq hmem (List.mem_of_mem_filter hrow) hid.symm]
    simpa using List.of_mem_filter hrow
  case hbefore =>
    intro hnot
    refine ⟨hcloses, ?_⟩
    exact Pool.forall_replace (h.before hnot).2.2 (fun _ hmine' => absurd hmine' hmine)
  case hafter =>
    intro _
    rw [tasks_replace_of_ne (s := s) hmine, hcloses]
    exact Nat.zero_add _
  case hevents =>
    rw [tasks_replace_of_ne (s := s) hmine, hcloses, hevents]
    rfl

theorem inv_mine (h : Inv queue testId tr ⟨w, ts₁ ++ (t, s) :: ts₂⟩) (hmine : t.job.testId = testId)
    (hsub : w'.db.subtasks = w.db.subtasks) (halone : Alone testId p l) (hwrote : s'.wrote = s.wrote)
    (hbefore : ¬w.db.NothingOutstanding testId → closes testId l = false ∧ s'.carries = none)
    (hafter : w.db.NothingOutstanding testId → (closes testId l).toNat + s'.owes.toNat = s.owes.toNat)
    (hevents : endEvents testId w' + s'.isClosing.toNat
      = endEvents testId w + s.isClosing.toNat + (closes testId l).toNat)
    : Inv queue testId (tr ++ [(p, l)]) ⟨w', ts₁ ++ (t, s') :: ts₂⟩ := by
  have howes : tasks testId Phase.owes (ts₁ ++ (t, s') :: ts₂) + s.owes.toNat
      = tasks testId Phase.owes (ts₁ ++ (t, s) :: ts₂) + s'.owes.toNat := tasks_replace hmine
  have hclosing : tasks testId Phase.isClosing (ts₁ ++ (t, s') :: ts₂) + s.isClosing.toNat
      = tasks testId Phase.isClosing (ts₁ ++ (t, s) :: ts₂) + s'.isClosing.toNat := tasks_replace hmine
  apply inv_keep h _ _ halone
  case hwritten => exact fun row _ => written_replace h hwrote row.id
  case hbefore =>
    intro hnot
    obtain ⟨hcloses, hcarries⟩ := hbefore hnot
    exact ⟨hcloses, Pool.forall_replace (h.before hnot).2.2 (fun _ _ => hcarries)⟩
  case hafter =>
    intro hall
    have := hafter hall
    omega
  case hevents => omega
  . constructor
    . simpa [hsub] using h.ids_nodup
    . simpa [hsub] using h.row_of_job
    . exact h.job_unique
  . unfold Db.subtasksOf
    rw [hsub]

theorem inv_write (h : Inv queue testId tr ⟨w, ts₁ ++ (t, s) :: ts₂⟩) (hmine : t.job.testId = testId)
    {f : SubtaskRow → SubtaskRow} (hid : ∀ row, (f row).id = row.id)
    (htestId : ∀ row, (f row).testId = row.testId)
    (hsub : w'.db.subtasks = Table.updateWhere w.db.subtasks (fun row => row.id = t.job.subtaskId) f)
    (hpub : w'.published = w.published) (hcloses : closes testId l = false)
    (hs : s.wrote = false) (hclosing : s.isClosing = false) (hclosing' : s'.isClosing = false)
    (hcarries : s'.carries = none)
    (hf : ∀ row, (f row).execStatus.outstanding = !s'.wrote)
    (hbefore : ¬w'.db.NothingOutstanding testId → Alone testId p l)
    (hafter : w'.db.NothingOutstanding testId →
      s'.owes = true ∧ s.owes = false
        ∧ (tasks testId Phase.owes (ts₁ ++ (t, s) :: ts₂) = 0 ↔ Alone testId p l))
    : Inv queue testId (tr ++ [(p, l)]) ⟨w', ts₁ ++ (t, s') :: ts₂⟩ := by
  have hmem : t ∈ queue := h.threads_mem (t, s) (by simp)
  have hof : w'.db.subtasksOf testId
      = Table.updateWhere (w.db.subtasksOf testId) (fun row => row.id = t.job.subtaskId) f := by
    unfold Db.subtasksOf
    rw [hsub]
    apply Table.filter_updateWhere
    simp [htestId]
  obtain ⟨hzero, hall, hnone⟩ := h.before (outstanding_of_not_wrote h hmine hs)
  constructor
  case toQueued => exact h.toQueued.write hid htestId hsub
  case job_of_row =>
    intro row hrow
    dsimp only at hrow
    rw [hof, Table.mem_updateWhere] at hrow
    rcases hrow with ⟨old, hold, -, rfl⟩ | ⟨hrow, -⟩
    . rw [hid]
      exact h.job_of_row old hold
    . exact h.job_of_row row hrow
  case threads_mem => exact Pool.forall_replace h.threads_mem id
  case once => exact once_replace h.once
  case rows =>
    intro row hrow
    dsimp only at hrow ⊢
    rw [hof, Table.mem_updateWhere] at hrow
    rcases hrow with ⟨old, -, hold, rfl⟩ | ⟨hrow, hne⟩
    . have hold : old.id = t.job.subtaskId := by simpa using hold
      rw [hid, hold, written_self_iff h, hf]
      cases s'.wrote <;> simp
    . have hne : row.id ≠ t.job.subtaskId := by simpa using hne
      rw [written_of_ne (s := s) hne]
      exact h.rows row hrow
  case before =>
    intro hnot'
    rw [closeOuts_append, forall_append_iff (hbefore hnot'), hzero, hcloses]
    exact ⟨rfl, hall, Pool.forall_replace hnone (fun _ _ => hcarries)⟩
  case after =>
    intro hall'
    obtain ⟨howes', howes, halone⟩ := hafter hall'
    have hcount : tasks testId Phase.owes (ts₁ ++ (t, s') :: ts₂) + s.owes.toNat
      = tasks testId Phase.owes (ts₁ ++ (t, s) :: ts₂) + s'.owes.toNat := tasks_replace hmine
    rw [howes, howes'] at hcount
    simp only [Bool.toNat_false, Bool.toNat_true, add_zero] at hcount
    have hlast : (∀ step ∈ tr ++ [(p, l)], Alone testId step.1 step.2) ↔ Alone testId p l := by
      rw [List.forall_mem_append, List.forall_mem_singleton]
      exact and_iff_right hall
    rw [closeOuts_append, hzero, hcloses, hlast, ← halone]
    simp only [Bool.toNat_false, add_zero, zero_add]
    omega
  case events =>
    have hold := h.events
    have hcount : tasks testId Phase.isClosing (ts₁ ++ (t, s') :: ts₂) + s.isClosing.toNat
      = tasks testId Phase.isClosing (ts₁ ++ (t, s) :: ts₂) + s'.isClosing.toNat := tasks_replace hmine
    rw [hclosing, hclosing'] at hcount
    simp only [Bool.toNat_false, add_zero] at hcount
    rw [closeOuts_append, hcloses]
    unfold endEvents at hold ⊢
    dsimp only at hold ⊢
    rw [hpub, hcount]
    exact hold

end Moves

section Steps

variable {w w' : World} {ts₁ ts₂ : List (ProbeEntry serde × Phase)} {t : ProbeEntry serde}
variable {s s' : Phase} {tr : Steps serde} {p : system.State serde} {op : Op} {r : op.Reply} {env : Env}

theorem alone_of_ne (hmine : t.job.testId ≠ testId) : Alone testId p (.perform t op) := by
  unfold Alone
  split
  . next heq =>
    cases heq
    exact fun hmine' => absurd hmine' hmine
  . next heq =>
    cases heq
    exact fun hmine' => absurd hmine' hmine
  . trivial

theorem subtasksOf_write_of_ne {db : Db} {f : SubtaskRow → SubtaskRow}
    (h : Inv queue testId tr ⟨w, ts₁ ++ (t, s) :: ts₂⟩) (hmine : t.job.testId ≠ testId)
    (htestId : ∀ row, (f row).testId = row.testId)
    (hsub : db.subtasks = Table.updateWhere w.db.subtasks (fun row => row.id = t.job.subtaskId) f)
    : db.subtasksOf testId = w.db.subtasksOf testId := by
  have hmem : t ∈ queue := h.threads_mem (t, s) (by simp)
  rw [← h.updateWhere_of_ne hmem hmine f]
  unfold Db.subtasksOf
  rw [hsub]
  apply Table.filter_updateWhere
  simp [htestId]

theorem inv_perform_other (h : Inv queue testId tr ⟨w, ts₁ ++ (t, s) :: ts₂⟩) (henv : env.Faultless)
    (hexec : env.exec op w = (r, w')) (hs : Next adapters t.delivery t.job s op r s')
    (hmine : t.job.testId ≠ testId)
    : Inv queue testId (tr ++ [(p, .perform t op)]) ⟨w', ts₁ ++ (t, s') :: ts₂⟩ := by
  have hsame : Queued queue w.db := h.toQueued
  have halone : Alone testId p (.perform t op) := alone_of_ne hmine
  cases hs with
  | openTest | close =>
    obtain ⟨db', hok, rfl⟩ := Env.statement_ok hexec
    cases hok
    exact inv_other h hmine ⟨hsame.ids_nodup, hsame.row_of_job, hsame.job_unique⟩ rfl halone
      (by simp [closes, hmine]) rfl
  | startSubtask =>
    obtain ⟨db', hok, rfl⟩ := Env.statement_ok hexec
    cases hok
    refine inv_other h hmine ?_ ?_ halone rfl rfl
    . exact hsame.write (f := .start env.now) (fun _ => rfl) (fun _ => rfl) rfl
    . exact subtasksOf_write_of_ne h hmine (f := .start env.now) (fun _ => rfl) rfl
  | call hop =>
    obtain ⟨hdb, hpub⟩ := env.exec_call hop w
    rw [hexec] at hdb hpub
    have hcloses : closes testId (.perform t op) = false := by
      cases op with
      | closeTest => cases hop
      | _ => rfl
    exact inv_other h hmine (hdb ▸ hsame) (by rw [hdb]) halone hcloses (endEvents_of_published hpub)
  | @save result response hconf hresult =>
    obtain ⟨db', hok, rfl⟩ := Env.statement_ok hexec
    have hsub := (Db.of_saveReport hok).2.1
    refine inv_other h hmine ?_ ?_ halone rfl rfl
    . exact hsame.write (f := .finish env.now result response) (fun _ => rfl) (fun _ => rfl) hsub
    . exact subtasksOf_write_of_ne h hmine (f := .finish env.now result response) (fun _ => rfl) hsub
  | @failSubtask reason hconf =>
    obtain ⟨db', hok, rfl⟩ := Env.statement_ok hexec
    cases hok
    refine inv_other h hmine ?_ ?_ halone rfl rfl
    . exact hsame.write (f := .fail env.now reason) (fun _ => rfl) (fun _ => rfl) rfl
    . exact subtasksOf_write_of_ne h hmine (f := .fail env.now reason) (fun _ => rfl) rfl
  | openTestFails e | startSubtaskFails e | saveFails e | failSubtaskFails e | closeFails e =>
    have hw := Env.statement_error hexec
    subst hw
    exact inv_other h hmine hsame rfl halone (by simp [closes, hmine]) rfl
  | announce =>
    simp only [Env.exec, henv _] at hexec
    cases hexec
    refine inv_other h hmine hsame rfl halone rfl ?_
    rw [endEvents_publish rfl]
    rfl
  | finish =>
    simp only [Env.exec, henv _] at hexec
    cases hexec
    refine inv_other h hmine hsame rfl halone rfl ?_
    rw [endEvents_publish rfl]
    simp [announcesEnd, probe.testFinished, hmine]
  | countSome hc | countNone hc | ack =>
    simp only [Env.exec, henv _] at hexec
    cases hexec
    exact inv_other h hmine hsame rfl halone rfl rfl
  | announceFails e | countFails e =>
    simp only [Env.exec, henv _] at hexec
    cases hexec

theorem tasks_owes_eq_zero_iff {threads : List (ProbeEntry serde × Phase)}
    (hsim : system.Simulates adapters p ⟨w, threads⟩)
    (hnone : ∀ u ∈ threads, u.1.job.testId = testId → u.2.carries = none)
    : tasks testId Phase.owes threads = 0
        ↔
      ∀ u ∈ p.threads, u.1.job.testId = testId → ¬Uncounted u.2 := by
  rw [tasks_eq_zero_iff]
  constructor
  . intro h u hu hmine huncounted
    obtain ⟨phase, hphase, hconf⟩ := hsim.exists_phase hu
    rw [uncounted_iff hconf] at huncounted
    have howes := h (u.1, phase) hphase hmine
    cases phase with
    | saved | announced => cases howes
    | _ => cases huncounted
  . intro h u hu hmine
    obtain ⟨q, hq, hconf⟩ := hsim.exists_prog hu
    have huncounted := h (u.1, q) hq hmine
    rw [uncounted_iff hconf] at huncounted
    have hcarries := hnone u hu hmine
    cases hphase : u.2 with
    | saved | announced =>
      rw [hphase] at huncounted
      exact absurd rfl huncounted
    | counted c =>
      rw [hphase] at hcarries
      cases hcarries
    | _ => rfl

theorem nothingOutstanding_iff {db db' : Db} {f : SubtaskRow → SubtaskRow} (hf : probe.Settles f)
    (hmine : t.job.testId = testId)
    (hsub : db'.subtasks = Table.updateWhere db.subtasks (fun row => row.id = t.job.subtaskId) f)
    : db'.NothingOutstanding testId ↔ db.OthersTerminal t.job := by
  rw [← Db.othersTerminal_updateWhere f hf.id hf.testId hsub]
  unfold Db.NothingOutstanding Db.OthersTerminal
  rw [hmine]
  constructor
  . exact fun h row hrow _ => h row hrow
  . intro h row hrow
    by_cases hid : row.id = t.job.subtaskId
    . have hmem := List.mem_of_mem_filter hrow
      rw [hsub, Table.mem_updateWhere] at hmem
      rcases hmem with ⟨old, -, -, rfl⟩ | ⟨-, hne⟩
      . exact hf.settled old
      . simp [hid] at hne
    . exact h row hrow hid

theorem inv_settle (h : Inv queue testId tr ⟨w, ts₁ ++ (t, .running) :: ts₂⟩)
    (hsim : system.Simulates adapters p ⟨w, ts₁ ++ (t, .running) :: ts₂⟩) (hmine : t.job.testId = testId)
    {f : SubtaskRow → SubtaskRow} (hf : probe.Settles f)
    (hsub : w'.db.subtasks = Table.updateWhere w.db.subtasks (fun row => row.id = t.job.subtaskId) f)
    (hpub : w'.published = w.published) (hcloses : closes testId (.perform t op) = false)
    (halone : Alone testId p (.perform t op)
      ↔ (p.world.db.OthersTerminal t.job → ∀ u ∈ p.threads, u.1.job.testId = testId → ¬Uncounted u.2))
    : Inv queue testId (tr ++ [(p, .perform t op)]) ⟨w', ts₁ ++ (t, .saved) :: ts₂⟩ := by
  have hnothing : w'.db.NothingOutstanding testId ↔ w.db.OthersTerminal t.job :=
    nothingOutstanding_iff hf hmine hsub
  have hworld : p.world = w := hsim.world
  have hnot := outstanding_of_not_wrote h hmine rfl
  refine inv_write h hmine hf.id hf.testId hsub hpub hcloses rfl rfl rfl rfl hf.settled ?_ ?_
  . intro hnot'
    rw [halone, hworld]
    exact fun hothers => absurd (hnothing.mpr hothers) hnot'
  . intro hall'
    refine ⟨rfl, rfl, ?_⟩
    rw [halone, hworld, tasks_owes_eq_zero_iff hsim (h.before hnot).2.2]
    exact ⟨fun hnone _ => hnone, fun hnone => hnone (hnothing.mp hall')⟩

theorem inv_start {now : Time} (h : Inv queue testId tr ⟨w, ts₁ ++ (t, .opened) :: ts₂⟩)
    (hmine : t.job.testId = testId) (hdb : w'.db = w.db.markSubtaskRunning now t.job.subtaskId)
    (hpub : w'.published = w.published)
    : Inv queue testId (tr ++ [(p, .perform t (.markSubtaskRunning t.job.subtaskId))])
        ⟨w', ts₁ ++ (t, .running) :: ts₂⟩ := by
  have hmem : t ∈ queue := h.threads_mem (t, .opened) (by simp)
  -- The row of the task is outstanding from here on.
  have hrunning : ¬w'.db.NothingOutstanding testId := by
    intro hall
    obtain ⟨row, hrow, hid⟩ := h.exists_row hmem
    rw [hmine] at hrow
    have hrow' : row.start now ∈ w'.db.subtasksOf testId := by
      rw [hdb]
      apply List.mem_filter.mpr
      refine ⟨?_, (List.mem_filter.mp hrow).2⟩
      exact Table.mem_updateWhere.mpr (.inl ⟨row, List.mem_of_mem_filter hrow, by simpa using hid, rfl⟩)
    cases hall _ hrow'
  have hsub : w'.db.subtasks
      = Table.updateWhere w.db.subtasks (fun row => row.id = t.job.subtaskId) (.start now) := by
    rw [hdb]
    rfl
  refine inv_write h hmine (f := .start now) (fun _ => rfl) (fun _ => rfl) hsub hpub rfl rfl rfl rfl rfl
    (fun _ => rfl) ?_ ?_
  . exact fun _ => trivial
  . exact fun hall => absurd hall hrunning

theorem inv_call (h : Inv queue testId tr ⟨w, ts₁ ++ (t, .running) :: ts₂⟩)
    (hmine : t.job.testId = testId) (hop : op.isCall = true) (hdb : w'.db = w.db)
    (hpub : w'.published = w.published)
    : Inv queue testId (tr ++ [(p, .perform t op)]) ⟨w', ts₁ ++ (t, .running) :: ts₂⟩ := by
  have halone : Alone testId p (.perform t op) := by
    cases op with
    | postProbe | cachedCapabilities | fetchCapabilities | cacheCapabilities => trivial
    | _ => cases hop
  have hcloses : closes testId (.perform t op) = false := by
    cases op with
    | closeTest => cases hop
    | _ => rfl
  apply inv_mine h hmine (by rw [hdb]) halone rfl
  case hbefore => exact fun _ => ⟨hcloses, rfl⟩
  case hafter =>
    rw [hcloses]
    exact fun _ => rfl
  case hevents =>
    rw [hcloses, endEvents_of_published hpub]
    rfl

theorem inv_announce {execStatus : ExecStatus} {resultStatus : ResultStatus}
    (h : Inv queue testId tr ⟨w, ts₁ ++ (t, .saved) :: ts₂⟩) (hmine : t.job.testId = testId)
    (hdb : w'.db = w.db) (hpub : w'.published
      = w.published ++ [(.test t.job.testId, probe.subtaskUpdated t.job execStatus resultStatus)])
    : Inv queue testId
        (tr ++ [(p, .perform t (.publish (.test t.job.testId)
          (probe.subtaskUpdated t.job execStatus resultStatus)))])
        ⟨w', ts₁ ++ (t, .announced) :: ts₂⟩ := by
  apply inv_mine h hmine
  case hsub => rw [hdb]
  case halone => trivial
  case hwrote => rfl
  case hbefore => exact fun _ => ⟨rfl, rfl⟩
  case hafter => exact fun _ => rfl
  case hevents =>
    rw [endEvents_publish hpub]
    rfl

theorem inv_remain (h : Inv queue testId tr ⟨w, ts₁ ++ (t, .announced) :: ts₂⟩)
    (hmine : t.job.testId = testId) (hc : 0 < (w.db.countSubtasks t.job.testId).outstanding)
    : Inv queue testId (tr ++ [(p, .perform t (.countSubtasks t.job.testId))])
        ⟨w, ts₁ ++ (t, .handled) :: ts₂⟩ := by
  apply inv_mine h hmine
  case hsub => rfl
  case halone => trivial
  case hwrote => rfl
  case hbefore => exact fun _ => ⟨rfl, rfl⟩
  case hafter =>
    intro hall
    rw [hmine, Db.outstanding_eq_zero_iff.mpr hall] at hc
    omega
  case hevents => rfl

theorem inv_count (h : Inv queue testId tr ⟨w, ts₁ ++ (t, .announced) :: ts₂⟩)
    (hmine : t.job.testId = testId) (hc : (w.db.countSubtasks t.job.testId).outstanding = 0)
    : Inv queue testId (tr ++ [(p, .perform t (.countSubtasks t.job.testId))])
        ⟨w, ts₁ ++ (t, .counted (w.db.countSubtasks t.job.testId)) :: ts₂⟩ := by
  apply inv_mine h hmine
  case hsub => rfl
  case halone => trivial
  case hwrote => rfl
  case hbefore =>
    intro hnot
    rw [hmine] at hc
    exact absurd (Db.outstanding_eq_zero_iff.mp hc) hnot
  case hafter => exact fun _ => rfl
  case hevents => rfl

theorem inv_close {now : Time} {c : SubtaskCounts}
    (h : Inv queue testId tr ⟨w, ts₁ ++ (t, .counted c) :: ts₂⟩) (hmine : t.job.testId = testId)
    (hdb : w'.db = w.db.closeTest now t.job.testId c.closeOutStatus) (hpub : w'.published = w.published)
    : Inv queue testId (tr ++ [(p, .perform t (.closeTest t.job.testId c.closeOutStatus))])
        ⟨w', ts₁ ++ (t, .closing c) :: ts₂⟩ := by
  have hcloses : closes testId (.perform t (.closeTest t.job.testId c.closeOutStatus)) = true := by
    simp [closes, hmine]
  apply inv_mine h hmine
  case hsub =>
    rw [hdb]
    rfl
  case halone => trivial
  case hwrote => rfl
  case hbefore =>
    intro hnot
    have hcarries := (h.before hnot).2.2 (t, .counted c) (by simp) hmine
    cases hcarries
  case hafter =>
    rw [hcloses]
    exact fun _ => rfl
  case hevents =>
    rw [hcloses, endEvents_of_published hpub]
    rfl

theorem inv_finish {c : SubtaskCounts} (h : Inv queue testId tr ⟨w, ts₁ ++ (t, .closing c) :: ts₂⟩)
    (hmine : t.job.testId = testId) (hdb : w'.db = w.db) (hpub : w'.published
      = w.published ++ [(.test t.job.testId, probe.testFinished t.job ⟨c.passed, c.failed⟩)])
    : Inv queue testId
        (tr ++ [(p, .perform t (.publish (.test t.job.testId)
          (probe.testFinished t.job ⟨c.passed, c.failed⟩)))])
        ⟨w', ts₁ ++ (t, .handled) :: ts₂⟩ := by
  apply inv_mine h hmine
  case hsub => rw [hdb]
  case halone => trivial
  case hwrote => rfl
  case hbefore => exact fun _ => ⟨rfl, rfl⟩
  case hafter => exact fun _ => rfl
  case hevents =>
    rw [endEvents_publish hpub]
    simp [announcesEnd, probe.testFinished, hmine, Phase.isClosing, closes]

theorem inv_perform_mine (h : Inv queue testId tr ⟨w, ts₁ ++ (t, s) :: ts₂⟩)
    (hsim : system.Simulates adapters p ⟨w, ts₁ ++ (t, s) :: ts₂⟩) (henv : env.Faultless)
    (hexec : env.exec op w = (r, w')) (hs : Next adapters t.delivery t.job s op r s')
    (hmine : t.job.testId = testId)
    : Inv queue testId (tr ++ [(p, .perform t op)]) ⟨w', ts₁ ++ (t, s') :: ts₂⟩ := by
  cases hs with
  | openTest =>
    obtain ⟨db', hok, rfl⟩ := Env.statement_ok hexec
    cases hok
    exact inv_mine h hmine rfl trivial rfl (fun _ => ⟨rfl, rfl⟩) (fun _ => rfl) rfl
  | startSubtask =>
    obtain ⟨db', hok, rfl⟩ := Env.statement_ok hexec
    cases hok
    exact inv_start h hmine rfl rfl
  | call hop =>
    obtain ⟨hdb, hpub⟩ := env.exec_call hop w
    rw [hexec] at hdb hpub
    exact inv_call h hmine hop hdb hpub
  | @save result response hconf hresult =>
    obtain ⟨db', hok, rfl⟩ := Env.statement_ok hexec
    refine inv_settle h hsim hmine (probe.settles_finish env.now result response)
      (Db.of_saveReport hok).2.1 rfl rfl ?_
    exact forall_prop_of_true hmine
  | @failSubtask reason hconf =>
    obtain ⟨db', hok, rfl⟩ := Env.statement_ok hexec
    cases hok
    refine inv_settle h hsim hmine (probe.settles_fail env.now reason) rfl rfl rfl ?_
    exact forall_prop_of_true hmine
  | announce =>
    simp only [Env.exec, henv _] at hexec
    cases hexec
    exact inv_announce h hmine rfl rfl
  | countSome hc =>
    simp only [Env.exec, henv _] at hexec
    cases hexec
    exact inv_remain h hmine hc
  | countNone hc =>
    simp only [Env.exec, henv _] at hexec
    cases hexec
    exact inv_count h hmine hc
  | close =>
    obtain ⟨db', hok, rfl⟩ := Env.statement_ok hexec
    cases hok
    exact inv_close h hmine rfl rfl
  | finish =>
    simp only [Env.exec, henv _] at hexec
    cases hexec
    exact inv_finish h hmine rfl rfl
  | ack =>
    simp only [Env.exec, henv _] at hexec
    cases hexec
    exact inv_mine h hmine rfl trivial rfl (fun _ => ⟨rfl, rfl⟩) (fun _ => rfl) rfl
  -- The replies that report a failure contradict `henv`.
  | openTestFails e | startSubtaskFails e | failSubtaskFails e | announceFails e | countFails e
  | closeFails e =>
    simp only [Env.exec, Env.statement, henv _] at hexec
    cases hexec
  | @saveFails result response e =>
    have hmem : t ∈ queue := h.threads_mem (t, .running) (by simp)
    obtain ⟨db', hsave, -, -⟩ := h.saveReport_eq hmem env.now result response
    simp only [Env.exec, Env.statement, henv.saveFailure, hsave] at hexec
    cases hexec

end Steps

theorem inv_spawn {w : World} {ts : List (ProbeEntry serde × Phase)} {t : ProbeEntry serde}
    {tr : Steps serde} {p : system.State serde} (h : Inv queue testId tr ⟨w, ts⟩) (ht : t ∈ queue)
    (honce : ∀ u ∈ ts, u.1 ≠ t)
    : Inv queue testId (tr ++ [(p, .spawn t)]) ⟨w, (t, .received) :: ts⟩ := by
  have hlabel : closes testId (Pool.Label.spawn t : Pool.Label (ProbeEntry serde) Op) = false := rfl
  have halone : Alone testId p (.spawn t) := trivial
  have htasks : ∀ q : Phase → Bool, q .received = false →
      tasks testId q ((t, .received) :: ts) = tasks testId q ts := by
    intro q hq
    unfold tasks
    rw [List.countP_cons]
    simp [hq]
  constructor
  case toQueued => exact h.toQueued
  case job_of_row => exact h.job_of_row
  case threads_mem => exact List.forall_mem_cons.mpr ⟨ht, h.threads_mem⟩
  case once =>
    apply List.nodup_cons.mpr
    refine ⟨?_, h.once⟩
    intro hmem
    obtain ⟨u, hu, heq⟩ := List.mem_map.mp hmem
    exact honce u hu heq
  case rows =>
    intro row hrow
    rw [h.rows row hrow]
    constructor
    . rintro ⟨u, hu, hid, hwrote⟩
      exact ⟨u, List.mem_cons_of_mem _ hu, hid, hwrote⟩
    . rintro ⟨u, hu, hid, hwrote⟩
      rcases List.mem_cons.mp hu with rfl | hu
      . cases hwrote
      . exact ⟨u, hu, hid, hwrote⟩
  case before =>
    intro hnot
    obtain ⟨hzero, hall, hnone⟩ := h.before hnot
    rw [closeOuts_append, forall_append_iff halone, hzero, hlabel]
    exact ⟨rfl, hall, List.forall_mem_cons.mpr ⟨fun _ => rfl, hnone⟩⟩
  case after =>
    intro hall
    rw [closeOuts_append, forall_append_iff halone, hlabel, htasks _ rfl]
    exact h.after hall
  case events =>
    rw [closeOuts_append, hlabel, htasks _ rfl]
    exact h.events

theorem inv_init {w : World} (h : Created queue w.db testId)
    (hpub : ∀ channel passed failed, (channel, Event.testFinished testId passed failed) ∉ w.published)
    : Inv queue testId [] ⟨w, []⟩ := by
  have hqueued : ∀ row ∈ w.db.subtasksOf testId, row.execStatus.outstanding = true := by
    intro row hrow
    rw [h.queued row hrow]
    rfl
  constructor
  case toQueued => exact h.toQueued
  case job_of_row => exact h.job_of_row
  case threads_mem => simp
  case once => exact .nil
  case rows =>
    intro row hrow
    simp [hqueued row hrow, Written]
  case before => exact fun _ => ⟨rfl, by simp, by simp⟩
  case after =>
    intro hall
    obtain ⟨row, hrow⟩ := List.exists_mem_of_ne_nil _ h.nonempty
    have hout := hqueued row hrow
    rw [hall row hrow] at hout
    cases hout
  case events =>
    unfold endEvents
    rw [List.countP_eq_zero.mpr]
    . rfl
    . rintro ⟨channel, event⟩ hevent hend
      cases event with
      | testFinished id passed failed =>
        have hid : id = testId := by simpa [announcesEnd] using hend
        subst hid
        exact hpub channel passed failed hevent
      | _ => cases hend

def RunOnce (adapters : AdapterRegistry) (queue : List (ProbeEntry serde)) (s : system.State serde)
    (tr : Steps serde) (s' : system.State serde) : Prop :=
  Pool.Trace (fun s l s' => live.HandsOutOnce s l ∧ system.Step Env.Faultless adapters queue s l s') s tr s'

theorem inv_of_runOnce {w : World} {s : system.State serde} {tr : Steps serde}
    (hinit : Inv queue testId [] ⟨w, []⟩) (hrun : RunOnce adapters queue (system.init w) tr s)
    : ∃ a, system.Simulates adapters s a ∧ Inv queue testId tr a := by
  apply Pool.Simulates.trace_invariant (fun entry => tick.task_conforms adapters entry) _
    (system.simulates_init w) hinit hrun
  intro tr p a l a' hsim honce h hstep
  cases hstep with
  | spawn t ht =>
    apply inv_spawn h ht.1
    intro u hu
    obtain ⟨q, hq, -⟩ := hsim.exists_prog hu
    exact honce t rfl _ hq
  | perform t op s s' r hexec hs =>
    obtain ⟨env, henv, hexec⟩ := hexec
    by_cases hmine : t.job.testId = testId
    . exact inv_perform_mine h hsim henv hexec hs hmine
    . exact inv_perform_other h henv hexec hs hmine

/--
A test whose jobs were each handled once, to the end and with no failing step, was closed exactly once
if and only if the handler that wrote the last row was the only one of the test between its write and
its count.
-/
theorem closedOnce_iff {w : World} {s : system.State serde} {tr : Steps serde}
    (hcreated : Created queue w.db testId)
    (hpub : ∀ channel passed failed, (channel, Event.testFinished testId passed failed) ∉ w.published)
    (hrun : RunOnce adapters queue (system.init w) tr s) (hdone : ∀ t ∈ s.threads, ∃ u, t.2 = .pure u)
    (hhandled : ∀ entry ∈ queue, entry.job.testId = testId → ∃ t ∈ s.threads, t.1 = entry)
    : ClosedOnce testId tr s ↔ ∀ step ∈ tr, Alone testId step.1 step.2 := by
  obtain ⟨a, hsim, h⟩ := inv_of_runOnce (inv_init hcreated hpub) hrun
  have hacked : ∀ t ∈ a.threads, t.2 = .acked := by
    intro t ht
    obtain ⟨q, hq, hconf⟩ := hsim.exists_prog ht
    obtain ⟨u, rfl⟩ := hdone _ hq
    exact hconf
  have hnothing : a.world.db.NothingOutstanding testId := by
    intro row hrow
    obtain ⟨entry, hentry, hid⟩ := h.job_of_row row hrow
    have htest : row.testId = testId := by simpa using List.of_mem_filter hrow
    rw [h.testId_eq hentry (List.mem_of_mem_filter hrow) hid] at htest
    obtain ⟨t, ht, rfl⟩ := hhandled entry hentry htest
    obtain ⟨phase, hphase, -⟩ := hsim.exists_phase ht
    apply (h.rows row hrow).mpr
    refine ⟨(t.1, phase), hphase, hid, ?_⟩
    rw [hacked _ hphase]
    rfl
  have howes : tasks testId Phase.owes a.threads = 0 := by
    rw [tasks_eq_zero_iff]
    intro u hu _
    rw [hacked u hu]
    rfl
  have hclosing : tasks testId Phase.isClosing a.threads = 0 := by
    rw [tasks_eq_zero_iff]
    intro u hu _
    rw [hacked u hu]
    rfl
  have hledger := h.after hnothing
  have hevents := h.events
  rw [howes, add_zero] at hledger
  rw [hclosing, add_zero] at hevents
  unfold ClosedOnce
  rw [hsim.world, hevents, and_self]
  exact hledger.2

section Runs

variable {w : World} {entry : ProbeEntry serde} {ts : List (ProbeEntry serde × Prog Op Op.Reply Unit)}

theorem runOnce_spawn (hentry : system.Deliverable queue w entry) (honce : ∀ t ∈ ts, t.1 ≠ entry)
    : RunOnce adapters queue ⟨w, ts⟩ [(⟨w, ts⟩, .spawn entry)]
        ⟨w, (entry, tick.task serde adapters entry.delivery) :: ts⟩ := by
  apply Pool.Trace.head _ (.refl _)
  refine ⟨?_, .spawn entry hentry⟩
  rintro _ ⟨⟩
  exact honce

variable (adapters queue testId) in
theorem runOnce_stop {env : Env} (henv : env.Faultless) (entry : ProbeEntry serde) (n : Nat)
    (p : Prog Op Op.Reply Unit) (w : World) (ts₁ ts₂ : List (ProbeEntry serde × Prog Op Op.Reply Unit))
    : ∃ tr, closeOuts testId tr
          = ((p.ops env.exec n w).map (Pool.Label.perform entry)).countP (closes testId)
        ∧ RunOnce adapters queue ⟨w, ts₁ ++ (entry, p) :: ts₂⟩ tr
            ⟨(p.stop env.exec n w).2, ts₁ ++ (entry, (p.stop env.exec n w).1) :: ts₂⟩ := by
  have honce : ∀ (s : system.State serde) op, live.HandsOutOnce s (.perform entry op) := by
    rintro _ _ _ ⟨⟩
  have hexec : ∀ op w, system.Exec Env.Faultless op w (env.exec op w).1 (env.exec op w).2 :=
    fun op w => ⟨env, henv, rfl⟩
  obtain ⟨tr, hlabels, htr⟩ := Pool.trace_stop hexec entry honce n p w ts₁ ts₂
  refine ⟨tr, ?_, htr⟩
  rw [← hlabels, List.countP_map]
  rfl

theorem closeOuts_trans {tr tr' : Steps serde}
    : closeOuts testId (tr ++ tr') = closeOuts testId tr + closeOuts testId tr' :=
  List.countP_append

end Runs

section Pair

open closeOut

theorem closedOnce_lab
    : ∃ (tr : Steps pairSerde) (s : system.State pairSerde),
        RunOnce probe.labRegistry [first, second] (system.init pairWorld) tr s
          ∧ ClosedOnce 1 tr s
          ∧ ∀ step ∈ tr, Alone 1 step.1 step.2 := by
  obtain ⟨task₁, htask₁⟩ : ∃ task, task = tick.task pairSerde probe.labRegistry first.delivery := ⟨_, rfl⟩
  obtain ⟨task₂, htask₂⟩ : ∃ task, task = tick.task pairSerde probe.labRegistry second.delivery := ⟨_, rfl⟩
  have hspawn₂ : RunOnce probe.labRegistry [first, second] (system.init pairWorld) _ _ :=
    runOnce_spawn (⟨by simp, by decide⟩ : system.Deliverable _ _ second) (by simp)
  rw [← htask₂] at hspawn₂
  let stop₂ := task₂.stop probe.labEnv.exec 3 pairWorld
  obtain ⟨tr₂, hcount₂, hrun₂⟩ := runOnce_stop probe.labRegistry [first, second] 1 probe.labEnv_faultless
    second 3 task₂ pairWorld [] []
  have hacked : stop₂.2.acked = [] := by
    dsimp only [stop₂]
    rw [htask₂, second.task_eq]
    rfl
  have hspawn₁ : RunOnce probe.labRegistry [first, second] ⟨stop₂.2, [(second, stop₂.1)]⟩ _ _ :=
    runOnce_spawn (⟨by simp, by simp [hacked]⟩ : system.Deliverable _ _ first) (by simpa using second_ne_first)
  rw [← htask₁] at hspawn₁
  let stop₁ := task₁.stop probe.labEnv.exec 12 stop₂.2
  obtain ⟨tr₁, hcount₁, hrun₁⟩ := runOnce_stop probe.labRegistry [first, second] 1 probe.labEnv_faultless
    first 12 task₁ stop₂.2 [] [(second, stop₂.1)]
  obtain ⟨tr₃, hcount₃, hrun₃⟩ := runOnce_stop probe.labRegistry [first, second] 1 probe.labEnv_faultless
    second 12 stop₂.1 stop₁.2 [(first, stop₁.1)] []
  have hrun := (((hspawn₂.trans hrun₂).trans hspawn₁).trans hrun₁).trans hrun₃
  rw [first.task_eq] at htask₁
  rw [second.task_eq] at htask₂
  have himp := (closedOnce_iff pairCreated (by simp [pairWorld]) hrun
    (by
      rw [List.singleton_append, List.forall_mem_cons, List.forall_mem_singleton]
      dsimp only [stop₂, stop₁]
      rw [htask₁, htask₂]
      exact ⟨⟨(), rfl⟩, ⟨(), rfl⟩⟩) (by simp)).mp
  refine ⟨_, _, hrun, ?_⟩
  rw [and_iff_left_of_imp himp]
  constructor
  . simp only [closeOuts_trans, hcount₁, hcount₂, hcount₃]
    dsimp only [stop₂, stop₁]
    rw [htask₁, htask₂]
    decide +kernel
  . dsimp only [stop₂, stop₁]
    rw [htask₁, htask₂]
    decide +kernel

/--
The first task announces its row and waits, the second task writes the last row and closes the test, and
then the first one counts and closes it again.
-/
theorem closed_twice
    : ∃ (tr : Steps pairSerde) (s : system.State pairSerde),
        Created [first, second] pairWorld.db 1
          ∧ RunOnce probe.labRegistry [first, second] (system.init pairWorld) tr s
          ∧ (∀ t ∈ s.threads, ∃ u, t.2 = .pure u)
          ∧ (∀ entry ∈ [first, second], ∃ t ∈ s.threads, t.1 = entry)
          ∧ closeOuts 1 tr = 2
          ∧ endEvents 1 s.world = 2 := by
  obtain ⟨task₁, htask₁⟩ : ∃ task, task = tick.task pairSerde probe.labRegistry first.delivery := ⟨_, rfl⟩
  obtain ⟨task₂, htask₂⟩ : ∃ task, task = tick.task pairSerde probe.labRegistry second.delivery := ⟨_, rfl⟩
  have hspawn₂ : RunOnce probe.labRegistry [first, second] (system.init pairWorld) _ _ :=
    runOnce_spawn (⟨by simp, by decide⟩ : system.Deliverable _ _ second) (by simp)
  have hspawn₁ : RunOnce probe.labRegistry [first, second] ⟨pairWorld, [(second, task₂)]⟩ _ _ :=
    runOnce_spawn (⟨by simp, by decide⟩ : system.Deliverable _ _ first) (by simpa using second_ne_first)
  rw [← htask₂] at hspawn₂
  rw [← htask₁] at hspawn₁
  rw [first.task_eq] at htask₁
  rw [second.task_eq] at htask₂
  let stop₁ := task₁.stop probe.labEnv.exec 8 pairWorld
  let stop₂ := task₂.stop probe.labEnv.exec 12 stop₁.2
  obtain ⟨tr₁, hcount₁, hrun₁⟩ := runOnce_stop probe.labRegistry [first, second] 1 probe.labEnv_faultless
    first 8 task₁ pairWorld [] [(second, task₂)]
  obtain ⟨tr₂, hcount₂, hrun₂⟩ := runOnce_stop probe.labRegistry [first, second] 1 probe.labEnv_faultless
    second 12 task₂ stop₁.2 [(first, stop₁.1)] []
  obtain ⟨tr₃, hcount₃, hrun₃⟩ := runOnce_stop probe.labRegistry [first, second] 1 probe.labEnv_faultless
    first 4 stop₁.1 stop₂.2 [] [(second, stop₂.1)]
  refine ⟨_, _, pairCreated, (((hspawn₂.trans hspawn₁).trans hrun₁).trans hrun₂).trans hrun₃, ?_, by simp, ?_, ?_⟩
  . rw [List.nil_append, List.forall_mem_cons, List.forall_mem_singleton]
    dsimp only [stop₂, stop₁]
    rw [htask₁, htask₂]
    exact ⟨⟨(), rfl⟩, ⟨(), rfl⟩⟩
  . simp only [closeOuts_trans, hcount₁, hcount₂, hcount₃]
    dsimp only [stop₂, stop₁]
    rw [htask₁, htask₂]
    decide +kernel
  . dsimp only [stop₂, stop₁]
    rw [htask₁, htask₂]
    decide +kernel

end Pair

end closedOnce

end PqCas
