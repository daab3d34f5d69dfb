import PqCas.Worker.Outstanding

/-!
Recovery from crashed workers. Tasks disappear at any point, and `XAUTOCLAIM` hands their entries out
again once nobody works on them. Whatever was interrupted, a test whose entries are all acknowledged in
the end is closed with nothing outstanding.
-/

namespace PqCas

namespace Phase

def settled (s : Phase) : Bool :=
  match s with
  | .saved | .announced | .counted _ | .closing _ | .handled => true
  | _ => false

def asked (s : Phase) : Bool :=
  match s with
  | .counted _ | .closing _ | .handled => true
  | _ => false

theorem settled_of_asked {s : Phase} (h : s.asked = true) : s.settled = true := by
  cases s with
  | counted | closing | handled => rfl
  | _ => cases h

end Phase

namespace Env

/--
Nothing fails but acknowledgements and the announcement of a closed test.
-/
def Recovers (env : Env) : Prop :=
  ∀ step, step ≠ .ack → step ≠ .publishTestFinished → env.fails step = none

theorem Recovers.saveFailure {env : Env} (henv : env.Recovers) : env.saveFailure = none := by
  have hnone : ∀ step ∈ [Step.saveBegin, .saveSerialise, .saveInsert, .saveUpdate, .saveCommit],
      env.fails step = none := by
    intro step hstep
    apply henv
    all_goals
      rintro rfl
      revert hstep
      decide
  exact List.findSome?_eq_none_iff.mpr hnone

theorem exec_acked (env : Env) {op : Op} (hop : ∀ stream id, op ≠ .ack stream id) (w : World)
    : (env.exec op w).2.acked = w.acked := by
  cases op with
  | ack stream id => exact absurd rfl (hop stream id)
  | publish | countSubtasks =>
    dsimp only [exec]
    split <;> rfl
  | utcNow | cachedCapabilities | fetchCapabilities | cacheCapabilities | postProbe => rfl
  | _ =>
    dsimp only [exec, statement]
    split <;> rfl

end Env

def ProbeEntry.Acked {serde : Serde} (entry : ProbeEntry serde) (w : World) : Prop :=
  (entry.delivery.stream, entry.delivery.id) ∈ w.acked

namespace reclaim

variable {serde : Serde} (good : Env → Prop) (adapters : AdapterRegistry) (queue : List (ProbeEntry serde))

def Idle (s : system.State serde) (entry : ProbeEntry serde) : Prop :=
  ∀ t ∈ s.threads, t.1 = entry → ∃ u, t.2 = .pure u

/--
A step of the tasks, in which an entry is only handed out while it is idle, or a crash.
-/
inductive Step : system.State serde → system.State serde → Prop where
  | run {s s'} (l : Pool.Label (ProbeEntry serde) Op) (hidle : ∀ entry, l = .spawn entry → Idle s entry)
      (h : system.Step good adapters queue s l s') : Step s s'
  | crash {s s'} (h : Pool.Crash s s') : Step s s'

def Run : system.State serde → system.State serde → Prop :=
  Relation.ReflTransGen (Step good adapters queue)

def Distinct (queue : List (ProbeEntry serde)) : Prop :=
  ∀ entry ∈ queue, ∀ entry' ∈ queue, entry.delivery.stream = entry'.delivery.stream →
    entry.delivery.id = entry'.delivery.id → entry = entry'

def Past (p : Phase → Bool) (a : system.PhaseState serde) (entry : ProbeEntry serde) : Prop :=
  entry.Acked a.world ∨ ∃ t ∈ a.threads, t.1 = entry ∧ p t.2 = true

/--
At most one task works on an entry. Where it got to, or the acknowledgement it left, says what is on
the rows; and when all entries of the test have asked for the end, one of their tasks was told.
-/
structure Inv (testId : Uuid) (a : system.PhaseState serde) : Prop extends Queued queue a.world.db where
  threads_mem : ∀ t ∈ a.threads, t.1 ∈ queue
  job_of_row : ∀ row ∈ a.world.db.subtasksOf testId, ∃ entry ∈ queue, entry.job.subtaskId = row.id
  test : (a.world.db.test? testId).isSome = true
  alone : a.threads.Pairwise (fun t u => t.1 = u.1 → t.2 = .acked ∨ u.2 = .acked)
  gone : ∀ t ∈ a.threads, t.1.Acked a.world → t.2 = .acked
  settled : ∀ entry ∈ queue, Past Phase.settled a entry →
    ∀ row ∈ a.world.db.subtasks, row.id = entry.job.subtaskId → row.execStatus.outstanding = false
  owed : (∀ entry ∈ queue, entry.job.testId = testId → Past Phase.asked a entry) →
    a.world.db.TestClosed testId
      ∨ ∃ t ∈ a.threads, t.1.job.testId = testId ∧ ∃ c, t.2 = .counted c

variable {good adapters queue} {testId : Uuid}

section Steps

variable {w w' : World} {ts₁ ts₂ : List (ProbeEntry serde × Phase)} {t : ProbeEntry serde} {s s' : Phase}

theorem Inv.not_acked (h : Inv queue testId ⟨w, ts₁ ++ (t, s) :: ts₂⟩) (hlive : s ≠ .acked) : ¬ t.Acked w :=
  fun hacked => hlive (h.gone (t, s) (by simp) hacked)

theorem Inv.others (h : Inv queue testId ⟨w, ts₁ ++ (t, s) :: ts₂⟩) (hlive : s ≠ .acked)
    {u : ProbeEntry serde × Phase} (hu : u ∈ ts₁ ∨ u ∈ ts₂) (hsame : u.1 = t) : u.2 = .acked := by
  have halone := h.alone
  rw [List.pairwise_append, List.pairwise_cons] at halone
  rcases hu with hu | hu
  . exact (halone.2.2 u hu (t, s) List.mem_cons_self hsame).resolve_right hlive
  . exact (halone.2.1.1 u hu hsame.symm).resolve_left hlive

theorem Inv.past_self (h : Inv queue testId ⟨w, ts₁ ++ (t, s) :: ts₂⟩) (hlive : s ≠ .acked)
    {p : Phase → Bool} (hp : p .acked = false)
    : Past p ⟨w', ts₁ ++ (t, s') :: ts₂⟩ t ↔ t.Acked w' ∨ p s' = true := by
  unfold Past
  apply or_congr_right
  constructor
  . rintro ⟨u, hu, hsame, hpu⟩
    dsimp only at hu
    rw [List.mem_append, List.mem_cons] at hu
    rcases hu with hu | rfl | hu
    . rw [h.others hlive (.inl hu) hsame, hp] at hpu
      cases hpu
    . exact hpu
    . rw [h.others hlive (.inr hu) hsame, hp] at hpu
      cases hpu
  . exact fun hps => ⟨(t, s'), by simp, rfl, hps⟩

theorem past_of_ne {p : Phase → Bool} {entry : ProbeEntry serde} (hne : entry ≠ t)
    (hacked : entry.Acked w' → entry.Acked w) (h : Past p ⟨w', ts₁ ++ (t, s') :: ts₂⟩ entry)
    : Past p ⟨w, ts₁ ++ (t, s) :: ts₂⟩ entry := by
  rcases h with h | ⟨u, hu, rfl, hpu⟩
  . exact .inl (hacked h)
  . refine .inr ⟨u, ?_, rfl, hpu⟩
    dsimp only at hu ⊢
    rw [List.mem_append, List.mem_cons] at hu ⊢
    rcases hu with hu | rfl | hu
    . exact .inl hu
    . exact absurd rfl hne
    . exact .inr (.inr hu)

structure Moves (queue : List (ProbeEntry serde)) (testId : Uuid) (t : ProbeEntry serde) (s' : Phase)
    (w w' : World) : Prop where
  queued : Queued queue w'.db
  keys : w'.db.subtasks.map (fun row => (row.id, row.testId)) = w.db.subtasks.map (fun row => (row.id, row.testId))
  test : (w.db.test? testId).isSome = true → (w'.db.test? testId).isSome = true
  acked : ∀ entry ∈ queue, entry ≠ t → entry.Acked w' → entry.Acked w
  done : t.Acked w' → s' = .acked
  others : ∀ row ∈ w'.db.subtasks, row.id ≠ t.job.subtaskId → row ∈ w.db.subtasks
  own : t.Acked w' ∨ s'.settled = true →
    ∀ row ∈ w'.db.subtasks, row.id = t.job.subtaskId → row.execStatus.outstanding = false

theorem inv_move (h : Inv queue testId ⟨w, ts₁ ++ (t, s) :: ts₂⟩) (hlive : s ≠ .acked)
    (hm : Moves queue testId t s' w w')
    (howed : (∀ entry ∈ queue, entry.job.testId = testId →
        Past Phase.asked ⟨w', ts₁ ++ (t, s') :: ts₂⟩ entry) →
      w'.db.TestClosed testId
        ∨ ∃ u ∈ ts₁ ++ (t, s') :: ts₂, u.1.job.testId = testId ∧ ∃ c, u.2 = .counted c)
    : Inv queue testId ⟨w', ts₁ ++ (t, s') :: ts₂⟩ := by
  have hmem : t ∈ queue := h.threads_mem (t, s) (by simp)
  constructor
  case toQueued => exact hm.queued
  case threads_mem => exact Pool.forall_replace h.threads_mem id
  case job_of_row =>
    intro row hrow
    have hkey : (row.id, row.testId) ∈ w.db.subtasks.map (fun row => (row.id, row.testId)) := by
      rw [← hm.keys]
      exact List.mem_map_of_mem (List.mem_of_mem_filter hrow)
    obtain ⟨old, hold, heq⟩ := List.mem_map.mp hkey
    obtain ⟨hid, htestId⟩ := Prod.ext_iff.mp heq
    dsimp only at hid htestId
    have hof : old ∈ w.db.subtasksOf testId := by
      apply List.mem_filter.mpr
      refine ⟨hold, ?_⟩
      rw [decide_eq_true_eq, htestId]
      simpa using List.of_mem_filter hrow
    obtain ⟨entry, hentry, hjob⟩ := h.job_of_row old hof
    exact ⟨entry, hentry, hjob.trans hid⟩
  case test => exact hm.test h.test
  case alone =>
    have halone := h.alone
    rw [List.pairwise_append, List.pairwise_cons] at halone ⊢
    refine ⟨halone.1, ⟨?_, halone.2.1.2⟩, ?_⟩
    . exact fun u hu hsame => .inr (h.others hlive (.inr hu) hsame.symm)
    . intro u hu v hv hsame
      rw [List.mem_cons] at hv
      rcases hv with rfl | hv
      . exact .inl (h.others hlive (.inl hu) hsame)
      . exact halone.2.2 u hu v (List.mem_cons_of_mem _ hv) hsame
  case gone =>
    intro u hu hacked
    dsimp only at hu hacked
    rw [List.mem_append, List.mem_cons] at hu
    rcases hu with hu | rfl | hu
    . by_cases hsame : u.1 = t
      . exact h.others hlive (.inl hu) hsame
      . exact h.gone u (by simp [hu]) (hm.acked u.1 (h.threads_mem u (by simp [hu])) hsame hacked)
    . exact hm.done hacked
    . by_cases hsame : u.1 = t
      . exact h.others hlive (.inr hu) hsame
      . exact h.gone u (by simp [hu]) (hm.acked u.1 (h.threads_mem u (by simp [hu])) hsame hacked)
  case settled =>
    intro entry hentry hpast row hrow hid
    by_cases hsame : entry = t
    . subst hsame
      exact hm.own ((h.past_self hlive rfl).mp hpast) row hrow hid
    . have hne : row.id ≠ t.job.subtaskId :=
        fun heq => hsame (h.job_unique entry hentry t hmem (hid.symm.trans heq))
      have hpast' : Past Phase.settled ⟨w, ts₁ ++ (t, s) :: ts₂⟩ entry :=
        past_of_ne hsame (hm.acked entry hentry hsame) hpast
      exact h.settled entry hentry hpast' row (hm.others row hrow hne) hid
  case owed => exact howed

theorem inv_quiet (h : Inv queue testId ⟨w, ts₁ ++ (t, s) :: ts₂⟩) (hlive : s ≠ .acked)
    (hm : Moves queue testId t s' w w') (hclosed : w.db.TestClosed testId → w'.db.TestClosed testId)
    (hs : t.job.testId = testId → (∀ c, s ≠ .counted c) ∧ (t.Acked w' ∨ s'.asked = true → s.asked = true))
    : Inv queue testId ⟨w', ts₁ ++ (t, s') :: ts₂⟩ := by
  apply inv_move h hlive hm
  intro hall
  have hbefore : ∀ entry ∈ queue, entry.job.testId = testId →
      Past Phase.asked ⟨w, ts₁ ++ (t, s) :: ts₂⟩ entry := by
    intro entry hentry hmine
    by_cases hsame : entry = t
    . subst hsame
      have hasked := (hs hmine).2 ((h.past_self hlive rfl).mp (hall entry hentry hmine))
      exact (h.past_self hlive rfl).mpr (.inr hasked)
    . exact past_of_ne hsame (hm.acked entry hentry hsame) (hall entry hentry hmine)
  rcases h.owed hbefore with hc | hc
  . exact .inl (hclosed hc)
  . right
    apply Pool.exists_replace hc
    rintro ⟨hmine, c, heq⟩
    exact absurd heq ((hs hmine).1 c)

theorem moves_idle (h : Inv queue testId ⟨w, ts₁ ++ (t, s) :: ts₂⟩) (hlive : s ≠ .acked)
    (hsub : w'.db.subtasks = w.db.subtasks)
    (htest : (w.db.test? testId).isSome = true → (w'.db.test? testId).isSome = true)
    (hacked : w'.acked = w.acked) (hsettled : s'.settled = true → s.settled = true)
    : Moves queue testId t s' w w' := by
  have hmem : t ∈ queue := h.threads_mem (t, s) (by simp)
  have hnot : ¬ t.Acked w' := by
    unfold ProbeEntry.Acked
    rw [hacked]
    exact h.not_acked hlive
  constructor
  case queued =>
    constructor
    . rw [hsub]
      exact h.ids_nodup
    . rw [hsub]
      exact h.row_of_job
    . exact h.job_unique
  case keys => rw [hsub]
  case test => exact htest
  case acked =>
    intro entry _ _
    unfold ProbeEntry.Acked
    rw [hacked]
    exact fun hentry => hentry
  case done => exact fun hself => absurd hself hnot
  case others =>
    rw [hsub]
    exact fun row hrow _ => hrow
  case own =>
    rintro (hself | hs')
    . exact absurd hself hnot
    . rw [hsub]
      exact h.settled t hmem ((h.past_self hlive rfl).mpr (.inr (hsettled hs')))

theorem moves_write (h : Inv queue testId ⟨w, ts₁ ++ (t, s) :: ts₂⟩) (hlive : s ≠ .acked)
    {f : SubtaskRow → SubtaskRow} (hid : ∀ row, (f row).id = row.id)
    (htestId : ∀ row, (f row).testId = row.testId)
    (hsub : w'.db.subtasks = Table.updateWhere w.db.subtasks (fun row => row.id = t.job.subtaskId) f)
    (htests : w'.db.tests = w.db.tests) (hacked : w'.acked = w.acked)
    (hsettled : s'.settled = true → ∀ row, (f row).execStatus.outstanding = false)
    : Moves queue testId t s' w w' := by
  have hnot : ¬ t.Acked w' := by
    unfold ProbeEntry.Acked
    rw [hacked]
    exact h.not_acked hlive
  constructor
  case queued => exact h.toQueued.write hid htestId hsub
  case keys =>
    rw [hsub]
    apply Table.map_updateWhere
    intro row
    rw [hid, htestId]
  case test =>
    unfold Db.test?
    rw [htests]
    exact fun htest => htest
  case acked =>
    intro entry _ _
    unfold ProbeEntry.Acked
    rw [hacked]
    exact fun hentry => hentry
  case done => exact fun hself => absurd hself hnot
  case others =>
    intro row hrow hne
    rw [hsub, Table.mem_updateWhere] at hrow
    rcases hrow with ⟨old, -, hold, rfl⟩ | ⟨hrow, -⟩
    . exact absurd ((hid old).trans (by simpa using hold)) hne
    . exact hrow
  case own =>
    intro hs' row hrow hrowid
    rw [hsub, Table.mem_updateWhere] at hrow
    rcases hrow with ⟨old, -, -, rfl⟩ | ⟨-, hne⟩
    . exact hsettled (hs'.resolve_left hnot) old
    . rw [decide_eq_false_iff_not] at hne
      exact absurd hrowid hne

theorem nothingOutstanding_of_past (h : Inv queue testId ⟨w, ts₁ ++ (t, s) :: ts₂⟩) (hlive : s ≠ .acked)
    (hsettled : s.settled = true)
    (hall : ∀ entry ∈ queue, entry.job.testId = testId →
      Past Phase.asked ⟨w, ts₁ ++ (t, s') :: ts₂⟩ entry)
    : w.db.NothingOutstanding testId := by
  intro row hrow
  have hmem := List.mem_of_mem_filter hrow
  obtain ⟨entry, hentry, hid⟩ := h.job_of_row row hrow
  have hmine : entry.job.testId = testId := by
    rw [← h.testId_eq hentry hmem hid]
    simpa using List.of_mem_filter hrow
  apply h.settled entry hentry _ row hmem hid.symm
  by_cases hsame : entry = t
  . subst hsame
    exact (h.past_self hlive rfl).mpr (.inr hsettled)
  . rcases past_of_ne (s := s) hsame (fun hentry => hentry) (hall entry hentry hmine) with
      hacked | ⟨u, hu, huentry, hasked⟩
    . exact .inl hacked
    . exact .inr ⟨u, hu, huentry, Phase.settled_of_asked hasked⟩

theorem inv_idle (h : Inv queue testId ⟨w, ts₁ ++ (t, s) :: ts₂⟩) (hlive : s ≠ .acked)
    (hdb : w'.db = w.db) (hacked : w'.acked = w.acked) (hsettled : s'.settled = true → s.settled = true)
    (hasked : s'.asked = true → s.asked = true) (hcounted : ∀ c, s ≠ .counted c)
    : Inv queue testId ⟨w', ts₁ ++ (t, s') :: ts₂⟩ := by
  apply inv_quiet h hlive
  case hm =>
    apply moves_idle h hlive
    case hsub => rw [hdb]
    case htest =>
      rw [hdb]
      exact fun htest => htest
    case hacked => exact hacked
    case hsettled => exact hsettled
  case hclosed =>
    rw [hdb]
    exact fun hclosed => hclosed
  case hs =>
    unfold ProbeEntry.Acked
    rw [hacked]
    exact fun _ => ⟨hcounted, fun hself => hasked (hself.resolve_left (h.not_acked hlive))⟩

theorem inv_write (h : Inv queue testId ⟨w, ts₁ ++ (t, s) :: ts₂⟩) (hlive : s ≠ .acked)
    {f : SubtaskRow → SubtaskRow} (hid : ∀ row, (f row).id = row.id)
    (htestId : ∀ row, (f row).testId = row.testId)
    (hsub : w'.db.subtasks = Table.updateWhere w.db.subtasks (fun row => row.id = t.job.subtaskId) f)
    (htests : w'.db.tests = w.db.tests) (hacked : w'.acked = w.acked)
    (hsettled : s'.settled = true → ∀ row, (f row).execStatus.outstanding = false)
    (hasked : s'.asked = true → s.asked = true) (hcounted : ∀ c, s ≠ .counted c)
    : Inv queue testId ⟨w', ts₁ ++ (t, s') :: ts₂⟩ := by
  apply inv_quiet h hlive
  case hm => exact moves_write h hlive hid htestId hsub htests hacked hsettled
  case hclosed =>
    unfold Db.TestClosed Db.test?
    rw [htests]
    exact fun hclosed => hclosed
  case hs =>
    unfold ProbeEntry.Acked
    rw [hacked]
    exact fun _ => ⟨hcounted, fun hself => hasked (hself.resolve_left (h.not_acked hlive))⟩

theorem isSome_markTestRunning {db : Db} (now : Time) (id : Uuid) (h : (db.test? testId).isSome = true)
    : ((db.markTestRunning now id).test? testId).isSome = true := by
  rw [Db.test?_markTestRunning, Option.isSome_map]
  exact h

theorem isSome_closeTest {db : Db} (now : Time) (id : Uuid) (status : TaskStatus)
    (h : (db.test? testId).isSome = true) : ((db.closeTest now id status).test? testId).isSome = true := by
  by_cases hid : testId = id
  . subst hid
    rw [Db.test?_closeTest, Option.isSome_map]
    exact h
  . rw [Db.test?_closeTest_of_ne _ _ _ hid]
    exact h

theorem inv_open {now : Time} (h : Inv queue testId ⟨w, ts₁ ++ (t, .received) :: ts₂⟩)
    (hdb : w'.db = w.db.markTestRunning now t.job.testId) (hacked : w'.acked = w.acked)
    : Inv queue testId ⟨w', ts₁ ++ (t, .opened) :: ts₂⟩ := by
  have hlive : Phase.received ≠ .acked := by simp
  apply inv_quiet h hlive
  case hm =>
    apply moves_idle h hlive
    case hsub =>
      rw [hdb]
      rfl
    case htest =>
      rw [hdb]
      exact isSome_markTestRunning _ _
    case hacked => exact hacked
    case hsettled => simp [Phase.settled]
  case hclosed =>
    rw [hdb]
    exact Db.testClosed_markTestRunning.mpr
  case hs =>
    unfold ProbeEntry.Acked
    rw [hacked]
    exact fun _ => ⟨by simp, fun hself => hself.resolve_left (h.not_acked hlive)⟩

theorem inv_start {now : Time} (h : Inv queue testId ⟨w, ts₁ ++ (t, .opened) :: ts₂⟩)
    (hdb : w'.db = w.db.markSubtaskRunning now t.job.subtaskId) (hacked : w'.acked = w.acked)
    : Inv queue testId ⟨w', ts₁ ++ (t, .running) :: ts₂⟩ := by
  apply inv_write h (by simp) (f := .start now) (fun _ => rfl) (fun _ => rfl)
  case hsub =>
    rw [hdb]
    rfl
  case htests =>
    rw [hdb]
    rfl
  case hacked => exact hacked
  case hsettled => simp [Phase.settled]
  case hasked => exact fun hself => hself
  case hcounted => simp

theorem inv_save {now : Time} {result : ResultStatus} {response : ProbeResponse}
    (h : Inv queue testId ⟨w, ts₁ ++ (t, .running) :: ts₂⟩)
    (hsave : w.db.saveReport now t.job.subtaskId result response = .ok w'.db)
    (hacked : w'.acked = w.acked)
    : Inv queue testId ⟨w', ts₁ ++ (t, .saved) :: ts₂⟩ := by
  have hmem : t ∈ queue := h.threads_mem (t, .running) (by simp)
  obtain ⟨db', hsave', htests, hsub⟩ := h.saveReport_eq hmem now result response
  cases hsave.symm.trans hsave'
  apply inv_write h (by simp) (f := .finish now result response) (fun _ => rfl) (fun _ => rfl) hsub htests hacked
  case hsettled => exact fun _ _ => rfl
  case hasked => exact fun hself => hself
  case hcounted => simp

theorem inv_fail {now : Time} {reason : String} (h : Inv queue testId ⟨w, ts₁ ++ (t, .running) :: ts₂⟩)
    (hdb : w'.db = w.db.markSubtaskError now t.job.subtaskId reason) (hacked : w'.acked = w.acked)
    : Inv queue testId ⟨w', ts₁ ++ (t, .saved) :: ts₂⟩ := by
  apply inv_write h (by simp) (f := .fail now reason) (fun _ => rfl) (fun _ => rfl)
  case hsub =>
    rw [hdb]
    rfl
  case htests =>
    rw [hdb]
    rfl
  case hacked => exact hacked
  case hsettled => exact fun _ _ => rfl
  case hasked => exact fun hself => hself
  case hcounted => simp

theorem inv_asked (h : Inv queue testId ⟨w, ts₁ ++ (t, .announced) :: ts₂⟩)
    (htold : t.job.testId = testId → w.db.NothingOutstanding testId → ∃ c, s' = .counted c)
    : Inv queue testId ⟨w, ts₁ ++ (t, s') :: ts₂⟩ := by
  have hmoves : Moves queue testId t s' w w := moves_idle h nofun rfl (fun htest => htest) rfl (fun _ => rfl)
  by_cases hmine : t.job.testId = testId
  . apply inv_move h nofun hmoves
    intro hall
    right
    obtain ⟨c, rfl⟩ := htold hmine (nothingOutstanding_of_past h nofun rfl hall)
    exact ⟨(t, .counted c), by simp, hmine, c, rfl⟩
  . apply inv_quiet h nofun hmoves (fun hclosed => hclosed)
    exact fun heq => absurd heq hmine

theorem inv_close {now : Time} {c : SubtaskCounts}
    (h : Inv queue testId ⟨w, ts₁ ++ (t, .counted c) :: ts₂⟩)
    (hdb : w'.db = w.db.closeTest now t.job.testId c.closeOutStatus) (hacked : w'.acked = w.acked)
    : Inv queue testId ⟨w', ts₁ ++ (t, .closing c) :: ts₂⟩ := by
  have hmoves : Moves queue testId t (.closing c) w w' := by
    apply moves_idle h (by simp)
    case hsub =>
      rw [hdb]
      rfl
    case htest =>
      rw [hdb]
      exact isSome_closeTest _ _ _
    case hacked => exact hacked
    case hsettled => exact fun _ => rfl
  by_cases hmine : t.job.testId = testId
  . apply inv_move h (by simp) hmoves
    intro _
    left
    obtain ⟨test, htest⟩ := Option.isSome_iff_exists.mp h.test
    rw [hdb, hmine]
    exact Db.testClosed_closeTest now htest c
  . apply inv_quiet h (by simp) hmoves
    case hclosed =>
      rw [hdb]
      exact (Db.testClosed_closeTest_of_ne (fun heq => hmine heq.symm)).mpr
    case hs => exact fun heq => absurd heq hmine

theorem inv_ack (h : Inv queue testId ⟨w, ts₁ ++ (t, .handled) :: ts₂⟩) (hdb : w'.db = w.db)
    (hacked : ∀ entry ∈ queue, entry ≠ t → entry.Acked w' → entry.Acked w)
    : Inv queue testId ⟨w', ts₁ ++ (t, .acked) :: ts₂⟩ := by
  have hmem : t ∈ queue := h.threads_mem (t, .handled) (by simp)
  apply inv_quiet h nofun
  . constructor
    case queued => exact hdb ▸ h.toQueued
    case keys => rw [hdb]
    case test => exact hdb ▸ fun htest => htest
    case acked => exact hacked
    case done => exact fun _ => rfl
    case others => exact hdb ▸ fun row hrow _ => hrow
    case own =>
      intro _
      rw [hdb]
      exact h.settled t hmem ((h.past_self nofun rfl).mpr (.inr rfl))
  . exact hdb ▸ fun hclosed => hclosed
  . exact fun _ => ⟨nofun, fun _ => rfl⟩

theorem acked_of_exec_ack {env : Env} {r : Except Err Unit} (hkeys : Distinct queue) (ht : t ∈ queue)
    (hexec : env.exec (.ack t.delivery.stream t.delivery.id) w = (r, w'))
    : w'.db = w.db ∧ ∀ entry ∈ queue, entry ≠ t → entry.Acked w' → entry.Acked w := by
  dsimp only [Env.exec] at hexec
  split at hexec
  . cases hexec
    exact ⟨rfl, fun _ _ _ hentry => hentry⟩
  . cases hexec
    refine ⟨rfl, ?_⟩
    intro entry hentry hne hin
    unfold ProbeEntry.Acked at hin ⊢
    rw [List.mem_append, List.mem_singleton, Prod.mk.injEq] at hin
    exact hin.resolve_right (fun hsame => hne (hkeys entry hentry t ht hsame.1 hsame.2))

theorem inv_perform {op : Op} {r : op.Reply} {env : Env}
    (hkeys : Distinct queue) (h : Inv queue testId ⟨w, ts₁ ++ (t, s) :: ts₂⟩) (henv : env.Recovers)
    (hexec : env.exec op w = (r, w')) (hs : Next adapters t.delivery t.job s op r s')
    : Inv queue testId ⟨w', ts₁ ++ (t, s') :: ts₂⟩ := by
  have hmem : t ∈ queue := h.threads_mem (t, s) (by simp)
  have hopen : env.fails .markTestRunning = none := henv _ (by simp) (by simp)
  have hstart : env.fails .markSubtaskRunning = none := henv _ (by simp) (by simp)
  have herror : env.fails .markSubtaskError = none := henv _ (by simp) (by simp)
  have hcount : env.fails .countSubtasks = none := henv _ (by simp) (by simp)
  have hclose : env.fails .closeTest = none := henv _ (by simp) (by simp)
  have hpublish : env.fails .publishSubtaskUpdated = none := henv _ (by simp) (by simp)
  cases hs with
  | openTest =>
    obtain ⟨db', hok, rfl⟩ := Env.statement_ok hexec
    cases hok
    exact inv_open h rfl rfl
  | startSubtask =>
    obtain ⟨db', hok, rfl⟩ := Env.statement_ok hexec
    cases hok
    exact inv_start h rfl rfl
  | call hop =>
    have hdb := (env.exec_call hop w).1
    have hnot : ∀ stream id, op ≠ .ack stream id := by
      rintro stream id rfl
      cases hop
    have hacked := env.exec_acked hnot w
    rw [hexec] at hdb hacked
    exact inv_idle h (by simp) hdb hacked (fun hself => hself) (fun hself => hself) (by simp)
  | save hconf hresult =>
    obtain ⟨db', hok, rfl⟩ := Env.statement_ok hexec
    exact inv_save h hok rfl
  | failSubtask hconf =>
    obtain ⟨db', hok, rfl⟩ := Env.statement_ok hexec
    cases hok
    exact inv_fail h rfl rfl
  | announce =>
    simp only [Env.exec, probe.subtaskUpdated, Event.publishStep, hpublish] at hexec
    cases hexec
    exact inv_idle h (by simp) rfl rfl (fun _ => rfl) (fun hself => hself) (by simp)
  | countSome hc =>
    simp only [Env.exec, hcount] at hexec
    cases hexec
    apply inv_asked h
    intro hmine hnone
    rw [hmine] at hc
    have := Db.outstanding_eq_zero_iff.mpr hnone
    omega
  | countNone hc =>
    simp only [Env.exec, hcount] at hexec
    cases hexec
    apply inv_asked h
    exact fun _ _ => ⟨_, rfl⟩
  | close =>
    obtain ⟨db', hok, rfl⟩ := Env.statement_ok hexec
    cases hok
    exact inv_close h rfl rfl
  | finish =>
    -- Whether or not the event got out, the task has asked for the end.
    simp only [Env.exec] at hexec
    split at hexec <;> cases hexec <;>
      exact inv_idle h (by simp) rfl rfl (fun _ => rfl) (fun _ => rfl) (by simp)
  | ack =>
    obtain ⟨hdb, hacked⟩ := acked_of_exec_ack hkeys hmem hexec
    exact inv_ack h hdb hacked
  -- The replies that report a failure contradict `henv`.
  | openTestFails e | startSubtaskFails e | failSubtaskFails e | countFails e | closeFails e =>
    simp only [Env.exec, Env.statement, hopen, hstart, herror, hcount, hclose] at hexec
    cases hexec
  | announceFails e =>
    simp only [Env.exec, probe.subtaskUpdated, Event.publishStep, hpublish] at hexec
    cases hexec
  | @saveFails result response e =>
    obtain ⟨db', hsave, -, -⟩ := h.saveReport_eq hmem env.now result response
    simp only [Env.exec, Env.statement, henv.saveFailure, hsave] at hexec
    cases hexec

theorem inv_spawn (h : Inv queue testId ⟨w, ts₁⟩) (ht : t ∈ queue) (hnot : ¬ t.Acked w)
    (hidle : ∀ u ∈ ts₁, u.1 = t → u.2 = .acked) : Inv queue testId ⟨w, (t, .received) :: ts₁⟩ := by
  have hpast : ∀ p : Phase → Bool, p .received = false → ∀ entry,
      Past p ⟨w, (t, .received) :: ts₁⟩ entry → Past p ⟨w, ts₁⟩ entry := by
    rintro p hp entry (hacked | ⟨u, hu, hsame, hpu⟩)
    . exact .inl hacked
    . rw [List.mem_cons] at hu
      rcases hu with rfl | hu
      . rw [hp] at hpu
        cases hpu
      . exact .inr ⟨u, hu, hsame, hpu⟩
  constructor
  case toQueued => exact h.toQueued
  case threads_mem => exact List.forall_mem_cons.mpr ⟨ht, h.threads_mem⟩
  case job_of_row => exact h.job_of_row
  case test => exact h.test
  case alone =>
    rw [List.pairwise_cons]
    exact ⟨fun u hu hsame => .inr (hidle u hu hsame.symm), h.alone⟩
  case gone =>
    rw [List.forall_mem_cons]
    exact ⟨fun hacked => absurd hacked hnot, h.gone⟩
  case settled => exact fun entry hentry hp => h.settled entry hentry (hpast _ rfl entry hp)
  case owed =>
    intro hall
    apply (h.owed (fun entry hentry hmine => hpast _ rfl entry (hall entry hentry hmine))).imp_right
    rintro ⟨u, hu, htold⟩
    exact ⟨u, List.mem_cons_of_mem _ hu, htold⟩

theorem inv_crash {a a' : system.PhaseState serde} (h : Inv queue testId a) (hcrash : Pool.Crash a a')
    : Inv queue testId a' := by
  cases hcrash with
  | @mk w ts₁ ts₂ x =>
    obtain ⟨t, s⟩ := x
    have hsub : ts₁ ++ ts₂ ⊆ ts₁ ++ (t, s) :: ts₂ := by
      intro u hu
      rw [List.mem_append, List.mem_cons]
      rw [List.mem_append] at hu
      exact hu.imp_right .inr
    have hpast : ∀ p entry, Past p ⟨w, ts₁ ++ ts₂⟩ entry → Past p ⟨w, ts₁ ++ (t, s) :: ts₂⟩ entry := by
      rintro p entry (hacked | ⟨u, hu, hsame, hpu⟩)
      . exact .inl hacked
      . exact .inr ⟨u, hsub hu, hsame, hpu⟩
    constructor
    case toQueued => exact h.toQueued
    case threads_mem => exact fun u hu => h.threads_mem u (hsub hu)
    case job_of_row => exact h.job_of_row
    case test => exact h.test
    case alone => exact h.alone.sublist ((List.sublist_cons_self _ _).append_left _)
    case gone => exact fun u hu => h.gone u (hsub hu)
    case settled => exact fun entry hentry hp => h.settled entry hentry (hpast _ entry hp)
    case owed =>
      intro hall
      apply (h.owed (fun entry hentry hmine => hpast _ entry (hall entry hentry hmine))).imp_right
      rintro ⟨u, hu, hmine, c, hc⟩
      dsimp only at hu ⊢
      rw [List.mem_append, List.mem_cons] at hu
      rcases hu with hu | rfl | hu
      . exact ⟨u, by simp [hu], hmine, c, hc⟩
      . -- The lost task was the one that was told, but then its entry would have asked elsewhere.
        exfalso
        dsimp only at hmine hc
        subst hc
        have hmem : t ∈ queue := h.threads_mem (t, .counted c) (by simp)
        rcases hall t hmem hmine with hacked | ⟨v, hv, hsame, hasked⟩
        . exact h.not_acked nofun hacked
        . rw [h.others nofun (List.mem_append.mp hv) hsame] at hasked
          cases hasked
      . exact ⟨u, by simp [hu], hmine, c, hc⟩

end Steps

section Runs

variable {w : World} {s s' : system.State serde}

theorem inv_init (hcreated : Created queue w.db testId) (hfresh : ∀ entry ∈ queue, ¬ entry.Acked w)
    : Inv queue testId ⟨w, []⟩ := by
  have hpast : ∀ p, ∀ entry ∈ queue, ¬ Past p (⟨w, []⟩ : system.PhaseState serde) entry := by
    rintro p entry hentry (hacked | ⟨u, hu, -⟩)
    . exact hfresh entry hentry hacked
    . cases hu
  obtain ⟨test, htest, -⟩ := hcreated.pending
  constructor
  case toQueued => exact hcreated.toQueued
  case threads_mem => exact nofun
  case job_of_row => exact hcreated.job_of_row
  case test => exact Option.isSome_iff_exists.mpr ⟨test, htest⟩
  case alone => exact .nil
  case gone => exact nofun
  case settled => exact fun entry hentry hp => absurd hp (hpast _ entry hentry)
  case owed =>
    intro hall
    -- The test has a subtask, and its entry has not asked.
    obtain ⟨row, hrow⟩ := List.exists_mem_of_ne_nil _ hcreated.nonempty
    obtain ⟨entry, hentry, hid⟩ := hcreated.job_of_row row hrow
    have hmine : entry.job.testId = testId := by
      rw [← hcreated.testId_eq hentry (List.mem_of_mem_filter hrow) hid]
      simpa using List.of_mem_filter hrow
    exact absurd (hall entry hentry hmine) (hpast _ entry hentry)

theorem inv_step {a : system.PhaseState serde} (hkeys : Distinct queue)
    (hsim : system.Simulates adapters s a) (h : Inv queue testId a)
    (hstep : Step Env.Recovers adapters queue s s')
    : ∃ a', system.Simulates adapters s' a' ∧ Inv queue testId a' := by
  cases hstep with
  | run l hidle hrun =>
    obtain ⟨a', hphase, hsim'⟩ := hsim.step (fun entry => tick.task_conforms adapters entry) hrun
    refine ⟨a', hsim', ?_⟩
    cases hphase with
    | spawn t ht =>
      apply inv_spawn h ht.1 ht.2
      intro u hu hsame
      obtain ⟨p, hp, hconf⟩ := hsim.exists_prog hu
      obtain ⟨r, rfl⟩ := hidle t rfl _ hp hsame
      exact hconf
    | perform t op phase phase' r hexec hs =>
      obtain ⟨env, henv, hexec⟩ := hexec
      exact inv_perform hkeys h henv hexec hs
  | crash hcrash =>
    obtain ⟨a', hcrash', hsim'⟩ := hsim.crash hcrash
    exact ⟨a', hsim', inv_crash h hcrash'⟩

theorem exists_inv (hcreated : Created queue w.db testId) (hkeys : Distinct queue)
    (hfresh : ∀ entry ∈ queue, ¬ entry.Acked w) (hrun : Run Env.Recovers adapters queue (system.init w) s)
    : ∃ a, system.Simulates adapters s a ∧ Inv queue testId a := by
  induction hrun with
  | refl => exact ⟨_, system.simulates_init w, inv_init hcreated hfresh⟩
  | tail _ hstep ih =>
    obtain ⟨a, hsim, ha⟩ := ih
    exact inv_step hkeys hsim ha hstep

/--
Wherever tasks crash and whichever acknowledgements get lost, as long as an entry is only handed out
again once nobody works on it and no statement fails: when every entry of a test is acknowledged, the
test is closed and none of its subtasks is queued or running.
-/
theorem closed_of_acked (hcreated : Created queue w.db testId) (hkeys : Distinct queue)
    (hfresh : ∀ entry ∈ queue, ¬ entry.Acked w) (hrun : Run Env.Recovers adapters queue (system.init w) s)
    (hacked : ∀ entry ∈ queue, entry.job.testId = testId → entry.Acked s.world)
    : s.world.db.TestClosed testId ∧ s.world.db.NothingOutstanding testId := by
  obtain ⟨a, hsim, ha⟩ := exists_inv hcreated hkeys hfresh hrun
  rw [hsim.world] at hacked ⊢
  constructor
  . rcases ha.owed (fun entry hentry hmine => .inl (hacked entry hentry hmine)) with hclosed | ⟨u, hu, hmine, c, hc⟩
    . exact hclosed
    . have hgone := ha.gone u hu (hacked u.1 (ha.threads_mem u hu) hmine)
      rw [hc] at hgone
      cases hgone
  . intro row hrow
    have hmem := List.mem_of_mem_filter hrow
    obtain ⟨entry, hentry, hid⟩ := ha.job_of_row row hrow
    have hmine : entry.job.testId = testId := by
      rw [← ha.testId_eq hentry hmem hid]
      simpa using List.of_mem_filter hrow
    exact ha.settled entry hentry (.inl (hacked entry hentry hmine)) row hmem hid.symm

theorem idle_init (w : World) (entry : ProbeEntry serde) : Idle (system.init w) entry := by
  intro t ht
  cases ht

theorem run_of_idle
    (h : system.Run good adapters queue (fun s l => ∀ entry, l = .spawn entry → Idle s entry) s s')
    : Run good adapters queue s s' := by
  apply Relation.ReflTransGen.mono _ _ _ h
  exact fun _ _ ⟨l, hidle, hstep⟩ => .run l hidle hstep

theorem run_stop {env : Env} (henv : good env) {entry : ProbeEntry serde}
    (hentry : system.Deliverable queue s.world entry) (hidle : Idle s entry) (n : Nat)
    : Run good adapters queue s
        ⟨((tick.task serde adapters entry.delivery).stop env.exec n s.world).2,
          (entry, ((tick.task serde adapters entry.delivery).stop env.exec n s.world).1) :: s.threads⟩ := by
  apply Relation.ReflTransGen.head
  . apply Step.run (.spawn entry) _ (.spawn entry hentry)
    intro entry' heq
    cases heq
    exact hidle
  . apply run_of_idle
    apply system.run_stop henv
    intro m _
    split
    . exact nofun
    . exact trivial

end Runs

theorem closed_of_acked_lab
    : ∃ s : system.State tick.labSerde,
        Run Env.Recovers probe.labRegistry [closeOut.labEntry] (system.init probe.labWorld) s
          ∧ s.world.db.TestClosed 1 ∧ s.world.db.NothingOutstanding 1 := by
  let task := tick.task tick.labSerde probe.labRegistry closeOut.labEntry.delivery
  have henv : probe.labEnv.Recovers := fun step _ _ => probe.labEnv_faultless step
  obtain ⟨crashed, hcrashed⟩ : ∃ w, w = (task.stop probe.labEnv.exec 3 probe.labWorld).2 := ⟨_, rfl⟩
  have hfirst : Run Env.Recovers probe.labRegistry [closeOut.labEntry] (system.init probe.labWorld)
      (system.init crashed) := by
    have hcrash : Pool.Crash
        ⟨crashed, [] ++ (closeOut.labEntry, (task.stop probe.labEnv.exec 3 probe.labWorld).1) :: []⟩
        ⟨crashed, [] ++ []⟩ := .mk _
    rw [hcrashed] at hcrash ⊢
    exact .tail (run_stop henv ⟨by simp, by decide⟩ (idle_init _ _) 3) (.crash hcrash)
  have hnone : crashed.acked = [] := by
    rw [hcrashed]
    dsimp only [task]
    rw [closeOut.labEntry.task_eq]
    rfl
  have hdeliverable : system.Deliverable [closeOut.labEntry] crashed closeOut.labEntry := by
    refine ⟨by simp, ?_⟩
    rw [hnone]
    exact List.not_mem_nil
  obtain ⟨s, hs⟩ : ∃ s : system.State tick.labSerde, s
      = ⟨(task.stop probe.labEnv.exec 12 crashed).2,
          [(closeOut.labEntry, (task.stop probe.labEnv.exec 12 crashed).1)]⟩ := ⟨_, rfl⟩
  have hrun : Run Env.Recovers probe.labRegistry [closeOut.labEntry] (system.init probe.labWorld) s := by
    rw [hs]
    exact hfirst.trans (run_stop henv hdeliverable (idle_init _ _) 12)
  have hdone : s.world.acked = [(closeOut.labEntry.delivery.stream, closeOut.labEntry.delivery.id)] := by
    rw [hs, hcrashed]
    dsimp only [task]
    rw [closeOut.labEntry.task_eq]
    rfl
  refine ⟨s, hrun, closed_of_acked closeOut.labCreated ?_ ?_ hrun ?_⟩
  . intro entry hentry entry' hentry' _ _
    rw [List.mem_singleton.mp hentry, List.mem_singleton.mp hentry']
  . exact fun entry _ => List.not_mem_nil
  . intro entry hentry _
    rw [List.mem_singleton.mp hentry]
    unfold ProbeEntry.Acked
    rw [hdone]
    exact List.mem_singleton_self _

end reclaim

end PqCas
