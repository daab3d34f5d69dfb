import PqCas.Api.Matrix
import PqCas.Lib.PubSub
import PqCas.Worker.CloseOut
import PqCas.Worker.Live

/-!
The matrix in a browser (`test-matrix.tsx`): a snapshot from the server render, and the updates that
are published after the event stream was opened.
-/

namespace PqCas

namespace web

namespace TestMatrix

open api

def updateCell (cell : MatrixCell) (event : Event) : MatrixCell :=
  match event with
  | .subtaskUpdated subtaskId execStatus resultStatus _ _ =>
    if cell.subtaskId = subtaskId then
      { cell with
        resultStatus := resultStatus
        execStatus := execStatus }
    else
      cell
  | _ => cell

def onMessage (matrix : Matrix) (event : Event) : Matrix :=
  { matrix with cells := matrix.cells.map (fun cell => updateCell cell event) }

/--
What the browser shows once it has applied everything that was delivered to it. It subscribed when
`n` messages had been published.
-/
def view (initialMatrix : Matrix) (log : List (Channel × Event)) (n : Nat) (testId : Uuid) : Matrix :=
  (PubSub.delivered log n (.test testId)).foldl onMessage initialMatrix

theorem cells_foldl_onMessage (matrix : Matrix) (events : List Event)
    : (events.foldl onMessage matrix).cells
        =
      matrix.cells.map (fun cell => events.foldl updateCell cell) := by
  induction events generalizing matrix with
  | nil => simp
  | cons event events ih =>
    rw [List.foldl_cons, ih]
    unfold onMessage
    rw [List.map_map]
    rfl

def Updates (events : List Event) (subtaskId : Uuid) : Prop :=
  ∃ execStatus resultStatus group alg,
    Event.subtaskUpdated subtaskId execStatus resultStatus group alg ∈ events

theorem foldl_updateCell_of_not_updates {cell : MatrixCell} {events : List Event}
    (h : ¬ Updates events cell.subtaskId) : events.foldl updateCell cell = cell := by
  induction events with
  | nil => rfl
  | cons event events ih =>
    have hskip : updateCell cell event = cell := by
      unfold updateCell
      split
      . next id e r g a =>
        rw [if_neg]
        rintro rfl
        exact h ⟨e, r, g, a, by simp⟩
      . rfl
    rw [List.foldl_cons, hskip]
    apply ih
    rintro ⟨e, r, g, a, hmem⟩
    exact h ⟨e, r, g, a, List.mem_cons_of_mem _ hmem⟩

theorem foldl_updateCell_of_updates {cell : MatrixCell} {events : List Event} {e : ExecStatus}
    {r : ResultStatus} (h : Updates events cell.subtaskId)
    (hsame : ∀ e' r' g a, Event.subtaskUpdated cell.subtaskId e' r' g a ∈ events → e' = e ∧ r' = r)
    : events.foldl updateCell cell = { cell with resultStatus := r, execStatus := e } := by
  induction events using List.reverseRecOn with
  | nil =>
    obtain ⟨_, _, _, _, hmem⟩ := h
    cases hmem
  | append_singleton events event ih =>
    have hsame' : ∀ e' r' g a, Event.subtaskUpdated cell.subtaskId e' r' g a ∈ events → e' = e ∧ r' = r :=
      fun e' r' g a hmem => hsame e' r' g a (List.mem_append_left _ hmem)
    rw [List.foldl_append, List.foldl_cons, List.foldl_nil]
    by_cases hup : Updates events cell.subtaskId
    . -- The cell has these statuses already.
      rw [ih hup hsame']
      unfold updateCell
      split
      . next id e' r' g a =>
        split
        . next hid =>
          cases hid
          obtain ⟨rfl, rfl⟩ := hsame e' r' g a (by simp)
          rfl
        . rfl
      . rfl
    . -- The last event is the first update.
      rw [foldl_updateCell_of_not_updates hup]
      obtain ⟨e', r', g, a, hmem⟩ := h
      have hlast : event = .subtaskUpdated cell.subtaskId e' r' g a := by
        rw [List.mem_append, List.mem_singleton] at hmem
        rcases hmem with hmem | hmem
        . exact absurd ⟨e', r', g, a, hmem⟩ hup
        . exact hmem.symm
      obtain ⟨rfl, rfl⟩ := hsame e' r' g a hmem
      rw [hlast]
      exact if_pos rfl

theorem orderedSubtasks_zip {db₁ db₂ : Db} (testId : Uuid)
    (h : db₂.subtasks.map SubtaskRow.key = db₁.subtasks.map SubtaskRow.key)
    : ∃ pairs : List (SubtaskRow × SubtaskRow),
        orderedSubtasks db₁ testId = pairs.map Prod.fst
          ∧ orderedSubtasks db₂ testId = pairs.map Prod.snd
          ∧ ∀ p ∈ pairs, p.2.key = p.1.key := by
  have hof : ∀ db : Db, (db.subtasksOf testId).map SubtaskRow.key
      = (db.subtasks.map SubtaskRow.key).filter (fun key => key.2.1 = testId) := by
    intro db
    rw [List.filter_map]
    rfl
  have hkeys : (db₂.subtasksOf testId).map SubtaskRow.key = (db₁.subtasksOf testId).map SubtaskRow.key := by
    rw [hof, hof, h]
  have hlen : (db₂.subtasksOf testId).length = (db₁.subtasksOf testId).length := by
    simpa using congrArg List.length hkeys
  let pairs := (db₁.subtasksOf testId).zip (db₂.subtasksOf testId)
  have hfst : pairs.map Prod.fst = db₁.subtasksOf testId := List.map_fst_zip (by omega)
  have hsnd : pairs.map Prod.snd = db₂.subtasksOf testId := List.map_snd_zip (by omega)
  have hpair : ∀ p ∈ pairs, p.2.key = p.1.key := by
    rw [← hfst, ← hsnd, List.map_map, List.map_map] at hkeys
    exact List.map_inj_left.mp hkeys
  have hordinal : ∀ p ∈ pairs, p.2.ordinal = p.1.ordinal :=
    fun p hp => congrArg (fun key => key.2.2.1) (hpair p hp)
  refine ⟨pairs.mergeSort (fun p q => p.1.ordinal ≤ q.1.ordinal), ?_, ?_, ?_⟩
  . unfold orderedSubtasks
    rw [← hfst, List.map_mergeSort]
    exact fun _ _ _ _ => rfl
  . unfold orderedSubtasks
    rw [← hsnd, List.map_mergeSort]
    intro p hp q hq
    rw [hordinal p hp, hordinal q hq]
  . intro p hp
    exact hpair p (List.mem_mergeSort.mp hp)

theorem cells_eq_of_getMatrix {db : Db} {testId : Uuid} {matrix : Matrix}
    (h : getMatrix db testId = .ok matrix)
    : matrix.cells = (orderedSubtasks db testId).map MatrixCell.ofRow := by
  unfold getMatrix at h
  split at h
  . cases h
  . cases h
    rfl

section Converges

variable {serde : Serde} {good : Env → Prop} {adapters : AdapterRegistry}
variable {queue : List (ProbeEntry serde)} {testId : Uuid} {w : World} {s₁ s₂ s₃ : system.State serde}

theorem foldl_updateCell_eq_iff {w₁ : World} {a : live.State serde} {old row : SubtaskRow}
    {events : List Event} (hsince : live.Since queue testId w₁ a)
    (hold : old ∈ w₁.db.subtasksOf testId) (hrow : row ∈ a.world.db.subtasksOf testId)
    (hkey : row.key = old.key) (hevents : ∀ event ∈ events, (.test testId, event) ∈ a.world.published)
    : events.foldl updateCell (.ofRow old) = .ofRow row
        ↔
      old.execStatus = row.execStatus ∨ Updates events row.id := by
  have hid : row.id = old.id := congrArg (fun key => key.1) hkey
  have hgroup : row.groupName = old.groupName := congrArg (fun key => key.2.2.2.1) hkey
  have hsig : row.sigAlg = old.sigAlg := congrArg (fun key => key.2.2.2.2) hkey
  rw [hid]
  by_cases hup : Updates events old.id
  . have hsame : ∀ e r g a, Event.subtaskUpdated old.id e r g a ∈ events →
        e = row.execStatus ∧ r = row.resultStatus := by
      intro e r g a hmem
      have hann := live.announced_of_rowOk (hsince.rows row hrow)
        ⟨_, g, a, hid.symm ▸ hevents _ hmem⟩
      exact ⟨hann.1.symm, hann.2.symm⟩
    rw [foldl_updateCell_of_updates hup hsame]
    simp [hup, MatrixCell.ofRow, hid, hgroup, hsig]
  . rw [foldl_updateCell_of_not_updates hup]
    have hlater := (hsince.later old hold row hrow hid).eq_iff
    simp only [hup, or_false, MatrixCell.ofRow, MatrixCell.mk.injEq, hid, hgroup, hsig, true_and]
    constructor
    . exact And.right
    . intro hexec
      exact ⟨(hlater.mp hexec.symm).2.symm, hexec⟩

/--
The row of a subtask was not written any more after the snapshot, or an update of it reached the
subscriber.
-/
def Seen (s₁ s₃ : system.State serde) (n : Nat) (testId : Uuid) (row : SubtaskRow) : Prop :=
  (∃ old ∈ s₁.world.db.subtasksOf testId, old.id = row.id ∧ old.execStatus = row.execStatus)
    ∨ Updates (PubSub.delivered s₃.world.published n (.test testId)) row.id

/--
The page reads its snapshot in `s₁` and subscribes in `s₂`. Whatever the tasks do before, between and
after, and whichever of their steps fail, in `s₃` it shows the cells of the tables exactly when none of
them was settled after the snapshot and announced before the subscription.
-/
theorem view_eq_iff (hqueue : Queued queue w.db)
    (hqueued : ∀ row ∈ w.db.subtasksOf testId, row.execStatus = .queued)
    (hsilent : ∀ row ∈ w.db.subtasksOf testId, ∀ e r, ¬ w.Announced row.id e r)
    (hconf : ∀ entry ∈ queue, entry.job.testId = testId →
      adapters.isConfigured entry.job.adapter = true)
    (h₁ : system.Run good adapters queue live.HandsOutOnce (system.init w) s₁)
    (h₂ : system.Run good adapters queue live.HandsOutOnce s₁ s₂)
    (h₃ : system.Run good adapters queue live.HandsOutOnce s₂ s₃) {snapshot final : Matrix}
    (hsnapshot : getMatrix s₁.world.db testId = .ok snapshot)
    (hfinal : getMatrix s₃.world.db testId = .ok final)
    : (view snapshot s₃.world.published s₂.world.published.length testId).cells = final.cells
        ↔
      ∀ row ∈ s₃.world.db.subtasksOf testId, Seen s₁ s₃ s₂.world.published.length testId row := by
  have hinit : live.Since queue testId w ⟨w, []⟩ := live.since_self (live.inv_init hqueue hqueued hsilent)
  obtain ⟨a₁, hsim₁, hsince₁⟩ := live.since_run hconf ⟨rfl, .nil⟩ hinit h₁
  -- From the snapshot on, the rows are compared with what they were there.
  obtain ⟨a₃, hsim₃, hsince⟩ := live.since_run hconf hsim₁ (live.since_self hsince₁.toInv) (h₂.trans h₃)
  rw [hsim₁.world] at hsnapshot
  rw [hsim₃.world] at hfinal
  unfold Seen view
  rw [hsim₁.world, hsim₃.world, cells_foldl_onMessage, cells_eq_of_getMatrix hsnapshot,
    cells_eq_of_getMatrix hfinal]
  obtain ⟨pairs, hordered₁, hordered₃, hkey⟩ := orderedSubtasks_zip testId hsince.keys
  have hfst : ∀ p ∈ pairs, p.1 ∈ a₁.world.db.subtasksOf testId := by
    intro p hp
    rw [← mem_orderedSubtasks, hordered₁]
    exact List.mem_map_of_mem hp
  have hsnd : ∀ p ∈ pairs, p.2 ∈ a₃.world.db.subtasksOf testId := by
    intro p hp
    rw [← mem_orderedSubtasks, hordered₃]
    exact List.mem_map_of_mem hp
  have hevents : ∀ event ∈ PubSub.delivered a₃.world.published s₂.world.published.length (.test testId),
      (.test testId, event) ∈ a₃.world.published := by
    intro event hevent
    exact List.mem_of_mem_drop (PubSub.mem_onChannel.mp hevent)
  have hcell := fun p hp => foldl_updateCell_eq_iff hsince (hfst p hp) (hsnd p hp) (hkey p hp) hevents
  rw [hordered₁, hordered₃, List.map_map, List.map_map, List.map_map, List.map_inj_left]
  constructor
  . intro h row hrow
    rw [← mem_orderedSubtasks, hordered₃, List.mem_map] at hrow
    obtain ⟨p, hp, rfl⟩ := hrow
    rcases (hcell p hp).mp (h p hp) with hexec | hup
    . exact .inl ⟨p.1, hfst p hp, congrArg (fun key => key.1) (hkey p hp).symm, hexec⟩
    . exact .inr hup
  . intro h p hp
    apply (hcell p hp).mpr
    rcases h p.2 (hsnd p hp) with ⟨old, hold, hid, hexec⟩ | hup
    . left
      have hsame : old.id = p.1.id := hid.trans (congrArg (fun key => key.1) (hkey p hp))
      have heq : old = p.1 := List.inj_on_of_nodup_map hsince₁.ids_nodup (List.mem_of_mem_filter hold)
        (List.mem_of_mem_filter (hfst p hp)) hsame
      exact heq ▸ hexec
    . exact .inr hup

end Converges

section Lab

open probe tick

theorem getMatrix_singleton {db : Db} {testId : Uuid} {test : TestRow} {row : SubtaskRow}
    (htest : db.test? testId = some test) (hrow : db.subtasksOf testId = [row])
    : getMatrix db testId = .ok ⟨[row.groupName], [row.sigAlg], [.ofRow row]⟩ := by
  unfold getMatrix orderedSubtasks
  rw [htest, hrow, List.mergeSort_singleton]
  rfl

def labHandled : system.State labSerde :=
  ⟨((task labSerde labRegistry closeOut.labEntry.delivery).run labEnv.exec labWorld).2,
    [(closeOut.labEntry, .pure ())]⟩

theorem run_labHandled
    : system.Run Env.Faultless labRegistry [closeOut.labEntry] live.HandsOutOnce (system.init labWorld)
        labHandled :=
  live.run_alone labEnv_faultless ⟨by simp, by decide⟩

def labRow : SubtaskRow :=
  { id := 2, testId := 1, ordinal := 0, groupName := "", sigAlg := "" }

theorem getMatrix_labWorld : getMatrix labWorld.db 1 = .ok ⟨[""], [""], [.ofRow labRow]⟩ := by
  have htest : labWorld.db.test? 1 = some { id := 1 } := rfl
  have hrow : labWorld.db.subtasksOf 1 = [labRow] := rfl
  exact getMatrix_singleton htest hrow

set_option maxRecDepth 10000 in
theorem test?_labHandled : labHandled.world.db.test? 1 = some ⟨1, .finished, some 0, some 0⟩ := by
  decide

set_option maxRecDepth 10000 in
theorem published_labHandled
    : labHandled.world.published
        =
      [
        (.test 1, .subtaskUpdated 2 .finished .passed "X25519MLKEM768" "mldsa65"),
        (.test 1, .testFinished 1 1 0)
      ] := by
  decide

set_option maxRecDepth 10000 in
theorem subtasksOf_labHandled
    : labHandled.world.db.subtasksOf 1
        =
      [{ labRow with
        execStatus := .finished
        resultStatus := .passed
        reportStatus := .complete
        failedStage := some "complete"
        startedAt := some 0
        finishedAt := some 0 }] := by
  decide

theorem getMatrix_labHandled
    : getMatrix labHandled.world.db 1
        =
      .ok ⟨[""], [""], [⟨2, "", "", .passed, .finished⟩]⟩ :=
  getMatrix_singleton test?_labHandled subtasksOf_labHandled

theorem view_eq_lab
    : (view ⟨[""], [""], [.ofRow labRow]⟩ labHandled.world.published 0 1).cells
        =
      [⟨2, "", "", .passed, .finished⟩] := by
  have hqueue : Queued [closeOut.labEntry] labWorld.db := closeOut.labCreated.toQueued
  have hqueued : ∀ row ∈ labWorld.db.subtasksOf 1, row.execStatus = .queued := closeOut.labCreated.queued
  have hsilent : ∀ row ∈ labWorld.db.subtasksOf 1, ∀ e r, ¬ labWorld.Announced row.id e r := by
    simp [World.Announced, labWorld]
  have hconf : ∀ entry ∈ [closeOut.labEntry], entry.job.testId = 1 →
      labRegistry.isConfigured entry.job.adapter = true := by
    intro entry hentry _
    rw [List.mem_singleton.mp hentry]
    rfl
  have h := (view_eq_iff hqueue hqueued hsilent hconf .refl .refl run_labHandled getMatrix_labWorld
    getMatrix_labHandled).mpr
  apply h
  intro row hrow
  rw [subtasksOf_labHandled, List.mem_singleton] at hrow
  subst hrow
  refine .inr ⟨.finished, .passed, "X25519MLKEM768", "mldsa65", ?_⟩
  rw [published_labHandled]
  decide

/--
The only job is handled between the snapshot and the subscription: every job is handled and nobody is
running, but the page goes on showing a pending cell.
-/
theorem view_ne_lab
    : system.Run Env.Faultless labRegistry [closeOut.labEntry] live.HandsOutOnce
          (system.init labWorld) labHandled
        ∧ labHandled.threads = [(closeOut.labEntry, .pure ())]
        ∧ ∃ snapshot final,
          getMatrix labWorld.db 1 = .ok snapshot
            ∧ getMatrix labHandled.world.db 1 = .ok final
            ∧ (view snapshot labHandled.world.published labHandled.world.published.length 1).cells
                ≠ final.cells := by
  refine ⟨run_labHandled, rfl, _, _, getMatrix_labWorld, getMatrix_labHandled, ?_⟩
  unfold view PubSub.delivered
  rw [List.drop_length]
  decide

end Lab

end TestMatrix

end web

end PqCas
