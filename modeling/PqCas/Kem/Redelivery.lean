import PqCas.Kem.Lines

/-!
What a redelivered KEM job comes to, for every point at which the handler before it stopped.
-/

namespace PqCas

namespace Db

def kemRun? (db : Db) (id : Uuid) : Option KemRunRow :=
  db.kemRuns.find? (fun row => row.id = id)

def linesOf (db : Db) (runId : Uuid) : List KemRunLogRow :=
  db.kemRunLogs.filter (fun line => line.runId = runId)

def HasRun (db : Db) (runId : Uuid) : Prop :=
  runId ∈ db.kemRuns.map KemRunRow.id

variable {db : Db} {line : KemRunLogRow}

theorem HasRun.any_eq_true {runId : Uuid} (h : db.HasRun runId)
    : db.kemRuns.any (fun row => row.id = runId) = true := by
  obtain ⟨row, hrow, hid⟩ := List.mem_map.mp h
  rw [List.any_eq_true]
  exact ⟨row, hrow, by simpa using hid⟩

theorem insertKemLog_taken {old : KemRunLogRow} (hrun : db.HasRun line.runId)
    (hold : old ∈ db.linesOf line.runId) (hseq : old.seq = line.seq)
    : ∃ e, db.insertKemLog line = .error e := by
  obtain ⟨hmem, hold⟩ := List.mem_filter.mp hold
  unfold insertKemLog
  have hdup : db.kemRunLogs.any (fun row => row.runId = line.runId ∧ row.seq = line.seq) = true := by
    rw [List.any_eq_true]
    refine ⟨old, hmem, ?_⟩
    simpa [hseq] using hold
  simp only [hrun.any_eq_true, hdup, Bool.not_true, Bool.false_eq_true, ↓reduceIte]
  exact ⟨_, rfl⟩

theorem insertKemLog_free (hrun : db.HasRun line.runId)
    (hfree : ∀ old ∈ db.linesOf line.runId, old.seq ≠ line.seq)
    : db.insertKemLog line = .ok { db with kemRunLogs := db.kemRunLogs ++ [line] } := by
  unfold insertKemLog
  have hdup : db.kemRunLogs.any (fun row => row.runId = line.runId ∧ row.seq = line.seq) = false := by
    rw [List.any_eq_false]
    intro old hold
    simp only [decide_eq_true_eq, not_and]
    intro hrunid
    exact hfree old (List.mem_filter.mpr ⟨hold, by simpa using hrunid⟩)
  simp only [hrun.any_eq_true, hdup, Bool.not_true, Bool.false_eq_true, ↓reduceIte]

end Db

namespace kem

def Accepted : (op : Op) → op.Reply → Prop
  | .insertKemLog _, r => r = (Except.ok () : Except Err Unit)
  | _, _ => True

def Survives (adapters : AdapterRegistry) (env : Env) (job : KemJob) (w : World) : Prop :=
  (∃ row, ((handle adapters job).eval env w).2.db.kemRun? job.runId = some row
    ∧ row.status.closed = true)
  ∧ ∀ e ∈ (handle adapters job).run.trace env.exec w, Accepted e.1 e.2

inductive Effect (env : Env) (runId : Uuid) : Progress → Db → Progress → Db → Prop where
  | idle {s : Progress} {db db' : Db} (hruns : db'.kemRuns = db.kemRuns)
      (hlogs : db'.kemRunLogs = db.kemRunLogs)
    : Effect env runId s db s db'
  | fails {s : Progress} {db : Db} (h : ¬ (env.Faultless ∧ db.HasRun runId))
    : Effect env runId s db { s with failed := true } db
  | start {db : Db} : Effect env runId .zero db .zero (db.startKemRun runId)
  | finish {s : Progress} {db : Db} {status : TaskStatus} (hstatus : status.closed = true)
    : Effect env runId s db { s with finished := true } (db.finishKemRun env.now runId status)
  | line {s : Progress} {db db' : Db} {row : KemRunLogRow} (hrun : row.runId = runId)
      (hseq : row.seq = s.seq + 1) (hfault : env.fails .insertKemLog = none)
      (hinsert : db.insertKemLog row = .ok db')
    : Effect env runId s db { s with seq := s.seq + 1 } db'
  | lineFails {s : Progress} {db : Db} {row : KemRunLogRow} (hrun : row.runId = runId)
      (hseq : row.seq = s.seq + 1)
      (h : env.fails .insertKemLog ≠ none ∨ ∃ e, db.insertKemLog row = .error e)
    : Effect env runId s db { s with seq := s.seq + 1, failed := true, refused := true } db

theorem effect_of_advances {env : Env} {runId : Uuid} {w w' : World} {s s' : Progress} {op : Op}
    {r : op.Reply} (hexec : env.exec op w = (r, w')) (h : Advances runId s op r s')
    : Effect env runId s w.db s' w'.db := by
  cases h with
  | start hs =>
    obtain ⟨db', hdb', rfl⟩ := Env.statement_ok hexec
    cases hdb'
    subst hs
    exact .start
  | line hrun hseq =>
    have hfault := Env.statement_ok_fault hexec
    obtain ⟨db', hdb', rfl⟩ := Env.statement_ok hexec
    exact .line hrun hseq hfault hdb'
  | lineFails hrun hseq e =>
    have hw := Env.statement_error hexec
    subst hw
    exact .lineFails hrun hseq (Env.statement_error_cause hexec)
  | cell hrun =>
    obtain ⟨db', hdb', rfl⟩ := Env.statement_ok hexec
    unfold Db.upsertKemCell at hdb'
    split at hdb'
    . cases hdb'
    . cases hdb'
      exact .idle rfl rfl
  | publish =>
    simp only [Env.exec] at hexec
    split at hexec <;> cases hexec
    exact .idle rfl rfl
  | finish hstatus =>
    obtain ⟨db', hdb', rfl⟩ := Env.statement_ok hexec
    cases hdb'
    exact .finish hstatus
  | now =>
    cases hexec
    exact .idle rfl rfl
  | call hop =>
    have hdb := (env.exec_call hop w).1
    rw [hexec] at hdb
    rw [hdb]
    exact .idle rfl rfl
  | startFails e | finishFails e =>
    have hw := Env.statement_error hexec
    subst hw
    apply Effect.fails
    rintro ⟨henv, -⟩
    have := Env.statement_error_cause hexec
    simp [henv _] at this
  | cellFails hrow e =>
    have hw := Env.statement_error hexec
    subst hw
    apply Effect.fails
    rintro ⟨henv, hrun⟩
    rcases Env.statement_error_cause hexec with hfault | ⟨e, he⟩
    . exact hfault (henv _)
    . unfold Db.upsertKemCell at he
      rw [hrow, hrun.any_eq_true] at he
      cases he
  | publishFails e =>
    simp only [Env.exec] at hexec
    split at hexec
    . next hfault =>
      cases hexec
      apply Effect.fails
      rintro ⟨henv, -⟩
      rw [henv] at hfault
      cases hfault
    . cases hexec

theorem accepted_of_advances {runId : Uuid} {s s' : Progress} {op : Op} {r : op.Reply}
    (h : Advances runId s op r s') (hs' : s'.failed = false) : Accepted op r := by
  cases h with
  | lineFails hrun hseq e => cases hs'
  | line hrun hseq => rfl
  | call hop => cases op <;> trivial
  | _ => trivial

theorem refused_of_advances {runId : Uuid} {s s' : Progress} {op : Op} {r : op.Reply}
    (h : Advances runId s op r s') (hs' : s'.refused = true)
    : s.refused = true ∨ ¬ Accepted op r := by
  cases h with
  | lineFails hrun hseq e =>
    right
    intro h
    cases h
  | _ => exact .inl hs'

theorem exists_refused {env : Env} {runId : Uuid} {s s' : Progress} {w w' : World}
    {tr : List ((op : Op) × op.Reply)} (h : Prog.Path (Advances runId) env.exec s w tr s' w')
    (hs' : s'.refused = true) : s.refused = true ∨ ∃ e ∈ tr, ¬ Accepted e.1 e.2 := by
  induction h with
  | nil => exact .inl hs'
  | cons hδ _ ih =>
    rcases ih hs' with hs | ⟨e, he, hnot⟩
    . rcases refused_of_advances hδ hs with hs | hnot
      . exact .inl hs
      . exact .inr ⟨_, List.mem_cons_self, hnot⟩
    . exact .inr ⟨e, List.mem_cons_of_mem _ he, hnot⟩

section Invariants

variable {env : Env} {runId : Uuid} {s s' : Progress} {db db' : Db}

theorem Effect.hasRun (h : Effect env runId s db s' db') (hrun : db.HasRun runId)
    : db'.HasRun runId := by
  cases h with
  | idle hruns hlogs =>
    unfold Db.HasRun
    rw [hruns]
    exact hrun
  | fails h => exact hrun
  | start =>
    unfold Db.HasRun Db.startKemRun
    dsimp only
    rw [Table.map_updateWhere KemRunRow.id]
    . exact hrun
    . exact fun _ => rfl
  | finish hstatus =>
    unfold Db.HasRun Db.finishKemRun
    dsimp only
    rw [Table.map_updateWhere KemRunRow.id]
    . exact hrun
    . exact fun _ => rfl
  | line hid hseq hfault hinsert =>
    unfold Db.insertKemLog at hinsert
    split at hinsert
    . cases hinsert
    . split at hinsert <;> cases hinsert
      exact hrun
  | lineFails hid hseq h => exact hrun

def FromOne (env : Env) (runId : Uuid) (s : Progress) (db : Db) : Prop :=
  db.HasRun runId
    ∧ ((db.linesOf runId = [] ∧ (s.seq = 0 ∨ env.fails .insertKemLog ≠ none))
      ∨ ∃ line ∈ db.linesOf runId, line.seq = 1)

theorem linesOf_insertKemLog {line : KemRunLogRow} (h : db.insertKemLog line = .ok db')
    : db'.kemRuns = db.kemRuns ∧ db'.linesOf line.runId = db.linesOf line.runId ++ [line] := by
  unfold Db.insertKemLog at h
  split at h
  . cases h
  . split at h <;> cases h
    exact ⟨rfl, by simp [Db.linesOf]⟩

theorem fromOne_step (hI : FromOne env runId s db) (h : Effect env runId s db s' db')
    : FromOne env runId s' db' := by
  refine ⟨h.hasRun hI.1, ?_⟩
  obtain ⟨hrun, hI⟩ := hI
  cases h with
  | idle hruns hlogs =>
    unfold Db.linesOf at hI ⊢
    rw [hlogs]
    exact hI
  | fails h => exact hI
  | start => exact hI
  | finish hstatus => exact hI
  | @line _ _ _ row hid hseq hfault hinsert =>
    subst hid
    right
    rw [(linesOf_insertKemLog hinsert).2]
    rcases hI with ⟨-, hzero | hnever⟩ | ⟨first, hfirst, hone⟩
    . exact ⟨row, by simp, by omega⟩
    . exact absurd hfault hnever
    . exact ⟨first, by simp [hfirst], hone⟩
  | lineFails hid hseq hcause =>
    subst hid
    rcases hI with ⟨hnone, -⟩ | hfirst
    . -- Nothing is there that the line could collide with.
      left
      refine ⟨hnone, .inr ?_⟩
      rcases hcause with hcause | ⟨e, he⟩
      . exact hcause
      . rw [Db.insertKemLog_free hrun (by simp [hnone])] at he
        cases he
    . exact .inr hfirst

structure Undisturbed (runId : Uuid) (s : Progress) (db : Db) : Prop where
  hasRun : db.HasRun runId
  failed : s.failed = false
  lines : ∀ line ∈ db.linesOf runId, line.seq ≤ s.seq
  finished : s.finished = true → ∀ row ∈ db.kemRuns, row.id = runId → row.status.closed = true

theorem undisturbed_step (henv : env.Faultless) (hI : Undisturbed runId s db)
    (h : Effect env runId s db s' db') : Undisturbed runId s' db' := by
  have hrun := h.hasRun hI.hasRun
  cases h with
  | idle hruns hlogs =>
    refine ⟨hrun, hI.failed, ?_, ?_⟩
    . unfold Db.linesOf
      rw [hlogs]
      exact hI.lines
    . rw [hruns]
      exact hI.finished
  | fails h => exact absurd ⟨henv, hI.hasRun⟩ h
  | start => exact ⟨hrun, rfl, hI.lines, fun h => by cases h⟩
  | @finish _ _ status hstatus =>
    refine ⟨hrun, hI.failed, hI.lines, ?_⟩
    intro _ row hrow hid
    unfold Db.finishKemRun at hrow
    rw [Table.mem_updateWhere] at hrow
    rcases hrow with ⟨old, -, -, rfl⟩ | ⟨-, hne⟩
    . exact hstatus
    . simp [hid] at hne
  | line hid hseq hfault hinsert =>
    subst hid
    obtain ⟨hruns, hlines⟩ := linesOf_insertKemLog hinsert
    refine ⟨hrun, hI.failed, ?_, ?_⟩
    . rw [hlines]
      intro line hline
      rw [List.mem_append, List.mem_singleton] at hline
      rcases hline with hline | rfl
      . have := hI.lines line hline
        dsimp only
        omega
      . dsimp only
        omega
    . rw [hruns]
      exact hI.finished
  | lineFails hid hseq hcause =>
    subst hid
    exfalso
    rcases hcause with hcause | ⟨e, he⟩
    . exact hcause (henv _)
    . rw [Db.insertKemLog_free hI.hasRun] at he
      . cases he
      . intro old hold
        have := hI.lines old hold
        omega

structure Blocked (runId : Uuid) (s : Progress) (db : Db) : Prop where
  hasRun : db.HasRun runId
  first : ∃ line ∈ db.linesOf runId, line.seq = 1
  refused : s.seq = 0 ∨ s.refused = true
  failed : s.failed = true → s.refused = true

theorem blocked_step (henv : env.Faultless) (hI : Blocked runId s db)
    (h : Effect env runId s db s' db') : Blocked runId s' db' := by
  have hrun := h.hasRun hI.hasRun
  cases h with
  | idle hruns hlogs =>
    refine ⟨hrun, ?_, hI.refused, hI.failed⟩
    unfold Db.linesOf
    rw [hlogs]
    exact hI.first
  | fails h => exact absurd ⟨henv, hI.hasRun⟩ h
  | start => exact ⟨hrun, hI.first, .inl rfl, fun h => by cases h⟩
  | finish hstatus => exact ⟨hrun, hI.first, hI.refused, hI.failed⟩
  | line hid hseq hfault hinsert =>
    subst hid
    obtain ⟨first, hfirst, hone⟩ := hI.first
    rcases hI.refused with hzero | hrefused
    . obtain ⟨e, he⟩ := Db.insertKemLog_taken hI.hasRun hfirst (by omega)
      rw [he] at hinsert
      cases hinsert
    . refine ⟨hrun, ⟨first, ?_, hone⟩, .inr hrefused, hI.failed⟩
      rw [(linesOf_insertKemLog hinsert).2]
      simp [hfirst]
  | lineFails hid hseq hcause => exact ⟨hrun, hI.first, .inr rfl, fun _ => rfl⟩

end Invariants

section Runs

variable {adapters adapters' : AdapterRegistry} {job : KemJob} {w : World}

theorem survives_of_no_lines {env : Env} (henv : env.Faultless) (hrun : w.db.HasRun job.runId)
    (hlines : w.db.linesOf job.runId = []) : Survives adapters env job w := by
  obtain ⟨s, ⟨hdone, -⟩, hpath⟩ := (handle_conforms adapters job).path_run env.exec w
  have hinit : Undisturbed job.runId Progress.zero w.db :=
    ⟨hrun, rfl, by simp [hlines], fun h => by cases h⟩
  have hstep : ∀ s op w s', Undisturbed job.runId s w.db → Advances job.runId s op (env.exec op w).1 s' →
      Undisturbed job.runId s' (env.exec op w).2.db :=
    fun _ _ _ _ hI h => undisturbed_step henv hI (effect_of_advances rfl h)
  have hend := hpath.invariant hinit hstep
  constructor
  . have hfinished : s.finished = true := by
      rcases hdone with h | h
      . exact h
      . rw [hend.failed] at h
        cases h
    obtain ⟨row, hrow, hid⟩ := List.mem_map.mp hend.hasRun
    obtain ⟨found, hfound⟩ : ∃ found,
        ((handle adapters job).eval env w).2.db.kemRun? job.runId = some found := by
      rw [← Option.isSome_iff_exists]
      unfold Db.kemRun?
      rw [List.find?_isSome]
      exact ⟨row, hrow, by simpa using hid⟩
    refine ⟨found, hfound, ?_⟩
    apply hend.finished hfinished
    . exact List.mem_of_find?_eq_some hfound
    . simpa using List.find?_some hfound
  . exact hpath.forall_trace (Q := Accepted) hinit hstep
      (fun s op w s' hI h => accepted_of_advances h (hstep s op w s' hI h).failed)

theorem not_survives_of_first_line {env : Env} (henv : env.Faultless) (hrun : w.db.HasRun job.runId)
    (hfirst : ∃ line ∈ w.db.linesOf job.runId, line.seq = 1) : ¬ Survives adapters env job w := by
  obtain ⟨s, ⟨-, hseq⟩, hpath⟩ := (handle_conforms adapters job).path_run env.exec w
  have hend := hpath.invariant (I := fun s w => Blocked job.runId s w.db)
    ⟨hrun, hfirst, .inl rfl, fun h => by cases h⟩
    (fun _ _ _ _ hI h => blocked_step henv hI (effect_of_advances rfl h))
  have hrefused : s.refused = true := by
    rcases hseq with hseq | hfailed
    . rcases hend.refused with hzero | hrefused
      . omega
      . exact hrefused
    . exact hend.failed hfailed
  rintro ⟨-, haccepted⟩
  rcases exists_refused hpath hrefused with h | ⟨e, he, hnot⟩
  . cases h
  . exact hnot (haccepted e he)

/--
The handler of a redelivered job ends the run and has every line accepted exactly when the handler
before it, wherever it stopped and whatever failed in it, had inserted none: both number their lines
from one, and the rows of the first attempt are still there.
-/
theorem survives_iff {env env' : Env} (henv' : env'.Faultless) (hrun : w.db.HasRun job.runId)
    (hlines : w.db.linesOf job.runId = []) (n : Nat)
    : Survives adapters' env' job ((handle adapters job).run.stop env.exec n w).2
        ↔
      (((handle adapters job).run.stop env.exec n w).2.db.linesOf job.runId).length = 0 := by
  obtain ⟨s, tr, hpath⟩ := (handle_conforms adapters job).path_stop env.exec n w
  have hstopped := hpath.invariant (I := fun s w => FromOne env job.runId s w.db)
    ⟨hrun, .inl ⟨hlines, .inl rfl⟩⟩
    (fun _ _ _ _ hI h => fromOne_step hI (effect_of_advances rfl h))
  rw [List.length_eq_zero_iff]
  constructor
  . intro hsurvives
    by_contra hsome
    rcases hstopped.2 with ⟨hnone, -⟩ | hfirst
    . exact hsome hnone
    . exact not_survives_of_first_line henv' hstopped.1 hfirst hsurvives
  . exact survives_of_no_lines henv' hstopped.1

end Runs

def labJob : KemJob :=
  {
    runId := 7
    mode := .groupCompat
    host := "tls-good"
    port := 443
    kemGroups := ["X25519MLKEM768"]
  }

def labRegistry : AdapterRegistry :=
  .single "openssl" "http://adapter-openssl:9100"

def labEnv : Env :=
  {
    now := 0
    fetchCapabilities := fun _ _ => .error "connection refused"
    postProbe := fun _ _ _ => .report { ProbeResponse.failure "openssl" .complete "" with
      handshakeSuccess := true
      errorSummary := none }
  }

def labWorld : World :=
  { db := { kemRuns := [{ id := 7 }] } }

theorem labEnv_faultless : labEnv.Faultless :=
  fun _ => rfl

theorem survives_lab
    : Survives labRegistry labEnv labJob ((handle labRegistry labJob).run.stop labEnv.exec 2 labWorld).2 :=
  (survives_iff labEnv_faultless List.mem_cons_self rfl 2).mpr rfl

/--
The first handler stops after two lines. The second one is refused its first line and then the line
about that failure, and leaves the run on `running`.
-/
theorem not_survives_two_lines
    : ¬ Survives labRegistry labEnv labJob
          ((handle labRegistry labJob).run.stop labEnv.exec 6 labWorld).2
        ∧
      ((((handle labRegistry labJob).eval labEnv
          ((handle labRegistry labJob).run.stop labEnv.exec 6 labWorld).2).2.db.kemRun? 7).map
            KemRunRow.status) = some .running := by
  constructor
  . apply not_survives_of_first_line labEnv_faultless
    . exact List.mem_cons_self
    . exact ⟨_, List.mem_cons_self, rfl⟩
  . rfl

end kem

end PqCas
