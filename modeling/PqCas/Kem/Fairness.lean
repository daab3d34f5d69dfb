import PqCas.Kem.Priority

/-!
Which cells a run of the compatibility matrix leaves behind, and whether their verdicts are what is
documented: `unsupported` when the capabilities never listed the KEM, and otherwise the raw outcome of
the handshake, which is also what `probe::handle` falls back to.
-/

namespace PqCas

def KemMatrixCellRow.primaryKey (row : KemMatrixCellRow) : Uuid × String × String :=
  (row.runId, row.kem, row.adapter)

def Db.cellsAt (db : Db) (runId : Uuid) (kem adapter : String) : List KemMatrixCellRow :=
  db.kemMatrixCells.filter (fun row => row.primaryKey = (runId, kem, adapter))

namespace kem

def matrix : List Cell :=
  MATRIX_KEMS ×ˢ MATRIX_ADAPTERS

section

variable (adapters : AdapterRegistry) (env : Env) (job : KemJob)

def cellResponse (w : World) (kem adapter : String) : ProbeResponse :=
  adapters.probeOutcome env ((adapters.capabilities adapter).eval env w).2 adapter
    (requestFor job [kem])

def cellVerdict (w : World) (kem adapter : String) : ResultStatus :=
  if !adapters.isConfigured adapter then
    .disabled
  else
    match adapters.capabilitiesOutcome env w adapter with
    | .error _ => .unsupported
    | .ok caps =>
      if !caps.kemGroups.any (fun g => Text.eqIgnoreAsciiCase g kem) then
        .unsupported
      else if (cellResponse adapters env job w kem adapter).handshakeSuccess then
        .passed
      else
        .failed

def visits (visited : List Cell) : ConsoleM Unit := do
  Console.log "info" s!"=== run_library_compat ({job.host}:{job.port}) ==="
  visited.forM fun cell => libraryCell adapters job cell.1 cell.2

def worldAfter (visited : List Cell) (console : Console) (w : World) : World :=
  ((visits adapters job visited).eval env console w).2.2

structure FairCell (w : World) (kem adapter : String) (verdict : ResultStatus) : Prop where
  disabled : verdict = .disabled ↔ adapters.isConfigured adapter = false
  unsupported : verdict = .unsupported →
    ∃ caps, adapters.capabilitiesOutcome env w adapter = .ok caps
      ∧ ∀ g ∈ caps.kemGroups, Text.eqIgnoreAsciiCase g kem = false
  otherwise : verdict ≠ .disabled → verdict ≠ .unsupported →
    verdict = (if (cellResponse adapters env job w kem adapter).handshakeSuccess then .passed else .failed)
      ∧ ∀ probeJob e,
        verdict = probe.verdict probeJob (cellResponse adapters env job w kem adapter) (.error e)

def FairMatrix (console : Console) (w : World) (db : Db) : Prop :=
  ∀ visited kem adapter rest, matrix = visited ++ (kem, adapter) :: rest →
    ∃ verdict detail,
      db.cellsAt console.runId kem adapter = [⟨console.runId, kem, adapter, verdict, detail⟩]
        ∧ FairCell adapters env job (worldAfter adapters env job visited console w) kem adapter verdict

end

section Step

variable {adapters : AdapterRegistry} {env : Env} {job : KemJob}
variable {console console' : Console} {w w' : World}

theorem db_of_eval_publishEvent {channel : Channel} {event : Event} {r : Except Err Unit}
    (h : (publishEvent channel event).eval env w = (r, w')) : w'.db = w.db := by
  rw [eval_publishEvent] at h
  split at h <;> cases h <;> rfl

theorem eval_log_ok {level message : String}
    (h : (Console.log level message).eval env console w = (.ok (), console', w'))
    : console'.runId = console.runId ∧ w'.db.kemMatrixCells = w.db.kemMatrixCells := by
  unfold Console.log at h
  obtain ⟨time, _, _, htime, h⟩ := ConsoleM.eval_bind_ok h
  rw [ConsoleM.eval_ofWorker, Console.eval_utcNow] at htime
  cases htime
  obtain ⟨counted, _, _, hnext, h⟩ := ConsoleM.eval_bind_ok h
  rw [Console.eval_next] at hnext
  cases hnext
  dsimp only at h
  obtain ⟨_, _, w₁, hinsert, h⟩ := ConsoleM.eval_bind_ok h
  obtain ⟨rfl, hinserted⟩ := ConsoleM.eval_ofWorker_ok hinsert
  rw [Console.eval_insertLine] at hinserted
  obtain ⟨db, hdb, rfl⟩ := Env.statement_ok hinserted
  obtain ⟨rfl, hpublish⟩ := ConsoleM.eval_ofWorker_ok h
  refine ⟨rfl, ?_⟩
  rw [db_of_eval_publishEvent hpublish]
  unfold Db.insertKemLog at hdb
  split at hdb
  . cases hdb
  . split at hdb <;> cases hdb
    rfl

theorem eval_cell_ok {kem adapter : String} {verdict : ResultStatus} {detail : Option String}
    (h : (Console.cell kem adapter verdict detail).eval env console w = (.ok (), console', w'))
    : console'.runId = console.runId
        ∧ w'.db.kemMatrixCells
            = Table.upsert KemMatrixCellRow.primaryKey w.db.kemMatrixCells
                ⟨console.runId, kem, adapter, verdict, detail⟩ := by
  unfold Console.cell at h
  obtain ⟨_, _, _, hcurrent, h⟩ := ConsoleM.eval_bind_ok h
  cases hcurrent
  obtain ⟨_, _, w₁, hupsert, h⟩ := ConsoleM.eval_bind_ok h
  obtain ⟨rfl, hupserted⟩ := ConsoleM.eval_ofWorker_ok hupsert
  obtain ⟨db, hdb, rfl⟩ := Env.statement_ok hupserted
  obtain ⟨rfl, hpublish⟩ := ConsoleM.eval_ofWorker_ok h
  refine ⟨rfl, ?_⟩
  rw [db_of_eval_publishEvent hpublish]
  unfold Db.upsertKemCell at hdb
  split at hdb <;> cases hdb
  rfl

theorem eval_supported_ok {kem adapter : String} {b : Bool}
    (h : (supported adapters kem adapter).eval env console w = (.ok b, console', w'))
    : console'.runId = console.runId ∧ w'.db.kemMatrixCells = w.db.kemMatrixCells
        ∧ match adapters.capabilitiesOutcome env w adapter with
          | .error _ => b = false
          | .ok caps => b = caps.kemGroups.any (fun g => Text.eqIgnoreAsciiCase g kem)
              ∧ w' = ((adapters.capabilities adapter).eval env w).2 := by
  unfold supported at h
  rw [ConsoleM.eval_bind, ConsoleM.eval_outcome, ConsoleM.eval_ofWorker] at h
  obtain ⟨cache, calls, hcaps⟩ := adapters.eval_capabilities env w adapter
  rw [hcaps] at h ⊢
  dsimp only at h
  cases hout : adapters.capabilitiesOutcome env w adapter with
  | error e =>
    rw [hout] at h
    obtain ⟨_, console₁, w₁, hlog, h⟩ := ConsoleM.eval_bind_ok h
    cases h
    obtain ⟨hrun, hcells⟩ := eval_log_ok hlog
    exact ⟨hrun, hcells, rfl⟩
  | ok caps =>
    rw [hout] at h
    cases h
    exact ⟨rfl, rfl, rfl, rfl⟩

theorem libraryCell_ok {kem adapter : String}
    (h : (libraryCell adapters job kem adapter).eval env console w = (.ok (), console', w'))
    : console'.runId = console.runId
        ∧ ∃ detail, w'.db.kemMatrixCells
            = Table.upsert KemMatrixCellRow.primaryKey w.db.kemMatrixCells
                ⟨console.runId, kem, adapter, cellVerdict adapters env job w kem adapter, detail⟩ := by
  unfold libraryCell at h
  unfold cellVerdict
  cases hconf : adapters.isConfigured adapter with
  | false =>
    rw [hconf] at h
    obtain ⟨hrun, hcells⟩ := eval_cell_ok h
    exact ⟨hrun, none, hcells⟩
  | true =>
    rw [hconf] at h
    obtain ⟨able, console₁, w₁, hable, h⟩ := ConsoleM.eval_bind_ok h
    obtain ⟨hrun₁, hcells₁, hable⟩ := eval_supported_ok hable
    cases able with
    | false =>
      obtain ⟨hrun₂, hcells₂⟩ := eval_cell_ok h
      refine ⟨hrun₂.trans hrun₁, none, ?_⟩
      rw [hcells₂, hcells₁, hrun₁]
      split at hable
      . rfl
      . rw [← hable.1]
        rfl
    | true =>
      split at hable
      . cases hable
      . next caps _ =>
        obtain ⟨hlisted, rfl⟩ := hable
        obtain ⟨response, console₂, w₂, hprobe, h⟩ := ConsoleM.eval_bind_ok h
        rw [eval_probe hconf] at hprobe
        cases hprobe
        obtain ⟨_, console₃, w₃, hcell, h⟩ := ConsoleM.eval_bind_ok h
        obtain ⟨hrun₃, hcells₃⟩ := eval_cell_ok hcell
        obtain ⟨hrun₄, hcells₄⟩ := eval_log_ok h
        refine ⟨hrun₄.trans (hrun₃.trans hrun₁),
          (cellResponse adapters env job w kem adapter).errorSummary, ?_⟩
        rw [hcells₄, hcells₃]
        dsimp only
        rw [hcells₁, hrun₁, ← hlisted]
        rfl

theorem forM_libraryCell_ok {cells : List Cell} (hcells : cells.Nodup)
    (hkeys : (w.db.kemMatrixCells.map KemMatrixCellRow.primaryKey).Nodup)
    (h : (cells.forM fun cell => libraryCell adapters job cell.1 cell.2).eval env console w
      = (.ok (), console', w'))
    : console'.runId = console.runId
        ∧ (w'.db.kemMatrixCells.map KemMatrixCellRow.primaryKey).Nodup
        ∧ ∀ visited kem adapter rest, cells = visited ++ (kem, adapter) :: rest →
          ∃ detail, w'.db.cellsAt console.runId kem adapter
            = [⟨console.runId, kem, adapter,
                cellVerdict adapters env job
                  ((visited.forM fun cell => libraryCell adapters job cell.1 cell.2).eval env console
                    w).2.2 kem adapter, detail⟩] := by
  induction cells using List.reverseRecOn generalizing console' w' with
  | nil =>
    cases h
    refine ⟨rfl, hkeys, ?_⟩
    intro visited kem adapter rest hsplit
    simp at hsplit
  | append_singleton cells cell ih =>
    rw [List.nodup_append] at hcells
    obtain ⟨hbefore, -, hnew⟩ := hcells
    rw [ConsoleM.eval_forM_append] at h
    obtain ⟨_, console₁, w₁, heval, hcell⟩ := ConsoleM.eval_bind_ok h
    rw [ConsoleM.eval_forM_singleton] at hcell
    obtain ⟨hrun₁, hkeys₁, hrows⟩ := ih hbefore heval
    obtain ⟨hrun₂, detail, hupsert⟩ := libraryCell_ok hcell
    refine ⟨hrun₂.trans hrun₁, hupsert ▸ Table.nodup_upsert hkeys₁, ?_⟩
    intro visited kem adapter rest hsplit
    unfold Db.cellsAt at hrows ⊢
    rw [hupsert, hrun₁]
    cases rest using List.reverseRecOn with
    | nil =>
      -- the last cell
      obtain ⟨rfl, hlast⟩ := List.append_inj' hsplit rfl
      cases hlast
      refine ⟨detail, ?_⟩
      rw [heval]
      exact Table.filter_upsert_self
        ⟨console.runId, kem, adapter, cellVerdict adapters env job w₁ kem adapter, detail⟩ hkeys₁
    | append_singleton rest last =>
      rw [← List.cons_append, ← List.append_assoc] at hsplit
      obtain ⟨hcells, hlast⟩ := List.append_inj' hsplit rfl
      have hne : (kem, adapter) ≠ cell :=
        hnew (kem, adapter) (by simp [hcells]) cell List.mem_cons_self
      rw [Table.filter_upsert_ne]
      . exact hrows visited kem adapter rest hcells
      . intro hkey
        apply hne
        exact (Prod.mk.inj hkey).2

theorem nodup_matrix : matrix.Nodup := by
  decide

theorem eval_libraryCompat_ok
    (h : (libraryCompat adapters job).eval env console w = (.ok (), console', w'))
    : ∃ console₁ w₁ console₂ w₂,
        (Console.log "info" s!"=== run_library_compat ({job.host}:{job.port}) ===").eval env console w
            = (.ok (), console₁, w₁)
          ∧ (matrix.forM fun cell => libraryCell adapters job cell.1 cell.2).eval env console₁ w₁
            = (.ok (), console₂, w₂)
          ∧ (Console.log "result" "Result: compatibility matrix complete").eval env console₂ w₂
            = (.ok (), console', w') := by
  unfold libraryCompat at h
  obtain ⟨_, console₁, w₁, hbanner, h⟩ := ConsoleM.eval_bind_ok h
  obtain ⟨_, console₂, w₂, hloop, hend⟩ := ConsoleM.eval_bind_ok h
  rw [ConsoleM.eval_forM_product] at hloop
  exact ⟨console₁, w₁, console₂, w₂, hbanner, hloop, hend⟩

theorem libraryCompat_cellsAt
    (hkeys : (w.db.kemMatrixCells.map KemMatrixCellRow.primaryKey).Nodup)
    (h : (libraryCompat adapters job).eval env console w = (.ok (), console', w'))
    {visited rest : List Cell} {kem adapter : String} (hsplit : matrix = visited ++ (kem, adapter) :: rest)
    : ∃ detail, w'.db.cellsAt console.runId kem adapter
        = [⟨console.runId, kem, adapter,
            cellVerdict adapters env job (worldAfter adapters env job visited console w) kem adapter,
            detail⟩] := by
  obtain ⟨console₁, w₁, console₂, w₂, hbanner, hloop, hend⟩ := eval_libraryCompat_ok h
  obtain ⟨hrun₁, hcells₁⟩ := eval_log_ok hbanner
  obtain ⟨-, -, hrows⟩ := forM_libraryCell_ok nodup_matrix (hcells₁ ▸ hkeys) hloop
  obtain ⟨-, hcells₃⟩ := eval_log_ok hend
  have hworld : worldAfter adapters env job visited console w
      = ((visited.forM fun cell => libraryCell adapters job cell.1 cell.2).eval env console₁ w₁).2.2 := by
    unfold worldAfter visits
    rw [ConsoleM.eval_bind, hbanner]
  obtain ⟨detail, hrow⟩ := hrows visited kem adapter rest hsplit
  rw [hrun₁] at hrow
  refine ⟨detail, ?_⟩
  rw [hworld, ← hrow]
  unfold Db.cellsAt
  rw [hcells₃]

theorem fairCell_cellVerdict_iff (w : World) (kem adapter : String)
    : FairCell adapters env job w kem adapter (cellVerdict adapters env job w kem adapter)
        ↔
      (adapters.isConfigured adapter = true →
        ∃ caps, adapters.capabilitiesOutcome env w adapter = .ok caps) := by
  unfold cellVerdict
  cases hconf : adapters.isConfigured adapter with
  | false =>
    simp only [Bool.not_false, ↓reduceIte, Bool.false_eq_true, false_implies, iff_true]
    exact ⟨by simp [hconf], by simp, by simp⟩
  | true =>
    simp only [Bool.not_true, Bool.false_eq_true, ↓reduceIte, true_implies]
    cases hcaps : adapters.capabilitiesOutcome env w adapter with
    | error e =>
      simp only [reduceCtorEq, exists_false, iff_false]
      intro h
      obtain ⟨caps, hok, -⟩ := h.unsupported rfl
      rw [hcaps] at hok
      cases hok
    | ok caps =>
      simp only [Except.ok.injEq, exists_eq', iff_true]
      split
      . next hnone =>
        refine ⟨by simp [hconf], fun _ => ⟨caps, hcaps, ?_⟩, by simp⟩
        rw [Bool.not_eq_true'] at hnone
        intro g hg
        have := List.any_eq_false.mp hnone g hg
        rwa [Bool.not_eq_true] at this
      . refine ⟨?_, ?_, fun _ _ => ⟨rfl, fun _ _ => rfl⟩⟩
        . rw [hconf]
          split <;> simp
        . split <;> simp

/--
The matrix is complete, and it is fair exactly when every request for the capabilities of a configured
adapter succeeds: a column whose capabilities are unavailable is taken for one that cannot do the KEM.
-/
theorem libraryCompat_fair_iff
    (hkeys : (w.db.kemMatrixCells.map KemMatrixCellRow.primaryKey).Nodup)
    (h : (libraryCompat adapters job).eval env console w = (.ok (), console', w'))
    : FairMatrix adapters env job console w w'.db
        ↔
      ∀ visited kem adapter rest, matrix = visited ++ (kem, adapter) :: rest →
        adapters.isConfigured adapter = true →
          ∃ caps, adapters.capabilitiesOutcome env (worldAfter adapters env job visited console w) adapter
            = .ok caps := by
  unfold FairMatrix
  apply forall_congr'
  intro visited
  apply forall_congr'
  intro kem
  apply forall_congr'
  intro adapter
  apply forall_congr'
  intro rest
  apply forall_congr'
  intro hsplit
  obtain ⟨detail, hrow⟩ := libraryCompat_cellsAt hkeys h hsplit
  rw [hrow, ← fairCell_cellVerdict_iff]
  constructor
  . rintro ⟨verdict, detail', hrow', hfair⟩
    cases hrow'
    exact hfair
  . intro hfair
    exact ⟨_, detail, rfl, hfair⟩

end Step

namespace fairnessLab

def env : Env :=
  { labEnv with
    fetchCapabilities := fun _ _ => .ok ⟨"openssl", "3.5.0", ["X25519MLKEM768"], ["mldsa65"], ["TLSv1.3"]⟩ }

def finalDb (env : Env) : Db :=
  ((libraryCompat labRegistry labJob).eval env ⟨labJob.runId, 0⟩ labWorld).2.2.db

theorem nodup_labWorld : (labWorld.db.kemMatrixCells.map KemMatrixCellRow.primaryKey).Nodup :=
  List.nodup_nil

theorem libraryCompat_fair_lab
    : FairMatrix labRegistry env labJob ⟨labJob.runId, 0⟩ labWorld (finalDb env) := by
  have hok : (libraryCompat labRegistry labJob).eval env ⟨labJob.runId, 0⟩ labWorld
      = (.ok (), _, _) := rfl
  apply (libraryCompat_fair_iff nodup_labWorld hok).mpr
  intro visited kem adapter rest hsplit hconf
  unfold AdapterRegistry.capabilitiesOutcome
  cases (worldAfter labRegistry env labJob visited ⟨labJob.runId, 0⟩ labWorld).cache.lookup adapter with
  | some caps => exact ⟨caps, rfl⟩
  | none =>
    unfold AdapterRegistry.isConfigured at hconf
    obtain ⟨base, hbase⟩ := Option.isSome_iff_exists.mp hconf
    rw [hbase]
    exact ⟨_, rfl⟩

/--
The only adapter does not say what it can do. Its handshakes would succeed, and its whole column is
`unsupported`.
-/
theorem libraryCompat_unfair
    : ((libraryCompat labRegistry labJob).eval labEnv ⟨labJob.runId, 0⟩ labWorld).1 = .ok ()
        ∧ ¬ FairMatrix labRegistry labEnv labJob ⟨labJob.runId, 0⟩ labWorld (finalDb labEnv) := by
  refine ⟨rfl, ?_⟩
  intro h
  have hsplit : matrix = [] ++ ("MLKEM1024", "openssl") :: matrix.tail := rfl
  have hok : (libraryCompat labRegistry labJob).eval labEnv ⟨labJob.runId, 0⟩ labWorld
      = (.ok (), _, _) := rfl
  obtain ⟨detail, hcell⟩ := libraryCompat_cellsAt nodup_labWorld hok hsplit
  obtain ⟨verdict, detail', hrow, hfair⟩ := h [] "MLKEM1024" "openssl" matrix.tail hsplit
  cases hcell.symm.trans hrow
  obtain ⟨caps, hcaps⟩ := (fairCell_cellVerdict_iff _ _ _).mp hfair rfl
  cases hcaps

end fairnessLab

end kem

end PqCas
