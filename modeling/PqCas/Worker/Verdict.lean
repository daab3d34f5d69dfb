import PqCas.Worker.Probe

/-!
Which result status `probe::handle` leaves on a subtask row, compared with the rule the README gives
for a matrix cell: `unsupported` when the stack never advertised the algorithm, `disabled` when the
deployment does not run the adapter at all.
-/

namespace PqCas

namespace probe

variable (adapters : AdapterRegistry) (env : Env) (w : World) (job : ProbeJob)

def persisted : Option ResultStatus :=
  (((handle adapters job).eval env w).2.db.subtask? job.subtaskId).map SubtaskRow.resultStatus

def Unadvertised (capabilities : Capabilities) : Prop :=
  advertised capabilities.kemGroups job.groupName = false
    ∨ advertised capabilities.sigAlgs job.sigAlg = false

structure VerdictRule (r : ResultStatus) : Prop where
  disabled : r = .disabled ↔ adapters.isConfigured job.adapter = false
  unsupported : adapters.isConfigured job.adapter = true →
    ∀ capabilities, outcome adapters env w job = .ok capabilities →
      (r = .unsupported ↔ Unadvertised job capabilities)
  otherwise : adapters.isConfigured job.adapter = true →
    (∀ capabilities, outcome adapters env w job = .ok capabilities → ¬ Unadvertised job capabilities) →
      (r = .passed ↔ (response adapters env w job).handshakeSuccess = true)
        ∧ (r = .failed ↔ (response adapters env w job).handshakeSuccess = false)
  neverAdvertised : adapters.isConfigured job.adapter = true →
    ∀ capabilities, outcome adapters env w job = .ok capabilities → Unadvertised job capabilities →
      r ≠ .passed ∧ r ≠ .failed

def BothOrNeither (capabilities : Capabilities) : Prop :=
  (advertised capabilities.kemGroups job.groupName = true
    ∧ advertised capabilities.sigAlgs job.sigAlg = true)
  ∨ NoneAdvertised [job.groupName, job.sigAlg] capabilities

variable {env w job}

theorem persisted_eq (henv : env.Faultless) {row : SubtaskRow}
    (hrow : w.db.subtask? job.subtaskId = some row)
    : persisted adapters env w job
        =
      some (if adapters.isConfigured job.adapter then result adapters env w job else .failed) := by
  have hfinish : ∀ db, (finishDb env job db).subtask? job.subtaskId = db.subtask? job.subtaskId := by
    intro db
    unfold finishDb
    dsimp
    split <;> rfl
  have hrunning : ((w.db.markTestRunning env.now job.testId).markSubtaskRunning env.now
      job.subtaskId).subtask? job.subtaskId = some (row.start env.now) := by
    rw [Db.subtask?_markSubtaskRunning, Db.subtask?_markTestRunning, hrow]
    rfl
  unfold persisted
  rw [eval_handle_db]
  simp only [henv _, terminalWrite, henv.saveFailure]
  cases hconf : adapters.isConfigured job.adapter with
  | false =>
    simp only [Bool.false_eq_true, ↓reduceIte]
    rw [hfinish, Db.subtask?_markSubtaskError, hrunning]
    rfl
  | true =>
    obtain ⟨db', hsave, -, -, hsub⟩ := Db.saveReport_of_subtask? env.now hrunning
      (result adapters env w job) (response adapters env w job)
    simp only [↓reduceIte, hsave]
    rw [hfinish, hsub]
    rfl

theorem raw_ne (b : Bool)
    : (if b then ResultStatus.passed else .failed) ≠ .disabled
        ∧ (if b then ResultStatus.passed else .failed) ≠ .unsupported
        ∧ ((if b then ResultStatus.passed else .failed) = .passed ↔ b = true)
        ∧ ((if b then ResultStatus.passed else .failed) = .failed ↔ b = false) := by
  cases b <;> decide

theorem verdictRule_of_error {e : Err} (hconf : adapters.isConfigured job.adapter = true)
    (hout : outcome adapters env w job = .error e)
    : VerdictRule adapters env w job (result adapters env w job) := by
  obtain ⟨hdis, -, hpass, hfail⟩ := raw_ne (response adapters env w job).handshakeSuccess
  unfold result verdict
  rw [hout]
  constructor
  . simp [hdis, hconf]
  . simp [hout]
  . exact fun _ _ => ⟨hpass, hfail⟩
  . simp [hout]

theorem verdictRule_of_ok {capabilities : Capabilities}
    (hconf : adapters.isConfigured job.adapter = true)
    (hout : outcome adapters env w job = .ok capabilities)
    : VerdictRule adapters env w job (result adapters env w job) ↔ BothOrNeither job capabilities := by
  have hresult : result adapters env w job
      = classify (response adapters env w job) [job.groupName, job.sigAlg] capabilities := by
    unfold result verdict
    rw [hout]
  by_cases hnone : NoneAdvertised [job.groupName, job.sigAlg] capabilities
  . -- Nothing is advertised: the code and the rule say `unsupported`.
    have hun : Unadvertised job capabilities := .inl (hnone job.groupName (by simp)).1
    rw [hresult, classify_of_noneAdvertised hnone]
    simp only [BothOrNeither, hnone, or_true, iff_true]
    constructor
    . simp [hconf]
    . intro _ c hc
      cases hout.symm.trans hc
      simp [hun]
    . intro _ h
      exact absurd hun (h _ hout)
    . simp
  . -- Something is advertised: the code looks at the handshake, the rule wants both of them.
    obtain ⟨hdis, huns, hpass, hfail⟩ := raw_ne (response adapters env w job).handshakeSuccess
    rw [hresult, classify_of_not_noneAdvertised hnone]
    simp only [BothOrNeither, hnone, or_false]
    constructor
    . intro h
      have hun : ¬ Unadvertised job capabilities := fun hun => huns ((h.unsupported hconf _ hout).mpr hun)
      simpa [Unadvertised] using hun
    . rintro ⟨hgroup, hsig⟩
      have hun : ¬ Unadvertised job capabilities := by simp [Unadvertised, hgroup, hsig]
      constructor
      . simp [hdis, hconf]
      . intro _ c hc
        cases hout.symm.trans hc
        simp [huns, hun]
      . exact fun _ _ => ⟨hpass, hfail⟩
      . intro _ c hc h
        cases hout.symm.trans hc
        exact absurd h hun

/--
The persisted verdict obeys the documented rule exactly when the adapter is configured and its
capabilities, if they were fetched, name both algorithms of the cell or none of them: the disabled
path stores `failed`, and one known algorithm of two is taken for both.
-/
theorem persisted_verdictRule_iff (henv : env.Faultless) {row : SubtaskRow}
    (hrow : w.db.subtask? job.subtaskId = some row)
    : (∃ r, persisted adapters env w job = some r ∧ VerdictRule adapters env w job r)
        ↔
      adapters.isConfigured job.adapter = true
        ∧ ∀ capabilities, outcome adapters env w job = .ok capabilities →
            BothOrNeither job capabilities := by
  rw [persisted_eq adapters henv hrow]
  simp only [Option.some.injEq, exists_eq_left']
  cases hconf : adapters.isConfigured job.adapter with
  | false =>
    simp only [Bool.false_eq_true, ↓reduceIte, false_and, iff_false]
    intro h
    cases h.disabled.mpr hconf
  | true =>
    simp only [↓reduceIte, true_and]
    cases hout : outcome adapters env w job with
    | error e => simp [verdictRule_of_error adapters hconf hout]
    | ok c => simp [verdictRule_of_ok adapters hconf hout]

def labRegistry : AdapterRegistry :=
  .single "openssl" "http://adapter-openssl:9100"

def labEnv : Env :=
  {
    now := 0
    fetchCapabilities := fun _ _ => .ok ⟨"openssl", "3.5.0", ["X25519MLKEM768"], ["mldsa65"], ["TLSv1.3"]⟩
    postProbe := fun _ _ _ => .report { ProbeResponse.failure "openssl" .complete "" with
      handshakeSuccess := true
      errorSummary := none }
  }

def labWorld : World :=
  {
    db := {
      tests := [{ id := 1 }]
      subtasks := [{ id := 2, testId := 1, ordinal := 0, groupName := "", sigAlg := "" }]
    }
  }

def labJob (groupName sigAlg : String) : ProbeJob :=
  {
    testId := 1
    subtaskId := 2
    host := "tls-good"
    port := 443
    httpPath := "/"
    adapter := "openssl"
    groupName := groupName
    sigAlg := sigAlg
    timeoutMs := 15000
  }

theorem labEnv_faultless : labEnv.Faultless :=
  fun _ => rfl

theorem persisted_verdictRule_lab
    : ∃ r, persisted labRegistry labEnv labWorld (labJob "x25519mlkem768" "mldsa65") = some r
        ∧ VerdictRule labRegistry labEnv labWorld (labJob "x25519mlkem768" "mldsa65") r := by
  refine (persisted_verdictRule_iff labRegistry labEnv_faultless rfl).mpr ⟨rfl, ?_⟩
  intro c hc
  cases hc
  exact .inl ⟨rfl, rfl⟩

/--
The stack knows the group but not the signature algorithm, and the cell is stored as `passed`.
-/
theorem persisted_passed_of_unknown_sigAlg
    : labEnv.Faultless
        ∧ persisted labRegistry labEnv labWorld (labJob "X25519MLKEM768" "slhdsa128s") = some .passed
        ∧ ¬ VerdictRule labRegistry labEnv labWorld (labJob "X25519MLKEM768" "slhdsa128s") .passed := by
  refine ⟨labEnv_faultless, rfl, ?_⟩
  intro h
  exact (h.neverAdvertised rfl _ rfl (.inr rfl)).1 rfl

end probe

end PqCas
