import PqCas.Kem.Logic

/-!
The protocol of a KEM handler: it numbers its console lines from one and ends by finishing the run,
unless a step fails.
-/

namespace PqCas

namespace kem

structure Progress where
  /-- The number of the last line it tried to insert. -/
  seq : Int
  /-- A step failed. -/
  failed : Bool
  /-- The insert of a line was among the steps that failed. -/
  refused : Bool
  /-- The final status is on the row of the run. -/
  finished : Bool
  deriving DecidableEq, Repr

namespace Progress

def zero : Progress := ⟨0, false, false, false⟩

end Progress

/--
`Advances runId s op r s'`: a handler of the run may perform `op` when it has got to `s`, and the
reply `r` takes it to `s'`.
-/
inductive Advances (runId : Uuid) : Progress → (op : Op) → op.Reply → Progress → Prop where
  | start {s : Progress} (hs : s = .zero)
    : Advances runId s (.startKemRun runId) (Except.ok ()) s
  | startFails {s : Progress} (e : Err)
    : Advances runId s (.startKemRun runId) (Except.error e) { s with failed := true }
  | line {s : Progress} {row : KemRunLogRow} (hrun : row.runId = runId) (hseq : row.seq = s.seq + 1)
    : Advances runId s (.insertKemLog row) (Except.ok ()) { s with seq := s.seq + 1 }
  | lineFails {s : Progress} {row : KemRunLogRow} (hrun : row.runId = runId)
      (hseq : row.seq = s.seq + 1) (e : Err)
    : Advances runId s (.insertKemLog row) (Except.error e)
        { s with seq := s.seq + 1, failed := true, refused := true }
  | cell {s : Progress} {row : KemMatrixCellRow} (hrun : row.runId = runId)
    : Advances runId s (.upsertKemCell row) (Except.ok ()) s
  | cellFails {s : Progress} {row : KemMatrixCellRow} (hrun : row.runId = runId) (e : Err)
    : Advances runId s (.upsertKemCell row) (Except.error e) { s with failed := true }
  | publish {s : Progress} {channel : Channel} {event : Event}
    : Advances runId s (.publish channel event) (Except.ok ()) s
  | publishFails {s : Progress} {channel : Channel} {event : Event} (e : Err)
    : Advances runId s (.publish channel event) (Except.error e) { s with failed := true }
  | finish {s : Progress} {status : TaskStatus} (hstatus : status.closed = true)
    : Advances runId s (.finishKemRun runId status) (Except.ok ()) { s with finished := true }
  | finishFails {s : Progress} {status : TaskStatus} (e : Err)
    : Advances runId s (.finishKemRun runId status) (Except.error e) { s with failed := true }
  | now {s : Progress} {time : Time}
    : Advances runId s .utcNow time s
  | call {s : Progress} {op : Op} {r : op.Reply} (hop : op.isCall = true)
    : Advances runId s op r s

section Numbered

variable {α β : Type} {runId : Uuid}

/--
Console code that numbers its lines one after the other, leaves the status of the run alone, and has
tried to insert at least `k` lines when it returns without an error.
-/
def Numbered (runId : Uuid) (k : Nat) (m : ConsoleM α) : Prop :=
  ∀ s : Progress, s.finished = false →
    (m.run.run ⟨runId, s.seq⟩).Conforms (Advances runId)
      (fun r s' =>
        r.2 = ⟨runId, s'.seq⟩ ∧ s'.finished = false ∧ s.seq ≤ s'.seq
          ∧ (r.1.isOk = true → s.seq + k ≤ s'.seq)) s

namespace Numbered

theorem pure (a : α) : Numbered runId 0 (Pure.pure a : ConsoleM α) :=
  fun _ hs => ⟨rfl, hs, Int.le_refl _, fun _ => by simp⟩

theorem throw (k : Nat) (e : Err) : Numbered runId k (throw e : ConsoleM α) :=
  fun _ hs => ⟨rfl, hs, Int.le_refl _, fun h => by cases h⟩

theorem bind {k k' : Nat} {m : ConsoleM α} {f : α → ConsoleM β} (hm : Numbered runId k m)
    (hf : ∀ a, Numbered runId k' (f a)) : Numbered runId (k + k') (m >>= f) := by
  intro s hs
  have hrun : (m >>= f).run.run ⟨runId, s.seq⟩
      = m.run.run ⟨runId, s.seq⟩ >>= fun r => (ExceptT.bindCont f r.1).run r.2 := rfl
  rw [hrun]
  apply Prog.Conforms.bind
  apply Prog.Conforms.mono (hm s hs)
  rintro ⟨r, console⟩ s' ⟨rfl, hs', hle, hok⟩
  cases r with
  | error e => exact ⟨rfl, hs', hle, fun h => by cases h⟩
  | ok a =>
    apply Prog.Conforms.mono (hf a s' hs')
    rintro ⟨r, console⟩ s'' ⟨rfl, hs'', hle', hok'⟩
    refine ⟨rfl, hs'', by omega, ?_⟩
    intro h
    have := hok rfl
    have := hok' h
    push_cast
    omega

theorem mono {k k' : Nat} {m : ConsoleM α} (h : Numbered runId k m) (hle : k' ≤ k)
    : Numbered runId k' m := by
  intro s hs
  apply Prog.Conforms.mono (h s hs)
  rintro r s' ⟨hconsole, hs', hseq, hok⟩
  refine ⟨hconsole, hs', hseq, ?_⟩
  intro hr
  have := hok hr
  omega

theorem bind_right {k : Nat} {m : ConsoleM α} {f : α → ConsoleM β} (hm : Numbered runId 0 m)
    (hf : ∀ a, Numbered runId k (f a)) : Numbered runId k (m >>= f) :=
  Nat.zero_add k ▸ bind hm hf

theorem bind_left {k : Nat} {m : ConsoleM α} {f : α → ConsoleM β} (hm : Numbered runId k m)
    (hf : ∀ a, Numbered runId 0 (f a)) : Numbered runId k (m >>= f) :=
  bind hm hf

theorem outcome {k : Nat} {m : ConsoleM α} (h : Numbered runId k m)
    : Numbered runId 0 (ConsoleM.outcome m) := by
  intro s hs
  apply Prog.Conforms.bind
  apply Prog.Conforms.mono (h s hs)
  rintro ⟨r, console⟩ s' ⟨rfl, hs', hseq, -⟩
  exact ⟨rfl, hs', hseq, fun _ => by simpa using hseq⟩

theorem ofWorker {m : WorkerM α} (h : ∀ s, m.run.Conforms (Advances runId) (fun _ s' => s' = s) s)
    : Numbered runId 0 (ConsoleM.ofWorker m) := by
  intro s hs
  apply Prog.Conforms.bind
  apply Prog.Conforms.mono (h s)
  rintro r s' rfl
  exact ⟨rfl, hs, Int.le_refl _, fun _ => by simp⟩

theorem liftExcept (r : Except Err α) : Numbered runId 0 (liftExcept r : ConsoleM α) := by
  cases r with
  | ok a => exact pure a
  | error e => exact throw 0 e

theorem log (level message : String) : Numbered runId 1 (Console.log level message) := by
  intro s hs
  refine fun (time : Time) => ⟨s, .now, ?_⟩
  refine fun (r : Except Err Unit) => ?_
  cases r with
  | error e =>
    refine ⟨_, .lineFails (by rfl) (by rfl) e, rfl, hs, ?_, fun h => by cases h⟩
    dsimp only
    omega
  | ok _ =>
    refine ⟨_, .line rfl rfl, ?_⟩
    refine fun (r : Except Err Unit) => ?_
    cases r with
    | error e => exact ⟨_, .publishFails e, rfl, hs, by dsimp only; omega, fun h => by cases h⟩
    | ok _ => exact ⟨_, .publish, rfl, hs, by dsimp only; omega, fun _ => Int.le_refl _⟩

theorem line (level message : String) : Numbered runId 0 (Console.log level message) :=
  mono (log level message) (by omega)

theorem cell (kem adapter : String) (verdict : ResultStatus) (detail : Option String)
    : Numbered runId 0 (Console.cell kem adapter verdict detail) := by
  intro s hs
  refine fun (r : Except Err Unit) => ?_
  cases r with
  | error e => exact ⟨_, .cellFails (by rfl) e, rfl, hs, Int.le_refl _, fun h => by cases h⟩
  | ok _ =>
    refine ⟨_, .cell rfl, ?_⟩
    refine fun (r : Except Err Unit) => ?_
    cases r with
    | error e => exact ⟨_, .publishFails e, rfl, hs, Int.le_refl _, fun h => by cases h⟩
    | ok _ => exact ⟨_, .publish, rfl, hs, Int.le_refl _, fun _ => by simp⟩

end Numbered

variable (runId) in
def numberedLogic : ConsoleLogic where
  Holds _ m := Numbered runId 0 m
  pure a := .pure a
  throw e := .throw 0 e
  bind hm hf _ := .bind_right hm hf
  mono hm _ := hm
  outcome hm := .outcome hm
  calls hm := .ofWorker (fun s => hm _ _ s (fun _ _ hop => .call hop))
  log level message := .line level message
  cell kem adapter verdict detail := .cell kem adapter verdict detail

theorem Numbered.runMode (adapters : AdapterRegistry) (job : KemJob)
    : Numbered runId 1 (kem.runMode adapters job) := by
  obtain ⟨rest, heq, hrest⟩ :=
    ConsoleLogic.afterBanner_runMode (L := numberedLogic runId) adapters job
  rw [heq]
  refine bind_right (liftExcept _) (fun adapter => ?_)
  refine bind_left (log _ _) (fun _ => ?_)
  exact hrest adapter

end Numbered

theorem finish_conforms {runId : Uuid} {s : Progress} {status : TaskStatus}
    (hstatus : status.closed = true)
    : ((Console.finish status).run.run ⟨runId, s.seq⟩).Conforms (Advances runId)
        (fun _ s' => (s'.finished = true ∨ s'.failed = true) ∧ s'.seq = s.seq) s := by
  refine fun (r : Except Err Unit) => ?_
  cases r with
  | error e => exact ⟨_, .finishFails e, .inr rfl, rfl⟩
  | ok _ =>
    refine ⟨_, .finish hstatus, ?_⟩
    refine fun (r : Except Err Unit) => ?_
    cases r with
    | error e => exact ⟨_, .publishFails e, .inr rfl, rfl⟩
    | ok _ => exact ⟨_, .publish, .inl rfl, rfl⟩

theorem runConsole_conforms (adapters : AdapterRegistry) (job : KemJob) {s : Progress}
    (hs : s.finished = false)
    : ((runConsole adapters job).run.run ⟨job.runId, s.seq⟩).Conforms (Advances job.runId)
        (fun _ s' => (s'.finished = true ∨ s'.failed = true) ∧ s.seq < s'.seq) s := by
  apply Prog.Conforms.bind
  apply Prog.Conforms.bind
  apply Prog.Conforms.mono (Numbered.runMode adapters job s hs)
  rintro ⟨r, console⟩ s' ⟨rfl, hs', hle, hok⟩
  cases r with
  | ok _ =>
    have hlt : s.seq + 1 ≤ s'.seq := hok rfl
    apply Prog.Conforms.mono (finish_conforms rfl)
    exact fun _ s'' ⟨hdone, hseq⟩ => ⟨hdone, by omega⟩
  | error e =>
    -- The error path logs before it finishes the run.
    refine fun (time : Time) => ⟨s', .now, ?_⟩
    refine fun (r : Except Err Unit) => ?_
    cases r with
    | error e =>
      refine ⟨_, .lineFails (by rfl) (by rfl) e, .inr rfl, ?_⟩
      dsimp only
      omega
    | ok _ =>
      refine ⟨_, .line rfl rfl, ?_⟩
      refine fun (r : Except Err Unit) => ?_
      cases r with
      | error e =>
        refine ⟨_, .publishFails e, .inr rfl, ?_⟩
        dsimp only
        omega
      | ok _ =>
        refine ⟨_, .publish, ?_⟩
        apply Prog.Conforms.mono (finish_conforms rfl)
        intro _ s'' ⟨hdone, hseq⟩
        refine ⟨hdone, ?_⟩
        dsimp only at hseq
        omega

theorem handle_conforms (adapters : AdapterRegistry) (job : KemJob)
    : (handle adapters job).run.Conforms (Advances job.runId)
        (fun _ s => (s.finished = true ∨ s.failed = true) ∧ (0 < s.seq ∨ s.failed = true))
        Progress.zero := by
  refine fun (r : Except Err Unit) => ?_
  cases r with
  | error e => exact ⟨_, .startFails e, .inr rfl, .inr rfl⟩
  | ok _ =>
    refine ⟨.zero, .start rfl, ?_⟩
    refine Prog.Conforms.bind (p := (runConsole adapters job).run.run ⟨job.runId, 0⟩) ?_
    apply Prog.Conforms.mono (runConsole_conforms adapters job (s := .zero) rfl)
    exact fun _ s ⟨hdone, hseq⟩ => ⟨hdone, .inl hseq⟩

end kem

end PqCas
