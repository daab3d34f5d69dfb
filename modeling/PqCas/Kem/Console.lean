import Mathlib.Data.List.ProdSigma
import PqCas.Worker.Probe

/-!
The streaming console of a KEM DEMO run (`Console` in `kem.rs`).
-/

namespace PqCas

namespace kem

/--
The counter starts at zero in every handler. It is an `i32`, which no console outgrows.
-/
structure Console where
  runId : Uuid
  seq : Int
  deriving DecidableEq, Repr

/--
Worker code that holds a `&mut Console`, which keeps its changes when the code fails.
-/
abbrev ConsoleM := ExceptT Err (StateT Console (Prog Op Op.Reply))

namespace ConsoleM

variable {α β : Type}

def ofWorker (m : WorkerM α) : ConsoleM α :=
  ExceptT.mk (fun console => m.run >>= fun r => .pure (r, console))

/--
Run code and hand its error to the caller instead of leaving.
-/
def outcome (m : ConsoleM α) : ConsoleM (Except Err α) :=
  ExceptT.mk (fun console => m.run.run console >>= fun (r, console) => .pure (.ok r, console))

variable (env : Env)

def eval (m : ConsoleM α) (console : Console) (w : World) : Except Err α × Console × World :=
  let r := (m.run.run console).run env.exec w
  (r.1.1, r.1.2, r.2)

@[simp]
theorem eval_pure (a : α) (console : Console) (w : World)
    : eval env (pure a : ConsoleM α) console w = (.ok a, console, w) := rfl

@[simp]
theorem eval_throw (e : Err) (console : Console) (w : World)
    : eval env (throw e : ConsoleM α) console w = (.error e, console, w) := rfl

theorem eval_bind (m : ConsoleM α) (f : α → ConsoleM β) (console : Console) (w : World)
    : eval env (m >>= f) console w
        =
      match eval env m console w with
      | (.ok a, console', w') => eval env (f a) console' w'
      | (.error e, console', w') => (.error e, console', w') := by
  have hrun : (m >>= f).run.run console
      = m.run.run console >>= fun r => (ExceptT.bindCont f r.1).run r.2 := rfl
  unfold eval
  rw [hrun, Prog.run_bind]
  rcases (m.run.run console).run env.exec w with ⟨⟨r, console'⟩, w'⟩
  cases r <;> rfl

theorem eval_bind_ok {env : Env} {m : ConsoleM α} {f : α → ConsoleM β} {b : β}
    {console console'' : Console} {w w'' : World}
    (h : eval env (m >>= f) console w = (.ok b, console'', w''))
    : ∃ a console' w', eval env m console w = (.ok a, console', w')
        ∧ eval env (f a) console' w' = (.ok b, console'', w'') := by
  rw [eval_bind] at h
  split at h
  . next a console' w' heq => exact ⟨a, console', w', heq, h⟩
  . cases h

@[simp]
theorem eval_ofWorker (m : WorkerM α) (console : Console) (w : World)
    : eval env (ofWorker m) console w = ((m.eval env w).1, console, (m.eval env w).2) := by
  have hrun : (ofWorker m).run.run console = m.run >>= fun r => .pure (r, console) := rfl
  unfold eval
  rw [hrun, Prog.run_bind]
  rfl

theorem forM_cons {ι : Type} (f : ι → ConsoleM Unit) (i : ι) (is : List ι)
    : (i :: is).forM f = f i >>= fun _ => is.forM f := rfl

theorem eval_forM_singleton {ι : Type} (f : ι → ConsoleM Unit) (i : ι) (console : Console) (w : World)
    : eval env ([i].forM f) console w = eval env (f i) console w := by
  rw [forM_cons, eval_bind]
  rcases eval env (f i) console w with ⟨r, console', w'⟩
  cases r <;> rfl

theorem eval_forM_append {ι : Type} (f : ι → ConsoleM Unit) (is js : List ι) (console : Console)
    (w : World)
    : eval env ((is ++ js).forM f) console w
        =
      eval env (is.forM f >>= fun _ => js.forM f) console w := by
  induction is generalizing console w with
  | nil => rfl
  | cons i is ih =>
    rw [List.cons_append, forM_cons, forM_cons, eval_bind, eval_bind, eval_bind]
    rcases eval env (f i) console w with ⟨r, console', w'⟩
    cases r with
    | error e => rfl
    | ok a =>
      dsimp only
      rw [ih, eval_bind]

theorem eval_forM_product {ι κ : Type} (f : ι → κ → ConsoleM Unit) (is : List ι) (ks : List κ)
    (console : Console) (w : World)
    : eval env (is.forM fun i => ks.forM fun k => f i k) console w
        =
      eval env ((is ×ˢ ks).forM fun c => f c.1 c.2) console w := by
  have hrow : ∀ (i : ι) (ks : List κ),
      ((ks.map (fun k => (i, k))).forM fun c => f c.1 c.2) = ks.forM fun k => f i k := by
    intro i ks
    induction ks with
    | nil => rfl
    | cons k ks ih =>
      rw [List.map_cons, forM_cons, forM_cons, ih]
  induction is generalizing console w with
  | nil => rfl
  | cons i is ih =>
    rw [List.product_cons, eval_forM_append, forM_cons, hrow, eval_bind, eval_bind]
    rcases eval env (ks.forM fun k => f i k) console w with ⟨r, console', w'⟩
    cases r with
    | error e => rfl
    | ok a => apply ih

theorem eval_ofWorker_ok {env : Env} {m : WorkerM α} {a : α} {console console' : Console}
    {w w' : World} (h : eval env (ofWorker m) console w = (.ok a, console', w'))
    : console' = console ∧ m.eval env w = (.ok a, w') := by
  rw [eval_ofWorker] at h
  rcases hm : m.eval env w with ⟨r, w₁⟩
  rw [hm] at h
  cases h
  exact ⟨rfl, rfl⟩

@[simp]
theorem eval_outcome (m : ConsoleM α) (console : Console) (w : World)
    : eval env (outcome m) console w
        =
      (.ok (eval env m console w).1, (eval env m console w).2) := by
  have hrun : (outcome m).run.run console
      = m.run.run console >>= fun r => .pure (.ok r.1, r.2) := rfl
  unfold eval
  rw [hrun, Prog.run_bind]
  rfl

end ConsoleM

namespace Console

/--
Count the next line. The counter moves before the insert, so a refused insert uses a number up.
-/
def next : ConsoleM Console :=
  ExceptT.mk (fun console =>
    .pure (.ok { console with seq := console.seq + 1 }, { console with seq := console.seq + 1 }))

def utcNow : WorkerM Time :=
  ExceptT.lift (.perform Op.utcNow)

def insertLine (line : KemRunLogRow) : WorkerM Unit :=
  .attempt (.perform (Op.insertKemLog line))

def log (level message : String) : ConsoleM Unit := do
  let time ← ConsoleM.ofWorker utcNow
  let console ← next
  ConsoleM.ofWorker (insertLine ⟨console.runId, console.seq, time, level, message⟩)
  ConsoleM.ofWorker (publishEvent (.kem console.runId) (.log console.seq time level message))

def upsertCell (cell : KemMatrixCellRow) : WorkerM Unit :=
  .attempt (.perform (Op.upsertKemCell cell))

def current : ConsoleM Console :=
  ExceptT.mk (fun console => .pure (.ok console, console))

def cell (kem adapter : String) (verdict : ResultStatus) (detail : Option String)
    : ConsoleM Unit := do
  let console ← current
  ConsoleM.ofWorker (upsertCell ⟨console.runId, kem, adapter, verdict, detail⟩)
  ConsoleM.ofWorker (publishEvent (.kem console.runId) (.cell kem adapter verdict detail))

def finishRun (runId : Uuid) (status : TaskStatus) : WorkerM Unit :=
  .attempt (.perform (Op.finishKemRun runId status))

def finish (status : TaskStatus) : ConsoleM Unit := do
  let console ← current
  ConsoleM.ofWorker (finishRun console.runId status)
  ConsoleM.ofWorker (publishEvent (.kem console.runId) (.finished console.runId))

section Eval

variable (env : Env) (console : Console) (w : World)

@[simp]
theorem eval_next
    : next.eval env console w
        =
      (.ok { console with seq := console.seq + 1 }, { console with seq := console.seq + 1 }, w) := rfl

@[simp]
theorem eval_utcNow : utcNow.eval env w = (.ok env.now, w) := rfl

@[simp]
theorem eval_insertLine (line : KemRunLogRow)
    : (insertLine line).eval env w
        =
      Env.statement (env.fails .insertKemLog) w (w.db.insertKemLog line) := rfl

end Eval

end Console

end kem

end PqCas
