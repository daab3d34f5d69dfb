import PqCas.Lib.Prog
import PqCas.Store.Statements

/-!
Everything the worker does to the outside: database statements, HTTP calls to the adapters, the
capability cache it shares between tasks, Redis publishes and stream acknowledgements.
-/

namespace PqCas

inductive Op where
  | markTestRunning (testId : Uuid)
  | markSubtaskRunning (subtaskId : Uuid)
  | markSubtaskError (subtaskId : Uuid) (reason : String)
  | saveReport (subtaskId : Uuid) (result : ResultStatus) (response : ProbeResponse)
  | countSubtasks (testId : Uuid)
  | closeTest (testId : Uuid) (status : TaskStatus)
  | startKemRun (runId : Uuid)
  | insertKemLog (line : KemRunLogRow)
  | upsertKemCell (cell : KemMatrixCellRow)
  | finishKemRun (runId : Uuid) (status : TaskStatus)
  | publish (channel : Channel) (event : Event)
  | utcNow
  | cachedCapabilities (adapter : String)
  | fetchCapabilities (base : String)
  | cacheCapabilities (adapter : String) (capabilities : Capabilities)
  | postProbe (base : String) (request : ProbeRequest)
  | ack (stream id : String)

/--
How a `POST /probe` can end, as far as `AdapterRegistry::probe` tells the ends apart.
-/
inductive ProbeReply where
  | unreachable (err : Err)
  | refused (status body : String)
  | unreadable (err : Err)
  | report (response : ProbeResponse)

def Op.Reply (op : Op) : Type :=
  match op with
  | .countSubtasks _ => Except Err SubtaskCounts
  | .utcNow => Time
  | .cachedCapabilities _ => Option Capabilities
  | .fetchCapabilities _ => Except Err Capabilities
  | .cacheCapabilities _ _ => Unit
  | .postProbe _ _ => ProbeReply
  | _ => Except Err Unit

def Op.isCall (op : Op) : Bool :=
  match op with
  | .postProbe .. | .cachedCapabilities .. | .fetchCapabilities .. | .cacheCapabilities .. => true
  | _ => false

/--
A piece of worker code. The `?` operator is the error of the `ExceptT`.
-/
abbrev WorkerM := ExceptT Err (Prog Op Op.Reply)

structure World where
  db : Db
  published : List (Channel × Event) := []
  cache : List (String × Capabilities) := []
  /-- The stream entries that were acknowledged. -/
  acked : List (String × String) := []
  /-- How many HTTP calls were made so far. -/
  calls : Nat := 0

/--
The fallible steps of the worker. `save_report` is a transaction of several of them.
-/
inductive Step where
  | markTestRunning
  | markSubtaskRunning
  | markSubtaskError
  | saveBegin
  | saveSerialise
  | saveInsert
  | saveUpdate
  | saveCommit
  | countSubtasks
  | closeTest
  | publishSubtaskUpdated
  | publishTestFinished
  | startKemRun
  | insertKemLog
  | upsertKemCell
  | finishKemRun
  | publishKem
  | ack
  deriving DecidableEq, Repr

/--
Serialising an event and publishing it count as one step.
-/
def Event.publishStep (event : Event) : Step :=
  match event with
  | .subtaskUpdated .. => .publishSubtaskUpdated
  | .testFinished .. => .publishTestFinished
  | _ => .publishKem

/--
What the outside answers: the clock, the replies of the adapters (which may depend on how many calls
were made before), and which steps fail. A step that fails has no effect.
-/
structure Env where
  now : Time
  fetchCapabilities : Nat → String → Except Err Capabilities
  postProbe : Nat → String → ProbeRequest → ProbeReply
  fails : Step → Option Err := fun _ => none

namespace Env

/--
The first failing step of the transaction of `save_report`, which then commits nothing.
-/
def saveFailure (env : Env) : Option Err :=
  [Step.saveBegin, .saveSerialise, .saveInsert, .saveUpdate, .saveCommit].findSome? env.fails

def statement (fault : Option Err) (w : World) (db : Except Err Db) : Except Err Unit × World :=
  match fault, db with
  | some e, _ => (.error e, w)
  | none, .error e => (.error e, w)
  | none, .ok db => (.ok (), { w with db := db })

def exec (env : Env) (op : Op) (w : World) : op.Reply × World :=
  match op with
  | .markTestRunning testId =>
    statement (env.fails .markTestRunning) w (.ok (w.db.markTestRunning env.now testId))
  | .markSubtaskRunning subtaskId =>
    statement (env.fails .markSubtaskRunning) w (.ok (w.db.markSubtaskRunning env.now subtaskId))
  | .markSubtaskError subtaskId reason =>
    statement (env.fails .markSubtaskError) w (.ok (w.db.markSubtaskError env.now subtaskId reason))
  | .saveReport subtaskId result response =>
    statement env.saveFailure w (w.db.saveReport env.now subtaskId result response)
  | .countSubtasks testId =>
    match env.fails .countSubtasks with
    | some e => (Except.error e, w)
    | none => (Except.ok (w.db.countSubtasks testId), w)
  | .closeTest testId status =>
    statement (env.fails .closeTest) w (.ok (w.db.closeTest env.now testId status))
  | .startKemRun runId => statement (env.fails .startKemRun) w (.ok (w.db.startKemRun runId))
  | .insertKemLog line => statement (env.fails .insertKemLog) w (w.db.insertKemLog line)
  | .upsertKemCell cell => statement (env.fails .upsertKemCell) w (w.db.upsertKemCell cell)
  | .finishKemRun runId status =>
    statement (env.fails .finishKemRun) w (.ok (w.db.finishKemRun env.now runId status))
  | .publish channel event =>
    match env.fails event.publishStep with
    | some e => (Except.error e, w)
    | none => (Except.ok (), { w with published := w.published ++ [(channel, event)] })
  | .utcNow => (env.now, w)
  | .cachedCapabilities adapter => (w.cache.lookup adapter, w)
  | .fetchCapabilities base =>
    (env.fetchCapabilities w.calls base, { w with calls := w.calls + 1 })
  | .cacheCapabilities adapter capabilities =>
    ((), { w with cache := (adapter, capabilities) :: w.cache })
  | .postProbe base request =>
    (env.postProbe w.calls base request, { w with calls := w.calls + 1 })
  | .ack stream id =>
    match env.fails .ack with
    | some e => (Except.error e, w)
    | none => (Except.ok (), { w with acked := w.acked ++ [(stream, id)] })

theorem exec_call (env : Env) {op : Op} (hop : op.isCall = true) (w : World)
    : (env.exec op w).2.db = w.db ∧ (env.exec op w).2.published = w.published := by
  cases op with
  | postProbe | cachedCapabilities | fetchCapabilities | cacheCapabilities => exact ⟨rfl, rfl⟩
  | _ => cases hop

theorem statement_ok {fault : Option Err} {w w' : World} {db : Except Err Db}
    (h : statement fault w db = (.ok (), w')) : ∃ db', db = .ok db' ∧ w' = { w with db := db' } := by
  unfold statement at h
  split at h
  . cases h
  . cases h
  . next db' =>
    cases h
    exact ⟨db', rfl, rfl⟩

theorem statement_error {fault : Option Err} {w w' : World} {db : Except Err Db} {e : Err}
    (h : statement fault w db = (.error e, w')) : w' = w := by
  unfold statement at h
  split at h
  . cases h
    rfl
  . cases h
    rfl
  . cases h

theorem statement_ok_fault {fault : Option Err} {w w' : World} {db : Except Err Db}
    (h : statement fault w db = (.ok (), w')) : fault = none := by
  cases fault with
  | none => rfl
  | some e => cases h

theorem statement_error_cause {fault : Option Err} {w w' : World} {db : Except Err Db} {e : Err}
    (h : statement fault w db = (.error e, w')) : fault ≠ none ∨ ∃ e, db = .error e := by
  unfold statement at h
  split at h
  . exact .inl (by simp)
  . exact .inr ⟨_, rfl⟩
  . cases h

theorem statement_published (fault : Option Err) (w : World) (db : Except Err Db)
    : (statement fault w db).2.published = w.published := by
  unfold statement
  split <;> rfl

theorem exec_published_grows (env : Env) (op : Op) (w : World)
    : w.published <+: (env.exec op w).2.published := by
  cases op with
  | publish channel event =>
    dsimp only [exec]
    split
    . exact List.prefix_refl _
    . exact List.prefix_append _ _
  | countSubtasks | ack =>
    dsimp only [exec]
    split <;> exact List.prefix_refl _
  | utcNow | cachedCapabilities | fetchCapabilities | cacheCapabilities | postProbe =>
    exact List.prefix_refl _
  | _ =>
    dsimp only [exec]
    rw [statement_published]

def Faultless (env : Env) : Prop :=
  ∀ step, env.fails step = none

theorem Faultless.saveFailure {env : Env} (henv : env.Faultless) : env.saveFailure = none := by
  simp [Env.saveFailure, henv _]

structure OnlyRefuses (env : Env) (response : ProbeResponse) : Prop where
  saveInsert : env.fails .saveInsert = Db.refusal response
  others : ∀ step, step ≠ .saveInsert → env.fails step = none

theorem OnlyRefuses.saveFailure {env : Env} {response : ProbeResponse} (henv : env.OnlyRefuses response)
    : env.saveFailure = Db.refusal response := by
  unfold Env.saveFailure
  simp only [List.findSome?_cons, List.findSome?_nil, henv.saveInsert, henv.others .saveBegin (by decide),
    henv.others .saveSerialise (by decide), henv.others .saveUpdate (by decide),
    henv.others .saveCommit (by decide)]
  cases Db.refusal response with
  | none => rfl
  | some err => rfl

end Env

end PqCas
