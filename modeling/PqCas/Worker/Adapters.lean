import PqCas.Worker.Effect

/-!
Client side of the adapter contract, plus the capability cache (`adapters.rs`), and the writes of
`store.rs` as worker code.
-/

namespace PqCas

/--
Perform an operation that can fail; its error leaves the surrounding function as `?` does.
-/
def WorkerM.attempt {α : Type} (p : Prog Op Op.Reply (Except Err α)) : WorkerM α :=
  ExceptT.mk p

namespace WorkerM

variable {α β : Type} (env : Env)

def eval (m : WorkerM α) (w : World) : Except Err α × World :=
  m.run.run env.exec w

@[simp]
theorem eval_pure (a : α) (w : World) : eval env (pure a : WorkerM α) w = (.ok a, w) := rfl

@[simp]
theorem eval_throw (e : Err) (w : World) : eval env (throw e : WorkerM α) w = (.error e, w) := rfl

theorem eval_bind (m : WorkerM α) (f : α → WorkerM β) (w : World)
    : eval env (m >>= f) w
        =
      match eval env m w with
      | (.ok a, w') => eval env (f a) w'
      | (.error e, w') => (.error e, w') := by
  have hrun : (m >>= f).run = m.run >>= ExceptT.bindCont f := rfl
  unfold eval
  rw [hrun, Prog.run_bind]
  rcases m.run.run env.exec w with ⟨r, w'⟩
  cases r <;> rfl

@[simp]
theorem eval_lift (p : Prog Op Op.Reply α) (w : World)
    : eval env (ExceptT.lift p) w = (.ok (p.run env.exec w).1, (p.run env.exec w).2) := by
  have hrun : (ExceptT.lift p : WorkerM α).run = p >>= fun a => .pure (.ok a) := rfl
  unfold eval
  rw [hrun, Prog.run_bind]
  rfl

section Conforms

variable {σ : Type} {δ : σ → (op : Op) → op.Reply → σ → Prop}

def Conforms (δ : σ → (op : Op) → op.Reply → σ → Prop) (ok : α → σ → Prop) (error : σ → Prop)
    (m : WorkerM α) (s : σ) : Prop :=
  m.run.Conforms δ
    (fun r s' => match r with
      | .ok a => ok a s'
      | .error _ => error s') s

theorem Conforms.bind {ok : β → σ → Prop} {error : σ → Prop} {m : WorkerM α} {f : α → WorkerM β}
    {s : σ} (h : Conforms δ (fun a s' => Conforms δ ok error (f a) s') error m s)
    : Conforms δ ok error (m >>= f) s := by
  apply Prog.Conforms.bind
  apply Prog.Conforms.mono h
  intro r s' hr
  cases r with
  | ok a => exact hr
  | error e => exact hr

theorem Conforms.lift {ok : α → σ → Prop} {error : σ → Prop} {p : Prog Op Op.Reply α} {s : σ}
    (h : p.Conforms δ ok s) : Conforms δ ok error (ExceptT.lift p) s := by
  apply Prog.Conforms.bind
  exact h

end Conforms

end WorkerM

namespace store

def markTestRunning (testId : Uuid) : WorkerM Unit :=
  .attempt (.perform (Op.markTestRunning testId))

def markSubtaskRunning (subtaskId : Uuid) : WorkerM Unit :=
  .attempt (.perform (Op.markSubtaskRunning subtaskId))

def saveReport (subtaskId : Uuid) (result : ResultStatus) (response : ProbeResponse)
    : WorkerM Unit :=
  .attempt (.perform (Op.saveReport subtaskId result response))

def markSubtaskError (subtaskId : Uuid) (reason : String) : WorkerM Unit :=
  .attempt (.perform (Op.markSubtaskError subtaskId reason))

def countSubtasks (testId : Uuid) : WorkerM SubtaskCounts :=
  .attempt (.perform (Op.countSubtasks testId))

def closeTest (testId : Uuid) (status : TaskStatus) : WorkerM Unit :=
  .attempt (.perform (Op.closeTest testId status))

structure TestProgress where
  passed : Nat
  failed : Nat

/--
Close the test out once nothing is left queued or running. The counts and the update are two
statements.
-/
def finishTestIfDone (testId : Uuid) : WorkerM (Option TestProgress) := do
  let counts ← countSubtasks testId
  if 0 < counts.outstanding then
    return none
  else
    closeTest testId counts.closeOutStatus
    return some ⟨counts.passed, counts.failed⟩

variable (env : Env) (w : World)

@[simp]
theorem eval_markTestRunning (testId : Uuid)
    : (markTestRunning testId).eval env w
        =
      Env.statement (env.fails .markTestRunning) w (.ok (w.db.markTestRunning env.now testId))
    := rfl

@[simp]
theorem eval_markSubtaskRunning (subtaskId : Uuid)
    : (markSubtaskRunning subtaskId).eval env w
        =
      Env.statement (env.fails .markSubtaskRunning) w
        (.ok (w.db.markSubtaskRunning env.now subtaskId))
    := rfl

@[simp]
theorem eval_saveReport (subtaskId : Uuid) (result : ResultStatus) (response : ProbeResponse)
    : (saveReport subtaskId result response).eval env w
        =
      Env.statement env.saveFailure w (w.db.saveReport env.now subtaskId result response)
    := rfl

@[simp]
theorem eval_markSubtaskError (subtaskId : Uuid) (reason : String)
    : (markSubtaskError subtaskId reason).eval env w
        =
      Env.statement (env.fails .markSubtaskError) w
        (.ok (w.db.markSubtaskError env.now subtaskId reason))
    := rfl

@[simp]
theorem eval_countSubtasks (testId : Uuid)
    : (countSubtasks testId).eval env w
        =
      match env.fails .countSubtasks with
      | some e => (.error e, w)
      | none => (.ok (w.db.countSubtasks testId), w)
    := rfl

@[simp]
theorem eval_closeTest (testId : Uuid) (status : TaskStatus)
    : (closeTest testId status).eval env w
        =
      Env.statement (env.fails .closeTest) w
        (.ok (w.db.closeTest env.now testId status))
    := rfl

theorem countSubtasks_conforms {σ : Type} {δ : σ → (op : Op) → op.Reply → σ → Prop}
    {ok : SubtaskCounts → σ → Prop} {error : σ → Prop} {testId : Uuid} {s : σ}
    (hok : ∀ c, ∃ s', δ s (.countSubtasks testId) (Except.ok c) s' ∧ ok c s')
    (herror : ∀ e, ∃ s', δ s (.countSubtasks testId) (Except.error e) s' ∧ error s')
    : WorkerM.Conforms δ ok error (countSubtasks testId) s := by
  refine fun (r : Except Err SubtaskCounts) => ?_
  cases r with
  | ok c => exact hok c
  | error e => exact herror e

end store

/--
The adapters of a deployment: name and base URL, in the key order of the source's `BTreeMap`.
-/
structure AdapterRegistry where
  bases : List (String × String)
  sorted : bases.Pairwise (fun a b => a.1 < b.1)

namespace AdapterRegistry

def single (adapter base : String) : AdapterRegistry :=
  ⟨[(adapter, base)], List.pairwise_singleton _ _⟩

def names (adapters : AdapterRegistry) : List String :=
  adapters.bases.map Prod.fst

def isConfigured (adapters : AdapterRegistry) (adapter : String) : Bool :=
  (adapters.bases.lookup adapter).isSome

def cachedCapabilities (adapter : String) : WorkerM (Option Capabilities) :=
  ExceptT.lift (.perform (Op.cachedCapabilities adapter))

def fetchCapabilities (base : String) : WorkerM Capabilities :=
  .attempt (.perform (Op.fetchCapabilities base))

def cacheCapabilities (adapter : String) (capabilities : Capabilities) : WorkerM Unit :=
  ExceptT.lift (.perform (Op.cacheCapabilities adapter capabilities))

/--
One successful fetch per process lifetime is enough.
-/
def capabilities (adapters : AdapterRegistry) (adapter : String) : WorkerM Capabilities := do
  match ← cachedCapabilities adapter with
  | some cached => return cached
  | none =>
    match adapters.bases.lookup adapter with
    | none => throw s!"adapter {adapter} is not configured"
    | some base =>
      let capabilities ← fetchCapabilities base
      cacheCapabilities adapter capabilities
      return capabilities

/--
What a handshake request comes back as. Transport-level problems are responses, not errors.
-/
def ofReply (adapter : String) (reply : ProbeReply) : ProbeResponse :=
  match reply with
  | .unreachable err => .failure adapter .tcp s!"adapter unreachable: {err}"
  | .refused status body => .failure adapter .tcp s!"adapter returned {status}: {Text.trim body}"
  | .unreadable err => .failure adapter .tcp s!"adapter sent an unreadable report: {err}"
  | .report response => response

def probe (adapters : AdapterRegistry) (adapter : String) (request : ProbeRequest)
    : Prog Op Op.Reply ProbeResponse :=
  match adapters.bases.lookup adapter with
  | none => .pure (.failure adapter .tcp s!"adapter {adapter} is not configured")
  | some base => .op (.postProbe base request) (fun reply => .pure (ofReply adapter reply))

def capabilitiesOutcome (adapters : AdapterRegistry) (env : Env) (w : World) (adapter : String)
    : Except Err Capabilities :=
  match w.cache.lookup adapter, adapters.bases.lookup adapter with
  | some capabilities, _ => .ok capabilities
  | none, none => .error s!"adapter {adapter} is not configured"
  | none, some base => env.fetchCapabilities w.calls base

def probeOutcome (adapters : AdapterRegistry) (env : Env) (w : World) (adapter : String)
    (request : ProbeRequest) : ProbeResponse :=
  match adapters.bases.lookup adapter with
  | none => .failure adapter .tcp s!"adapter {adapter} is not configured"
  | some base => ofReply adapter (env.postProbe w.calls base request)

variable (adapters : AdapterRegistry) (env : Env) (w : World) (adapter : String)

@[simp]
theorem eval_cachedCapabilities
    : (cachedCapabilities adapter).eval env w = (.ok (w.cache.lookup adapter), w) := rfl

@[simp]
theorem eval_fetchCapabilities (base : String)
    : (fetchCapabilities base).eval env w
        =
      (env.fetchCapabilities w.calls base, { w with calls := w.calls + 1 }) := rfl

@[simp]
theorem eval_cacheCapabilities (capabilities : Capabilities)
    : (cacheCapabilities adapter capabilities).eval env w
        =
      (.ok (), { w with cache := (adapter, capabilities) :: w.cache }) := rfl

theorem eval_capabilities
    : ∃ cache calls,
        (adapters.capabilities adapter).eval env w
          =
        (adapters.capabilitiesOutcome env w adapter, { w with cache := cache, calls := calls }) := by
  unfold capabilities capabilitiesOutcome
  rw [WorkerM.eval_bind]
  rw [eval_cachedCapabilities]
  cases w.cache.lookup adapter with
  | some c => exact ⟨w.cache, w.calls, rfl⟩
  | none =>
    cases adapters.bases.lookup adapter with
    | none => exact ⟨w.cache, w.calls, rfl⟩
    | some base =>
      dsimp
      rw [WorkerM.eval_bind]
      rw [eval_fetchCapabilities]
      cases env.fetchCapabilities w.calls base with
      | error e => exact ⟨w.cache, w.calls + 1, rfl⟩
      | ok c => exact ⟨(adapter, c) :: w.cache, w.calls + 1, rfl⟩

theorem calls_capabilities {w w' : World} (hcache : w'.cache = w.cache) (hcalls : w'.calls = w.calls)
    : ((adapters.capabilities adapter).eval env w').2.calls
        =
      ((adapters.capabilities adapter).eval env w).2.calls := by
  unfold capabilities
  simp only [WorkerM.eval_bind, eval_cachedCapabilities, hcache]
  cases w.cache.lookup adapter with
  | some c => exact hcalls
  | none =>
    cases adapters.bases.lookup adapter with
    | none => exact hcalls
    | some base =>
      simp only [WorkerM.eval_bind, eval_fetchCapabilities, hcalls]
      cases env.fetchCapabilities w.calls base <;> rfl

theorem run_probe (request : ProbeRequest) (h : adapters.isConfigured adapter = true)
    : (adapters.probe adapter request).run env.exec w
        =
      (adapters.probeOutcome env w adapter request, { w with calls := w.calls + 1 }) := by
  unfold isConfigured at h
  unfold probe probeOutcome
  cases hbase : adapters.bases.lookup adapter with
  | none => simp [hbase] at h
  | some base => rfl

section Conforms

variable {σ : Type} {δ : σ → (op : Op) → op.Reply → σ → Prop} {s : σ}

theorem probe_conforms (request : ProbeRequest)
    (hcall : ∀ {op : Op} {r : op.Reply}, op.isCall = true → δ s op r s)
    : (adapters.probe adapter request).Conforms δ (fun _ s' => s' = s) s := by
  unfold probe
  cases adapters.bases.lookup adapter with
  | none => rfl
  | some base => exact fun _ => ⟨s, hcall rfl, rfl⟩

theorem capabilities_conforms (hcall : ∀ {op : Op} {r : op.Reply}, op.isCall = true → δ s op r s)
    : (adapters.capabilities adapter).run.Conforms δ (fun _ s' => s' = s) s := by
  suffices h : WorkerM.Conforms δ (fun _ s' => s' = s) (· = s) (adapters.capabilities adapter) s by
    apply Prog.Conforms.mono h
    intro r s' hr
    cases r <;> exact hr
  apply WorkerM.Conforms.bind
  refine fun (r : Option Capabilities) => ⟨s, hcall rfl, ?_⟩
  cases r with
  | some c => rfl
  | none =>
    dsimp only
    cases adapters.bases.lookup adapter with
    | none => rfl
    | some base =>
      apply WorkerM.Conforms.bind
      refine fun (r : Except Err Capabilities) => ⟨s, hcall rfl, ?_⟩
      cases r with
      | error e => rfl
      | ok c => exact fun _ => ⟨s, hcall rfl, rfl⟩

end Conforms

end AdapterRegistry

end PqCas
