import PqCas.Api.Error
import PqCas.Lib.Grid
import PqCas.Store.Tables

/-!
Creating a test task (`routes/tests.rs`) and queueing its jobs (`queue.rs`).
-/

namespace PqCas

namespace api

structure Config where
  maxSubtasksPerTest : Nat
  probeTimeoutMs : UInt64
  defaultAdapter : String

structure NewTest where
  host : String
  port : Int
  httpPath : String := "/"
  tool : String
  plugin : String
  groups : List String
  sigAlgs : List String

structure Test extends TestRow where
  host : String
  port : Int
  httpPath : String
  method : String
  tool : String
  plugin : String
  groupCount : Int
  sigAlgCount : Int
  subtaskCount : Int
  createdAt : Time
  deriving DecidableEq, Repr

structure Algorithm where
  kind : String
  name : String
  deriving DecidableEq, Repr

/--
The two stores a request can change: the tables, and the stream `jobs:probe` with each payload kept
as the job it encodes.
-/
structure State where
  algorithms : List Algorithm
  tests : List Test
  subtasks : List SubtaskRow
  probeStream : List ProbeJob

namespace State

def db (s : State) : Db :=
  {
    tests := s.tests.map Test.toTestRow
    subtasks := s.subtasks
  }

end State

inductive CreateStep where
  | selectKemGroups
  | selectSigAlgs
  | begin
  | insertTest
  | insertSubtasks
  | commit
  | serialise
  | pipeline
  deriving DecidableEq, Repr

/--
What the stores answer: generated ids, the clock, the order in which inserted rows are returned, which
steps fail, and which commands of a failing pipeline were carried out nevertheless.
-/
structure CreateEnv where
  now : Time
  testId : Uuid
  subtaskId : Nat → Uuid
  returning : List (Uuid × String × String) → List (Uuid × String × String)
  returning_perm : ∀ rows, (returning rows).Perm rows
  fails : CreateStep → Option Err := fun _ => none
  added : List ProbeJob → List ProbeJob := fun _ => []
  added_sublist : ∀ jobs, (added jobs).Sublist jobs := by simp

/--
A handler: it fails with an `ApiError` or returns, and what it did to the stores stays either way.
-/
abbrev ApiM (α : Type) := ExceptT ApiError (StateM State) α

namespace ApiM

variable {α β : Type}

def eval (m : ApiM α) (s : State) : Except ApiError α × State :=
  m.run.run s

theorem eval_bind (m : ApiM α) (f : α → ApiM β) (s : State)
    : eval (m >>= f) s
        =
      match eval m s with
      | (.ok a, s') => eval (f a) s'
      | (.error e, s') => (.error e, s') := by
  have hrun : (m >>= f).run.run s = (ExceptT.bindCont f (m.run.run s).1).run (m.run.run s).2 := rfl
  unfold eval
  rw [hrun]
  rcases m.run.run s with ⟨r, s'⟩
  cases r <;> rfl

theorem eval_bind_ok {m : ApiM α} {f : α → ApiM β} {s s' : State} {a : α}
    (h : eval m s = (.ok a, s')) : eval (m >>= f) s = eval (f a) s' := by
  rw [eval_bind, h]

theorem eval_bind_error {m : ApiM α} {f : α → ApiM β} {s s' : State} {e : ApiError}
    (h : eval m s = (.error e, s')) : eval (m >>= f) s = (.error e, s') := by
  rw [eval_bind, h]

def query (env : CreateEnv) (at_ : CreateStep) : ApiM State :=
  match env.fails at_ with
  | some err => throw (.database err)
  | none => get

theorem eval_query (env : CreateEnv) (at_ : CreateStep) (s : State)
    : (∃ err, eval (query env at_) s = (.error err, s)) ∨ eval (query env at_) s = (.ok s, s) := by
  unfold query
  cases env.fails at_ with
  | some err => exact .inl ⟨_, rfl⟩
  | none => exact .inr rfl

end ApiM

/--
Trim the selected names, drop the blank ones and keep the first of equal ones.
-/
def dedupe (values : List String) : List String :=
  Grid.firsts ((values.map Text.trim).filter (fun v => v ≠ ""))

/--
The checks `create_test` makes before it asks the database. Returns the two axes of the matrix.
-/
def validate (config : Config) (body : NewTest) : Except ApiError (List String × List String) :=
  if Text.trim body.host = "" then
    .error (.badRequest "host is required")
  else if ¬ (1 ≤ body.port ∧ body.port ≤ 65535) then
    .error (.badRequest "port must be 1-65535")
  else if body.groups = [] ∨ body.sigAlgs = [] then
    .error (.badRequest "select at least one group and one signature algorithm")
  else if !Text.startsWith body.httpPath "/" then
    .error (.badRequest "http path must start with /")
  else
    let groups := dedupe body.groups
    let sigAlgs := dedupe body.sigAlgs
    let subtaskCount := groups.length * sigAlgs.length
    let max := config.maxSubtasksPerTest
    if max < subtaskCount then
      .error (.badRequest
        s!"{subtaskCount} subtasks exceeds the limit of {max}; narrow the selection")
    else
      .ok (groups, sigAlgs)

theorem validate_ok {config : Config} {body : NewTest} {groups sigAlgs : List String}
    (h : validate config body = .ok (groups, sigAlgs))
    : groups = dedupe body.groups ∧ sigAlgs = dedupe body.sigAlgs
        ∧ groups.length * sigAlgs.length ≤ config.maxSubtasksPerTest := by
  unfold validate at h
  split at h
  . cases h
  split at h
  . cases h
  split at h
  . cases h
  split at h
  . cases h
  dsimp only at h
  split at h
  . cases h
  . next hle =>
    cases h
    exact ⟨rfl, rfl, Nat.le_of_not_lt hle⟩

def rejectUnknown (env : CreateEnv) (at_ : CreateStep) (kind : String) (names : List String)
    : ApiM Unit := do
  let s ← ApiM.query env at_
  let known := (s.algorithms.filter (fun row => row.kind = kind ∧ row.name ∈ names)).map Algorithm.name
  let unknown := names.filter (fun n => n ∉ known)
  if unknown ≠ [] then
    let list := String.intercalate ", " unknown
    throw (.badRequest s!"unknown {kind}: {list}")

/--
A tool and a plugin are the lab's words for a TLS stack. The tool is not looked at.
-/
def adapterFor (plugin default_ : String) : String :=
  if Text.startsWith plugin "bq" then
    "boringssl"
  else if Text.startsWith plugin "bo" then
    "boringssl"
  else if Text.startsWith plugin "wo" then
    "wolfssl"
  else if Text.startsWith plugin "go" then
    "go"
  else if Text.startsWith plugin "open" then
    "openssl"
  else
    default_

/--
`usize as i32`.
-/
def asI32 (n : Nat) : Int :=
  (n : Int).bmod (2 ^ 32)

/--
The three arrays that are bound to the insert of the subtasks. They are pushed to together.
-/
structure Columns where
  ordinals : List Int
  groupNames : List String
  algNames : List String
  length_groupNames : groupNames.length = ordinals.length
  length_algNames : algNames.length = ordinals.length

namespace Columns

def empty : Columns :=
  ⟨[], [], [], rfl, rfl⟩

def push (c : Columns) (ordinal : Int) (group alg : String) : Columns :=
  {
    ordinals := c.ordinals ++ [ordinal]
    groupNames := c.groupNames ++ [group]
    algNames := c.algNames ++ [alg]
    length_groupNames := by simp [c.length_groupNames]
    length_algNames := by simp [c.length_algNames]
  }

def unnest (c : Columns) : List (Int × String × String) :=
  c.ordinals.zip (c.groupNames.zip c.algNames)

end Columns

def expand (groups sigAlgs : List String) : Columns :=
  groups.zipIdx.foldl
    (fun c (group, g) =>
      sigAlgs.zipIdx.foldl
        (fun c (alg, s) => c.push (asI32 (g * sigAlgs.length + s)) group alg) c)
    .empty

def testRow (env : CreateEnv) (body : NewTest) (groups sigAlgs : List String) : Test :=
  {
    id := env.testId
    host := Text.trim body.host
    port := body.port
    httpPath := body.httpPath
    method := "GET"
    tool := body.tool
    plugin := body.plugin
    groupCount := asI32 groups.length
    sigAlgCount := asI32 sigAlgs.length
    subtaskCount := asI32 (groups.length * sigAlgs.length)
    createdAt := env.now
  }

def insertTest (env : CreateEnv) (body : NewTest) (groups sigAlgs : List String) : ApiM Test := do
  let s ← ApiM.query env .insertTest
  let test := testRow env body groups sigAlgs
  if test.id ∈ s.tests.map (fun row => row.id) then
    throw (.database "duplicate key value violates unique constraint \"tests_pkey\"")
  else
    return test

structure SubtaskKeys (rows : List SubtaskRow) : Prop where
  id : (rows.map SubtaskRow.id).Nodup
  pair : (rows.map (fun row => (row.testId, row.groupName, row.sigAlg))).Nodup
  ordinal : (rows.map (fun row => (row.testId, row.ordinal))).Nodup

instance (rows : List SubtaskRow) : Decidable (SubtaskKeys rows) :=
  decidable_of_iff
    ((rows.map SubtaskRow.id).Nodup
      ∧ (rows.map (fun row => (row.testId, row.groupName, row.sigAlg))).Nodup
      ∧ (rows.map (fun row => (row.testId, row.ordinal))).Nodup)
    ⟨fun ⟨hid, hpair, hordinal⟩ => ⟨hid, hpair, hordinal⟩,
      fun ⟨hid, hpair, hordinal⟩ => ⟨hid, hpair, hordinal⟩⟩

def subtaskRows (env : CreateEnv) (test : Test) (columns : Columns) : List SubtaskRow :=
  columns.unnest.mapIdx (fun i (o, g, a) =>
    {
      id := env.subtaskId i
      testId := test.id
      ordinal := o
      groupName := g
      sigAlg := a
    })

def insertSubtasks (env : CreateEnv) (test : Test) (columns : Columns) : ApiM (List SubtaskRow) := do
  let s ← ApiM.query env .insertSubtasks
  let rows := subtaskRows env test columns
  if SubtaskKeys (s.subtasks ++ rows) then
    return rows
  else
    throw (.database "duplicate key value violates unique constraint on \"subtasks\"")

/--
What a transaction inserted is in the tables from here on, and nothing of it was before.
-/
def commit (env : CreateEnv) (test : Test) (rows : List SubtaskRow) : ApiM Unit := do
  let _ ← ApiM.query env .commit
  modify (fun s => { s with tests := s.tests ++ [test], subtasks := s.subtasks ++ rows })

/--
All jobs go out in one pipeline, which is no transaction.
-/
def enqueueProbes (env : CreateEnv) (jobs : List ProbeJob) : ApiM Unit :=
  match env.fails .serialise, env.fails .pipeline with
  | some err, _ => throw (.json err)
  | none, some err => do
    modify (fun s => { s with probeStream := s.probeStream ++ env.added jobs })
    throw (.redis err)
  | none, none => modify (fun s => { s with probeStream := s.probeStream ++ jobs })

def jobOf (config : Config) (adapter : String) (test : Test) (inserted : Uuid × String × String)
    : ProbeJob :=
  {
    testId := test.id
    subtaskId := inserted.1
    host := test.host
    port := .ofInt test.port
    httpPath := test.httpPath
    adapter := adapter
    groupName := inserted.2.1
    sigAlg := inserted.2.2
    timeoutMs := config.probeTimeoutMs
  }

def inserted (row : SubtaskRow) : Uuid × String × String :=
  (row.id, row.groupName, row.sigAlg)

def createTest (env : CreateEnv) (config : Config) (body : NewTest) : ApiM Test := do
  let (groups, sigAlgs) ← liftExcept (validate config body)
  rejectUnknown env .selectKemGroups "kem_group" groups
  rejectUnknown env .selectSigAlgs "sig_alg" sigAlgs
  let _ ← ApiM.query env .begin
  let test ← insertTest env body groups sigAlgs
  let rows ← insertSubtasks env test (expand groups sigAlgs)
  commit env test rows
  let adapter := adapterFor body.plugin config.defaultAdapter
  enqueueProbes env ((env.returning (rows.map inserted)).map (jobOf config adapter test))
  return test

section Cases

variable (env : CreateEnv) (config : Config) (body : NewTest) (s : State)

def queuedJobs (jobs : List ProbeJob) : List ProbeJob :=
  match env.fails .serialise, env.fails .pipeline with
  | some _, _ => []
  | none, some _ => env.added jobs
  | none, none => jobs

def enqueueError : Option ApiError :=
  match env.fails .serialise, env.fails .pipeline with
  | some err, _ => some (.json err)
  | none, some err => some (.redis err)
  | none, none => none

theorem eval_enqueueProbes (jobs : List ProbeJob)
    : (enqueueProbes env jobs).eval s
        =
      ((match enqueueError env with
        | some err => .error err
        | none => .ok ()),
        { s with probeStream := s.probeStream ++ queuedJobs env jobs }) := by
  unfold enqueueProbes enqueueError queuedJobs
  cases env.fails .serialise with
  | some err =>
    rw [List.append_nil]
    rfl
  | none => cases env.fails .pipeline <;> rfl

theorem eval_rejectUnknown (at_ : CreateStep) (kind : String) (names : List String)
    : ∃ r, (rejectUnknown env at_ kind names).eval s = (r, s) := by
  unfold rejectUnknown
  rcases ApiM.eval_query env at_ s with ⟨err, hquery⟩ | hquery
  . rw [ApiM.eval_bind_error hquery]
    exact ⟨_, rfl⟩
  . rw [ApiM.eval_bind_ok hquery]
    dsimp only
    split
    . exact ⟨_, rfl⟩
    . exact ⟨_, rfl⟩

theorem eval_insertTest (groups sigAlgs : List String)
    : (∃ err, (insertTest env body groups sigAlgs).eval s = (.error err, s))
        ∨ (env.testId ∉ s.tests.map (fun row => row.id)
          ∧ (insertTest env body groups sigAlgs).eval s = (.ok (testRow env body groups sigAlgs), s)) := by
  unfold insertTest
  rcases ApiM.eval_query env .insertTest s with ⟨err, hquery⟩ | hquery
  . exact .inl ⟨err, ApiM.eval_bind_error hquery⟩
  . rw [ApiM.eval_bind_ok hquery]
    dsimp only
    split
    . exact .inl ⟨_, rfl⟩
    . next hid => exact .inr ⟨hid, rfl⟩

theorem eval_insertSubtasks (test : Test) (columns : Columns)
    : (∃ err, (insertSubtasks env test columns).eval s = (.error err, s))
        ∨ (SubtaskKeys (s.subtasks ++ subtaskRows env test columns)
          ∧ (insertSubtasks env test columns).eval s = (.ok (subtaskRows env test columns), s)) := by
  unfold insertSubtasks
  rcases ApiM.eval_query env .insertSubtasks s with ⟨err, hquery⟩ | hquery
  . exact .inl ⟨err, ApiM.eval_bind_error hquery⟩
  . rw [ApiM.eval_bind_ok hquery]
    dsimp only
    split
    . next hkeys => exact .inr ⟨hkeys, rfl⟩
    . exact .inl ⟨_, rfl⟩

theorem eval_commit (test : Test) (rows : List SubtaskRow)
    : (∃ err, (commit env test rows).eval s = (.error err, s))
        ∨ (commit env test rows).eval s
            =
          (.ok (), { s with tests := s.tests ++ [test], subtasks := s.subtasks ++ rows }) := by
  unfold commit
  rcases ApiM.eval_query env .commit s with ⟨err, hquery⟩ | hquery
  . exact .inl ⟨err, ApiM.eval_bind_error hquery⟩
  . rw [ApiM.eval_bind_ok hquery]
    exact .inr rfl

end Cases

section Outcome

variable (env : CreateEnv) (config : Config) (body : NewTest) (s : State) (groups sigAlgs : List String)

def createdRows : List SubtaskRow :=
  subtaskRows env (testRow env body groups sigAlgs) (expand groups sigAlgs)

def createdJobs : List ProbeJob :=
  (env.returning ((createdRows env body groups sigAlgs).map inserted)).map
    (jobOf config (adapterFor body.plugin config.defaultAdapter) (testRow env body groups sigAlgs))

/--
A request got past everything that can fail before the commit.
-/
structure Accepted : Prop where
  axes : validate config body = .ok (groups, sigAlgs)
  fresh : env.testId ∉ s.tests.map (fun row => row.id)
  keys : SubtaskKeys (s.subtasks ++ createdRows env body groups sigAlgs)

def committed (queued : List ProbeJob) : State :=
  { s with
    tests := s.tests ++ [testRow env body groups sigAlgs]
    subtasks := s.subtasks ++ createdRows env body groups sigAlgs
    probeStream := s.probeStream ++ queued }

def reply : Except ApiError Test :=
  match enqueueError env with
  | some err => .error err
  | none => .ok (testRow env body groups sigAlgs)

end Outcome

/--
Whatever fails: nothing happened, or everything was committed and the enqueue decides the reply.
-/
theorem createTest_cases (env : CreateEnv) (config : Config) (body : NewTest) (s : State)
    : (∃ err, (createTest env config body).eval s = (.error err, s))
        ∨ ∃ groups sigAlgs, Accepted env config body s groups sigAlgs
          ∧ (createTest env config body).eval s
              =
            (reply env body groups sigAlgs, committed env body s groups sigAlgs
              (queuedJobs env (createdJobs env config body groups sigAlgs))) := by
  unfold createTest
  cases haxes : validate config body with
  | error err => exact .inl ⟨err, rfl⟩
  | ok axes =>
    obtain ⟨groups, sigAlgs⟩ := axes
    rw [ApiM.eval_bind_ok (show (liftExcept (Except.ok (groups, sigAlgs)) : ApiM _).eval s = _ from rfl)]
    dsimp only
    obtain ⟨rgroups, hgroups⟩ := eval_rejectUnknown env s .selectKemGroups "kem_group" groups
    cases rgroups with
    | error err => exact .inl ⟨err, ApiM.eval_bind_error hgroups⟩
    | ok _ =>
      rw [ApiM.eval_bind_ok hgroups]
      obtain ⟨rsigs, hsigs⟩ := eval_rejectUnknown env s .selectSigAlgs "sig_alg" sigAlgs
      cases rsigs with
      | error err => exact .inl ⟨err, ApiM.eval_bind_error hsigs⟩
      | ok _ =>
        rw [ApiM.eval_bind_ok hsigs]
        rcases ApiM.eval_query env .begin s with ⟨err, hbegin⟩ | hbegin
        . exact .inl ⟨err, ApiM.eval_bind_error hbegin⟩
        rw [ApiM.eval_bind_ok hbegin]
        rcases eval_insertTest env body s groups sigAlgs with ⟨err, htest⟩ | ⟨hfresh, htest⟩
        . exact .inl ⟨err, ApiM.eval_bind_error htest⟩
        rw [ApiM.eval_bind_ok htest]
        rcases eval_insertSubtasks env s (testRow env body groups sigAlgs) (expand groups sigAlgs) with
          ⟨err, hrows⟩ | ⟨hkeys, hrows⟩
        . exact .inl ⟨err, ApiM.eval_bind_error hrows⟩
        rw [ApiM.eval_bind_ok hrows]
        rcases eval_commit env s (testRow env body groups sigAlgs)
          (subtaskRows env (testRow env body groups sigAlgs) (expand groups sigAlgs)) with
          ⟨err, hcommit⟩ | hcommit
        . exact .inl ⟨err, ApiM.eval_bind_error hcommit⟩
        rw [ApiM.eval_bind_ok hcommit]
        -- The rows are in the tables from here on.
        refine .inr ⟨groups, sigAlgs, ⟨haxes, hfresh, hkeys⟩, ?_⟩
        rw [ApiM.eval_bind, eval_enqueueProbes]
        unfold reply
        cases enqueueError env <;> rfl

section BadRequests

namespace ApiM

variable {α β : Type}

theorem of_eval_bind_error {m : ApiM α} {f : α → ApiM β} {s s' : State} {err : ApiError}
    (h : eval (m >>= f) s = (.error err, s'))
    : eval m s = (.error err, s') ∨ ∃ a s₁, eval m s = (.ok a, s₁) ∧ eval (f a) s₁ = (.error err, s') := by
  rw [eval_bind] at h
  split at h
  . next a s₁ hm =>
    right
    exists a, s₁
  . next err' s₁ hm =>
    left
    rw [hm]
    cases h
    rfl

theorem eval_query_ne {env : CreateEnv} {at_ : CreateStep} {s s' : State} {msg : String}
    : eval (query env at_) s ≠ (.error (.badRequest msg), s') := by
  unfold query
  intro h
  cases hfails : env.fails at_ with
  | some err =>
    rw [hfails] at h
    cases h
  | none =>
    rw [hfails] at h
    cases h

end ApiM

variable {env : CreateEnv} {config : Config} {body : NewTest} {s s' : State} {msg : String}

theorem unknown_of_rejectUnknown {at_ : CreateStep} {kind : String} {names : List String}
    (h : (rejectUnknown env at_ kind names).eval s = (.error (.badRequest msg), s'))
    : ∃ name ∈ names, ⟨kind, name⟩ ∉ s.algorithms := by
  unfold rejectUnknown at h
  rcases ApiM.of_eval_bind_error h with hquery | ⟨s₁, _, hquery, hrest⟩
  . cases ApiM.eval_query_ne hquery
  . rcases ApiM.eval_query env at_ s with ⟨err, heval⟩ | heval
    . rw [heval] at hquery
      cases hquery
    . rw [heval] at hquery
      cases hquery
      dsimp only at hrest
      split at hrest
      . next hunknown =>
        obtain ⟨name, hname⟩ := List.exists_mem_of_ne_nil _ hunknown
        rw [List.mem_filter] at hname
        exists name
        constructor
        . apply hname.1
        . intro hmem
          have hknown := of_decide_eq_true hname.2
          apply hknown
          apply List.mem_map.mpr
          exists ⟨kind, name⟩
          simp [hmem, hname.1]
      . cases hrest

theorem createTest_badRequest (h : (createTest env config body).eval s = (.error (.badRequest msg), s'))
    : validate config body = .error (.badRequest msg)
        ∨ ∃ groups sigAlgs, validate config body = .ok (groups, sigAlgs)
          ∧ ((∃ name ∈ groups, ⟨"kem_group", name⟩ ∉ s.algorithms)
            ∨ ∃ name ∈ sigAlgs, ⟨"sig_alg", name⟩ ∉ s.algorithms) := by
  unfold createTest at h
  cases haxes : validate config body with
  | error err =>
    left
    rw [haxes] at h
    cases h
    rfl
  | ok axes =>
    obtain ⟨groups, sigAlgs⟩ := axes
    rw [haxes] at h
    rw [ApiM.eval_bind_ok (show (liftExcept (Except.ok (groups, sigAlgs)) : ApiM _).eval s = _ from rfl)] at h
    right
    exists groups, sigAlgs
    simp only [true_and]
    dsimp only at h
    rcases ApiM.of_eval_bind_error h with hgroups | ⟨_, s₁, hgroups, h⟩
    . left
      apply unknown_of_rejectUnknown hgroups
    obtain ⟨r, hr⟩ := eval_rejectUnknown env s .selectKemGroups "kem_group" groups
    rw [hr] at hgroups
    cases hgroups
    rcases ApiM.of_eval_bind_error h with hsigs | ⟨_, s₂, -, h⟩
    . right
      apply unknown_of_rejectUnknown hsigs
    -- From here on only the stores can fail.
    exfalso
    rcases ApiM.of_eval_bind_error h with hbegin | ⟨_, s₃, -, h⟩
    . apply ApiM.eval_query_ne hbegin
    rcases ApiM.of_eval_bind_error h with htest | ⟨test, s₄, -, h⟩
    . unfold insertTest at htest
      rcases ApiM.of_eval_bind_error htest with hquery | ⟨_, _, -, htest⟩
      . apply ApiM.eval_query_ne hquery
      . dsimp only at htest
        split at htest
        . cases htest
        . cases htest
    rcases ApiM.of_eval_bind_error h with hrows | ⟨rows, s₅, -, h⟩
    . unfold insertSubtasks at hrows
      rcases ApiM.of_eval_bind_error hrows with hquery | ⟨_, _, -, hrows⟩
      . apply ApiM.eval_query_ne hquery
      . dsimp only at hrows
        split at hrows
        . cases hrows
        . cases hrows
    rcases ApiM.of_eval_bind_error h with hcommit | ⟨_, s₆, -, h⟩
    . unfold commit at hcommit
      rcases ApiM.of_eval_bind_error hcommit with hquery | ⟨_, _, -, hcommit⟩
      . apply ApiM.eval_query_ne hquery
      . cases hcommit
    rcases ApiM.of_eval_bind_error h with henqueue | ⟨_, s₇, -, h⟩
    . rw [eval_enqueueProbes] at henqueue
      unfold enqueueError at henqueue
      cases hserialise : env.fails .serialise with
      | some err =>
        rw [hserialise] at henqueue
        cases henqueue
      | none =>
        cases hpipeline : env.fails .pipeline with
        | some err =>
          rw [hserialise, hpipeline] at henqueue
          cases henqueue
        | none =>
          rw [hserialise, hpipeline] at henqueue
          cases henqueue
    . cases h

end BadRequests

end api

end PqCas
