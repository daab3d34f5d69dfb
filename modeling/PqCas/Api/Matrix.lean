import PqCas.Api.Tests
import PqCas.Worker.System

/-!
The rows and jobs a created test consists of, and the matrix that is read back from its rows.
-/

namespace PqCas

namespace api

namespace Columns

theorem unnest_push (c : Columns) (ordinal : Int) (group alg : String)
    : (c.push ordinal group alg).unnest = c.unnest ++ [(ordinal, group, alg)] := by
  unfold unnest push
  dsimp only
  have hlen : (c.groupNames.zip c.algNames).length = c.ordinals.length := by
    rw [List.length_zip, c.length_groupNames, c.length_algNames, Nat.min_self]
  rw [List.zip_append (by rw [c.length_groupNames, c.length_algNames])]
  rw [List.zip_append hlen.symm]
  rfl

theorem unnest_foldl_push (c : Columns) (cells : List (Int × String × String))
    : (cells.foldl (fun c cell => c.push cell.1 cell.2.1 cell.2.2) c).unnest = c.unnest ++ cells := by
  induction cells generalizing c with
  | nil => rw [List.foldl_nil, List.append_nil]
  | cons cell cells ih =>
    rw [List.foldl_cons, ih, unnest_push, List.append_assoc]
    rfl

end Columns

theorem unnest_expand (groups sigAlgs : List String)
    : (expand groups sigAlgs).unnest
        =
      (groups ×ˢ sigAlgs).mapIdx (fun n cell => (asI32 n, cell.1, cell.2)) := by
  have hfold : expand groups sigAlgs
      = (groups.zipIdx.flatMap (fun p => sigAlgs.zipIdx.map (fun q =>
          (asI32 (p.2 * sigAlgs.length + q.2), p.1, q.1)))).foldl
        (fun c cell => c.push cell.1 cell.2.1 cell.2.2) .empty := by
    unfold expand
    rw [List.foldl_flatMap]
    simp only [List.foldl_map]
  have hzip := Grid.zipIdx_product groups sigAlgs 0
  rw [Nat.zero_mul] at hzip
  rw [hfold, Columns.unnest_foldl_push, List.mapIdx_eq_zipIdx_map, hzip, List.map_flatMap]
  simp only [List.map_map]
  rfl

theorem asI32_eq {n : Nat} (h : n < 2 ^ 31) : asI32 n = n := by
  unfold asI32
  apply Int.bmod_eq_of_le_mul_two <;> omega

structure MatrixCell where
  subtaskId : Uuid
  groupName : String
  sigAlg : String
  resultStatus : ResultStatus
  execStatus : ExecStatus
  deriving DecidableEq, Repr

structure Matrix where
  groups : List String
  sigAlgs : List String
  cells : List MatrixCell
  deriving DecidableEq, Repr

def MatrixCell.ofRow (row : SubtaskRow) : MatrixCell :=
  {
    subtaskId := row.id
    groupName := row.groupName
    sigAlg := row.sigAlg
    resultStatus := row.resultStatus
    execStatus := row.execStatus
  }

def orderedSubtasks (db : Db) (testId : Uuid) : List SubtaskRow :=
  (db.subtasksOf testId).mergeSort (fun a b => a.ordinal ≤ b.ordinal)

theorem mem_orderedSubtasks {db : Db} {testId : Uuid} {row : SubtaskRow}
    : row ∈ orderedSubtasks db testId ↔ row ∈ db.subtasksOf testId :=
  List.mem_mergeSort

def getMatrix (db : Db) (testId : Uuid) : Except ApiError Matrix :=
  match db.test? testId with
  | none => .error (.notFound "test")
  | some _ =>
    let rows := orderedSubtasks db testId
    .ok {
      groups := Grid.firsts (rows.map SubtaskRow.groupName)
      sigAlgs := Grid.firsts (rows.map SubtaskRow.sigAlg)
      cells := rows.map MatrixCell.ofRow
    }

section Rows

variable (env : CreateEnv) (config : Config) (body : NewTest) (groups sigAlgs : List String)

theorem createdRows_eq
    : createdRows env body groups sigAlgs
        =
      (groups ×ˢ sigAlgs).mapIdx (fun n cell =>
        {
          id := env.subtaskId n
          testId := env.testId
          ordinal := asI32 n
          groupName := cell.1
          sigAlg := cell.2
        }) := by
  unfold createdRows subtaskRows
  rw [unnest_expand, List.mapIdx_mapIdx]
  rfl

theorem length_createdRows
    : (createdRows env body groups sigAlgs).length = groups.length * sigAlgs.length := by
  rw [createdRows_eq, List.length_mapIdx, List.length_product]

theorem map_pair_createdRows
    : (createdRows env body groups sigAlgs).map (fun row => (row.groupName, row.sigAlg))
        =
      groups ×ˢ sigAlgs := by
  rw [createdRows_eq]
  apply List.ext_getElem
  . simp
  . intro n _ _
    simp

variable {env config body groups sigAlgs}

theorem map_ordinal_createdRows (h : groups.length * sigAlgs.length < 2 ^ 31)
    : (createdRows env body groups sigAlgs).map SubtaskRow.ordinal
        =
      (List.range (groups.length * sigAlgs.length)).map Int.ofNat := by
  rw [createdRows_eq]
  apply List.ext_getElem
  . rw [List.length_map, List.length_mapIdx, List.length_product, List.length_map, List.length_range]
  . intro n hn _
    rw [List.length_map, List.length_mapIdx, List.length_product] at hn
    have hlt : n < 2 ^ 31 := by omega
    simp only [List.getElem_map, List.getElem_mapIdx, List.getElem_range]
    rw [asI32_eq hlt]
    rfl

theorem testId_of_mem_createdRows {row : SubtaskRow} (h : row ∈ createdRows env body groups sigAlgs)
    : row.testId = env.testId := by
  rw [createdRows_eq, List.mem_mapIdx] at h
  obtain ⟨n, hn, rfl⟩ := h
  rfl

theorem execStatus_of_mem_createdRows {row : SubtaskRow}
    (h : row ∈ createdRows env body groups sigAlgs) : row.execStatus = .queued := by
  rw [createdRows_eq, List.mem_mapIdx] at h
  obtain ⟨n, hn, rfl⟩ := h
  rfl

theorem resultStatus_of_mem_createdRows {row : SubtaskRow}
    (h : row ∈ createdRows env body groups sigAlgs) : row.resultStatus = .pending := by
  rw [createdRows_eq, List.mem_mapIdx] at h
  obtain ⟨n, hn, rfl⟩ := h
  rfl

theorem createdJobs_perm
    : (createdJobs env config body groups sigAlgs).Perm
        ((createdRows env body groups sigAlgs).map (fun row =>
          jobOf config (adapterFor body.plugin config.defaultAdapter) (testRow env body groups sigAlgs)
            (inserted row))) := by
  unfold createdJobs
  have hperm := (env.returning_perm ((createdRows env body groups sigAlgs).map inserted)).map
    (jobOf config (adapterFor body.plugin config.defaultAdapter) (testRow env body groups sigAlgs))
  rwa [List.map_map] at hperm

end Rows

namespace State

/--
What the constraints of the tables guarantee at any time.
-/
structure Lawful (s : State) : Prop where
  tests : (s.tests.map (fun row => row.id)).Nodup
  subtasks : SubtaskKeys s.subtasks
  references : ∀ row ∈ s.subtasks, row.testId ∈ s.tests.map (fun row => row.id)

/--
The jobs on the stream are for distinct subtasks, each of the test the job names.
-/
structure Fed (s : State) : Prop where
  row_of_job : ∀ job ∈ s.probeStream,
    ∃ row ∈ s.subtasks, row.id = job.subtaskId ∧ row.testId = job.testId
  nodup : (s.probeStream.map ProbeJob.subtaskId).Nodup

end State

section Invariants

variable {env : CreateEnv} {config : Config} {body : NewTest} {s : State}
variable {groups sigAlgs : List String} {queued : List ProbeJob}

theorem lawful_committed (hs : s.Lawful) (h : Accepted env config body s groups sigAlgs)
    : (committed env body s groups sigAlgs queued).Lawful := by
  unfold committed
  constructor
  case tests =>
    rw [List.map_append, List.nodup_append]
    refine ⟨hs.tests, List.nodup_singleton _, ?_⟩
    rintro id hid _ hmem rfl
    have hnew : id = env.testId := List.mem_singleton.mp hmem
    exact h.fresh (hnew ▸ hid)
  case subtasks => exact h.keys
  case references =>
    intro row hrow
    rw [List.mem_append] at hrow
    rw [List.map_append, List.mem_append]
    rcases hrow with hrow | hrow
    . exact .inl (hs.references row hrow)
    . right
      rw [testId_of_mem_createdRows hrow, List.map_singleton, List.mem_singleton]
      rfl

theorem lawful_createTest (hs : s.Lawful)
    : ((createTest env config body).eval s).2.Lawful := by
  rcases createTest_cases env config body s with ⟨err, heval⟩ | ⟨groups, sigAlgs, haccepted, heval⟩
  . rw [heval]
    exact hs
  . rw [heval]
    exact lawful_committed hs haccepted

theorem subtasksOf_committed (hs : s.Lawful) (h : Accepted env config body s groups sigAlgs)
    : (committed env body s groups sigAlgs queued).db.subtasksOf env.testId
        =
      createdRows env body groups sigAlgs := by
  have hold : s.subtasks.filter (fun row => row.testId = env.testId) = [] := by
    rw [List.filter_eq_nil_iff]
    intro row hrow hid
    rw [decide_eq_true_eq] at hid
    exact h.fresh (hid ▸ hs.references row hrow)
  have hnew : (createdRows env body groups sigAlgs).filter (fun row => row.testId = env.testId)
      = createdRows env body groups sigAlgs := by
    rw [List.filter_eq_self]
    intro row hrow
    simpa using testId_of_mem_createdRows hrow
  unfold Db.subtasksOf State.db committed
  dsimp only
  rw [List.filter_append, hold, hnew, List.nil_append]

theorem test?_committed (h : Accepted env config body s groups sigAlgs)
    : (committed env body s groups sigAlgs queued).db.test? env.testId
        =
      some (testRow env body groups sigAlgs).toTestRow := by
  unfold Db.test? State.db committed
  dsimp only
  rw [List.map_append, List.find?_append]
  have hold : (s.tests.map Test.toTestRow).find? (fun row => row.id = env.testId) = none := by
    rw [List.find?_eq_none]
    intro row hrow hid
    obtain ⟨test, htest, rfl⟩ := List.mem_map.mp hrow
    rw [decide_eq_true_eq] at hid
    exact h.fresh (List.mem_map.mpr ⟨test, htest, hid⟩)
  rw [hold]
  simp [testRow]

theorem orderedSubtasks_committed (hs : s.Lawful) (h : Accepted env config body s groups sigAlgs)
    (hlt : groups.length * sigAlgs.length < 2 ^ 31)
    : orderedSubtasks (committed env body s groups sigAlgs queued).db env.testId
        =
      createdRows env body groups sigAlgs := by
  unfold orderedSubtasks
  rw [subtasksOf_committed hs h]
  apply List.mergeSort_of_pairwise
  simp only [decide_eq_true_eq]
  rw [← List.pairwise_map (f := SubtaskRow.ordinal) (R := (· ≤ ·)), map_ordinal_createdRows hlt,
    List.pairwise_map]
  apply List.Pairwise.imp _ List.pairwise_lt_range
  intro a b hab
  exact Int.ofNat_le.mpr (Nat.le_of_lt hab)

theorem getMatrix_committed (hs : s.Lawful) (h : Accepted env config body s groups sigAlgs)
    (hlt : groups.length * sigAlgs.length < 2 ^ 31) (hgroups : groups.Nodup) (hsigAlgs : sigAlgs.Nodup)
    (hgroups' : groups ≠ []) (hsigAlgs' : sigAlgs ≠ [])
    : getMatrix (committed env body s groups sigAlgs queued).db env.testId
        =
      .ok ⟨groups, sigAlgs, (createdRows env body groups sigAlgs).map MatrixCell.ofRow⟩ := by
  have hfst : (createdRows env body groups sigAlgs).map SubtaskRow.groupName
      = (groups ×ˢ sigAlgs).map Prod.fst := by
    rw [← map_pair_createdRows env body groups sigAlgs, List.map_map]
    rfl
  have hsnd : (createdRows env body groups sigAlgs).map SubtaskRow.sigAlg
      = (groups ×ˢ sigAlgs).map Prod.snd := by
    rw [← map_pair_createdRows env body groups sigAlgs, List.map_map]
    rfl
  unfold getMatrix
  rw [test?_committed h]
  dsimp only
  rw [orderedSubtasks_committed hs h hlt, hfst, hsnd, Grid.firsts_map_fst_product hgroups hsigAlgs',
    Grid.firsts_map_snd_product hgroups' hsigAlgs]

end Invariants

def JobsFor (config : Config) (body : NewTest) (test : Test) (rows : List SubtaskRow)
    (jobs : List ProbeJob) : Prop :=
  jobs.Perm (rows.map (fun row =>
    {
      testId := test.id
      subtaskId := row.id
      host := test.host
      port := .ofInt test.port
      httpPath := test.httpPath
      adapter := adapterFor body.plugin config.defaultAdapter
      groupName := row.groupName
      sigAlg := row.sigAlg
      timeoutMs := config.probeTimeoutMs
    }))

structure Expands (config : Config) (body : NewTest) (groups sigAlgs : List String) (s : State)
    (test : Test) (s' : State) (rows : List SubtaskRow) (jobs : List ProbeJob) : Prop where
  subtasks : s'.subtasks = s.subtasks ++ rows
  ofTest : s'.db.subtasksOf test.id = rows
  length : rows.length = groups.length * sigAlgs.length
  cell : ∀ i j (hi : i < groups.length) (hj : j < sigAlgs.length),
    ∃ row, rows[i * sigAlgs.length + j]? = some row
      ∧ row.ordinal = Int.ofNat (i * sigAlgs.length + j)
      ∧ row.groupName = groups[i]
      ∧ row.sigAlg = sigAlgs[j]
  ordinals : rows.map SubtaskRow.ordinal = (List.range (groups.length * sigAlgs.length)).map Int.ofNat
  ids : (rows.map SubtaskRow.id).Nodup
  probeStream : s'.probeStream = s.probeStream ++ jobs
  jobs : JobsFor config body test rows jobs

/--
A matrix with these axes, and row by row the cell of each pair, which is that of the row with its ordinal.
-/
structure Tabulates (groups sigAlgs : List String) (rows : List SubtaskRow) (matrix : Matrix) : Prop where
  groups_eq : matrix.groups = groups
  sigAlgs_eq : matrix.sigAlgs = sigAlgs
  length : matrix.cells.length = groups.length * sigAlgs.length
  cell : ∀ i j (hi : i < groups.length) (hj : j < sigAlgs.length),
    ∃ row cell, rows[i * sigAlgs.length + j]? = some row
      ∧ matrix.cells[i * sigAlgs.length + j]? = some cell
      ∧ cell.subtaskId = row.id
      ∧ cell.groupName = groups[i]
      ∧ cell.sigAlg = sigAlgs[j]
      ∧ cell.resultStatus = row.resultStatus
      ∧ cell.execStatus = row.execStatus

section Expansion

variable {env : CreateEnv} {config : Config} {body : NewTest} {s s' : State} {test : Test}

theorem createTest_ok (h : (createTest env config body).eval s = (.ok test, s'))
    : ∃ groups sigAlgs, Accepted env config body s groups sigAlgs
        ∧ test = testRow env body groups sigAlgs
        ∧ s' = committed env body s groups sigAlgs (createdJobs env config body groups sigAlgs) := by
  rcases createTest_cases env config body s with ⟨err, heval⟩ | ⟨groups, sigAlgs, haccepted, heval⟩
  . rw [heval] at h
    cases h
  . rw [heval] at h
    unfold reply enqueueError queuedJobs at h
    refine ⟨groups, sigAlgs, haccepted, ?_⟩
    cases hserialise : env.fails .serialise with
    | some err => simp [hserialise] at h
    | none =>
      cases hpipeline : env.fails .pipeline with
      | some err => simp [hserialise, hpipeline] at h
      | none =>
        rw [hserialise, hpipeline] at h
        cases h
        exact ⟨rfl, rfl⟩

theorem getElem?_createdRows {groups sigAlgs : List String} {i j : Nat} (hi : i < groups.length)
    (hj : j < sigAlgs.length) (hlt : groups.length * sigAlgs.length < 2 ^ 31)
    : ∃ row, (createdRows env body groups sigAlgs)[i * sigAlgs.length + j]? = some row
        ∧ row.ordinal = Int.ofNat (i * sigAlgs.length + j)
        ∧ row.groupName = groups[i]
        ∧ row.sigAlg = sigAlgs[j] := by
  have hidx : i * sigAlgs.length + j < groups.length * sigAlgs.length := by
    calc i * sigAlgs.length + j
      _ < i * sigAlgs.length + sigAlgs.length := by omega
      _ = (i + 1) * sigAlgs.length := (Nat.succ_mul _ _).symm
      _ ≤ groups.length * sigAlgs.length := Nat.mul_le_mul_right _ hi
  have hordinal := asI32_eq (Nat.lt_trans hidx hlt)
  rw [createdRows_eq, List.getElem?_mapIdx, Grid.getElem?_product hi hj]
  refine ⟨_, rfl, ?_, rfl, rfl⟩
  dsimp only
  rw [hordinal]
  rfl

/--
Expansion and matrix agree: an accepted request becomes one subtask and one job for each pair of its
two axes, and the matrix that is read back from the rows has the same axes and the cell of each pair in
its place.
-/
theorem createTest_expands (hs : s.Lawful) (hmax : config.maxSubtasksPerTest ≤ 2 ^ 31 - 1)
    (hgroups : dedupe body.groups ≠ []) (hsigAlgs : dedupe body.sigAlgs ≠ [])
    (hok : (createTest env config body).eval s = (.ok test, s'))
    : ∃ rows jobs matrix,
        Expands config body (dedupe body.groups) (dedupe body.sigAlgs) s test s' rows jobs
          ∧ getMatrix s'.db test.id = .ok matrix
          ∧ Tabulates (dedupe body.groups) (dedupe body.sigAlgs) rows matrix := by
  obtain ⟨groups, sigAlgs, haccepted, rfl, rfl⟩ := createTest_ok hok
  obtain ⟨hgroups', hsigAlgs', hle⟩ := validate_ok haccepted.axes
  rw [← hgroups'] at hgroups ⊢
  rw [← hsigAlgs'] at hsigAlgs ⊢
  have hlt : groups.length * sigAlgs.length < 2 ^ 31 := by omega
  have hmatrix := @getMatrix_committed env config body s groups sigAlgs
    (createdJobs env config body groups sigAlgs) hs haccepted hlt (hgroups' ▸ Grid.nodup_firsts _)
    (hsigAlgs' ▸ Grid.nodup_firsts _) hgroups hsigAlgs
  refine ⟨createdRows env body groups sigAlgs, createdJobs env config body groups sigAlgs, _, ?_, hmatrix, ?_⟩
  . constructor
    case subtasks => rfl
    case ofTest => exact subtasksOf_committed hs haccepted
    case length => apply length_createdRows
    case cell => exact fun i j hi hj => getElem?_createdRows hi hj hlt
    case ordinals => exact map_ordinal_createdRows hlt
    case ids =>
      have hnodup := haccepted.keys.id
      rw [List.map_append] at hnodup
      exact hnodup.of_append_right
    case probeStream => rfl
    case jobs => exact createdJobs_perm
  . constructor
    case groups_eq => rfl
    case sigAlgs_eq => rfl
    case length =>
      dsimp only
      rw [List.length_map, length_createdRows]
    case cell =>
      intro i j hi hj
      obtain ⟨row, hrow, -, hgroup, hsigAlg⟩ := @getElem?_createdRows env body groups sigAlgs i j hi hj hlt
      refine ⟨row, MatrixCell.ofRow row, hrow, ?_, rfl, hgroup, hsigAlg, rfl, rfl⟩
      dsimp only
      rw [List.getElem?_map, hrow]
      rfl

/--
A lab with one group and two signature algorithms, whose database returns rows last to first.
-/
def labConfig : Config :=
  {
    maxSubtasksPerTest := 512
    probeTimeoutMs := 15000
    defaultAdapter := "openssl"
  }

def labState : State :=
  {
    algorithms := [⟨"kem_group", "X25519MLKEM768"⟩, ⟨"sig_alg", "mldsa44"⟩, ⟨"sig_alg", "mldsa65"⟩]
    tests := []
    subtasks := []
    probeStream := []
  }

def labCreateEnv : CreateEnv :=
  {
    now := 0
    testId := 1
    subtaskId := fun n => n + 2
    returning := List.reverse
    returning_perm := List.reverse_perm
  }

def labBody : NewTest :=
  {
    host := "tls-good"
    port := 443
    tool := "pq-dsa"
    plugin := "open3x"
    groups := ["X25519MLKEM768"]
    sigAlgs := ["mldsa65", " mldsa65 ", "mldsa44", ""]
  }

theorem labState_lawful : labState.Lawful := by
  constructor
  . decide
  . decide
  . simp [labState]

theorem createTest_expands_lab
    : ∃ test s' rows jobs matrix,
        Expands labConfig labBody (dedupe labBody.groups) (dedupe labBody.sigAlgs) labState test s' rows
            jobs
          ∧ getMatrix s'.db test.id = .ok matrix
          ∧ Tabulates (dedupe labBody.groups) (dedupe labBody.sigAlgs) rows matrix := by
  have hok : (createTest labCreateEnv labConfig labBody).eval labState
      = (.ok (testRow labCreateEnv labBody ["X25519MLKEM768"] ["mldsa65", "mldsa44"]),
        committed labCreateEnv labBody labState ["X25519MLKEM768"] ["mldsa65", "mldsa44"]
          (createdJobs labCreateEnv labConfig labBody ["X25519MLKEM768"] ["mldsa65", "mldsa44"])) := by
    rfl
  exact ⟨_, _, createTest_expands labState_lawful (by decide) (by decide) (by decide) hok⟩

end Expansion

end api

end PqCas
