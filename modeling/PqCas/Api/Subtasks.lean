import PqCas.Api.Matrix
import PqCas.Lib.Neighbours
import PqCas.Worker.Effect

/-!
The subtask drawer (`routes/subtasks.rs`), whose Previous and Next buttons walk the matrix.
-/

namespace PqCas

namespace api

structure SubtaskDetail where
  subtask : SubtaskRow
  title : String
  report : Option SubtaskReportRow
  previousId : Option Uuid
  nextId : Option Uuid
  position : Int
  total : Nat

/--
The neighbours are by ordinal within the same test.
-/
def getSubtask (db : Db) (id : Uuid) : Except ApiError SubtaskDetail :=
  match db.subtask? id with
  | none => .error (.notFound "subtask")
  | some subtask =>
    let rows := db.subtasksOf subtask.testId
    .ok {
      subtask := subtask
      title := s!"{subtask.groupName} × {subtask.sigAlg}"
      report := db.subtaskReports.find? (fun row => row.subtaskId = id)
      previousId := (Neighbours.previous SubtaskRow.ordinal rows subtask.ordinal).map SubtaskRow.id
      nextId := (Neighbours.next SubtaskRow.ordinal rows subtask.ordinal).map SubtaskRow.id
      position := subtask.ordinal + 1
      total := rows.length
    }

/--
The drawer of `id` has `next` behind its Next button.
-/
def Next (db : Db) (id : Uuid) (next : Option Uuid) : Prop :=
  ∃ detail, getSubtask db id = .ok detail ∧ detail.nextId = next

def Previous (db : Db) (id : Uuid) (previous : Option Uuid) : Prop :=
  ∃ detail, getSubtask db id = .ok detail ∧ detail.previousId = previous

section Ordered

variable {db : Db} {testId : Uuid}

theorem perm_orderedSubtasks (db : Db) (testId : Uuid)
    : (db.subtasksOf testId).Perm (orderedSubtasks db testId) :=
  (List.mergeSort_perm _ _).symm

theorem pairwise_orderedSubtasks (h : SubtaskKeys db.subtasks) (testId : Uuid)
    : (orderedSubtasks db testId).Pairwise (fun a b => a.ordinal < b.ordinal) := by
  have hle : (orderedSubtasks db testId).Pairwise (fun a b => decide (a.ordinal ≤ b.ordinal) = true) := by
    apply List.pairwise_mergeSort
    . intro a b c hab hbc
      simp only [decide_eq_true_eq] at hab hbc ⊢
      omega
    . intro a b
      simp only [Bool.or_eq_true, decide_eq_true_eq]
      omega
  have hne : (orderedSubtasks db testId).Pairwise (fun a b => a.ordinal ≠ b.ordinal) := by
    rw [← List.pairwise_map (f := SubtaskRow.ordinal) (R := (· ≠ ·)), ← List.nodup_iff_pairwise_ne,
      ← ((perm_orderedSubtasks db testId).map SubtaskRow.ordinal).nodup_iff]
    have hpairs : ((db.subtasksOf testId).map (fun row => (row.testId, row.ordinal))).Nodup :=
      h.ordinal.sublist (List.filter_sublist.map _)
    have hsame : (db.subtasksOf testId).map (fun row => (row.testId, row.ordinal))
        = ((db.subtasksOf testId).map SubtaskRow.ordinal).map (fun ordinal => (testId, ordinal)) := by
      rw [List.map_map]
      apply List.map_congr_left
      intro row hrow
      have hid : row.testId = testId := by simpa [Db.subtasksOf] using (List.mem_filter.mp hrow).2
      simp [hid]
    rw [hsame] at hpairs
    exact hpairs.of_map
  apply (hle.and hne).imp
  intro a b hab
  have := hab.1
  have := hab.2
  simp only [decide_eq_true_eq] at *
  omega

theorem subtask?_of_mem (h : SubtaskKeys db.subtasks) {row : SubtaskRow} (hrow : row ∈ db.subtasks)
    : db.subtask? row.id = some row := by
  unfold Db.subtask?
  cases hfound : db.subtasks.find? (fun r => r.id = row.id) with
  | none =>
    rw [List.find?_eq_none] at hfound
    exact absurd (by simp) (hfound row hrow)
  | some found =>
    have hid : found.id = row.id := by simpa using List.find?_some hfound
    rw [List.inj_on_of_nodup_map h.id (List.mem_of_find?_eq_some hfound) hrow hid]

theorem getSubtask_of_split (h : SubtaskKeys db.subtasks) {pre post : List SubtaskRow} {row : SubtaskRow}
    (hsplit : orderedSubtasks db testId = pre ++ row :: post)
    : ∃ detail, getSubtask db row.id = .ok detail
        ∧ detail.previousId = pre.getLast?.map SubtaskRow.id
        ∧ detail.nextId = post.head?.map SubtaskRow.id
        ∧ detail.position = row.ordinal + 1
        ∧ detail.total = (orderedSubtasks db testId).length := by
  have hrow : row ∈ orderedSubtasks db testId := by
    rw [hsplit]
    exact List.mem_append_right _ List.mem_cons_self
  obtain ⟨hmem, rfl⟩ := Db.mem_subtasksOf.mp (mem_orderedSubtasks.mp hrow)
  have hperm := perm_orderedSubtasks db row.testId
  have hsorted := pairwise_orderedSubtasks h row.testId
  unfold getSubtask
  rw [subtask?_of_mem h hmem]
  refine ⟨_, rfl, ?_, ?_, rfl, hperm.length_eq⟩
  . rw [hsplit] at hperm hsorted
    dsimp only
    rw [Neighbours.previous_eq hperm hsorted]
  . rw [hsplit] at hperm hsorted
    dsimp only
    rw [Neighbours.next_eq hperm hsorted]

theorem exists_split (h : SubtaskKeys db.subtasks) {id : Uuid} {detail : SubtaskDetail}
    (hdetail : getSubtask db id = .ok detail)
    : ∃ testId pre row post,
        orderedSubtasks db testId = pre ++ row :: post
          ∧ row.id = id
          ∧ detail.previousId = pre.getLast?.map SubtaskRow.id
          ∧ detail.nextId = post.head?.map SubtaskRow.id := by
  cases hfound : db.subtask? id with
  | none =>
    unfold getSubtask at hdetail
    rw [hfound] at hdetail
    cases hdetail
  | some row =>
    have hid : row.id = id := by
      unfold Db.subtask? at hfound
      simpa using List.find?_some hfound
    have hmem : row ∈ db.subtasks := by
      unfold Db.subtask? at hfound
      exact List.mem_of_find?_eq_some hfound
    obtain ⟨pre, post, hsplit⟩ := List.append_of_mem (mem_orderedSubtasks.mpr (Db.mem_subtasksOf.mpr ⟨hmem, rfl⟩))
    obtain ⟨detail', hdetail', hprevious, hnext, -, -⟩ := getSubtask_of_split h hsplit
    rw [hid, hdetail] at hdetail'
    cases hdetail'
    exact ⟨row.testId, pre, row, post, hsplit, hid, hprevious, hnext⟩

def Adjacent (db : Db) (a b : Uuid) : Prop :=
  ∃ testId pre row row' post,
    orderedSubtasks db testId = pre ++ row :: row' :: post ∧ row.id = a ∧ row'.id = b

theorem next_iff_adjacent (h : SubtaskKeys db.subtasks) (a b : Uuid) : Next db a (some b) ↔ Adjacent db a b := by
  constructor
  . rintro ⟨detail, hdetail, hnext⟩
    obtain ⟨testId, pre, row, post, hsplit, hid, -, hnext'⟩ := exists_split h hdetail
    rw [hnext] at hnext'
    cases post with
    | nil => cases hnext'
    | cons row' post =>
      cases hnext'
      exact ⟨testId, pre, row, row', post, hsplit, hid, rfl⟩
  . rintro ⟨testId, pre, row, row', post, hsplit, rfl, rfl⟩
    obtain ⟨detail, hdetail, -, hnext, -, -⟩ := getSubtask_of_split h hsplit
    exact ⟨detail, hdetail, hnext⟩

theorem previous_iff_adjacent (h : SubtaskKeys db.subtasks) (a b : Uuid)
    : Previous db b (some a) ↔ Adjacent db a b := by
  constructor
  . rintro ⟨detail, hdetail, hprevious⟩
    obtain ⟨testId, pre, row, post, hsplit, hid, hprevious', -⟩ := exists_split h hdetail
    rw [hprevious] at hprevious'
    obtain ⟨row', hlast, hid'⟩ := Option.map_eq_some_iff.mp hprevious'.symm
    obtain ⟨front, rfl⟩ := List.getLast?_eq_some_iff.mp hlast
    refine ⟨testId, front, row', row, post, ?_, hid', hid⟩
    rw [hsplit, List.append_assoc]
    rfl
  . rintro ⟨testId, pre, row, row', post, hsplit, rfl, rfl⟩
    have hback : orderedSubtasks db testId = (pre ++ [row]) ++ row' :: post := by
      rw [hsplit, List.append_assoc]
      rfl
    obtain ⟨detail, hdetail, hprevious, -, -, -⟩ := getSubtask_of_split h hback
    refine ⟨detail, hdetail, ?_⟩
    rw [hprevious, List.getLast?_concat]
    rfl

theorem walk_orderedSubtasks (h : SubtaskKeys db.subtasks) {row : SubtaskRow} {rest : List SubtaskRow}
    (hrows : orderedSubtasks db testId = row :: rest)
    : Neighbours.Walk (Next db) row.id (row.id :: rest.map SubtaskRow.id) := by
  apply Neighbours.walk_of_splits
  intro pre id post hsplit
  rw [← List.map_cons (f := SubtaskRow.id), ← hrows] at hsplit
  obtain ⟨pre', tail, hrows', rfl, htail⟩ := List.map_eq_append_iff.mp hsplit
  obtain ⟨row', post', rfl, rfl, rfl⟩ := List.map_eq_cons_iff.mp htail
  obtain ⟨detail, hdetail, -, hnext, -, -⟩ := getSubtask_of_split h hrows'
  rw [List.head?_map]
  exact ⟨detail, hdetail, hnext⟩

end Ordered

section Layout

structure SameLayout (db db' : Db) : Prop where
  tests : db'.tests.map TestRow.id = db.tests.map TestRow.id
  subtasks : db'.subtasks.map SubtaskRow.key = db.subtasks.map SubtaskRow.key

theorem SameLayout.refl (db : Db) : SameLayout db db :=
  ⟨rfl, rfl⟩

theorem SameLayout.trans {db₁ db₂ db₃ : Db} (h : SameLayout db₁ db₂) (h' : SameLayout db₂ db₃)
    : SameLayout db₁ db₃ :=
  ⟨h'.tests.trans h.tests, h'.subtasks.trans h.subtasks⟩

theorem sameLayout_statement {fault : Option Err} {w : World} {db : Except Err Db}
    (h : ∀ db', db = .ok db' → SameLayout w.db db') : SameLayout w.db (Env.statement fault w db).2.db := by
  unfold Env.statement
  split
  . exact .refl _
  . exact .refl _
  . exact h _ rfl

theorem sameLayout_exec (env : Env) (op : Op) (w : World) : SameLayout w.db (env.exec op w).2.db := by
  cases op with
  | markTestRunning id | closeTest id status =>
    apply sameLayout_statement
    rintro _ ⟨⟩
    exact ⟨Table.map_updateWhere TestRow.id (fun _ => rfl), rfl⟩
  | markSubtaskRunning id | markSubtaskError id reason =>
    apply sameLayout_statement
    rintro _ ⟨⟩
    exact ⟨rfl, Table.map_updateWhere SubtaskRow.key (fun _ => rfl)⟩
  | saveReport id result response =>
    apply sameLayout_statement
    intro db' h
    obtain ⟨htests, hsub, -⟩ := Db.of_saveReport h
    constructor
    . rw [htests]
    . rw [hsub]
      exact Table.map_updateWhere SubtaskRow.key (fun _ => rfl)
  | startKemRun id | finishKemRun id status =>
    apply sameLayout_statement
    rintro _ ⟨⟩
    exact ⟨rfl, rfl⟩
  | insertKemLog line =>
    apply sameLayout_statement
    intro db' h
    unfold Db.insertKemLog at h
    split at h
    . cases h
    . split at h
      . cases h
      . cases h
        exact ⟨rfl, rfl⟩
  | upsertKemCell cell =>
    apply sameLayout_statement
    intro db' h
    unfold Db.upsertKemCell at h
    split at h
    . cases h
    . cases h
      exact ⟨rfl, rfl⟩
  | countSubtasks id =>
    unfold Env.exec
    dsimp only
    split
    . exact .refl _
    . exact .refl _
  | publish channel event =>
    unfold Env.exec
    dsimp only
    split
    . exact .refl _
    . exact .refl _
  | ack stream id =>
    unfold Env.exec
    dsimp only
    split
    . exact .refl _
    . exact .refl _
  | utcNow | cachedCapabilities | fetchCapabilities | cacheCapabilities | postProbe => exact .refl _

def statements (steps : List (Env × Op)) (w : World) : World :=
  steps.foldl (fun w step => (step.1.exec step.2 w).2) w

theorem sameLayout_statements (steps : List (Env × Op)) (w : World)
    : SameLayout w.db (statements steps w).db := by
  induction steps generalizing w with
  | nil => exact .refl _
  | cons step steps ih => exact (sameLayout_exec step.1 step.2 w).trans (ih _)

variable {db db' : Db} {testId : Uuid}

theorem SameLayout.keys (h : SameLayout db db') (hkeys : SubtaskKeys db.subtasks) : SubtaskKeys db'.subtasks := by
  have hmap : ∀ {γ : Type} (f : Uuid × Uuid × Int × String × String → γ),
      db'.subtasks.map (fun row => f (SubtaskRow.key row)) = db.subtasks.map (fun row => f (SubtaskRow.key row)) := by
    intro γ f
    have heq := congrArg (List.map f) h.subtasks
    rw [List.map_map, List.map_map] at heq
    exact heq
  constructor
  case id => exact (hmap (fun p => p.1)) ▸ hkeys.id
  case pair => exact (hmap (fun p => (p.2.1, p.2.2.2.1, p.2.2.2.2))) ▸ hkeys.pair
  case ordinal => exact (hmap (fun p => (p.2.1, p.2.2.1))) ▸ hkeys.ordinal

theorem SameLayout.subtasksOf (h : SameLayout db db') (testId : Uuid)
    : (db'.subtasksOf testId).map SubtaskRow.key = (db.subtasksOf testId).map SubtaskRow.key := by
  have hfilter : ∀ rows : List SubtaskRow, (rows.filter (fun row => row.testId = testId)).map SubtaskRow.key
      = (rows.map SubtaskRow.key).filter (fun p => p.2.1 = testId) := by
    intro rows
    rw [List.filter_map]
    rfl
  unfold Db.subtasksOf
  rw [hfilter, hfilter, h.subtasks]

theorem SameLayout.ordinals (h : SameLayout db db') (hkeys : SubtaskKeys db.subtasks) {n : Nat}
    (hordinals : (db.subtasksOf testId).map SubtaskRow.ordinal = (List.range n).map Int.ofNat)
    : (orderedSubtasks db' testId).map SubtaskRow.ordinal = (List.range n).map Int.ofNat := by
  have hsame : (db'.subtasksOf testId).map SubtaskRow.ordinal = (List.range n).map Int.ofNat := by
    have heq := congrArg (List.map (fun p => p.2.2.1)) (h.subtasksOf testId)
    rw [List.map_map, List.map_map] at heq
    exact heq.trans hordinals
  have hperm := ((perm_orderedSubtasks db' testId).map SubtaskRow.ordinal).symm
  rw [hsame] at hperm
  have hsorted : ((orderedSubtasks db' testId).map SubtaskRow.ordinal).Pairwise (· < ·) := by
    rw [List.pairwise_map]
    exact pairwise_orderedSubtasks (h.keys hkeys) testId
  have hrange : ((List.range n).map Int.ofNat).Pairwise (· < ·) := by
    rw [List.pairwise_map]
    apply List.pairwise_lt_range.imp
    intro a b hab
    exact Int.ofNat_lt.mpr hab
  apply List.Perm.eq_of_pairwise _ hsorted hrange hperm
  intro a b _ _ hab hba
  omega

theorem SameLayout.test? (h : SameLayout db db') {test : TestRow} (htest : db.test? testId = some test)
    : ∃ test', db'.test? testId = some test' := by
  have hmem : testId ∈ db'.tests.map TestRow.id := by
    rw [h.tests, List.mem_map]
    unfold Db.test? at htest
    exact ⟨test, List.mem_of_find?_eq_some htest, by simpa using List.find?_some htest⟩
  obtain ⟨row, hrow, hid⟩ := List.mem_map.mp hmem
  unfold Db.test?
  cases hfound : db'.tests.find? (fun row => row.id = testId) with
  | none =>
    rw [List.find?_eq_none] at hfound
    exact absurd (by simpa using hid) (hfound row hrow)
  | some test' => exact ⟨test', rfl⟩

end Layout

section Walk

variable {env : CreateEnv} {config : Config} {body : NewTest} {s s' : State} {test : Test}

structure Walked (db : Db) (testId : Uuid) (ids : List Uuid) : Prop where
  matrix : ∃ matrix, getMatrix db testId = .ok matrix ∧ matrix.cells.map MatrixCell.subtaskId = ids
  nodup : ids.Nodup
  walk : ∃ first rest, ids = first :: rest ∧ Neighbours.Walk (Next db) first ids
  inverse : ∀ a b, Next db a (some b) ↔ Previous db b (some a)
  position : ∀ (k : Nat) (id : Uuid), ids[k]? = some id →
    ∃ detail, getSubtask db id = .ok detail ∧ detail.position = k + 1 ∧ detail.total = ids.length

theorem walked_of_ordinals {db : Db} {testId : Uuid} (hkeys : SubtaskKeys db.subtasks) {n : Nat} (hn : n ≠ 0)
    (hordinals : (orderedSubtasks db testId).map SubtaskRow.ordinal = (List.range n).map Int.ofNat)
    {row : TestRow} (htest : db.test? testId = some row)
    : Walked db testId ((orderedSubtasks db testId).map SubtaskRow.id) := by
  have hlength : (orderedSubtasks db testId).length = n := by
    have heq := congrArg List.length hordinals
    rwa [List.length_map, List.length_map, List.length_range] at heq
  constructor
  case matrix =>
    unfold getMatrix
    rw [htest]
    refine ⟨_, rfl, ?_⟩
    rw [List.map_map]
    rfl
  case nodup =>
    rw [← ((perm_orderedSubtasks db testId).map SubtaskRow.id).nodup_iff]
    exact hkeys.id.sublist (List.filter_sublist.map _)
  case walk =>
    cases hrows : orderedSubtasks db testId with
    | nil =>
      rw [hrows] at hlength
      exact absurd hlength.symm hn
    | cons first rest => exact ⟨first.id, rest.map SubtaskRow.id, rfl, walk_orderedSubtasks hkeys hrows⟩
  case inverse =>
    intro a b
    rw [next_iff_adjacent hkeys, previous_iff_adjacent hkeys]
  case position =>
    intro k id hid
    rw [List.getElem?_map] at hid
    obtain ⟨found, hfound, rfl⟩ := Option.map_eq_some_iff.mp hid
    have hordinal : found.ordinal = k := by
      have heq := congrArg (fun l => l[k]?) hordinals
      have hk : k < n := by
        rw [← hlength]
        exact (List.getElem?_eq_some_iff.mp hfound).1
      simp only [List.getElem?_map, hfound, List.getElem?_range hk, Option.map_some, Option.some.injEq] at heq
      exact heq
    obtain ⟨pre, post, hsplit⟩ := List.append_of_mem (List.mem_of_getElem? hfound)
    obtain ⟨detail, hdetail, -, -, hposition, htotal⟩ := getSubtask_of_split hkeys hsplit
    refine ⟨detail, hdetail, ?_, ?_⟩
    . rw [hposition, hordinal]
    . rw [htotal, List.length_map]

/--
Next leads through the matrix of a created test cell by cell and stops behind the last one, Previous leads
back, and the positions count the cells, whatever the workers have written since.
-/
theorem walked_createTest (hs : s.Lawful) (hmax : config.maxSubtasksPerTest ≤ 2 ^ 31 - 1)
    (hok : (createTest env config body).eval s = (.ok test, s')) (hcells : s'.db.subtasksOf test.id ≠ [])
    {w : World} (hw : w.db = s'.db) (steps : List (Env × Op))
    : ∃ ids, Walked (statements steps w).db test.id ids := by
  obtain ⟨groups, sigAlgs, haccepted, rfl, rfl⟩ := createTest_ok hok
  obtain ⟨-, -, hle⟩ := validate_ok haccepted.axes
  have hlt : groups.length * sigAlgs.length < 2 ^ 31 := by omega
  have hlayout := sameLayout_statements steps w
  rw [hw] at hlayout
  have hrows : (committed env body s groups sigAlgs
      (createdJobs env config body groups sigAlgs)).db.subtasksOf env.testId
        = createdRows env body groups sigAlgs := subtasksOf_committed hs haccepted
  have hkeys : SubtaskKeys (committed env body s groups sigAlgs
      (createdJobs env config body groups sigAlgs)).db.subtasks := haccepted.keys
  have hordinals : ((committed env body s groups sigAlgs
      (createdJobs env config body groups sigAlgs)).db.subtasksOf env.testId).map SubtaskRow.ordinal
        = (List.range (groups.length * sigAlgs.length)).map Int.ofNat := by
    rw [hrows, map_ordinal_createdRows hlt]
  have hn : groups.length * sigAlgs.length ≠ 0 := by
    intro hzero
    apply hcells
    have hlength := length_createdRows env body groups sigAlgs
    rw [hzero, List.length_eq_zero_iff] at hlength
    exact hrows.trans hlength
  obtain ⟨row, htest⟩ := hlayout.test? (test?_committed haccepted)
  exact ⟨_, walked_of_ordinals (hlayout.keys hkeys) hn (hlayout.ordinals hkeys hordinals) htest⟩

theorem walked_lab
    : ∃ test s' ids,
        (createTest labCreateEnv labConfig labBody).eval labState = (.ok test, s')
          ∧ Walked s'.db test.id ids := by
  have hok : (createTest labCreateEnv labConfig labBody).eval labState
      = (.ok (testRow labCreateEnv labBody ["X25519MLKEM768"] ["mldsa65", "mldsa44"]),
        committed labCreateEnv labBody labState ["X25519MLKEM768"] ["mldsa65", "mldsa44"]
          (createdJobs labCreateEnv labConfig labBody ["X25519MLKEM768"] ["mldsa65", "mldsa44"])) := by
    rfl
  let w : World := { db := (committed labCreateEnv labBody labState ["X25519MLKEM768"] ["mldsa65", "mldsa44"]
    (createdJobs labCreateEnv labConfig labBody ["X25519MLKEM768"] ["mldsa65", "mldsa44"])).db }
  have hw : w.db = (committed labCreateEnv labBody labState ["X25519MLKEM768"] ["mldsa65", "mldsa44"]
      (createdJobs labCreateEnv labConfig labBody ["X25519MLKEM768"] ["mldsa65", "mldsa44"])).db := rfl
  obtain ⟨ids, hids⟩ := walked_createTest labState_lawful (by decide) hok (by decide) hw []
  exact ⟨_, _, ids, hok, hids⟩

end Walk

end api

end PqCas
