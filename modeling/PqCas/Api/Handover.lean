import PqCas.Api.Matrix
import PqCas.Worker.Coherent

/-!
What `create_test` hands over to the workers: how much of a task exists after each way the request can
end, and that a task that was accepted starts out the way the workers expect it.
-/

namespace PqCas

namespace api

variable {env : CreateEnv} {config : Config} {body : NewTest} {s s' : State} {test : Test}

structure Adds (body : NewTest) (s : State) (test : Test) (rows : List SubtaskRow)
    (queued : List ProbeJob) (s' : State) : Prop where
  state : s' = { s with
    tests := s.tests ++ [test]
    subtasks := s.subtasks ++ rows
    probeStream := s.probeStream ++ queued }
  pairs : rows.map (fun row => (row.testId, row.groupName, row.sigAlg))
    = (dedupe body.groups ×ˢ dedupe body.sigAlgs).map (fun cell => (test.id, cell.1, cell.2))
  ids : (rows.map SubtaskRow.id).Nodup

def AllOrNothing (config : Config) (body : NewTest) (s : State)
    (result : Except ApiError Test × State) : Prop :=
  match result with
  | (.ok test, s') => ∃ rows jobs, JobsFor config body test rows jobs ∧ Adds body s test rows jobs s'
  | (.error _, s') => s' = s

def Stranded (config : Config) (body : NewTest) (s : State)
    (result : Except ApiError Test × State) : Prop :=
  ∃ err test rows jobs sent, result.1 = .error err
    ∧ JobsFor config body test rows jobs
    ∧ sent.Sublist jobs
    ∧ Adds body s test rows sent result.2

def EnqueueFails (env : CreateEnv) : Prop :=
  env.fails .serialise ≠ none ∨ env.fails .pipeline ≠ none

theorem queuedJobs_sublist (env : CreateEnv) (jobs : List ProbeJob)
    : (queuedJobs env jobs).Sublist jobs := by
  unfold queuedJobs
  split
  . apply List.nil_sublist
  . apply env.added_sublist
  . apply List.Sublist.refl

theorem enqueueError_eq_none_iff : enqueueError env = none ↔ ¬ EnqueueFails env := by
  unfold enqueueError EnqueueFails
  cases env.fails .serialise <;> cases env.fails .pipeline <;> simp

theorem queuedJobs_eq_self {jobs : List ProbeJob} (h : ¬ EnqueueFails env)
    : queuedJobs env jobs = jobs := by
  unfold EnqueueFails at h
  unfold queuedJobs
  cases hserialise : env.fails .serialise <;> cases hpipeline : env.fails .pipeline <;> simp_all

theorem adds_committed {groups sigAlgs : List String} {queued : List ProbeJob}
    (h : Accepted env config body s groups sigAlgs)
    : Adds body s (testRow env body groups sigAlgs) (createdRows env body groups sigAlgs) queued
        (committed env body s groups sigAlgs queued) := by
  obtain ⟨hgroups, hsigAlgs, -⟩ := validate_ok h.axes
  constructor
  case state => rfl
  case pairs =>
    rw [← hgroups, ← hsigAlgs, ← map_pair_createdRows env body groups sigAlgs, List.map_map]
    apply List.map_congr_left
    intro row hrow
    rw [testId_of_mem_createdRows hrow]
    rfl
  case ids =>
    have hnodup := h.keys.id
    rw [List.map_append] at hnodup
    exact hnodup.of_append_right

/--
Whichever step fails, a request is all or nothing, except that a failing enqueue can leave the
committed rows with some of their jobs behind an error.
-/
theorem createTest_outcome (env : CreateEnv) (config : Config) (body : NewTest) (s : State)
    : AllOrNothing config body s ((createTest env config body).eval s)
        ∨ (EnqueueFails env ∧ Stranded config body s ((createTest env config body).eval s)) := by
  rcases createTest_cases env config body s with ⟨err, heval⟩ | ⟨groups, sigAlgs, haccepted, heval⟩
  . rw [heval]
    exact .inl rfl
  . rw [heval]
    by_cases hfails : EnqueueFails env
    . right
      refine ⟨hfails, ?_⟩
      obtain ⟨err, herr⟩ : ∃ err, enqueueError env = some err := by
        rw [← Option.ne_none_iff_exists', ne_eq, enqueueError_eq_none_iff, not_not]
        exact hfails
      unfold reply
      rw [herr]
      exact ⟨err, _, _, _, _, rfl, createdJobs_perm, queuedJobs_sublist env _,
        adds_committed haccepted⟩
    . left
      unfold reply
      rw [enqueueError_eq_none_iff.mpr hfails, queuedJobs_eq_self hfails]
      exact ⟨_, _, createdJobs_perm, adds_committed haccepted⟩

def brokenPipe : CreateEnv :=
  { labCreateEnv with
    fails := fun step => if step = .pipeline then some "broken pipe" else none
    added := List.take 1
    added_sublist := List.take_sublist 1 }

/--
The request is answered with an error, while its test, both subtasks and one of the two jobs stay.
-/
theorem not_allOrNothing_brokenPipe
    : ¬ AllOrNothing labConfig labBody labState
        ((createTest brokenPipe labConfig labBody).eval labState) := by
  have heval : (createTest brokenPipe labConfig labBody).eval labState
      = (.error (.redis "broken pipe"),
        committed brokenPipe labBody labState ["X25519MLKEM768"] ["mldsa65", "mldsa44"]
          ((createdJobs brokenPipe labConfig labBody ["X25519MLKEM768"] ["mldsa65", "mldsa44"]).take 1))
      := by
    rfl
  rw [heval]
  intro h
  have htests := congrArg (fun s => s.tests.length) h
  cases htests

section Workers

variable {groups sigAlgs : List String}

theorem jobs_of_createdJobs {job : ProbeJob}
    (h : job ∈ createdJobs env config body groups sigAlgs)
    : ∃ row ∈ createdRows env body groups sigAlgs, row.id = job.subtaskId ∧ row.testId = job.testId := by
  rw [createdJobs_perm.mem_iff, List.mem_map] at h
  obtain ⟨row, hrow, rfl⟩ := h
  exact ⟨row, hrow, rfl, testId_of_mem_createdRows hrow⟩

theorem subtaskIds_createdJobs
    : ((createdJobs env config body groups sigAlgs).map ProbeJob.subtaskId).Perm
        ((createdRows env body groups sigAlgs).map SubtaskRow.id) := by
  have hperm : (createdJobs env config body groups sigAlgs).Perm _ := createdJobs_perm
  have hids := hperm.map ProbeJob.subtaskId
  rw [List.map_map] at hids
  exact hids

theorem fed_committed {queued : List ProbeJob} (hfed : s.Fed)
    (h : Accepted env config body s groups sigAlgs)
    (hqueued : queued.Sublist (createdJobs env config body groups sigAlgs))
    : (committed env body s groups sigAlgs queued).Fed := by
  have hids := h.keys.id
  rw [List.map_append, List.nodup_append] at hids
  obtain ⟨-, hnew, hdisjoint⟩ := hids
  unfold committed
  constructor
  case row_of_job =>
    intro job hjob
    rw [List.mem_append] at hjob
    rcases hjob with hjob | hjob
    . obtain ⟨row, hrow, hid⟩ := hfed.row_of_job job hjob
      exact ⟨row, List.mem_append_left _ hrow, hid⟩
    . obtain ⟨row, hrow, hid⟩ := jobs_of_createdJobs (hqueued.subset hjob)
      exact ⟨row, List.mem_append_right _ hrow, hid⟩
  case nodup =>
    rw [List.map_append, List.nodup_append]
    refine ⟨hfed.nodup, ?_, ?_⟩
    . apply List.Nodup.sublist (hqueued.map ProbeJob.subtaskId)
      exact subtaskIds_createdJobs.nodup_iff.mpr hnew
    . rintro id hid _ hid' rfl
      obtain ⟨job, hjob, rfl⟩ := List.mem_map.mp hid
      obtain ⟨row, hrow, hrowid, -⟩ := hfed.row_of_job job hjob
      have hmem := subtaskIds_createdJobs.subset ((hqueued.map ProbeJob.subtaskId).subset hid')
      exact hdisjoint row.id (List.mem_map_of_mem hrow) _ hmem hrowid

theorem fed_createTest (hfed : s.Fed) : ((createTest env config body).eval s).2.Fed := by
  rcases createTest_cases env config body s with ⟨err, heval⟩ | ⟨groups, sigAlgs, haccepted, heval⟩
  . rw [heval]
    exact hfed
  . rw [heval]
    exact fed_committed hfed haccepted (queuedJobs_sublist env _)

theorem createTest_created {serde : Serde} {queue : List (ProbeEntry serde)} (hs : s.Lawful)
    (hfed : s.Fed) (hmax : config.maxSubtasksPerTest ≤ 2 ^ 31 - 1) (hgroups : dedupe body.groups ≠ [])
    (hsigAlgs : dedupe body.sigAlgs ≠ [])
    (hok : (createTest env config body).eval s = (.ok test, s'))
    (hqueue : queue.map ProbeEntry.job = s'.probeStream) : Created queue s'.db test.id := by
  have hfed' : s'.Fed := by
    have h : ((createTest env config body).eval s).2.Fed := fed_createTest hfed
    rwa [hok] at h
  obtain ⟨groups, sigAlgs, haccepted, rfl, rfl⟩ := createTest_ok hok
  obtain ⟨hgroups', hsigAlgs', hle⟩ := validate_ok haccepted.axes
  rw [← hgroups'] at hgroups
  rw [← hsigAlgs'] at hsigAlgs
  have hof : (committed env body s groups sigAlgs (createdJobs env config body groups sigAlgs)).db.subtasksOf
      (testRow env body groups sigAlgs).id = createdRows env body groups sigAlgs :=
    subtasksOf_committed hs haccepted
  constructor
  case toQueued =>
    constructor
    case ids_nodup => exact haccepted.keys.id
    case row_of_job =>
      intro entry hentry
      apply hfed'.row_of_job
      rw [← hqueue]
      exact List.mem_map_of_mem hentry
    case job_unique =>
      have hnodup := hfed'.nodup
      rw [← hqueue, List.map_map] at hnodup
      exact fun entry hentry entry' hentry' => List.inj_on_of_nodup_map hnodup hentry hentry'
  case pending => exact ⟨_, test?_committed haccepted, rfl⟩
  case queued =>
    intro row hrow
    rw [hof] at hrow
    exact execStatus_of_mem_createdRows hrow
  case job_of_row =>
    intro row hrow
    rw [hof] at hrow
    have hid : row.id ∈ (createdJobs env config body groups sigAlgs).map ProbeJob.subtaskId :=
      subtaskIds_createdJobs.mem_iff.mpr (List.mem_map_of_mem hrow)
    obtain ⟨job, hjob, hid⟩ := List.mem_map.mp hid
    have hmem : job ∈ queue.map ProbeEntry.job := by
      rw [hqueue]
      exact List.mem_append_right _ hjob
    obtain ⟨entry, hentry, rfl⟩ := List.mem_map.mp hmem
    exact ⟨entry, hentry, hid⟩
  case nonempty =>
    rw [hof, ← List.length_pos_iff, length_createdRows]
    exact Nat.mul_pos (List.length_pos_iff.mpr hgroups) (List.length_pos_iff.mpr hsigAlgs)
  case count_lt =>
    rw [hof, length_createdRows]
    omega

theorem createTest_fresh {serde : Serde} {queue : List (ProbeEntry serde)} (hfed : s.Fed)
    (hnew : ∀ row ∈ s.subtasks, row.execStatus = .queued ∧ row.resultStatus = .pending)
    (hok : (createTest env config body).eval s = (.ok test, s'))
    (hqueue : queue.map ProbeEntry.job = s'.probeStream) : coherent.Fresh queue s'.db := by
  have hfed' : s'.Fed := by
    have h : ((createTest env config body).eval s).2.Fed := fed_createTest hfed
    rwa [hok] at h
  obtain ⟨groups, sigAlgs, haccepted, rfl, rfl⟩ := createTest_ok hok
  have hrows : ∀ row ∈ s.subtasks ++ createdRows env body groups sigAlgs,
      row.execStatus = .queued ∧ row.resultStatus = .pending := by
    intro row hrow
    rcases List.mem_append.mp hrow with hrow | hrow
    . exact hnew row hrow
    . exact ⟨execStatus_of_mem_createdRows hrow, resultStatus_of_mem_createdRows hrow⟩
  constructor
  case job_unique =>
    have hnodup := hfed'.nodup
    rw [← hqueue, List.map_map] at hnodup
    exact fun entry hentry entry' hentry' => List.inj_on_of_nodup_map hnodup hentry hentry'
  case queued => exact fun _ _ row hrow _ => (hrows row hrow).1
  case agree =>
    intro row hrow
    obtain ⟨hexec, hresult⟩ := hrows row hrow
    constructor
    case finished =>
      intro h
      rw [hexec] at h
      cases h
    case error =>
      intro h
      rw [hexec] at h
      cases h
    case queued =>
      intro _
      refine ⟨hresult, ?_⟩
      rintro ⟨report, hreport, -⟩
      cases hreport

end Workers

end api

end PqCas
