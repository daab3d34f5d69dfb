import PqCas.Kem.Journal

/-!
The console in a browser (`kem-runner.tsx`): it asks for a run, opens the event stream of the run once
it knows its id, and shows nothing but what comes in there.
-/

namespace PqCas

namespace web

namespace KemRunner

structure View where
  logs : List KemRunLogRow
  cells : List KemMatrixCellRow
  running : Bool
  closed : Bool

def started : View :=
  ⟨[], [], true, false⟩

def onMessage (runId : Uuid) (view : View) (event : Event) : View :=
  if view.closed then
    view
  else
    match event with
    | .log seq time level message =>
      { view with logs := view.logs ++ [⟨runId, seq, time, level, message⟩] }
    | .cell kem adapter verdict detail =>
      { view with
        cells := view.cells.filter (fun cell => !(cell.kem = kem && cell.adapter = adapter))
          ++ [⟨runId, kem, adapter, verdict, detail⟩] }
    | _ =>
      { view with
        running := false
        closed := true }

/--
What the browser shows once it has applied everything that was delivered to it. It subscribed when
`n` messages had been published.
-/
def view (log : List (Channel × Event)) (n : Nat) (runId : Uuid) : View :=
  (PubSub.delivered log n (.kem runId)).foldl (onMessage runId) started

structure View.Mirrors (view : View) (db : Db) (runId : Uuid) : Prop where
  logs : view.logs = api.logsInOrder db runId
  cells : view.cells.Perm (api.cellsInOrder db runId)
  running : view.running = false

section Fold

variable {runId : Uuid} {events : List Event}

theorem length_logs_foldl_le (view : View)
    : (events.foldl (onMessage runId) view).logs.length
        ≤
      view.logs.length + (events.filterMap (Event.line? runId)).length := by
  induction events generalizing view with
  | nil => simp
  | cons event events ih =>
    have hhead : (onMessage runId view event).logs.length
        ≤ view.logs.length + (event.line? runId).toList.length := by
      unfold onMessage
      split
      . omega
      . cases event <;> simp [Event.line?]
    have htail := ih (onMessage runId view event)
    rw [List.foldl_cons, List.filterMap_cons]
    cases hline : event.line? runId with
    | none =>
      simp only [hline, Option.toList_none, List.length_nil] at hhead
      dsimp only
      omega
    | some line =>
      simp only [hline, Option.toList_some, List.length_singleton] at hhead
      simp only [List.length_cons]
      omega

theorem length_cells_foldl_le (view : View)
    : (events.foldl (onMessage runId) view).cells.length
        ≤
      view.cells.length + (events.filterMap (Event.cell? runId)).length := by
  induction events generalizing view with
  | nil => simp
  | cons event events ih =>
    have hhead : (onMessage runId view event).cells.length
        ≤ view.cells.length + (event.cell? runId).toList.length := by
      unfold onMessage
      split
      . omega
      . cases event with
        | cell kem adapter verdict detail =>
          -- The filter may take a cell away.
          simp only [Event.cell?, List.length_append, List.length_singleton, Option.toList_some]
          have := List.length_filter_le (fun cell : KemMatrixCellRow =>
            !(cell.kem = kem && cell.adapter = adapter)) view.cells
          omega
        | _ => simp [Event.cell?]
    have htail := ih (onMessage runId view event)
    rw [List.foldl_cons, List.filterMap_cons]
    cases hcell : event.cell? runId with
    | none =>
      simp only [hcell, Option.toList_none, List.length_nil] at hhead
      dsimp only
      omega
    | some cell =>
      simp only [hcell, Option.toList_some, List.length_singleton] at hhead
      simp only [List.length_cons]
      omega

theorem foldl_rows (hrows : ∀ event ∈ events, event.IsRow)
    (hkeys : ((events.filterMap (Event.cell? runId)).map kem.cellKey).Nodup)
    : events.foldl (onMessage runId) started
        =
      { started with
        logs := events.filterMap (Event.line? runId)
        cells := events.filterMap (Event.cell? runId) } := by
  induction events using List.reverseRecOn with
  | nil => rfl
  | append_singleton events event ih =>
    have hlast := hrows event (by simp)
    rw [List.filterMap_append, List.map_append] at hkeys
    have hprefix := ih (fun e he => hrows e (List.mem_append_left _ he)) (List.Nodup.of_append_left hkeys)
    rw [List.foldl_append, hprefix, List.filterMap_append, List.filterMap_append]
    cases event with
    | log seq time level message => simp [onMessage, started, Event.line?, Event.cell?]
    | cell name adapter verdict detail =>
      -- No cell with this key is there yet.
      have hfree : ∀ cell ∈ events.filterMap (Event.cell? runId),
          (!(cell.kem = name && cell.adapter = adapter)) = true := by
        intro cell hcell
        rw [Bool.not_eq_true', ← Bool.not_eq_true]
        simp only [Bool.and_eq_true, decide_eq_true_eq]
        rintro ⟨rfl, rfl⟩
        have hdisj := List.disjoint_of_nodup_append hkeys
        exact hdisj (List.mem_map_of_mem hcell) (by simp [Event.cell?, kem.cellKey])
      change ({ started with
        logs := events.filterMap (Event.line? runId)
        cells := (events.filterMap (Event.cell? runId)).filter
            (fun cell => !(cell.kem = name && cell.adapter = adapter))
          ++ [⟨runId, name, adapter, verdict, detail⟩] } : View) = _
      rw [List.filter_eq_self.mpr hfree]
      simp [Event.line?, Event.cell?]
    | _ => cases hlast

theorem length_rows (hrows : ∀ event ∈ events, event.IsRow)
    : (events.filterMap (Event.line? runId)).length + (events.filterMap (Event.cell? runId)).length
        =
      events.length := by
  induction events with
  | nil => rfl
  | cons event events ih =>
    rw [List.forall_mem_cons] at hrows
    have htail := ih hrows.2
    cases event with
    | log | cell =>
      simp only [List.filterMap_cons, Event.line?, Event.cell?, List.length_cons]
      omega
    | _ => cases hrows.1

end Fold

section Mirrors

variable {runId : Uuid}

theorem foldl_over {rows : List Event} (hrows : ∀ event ∈ rows, event.IsRow)
    (hkeys : ((rows.filterMap (Event.cell? runId)).map kem.cellKey).Nodup)
    : (rows ++ [Event.finished runId]).foldl (onMessage runId) started
        =
      ⟨rows.filterMap (Event.line? runId), rows.filterMap (Event.cell? runId), false, true⟩ := by
  rw [List.foldl_append, foldl_rows hrows hkeys]
  rfl

theorem missed_nothing {entries : List (Event × Bool)} {missed events : List Event}
    (hrows : ∀ entry ∈ entries, entry.1.IsRow)
    (hsplit : missed ++ events = (entries.filter Prod.snd).map Prod.fst ++ [.finished runId])
    (hrunning : (events.foldl (onMessage runId) started).running = false)
    (hlength : entries.length
      ≤ (events.foldl (onMessage runId) started).logs.length
        + (events.foldl (onMessage runId) started).cells.length)
    : missed = [] ∧ ∀ entry ∈ entries, entry.2 = true := by
  have hannounced : ∀ event ∈ (entries.filter Prod.snd).map Prod.fst, event.IsRow := by
    intro event hevent
    obtain ⟨entry, hentry, rfl⟩ := List.mem_map.mp hevent
    exact hrows entry (List.mem_of_mem_filter hentry)
  -- The last event that came in is the end of the run.
  obtain rfl | ⟨rows, last, rfl⟩ := List.eq_nil_or_concat events
  . cases hrunning
  rw [List.concat_eq_append, ← List.append_assoc] at hsplit
  obtain ⟨hrest, hlast⟩ := List.append_inj' hsplit rfl
  cases hlast
  have hrowsD : ∀ event ∈ rows, event.IsRow :=
    fun event hevent => hannounced event (hrest ▸ List.mem_append_right _ hevent)
  -- Every row that came in is shown at most once.
  rw [List.concat_eq_append, List.foldl_append] at hlength
  have hlogs : (rows.foldl (onMessage runId) started).logs.length ≤ 0 + _ := length_logs_foldl_le started
  have hcells : (rows.foldl (onMessage runId) started).cells.length ≤ 0 + _ := length_cells_foldl_le started
  have hend : ∀ view : View, (onMessage runId view (.finished runId)).logs = view.logs
      ∧ (onMessage runId view (.finished runId)).cells = view.cells := by
    intro view
    unfold onMessage
    split <;> exact ⟨rfl, rfl⟩
  rw [List.foldl_cons, List.foldl_nil, (hend _).1, (hend _).2] at hlength
  have hshown : (rows.filterMap (Event.line? runId)).length + (rows.filterMap (Event.cell? runId)).length
      = rows.length := length_rows hrowsD
  have hsum := congrArg List.length hrest
  have hfilter := List.length_filter_le Prod.snd entries
  rw [List.length_append, List.length_map] at hsum
  constructor
  . rw [← List.length_eq_zero_iff]
    omega
  . rw [← List.length_filter_eq_length_iff]
    omega

variable {adapters : AdapterRegistry} {job : KemJob} {w w₂ w₃ : World}
variable {p₂ : Prog Op Op.Reply (Except Err Unit)} {tr₁ tr₂ : List ((op : Op) × op.Reply)}

/--
The browser subscribes in `w₂`, and in `w₃` the handler has finished. Whatever else goes on, and
whichever steps of the handler fail, it then shows the console of the tables exactly when nothing had
been published for the run before it subscribed, and no publish failed.
-/
theorem view_mirrors_iff (hnew : kem.NewRun job.runId w)
    (h₁ : kem.Handling job.runId (kem.handle adapters job).run w tr₁ p₂ w₂)
    (h₂ : kem.Handling job.runId p₂ w₂ tr₂ (.pure (.ok ())) w₃)
    : (view w₃.published w₂.published.length job.runId).Mirrors w₃.db job.runId
        ↔
      PubSub.onChannel (.kem job.runId) w₂.published = [] ∧ ∀ e ∈ tr₁ ++ tr₂, ¬ kem.Lost e := by
  obtain ⟨s₂, hconf₂, hkeeps₂⟩ :=
    kem.handling_keeps h₁ (kem.handle_narrates adapters job) (kem.keeps_empty hnew)
  obtain ⟨s, hover, hkeeps⟩ := kem.handling_keeps h₂ hconf₂ hkeeps₂
  obtain ⟨hpending, entries, hrows, hentries⟩ := hover rfl
  have hrowsW : ∀ event ∈ entries.map Prod.fst, event.IsRow := by
    intro event hevent
    obtain ⟨entry, hentry, rfl⟩ := List.mem_map.mp hevent
    exact hrows entry hentry
  have hwritten : s.written = entries.map Prod.fst ++ [.finished job.runId] := by
    simp [kem.Journal.written, hpending, hentries]
  have hlines : w₃.db.linesOf job.runId = (entries.map Prod.fst).filterMap (Event.line? job.runId) := by
    rw [hkeeps.lines, kem.Journal.lines, hwritten, List.filterMap_append]
    simp [Event.line?]
  have hcells : w₃.db.cellsOf job.runId = (entries.map Prod.fst).filterMap (Event.cell? job.runId) := by
    rw [hkeeps.cells, kem.Journal.cells, hwritten, List.filterMap_append]
    simp [Event.cell?]
  -- What was published splits where the browser subscribed.
  obtain ⟨log, hlog⟩ := kem.published_grows h₂
  have hsplit : PubSub.onChannel (.kem job.runId) w₂.published
        ++ PubSub.delivered w₃.published w₂.published.length (.kem job.runId)
      = (entries.filter Prod.snd).map Prod.fst ++ [.finished job.runId] := by
    have hall := PubSub.onChannel_eq_append_delivered w₃.published w₂.published.length
      (.kem job.runId)
    rw [hkeeps.published, kem.Journal.announced, hentries] at hall
    rw [← hlog, List.take_left, hlog] at hall
    rw [← hall]
    simp
  have hlost : (∀ e ∈ tr₁ ++ tr₂, ¬ kem.Lost e) ↔ ∀ entry ∈ entries, entry.2 = true := by
    have h := not_congr hkeeps.lost
    rw [hentries, kem.exists_mem_concat, List.nil_append] at h
    simp only [not_exists, not_or, not_and, Bool.not_eq_false, and_true] at h
    exact h
  rw [hlost]
  unfold view
  constructor
  . intro hmirrors
    apply missed_nothing hrows hsplit hmirrors.running
    have hlogs := congrArg List.length hmirrors.logs
    have hcellsLen := hmirrors.cells.length_eq
    rw [api.logsInOrder, List.length_mergeSort, hlines] at hlogs
    rw [api.cellsInOrder, List.length_mergeSort, hcells] at hcellsLen
    rw [hlogs, hcellsLen, length_rows hrowsW, List.length_map]
  . rintro ⟨hnone, hpublished⟩
    rw [hnone, List.nil_append, List.filter_eq_self.mpr hpublished] at hsplit
    have hkeys := hkeeps.keys
    rw [← hkeeps.cells, hcells] at hkeys
    have hsorted := hkeeps.sorted
    rw [← hkeeps.lines, hlines] at hsorted
    rw [hsplit, foldl_over hrowsW hkeys]
    constructor
    . rw [api.logsInOrder, hlines, List.mergeSort_of_pairwise]
      exact hsorted.imp (fun h => by simpa using Int.le_of_lt h)
    . rw [api.cellsInOrder, hcells]
      exact (List.mergeSort_perm _ _).symm
    . rfl

end Mirrors

section Lab

open kem

def labFinished : World :=
  ((handle labRegistry labJob).run.run labEnv.exec labWorld).2

def labTrace : List ((op : Op) × op.Reply) :=
  (handle labRegistry labJob).run.trace labEnv.exec labWorld

theorem newRun_labWorld : NewRun 7 labWorld :=
  ⟨rfl, rfl, rfl⟩

theorem handling_labFinished
    : Handling 7 (handle labRegistry labJob).run labWorld labTrace (.pure (.ok ())) labFinished := by
  have hok : ((handle labRegistry labJob).run.run labEnv.exec labWorld).1 = .ok () := rfl
  have h : Handling 7 (handle labRegistry labJob).run labWorld labTrace (.pure _) labFinished :=
    Prog.among_run (fun op w => ⟨labEnv, rfl⟩) _ _
  rwa [hok] at h

theorem view_mirrors_lab : (view labFinished.published 0 7).Mirrors labFinished.db 7 := by
  have hnew : NewRun labJob.runId labWorld := newRun_labWorld
  have h := (view_mirrors_iff hnew .refl handling_labFinished).mpr
  exact h ⟨rfl, not_lost_of_faultless labEnv_faultless _ _⟩

/--
The handler is through before the browser subscribes: it goes on showing an empty console that is
running, while the tables have three lines.
-/
theorem view_not_mirrors_lab
    : NewRun 7 labWorld
        ∧ Handling 7 (handle labRegistry labJob).run labWorld labTrace (.pure (.ok ())) labFinished
        ∧ (labFinished.db.linesOf 7).length = 3
        ∧ (view labFinished.published labFinished.published.length 7).running = true
        ∧ ¬ (view labFinished.published labFinished.published.length 7).Mirrors labFinished.db 7 := by
  have hrunning : (view labFinished.published labFinished.published.length 7).running = true := by
    unfold view PubSub.delivered
    rw [List.drop_length]
    rfl
  refine ⟨newRun_labWorld, handling_labFinished, rfl, hrunning, ?_⟩
  intro h
  rw [h.running] at hrunning
  cases hrunning

end Lab

end KemRunner

end web

end PqCas
