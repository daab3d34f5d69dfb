import PqCas.Web.KemRunner
import PqCas.Web.NewTestForm

/-!
The controls of the KEM DEMO (`kem-runner.tsx`): the request that starts a run, and which run the console below
them belongs to.
-/

namespace PqCas

namespace web

namespace KemRunner

open api seed NewTestForm

structure Props where
  mode : KemRunMode
  endpoints : List EndpointRow
  groups : List AlgorithmRow

/--
The state of the component. `source` is the run whose event stream was opened last, and `posting` says that the
answer to the request is awaited.
-/
structure State where
  endpoint : String
  selected : Picks String
  error : Option String
  view : View
  posting : Bool
  source : Option Uuid
  sent : List NewKemRun

def init (props : Props) : State :=
  {
    endpoint := (props.endpoints.head?.map (fun row => row.columns.slug)).getD ""
    selected := .ofList (((props.groups.filter (fun group => group.columns.enabled)).take 8).map
      (fun group => group.columns.name))
    error := none
    view := ⟨[], [], false, true⟩
    posting := false
    source := none
    sent := []
  }

def canRun (props : Props) (s : State) : Bool :=
  !(s.view.running || s.endpoint = "" || (props.mode = .groupCompat && s.selected.size = 0))

def body (props : Props) (s : State) : NewKemRun :=
  {
    mode := props.mode
    endpoint := s.endpoint
    kemGroups := if props.mode = .groupCompat then s.selected.elems else []
  }

inductive Action where
  | setEndpoint (value : String)
  | toggle (group : AlgorithmRow)
  | selectAll
  | clear
  | run
  | refused (message : String)
  | created (id : Uuid)
  | message (event : PqCas.Event)
  | failed

/--
A source that was closed reports nothing any more.
-/
inductive Step (props : Props) : State → Action → State → Prop where
  | setEndpoint {s} (value : String) (h : value ∈ props.endpoints.map (fun row => row.columns.slug))
    : Step props s (.setEndpoint value) { s with endpoint := value }
  | toggle {s} (group : AlgorithmRow) (h : group ∈ props.groups) (henabled : group.columns.enabled = true)
    : Step props s (.toggle group) { s with selected := s.selected.toggle group.columns.name }
  | selectAll {s} : Step props s .selectAll { s with selected := NewTestForm.selectAll props.groups }
  | clear {s} : Step props s .clear { s with selected := .empty }
  | run {s} (h : canRun props s = true)
    : Step props s .run
        { s with
          error := none
          view := ⟨[], [], true, true⟩
          posting := true
          sent := s.sent ++ [body props s] }
  | refused {s} (message : String) (h : s.posting = true)
    : Step props s (.refused message)
        { s with
          error := some message
          view := { s.view with running := false }
          posting := false }
  | created {s} (id : Uuid) (h : s.posting = true)
    : Step props s (.created id)
        { s with
          view := { s.view with closed := false }
          posting := false
          source := some id }
  | message {s} (id : Uuid) (event : PqCas.Event) (h : s.source = some id) (hopen : s.view.closed = false)
    : Step props s (.message event) { s with view := onMessage id s.view event }
  | failed {s} (h : s.view.closed = false)
    : Step props s .failed { s with view := { s.view with running := false, closed := true } }

abbrev Run (props : Props) : State → State → Prop :=
  Relation.ReflTransGen (fun s s' => ∃ action, Step props s action s')

inductive Trace (props : Props) : List Action → State → Prop where
  | init : Trace props [] (init props)
  | snoc {actions s action s'} (h : Trace props actions s) (hstep : Step props s action s')
    : Trace props (actions ++ [action]) s'

/--
The messages that came in since run was clicked.
-/
def Action.hear (events : List PqCas.Event) (action : Action) : List PqCas.Event :=
  match action with
  | .run => []
  | .message event => events ++ [event]
  | _ => events

def received (actions : List Action) : List PqCas.Event :=
  actions.foldl Action.hear []

def Action.created? (action : Action) : Option Uuid :=
  match action with
  | .created id => some id
  | _ => none

def verdict? (kem adapter : String) (event : PqCas.Event) : Option ResultStatus :=
  match event with
  | .cell kem' adapter' verdict _ => if kem' = kem ∧ adapter' = adapter then some verdict else none
  | _ => none

def MATRIX_ADAPTERS : List String :=
  ["openssl", "boringssl", "wolfssl", "go", "bouncycastle", "aws-lc", "nss", "circl"]

def MATRIX_KEMS : List String :=
  [
    "MLKEM1024",
    "MLKEM768",
    "SecP256r1MLKEM768",
    "SecP384r1MLKEM1024",
    "X25519Kyber768Draft00",
    "X25519MLKEM768"
  ]

/--
What `CompatibilityMatrix` shows for a KEM and a stack: a `Map` has the last entry of each key.
-/
def lookup (cells : List KemMatrixCellRow) (kem adapter : String) : ResultStatus :=
  match cells.reverse.find? (fun cell => s!"{cell.kem}|{cell.adapter}" = s!"{kem}|{adapter}") with
  | some cell => cell.verdict
  | none => .pending

section Console

variable {props : Props} {s s' : State} {actions : List Action} {action : Action} {events : List PqCas.Event}

def cellFor (cells : List KemMatrixCellRow) (kem adapter : String) : Option KemMatrixCellRow :=
  cells.find? (fun cell => cell.kem = kem && cell.adapter = adapter)

structure State.Console (s : State) (events : List PqCas.Event) : Prop where
  logs : ∀ id, s.source = some id → s.view.logs = events.filterMap (Event.line? id)
  silent : s.source = none → events = [] ∧ s.view.logs = []
  cells : ∀ cell ∈ s.view.cells, s.source = some cell.runId
  keys : (s.view.cells.map kem.cellKey).Nodup
  verdicts : ∀ kem adapter, (events.filterMap (verdict? kem adapter)).getLast?
    = (cellFor s.view.cells kem adapter).map KemMatrixCellRow.verdict
  running : s.view.running = true ↔ s.posting = true ∨ s.view.closed = false
  posting : s.posting = true → events = [] ∧ s.view.logs = [] ∧ s.view.cells = [] ∧ s.view.closed = true

theorem cellFor_onMessage (cells : List KemMatrixCellRow) (row : KemMatrixCellRow) (kem adapter : String)
    : cellFor (cells.filter (fun cell => !(cell.kem = row.kem && cell.adapter = row.adapter)) ++ [row]) kem adapter
        =
      if row.kem = kem ∧ row.adapter = adapter then some row else cellFor cells kem adapter := by
  unfold cellFor
  rw [List.find?_append, List.find?_singleton]
  by_cases hsame : row.kem = kem ∧ row.adapter = adapter
  . obtain ⟨rfl, rfl⟩ := hsame
    have hnone : (cells.filter (fun cell => !(cell.kem = row.kem && cell.adapter = row.adapter))).find?
        (fun cell => cell.kem = row.kem && cell.adapter = row.adapter) = none := by
      rw [List.find?_eq_none]
      intro cell hcell
      simpa [imp_iff_not_or] using (List.mem_filter.mp hcell).2
    rw [hnone]
    simp
  . have hkept : (cells.filter (fun cell => !(cell.kem = row.kem && cell.adapter = row.adapter))).find?
        (fun cell => cell.kem = kem && cell.adapter = adapter)
        = cells.find? (fun cell => cell.kem = kem && cell.adapter = adapter) := by
      rw [List.find?_filter]
      congr 1
      funext cell
      by_cases hcell : cell.kem = kem ∧ cell.adapter = adapter
      . obtain ⟨rfl, rfl⟩ := hcell
        have hne : ¬ cell.kem = row.kem ∨ ¬ cell.adapter = row.adapter :=
          not_and_or.mp (fun hcell => hsame ⟨hcell.1.symm, hcell.2.symm⟩)
        simpa using hne
      . have hfalse : (decide (cell.kem = kem) && decide (cell.adapter = adapter)) = false := by
          rw [← Bool.decide_and, decide_eq_false_iff_not]
          apply hcell
        simp [hfalse]
    have hrow : (decide (row.kem = kem) && decide (row.adapter = adapter)) = false := by simpa using hsame
    rw [hkept, hrow, if_neg hsame]
    simp

theorem console_onMessage (h : s.Console events) {id : Uuid} {event : PqCas.Event} (hsource : s.source = some id)
    (hopen : s.view.closed = false)
    : ({ s with view := onMessage id s.view event } : State).Console (events ++ [event]) := by
  have hrunning : s.view.running = true := h.running.mpr (.inr hopen)
  have hposting : s.posting = false := by
    cases hp : s.posting with
    | false => rfl
    | true =>
      rw [(h.posting hp).2.2.2] at hopen
      cases hopen
  have hlistening : ¬ s.view.closed = true := by simp [hopen]
  have hspoken : s.source ≠ none := by simp [hsource]
  unfold onMessage
  rw [if_neg hlistening]
  cases event with
  | log seq time level message =>
    constructor
    case logs =>
      intro id' hid
      cases hsource.symm.trans hid
      simp [h.logs id hsource, Event.line?]
    case silent => exact fun hnone => absurd hnone hspoken
    case cells => apply h.cells
    case keys => apply h.keys
    case verdicts =>
      intro kem adapter
      simpa [verdict?, List.filterMap_cons] using h.verdicts kem adapter
    case running => apply h.running
    case posting => simp [hposting]
  | cell name adapter verdict detail =>
    constructor
    case logs =>
      intro id' hid
      simpa [Event.line?, List.filterMap_cons] using h.logs id' hid
    case silent => exact fun hnone => absurd hnone hspoken
    case cells =>
      intro cell hcell
      rw [List.mem_append, List.mem_singleton] at hcell
      rcases hcell with hcell | rfl
      . apply h.cells cell (List.mem_of_mem_filter hcell)
      . apply hsource
    case keys =>
      apply Table.nodup_map_concat
      . apply List.Nodup.sublist _ h.keys
        apply List.filter_sublist.map
      . intro cell hcell hkey
        rw [List.mem_filter] at hcell
        simp only [kem.cellKey, Prod.mk.injEq] at hkey
        simp [hkey] at hcell
    case verdicts =>
      intro name' adapter'
      rw [cellFor_onMessage s.view.cells ⟨id, name, adapter, verdict, detail⟩, List.filterMap_append,
        List.getLast?_append, h.verdicts]
      dsimp only
      split
      . next hsame => simp [verdict?, hsame]
      . next hother => simp [verdict?, hother]
    case running => apply h.running
    case posting => simp [hposting]
  | subtaskUpdated | testFinished | finished =>
    constructor
    case logs =>
      intro id' hid
      simpa [Event.line?, List.filterMap_cons] using h.logs id' hid
    case silent => exact fun hnone => absurd hnone hspoken
    case cells => apply h.cells
    case keys => apply h.keys
    case verdicts =>
      intro kem adapter
      simpa [verdict?, List.filterMap_cons] using h.verdicts kem adapter
    case running => simp [hposting]
    case posting => simp [hposting]

theorem console_step (h : s.Console events) (hstep : Step props s action s')
    : s'.Console (Action.hear events action) := by
  cases hstep with
  | setEndpoint | toggle | selectAll | clear =>
    exact ⟨h.logs, h.silent, h.cells, h.keys, h.verdicts, h.running, h.posting⟩
  | run hrun =>
    constructor
    case logs => simp [Action.hear]
    case silent => simp [Action.hear]
    case cells => simp
    case keys => simp
    case verdicts => simp [Action.hear, cellFor]
    case running => simp
    case posting => simp [Action.hear]
  | refused message hposting =>
    obtain ⟨-, hlogs, hcells, hclosed⟩ := h.posting hposting
    constructor
    case logs => apply h.logs
    case silent => apply h.silent
    case cells => simp [hcells]
    case keys => simp [hcells]
    case verdicts => apply h.verdicts
    case running => simp [hclosed]
    case posting => simp
  | created id hposting =>
    obtain ⟨hevents, hlogs, hcells, -⟩ := h.posting hposting
    have hrunning := h.running.mpr (.inl hposting)
    constructor
    case logs => simp [Action.hear, hevents, hlogs]
    case silent => simp
    case cells => simp [hcells]
    case keys => simp [hcells]
    case verdicts => apply h.verdicts
    case running => simp [hrunning]
    case posting => simp
  | message id event hsource hopen => apply console_onMessage h hsource hopen
  | failed hopen =>
    have hposting : s.posting ≠ true := by
      intro hposting
      rw [(h.posting hposting).2.2.2] at hopen
      cases hopen
    constructor
    case logs => apply h.logs
    case silent => apply h.silent
    case cells => apply h.cells
    case keys => apply h.keys
    case verdicts => apply h.verdicts
    case running => simp [hposting]
    case posting =>
      intro hp
      cases hposting hp

theorem console_trace (h : Trace props actions s) : s.Console (received actions) := by
  induction h with
  | init =>
    constructor
    case logs => simp [init]
    case silent => simp [init, received]
    case cells => simp [init]
    case keys => simp [init]
    case verdicts => simp [init, received, cellFor]
    case running => simp [init]
    case posting => simp [init]
  | snoc _ hstep ih =>
    unfold received
    rw [List.foldl_concat]
    apply console_step ih hstep

theorem source_trace (h : Trace props actions s) : s.source = (actions.filterMap Action.created?).getLast? := by
  induction h with
  | init => rfl
  | snoc _ hstep ih =>
    rw [List.filterMap_append, List.getLast?_append]
    cases hstep with
    | created id hposting => simp [Action.created?]
    | _ => simpa [Action.created?] using ih

theorem text_inj {a b kem adapter : String} (hkem : '|' ∉ kem.toList) (hadapter : '|' ∉ adapter.toList)
    (h : s!"{a}|{b}" = s!"{kem}|{adapter}") : a = kem ∧ b = adapter := by
  have hlist : a.toList ++ '|' :: b.toList = kem.toList ++ '|' :: adapter.toList := by
    have htext : a ++ "|" ++ b = kem ++ "|" ++ adapter := h
    have hchars := congrArg String.toList htext
    simpa using hchars
  rcases List.append_eq_append_iff.mp hlist with ⟨xs, hxs, hrest⟩ | ⟨xs, hxs, hrest⟩
  . cases xs with
    | nil =>
      simp only [List.append_nil, List.nil_append, List.cons.injEq, true_and] at hxs hrest
      exact ⟨(String.toList_inj.mp hxs).symm, String.toList_inj.mp hrest⟩
    | cons c xs =>
      rw [List.cons_append, List.cons.injEq] at hrest
      exfalso
      apply hkem
      rw [hxs, ← hrest.1]
      simp
  . cases xs with
    | nil =>
      simp only [List.append_nil, List.nil_append, List.cons.injEq, true_and] at hxs hrest
      exact ⟨String.toList_inj.mp hxs, (String.toList_inj.mp hrest).symm⟩
    | cons c xs =>
      rw [List.cons_append, List.cons.injEq] at hrest
      exfalso
      apply hadapter
      rw [hrest.2]
      simp

theorem lookup_eq {cells : List KemMatrixCellRow} (hkeys : (cells.map kem.cellKey).Nodup) {name adapter : String}
    (hname : name ∈ MATRIX_KEMS) (hadapter : adapter ∈ MATRIX_ADAPTERS)
    : (∀ cell ∈ cells, cell.kem = name → cell.adapter = adapter → lookup cells name adapter = cell.verdict)
        ∧ ((∀ cell ∈ cells, ¬ (cell.kem = name ∧ cell.adapter = adapter)) →
          lookup cells name adapter = .pending) := by
  have hbar : '|' ∉ name.toList ∧ '|' ∉ adapter.toList := by
    have hnames : ∀ name ∈ MATRIX_KEMS, '|' ∉ name.toList := by decide
    have hadapters : ∀ adapter ∈ MATRIX_ADAPTERS, '|' ∉ adapter.toList := by decide
    exact ⟨hnames name hname, hadapters adapter hadapter⟩
  unfold lookup
  split
  . next found hfound =>
    have hmem : found ∈ cells := List.mem_reverse.mp (List.mem_of_find?_eq_some hfound)
    have htext := List.find?_some hfound
    rw [decide_eq_true_eq] at htext
    have hsame := text_inj hbar.1 hbar.2 htext
    constructor
    . intro cell hcell hkem hcellAdapter
      have hkey : kem.cellKey found = kem.cellKey cell := by
        simp [kem.cellKey, hsame, hkem, hcellAdapter]
      rw [List.inj_on_of_nodup_map hkeys hmem hcell hkey]
    . intro hnone
      cases hnone found hmem hsame
  . next hnone =>
    rw [List.find?_eq_none] at hnone
    constructor
    . intro cell hcell hkem hcellAdapter
      exfalso
      apply hnone cell (List.mem_reverse.mpr hcell)
      simp [hkem, hcellAdapter]
    . intro _
      rfl

/--
Whatever happens and in whatever order: the console shows exactly the lines that came in since the last click on run, all
of the run that was created last, the button starts no second one while a request or a stream is open, and the matrix
shows for each KEM and stack the verdict that came in last for them since that click.
-/
theorem console_of_one_run (h : Trace props actions s)
    : s.source = (actions.filterMap Action.created?).getLast?
        ∧ (∀ id, s.source = some id → s.view.logs = (received actions).filterMap (Event.line? id))
        ∧ (s.source = none → received actions = [] ∧ s.view.logs = [])
        ∧ (∀ cell ∈ s.view.cells, s.source = some cell.runId)
        ∧ (s.posting = true ∨ s.view.closed = false → canRun props s = false)
        ∧ ∀ kem ∈ MATRIX_KEMS, ∀ adapter ∈ MATRIX_ADAPTERS, lookup s.view.cells kem adapter
          = (((received actions).filterMap (verdict? kem adapter)).getLast?).getD .pending := by
  have hconsole := console_trace h
  constructor
  . apply source_trace h
  constructor
  . apply hconsole.logs
  constructor
  . apply hconsole.silent
  constructor
  . apply hconsole.cells
  constructor
  . intro hbusy
    have hrunning := hconsole.running.mpr hbusy
    simp [canRun, hrunning]
  . intro kem hkem adapter hadapter
    rw [hconsole.verdicts]
    unfold cellFor
    cases hfound : s.view.cells.find? (fun cell => cell.kem = kem && cell.adapter = adapter) with
    | some cell =>
      have hsame := List.find?_some hfound
      rw [Bool.and_eq_true, decide_eq_true_eq, decide_eq_true_eq] at hsame
      exact (lookup_eq hconsole.keys hkem hadapter).1 cell (List.mem_of_find?_eq_some hfound) hsame.1 hsame.2
    | none =>
      rw [List.find?_eq_none] at hfound
      apply (lookup_eq hconsole.keys hkem hadapter).2
      intro cell hcell hsame
      apply hfound cell hcell
      simp [hsame]

end Console

section Requests

variable {props : Props} {s s' : State}

structure RequestOk (props : Props) (body : NewKemRun) : Prop where
  mode : body.mode = props.mode
  endpoint : ∃ row ∈ props.endpoints, row.columns.slug = body.endpoint
  nodup : body.kemGroups.Nodup
  groups : ∀ name ∈ body.kemGroups, Selectable props.groups name
  nonempty : body.mode = .groupCompat → body.kemGroups ≠ []

structure State.Ok (props : Props) (s : State) : Prop where
  endpoint : s.endpoint ≠ "" → ∃ row ∈ props.endpoints, row.columns.slug = s.endpoint
  selected : ∀ name ∈ s.selected.elems, Selectable props.groups name
  sent : ∀ body ∈ s.sent, RequestOk props body

theorem requestOk_body (h : s.Ok props) (hrun : canRun props s = true) : RequestOk props (body props s) := by
  simp only [canRun, Bool.not_eq_true', Bool.or_eq_false_iff, decide_eq_false_iff_not] at hrun
  obtain ⟨⟨-, hendpoint⟩, hgroups⟩ := hrun
  constructor
  case mode => rfl
  case endpoint => apply h.endpoint hendpoint
  case nodup =>
    unfold body
    dsimp only
    split
    . apply s.selected.nodup
    . apply List.nodup_nil
  case groups =>
    intro name hname
    unfold body at hname
    dsimp only at hname
    split at hname
    . apply h.selected name hname
    . cases hname
  case nonempty =>
    intro hmode
    have hmode' : props.mode = .groupCompat := hmode
    have hbody : (body props s).kemGroups = s.selected.elems := if_pos hmode'
    rw [hbody]
    intro hnil
    simp [hmode', Picks.size, hnil] at hgroups

theorem ok_init (props : Props) : (init props).Ok props := by
  constructor
  case endpoint =>
    intro hne
    unfold init at hne ⊢
    dsimp only at hne ⊢
    cases hhead : props.endpoints.head? with
    | none =>
      rw [hhead] at hne
      cases hne rfl
    | some row =>
      exists row
      exact ⟨List.mem_of_mem_head? hhead, rfl⟩
  case selected =>
    intro name hname
    obtain ⟨group, hgroup, rfl⟩ := List.mem_map.mp (Picks.mem_ofList.mp hname)
    have hmem := List.mem_filter.mp (List.mem_of_mem_take hgroup)
    exact ⟨group, hmem.1, hmem.2, rfl⟩
  case sent => simp [init]

theorem ok_step {action : Action} (h : s.Ok props) (hstep : Step props s action s') : s'.Ok props := by
  cases hstep with
  | setEndpoint value hvalue =>
    constructor
    case endpoint =>
      intro _
      obtain ⟨row, hrow, hslug⟩ := List.mem_map.mp hvalue
      exact ⟨row, hrow, hslug⟩
    case selected => apply h.selected
    case sent => apply h.sent
  | toggle group hgroup henabled => exact ⟨h.endpoint, selectable_toggle hgroup henabled h.selected, h.sent⟩
  | selectAll => exact ⟨h.endpoint, fun _ => selectable_selectAll, h.sent⟩
  | clear => exact ⟨h.endpoint, by simp [Picks.empty], h.sent⟩
  | run hrun =>
    constructor
    case endpoint => apply h.endpoint
    case selected => apply h.selected
    case sent =>
      intro request hrequest
      rw [List.mem_append, List.mem_singleton] at hrequest
      rcases hrequest with hrequest | rfl
      . apply h.sent request hrequest
      . apply requestOk_body h hrun
  | refused | created | message | failed => exact ⟨h.endpoint, h.selected, h.sent⟩

theorem ok_run (h : Run props (init props) s) : s.Ok props := by
  induction h with
  | refl => apply ok_init
  | tail _ hstep ih =>
    obtain ⟨action, hstep⟩ := hstep
    apply ok_step ih hstep

end Requests

section Answers

variable {ids : Ids} {c : Collation} {db db' : Tables ids} {groups : List AlgorithmRow} {endpoints : List EndpointRow}
variable {seeded : List EndpointSeed} {mode : KemRunMode} {s : State} {request : NewKemRun} {st st' : KemState}

def endpointsOf (db : Tables ids) : List Endpoint :=
  db.endpoints.rows.map (fun row =>
    {
      id := row.id
      slug := row.columns.slug
      host := row.columns.host
      port := .ofInt row.columns.port
      enabled := row.columns.enabled
    })

/--
What becomes of a request, with the row of its endpoint: it is carried out as it was made, or the endpoint is
disabled, or a step at a store fails.
-/
inductive Answered (env : CreateRunEnv) (row : EndpointRow) (request : NewKemRun) (st : KemState)
    : Except ApiError KemRun → KemState → Prop where
  | created (run : KemRun) (st' : KemState) (job : KemJob) (henabled : row.columns.enabled = true)
      (hstream : st'.kemStream = st.kemStream ++ [job]) (hrun : job.runId = run.id) (hmode : job.mode = request.mode)
      (hhost : job.host = row.columns.host) (hport : (job.port.toNat : Int) = row.columns.port)
      (hgroups : job.kemGroups = request.kemGroups)
    : Answered env row request st (.ok run) st'
  | disabled (henabled : row.columns.enabled = false)
    : Answered env row request st (.error (.conflict s!"endpoint {row.columns.slug} is disabled")) st
  | database (err : String) (hfails : env.fails .selectEndpoint = some err ∨ env.fails .insertRun = some err)
    : Answered env row request st (.error (.database err)) st
  | taken (htaken : env.runId ∈ st.kemRuns.map (fun row => row.id))
    : Answered env row request st
        (.error (.database "duplicate key value violates unique constraint \"kem_runs_pkey\"")) st
  | redis (err : String) (run : KemRun) (hfails : env.fails .enqueue = some err) (hrun : run.id = env.runId)
    : Answered env row request st (.error (.redis err)) { st with kemRuns := st.kemRuns ++ [run] }

theorem toNat_ofInt {port : Int} (h : 1 ≤ port ∧ port ≤ 65535) : ((UInt16.ofInt port).toNat : Int) = port := by
  have hmod : (port % 2 ^ 16).toNat = port.toNat := by omega
  have hlt : port.toNat < UInt16.size := by
    unfold UInt16.size
    omega
  unfold UInt16.ofInt
  rw [hmod, UInt16.toNat_ofNat_of_lt' hlt]
  omega

theorem answered_createRun (hvalid : db.Valid) (hst : st.endpoints = endpointsOf db) {row : EndpointRow}
    (hrow : row ∈ db.endpoints.rows) (hslug : row.columns.slug = request.endpoint)
    (hgroups : request.mode = .groupCompat → request.kemGroups ≠ []) (env : CreateRunEnv)
    : Answered env row request st (createRun env request st).1 (createRun env request st).2 := by
  have hfind : st.endpoints.find? (fun endpoint => endpoint.slug = request.endpoint)
      = some ⟨row.id, row.columns.slug, row.columns.host, .ofInt row.columns.port, row.columns.enabled⟩ := by
    have hkeys : db.endpoints.rows.Pairwise (fun a b => a.columns.slug ≠ b.columns.slug) :=
      List.pairwise_map.mp db.endpoints.keys
    have hsome : db.endpoints.rows.find? (fun r => r.columns.slug == request.endpoint) = some row :=
      (Table.find?_key_eq_some_iff hkeys).mpr ⟨hrow, hslug⟩
    rw [hst]
    unfold endpointsOf
    rw [List.find?_map]
    simp only [Function.comp_def, ← beq_eq_decide]
    rw [hsome]
    rfl
  unfold createRun runEndpoint
  cases hselect : env.fails .selectEndpoint with
  | some err => exact .database err (.inl hselect)
  | none =>
    dsimp only
    rw [hfind]
    dsimp only
    cases henabled : row.columns.enabled with
    | false => apply Answered.disabled henabled
    | true =>
      rw [if_neg (by simp), if_neg (fun h => hgroups h.1 h.2)]
      dsimp only
      cases hinsert : env.fails .insertRun with
      | some err => exact .database err (.inr hinsert)
      | none =>
        dsimp only
        split
        . next htaken => exact .taken htaken
        cases henqueue : env.fails .enqueue with
        | some err => exact .redis err _ henqueue rfl
        | none =>
          apply Answered.created _ _ _ henabled rfl rfl rfl rfl _ rfl
          apply toNat_ofInt (hvalid.ports row hrow)

/--
Whatever the student did before a request was sent, and whatever happened to the catalog meanwhile: it names an
endpoint that the page listed and that is still there under its id, its groups are distinct enabled ones, and it
fails for nothing but a disabled endpoint or a store. The endpoint is as enabled as the page had it, or as a seed
has switched it since.
-/
theorem run_answered (hlist : listEndpoints c none db = .ok endpoints) (hvalid : db.Valid)
    (hlater : db.Later seeded db') (hst : st.endpoints = endpointsOf db')
    (hrun : Run ⟨mode, endpoints, groups⟩ (init ⟨mode, endpoints, groups⟩) s) (hsent : request ∈ s.sent)
    : request.mode = mode ∧ request.kemGroups.Nodup ∧ (∀ name ∈ request.kemGroups, Selectable groups name)
        ∧ ∃ shown ∈ endpoints, ∃ row ∈ db'.endpoints.rows,
          row.id = shown.id ∧ row.columns.slug = request.endpoint
            ∧ (row.columns.enabled = shown.columns.enabled
              ∨ ∃ e ∈ seeded, e.slug = request.endpoint ∧ e.enabled = row.columns.enabled)
            ∧ ∀ env, Answered env row request st (createRun env request st).1 (createRun env request st).2 := by
  have hrequest := (ok_run hrun).sent request hsent
  constructor
  . apply hrequest.mode
  constructor
  . apply hrequest.nodup
  constructor
  . apply hrequest.groups
  obtain ⟨shown, hshown, hslug⟩ := hrequest.endpoint
  have hlisted : shown ∈ db.endpoints.rows := by
    unfold listEndpoints at hlist
    cases hlist
    apply List.mem_mergeSort.mp hshown
  obtain ⟨row, hrow, hid, hsame, henabled⟩ := hlater.enabled shown hlisted
  rw [hslug] at hsame henabled
  refine ⟨shown, hshown, row, hrow, hid, hsame, henabled, ?_⟩
  apply answered_createRun (hlater.valid hvalid) hst hrow hsame hrequest.nonempty

end Answers

section Lab

def labTarget : EndpointSeed :=
  ⟨"tls-good", "Healthy", "Healthy", "tls-good", 11000, none, true⟩

def labEndpoints : Tables labIds :=
  labCatalog.put (.endpoint labTarget)

def labRow : EndpointRow :=
  ⟨0, labTarget⟩

def labProps : Props :=
  ⟨.groupCompat, [labRow], [⟨1, labGroup⟩]⟩

def labSent : State :=
  { init labProps with
    view := ⟨[], [], true, false⟩
    source := some 7
    sent := [body labProps (init labProps)] }

theorem run_labSent : Run labProps (init labProps) labSent := by
  have hrun : canRun labProps (init labProps) = true := by decide
  exact .tail (.tail .refl ⟨_, .run hrun⟩) ⟨_, .created 7 rfl⟩

theorem rows_labEndpoints : labEndpoints.endpoints.rows = [labRow] := by
  rfl

theorem valid_labEndpoints : labEndpoints.Valid := by
  constructor
  case kinds =>
    have hrows : labEndpoints.algorithms.rows
        = [⟨1, labGroup⟩, ⟨2, labSigAlg⟩, ⟨3, labPureGroup⟩, ⟨4, labStrongSigAlg⟩] := rfl
    rw [hrows]
    decide
  case ports =>
    rw [rows_labEndpoints]
    decide

def labMessages : List PqCas.Event :=
  [
    .log 1 0 "info" "Starting handshake",
    .cell "X25519MLKEM768" "openssl" .failed none,
    .cell "X25519MLKEM768" "openssl" .passed none
  ]

def labConsole : State :=
  { labSent with view := labMessages.foldl (onMessage 7) labSent.view }

theorem trace_labConsole : Trace labProps (.run :: .created 7 :: labMessages.map .message) labConsole := by
  have hrun : canRun labProps (init labProps) = true := by decide
  have hopened : Trace labProps [.run, .created 7] labSent := .snoc (.snoc .init (.run hrun)) (.created 7 rfl)
  exact ((hopened.snoc (.message 7 _ rfl rfl)).snoc (.message 7 _ rfl rfl)).snoc (.message 7 _ rfl rfl)

theorem console_of_one_run_lab
    : labConsole.view.logs = labMessages.filterMap (Event.line? 7)
        ∧ lookup labConsole.view.cells "X25519MLKEM768" "openssl" = .passed
        ∧ lookup labConsole.view.cells "MLKEM768" "openssl" = .pending := by
  obtain ⟨-, hlogs, -, -, -, hlookup⟩ := console_of_one_run trace_labConsole
  constructor
  . exact hlogs 7 rfl
  constructor
  . exact hlookup "X25519MLKEM768" (by decide) "openssl" (by decide)
  . exact hlookup "MLKEM768" (by decide) "openssl" (by decide)

theorem run_answered_lab
    : (body labProps (init labProps)).mode = .groupCompat ∧ (body labProps (init labProps)).kemGroups.Nodup
        ∧ (∀ name ∈ (body labProps (init labProps)).kemGroups, Selectable [⟨1, labGroup⟩] name)
        ∧ ∃ shown ∈ [labRow], ∃ row ∈ labEndpoints.endpoints.rows,
          row.id = shown.id ∧ row.columns.slug = "tls-good"
            ∧ (row.columns.enabled = shown.columns.enabled
              ∨ ∃ e ∈ ([] : List EndpointSeed), e.slug = "tls-good" ∧ e.enabled = row.columns.enabled)
            ∧ ∀ env, Answered env row (body labProps (init labProps)) ⟨endpointsOf labEndpoints, [], [], [], []⟩
              (createRun env (body labProps (init labProps)) ⟨endpointsOf labEndpoints, [], [], [], []⟩).1
              (createRun env (body labProps (init labProps)) ⟨endpointsOf labEndpoints, [], [], [], []⟩).2 := by
  have hlist : listEndpoints labCollation none labEndpoints = .ok [labRow] := by
    unfold listEndpoints
    rw [rows_labEndpoints]
    simp
  exact run_answered hlist valid_labEndpoints (.refl [] labEndpoints) rfl run_labSent (List.mem_singleton_self _)

end Lab

end KemRunner

end web

end PqCas
