import PqCas.Api.Catalog
import PqCas.Api.Matrix
import PqCas.Lib.Picks

/-!
The form that creates a test (`new-test-form.tsx`, `algorithm-grid.tsx`, `tools.ts`), from the catalog it is
rendered with to the test that its request becomes.
-/

namespace PqCas

namespace web

namespace NewTestForm

open api seed

structure Tool where
  tool : String
  plugins : List String
  deriving DecidableEq, Repr

def TOOLS : List Tool :=
  [
    ⟨"pq-dsa", ["open3x", "bq2606", "bo2605", "wolf54", "go125"]⟩,
    ⟨"pq-kem", ["open3x", "go125"]⟩
  ]

def pluginsFor (tool : String) : List String :=
  match TOOLS.find? (fun entry => entry.tool = tool) with
  | some entry => entry.plugins
  | none => []

structure Props where
  groups : List AlgorithmRow
  sigAlgs : List AlgorithmRow

def newTestPage (algorithms : List AlgorithmRow) : Props :=
  {
    groups := algorithms.filter (fun algorithm => algorithm.columns.kind = "kem_group")
    sigAlgs := algorithms.filter (fun algorithm => algorithm.columns.kind = "sig_alg")
  }

structure Form where
  host : String := ""
  port : String := "443"
  httpPath : String := "/"
  tool : String := (TOOLS.get ⟨0, by decide⟩).tool
  plugin : String := (TOOLS.get ⟨0, by decide⟩).plugins.get ⟨0, by decide⟩
  selectedGroups : Picks String := .empty
  selectedSigAlgs : Picks String := .empty
  submitting : Bool := false
  error : Option String := none

namespace Form

def subtaskCount (f : Form) : Nat :=
  f.selectedGroups.size * f.selectedSigAlgs.size

def canSubmit (f : Form) : Bool :=
  Text.jsTrim f.host ≠ "" ∧ f.subtaskCount > 0 ∧ !f.submitting

/--
The body of the request. `number` is what the API reads of `Number(port)`, if that is an `i32`.
-/
def body (number : String → Option Int) (f : Form) : Option NewTest :=
  (number f.port).map (fun port =>
    {
      host := Text.jsTrim f.host
      port := port
      httpPath := f.httpPath
      tool := f.tool
      plugin := f.plugin
      groups := f.selectedGroups.elems
      sigAlgs := f.selectedSigAlgs.elems
    })

end Form

/--
What the student does. A check box is that of a row of the grid.
-/
inductive Event where
  | setHost (value : String)
  | setPort (value : String)
  | setHttpPath (value : String)
  | setTool (value : String)
  | setPlugin (value : String)
  | toggleGroup (algorithm : AlgorithmRow)
  | toggleSigAlg (algorithm : AlgorithmRow)
  | selectAllGroups
  | selectAllSigAlgs
  | clearGroups
  | clearSigAlgs

def selectAll (algorithms : List AlgorithmRow) : Picks String :=
  .ofList ((algorithms.filter (fun a => a.columns.enabled)).map (fun a => a.columns.name))

/--
A select has its options only, and the check box of a disabled algorithm is disabled.
-/
def Event.Offered (props : Props) (f : Form) (event : Event) : Prop :=
  match event with
  | .setTool value => value ∈ TOOLS.map Tool.tool
  | .setPlugin value => value ∈ pluginsFor f.tool
  | .toggleGroup algorithm => algorithm ∈ props.groups ∧ algorithm.columns.enabled = true
  | .toggleSigAlg algorithm => algorithm ∈ props.sigAlgs ∧ algorithm.columns.enabled = true
  | _ => True

def handle (props : Props) (f : Form) (event : Event) : Form :=
  match event with
  | .setHost value => { f with host := value }
  | .setPort value => { f with port := value }
  | .setHttpPath value => { f with httpPath := value }
  | .setTool value => { f with tool := value, plugin := (pluginsFor value).head?.getD "" }
  | .setPlugin value => { f with plugin := value }
  | .toggleGroup algorithm => { f with selectedGroups := f.selectedGroups.toggle algorithm.columns.name }
  | .toggleSigAlg algorithm => { f with selectedSigAlgs := f.selectedSigAlgs.toggle algorithm.columns.name }
  | .selectAllGroups => { f with selectedGroups := selectAll props.groups }
  | .selectAllSigAlgs => { f with selectedSigAlgs := selectAll props.sigAlgs }
  | .clearGroups => { f with selectedGroups := .empty }
  | .clearSigAlgs => { f with selectedSigAlgs := .empty }

structure State where
  form : Form := {}
  sent : List Form := []
  replies : List (Except String Uuid) := []

inductive Step (props : Props) : State → State → Prop where
  | edit {s} (event : Event) (h : event.Offered props s.form)
    : Step props s { s with form := handle props s.form event }
  | submit {s} (h : s.form.canSubmit = true)
    : Step props s
        { s with
          form := { s.form with submitting := true, error := none }
          sent := s.sent ++ [s.form] }
  | refused {s} (message : String) (h : s.sent.length = s.replies.length + 1)
    : Step props s
        { s with
          form := { s.form with submitting := false, error := some message }
          replies := s.replies ++ [.error message] }
  | created {s} (id : Uuid) (h : s.sent.length = s.replies.length + 1)
    : Step props s { s with replies := s.replies ++ [.ok id] }

abbrev Run (props : Props) : State → State → Prop :=
  Relation.ReflTransGen (Step props)

section Selection

variable {props : Props} {f : Form} {s s' : State}

def Selectable (algorithms : List AlgorithmRow) (name : String) : Prop :=
  ∃ algorithm ∈ algorithms, algorithm.columns.enabled = true ∧ algorithm.columns.name = name

structure Form.Ok (props : Props) (f : Form) : Prop where
  groups : ∀ name ∈ f.selectedGroups.elems, Selectable props.groups name
  sigAlgs : ∀ name ∈ f.selectedSigAlgs.elems, Selectable props.sigAlgs name
  tool : f.tool ∈ TOOLS.map Tool.tool
  plugin : f.plugin ∈ pluginsFor f.tool

theorem selectable_selectAll {algorithms : List AlgorithmRow} {name : String}
    (h : name ∈ (selectAll algorithms).elems) : Selectable algorithms name := by
  unfold selectAll at h
  rw [Picks.mem_ofList, List.mem_map] at h
  obtain ⟨algorithm, hmem, rfl⟩ := h
  rw [List.mem_filter] at hmem
  exists algorithm
  simp [hmem]

theorem selectable_toggle {algorithms : List AlgorithmRow} {selected : Picks String} {algorithm : AlgorithmRow}
    (hmem : algorithm ∈ algorithms) (henabled : algorithm.columns.enabled = true)
    (h : ∀ name ∈ selected.elems, Selectable algorithms name)
    : ∀ name ∈ (selected.toggle algorithm.columns.name).elems, Selectable algorithms name := by
  intro name hname
  rcases Picks.mem_of_mem_toggle hname with rfl | hold
  . exists algorithm
  . apply h name hold

theorem head_mem_pluginsFor {tool : String} (h : tool ∈ TOOLS.map Tool.tool)
    : (pluginsFor tool).head?.getD "" ∈ pluginsFor tool := by
  revert tool
  decide

theorem ok_init : Form.Ok props {} := by
  constructor
  case groups => simp [Picks.empty]
  case sigAlgs => simp [Picks.empty]
  case tool => decide
  case plugin => decide

theorem ok_handle {event : Event} (h : f.Ok props) (hevent : event.Offered props f)
    : (handle props f event).Ok props := by
  cases event with
  | setHost | setPort | setHttpPath => exact ⟨h.groups, h.sigAlgs, h.tool, h.plugin⟩
  | setTool value => exact ⟨h.groups, h.sigAlgs, hevent, head_mem_pluginsFor hevent⟩
  | setPlugin value => exact ⟨h.groups, h.sigAlgs, h.tool, hevent⟩
  | toggleGroup algorithm =>
    exact ⟨selectable_toggle hevent.1 hevent.2 h.groups, h.sigAlgs, h.tool, h.plugin⟩
  | toggleSigAlg algorithm =>
    exact ⟨h.groups, selectable_toggle hevent.1 hevent.2 h.sigAlgs, h.tool, h.plugin⟩
  | selectAllGroups => exact ⟨fun _ => selectable_selectAll, h.sigAlgs, h.tool, h.plugin⟩
  | selectAllSigAlgs => exact ⟨h.groups, fun _ => selectable_selectAll, h.tool, h.plugin⟩
  | clearGroups => exact ⟨by simp [handle, Picks.empty], h.sigAlgs, h.tool, h.plugin⟩
  | clearSigAlgs => exact ⟨h.groups, by simp [handle, Picks.empty], h.tool, h.plugin⟩

theorem submitting_handle (props : Props) (f : Form) (event : Event)
    : (handle props f event).submitting = f.submitting := by
  cases event <;> rfl

structure State.Ok (props : Props) (s : State) : Prop where
  form : s.form.Ok props
  sent : ∀ f ∈ s.sent, f.Ok props ∧ f.canSubmit = true

theorem ok_step (h : s.Ok props) (hstep : Step props s s') : s'.Ok props := by
  have hform := h.form
  cases hstep with
  | edit event hevent => exact ⟨ok_handle hform hevent, h.sent⟩
  | submit hsubmit =>
    constructor
    case form => exact ⟨hform.groups, hform.sigAlgs, hform.tool, hform.plugin⟩
    case sent =>
      intro f hf
      rw [List.mem_append, List.mem_singleton] at hf
      rcases hf with hf | rfl
      . apply h.sent f hf
      . exact ⟨hform, hsubmit⟩
  | refused => exact ⟨⟨hform.groups, hform.sigAlgs, hform.tool, hform.plugin⟩, h.sent⟩
  | created => exact ⟨hform, h.sent⟩

theorem ok_run (h : Run props {} s) : s.Ok props := by
  induction h with
  | refl => exact ⟨ok_init, by simp⟩
  | tail _ hstep ih => apply ok_step ih hstep

end Selection

section Requests

variable {props : Props} {s s' : State}

def Refused (replies : List (Except String Uuid)) : Prop :=
  ∀ reply ∈ replies, ∃ message, reply = .error message

inductive State.Flight (s : State) : Prop where
  | idle (hsubmitting : s.form.submitting = false) (hsent : s.sent.length = s.replies.length)
      (hreplies : Refused s.replies)
  | pending (hsubmitting : s.form.submitting = true) (hsent : s.sent.length = s.replies.length + 1)
      (hreplies : Refused s.replies)
  | done (refusals : List (Except String Uuid)) (id : Uuid) (hsubmitting : s.form.submitting = true)
      (hsent : s.sent.length = s.replies.length) (hreplies : s.replies = refusals ++ [.ok id])
      (hrefused : Refused refusals)

theorem flight_step (h : s.Flight) (hstep : Step props s s') : s'.Flight := by
  cases hstep with
  | edit event _ =>
    have hsame := submitting_handle props s.form event
    cases h with
    | idle hsubmitting hsent hreplies => exact .idle (hsame.trans hsubmitting) hsent hreplies
    | pending hsubmitting hsent hreplies => exact .pending (hsame.trans hsubmitting) hsent hreplies
    | done refusals id hsubmitting hsent hreplies hrefused =>
      exact .done refusals id (hsame.trans hsubmitting) hsent hreplies hrefused
  | submit hsubmit =>
    have hfree : s.form.submitting = false := by
      simp [Form.canSubmit] at hsubmit
      apply hsubmit.2.2
    cases h with
    | idle _ hsent hreplies =>
      refine .pending rfl ?_ hreplies
      simp [hsent]
    | pending hsubmitting =>
      rw [hfree] at hsubmitting
      cases hsubmitting
    | done _ _ hsubmitting =>
      rw [hfree] at hsubmitting
      cases hsubmitting
  | refused message hwaiting =>
    cases h with
    | idle _ hsent _ => omega
    | pending _ hsent hreplies =>
      apply State.Flight.idle rfl
      . simp [hsent]
      . intro reply hreply
        rw [List.mem_append, List.mem_singleton] at hreply
        rcases hreply with hold | rfl
        . apply hreplies reply hold
        . exists message
    | done _ _ _ hsent _ _ => omega
  | created id hwaiting =>
    cases h with
    | idle _ hsent _ => omega
    | pending hsubmitting hsent hreplies =>
      refine .done s.replies id hsubmitting ?_ rfl hreplies
      simp [hsent]
    | done _ _ _ hsent _ _ => omega

theorem flight_run (h : Run props {} s) : s.Flight := by
  induction h with
  | refl => exact .idle rfl rfl (by simp [Refused])
  | tail _ hstep ih => apply flight_step ih hstep

/--
However the student clicks: a request is only sent once the one before it was refused, so at most one is under way,
and once a test was created nothing is sent any more.
-/
theorem sent_after_refusal (h : Run props {} s)
    : s.replies.length ≤ s.sent.length ∧ s.sent.length ≤ s.replies.length + 1
        ∧ (∀ i, i + 1 < s.sent.length → ∃ message, s.replies[i]? = some (.error message))
        ∧ ∀ (i : Nat) (id : Uuid), s.replies[i]? = some (.ok id) →
          i + 1 = s.sent.length ∧ s.form.canSubmit = false := by
  have hrefused : ∀ {replies : List (Except String Uuid)} {i : Nat}, Refused replies → i < replies.length →
      ∃ message, replies[i]? = some (.error message) := by
    intro replies i hreplies hi
    obtain ⟨message, hmessage⟩ := hreplies _ (List.getElem_mem hi)
    exists message
    rw [List.getElem?_eq_getElem hi, hmessage]
  have hnot : ∀ {replies : List (Except String Uuid)} {i : Nat} {id : Uuid}, Refused replies →
      replies[i]? ≠ some (.ok id) := by
    intro replies i id hreplies hok
    obtain ⟨message, hmessage⟩ := hreplies _ (List.mem_of_getElem? hok)
    cases hmessage
  cases flight_run h with
  | idle _ hsent hreplies =>
    simp only [hsent, Nat.le_refl, Nat.le_succ, true_and]
    constructor
    . intro i hi
      apply hrefused hreplies
      omega
    . intro i id hok
      cases hnot hreplies hok
  | pending _ hsent hreplies =>
    simp only [hsent, Nat.le_refl, Nat.le_succ, true_and]
    constructor
    . intro i hi
      apply hrefused hreplies
      omega
    . intro i id hok
      cases hnot hreplies hok
  | done refusals id hsubmitting hsent hreplies hall =>
    simp only [hsent, Nat.le_refl, Nat.le_succ, true_and]
    rw [hreplies, List.length_append, List.length_singleton]
    constructor
    . intro i hi
      have hlt : i < refusals.length := by omega
      rw [List.getElem?_append_left hlt]
      apply hrefused hall hlt
    . intro i id' hok
      constructor
      . by_cases hlt : i < refusals.length
        . rw [List.getElem?_append_left hlt] at hok
          cases hnot hall hok
        . have hi := (List.getElem?_eq_some_iff.mp hok).1
          rw [List.length_append, List.length_singleton] at hi
          omega
      . simp [Form.canSubmit, hsubmitting]

end Requests

section Answers

variable {ids : Ids} {c : Collation} {db db' : Tables ids} {rows : List AlgorithmRow}
variable {seeded : List EndpointSeed} {number : String → Option Int} {config : Config} {s : State} {f : Form}
variable {body : NewTest} {st : api.State}

/--
What the API still refuses of a form that could be submitted.
-/
inductive Refusal (config : Config) (f : Form) (port : Int) : String → Prop where
  | host (h : Text.trim (Text.jsTrim f.host) = "") : Refusal config f port "host is required"
  | port (h : ¬ (1 ≤ port ∧ port ≤ 65535)) : Refusal config f port "port must be 1-65535"
  | httpPath (h : Text.startsWith f.httpPath "/" = false) : Refusal config f port "http path must start with /"
  | limit (h : config.maxSubtasksPerTest < f.subtaskCount)
    : Refusal config f port
        s!"{f.subtaskCount} subtasks exceeds the limit of {config.maxSubtasksPerTest}; narrow the selection"

structure Shown (f : Form) (test : Test) (st : api.State) : Prop where
  count : test.subtaskCount = f.subtaskCount
  matrix : ∃ cells, getMatrix st.db test.id = .ok ⟨f.selectedGroups.elems, f.selectedSigAlgs.elems, cells⟩
    ∧ cells.map (fun cell => (cell.groupName, cell.sigAlg)) = f.selectedGroups.elems ×ˢ f.selectedSigAlgs.elems

theorem dedupe_eq_self {names : List String} (hnodup : names.Nodup)
    (hnames : ∀ name ∈ names, Text.trim name = name ∧ name ≠ "") : dedupe names = names := by
  have htrim : names.map Text.trim = names := by
    apply (List.map_congr_left _).trans (List.map_id names)
    intro name hname
    apply (hnames name hname).1
  unfold dedupe
  rw [htrim, List.filter_eq_self.mpr]
  . apply Grid.firsts_eq_self hnodup
  . intro name hname
    simp [(hnames name hname).2]

theorem body_eq (h : f.body number = some body)
    : body.host = Text.jsTrim f.host ∧ body.httpPath = f.httpPath ∧ body.plugin = f.plugin
        ∧ body.groups = f.selectedGroups.elems ∧ body.sigAlgs = f.selectedSigAlgs.elems := by
  unfold Form.body at h
  obtain ⟨port, -, rfl⟩ := Option.map_eq_some_iff.mp h
  simp

def Trimmed (rows : List AlgorithmRow) : Prop :=
  ∀ row ∈ rows, Text.trim row.columns.name = row.columns.name ∧ row.columns.name ≠ ""

theorem mem_page {name : String} {kind : String}
    (h : Selectable (rows.filter (fun row => row.columns.kind = kind)) name)
    : ∃ row ∈ rows, row.columns.kind = kind ∧ row.columns.name = name := by
  obtain ⟨row, hrow, -, hname⟩ := h
  rw [List.mem_filter, decide_eq_true_eq] at hrow
  exists row
  simp [hrow, hname]

theorem dedupe_selected {names : List String} {kind : String} (hnames : Trimmed rows) (hnodup : names.Nodup)
    (h : ∀ name ∈ names, Selectable (rows.filter (fun row => row.columns.kind = kind)) name)
    : dedupe names = names := by
  apply dedupe_eq_self hnodup
  intro name hname
  obtain ⟨row, hrow, -, rfl⟩ := mem_page (h name hname)
  apply hnames row hrow

theorem validate_selected (hnames : Trimmed rows) (hok : f.Ok (newTestPage rows)) (hsubmit : f.canSubmit = true)
    (hbody : f.body number = some body)
    : (∃ message, validate config body = .error (.badRequest message) ∧ Refusal config f body.port message)
        ∨ validate config body = .ok (f.selectedGroups.elems, f.selectedSigAlgs.elems) := by
  obtain ⟨hhost, hpath, -, hgroups, hsigAlgs⟩ := body_eq hbody
  have hgroups' : dedupe body.groups = f.selectedGroups.elems := by
    rw [hgroups]
    apply dedupe_selected hnames f.selectedGroups.nodup hok.groups
  have hsigAlgs' : dedupe body.sigAlgs = f.selectedSigAlgs.elems := by
    rw [hsigAlgs]
    apply dedupe_selected hnames f.selectedSigAlgs.nodup hok.sigAlgs
  have hcount : 0 < f.selectedGroups.elems.length * f.selectedSigAlgs.elems.length := by
    simp [Form.canSubmit] at hsubmit
    apply hsubmit.2.1
  have hsome : ¬ (body.groups = [] ∨ body.sigAlgs = []) := by
    rw [hgroups, hsigAlgs]
    rintro (hnil | hnil)
    . rw [hnil] at hcount
      simp at hcount
    . rw [hnil] at hcount
      simp at hcount
  unfold validate
  split
  . next h =>
    left
    refine ⟨_, rfl, .host ?_⟩
    rw [← hhost]
    apply h
  split
  . next h =>
    left
    exact ⟨_, rfl, .port h⟩
  split
  . next h =>
    left
    refine ⟨_, rfl, .httpPath ?_⟩
    rw [← hpath]
    simpa using h
  dsimp only
  rw [hgroups', hsigAlgs']
  split
  . next h =>
    left
    exact ⟨_, rfl, .limit h⟩
  . right
    rfl

theorem adapterFor_of_ok {props : Props} (h : f.Ok props) (default_ default_' : String)
    : adapterFor f.plugin default_ = adapterFor f.plugin default_' := by
  have hall : ∀ tool ∈ TOOLS.map Tool.tool, ∀ plugin ∈ pluginsFor tool,
      plugin ∈ ["open3x", "bq2606", "bo2605", "wolf54", "go125"] := by
    decide
  have hplugin := hall f.tool h.tool f.plugin h.plugin
  revert hplugin
  generalize f.plugin = plugin
  intro hplugin
  simp only [List.mem_cons, List.not_mem_nil, or_false] at hplugin
  rcases hplugin with rfl | rfl | rfl | rfl | rfl
  . rfl
  . rfl
  . rfl
  . rfl
  . rfl

/--
Whatever the student did before a form was sent, and whatever the seed did to the catalog meanwhile: the API refuses
its request for nothing but its host, its port, its path or its size, and the test it becomes is what the form
showed.
-/
theorem sent_answered (hlist : listAlgorithms c none {} db = .ok rows) (hnames : Trimmed rows)
    (hlater : db.Later seeded db') (hst : st.algorithms = algorithmsOf db')
    (hrun : Run (newTestPage rows) {} s) (hsent : f ∈ s.sent) (hbody : f.body number = some body)
    : (∀ env message st', (createTest env config body).eval st = (.error (.badRequest message), st') →
          Refusal config f body.port message)
        ∧ (∀ env test st', st.Lawful → config.maxSubtasksPerTest < 2 ^ 31 →
          (createTest env config body).eval st = (.ok test, st') → Shown f test st')
        ∧ ∀ default_, adapterFor body.plugin default_ = adapterFor body.plugin config.defaultAdapter := by
  obtain ⟨hok, hsubmit⟩ := (ok_run hrun).sent f hsent
  have hvalidate : (∃ message, validate config body = .error (.badRequest message) ∧ Refusal config f body.port message)
      ∨ validate config body = .ok (f.selectedGroups.elems, f.selectedSigAlgs.elems) :=
    validate_selected hnames hok hsubmit hbody
  have hknown : ∀ {kind name : String},
      Selectable (rows.filter (fun row => row.columns.kind = kind)) name → ⟨kind, name⟩ ∈ st.algorithms := by
    intro kind name h
    obtain ⟨row, hrow, rfl, rfl⟩ := mem_page h
    rw [hst]
    apply mem_algorithmsOf hlist hlater hrow
  constructor
  . intro env message st' heval
    rcases createTest_badRequest heval with herror | ⟨groups, sigAlgs, haxes, hunknown⟩
    . rcases hvalidate with ⟨message', hmessage, hrefusal⟩ | haxes
      . rw [hmessage] at herror
        cases herror
        apply hrefusal
      . rw [haxes] at herror
        cases herror
    . exfalso
      rcases hvalidate with ⟨message', hmessage, -⟩ | haxes'
      . rw [hmessage] at haxes
        cases haxes
      . rw [haxes'] at haxes
        cases haxes
        rcases hunknown with ⟨name, hname, hnot⟩ | ⟨name, hname, hnot⟩
        . apply hnot
          apply hknown (hok.groups name hname)
        . apply hnot
          apply hknown (hok.sigAlgs name hname)
  constructor
  . intro env test st' hlawful hmax heval
    obtain ⟨groups, sigAlgs, haccepted, rfl, rfl⟩ := createTest_ok heval
    have hle := (validate_ok haccepted.axes).2.2
    rcases hvalidate with ⟨message', hmessage, -⟩ | haxes
    . have haxes := haccepted.axes
      rw [hmessage] at haxes
      cases haxes
    . rw [haccepted.axes] at haxes
      cases haxes
      have hcount : 0 < f.selectedGroups.elems.length * f.selectedSigAlgs.elems.length := by
        simp [Form.canSubmit] at hsubmit
        apply hsubmit.2.1
      have hlt : f.selectedGroups.elems.length * f.selectedSigAlgs.elems.length < 2 ^ 31 := by omega
      constructor
      case count =>
        dsimp only [testRow]
        rw [asI32_eq hlt]
        rfl
      case matrix =>
        exists (createdRows env body f.selectedGroups.elems f.selectedSigAlgs.elems).map MatrixCell.ofRow
        constructor
        . apply getMatrix_committed hlawful haccepted hlt f.selectedGroups.nodup f.selectedSigAlgs.nodup
          . apply List.ne_nil_of_length_pos
            apply Nat.pos_of_mul_pos_right hcount
          . apply List.ne_nil_of_length_pos
            apply Nat.pos_of_mul_pos_left hcount
        . rw [List.map_map, ← map_pair_createdRows env body]
          rfl
  . intro default_
    rw [(body_eq hbody).2.2.1]
    apply adapterFor_of_ok hok

end Answers

section Lab

def labCollation : Collation :=
  {
    le := fun a b => a ≤ b
    total := by
      intro a b
      simp [Std.le_total]
    trans := by
      intro a b c hab hbc
      simp only [decide_eq_true_eq] at *
      apply Std.le_trans hab hbc
    antisymm := by
      intro a b hab hba
      simp only [decide_eq_true_eq] at *
      apply Std.le_antisymm hab hba
  }

def labGroup : AlgorithmSeed :=
  ⟨"kem_group", "X25519MLKEM768", "X25519MLKEM768", some "ml-kem-hybrid", true, 8⟩

def labSigAlg : AlgorithmSeed :=
  ⟨"sig_alg", "mldsa65", "mldsa65", some "ml-dsa", true, 1⟩

def labPureGroup : AlgorithmSeed :=
  ⟨"kem_group", "MLKEM768", "MLKEM768", some "ml-kem", true, 2⟩

def labStrongSigAlg : AlgorithmSeed :=
  ⟨"sig_alg", "mldsa87", "mldsa87", some "ml-dsa", true, 2⟩

def labCatalog : Tables labIds :=
  (((labTables.put (.algorithm labGroup)).put (.algorithm labSigAlg)).put (.algorithm labPureGroup)).put
    (.algorithm labStrongSigAlg)

def labRows : List AlgorithmRow :=
  (labCatalog.algorithms.rows.filter ({} : AlgorithmQuery).selects).mergeSort
    (fun a b => labCollation.leAlgorithm a.columns b.columns)

def labEvents : List Event :=
  [
    .setHost " tls-good", .toggleGroup ⟨1, labGroup⟩, .toggleGroup ⟨3, labPureGroup⟩, .toggleSigAlg ⟨2, labSigAlg⟩,
    .toggleSigAlg ⟨4, labStrongSigAlg⟩
  ]

def labForm : Form :=
  labEvents.foldl (handle (newTestPage labRows)) {}

def labRequest : NewTest :=
  {
    host := "tls-good"
    port := 443
    httpPath := "/"
    tool := "pq-dsa"
    plugin := "open3x"
    groups := ["X25519MLKEM768", "MLKEM768"]
    sigAlgs := ["mldsa65", "mldsa87"]
  }

def labStore : api.State :=
  { labState with algorithms := algorithmsOf labCatalog }

theorem rows_labCatalog
    : labCatalog.algorithms.rows
        =
      [⟨1, labGroup⟩, ⟨2, labSigAlg⟩, ⟨3, labPureGroup⟩, ⟨4, labStrongSigAlg⟩] := by
  rfl

theorem mem_labRows {row : AlgorithmRow}
    : row ∈ labRows
        ↔
      row = ⟨1, labGroup⟩ ∨ row = ⟨2, labSigAlg⟩ ∨ row = ⟨3, labPureGroup⟩ ∨ row = ⟨4, labStrongSigAlg⟩ := by
  unfold labRows
  rw [List.mem_mergeSort, rows_labCatalog]
  simp [AlgorithmQuery.selects]

theorem trimmed_labRows : Trimmed labRows := by
  intro row hrow
  rcases mem_labRows.mp hrow with rfl | rfl | rfl | rfl
  . decide
  . decide
  . decide
  . decide

theorem run_labEvents : Run (newTestPage labRows) {} ⟨labForm, [], []⟩ := by
  have hgroup : ∀ row ∈ [⟨1, labGroup⟩, ⟨3, labPureGroup⟩], row ∈ (newTestPage labRows).groups := by
    intro row hrow
    apply List.mem_filter.mpr
    rcases List.mem_pair.mp hrow with rfl | rfl
    . simp [mem_labRows, labGroup]
    . simp [mem_labRows, labPureGroup]
  have hsigAlg : ∀ row ∈ [⟨2, labSigAlg⟩, ⟨4, labStrongSigAlg⟩], row ∈ (newTestPage labRows).sigAlgs := by
    intro row hrow
    apply List.mem_filter.mpr
    rcases List.mem_pair.mp hrow with rfl | rfl
    . simp [mem_labRows, labSigAlg]
    . simp [mem_labRows, labStrongSigAlg]
  have hhost : Run (newTestPage labRows) {} ⟨{ ({} : Form) with host := " tls-good" }, [], []⟩ :=
    .tail .refl (.edit (.setHost " tls-good") trivial)
  exact .tail (.tail (.tail (.tail hhost (.edit (.toggleGroup ⟨1, labGroup⟩) ⟨hgroup _ (by simp), rfl⟩))
    (.edit (.toggleGroup ⟨3, labPureGroup⟩) ⟨hgroup _ (by simp), rfl⟩))
    (.edit (.toggleSigAlg ⟨2, labSigAlg⟩) ⟨hsigAlg _ (by simp), rfl⟩))
    (.edit (.toggleSigAlg ⟨4, labStrongSigAlg⟩) ⟨hsigAlg _ (by simp), rfl⟩)

theorem canSubmit_labForm : labForm.canSubmit = true := by
  decide

theorem body_labForm : labForm.body (fun _ => some 443) = some labRequest := by
  rfl

def labCreated : State :=
  {
    form := { labForm with submitting := true, error := none }
    sent := [labForm, { labForm with error := some "internal error" }]
    replies := [.error "internal error", .ok 5]
  }

theorem run_labCreated : Run (newTestPage labRows) {} labCreated := by
  have hrefused := (run_labEvents.tail (.submit canSubmit_labForm)).tail (.refused "internal error" rfl)
  exact (hrefused.tail (.submit canSubmit_labForm)).tail (.created 5 rfl)

theorem sent_after_refusal_lab
    : labCreated.replies.length ≤ labCreated.sent.length ∧ labCreated.sent.length ≤ labCreated.replies.length + 1
        ∧ (∀ i, i + 1 < labCreated.sent.length → ∃ message, labCreated.replies[i]? = some (.error message))
        ∧ ∀ (i : Nat) (id : Uuid), labCreated.replies[i]? = some (.ok id) →
          i + 1 = labCreated.sent.length ∧ labCreated.form.canSubmit = false :=
  sent_after_refusal run_labCreated

theorem sent_answered_lab
    : (∀ env message st', (createTest env labConfig labRequest).eval labStore = (.error (.badRequest message), st') →
          Refusal labConfig labForm 443 message)
        ∧ (∀ env test st', labStore.Lawful → labConfig.maxSubtasksPerTest < 2 ^ 31 →
          (createTest env labConfig labRequest).eval labStore = (.ok test, st') → Shown labForm test st')
        ∧ ∀ default_, adapterFor labRequest.plugin default_ = adapterFor labRequest.plugin labConfig.defaultAdapter :=
  have hlist : listAlgorithms labCollation none {} labCatalog = .ok labRows := rfl
  sent_answered hlist trimmed_labRows (.refl [] labCatalog) rfl
    (run_labEvents.tail (.submit canSubmit_labForm)) (List.mem_singleton_self labForm) body_labForm

end Lab

end NewTestForm

end web

end PqCas
