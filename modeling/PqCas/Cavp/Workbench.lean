import PqCas.Cavp.Sessions
import PqCas.Cavp.Student

/-!
The workbench of the exercise (`cavp-workbench.tsx`): the local computation, the results file in its text box, and
the two requests behind one click on validate, while other calls and new seeds change what the API grades with.
-/

namespace PqCas

namespace cavp

namespace web

namespace CavpWorkbench

variable {uuids : UuidSource}

/--
What the page gets from the browser: `@noble/post-quantum`, `JSON.stringify` and whether `JSON.parse` returns.
-/
structure Browser where
  noble : Noble
  stringify : Json → String
  parses : String → Bool

structure Bench where
  inputs : List (String × String) := []
  computed : Option ComputeOutput := none
  computeError : Option String := none
  results : String
  report : Option ValidationReport := none
  validating : Bool := false
  submitError : Option String := none

def FIELDS (capability : Capability) : List String :=
  match capability with
  | .keyGen => ["seed"]
  | .sigGen => ["sk", "message", "context"]
  | .sigVer => ["pk", "message", "signature", "context"]

/--
How far a click on validate has got: a request is under way, or its answer is.
-/
inductive Flight where
  | create (text : String)
  | created (text : String) (reply : Except api.ApiError SessionDetail)
  | submit (text : String) (id : Uuid)
  | submitted (reply : Except api.ApiError ValidationReport)

structure State (uuids : UuidSource) where
  bench : Bench
  computing : List ComputeInput
  flight : Option Flight
  db : Tables uuids

inductive Event where
  /-- A key stroke in a field of step 03. -/
  | setInput (field value : String)
  | clear
  | runCompute
  /-- A computation is done. The module it imports may not load. -/
  | computed (i : Nat) (failure : Option String)
  /-- A key stroke in the text box of step 04. -/
  | setResults (text : String)
  | validate
  /-- The API handles the request that is under way. A statement of its database may fail. -/
  | serve (failure : Option Err)
  /-- Its answer arrives. -/
  | receive
  /-- The request or its answer is lost. If the API handles it later, then as a call of somebody else. -/
  | fail (cause : String)
  /-- The API handles a call of somebody else. -/
  | call (call : Call)

section Steps

variable (browser : Browser) (crates : Crates) (pack : PackDetail)

def mount (db : Tables uuids) : Except String (State uuids) := do
  let skeleton ← buildResultsSkeleton pack
  return {
    bench := { results := browser.stringify skeleton }
    computing := []
    flight := none
    db := db
  }

def State.refuse (s : State uuids) (message : String) : State uuids :=
  { s with
    bench := { s.bench with submitError := some message, validating := false }
    flight := none }

def Bench.settle (bench : Bench) (answer : Except String ComputeOutput) : Bench :=
  match answer with
  | .ok out => { bench with computed := some out }
  | .error message => { bench with computeError := some message }

def answerOf (input : ComputeInput) (failure : Option String) : Except String ComputeOutput :=
  match failure with
  | some cause => .error cause
  | none => computeCase browser.noble input

def serve (s : State uuids) (failure : Option Err) (flight : Flight) : Option (State uuids) :=
  match flight, failure with
  | .create text, none =>
    some { s with
      flight := some (.created text ((createSession s.db pack.slug).map Prod.fst))
      db := (Call.createSession pack.slug).exec crates s.db }
  | .submit text id, none =>
    some { s with
      flight := some (.submitted ((validateSession crates s.db id text).map Prod.fst))
      db := (Call.validateSession id text).exec crates s.db }
  | .create text, some err => some { s with flight := some (.created text (.error (.database err))) }
  | .submit _ _, some err => some { s with flight := some (.submitted (.error (.database err))) }
  | .created _ _, _ | .submitted _, _ => none

def receive (s : State uuids) (flight : Flight) : Option (State uuids) :=
  match flight with
  | .created text (.ok session) => some { s with flight := some (.submit text session.id) }
  | .submitted (.ok report) =>
    some { s with
      bench := { s.bench with report := some report, validating := false }
      flight := none }
  | .created _ (.error err) | .submitted (.error err) => some (s.refuse err.intoResponse.2)
  | .create _ | .submit _ _ => none

def step (s : State uuids) (event : Event) : Option (State uuids) :=
  match event with
  | .setInput field value =>
    if field ∈ FIELDS pack.capability then
      some { s with bench.inputs := (field, value) :: s.bench.inputs.filter (fun input => input.1 ≠ field) }
    else
      none
  | .clear => some { s with bench := { s.bench with inputs := [], computed := none, computeError := none } }
  | .runCompute =>
    some { s with
      bench := { s.bench with computed := none, computeError := none }
      computing := s.computing ++ [⟨pack.capability, pack.parameterSet, s.bench.inputs⟩] }
  | .computed i failure =>
    (s.computing[i]?).map (fun input =>
      { s with
        bench := s.bench.settle (answerOf browser input failure)
        computing := s.computing.eraseIdx i })
  | .setResults text => some { s with bench.results := text }
  | .validate =>
    -- The button is disabled otherwise.
    if browser.parses s.bench.results ∧ s.bench.validating = false then
      some { s with
        bench := { s.bench with validating := true, submitError := none }
        flight := some (.create s.bench.results) }
    else
      none
  | .serve failure => s.flight.bind (serve crates pack s failure)
  | .receive => s.flight.bind (receive s)
  | .fail cause => s.flight.map (fun _ => s.refuse cause)
  | .call call => some { s with db := call.exec crates s.db }

def run (start : State uuids) (events : List Event) : Option (State uuids) :=
  events.foldlM (step browser crates pack) start

theorem run_append (start : State uuids) (events events' : List Event)
    : run browser crates pack start (events ++ events')
        =
      (run browser crates pack start events).bind (fun s => run browser crates pack s events') :=
  List.foldlM_append

theorem run_singleton (s : State uuids) (event : Event)
    : run browser crates pack s [event] = step browser crates pack s event := by
  unfold run
  rw [List.foldlM_cons]
  apply bind_pure

theorem run_induction {start : State uuids} {motive : List Event → State uuids → Prop} (nil : motive [] start)
    (snoc : ∀ {events s event s'}, run browser crates pack start events = some s → motive events s →
      step browser crates pack s event = some s' → motive (events ++ [event]) s')
    {events : List Event} {s : State uuids} (h : run browser crates pack start events = some s)
    : motive events s := by
  induction events using List.reverseRecOn generalizing s with
  | nil =>
    cases h
    apply nil
  | append_singleton events event ih =>
    rw [run_append, Option.bind_eq_some_iff] at h
    obtain ⟨s₁, hrun, hstep⟩ := h
    rw [run_singleton] at hstep
    apply snoc hrun (ih hrun) hstep

end Steps

def grade (crates : Crates) (version : Pack) (text : String) : Except api.ApiError ValidationReport := do
  let key ← (AnswerKey.fromValue version.answerKey).mapError .json
  (cavp.validate crates text key).mapError (fun err => .badRequest err.toText)

def gradeAndKeep (crates : Crates) (version : Pack) (text : String) : Except api.ApiError ValidationReport := do
  let report ← grade crates version text
  if refuses ((crates.fromStr text).toOption.getD .null) report then
    .error (.database "unsupported Unicode escape sequence")
  else
    .ok report

section History

variable (browser : Browser) (crates : Crates) (pack : PackDetail) (start : State uuids)

/--
The last click on validate came after `clicked`, with `text` in the box.
-/
structure Clicked (clicked events : List Event) (text : String) : Prop where
  last : ∃ between, events = clicked ++ .validate :: between ∧ .validate ∉ between
  box : ∃ s, run browser crates pack start clicked = some s ∧ s.bench.results = text
  parses : browser.parses text = true

/--
What that click sent, in its second request, was answered after `graded`, with the version of the pack at that moment.
-/
structure Graded (clicked graded : List Event) (text : String) (reply : Except api.ApiError ValidationReport)
    : Prop where
  click : Clicked browser crates pack start clicked graded text
  reply : ∃ s id version, run browser crates pack start graded = some s ∧ s.flight = some (.submit text id)
    ∧ s.db.version? pack.slug = some version ∧ reply = gradeAndKeep crates version text

end History

section Runs

variable {browser : Browser} {crates : Crates} {pack : PackDetail} {start s s' : State uuids}
variable {clicked graded events : List Event} {event : Event} {text : String}
variable {reply : Except api.ApiError ValidationReport} {db db' : Tables uuids} {id : Uuid}

theorem Clicked.snoc (h : Clicked browser crates pack start clicked events text) (hevent : event ≠ .validate)
    : Clicked browser crates pack start clicked (events ++ [event]) text := by
  obtain ⟨between, hevents, hlast⟩ := h.last
  constructor
  case last =>
    exists between ++ [event]
    simp [hevents, hlast, hevent.symm]
  case box => apply h.box
  case parses => apply h.parses

def Bound (slug : String) (db : Tables uuids) (id : Uuid) : Prop :=
  ∃ snapshot, db.snapshot? id = some snapshot ∧ db.packId? slug = some snapshot.packId

theorem Bound.runCalls {slug : String} (h : Bound slug db id) (calls : List Call)
    : Bound slug (runCalls crates db calls) id := by
  obtain ⟨snapshot, hsnapshot, hpack⟩ := h
  exists snapshot
  constructor
  . apply snapshot?_runCalls crates hsnapshot
  . apply packId?_runCalls crates hpack

theorem exists_version {slug : String} (h : db.packId? slug = some id)
    : ∃ version, db.version? slug = some version := by
  obtain ⟨row, hrow, -⟩ := Option.map_eq_some_iff.mp h
  exists row.toPack
  unfold Tables.version?
  rw [hrow]
  rfl

theorem createSession_of_pack (crates : Crates) {slug : String} (h : db.packId? slug = some id)
    : ∃ session, (createSession db slug).map Prod.fst = .ok session
        ∧ Bound slug ((Call.createSession slug).exec crates db) session.id := by
  obtain ⟨version, hversion⟩ := exists_version h
  have hcreate : ∃ session db', createSession db slug = .ok (session, db') := by
    unfold createSession
    rw [fetchPack_map_toPack, hversion]
    dsimp only [Fallible.okOr, bind, Except.bind]
    split
    . next hnone =>
      unfold Tables.version? at hversion
      rw [hnone] at hversion
      cases hversion
    . exact ⟨_, _, rfl⟩
  obtain ⟨session, db', hcreate⟩ := hcreate
  exists session
  rw [exec_createSession_of_ok crates hcreate, hcreate]
  obtain ⟨row, hmem, hrow, hid, rfl⟩ := createSession_of_ok hcreate
  constructor
  . rfl
  . exists row.snapshot
    constructor
    . unfold Tables.snapshot?
      rw [session?_insertSession, hid, session?_draw]
      simp
    . apply congrArg (Option.map (·.id)) hrow

theorem validateSession_of_bound {slug : String} {version : Pack} (h : Bound slug db id)
    (hversion : db.version? slug = some version) (text : String)
    : (validateSession crates db id text).map Prod.fst = gradeAndKeep crates version text := by
  obtain ⟨snapshot, hsnapshot, hpack⟩ := h
  unfold validateSession gradeAndKeep grade
  rw [sessionAnswerKey_eq hsnapshot hpack hversion]
  dsimp only [bind, Except.bind]
  cases (AnswerKey.fromValue version.answerKey).mapError api.ApiError.json with
  | error err => rfl
  | ok key =>
    dsimp only
    cases (cavp.validate crates text key).mapError (fun err => api.ApiError.badRequest err.toText) with
    | error err => rfl
    | ok report =>
      dsimp only
      unfold Tables.saveValidation
      by_cases hrefuses : refuses ((crates.fromStr text).toOption.getD .null) report = true
      . rw [if_pos hrefuses, if_pos hrefuses]
        rfl
      . rw [if_neg hrefuses, if_neg hrefuses]
        rfl

def MessageOk (browser : Browser) (crates : Crates) (pack : PackDetail) (start : State uuids)
    (events : List Event) (message : String) : Prop :=
  (∃ before after, events = before ++ .fail message :: after ∧ .validate ∉ after)
    ∨ (∃ before err after, events = before ++ .serve (some err) :: after ∧ .validate ∉ after
      ∧ message = "internal error")
    ∨ ∃ clicked graded after text err, events = graded ++ .serve none :: after ∧ .validate ∉ after
      ∧ Graded browser crates pack start clicked graded text (.error err) ∧ message = err.intoResponse.2

inductive FlightOk (browser : Browser) (crates : Crates) (pack : PackDetail) (start : State uuids)
    (events : List Event) (s : State uuids) : Prop where
  | idle (hflight : s.flight = none) (hbutton : s.bench.validating = false)
  | create (clicked : List Event) (text : String) (hflight : s.flight = some (.create text))
      (hbutton : s.bench.validating = true) (hclick : Clicked browser crates pack start clicked events text)
  | created (clicked : List Event) (text : String) (session : SessionDetail)
      (hflight : s.flight = some (.created text (.ok session))) (hbutton : s.bench.validating = true)
      (hclick : Clicked browser crates pack start clicked events text) (hbound : Bound pack.slug s.db session.id)
  | submit (clicked : List Event) (text : String) (id : Uuid) (hflight : s.flight = some (.submit text id))
      (hbutton : s.bench.validating = true) (hclick : Clicked browser crates pack start clicked events text)
      (hbound : Bound pack.slug s.db id)
  | graded (clicked graded after : List Event) (text : String) (report : ValidationReport)
      (hflight : s.flight = some (.submitted (.ok report))) (hbutton : s.bench.validating = true)
      (hevents : events = graded ++ .serve none :: after) (hafter : .validate ∉ after)
      (hgraded : Graded browser crates pack start clicked graded text (.ok report))
  | refused (err : api.ApiError)
      (hflight : (∃ text, s.flight = some (.created text (.error err))) ∨ s.flight = some (.submitted (.error err)))
      (hbutton : s.bench.validating = true)
      (hmessage : MessageOk browser crates pack start events err.intoResponse.2)

def ReportOk (browser : Browser) (crates : Crates) (pack : PackDetail) (start : State uuids)
    (events : List Event) (s : State uuids) (report : ValidationReport) : Prop :=
  ∃ clicked graded after text, events = graded ++ .serve none :: after
    ∧ Graded browser crates pack start clicked graded text (.ok report)
    ∧ (s.bench.validating = false → s.bench.submitError = none → .validate ∉ after)

structure Inv (browser : Browser) (crates : Crates) (pack : PackDetail) (start : State uuids)
    (events : List Event) (s : State uuids) : Prop where
  there : ∃ id, s.db.packId? pack.slug = some id
  flight : FlightOk browser crates pack start events s
  report : ∀ report, s.bench.report = some report → ReportOk browser crates pack start events s report
  message : ∀ message, s.bench.submitError = some message → MessageOk browser crates pack start events message

structure Unmoved (crates : Crates) (s s' : State uuids) : Prop where
  flight : s'.flight = s.flight
  validating : s'.bench.validating = s.bench.validating
  report : s'.bench.report = s.bench.report
  submitError : s'.bench.submitError = s.bench.submitError
  db : ∃ calls, s'.db = runCalls crates s.db calls

theorem MessageOk.keep {message : String} (h : MessageOk browser crates pack start events message)
    (hevent : event ≠ .validate) : MessageOk browser crates pack start (events ++ [event]) message := by
  rcases h with ⟨before, after, hevents, hafter⟩ | ⟨before, err, after, hevents, hafter, hmessage⟩
    | ⟨clicked, graded, after, text, err, hevents, hafter, hrest⟩
  . left
    exists before, after ++ [event]
    simp [hevents, hafter, hevent.symm]
  . right
    left
    exists before, err, after ++ [event]
    simp [hevents, hafter, hevent.symm, hmessage]
  . right
    right
    refine ⟨clicked, graded, after ++ [event], text, err, ?_, ?_, hrest⟩
    . simp [hevents]
    . simp [hafter, hevent.symm]

theorem FlightOk.keep (h : FlightOk browser crates pack start events s) (hevent : event ≠ .validate)
    (hsame : Unmoved crates s s') : FlightOk browser crates pack start (events ++ [event]) s' := by
  have hflight := hsame.flight
  have hbutton := hsame.validating
  obtain ⟨calls, hdb⟩ := hsame.db
  cases h with
  | idle hidle hfree => exact .idle (hflight.trans hidle) (hbutton.trans hfree)
  | create clicked text hcreate hbusy hclick =>
    exact .create clicked text (hflight.trans hcreate) (hbutton.trans hbusy) (hclick.snoc hevent)
  | created clicked text session hcreated hbusy hclick hbound =>
    apply FlightOk.created clicked text session (hflight.trans hcreated) (hbutton.trans hbusy) (hclick.snoc hevent)
    rw [hdb]
    apply hbound.runCalls
  | submit clicked text id hsubmit hbusy hclick hbound =>
    apply FlightOk.submit clicked text id (hflight.trans hsubmit) (hbutton.trans hbusy) (hclick.snoc hevent)
    rw [hdb]
    apply hbound.runCalls
  | graded clicked graded after text report hgot hbusy hevents hafter hgraded =>
    apply FlightOk.graded clicked graded (after ++ [event]) text report (hflight.trans hgot)
      (hbutton.trans hbusy) _ _ hgraded
    . simp [hevents]
    . simp [hafter, hevent.symm]
  | refused err hgot hbusy hmessage =>
    apply FlightOk.refused err _ (hbutton.trans hbusy) (hmessage.keep hevent)
    rw [hflight]
    apply hgot

theorem ReportOk.keep {report : ValidationReport} (h : ReportOk browser crates pack start events s report)
    (hevent : event ≠ .validate)
    (hidle : s'.bench.validating = false → s'.bench.submitError = none →
      s.bench.validating = false ∧ s.bench.submitError = none)
    : ReportOk browser crates pack start (events ++ [event]) s' report := by
  obtain ⟨clicked, graded, after, text, hevents, hgraded, hlast⟩ := h
  refine ⟨clicked, graded, after ++ [event], text, ?_, hgraded, ?_⟩
  . simp [hevents]
  . intro hbutton hmessage
    obtain ⟨hbutton, hmessage⟩ := hidle hbutton hmessage
    simp [hlast hbutton hmessage, hevent.symm]

theorem inv_keep (h : Inv browser crates pack start events s) (hevent : event ≠ .validate)
    (hsame : Unmoved crates s s') : Inv browser crates pack start (events ++ [event]) s' := by
  constructor
  case there =>
    obtain ⟨id, hid⟩ := h.there
    obtain ⟨calls, hdb⟩ := hsame.db
    exists id
    rw [hdb]
    apply packId?_runCalls crates hid
  case flight => apply h.flight.keep hevent hsame
  case report =>
    intro report hshown
    rw [hsame.report] at hshown
    apply (h.report report hshown).keep hevent
    rw [hsame.validating, hsame.submitError]
    apply And.intro
  case message =>
    intro message hshown
    rw [hsame.submitError] at hshown
    apply (h.message message hshown).keep hevent

theorem inv_validate (hrun : run browser crates pack start events = some s)
    (h : Inv browser crates pack start events s) (hparses : browser.parses s.bench.results = true)
    : Inv browser crates pack start (events ++ [.validate])
        { s with
          bench := { s.bench with validating := true, submitError := none }
          flight := some (.create s.bench.results) } := by
  constructor
  case there => apply h.there
  case flight =>
    apply FlightOk.create events s.bench.results rfl rfl
    constructor
    case last =>
      exists []
      simp
    case box =>
      exists s
    case parses => apply hparses
  case report =>
    intro report hshown
    obtain ⟨clicked, graded, after, text, hevents, hgraded, -⟩ := h.report report hshown
    refine ⟨clicked, graded, after ++ [.validate], text, ?_, hgraded, ?_⟩
    . simp [hevents]
    . simp
  case message => simp

theorem inv_refuse {message : String} (h : Inv browser crates pack start events s) (hevent : event ≠ .validate)
    (hmessage : MessageOk browser crates pack start (events ++ [event]) message)
    : Inv browser crates pack start (events ++ [event]) (s.refuse message) := by
  constructor
  case there => apply h.there
  case flight => exact .idle rfl rfl
  case report =>
    intro report hshown
    apply (h.report report hshown).keep hevent
    simp [State.refuse]
  case message =>
    intro shown hshown
    cases hshown
    apply hmessage

theorem inv_move (h : Inv browser crates pack start events s) (hevent : event ≠ .validate)
    (hbench : s'.bench = s.bench) (hdb : ∃ calls, s'.db = runCalls crates s.db calls)
    (hflight : FlightOk browser crates pack start (events ++ [event]) s')
    : Inv browser crates pack start (events ++ [event]) s' := by
  constructor
  case there =>
    obtain ⟨id, hid⟩ := h.there
    obtain ⟨calls, hdb⟩ := hdb
    exists id
    rw [hdb]
    apply packId?_runCalls crates hid
  case flight => apply hflight
  case report =>
    intro report hshown
    rw [hbench] at hshown
    apply (h.report report hshown).keep hevent
    rw [hbench]
    apply And.intro
  case message =>
    intro message hshown
    rw [hbench] at hshown
    apply (h.message message hshown).keep hevent

theorem inv_fault {err : Err} (h : Inv browser crates pack start events s)
    (hbench : s'.bench = s.bench) (hdb : s'.db = s.db) (hbutton : s.bench.validating = true)
    (hflight : (∃ text, s'.flight = some (.created text (.error (.database err))))
      ∨ s'.flight = some (.submitted (.error (.database err))))
    : Inv browser crates pack start (events ++ [.serve (some err)]) s' := by
  apply inv_move h (by simp) hbench
  case hdb =>
    exists []
  case hflight =>
    apply FlightOk.refused (.database err) hflight
    . rw [hbench]
      exact hbutton
    . right
      left
      exists events, err, []
      simp [api.ApiError.intoResponse]

theorem inv_create {clicked : List Event} {text : String} (h : Inv browser crates pack start events s)
    (hbutton : s.bench.validating = true) (hclick : Clicked browser crates pack start clicked events text)
    (hserve : serve crates pack s none (.create text) = some s')
    : Inv browser crates pack start (events ++ [.serve none]) s' := by
  obtain ⟨packId, hpack⟩ := h.there
  obtain ⟨session, hsession, hbound⟩ := createSession_of_pack crates hpack
  cases hserve
  apply inv_move h
  case hevent => simp
  case hbench => rfl
  case hdb =>
    exists [.createSession pack.slug]
  case hflight =>
    rw [hsession]
    exact .created clicked text session rfl hbutton (hclick.snoc (by simp)) hbound

theorem inv_submit {clicked : List Event} {text : String} {id : Uuid}
    (hrun : run browser crates pack start events = some s) (h : Inv browser crates pack start events s)
    (hsubmit : s.flight = some (.submit text id)) (hbutton : s.bench.validating = true)
    (hclick : Clicked browser crates pack start clicked events text) (hbound : Bound pack.slug s.db id)
    (hserve : serve crates pack s none (.submit text id) = some s')
    : Inv browser crates pack start (events ++ [.serve none]) s' := by
  obtain ⟨packId, hpack⟩ := h.there
  obtain ⟨version, hversion⟩ := exists_version hpack
  have hgraded : Graded browser crates pack start clicked events text (gradeAndKeep crates version text) := by
    constructor
    case click => apply hclick
    case reply => exists s, id, version
  cases hserve
  apply inv_move h
  case hevent => simp
  case hbench => rfl
  case hdb =>
    exists [.validateSession id text]
  case hflight =>
    rw [validateSession_of_bound hbound hversion]
    cases hreply : gradeAndKeep crates version text with
    | ok report =>
      rw [hreply] at hgraded
      exact .graded clicked events [] text report rfl hbutton rfl (by simp) hgraded
    | error err =>
      rw [hreply] at hgraded
      have hmessage : MessageOk browser crates pack start (events ++ [.serve none]) err.intoResponse.2 := by
        right
        right
        exact ⟨clicked, events, [], text, err, rfl, by simp, hgraded, rfl⟩
      exact .refused err (.inr rfl) hbutton hmessage

theorem inv_serve {failure : Option Err} {flight : Flight} (hrun : run browser crates pack start events = some s)
    (h : Inv browser crates pack start events s) (hflight : s.flight = some flight)
    (hserve : serve crates pack s failure flight = some s')
    : Inv browser crates pack start (events ++ [.serve failure]) s' := by
  cases h.flight with
  | idle hidle =>
    rw [hidle] at hflight
    cases hflight
  | create clicked text hcreate hbutton hclick =>
    cases hcreate.symm.trans hflight
    cases failure with
    | none => apply inv_create h hbutton hclick hserve
    | some err =>
      cases hserve
      exact inv_fault h rfl rfl hbutton (.inl ⟨text, rfl⟩)
  | submit clicked text id hsubmit hbutton hclick hbound =>
    cases hsubmit.symm.trans hflight
    cases failure with
    | none => apply inv_submit hrun h hsubmit hbutton hclick hbound hserve
    | some err =>
      cases hserve
      exact inv_fault h rfl rfl hbutton (.inr rfl)
  -- What is on its way to the workbench is not served again.
  | created clicked text session hcreated =>
    cases hcreated.symm.trans hflight
    cases failure <;> cases hserve
  | graded clicked graded after text report hgot =>
    cases hgot.symm.trans hflight
    cases failure <;> cases hserve
  | refused err hgot =>
    rcases hgot with ⟨text, hgot⟩ | hgot
    . cases hgot.symm.trans hflight
      cases failure <;> cases hserve
    . cases hgot.symm.trans hflight
      cases failure <;> cases hserve

theorem inv_receive {flight : Flight} (h : Inv browser crates pack start events s)
    (hflight : s.flight = some flight) (hreceive : receive s flight = some s')
    : Inv browser crates pack start (events ++ [.receive]) s' := by
  cases h.flight with
  | idle hidle =>
    rw [hidle] at hflight
    cases hflight
  | create clicked text hcreate =>
    cases hcreate.symm.trans hflight
    cases hreceive
  | created clicked text session hcreated hbusy hclick hbound =>
    cases hcreated.symm.trans hflight
    cases hreceive
    apply inv_move h
    . simp
    . rfl
    . exists []
    . exact .submit clicked text session.id rfl hbusy (hclick.snoc (by simp)) hbound
  | submit clicked text id hsubmit =>
    cases hsubmit.symm.trans hflight
    cases hreceive
  | graded clicked graded after text report hgot hbusy hevents hafter hgraded =>
    cases hgot.symm.trans hflight
    cases hreceive
    have hevents' : events ++ [.receive] = graded ++ .serve none :: (after ++ [.receive]) := by simp [hevents]
    have hafter' : .validate ∉ after ++ [.receive] := by simp [hafter]
    constructor
    case there => apply h.there
    case flight => exact .idle rfl rfl
    case report =>
      intro shown hshown
      cases hshown
      exact ⟨clicked, graded, after ++ [.receive], text, hevents', hgraded, fun _ _ => hafter'⟩
    case message =>
      intro message hshown
      apply (h.message message hshown).keep
      simp
  | refused err hgot hbusy hmessage =>
    have hkept : MessageOk browser crates pack start (events ++ [.receive]) _ := hmessage.keep (by simp)
    rcases hgot with ⟨text, hgot⟩ | hgot
    . cases hgot.symm.trans hflight
      cases hreceive
      apply inv_refuse h (by simp) hkept
    . cases hgot.symm.trans hflight
      cases hreceive
      apply inv_refuse h (by simp) hkept

theorem inv_step (hrun : run browser crates pack start events = some s) (h : Inv browser crates pack start events s)
    (hstep : step browser crates pack s event = some s')
    : Inv browser crates pack start (events ++ [event]) s' := by
  cases event with
  | setInput field value =>
    unfold step at hstep
    dsimp only at hstep
    split at hstep
    . cases hstep
      apply inv_keep h
      . simp
      . exact ⟨rfl, rfl, rfl, rfl, [], rfl⟩
    . cases hstep
  | clear | runCompute | setResults text =>
    cases hstep
    apply inv_keep h
    . simp
    . exact ⟨rfl, rfl, rfl, rfl, [], rfl⟩
  | computed i failure =>
    obtain ⟨input, -, rfl⟩ := Option.map_eq_some_iff.mp hstep
    cases answerOf browser input failure with
    | ok out =>
      apply inv_keep h
      . simp
      . exact ⟨rfl, rfl, rfl, rfl, [], rfl⟩
    | error message =>
      apply inv_keep h
      . simp
      . exact ⟨rfl, rfl, rfl, rfl, [], rfl⟩
  | validate =>
    unfold step at hstep
    dsimp only at hstep
    split at hstep
    . next hbutton =>
      cases hstep
      apply inv_validate hrun h hbutton.1
    . cases hstep
  | serve failure =>
    obtain ⟨flight, hflight, hserve⟩ := Option.bind_eq_some_iff.mp hstep
    apply inv_serve hrun h hflight hserve
  | receive =>
    obtain ⟨flight, hflight, hreceive⟩ := Option.bind_eq_some_iff.mp hstep
    apply inv_receive h hflight hreceive
  | fail cause =>
    obtain ⟨flight, -, rfl⟩ := Option.map_eq_some_iff.mp hstep
    apply inv_refuse h (by simp)
    left
    exists events, []
    simp
  | call call =>
    cases hstep
    apply inv_keep h
    . simp
    . exact ⟨rfl, rfl, rfl, rfl, [call], rfl⟩

theorem inv_mount {slug : String} (hpack : getPack (db.packs.map PackRow.toPack) slug = .ok pack)
    (hmount : mount browser pack db = .ok start) : Inv browser crates pack start [] start := by
  unfold getPack at hpack
  rw [fetchPack_map_toPack, Fallible.bind_eq_ok_iff] at hpack
  obtain ⟨version, hversion, hpack⟩ := hpack
  cases hpack
  rw [Fallible.okOr_eq_ok_iff] at hversion
  obtain ⟨row, hrow, -⟩ := Option.map_eq_some_iff.mp hversion
  unfold mount at hmount
  rw [Fallible.bind_eq_ok_iff] at hmount
  obtain ⟨skeleton, -, hmount⟩ := hmount
  cases hmount
  constructor
  case there =>
    exists row.id
    unfold Tables.packId?
    dsimp only [packDetail]
    rw [hrow]
    rfl
  case flight => exact .idle rfl rfl
  case report => simp
  case message => simp

theorem inv_run {slug : String} (hpack : getPack (db.packs.map PackRow.toPack) slug = .ok pack)
    (hmount : mount browser pack db = .ok start) (hrun : run browser crates pack start events = some s)
    : Inv browser crates pack start events s := by
  revert hrun
  apply run_induction
  . apply inv_mount hpack hmount
  . intro events s event s' hrun h hstep
    apply inv_step hrun h hstep

def Event.IsRemote (event : Event) : Prop :=
  match event with
  | .validate | .serve _ | .receive | .fail _ | .call _ => True
  | .setInput _ _ | .clear | .runCompute | .computed _ _ | .setResults _ => False

theorem remote_step (hstep : step browser crates pack s event = some s') (hremote : event.IsRemote)
    : s'.bench.results = s.bench.results ∧ s'.computing = s.computing ∧ s'.bench.computed = s.bench.computed
        ∧ s'.bench.computeError = s.bench.computeError := by
  cases event with
  | setInput | clear | runCompute | computed | setResults => cases hremote
  | validate =>
    unfold step at hstep
    dsimp only at hstep
    split at hstep
    . cases hstep
      simp
    . cases hstep
  | serve failure =>
    obtain ⟨flight, -, hserve⟩ := Option.bind_eq_some_iff.mp hstep
    cases flight with
    | create text | submit text id =>
      cases failure with
      | none | some err =>
        cases hserve
        simp
    | created text reply | submitted reply =>
      cases failure with
      | none | some err => cases hserve
  | receive =>
    obtain ⟨flight, -, hreceive⟩ := Option.bind_eq_some_iff.mp hstep
    cases flight with
    | create text | submit text id => cases hreceive
    | created text reply =>
      cases reply with
      | ok session | error err =>
        cases hreceive
        simp [State.refuse]
    | submitted reply =>
      cases reply with
      | ok report | error err =>
        cases hreceive
        simp [State.refuse]
  | fail cause =>
    obtain ⟨flight, -, rfl⟩ := Option.map_eq_some_iff.mp hstep
    simp [State.refuse]
  | call call =>
    cases hstep
    simp

theorem results_step (hstep : step browser crates pack s event = some s')
    (hevent : ∀ text, event ≠ .setResults text) : s'.bench.results = s.bench.results := by
  cases event with
  | setInput field value =>
    unfold step at hstep
    dsimp only at hstep
    split at hstep
    . cases hstep
      rfl
    . cases hstep
  | clear | runCompute =>
    cases hstep
    rfl
  | setResults text => cases hevent text rfl
  | computed i failure =>
    obtain ⟨input, -, rfl⟩ := Option.map_eq_some_iff.mp hstep
    cases answerOf browser input failure with
    | ok out => rfl
    | error message => rfl
  | validate | serve | receive | fail | call => apply (remote_step hstep trivial).1

theorem results_run (hrun : run browser crates pack start events = some s)
    (hevents : ∀ text, .setResults text ∉ events) : s.bench.results = start.bench.results := by
  refine run_induction browser crates pack (motive := fun events s =>
    (∀ text, .setResults text ∉ events) → s.bench.results = start.bench.results) ?_ ?_ hrun hevents
  . intro _
    rfl
  . intro events s event s' _ ih hstep hevents
    rw [results_step hstep]
    . apply ih
      intro text htext
      apply hevents text
      simp [htext]
    . rintro text rfl
      apply hevents text
      simp

/--
Whatever the student does while requests are under way, whichever are lost or run into a failure of the database, and
whatever others and new seeds do to the tables: a report that is shown grades a text that was in the box at a click on
validate, with the version the pack had when the API handled the second request of that click. If no click is under way
and no message is shown, then that was the last click; and if nothing was typed since, the text is the one that is still
in the box.
-/
theorem report_of_run {slug : String} {report : ValidationReport}
    (hpack : getPack (db.packs.map PackRow.toPack) slug = .ok pack) (hmount : mount browser pack db = .ok start)
    (hrun : run browser crates pack start events = some s) (hreport : s.bench.report = some report)
    : ∃ clicked graded after text, events = graded ++ .serve none :: after
        ∧ Graded browser crates pack start clicked graded text (.ok report)
        ∧ (s.bench.validating = false → s.bench.submitError = none → .validate ∉ after)
        ∧ ∀ rest, events = clicked ++ rest → (∀ typed, .setResults typed ∉ rest) → s.bench.results = text := by
  have hinv := inv_run hpack hmount hrun
  obtain ⟨clicked, graded, after, text, hevents, hgraded, hlast⟩ := hinv.report report hreport
  refine ⟨clicked, graded, after, text, hevents, hgraded, hlast, ?_⟩
  intro rest hrest hquiet
  obtain ⟨s₁, hrun₁, htext⟩ := hgraded.click.box
  rw [hrest, run_append, hrun₁] at hrun
  rw [results_run hrun hquiet]
  apply htext

end Runs

section Lab

def labBrowser : Browser :=
  {
    noble := ⟨toyDsa, toyDsa, toyDsa⟩
    stringify := fun _ => sessionsLab.text
    parses := fun _ => true
  }

def labPack : PackDetail :=
  {
    slug := "mldsa65-03-sigver"
    capability := .sigVer
    parameterSet := "ML-DSA-65"
    vsId := 91023
    registration := .null
    prompt := sessionsLab.prompt "00"
    worked := exampleAnswer (sessionsLab.answerKey true)
  }

def labDb : Tables sessionsLab.uuids :=
  runCalls sessionsLab.crates .empty sessionsLab.before

def labStart : State sessionsLab.uuids :=
  {
    bench := { results := sessionsLab.text }
    computing := []
    flight := none
    db := labDb
  }

/--
The pack is seeded again between the two requests of a click.
-/
def labEvents : List Event :=
  [
    .validate, .serve none, .receive, .call (.seed [sessionsLab.entry "01" false]), .serve none, .receive
  ]

theorem getPack_labDb : getPack (labDb.packs.map PackRow.toPack) "mldsa65-03-sigver" = .ok labPack := by
  rfl

theorem mount_labDb : mount labBrowser labPack labDb = .ok labStart := by
  rfl

theorem report_of_run_lab
    : ∃ s report, run labBrowser sessionsLab.crates labPack labStart labEvents = some s
        ∧ s.bench.report = some report
        ∧ ∃ clicked graded after text, labEvents = graded ++ .serve none :: after
          ∧ Graded labBrowser sessionsLab.crates labPack labStart clicked graded text (.ok report)
          ∧ (s.bench.validating = false → s.bench.submitError = none → .validate ∉ after)
          ∧ ∀ rest, labEvents = clicked ++ rest → (∀ typed, .setResults typed ∉ rest) → s.bench.results = text := by
  obtain ⟨s, report, hrun, hreport⟩ : ∃ s report,
      run labBrowser sessionsLab.crates labPack labStart labEvents = some s ∧ s.bench.report = some report :=
    ⟨_, _, rfl, rfl⟩
  exact ⟨s, report, hrun, hreport, report_of_run getPack_labDb mount_labDb hrun hreport⟩

end Lab

end CavpWorkbench

end web

end cavp

end PqCas
