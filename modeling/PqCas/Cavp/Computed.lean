import PqCas.Cavp.Workbench

/-!
What the workbench shows of the local computation (step 03 of `cavp-workbench.tsx`) when run is clicked again before
the last computation is done.
-/

namespace PqCas

namespace cavp

namespace web

namespace CavpWorkbench

variable {uuids : UuidSource}

section Computing

variable {browser : Browser} {crates : Crates} {pack : PackDetail} {s s' : State uuids}
variable {events : List Event} {event : Event}

/--
What is shown below the buttons of step 03. An empty message counts as none.
-/
def Bench.display (bench : Bench) : Option (Except String ComputeOutput) :=
  match bench.computeError with
  | none | some "" => bench.computed.map .ok
  | some message => some (.error message)

def outputs (answers : List (Except String ComputeOutput)) : Option ComputeOutput :=
  (answers.filterMap Except.toOption).getLast?

def messageOf (answer : Except String ComputeOutput) : Option String :=
  match answer with
  | .ok _ => none
  | .error message => some message

def messages (answers : List (Except String ComputeOutput)) : Option String :=
  (answers.filterMap messageOf).getLast?

def Event.ending (event : Event) : Option (Option String) :=
  match event with
  | .computed _ failure => some failure
  | _ => none

def answers (browser : Browser) (inputs : List ComputeInput) (events : List Event)
    : List (Except String ComputeOutput) :=
  List.zipWith (answerOf browser) inputs (events.filterMap Event.ending)

def InOrder (events : List Event) : Prop :=
  ∀ i failure, .computed i failure ∈ events → i = 0 ∧ failure ≠ some ""

def Untouched (events : List Event) : Prop :=
  .runCompute ∉ events ∧ .clear ∉ events

structure Done (browser : Browser) (inputs : List ComputeInput) (events : List Event) (s : State uuids) : Prop where
  queue : ∃ answered, inputs = answered ++ s.computing ∧ answered.length = (events.filterMap Event.ending).length
  computed : s.bench.computed = outputs (answers browser inputs events)
  computeError : s.bench.computeError = messages (answers browser inputs events)

theorem done_step {inputs : List ComputeInput} (h : Done browser inputs events s)
    (hstep : step browser crates pack s event = some s') (horder : InOrder [event]) (hclicks : Untouched [event])
    : Done browser inputs (events ++ [event]) s' := by
  obtain ⟨answered, hinputs, hlength⟩ := h.queue
  -- What is not about step 03.
  have hsame : event.ending = none → s'.computing = s.computing → s'.bench.computed = s.bench.computed →
      s'.bench.computeError = s.bench.computeError → Done browser inputs (events ++ [event]) s' := by
    intro hending hcomputing hcomputed herror
    have hendings : (events ++ [event]).filterMap Event.ending = events.filterMap Event.ending := by
      simp [hending]
    have hanswers : answers browser inputs (events ++ [event]) = answers browser inputs events := by
      unfold answers
      rw [hendings]
    constructor
    case queue =>
      exists answered
      rw [hcomputing, hendings]
      exact ⟨hinputs, hlength⟩
    case computed => rw [hanswers, hcomputed, h.computed]
    case computeError => rw [hanswers, herror, h.computeError]
  cases event with
  | setInput field value =>
    unfold step at hstep
    dsimp only at hstep
    split at hstep
    . cases hstep
      apply hsame rfl rfl rfl rfl
    . cases hstep
  | clear => simp [Untouched] at hclicks
  | runCompute => simp [Untouched] at hclicks
  | setResults text =>
    cases hstep
    apply hsame rfl rfl rfl rfl
  | computed i failure =>
    obtain ⟨rfl, -⟩ := horder i failure (by simp)
    obtain ⟨input, hinput, rfl⟩ := Option.map_eq_some_iff.mp hstep
    obtain ⟨rest, hrest⟩ : ∃ rest, s.computing = input :: rest := by
      cases hcomputing : s.computing with
      | nil => simp [hcomputing] at hinput
      | cons first rest =>
        rw [hcomputing, List.getElem?_cons_zero] at hinput
        cases hinput
        exists rest
    have hanswers : answers browser inputs (events ++ [.computed 0 failure])
        = answers browser inputs events ++ [answerOf browser input failure] := by
      unfold answers
      rw [List.filterMap_append, hinputs, hrest, List.zipWith_append hlength]
      have hshort : List.zipWith (answerOf browser) (answered ++ input :: rest) (events.filterMap Event.ending)
          = List.zipWith (answerOf browser) answered (events.filterMap Event.ending) := by
        rw [← List.append_nil (events.filterMap Event.ending), List.zipWith_append (by simpa using hlength)]
        simp
      rw [hshort]
      simp [Event.ending]
    constructor
    case queue =>
      exists answered ++ [input]
      constructor
      . simp [hinputs, hrest]
      . simp [hlength, Event.ending]
    case computed =>
      rw [hanswers]
      cases answerOf browser input failure with
      | ok out => simp [Bench.settle, outputs, Except.toOption]
      | error message => simpa [Bench.settle, outputs, Except.toOption] using h.computed
    case computeError =>
      rw [hanswers]
      cases answerOf browser input failure with
      | ok out => simpa [Bench.settle, messages, messageOf] using h.computeError
      | error message => simp [Bench.settle, messages, messageOf]
  | validate | serve | receive | fail | call =>
    obtain ⟨-, hcomputing, hcomputed', herror'⟩ := remote_step hstep trivial
    apply hsame rfl hcomputing hcomputed' herror'

theorem InOrder.of_append {events' : List Event} (h : InOrder (events ++ events'))
    : InOrder events ∧ InOrder events' := by
  constructor
  . intro i failure hmem
    apply h i failure (List.mem_append_left _ hmem)
  . intro i failure hmem
    apply h i failure (List.mem_append_right _ hmem)

theorem Untouched.of_append {events' : List Event} (h : Untouched (events ++ events'))
    : Untouched events ∧ Untouched events' := by
  unfold Untouched at *
  simp only [List.mem_append, not_or] at h
  simp [h]

theorem done_run {inputs : List ComputeInput} (h : Done browser inputs [] s)
    (hrun : run browser crates pack s events = some s') (horder : InOrder events) (hclicks : Untouched events)
    : Done browser inputs events s' := by
  refine run_induction browser crates pack (motive := fun events s =>
    InOrder events → Untouched events → Done browser inputs events s) ?_ ?_ hrun horder hclicks
  . intro _ _
    apply h
  . intro events s event s' _ ih hstep horder hclicks
    apply done_step _ hstep horder.of_append.2 hclicks.of_append.2
    apply ih horder.of_append.1 hclicks.of_append.1

def Worded {α : Type} (x : Except String α) : Prop :=
  x ≠ .error ""

theorem Worded.bind {α β : Type} {x : Except String α} {f : α → Except String β} (h : Worded x)
    (hf : ∀ a, Worded (f a)) : Worded (x >>= f) := by
  cases x with
  | error message =>
    intro hempty
    cases hempty
    apply h
    rfl
  | ok a => apply hf a

theorem worded_okOr {α : Type} {x : Option α} {message : String} (h : message ≠ "")
    : Worded (Fallible.okOr x message) := by
  cases x with
  | none =>
    intro hempty
    cases hempty
    apply h
    rfl
  | some a => simp [Worded, Fallible.okOr]

theorem worded_error {α : Type} {message : String} (h : message ≠ "")
    : Worded (.error message : Except String α) := by
  apply worded_okOr (x := none) h

theorem worded_hexToBytes (label hex : String) : Worded (hexToBytes label hex) := by
  apply worded_okOr
  simp [toString]

theorem worded_requiredBytes (values : List (String × String)) (field : String)
    : Worded (requiredBytes values field) := by
  apply Worded.bind
  . unfold required
    split
    . apply worded_error
      simp [toString]
    . split
      . apply worded_error
        simp [toString]
      . simp [Worded]
  . intro hex
    apply worded_hexToBytes

theorem worded_computeCase (noble : Noble) (input : ComputeInput) : Worded (computeCase noble input) := by
  unfold computeCase
  apply Worded.bind
  . unfold algorithmFor
    split
    . simp [Worded]
    . simp [Worded]
    . simp [Worded]
    . apply worded_error
      simp [toString]
  . intro algorithm
    cases input.capability with
    | keyGen =>
      apply (worded_requiredBytes _ _).bind
      intro seed
      dsimp only
      split
      . apply worded_error
        simp [toString]
      . simp [Worded, pure, Except.pure]
    | sigGen =>
      apply (worded_requiredBytes _ _).bind
      intro sk
      apply (worded_requiredBytes _ _).bind
      intro message
      apply (worded_hexToBytes _ _).bind
      intro context
      simp [Worded, pure, Except.pure]
    | sigVer =>
      apply (worded_requiredBytes _ _).bind
      intro pk
      apply (worded_requiredBytes _ _).bind
      intro message
      apply (worded_requiredBytes _ _).bind
      intro signature
      apply (worded_hexToBytes _ _).bind
      intro context
      simp [Worded, pure, Except.pure]

theorem worded_of_mem_answers {inputs : List ComputeInput} {answer : Except String ComputeOutput}
    (horder : InOrder events) (h : answer ∈ answers browser inputs events) : Worded answer := by
  unfold answers at h
  rw [← List.map_uncurry_zip_eq_zipWith] at h
  obtain ⟨⟨input, failure⟩, hmem, rfl⟩ := List.mem_map.mp h
  obtain ⟨event, hevent, hending⟩ := List.mem_filterMap.mp (List.of_mem_zip hmem).2
  cases event with
  | computed i failure' =>
    cases hending
    obtain ⟨-, hfailure⟩ := horder i failure hevent
    cases failure with
    | none => apply worded_computeCase
    | some cause =>
      apply worded_error
      simpa using hfailure
  | _ => cases hending

theorem messages_eq_none_iff {answers : List (Except String ComputeOutput)}
    : messages answers = none ↔ ∀ answer ∈ answers, ∃ out, answer = .ok out := by
  unfold messages
  rw [List.getLast?_eq_none_iff, List.filterMap_eq_nil_iff]
  apply forall₂_congr
  intro answer _
  cases answer with
  | error message => simp [messageOf]
  | ok out => simp [messageOf]

theorem mem_of_messages {answers : List (Except String ComputeOutput)} {message : String}
    (h : messages answers = some message) : .error message ∈ answers := by
  obtain ⟨answer, hmem, hmessage⟩ := List.mem_filterMap.mp (List.mem_of_getLast? h)
  cases answer with
  | error message' =>
    cases hmessage
    apply hmem
  | ok out => cases hmessage

theorem display_error {bench : Bench} {message : String} (h : bench.computeError = some message)
    (hworded : message ≠ "") : bench.display = some (.error message) := by
  unfold Bench.display
  rw [h]
  split
  . next hnone => cases hnone
  . next hempty =>
    cases hempty
    cases hworded rfl
  . next hsome =>
    cases hsome
    rfl

/--
Once no computation is under way any more, each has answered, and what is shown is the answer to the last click on run,
unless that click came while others were computing: then a failure of one of those hides a result.
-/
theorem display_of_run (hrun : run browser crates pack s (.runCompute :: events) = some s')
    (horder : InOrder events) (hclicks : Untouched events) (hidle : s'.computing = [])
    : ∃ olds answer, answers browser (s.computing ++ [⟨pack.capability, pack.parameterSet, s.bench.inputs⟩]) events
          = olds ++ [answer]
        ∧ olds.length = s.computing.length
        ∧ (s'.bench.display = some answer
            ↔ (∃ message, answer = .error message) ∨ ∀ old ∈ olds, ∃ out, old = .ok out)
        ∧ (s'.bench.display ≠ some answer → ∃ message, .error message ∈ olds
            ∧ s'.bench.display = some (.error message)) := by
  rw [← List.singleton_append, run_append, run_singleton] at hrun
  have hdone : Done browser (s.computing ++ [⟨pack.capability, pack.parameterSet, s.bench.inputs⟩]) events s' := by
    apply done_run _ hrun horder hclicks
    constructor
    case queue => exact ⟨[], rfl, rfl⟩
    case computed => simp [answers, outputs]
    case computeError => simp [answers, messages]
  obtain ⟨answered, hinputs, hlength⟩ := hdone.queue
  rw [hidle, List.append_nil] at hinputs
  have hall : (answers browser (s.computing ++ [⟨pack.capability, pack.parameterSet, s.bench.inputs⟩]) events).length
      = s.computing.length + 1 := by
    unfold answers
    rw [List.length_zipWith, ← hlength, ← hinputs]
    simp
  have hcomputed := hdone.computed
  have herror := hdone.computeError
  have hworded : ∀ answer ∈ answers browser (s.computing ++ [⟨pack.capability, pack.parameterSet, s.bench.inputs⟩])
      events, Worded answer := fun answer hmem => worded_of_mem_answers horder hmem
  generalize answers browser (s.computing ++ [⟨pack.capability, pack.parameterSet, s.bench.inputs⟩]) events = all
    at hall hcomputed herror hworded
  obtain ⟨olds, answer, rfl⟩ : ∃ olds answer, all = olds ++ [answer] := by
    have hne : all ≠ [] := by
      rintro rfl
      simp at hall
    exact ⟨_, _, (List.dropLast_append_getLast hne).symm⟩
  refine ⟨olds, answer, rfl, by simpa using hall, ?_⟩
  cases answer with
  | error message =>
    have hshown : s'.bench.computeError = some message := by
      rw [herror]
      simp [messages, messageOf]
    rw [display_error hshown]
    . simp
    . rintro rfl
      apply hworded (.error "") (by simp)
      rfl
  | ok out =>
    have hout : s'.bench.computed = some out := by
      rw [hcomputed]
      simp [outputs, Except.toOption]
    have holder : s'.bench.computeError = messages olds := by
      rw [herror]
      simp [messages, messageOf]
    rw [← messages_eq_none_iff]
    cases hmessages : messages olds with
    | none =>
      rw [hmessages] at holder
      unfold Bench.display
      rw [holder, hout]
      simp
    | some message =>
      rw [hmessages] at holder
      have hmem := mem_of_messages hmessages
      have hnonempty : message ≠ "" := by
        rintro rfl
        apply hworded (.error "") (List.mem_append_left _ hmem)
        rfl
      rw [display_error holder hnonempty]
      constructor
      . simp
      . exact fun _ => ⟨message, hmem, rfl⟩

end Computing

/--
A computation of no inputs fails because its module does not load, after run was clicked again.
-/
theorem display_of_run_lab
    : ∃ s s', run labBrowser sessionsLab.crates labPack labStart [.runCompute] = some s
        ∧ run labBrowser sessionsLab.crates labPack s
            [.runCompute, .computed 0 (some "Failed to fetch"), .computed 0 none] = some s'
        ∧ ∃ olds answer, answers labBrowser
              (s.computing ++ [⟨labPack.capability, labPack.parameterSet, s.bench.inputs⟩])
              [.computed 0 (some "Failed to fetch"), .computed 0 none]
            = olds ++ [answer]
          ∧ olds.length = s.computing.length
          ∧ (s'.bench.display = some answer
              ↔ (∃ message, answer = .error message) ∨ ∀ old ∈ olds, ∃ out, old = .ok out)
          ∧ (s'.bench.display ≠ some answer → ∃ message, .error message ∈ olds
              ∧ s'.bench.display = some (.error message)) := by
  obtain ⟨s, s', hclick, hrun, hidle⟩ : ∃ s s',
      run labBrowser sessionsLab.crates labPack labStart [.runCompute] = some s
        ∧ run labBrowser sessionsLab.crates labPack s
            [.runCompute, .computed 0 (some "Failed to fetch"), .computed 0 none] = some s'
        ∧ s'.computing = [] :=
    ⟨_, _, rfl, rfl, rfl⟩
  have horder : InOrder [.computed 0 (some "Failed to fetch"), .computed 0 none] := by
    intro i failure hmem
    simp only [List.mem_cons, Event.computed.injEq, List.not_mem_nil, or_false] at hmem
    rcases hmem with ⟨rfl, rfl⟩ | ⟨rfl, rfl⟩
    . simp
    . simp
  exact ⟨s, s', hclick, hrun, display_of_run hrun horder (by simp [Untouched]) hidle⟩

end CavpWorkbench

end web

end cavp

end PqCas
