import PqCas.Api.KemRuns
import PqCas.Kem.Logic
import PqCas.Lib.Among
import PqCas.Lib.PubSub

/-!
The rows of a KEM run and the events of its channel, in any run of its handler: each event is published
right after its row is written, if at all.
-/

namespace PqCas

namespace Event

def line? (runId : Uuid) (event : Event) : Option KemRunLogRow :=
  match event with
  | .log seq time level message => some ⟨runId, seq, time, level, message⟩
  | _ => none

def cell? (runId : Uuid) (event : Event) : Option KemMatrixCellRow :=
  match event with
  | .cell kem adapter verdict detail => some ⟨runId, kem, adapter, verdict, detail⟩
  | _ => none

def IsRow (event : Event) : Prop :=
  match event with
  | .log .. | .cell .. => True
  | _ => False

theorem isRow_log {seq : Int} {time : Nat} {level message : String}
    : (Event.log seq time level message).IsRow := trivial

theorem isRow_cell {kem adapter : String} {verdict : ResultStatus} {detail : Option String}
    : (Event.cell kem adapter verdict detail).IsRow := trivial

end Event

namespace kem

def cellKey (row : KemMatrixCellRow) : Cell := (row.kem, row.adapter)

/--
The history of a handler: the events whose rows it wrote.
-/
structure Journal where
  /-- The number of the last line it tried to insert. -/
  seq : Int
  /-- Each event with whether it was published. -/
  entries : List (Event × Bool)
  /-- The event that is published next. -/
  pending : Option Event

namespace Journal

def empty : Journal := ⟨0, [], none⟩

def written (s : Journal) : List Event :=
  s.entries.map Prod.fst ++ s.pending.toList

def announced (s : Journal) : List Event :=
  (s.entries.filter Prod.snd).map Prod.fst

def lines (runId : Uuid) (s : Journal) : List KemRunLogRow :=
  s.written.filterMap (Event.line? runId)

def cells (runId : Uuid) (s : Journal) : List KemMatrixCellRow :=
  s.written.filterMap (Event.cell? runId)

def write (s : Journal) (event : Event) : Journal :=
  { s with pending := some event }

def settle (s : Journal) (event : Event) (published : Bool) : Journal :=
  { s with
    entries := s.entries ++ [(event, published)]
    pending := none }

structure Idle (s : Journal) : Prop where
  pending : s.pending = none
  rows : ∀ entry ∈ s.entries, entry.1.IsRow

variable {s : Journal} {runId : Uuid}

theorem written_write (h : s.pending = none) (event : Event)
    : (s.write event).written = s.written ++ [event] := by
  simp [written, write, h]

theorem written_settle {event : Event} (h : s.pending = some event) (published : Bool)
    : (s.settle event published).written = s.written := by
  simp [written, settle, h]

theorem Idle.settle (h : s.Idle) {event : Event} (hevent : event.IsRow) (published : Bool)
    : (s.settle event published).Idle := by
  refine ⟨rfl, ?_⟩
  intro entry hentry
  rcases List.mem_append.mp hentry with hentry | hentry
  . exact h.rows entry hentry
  . rw [List.mem_singleton] at hentry
    subst hentry
    exact hevent

end Journal

/--
`Narrates runId s op r s'`: a handler of the run with history `s` may perform `op`, and the reply `r`
makes `s'` of it.
-/
inductive Narrates (runId : Uuid) : Journal → (op : Op) → op.Reply → Journal → Prop where
  | start {s : Journal} {r : Except Err Unit}
    : Narrates runId s (.startKemRun runId) r s
  | now {s : Journal} {time : Time}
    : Narrates runId s .utcNow time s
  | call {s : Journal} {op : Op} {r : op.Reply} (hop : op.isCall = true)
    : Narrates runId s op r s
  | line {s : Journal} {time : Time} {level message : String} (hidle : s.pending = none)
    : Narrates runId s (.insertKemLog ⟨runId, s.seq + 1, time, level, message⟩) (Except.ok ())
        ({ s with seq := s.seq + 1 }.write (.log (s.seq + 1) time level message))
  | lineFails {s : Journal} {time : Time} {level message : String} (e : Err)
    : Narrates runId s (.insertKemLog ⟨runId, s.seq + 1, time, level, message⟩) (Except.error e)
        { s with seq := s.seq + 1 }
  | cell {s : Journal} {name adapter : String} {verdict : ResultStatus} {detail : Option String}
      (hidle : s.pending = none) (hnew : (name, adapter) ∉ (s.cells runId).map cellKey)
    : Narrates runId s (.upsertKemCell ⟨runId, name, adapter, verdict, detail⟩) (Except.ok ())
        (s.write (.cell name adapter verdict detail))
  | cellFails {s : Journal} {name adapter : String} {verdict : ResultStatus} {detail : Option String}
      (e : Err)
    : Narrates runId s (.upsertKemCell ⟨runId, name, adapter, verdict, detail⟩) (Except.error e) s
  | finish {s : Journal} {status : TaskStatus} (hidle : s.pending = none)
    : Narrates runId s (.finishKemRun runId status) (Except.ok ()) (s.write (.finished runId))
  | finishFails {s : Journal} {status : TaskStatus} (e : Err)
    : Narrates runId s (.finishKemRun runId status) (Except.error e) s
  | publish {s : Journal} {event : Event} (hpending : s.pending = some event)
    : Narrates runId s (.publish (.kem runId) event) (Except.ok ()) (s.settle event true)
  | publishFails {s : Journal} {event : Event} (hpending : s.pending = some event) (e : Err)
    : Narrates runId s (.publish (.kem runId) event) (Except.error e) (s.settle event false)

section Narrated

variable {α β : Type} {runId : Uuid}

/--
Console code that publishes each row right after writing it, and writes no cell but those of `C`.
-/
def Narrated (runId : Uuid) (C : Set Cell) (m : ConsoleM α) : Prop :=
  ∀ s : Journal, s.Idle → (∀ key ∈ C, key ∉ (s.cells runId).map cellKey) →
    (m.run.run ⟨runId, s.seq⟩).Conforms (Narrates runId)
      (fun r s' =>
        r.2 = ⟨runId, s'.seq⟩ ∧ s'.Idle
          ∧ ∀ key ∈ (s'.cells runId).map cellKey, key ∈ (s.cells runId).map cellKey ∨ key ∈ C) s

namespace Narrated

theorem pure (a : α) : Narrated runId ∅ (Pure.pure a : ConsoleM α) :=
  fun _ hs _ => ⟨rfl, hs, fun _ => .inl⟩

theorem throw (e : Err) : Narrated runId ∅ (throw e : ConsoleM α) :=
  fun _ hs _ => ⟨rfl, hs, fun _ => .inl⟩

theorem bind {C D : Set Cell} {m : ConsoleM α} {f : α → ConsoleM β} (hm : Narrated runId C m)
    (hf : ∀ a, Narrated runId D (f a)) (hdisj : Disjoint C D)
    : Narrated runId (C ∪ D) (m >>= f) := by
  intro s hs hnew
  have hrun : (m >>= f).run.run ⟨runId, s.seq⟩
      = m.run.run ⟨runId, s.seq⟩ >>= fun r => (ExceptT.bindCont f r.1).run r.2 := rfl
  rw [hrun]
  apply Prog.Conforms.bind
  apply Prog.Conforms.mono (hm s hs (fun key hkey => hnew key (.inl hkey)))
  rintro ⟨r, console⟩ s' ⟨rfl, hs', hkeys⟩
  cases r with
  | error e => exact ⟨rfl, hs', fun key hkey => (hkeys key hkey).imp_right .inl⟩
  | ok a =>
    -- What `m` wrote is none of what `f` may write.
    have hnew' : ∀ key ∈ D, key ∉ (s'.cells runId).map cellKey := by
      intro key hkey hmem
      rcases hkeys key hmem with hold | hC
      . exact hnew key (.inr hkey) hold
      . exact Set.disjoint_left.mp hdisj hC hkey
    apply Prog.Conforms.mono (hf a s' hs' hnew')
    rintro ⟨r, console⟩ s'' ⟨rfl, hs'', hkeys'⟩
    refine ⟨rfl, hs'', ?_⟩
    intro key hkey
    rcases hkeys' key hkey with h | hD
    . exact (hkeys key h).imp_right .inl
    . exact .inr (.inr hD)

theorem mono {C D : Set Cell} {m : ConsoleM α} (hm : Narrated runId C m) (hsub : C ⊆ D)
    : Narrated runId D m := by
  intro s hs hnew
  apply Prog.Conforms.mono (hm s hs (fun key hkey => hnew key (hsub hkey)))
  rintro r s' ⟨hconsole, hs', hkeys⟩
  exact ⟨hconsole, hs', fun key hkey => (hkeys key hkey).imp_right (@hsub key)⟩

theorem outcome {C : Set Cell} {m : ConsoleM α} (hm : Narrated runId C m)
    : Narrated runId C (ConsoleM.outcome m) := by
  intro s hs hnew
  apply Prog.Conforms.bind
  apply Prog.Conforms.mono (hm s hs hnew)
  rintro ⟨r, console⟩ s' ⟨rfl, hs', hkeys⟩
  exact ⟨rfl, hs', hkeys⟩

theorem calls {m : WorkerM α} (hm : m.OnlyCalls) : Narrated runId ∅ (ConsoleM.ofWorker m) := by
  intro s hs _
  apply Prog.Conforms.bind
  apply Prog.Conforms.mono (hm _ _ s (fun _ _ hop => .call hop))
  rintro r s' rfl
  exact ⟨rfl, hs, fun _ => .inl⟩

theorem log (level message : String) : Narrated runId ∅ (Console.log level message) := by
  intro s hs _
  refine fun (time : Time) => ⟨s, .now, ?_⟩
  refine fun (r : Except Err Unit) => ?_
  cases r with
  | error e => exact ⟨_, .lineFails e, rfl, ⟨hs.pending, hs.rows⟩, fun _ => .inl⟩
  | ok _ =>
    refine ⟨_, .line hs.pending, ?_⟩
    have hidle : ({ s with seq := s.seq + 1 } : Journal).Idle := ⟨hs.pending, hs.rows⟩
    have hcells : ∀ published,
        (({ s with seq := s.seq + 1 } : Journal).settle (.log (s.seq + 1) time level message)
          published).cells runId = s.cells runId := by
      intro published
      simp [Journal.cells, Journal.written, Journal.settle, hs.pending, Event.cell?]
    refine fun (r : Except Err Unit) => ?_
    cases r with
    | error e =>
      refine ⟨_, .publishFails rfl e, rfl, ?_, ?_⟩
      . exact hidle.settle Event.isRow_log false
      . exact fun key hkey => .inl (hcells false ▸ hkey)
    | ok _ =>
      refine ⟨_, .publish rfl, rfl, ?_, ?_⟩
      . exact hidle.settle Event.isRow_log true
      . exact fun key hkey => .inl (hcells true ▸ hkey)

theorem cell (name adapter : String) (verdict : ResultStatus) (detail : Option String)
    : Narrated runId {(name, adapter)} (Console.cell name adapter verdict detail) := by
  intro s hs hnew
  refine fun (r : Except Err Unit) => ?_
  cases r with
  | error e => exact ⟨_, .cellFails e, rfl, hs, fun _ => .inl⟩
  | ok _ =>
    refine ⟨_, .cell hs.pending (hnew _ rfl), ?_⟩
    have hcells : ∀ published key,
        key ∈ ((s.settle (.cell name adapter verdict detail) published).cells runId).map cellKey →
          key ∈ (s.cells runId).map cellKey ∨ key = (name, adapter) := by
      intro published key
      simp [Journal.cells, Journal.written, Journal.settle, hs.pending, Event.cell?, cellKey]
    refine fun (r : Except Err Unit) => ?_
    cases r with
    | error e =>
      refine ⟨_, .publishFails rfl e, rfl, ?_, hcells false⟩
      exact hs.settle Event.isRow_cell false
    | ok _ =>
      refine ⟨_, .publish rfl, rfl, ?_, hcells true⟩
      exact hs.settle Event.isRow_cell true

end Narrated

variable (runId) in
def narratedLogic : ConsoleLogic where
  Holds C m := Narrated runId C m
  pure := .pure
  throw := .throw
  bind := .bind
  mono := .mono
  outcome := .outcome
  calls := .calls
  log := .log
  cell := .cell

end Narrated

def Journal.Over (runId : Uuid) (s : Journal) : Prop :=
  s.pending = none ∧ ∃ entries, (∀ entry ∈ entries, entry.1.IsRow)
    ∧ s.entries = entries ++ [(.finished runId, true)]

theorem finish_narrates {runId : Uuid} {s : Journal} (hs : s.Idle) (status : TaskStatus)
    : ((Console.finish status).run.run ⟨runId, s.seq⟩).Conforms (Narrates runId)
        (fun r s' => r.1 = .ok () → s'.Over runId) s := by
  refine fun (r : Except Err Unit) => ?_
  cases r with
  | error e => exact ⟨_, .finishFails e, fun h => by cases h⟩
  | ok _ =>
    refine ⟨_, .finish hs.pending, ?_⟩
    refine fun (r : Except Err Unit) => ?_
    cases r with
    | error e => exact ⟨_, .publishFails rfl e, fun h => by cases h⟩
    | ok _ => exact ⟨_, .publish rfl, fun _ => ⟨rfl, _, hs.rows, rfl⟩⟩

theorem runConsole_narrates (adapters : AdapterRegistry) (job : KemJob)
    : ((runConsole adapters job).run.run ⟨job.runId, 0⟩).Conforms (Narrates job.runId)
        (fun r s' => r.1 = .ok () → s'.Over job.runId) Journal.empty := by
  have hidle : Journal.empty.Idle := ⟨rfl, by simp [Journal.empty]⟩
  have hnone : ∀ key, key ∉ (Journal.empty.cells job.runId).map cellKey := by
    simp [Journal.cells, Journal.written, Journal.empty]
  have hmode : Narrated job.runId Set.univ (runMode adapters job) :=
    ConsoleLogic.runMode (L := narratedLogic job.runId) adapters job
  apply Prog.Conforms.bind
  apply Prog.Conforms.bind
  apply Prog.Conforms.mono (hmode _ hidle (fun key _ => hnone key))
  rintro ⟨r, console⟩ s ⟨rfl, hs, -⟩
  cases r with
  | ok _ => exact finish_narrates hs .finished
  | error e =>
    -- The line about the failure, and the end of the run.
    change Prog.Conforms _ _ ((Console.log "result" s!"Result: RunFailed - {e}" >>= fun _ =>
      Console.finish .failed).run.run ⟨job.runId, s.seq⟩) s
    apply Prog.Conforms.bind
    apply Prog.Conforms.mono (Narrated.log "result" _ s hs (fun _ h => by cases h))
    rintro ⟨r, console⟩ s' ⟨rfl, hs', -⟩
    cases r with
    | error e => exact fun h => by cases h
    | ok _ => exact finish_narrates hs' .failed

theorem handle_narrates (adapters : AdapterRegistry) (job : KemJob)
    : (handle adapters job).run.Conforms (Narrates job.runId)
        (fun r s => r = .ok () → s.Over job.runId) Journal.empty := by
  refine fun (r : Except Err Unit) => ⟨_, .start, ?_⟩
  cases r with
  | error e => exact fun h => by cases h
  | ok _ =>
    apply Prog.Conforms.bind (p := (runConsole adapters job).run.run ⟨job.runId, 0⟩)
    apply Prog.Conforms.mono (runConsole_narrates adapters job)
    exact fun _ _ h => h

def Lost (e : (op : Op) × op.Reply) : Prop :=
  ∃ channel event err, e = ⟨.publish channel event, (Except.error err : Except Err Unit)⟩

theorem not_lost_of_faultless {α : Type} {env : Env} (henv : env.Faultless) (p : Prog Op Op.Reply α)
    (w : World) : ∀ e ∈ p.trace env.exec w, ¬ Lost e := by
  induction p generalizing w with
  | pure a => simp [Prog.trace]
  | op op k ih =>
    unfold Prog.trace
    rw [List.forall_mem_cons]
    refine ⟨?_, ih _ _⟩
    rintro ⟨channel, event, err, h⟩
    obtain ⟨rfl, h⟩ := Sigma.mk.inj h
    have hfails : (env.exec (.publish channel event) w).1 = Except.error err := eq_of_heq h
    dsimp only [Env.exec] at hfails
    rw [henv] at hfails
    cases hfails

structure NewRun (runId : Uuid) (w : World) : Prop where
  lines : w.db.linesOf runId = []
  cells : w.db.cellsOf runId = []
  silent : PubSub.onChannel (.kem runId) w.published = []

theorem newRun_of_createRun {env : api.CreateRunEnv} {body : api.NewKemRun} {s s' : api.KemState}
    {run : api.KemRun} {w : World} (hs : s.Lawful) (h : api.createRun env body s = (.ok run, s'))
    (hlogs : w.db.kemRunLogs = s'.kemRunLogs) (hcells : w.db.kemMatrixCells = s'.kemMatrixCells)
    (hpub : ∀ event, (.kem run.id, event) ∉ w.published) : NewRun run.id w := by
  obtain ⟨-, -, hnolines, hnocells, -⟩ := api.createRun_ok hs h
  constructor
  . unfold Db.linesOf
    rw [hlogs]
    exact hnolines
  . unfold Db.cellsOf
    rw [hcells]
    exact hnocells
  . rw [List.eq_nil_iff_forall_not_mem]
    intro event hevent
    exact hpub event (PubSub.mem_onChannel.mp hevent)

/--
What goes on next to a run leaves its rows and its channel alone.
-/
structure Elsewhere (runId : Uuid) (w w' : World) : Prop where
  lines : w'.db.linesOf runId = w.db.linesOf runId
  cells : w'.db.cellsOf runId = w.db.cellsOf runId
  published : ∃ log, w'.published = w.published ++ log ∧ PubSub.onChannel (.kem runId) log = []

abbrev Handling (runId : Uuid) {α : Type} :=
  Prog.Among (α := α) (fun (op : Op) w (r : op.Reply) w' => ∃ env : Env, env.exec op w = (r, w'))
    (Elsewhere runId)

structure Keeps (runId : Uuid) (tr : List ((op : Op) × op.Reply)) (s : Journal) (w : World) : Prop where
  lines : w.db.linesOf runId = s.lines runId
  cells : w.db.cellsOf runId = s.cells runId
  published : PubSub.onChannel (.kem runId) w.published = s.announced
  lost : (∃ e ∈ tr, Lost e) ↔ ∃ entry ∈ s.entries, entry.2 = false
  sorted : (s.lines runId).Pairwise (fun a b => a.seq < b.seq)
  bound : ∀ line ∈ s.lines runId, line.seq ≤ s.seq
  keys : ((s.cells runId).map cellKey).Nodup

section Keeps

variable {runId : Uuid} {tr : List ((op : Op) × op.Reply)} {s : Journal} {w w' : World}

theorem exists_mem_concat {α : Type} {P : α → Prop} {l : List α} {a : α}
    : (∃ x ∈ l ++ [a], P x) ↔ (∃ x ∈ l, P x) ∨ P a := by
  simp [or_and_right, exists_or]

theorem keeps_empty (h : NewRun runId w) : Keeps runId [] .empty w := by
  constructor
  . exact h.lines
  . exact h.cells
  . exact h.silent
  . simp [Journal.empty]
  . exact .nil
  . intro line hline
    cases hline
  . exact .nil

theorem Keeps.elsewhere (h : Keeps runId tr s w) (hrely : Elsewhere runId w w')
    : Keeps runId tr s w' := by
  obtain ⟨log, hlog, hnone⟩ := hrely.published
  refine { h with lines := ?_, cells := ?_, published := ?_ }
  . rw [hrely.lines, h.lines]
  . rw [hrely.cells, h.cells]
  . rw [hlog, PubSub.onChannel_append, hnone, List.append_nil, h.published]

theorem Keeps.idle (h : Keeps runId tr s w) {e : (op : Op) × op.Reply} (he : ¬ Lost e) {seq : Int}
    (hseq : s.seq ≤ seq) (hlines : w'.db.linesOf runId = w.db.linesOf runId)
    (hcells : w'.db.cellsOf runId = w.db.cellsOf runId) (hpub : w'.published = w.published)
    : Keeps runId (tr ++ [e]) { s with seq := seq } w' := by
  constructor
  . exact hlines.trans h.lines
  . exact hcells.trans h.cells
  . rw [hpub]
    exact h.published
  . rw [exists_mem_concat, or_iff_left he]
    exact h.lost
  . exact h.sorted
  . intro line hline
    have := h.bound line hline
    dsimp only
    omega
  . exact h.keys

theorem Keeps.write (h : Keeps runId tr s w) {e : (op : Op) × op.Reply} (he : ¬ Lost e) {seq : Int}
    {event : Event} (hpending : s.pending = none) (hseq : s.seq ≤ seq)
    (hlines : w'.db.linesOf runId = w.db.linesOf runId ++ (event.line? runId).toList)
    (hcells : w'.db.cellsOf runId = w.db.cellsOf runId ++ (event.cell? runId).toList)
    (hpub : w'.published = w.published)
    (hline : ∀ line, event.line? runId = some line → s.seq < line.seq ∧ line.seq ≤ seq)
    (hcell : ∀ cell, event.cell? runId = some cell → cellKey cell ∉ (s.cells runId).map cellKey)
    : Keeps runId (tr ++ [e]) (({ s with seq := seq } : Journal).write event) w' := by
  have hwritten : (({ s with seq := seq } : Journal).write event).written = s.written ++ [event] :=
    Journal.written_write hpending event
  have hlines' : (({ s with seq := seq } : Journal).write event).lines runId
      = s.lines runId ++ (event.line? runId).toList := by
    unfold Journal.lines
    rw [hwritten, List.filterMap_append]
    cases event <;> rfl
  have hcells' : (({ s with seq := seq } : Journal).write event).cells runId
      = s.cells runId ++ (event.cell? runId).toList := by
    unfold Journal.cells
    rw [hwritten, List.filterMap_append]
    cases event <;> rfl
  constructor
  . rw [hlines, h.lines, hlines']
  . rw [hcells, h.cells, hcells']
  . rw [hpub]
    exact h.published
  . rw [exists_mem_concat, or_iff_left he]
    exact h.lost
  . rw [hlines', List.pairwise_append]
    refine ⟨h.sorted, ?_, ?_⟩
    . cases event.line? runId <;> simp
    . intro a ha b hb
      have hlt := (hline b (by simpa using hb)).1
      have := h.bound a ha
      omega
  . intro line hmem
    rw [hlines', List.mem_append] at hmem
    rcases hmem with hold | hnew
    . have := h.bound line hold
      change line.seq ≤ seq
      omega
    . exact (hline line (by simpa using hnew)).2
  . rw [hcells', List.map_append, List.nodup_append]
    refine ⟨h.keys, ?_, ?_⟩
    . cases event.cell? runId <;> simp
    . intro a ha b hb
      rw [List.mem_map] at hb
      obtain ⟨cell, hmem, rfl⟩ := hb
      rintro rfl
      exact hcell cell (by simpa using hmem) ha

theorem Keeps.settle (h : Keeps runId tr s w) {e : (op : Op) × op.Reply} {event : Event}
    (hpending : s.pending = some event) (published : Bool) (he : Lost e ↔ published = false)
    (hdb : w'.db = w.db)
    (hpub : w'.published = w.published ++ if published then [(.kem runId, event)] else [])
    : Keeps runId (tr ++ [e]) (s.settle event published) w' := by
  have hwritten := Journal.written_settle hpending published
  constructor
  . unfold Journal.lines
    rw [hdb, hwritten]
    exact h.lines
  . unfold Journal.cells
    rw [hdb, hwritten]
    exact h.cells
  . rw [hpub, PubSub.onChannel_append, h.published]
    cases published <;> simp [Journal.announced, Journal.settle]
  . have hentries : (s.settle event published).entries = s.entries ++ [(event, published)] := rfl
    rw [exists_mem_concat, hentries, exists_mem_concat, h.lost, he]
  . unfold Journal.lines
    rw [hwritten]
    exact h.sorted
  . unfold Journal.lines
    rw [hwritten]
    exact h.bound
  . unfold Journal.cells
    rw [hwritten]
    exact h.keys

theorem not_lost {op : Op} {r : op.Reply} (hop : ∀ channel event, op ≠ .publish channel event)
    : ¬ Lost ⟨op, r⟩ := by
  rintro ⟨channel, event, err, h⟩
  exact hop channel event (congrArg Sigma.fst h)

theorem cellsOf_upsertKemCell {db db' : Db} {cell : KemMatrixCellRow}
    (h : db.upsertKemCell cell = .ok db') (hnew : cellKey cell ∉ (db.cellsOf cell.runId).map cellKey)
    : db'.linesOf cell.runId = db.linesOf cell.runId
        ∧ db'.cellsOf cell.runId = db.cellsOf cell.runId ++ [cell] := by
  unfold Db.upsertKemCell at h
  split at h
  . cases h
  cases h
  refine ⟨rfl, ?_⟩
  have hfree : db.kemMatrixCells.any
      (fun old => (old.runId, old.kem, old.adapter) = (cell.runId, cell.kem, cell.adapter)) = false := by
    rw [List.any_eq_false]
    intro old hold heq
    apply hnew
    simp only [decide_eq_true_eq, Prod.mk.injEq] at heq
    rw [List.mem_map]
    refine ⟨old, List.mem_filter.mpr ⟨hold, by simpa using heq.1⟩, ?_⟩
    unfold cellKey
    rw [heq.2.1, heq.2.2]
  unfold Db.cellsOf Table.upsert
  dsimp only
  rw [hfree]
  simp

theorem Keeps.line {time : Time} {level message : String} {db' : Db} (h : Keeps runId tr s w)
    (hidle : s.pending = none)
    (hdb : w.db.insertKemLog ⟨runId, s.seq + 1, time, level, message⟩ = .ok db')
    : Keeps runId (tr ++ [⟨.insertKemLog ⟨runId, s.seq + 1, time, level, message⟩, Except.ok ()⟩])
        (({ s with seq := s.seq + 1 } : Journal).write (.log (s.seq + 1) time level message))
        { w with db := db' } := by
  have hcells : db'.cellsOf runId = w.db.cellsOf runId := by
    unfold Db.insertKemLog at hdb
    split at hdb
    . cases hdb
    . split at hdb <;> cases hdb
      rfl
  apply h.write (not_lost (by simp)) hidle
  case hseq => omega
  case hlines => exact (linesOf_insertKemLog hdb).2
  case hcells => simp [hcells, Event.cell?]
  case hpub => rfl
  case hline =>
    rintro line ⟨⟩
    dsimp only
    omega
  case hcell => rintro cell ⟨⟩

theorem Keeps.cell {name adapter : String} {verdict : ResultStatus} {detail : Option String} {db' : Db}
    (h : Keeps runId tr s w) (hidle : s.pending = none)
    (hnew : (name, adapter) ∉ (s.cells runId).map cellKey)
    (hdb : w.db.upsertKemCell ⟨runId, name, adapter, verdict, detail⟩ = .ok db')
    : Keeps runId (tr ++ [⟨.upsertKemCell ⟨runId, name, adapter, verdict, detail⟩, Except.ok ()⟩])
        (s.write (.cell name adapter verdict detail)) { w with db := db' } := by
  have hfree := hnew
  rw [← h.cells] at hfree
  obtain ⟨hlines, hcells⟩ := cellsOf_upsertKemCell hdb hfree
  apply h.write (not_lost (by simp)) hidle (Int.le_refl _)
  case hlines => simpa [Event.line?] using hlines
  case hcells => exact hcells
  case hpub => rfl
  case hline => rintro line ⟨⟩
  case hcell =>
    rintro cell ⟨⟩
    exact hnew

theorem Keeps.finish {now : Time} {status : TaskStatus} (h : Keeps runId tr s w)
    (hidle : s.pending = none)
    : Keeps runId (tr ++ [⟨.finishKemRun runId status, Except.ok ()⟩]) (s.write (.finished runId))
        { w with db := w.db.finishKemRun now runId status } := by
  apply h.write (not_lost (by simp)) hidle (Int.le_refl _)
  case hlines => simp [Db.linesOf, Db.finishKemRun, Event.line?]
  case hcells => simp [Db.cellsOf, Db.finishKemRun, Event.cell?]
  case hpub => rfl
  case hline => rintro line ⟨⟩
  case hcell => rintro cell ⟨⟩

theorem Keeps.start {r : Except Err Unit} {env : Env} (h : Keeps runId tr s w)
    (hexec : env.exec (.startKemRun runId) w = (r, w'))
    : Keeps runId (tr ++ [⟨.startKemRun runId, r⟩]) s w' := by
  have hkept : w'.db.linesOf runId = w.db.linesOf runId ∧ w'.db.cellsOf runId = w.db.cellsOf runId
      ∧ w'.published = w.published := by
    cases r with
    | error e =>
      rw [Env.statement_error hexec]
      exact ⟨rfl, rfl, rfl⟩
    | ok _ =>
      obtain ⟨db', hdb', rfl⟩ := Env.statement_ok hexec
      cases hdb'
      exact ⟨rfl, rfl, rfl⟩
  exact h.idle (not_lost (by simp)) (Int.le_refl _) hkept.1 hkept.2.1 hkept.2.2

theorem Keeps.step {op : Op} {r : op.Reply} {s' : Journal} (h : Keeps runId tr s w)
    (hnarrates : Narrates runId s op r s') {env : Env} (hexec : env.exec op w = (r, w'))
    : Keeps runId (tr ++ [⟨op, r⟩]) s' w' := by
  cases hnarrates with
  | start => exact h.start hexec
  | now =>
    cases hexec
    exact h.idle (not_lost (by simp)) (Int.le_refl _) rfl rfl rfl
  | call hop =>
    have hcall := env.exec_call hop w
    rw [hexec] at hcall
    refine h.idle ?_ (Int.le_refl _) (by rw [hcall.1]) (by rw [hcall.1]) hcall.2
    apply not_lost
    rintro channel event rfl
    cases hop
  | line hidle =>
    obtain ⟨db', hdb', rfl⟩ := Env.statement_ok hexec
    exact h.line hidle hdb'
  | lineFails e =>
    rw [Env.statement_error hexec]
    refine h.idle (not_lost (by simp)) ?_ rfl rfl rfl
    omega
  | cell hidle hnew =>
    obtain ⟨db', hdb', rfl⟩ := Env.statement_ok hexec
    exact h.cell hidle hnew hdb'
  | finish hidle =>
    obtain ⟨db', hdb', rfl⟩ := Env.statement_ok hexec
    cases hdb'
    exact h.finish hidle
  | cellFails e | finishFails e =>
    rw [Env.statement_error hexec]
    exact h.idle (not_lost (by simp)) (Int.le_refl _) rfl rfl rfl
  | publish hpending =>
    simp only [Env.exec] at hexec
    split at hexec <;> cases hexec
    apply h.settle hpending true
    case he =>
      constructor
      . rintro ⟨channel, event, err, ⟨⟩⟩
      . rintro ⟨⟩
    case hdb => rfl
    case hpub => rfl
  | publishFails hpending e =>
    simp only [Env.exec] at hexec
    split at hexec <;> cases hexec
    apply h.settle hpending false
    case he => exact iff_of_true ⟨_, _, _, rfl⟩ rfl
    case hdb => rfl
    case hpub => simp

theorem handling_keeps {α : Type} {post : α → Journal → Prop} {p p' : Prog Op Op.Reply α}
    {tr' : List ((op : Op) × op.Reply)} (h : Handling runId p w tr p' w')
    (hp : p.Conforms (Narrates runId) post s) (hkeeps : Keeps runId tr' s w)
    : ∃ s', p'.Conforms (Narrates runId) post s' ∧ Keeps runId (tr' ++ tr) s' w' := by
  apply Prog.Conforms.among h hp hkeeps
  . exact fun _ _ _ _ hkeeps hrely => hkeeps.elsewhere hrely
  . rintro _ _ _ _ _ _ _ hkeeps hnarrates ⟨env, hexec⟩
    exact hkeeps.step hnarrates hexec

end Keeps

theorem published_grows {runId : Uuid} {α : Type} {p p' : Prog Op Op.Reply α} {w w' : World}
    {tr : List ((op : Op) × op.Reply)} (h : Handling runId p w tr p' w')
    : w.published <+: w'.published := by
  induction h with
  | refl => exact List.prefix_refl _
  | others h _ ih =>
    obtain ⟨log, hlog, -⟩ := h.published
    exact List.IsPrefix.trans ⟨log, hlog.symm⟩ ih
  | @perform op _ _ _ w _ _ _ h _ ih =>
    obtain ⟨env, hexec⟩ := h
    have hstep := env.exec_published_grows op w
    rw [hexec] at hstep
    exact hstep.trans ih

end kem

end PqCas
