import PqCas.Kem.Redelivery
import PqCas.Kem.Server

/-!
The verdict of a priority run against a server with a known preference list.
-/

namespace PqCas

namespace kem

def levelsOf (runId : Uuid) (w : World) : List String :=
  (w.db.linesOf runId).map KemRunLogRow.level

structure Fresh (runId : Uuid) (console : Console) (w : World) : Prop where
  runId_eq : console.runId = runId
  hasRun : w.db.HasRun runId
  lines : ∀ line ∈ w.db.linesOf runId, line.seq ≤ console.seq

structure Prints {α : Type} (env : Env) (runId : Uuid) (m : ConsoleM α) (a : α) (levels : List String)
    (console : Console) (w : World) (console' : Console) (w' : World) : Prop where
  eval_eq : m.eval env console w = (.ok a, console', w')
  fresh : Fresh runId console' w'
  levels_eq : levelsOf runId w' = levelsOf runId w ++ levels

section Spec

variable {α β : Type} {env : Env} {runId : Uuid} {console console' console'' : Console}
variable {w w' w'' : World}

theorem Prints.bind {m : ConsoleM α} {f : α → ConsoleM β} {a : α} {b : β} {ls ls' : List String}
    (hm : Prints env runId m a ls console w console' w')
    (hf : Prints env runId (f a) b ls' console' w' console'' w'')
    : Prints env runId (m >>= f) b (ls ++ ls') console w console'' w'' := by
  constructor
  . rw [ConsoleM.eval_bind, hm.eval_eq]
    exact hf.eval_eq
  . exact hf.fresh
  . rw [hf.levels_eq, hm.levels_eq, List.append_assoc]

theorem Prints.pure (a : α) (h : Fresh runId console w)
    : Prints env runId (Pure.pure a) a [] console w console w :=
  ⟨rfl, h, by simp⟩

theorem Prints.log (henv : env.Faultless) (h : Fresh runId console w) (level message : String)
    : ∃ console' w',
        Prints env runId (Console.log level message) () [level] console w console' w'
          ∧ w'.calls = w.calls ∧ w'.cache = w.cache := by
  rcases console with ⟨id, seq⟩
  obtain ⟨rfl, hrun, hlines⟩ := h
  dsimp only at hrun hlines
  let line : KemRunLogRow := ⟨id, seq + 1, env.now, level, message⟩
  have hinsert : w.db.insertKemLog line = .ok { w.db with kemRunLogs := w.db.kemRunLogs ++ [line] } := by
    apply Db.insertKemLog_free hrun
    intro old hold
    have := hlines old hold
    dsimp only [line]
    omega
  refine ⟨⟨id, seq + 1⟩, { w with
    db := { w.db with kemRunLogs := w.db.kemRunLogs ++ [line] }
    published := w.published ++ [(.kem id, .log (seq + 1) env.now level message)] }, ?_, rfl, rfl⟩
  have hof : Db.linesOf { w.db with kemRunLogs := w.db.kemRunLogs ++ [line] } id
      = w.db.linesOf id ++ [line] := by
    simp [Db.linesOf, line]
  constructor
  . unfold Console.log
    simp only [ConsoleM.eval_bind, ConsoleM.eval_ofWorker, Console.eval_utcNow, Console.eval_next,
      Console.eval_insertLine, henv _, eval_publishEvent]
    rw [hinsert]
    rfl
  . refine ⟨rfl, hrun, ?_⟩
    intro l hl
    rw [hof, List.mem_append, List.mem_singleton] at hl
    rcases hl with hl | rfl
    . have := hlines l hl
      dsimp only
      omega
    . exact Int.le_refl _
  . unfold levelsOf
    rw [hof, List.map_append]
    rfl

theorem preferredAdapter_configured {adapters : AdapterRegistry} {adapter : String}
    (h : preferredAdapter adapters = .ok adapter) : adapters.isConfigured adapter = true := by
  unfold preferredAdapter at h
  split at h
  . next candidate hfind =>
    cases h
    exact List.find?_some hfind
  . split at h
    . next name hhead =>
      cases h
      unfold AdapterRegistry.names at hhead
      unfold AdapterRegistry.isConfigured
      cases hbases : adapters.bases with
      | nil => simp [hbases] at hhead
      | cons base bases =>
        rw [hbases] at hhead
        cases hhead
        simp
    . cases h

theorem eval_probe {adapters : AdapterRegistry} {adapter : String}
    (hconf : adapters.isConfigured adapter = true) (request : ProbeRequest) (console : Console)
    (w : World)
    : (kem.probe adapters adapter request).eval env console w
        =
      (.ok (adapters.probeOutcome env w adapter request), console, { w with calls := w.calls + 1 }) := by
  unfold kem.probe
  rw [ConsoleM.eval_ofWorker, WorkerM.eval_lift, adapters.run_probe env w adapter request hconf]

theorem Prints.probe {adapters : AdapterRegistry} {adapter : String} (request : ProbeRequest)
    (hconf : adapters.isConfigured adapter = true) (h : Fresh runId console w)
    : Prints env runId (kem.probe adapters adapter request)
        (adapters.probeOutcome env w adapter request) [] console w console
        { w with calls := w.calls + 1 } := by
  constructor
  . exact eval_probe hconf request console w
  . exact ⟨h.runId_eq, h.hasRun, h.lines⟩
  . simp [levelsOf]

theorem Prints.capabilities {adapters : AdapterRegistry} {adapter : String} {caps : Capabilities}
    (hcaps : adapters.capabilitiesOutcome env w adapter = .ok caps) (h : Fresh runId console w)
    : Prints env runId (ConsoleM.ofWorker (adapters.capabilities adapter)) caps [] console w console
        ((adapters.capabilities adapter).eval env w).2 := by
  obtain ⟨cache, calls, heval⟩ := adapters.eval_capabilities env w adapter
  rw [hcaps] at heval
  constructor
  . rw [ConsoleM.eval_ofWorker, heval]
  . rw [heval]
    exact ⟨h.runId_eq, h.hasRun, h.lines⟩
  . rw [heval]
    simp [levelsOf]

end Spec

def Realises (env : Env) (adapter : String) (n : Nat) (outcomes : List Outcome) : Prop :=
  ∀ (i : Nat) (outcome : Outcome), outcomes[i]? = some outcome → ∀ base request,
    outcome.Matches (AdapterRegistry.ofReply adapter (env.postProbe (n + i) base request))

section Rounds

variable {env : Env} {runId : Uuid} {adapters : AdapterRegistry} {adapter : String}

theorem Realises.head {n : Nat} {outcome : Outcome} {rest : List Outcome}
    (h : Realises env adapter n (outcome :: rest)) (hconf : adapters.isConfigured adapter = true)
    {w : World} (hn : w.calls = n) (request : ProbeRequest)
    : outcome.Matches (adapters.probeOutcome env w adapter request) := by
  unfold AdapterRegistry.isConfigured at hconf
  obtain ⟨base, hbase⟩ := Option.isSome_iff_exists.mp hconf
  unfold AdapterRegistry.probeOutcome
  rw [hbase, hn]
  exact h 0 outcome rfl base request

theorem Realises.tail {n : Nat} {outcome : Outcome} {rest : List Outcome}
    (h : Realises env adapter n (outcome :: rest)) : Realises env adapter (n + 1) rest := by
  intro i o ho base request
  have := h (i + 1) o (by simpa using ho) base request
  rwa [Nat.add_assoc, Nat.add_comm 1 i]

variable {job : KemJob} {offer order : List String} {console : Console} {w : World}

theorem Prints.round_failed (hconf : adapters.isConfigured adapter = true) (hoffer : offer ≠ [])
    (hfresh : Fresh runId console w)
    (hfailed : (adapters.probeOutcome env w adapter (requestFor job offer)).handshakeSuccess = false)
    : Prints env runId (kem.priorityRounds adapters adapter job offer order) order [] console w console
        { w with calls := w.calls + 1 } := by
  have hprobe : Prints env runId _ _ [] console w console _ :=
    Prints.probe (requestFor job offer) hconf hfresh
  rw [kem.priorityRounds, if_neg (by simpa using hoffer)]
  apply hprobe.bind
  rw [if_pos (by simp [hfailed])]
  exact Prints.pure order hprobe.fresh

theorem Prints.round_picked (henv : env.Faultless) (hconf : adapters.isConfigured adapter = true)
    (hoffer : offer ≠ []) (hfresh : Fresh runId console w) {chosen reported : String}
    (hpicked : (Outcome.accepted chosen reported).Matches
      (adapters.probeOutcome env w adapter (requestFor job offer)))
    {result : List String}
    (hnext : ∀ console' w', Fresh runId console' w' → w'.calls = w.calls + 1 →
      ∃ levels console'' w'',
        Prints env runId
            (if _h : (retain offer reported).length = offer.length then
              Pure.pure (order ++ [reported])
            else
              kem.priorityRounds adapters adapter job (retain offer reported) (order ++ [reported]))
            result levels console' w' console'' w''
          ∧ ∀ level ∈ levels, level = "info")
    : ∃ levels console'' w'',
        Prints env runId (kem.priorityRounds adapters adapter job offer order) result levels
            console w console'' w''
          ∧ ∀ level ∈ levels, level = "info" := by
  obtain ⟨hsuccess, hgroup⟩ := hpicked
  have hprobe : Prints env runId _ _ [] console w console _ :=
    Prints.probe (requestFor job offer) hconf hfresh
  obtain ⟨console₁, w₁, hlog, hcalls, -⟩ := Prints.log henv hprobe.fresh "info" reported
  obtain ⟨levels, console₂, w₂, hrest, hinfo⟩ := hnext console₁ w₁ hlog.fresh hcalls
  refine ⟨[] ++ (["info"] ++ levels), console₂, w₂, ?_, by simpa using hinfo⟩
  rw [kem.priorityRounds, if_neg (by simpa using hoffer)]
  apply hprobe.bind
  rw [if_neg (by simp [hsuccess]), hgroup]
  exact hlog.bind hrest

theorem Prints.priorityRounds (henv : env.Faultless) (job : KemJob)
    (hconf : adapters.isConfigured adapter = true) {preferences : List String}
    {outcomes : List Outcome} (hsees : Sees preferences offer outcomes) (order : List String)
    (hfresh : Fresh runId console w) (hreal : Realises env adapter w.calls outcomes)
    : ∃ levels console' w',
        Prints env runId (kem.priorityRounds adapters adapter job offer order)
            (order ++ reported outcomes) levels console w console' w'
          ∧ ∀ level ∈ levels, level = "info" := by
  have hoffer_of : ∀ {offer : List String} {chosen : String},
      (restrict preferences offer).head? = some chosen → offer ≠ [] := by
    rintro _ chosen hchosen rfl
    simp [restrict] at hchosen
  induction hsees generalizing order console w with
  | exhausted =>
    rw [kem.priorityRounds, if_pos (by rfl)]
    exact ⟨[], console, w, by simpa [reported] using Prints.pure order hfresh, by simp⟩
  | @refused offer hoffer hnone =>
    have hround : Prints env runId _ order [] console w console _ :=
      Prints.round_failed hconf hoffer hfresh (hreal.head hconf rfl (requestFor job offer))
    have hnil : reported [Outcome.refused] = [] := rfl
    rw [hnil, List.append_nil]
    exact ⟨[], console, _, hround, by simp⟩
  | @unreachable offer hoffer =>
    have hround : Prints env runId _ order [] console w console _ :=
      Prints.round_failed hconf hoffer hfresh (hreal.head hconf rfl (requestFor job offer))
    have hnil : reported [Outcome.unreachable] = [] := rfl
    rw [hnil, List.append_nil]
    exact ⟨[], console, _, hround, by simp⟩
  | @unlisted offer chosen name hchosen hsame hkept =>
    apply Prints.round_picked henv hconf (hoffer_of hchosen) hfresh (hreal.head hconf rfl _)
    intro console' w' hfresh' hcalls
    rw [dif_pos hkept]
    exact ⟨[], console', w', Prints.pure _ hfresh', by simp⟩
  | @accepted offer chosen name rest hchosen hsame hshorter hrest ih =>
    apply Prints.round_picked henv hconf (hoffer_of hchosen) hfresh (hreal.head hconf rfl _)
    intro console' w' hfresh' hcalls
    rw [dif_neg hshorter]
    have hrest := ih (order ++ [name]) hfresh' (hcalls ▸ hreal.tail)
    rw [List.append_assoc] at hrest
    exact hrest

end Rounds

/--
The adapter a priority run probes with and what it offers first, if it gets that far.
-/
def offer? (adapters : AdapterRegistry) (env : Env) (w : World) (job : KemJob)
    : Option (String × List String) :=
  match preferredAdapter adapters with
  | .error _ => none
  | .ok adapter =>
    match adapters.capabilitiesOutcome env w adapter with
    | .error _ => none
    | .ok caps => some (adapter, if job.kemGroups.isEmpty then caps.kemGroups else job.kemGroups)

def firstProbe (adapters : AdapterRegistry) (env : Env) (w : World) (adapter : String) : Nat :=
  ((adapters.capabilities adapter).eval env w).2.calls

def FindingOk (adapters : AdapterRegistry) (env : Env) (job : KemJob) (w : World) : Prop :=
  "finding_ok" ∈ levelsOf job.runId ((priority adapters job).eval env ⟨job.runId, 0⟩ w).2.2

section Verdict

variable {adapters : AdapterRegistry} {env : Env} {job : KemJob} {w : World}

theorem Prints.forM {runId : Uuid} (henv : env.Faultless) (level : String) (message : String → String)
    (groups : List String) {console : Console} {w : World} (hfresh : Fresh runId console w)
    : ∃ levels console' w',
        Prints env runId (groups.forM (fun group => Console.log level (message group))) () levels
            console w console' w'
          ∧ ∀ l ∈ levels, l = level := by
  induction groups generalizing console w with
  | nil => exact ⟨[], console, w, Prints.pure () hfresh, by simp⟩
  | cons group groups ih =>
    obtain ⟨console₁, w₁, hlog, -, -⟩ := Prints.log henv hfresh level (message group)
    obtain ⟨levels, console₂, w₂, hrest, hlevels⟩ := ih hlog.fresh
    exact ⟨_, console₂, w₂, hlog.bind hrest, by simpa using hlevels⟩

theorem fresh_of_no_lines {runId : Uuid} (hrun : w.db.HasRun runId) (hlines : w.db.linesOf runId = [])
    : Fresh runId ⟨runId, 0⟩ w :=
  ⟨rfl, hrun, by simp [hlines]⟩

theorem Prints.findingOk_iff {levels : List String} {console' : Console} {w' : World}
    (h : Prints env job.runId (priority adapters job) () levels ⟨job.runId, 0⟩ w console' w')
    (hlines : w.db.linesOf job.runId = [])
    : FindingOk adapters env job w ↔ "finding_ok" ∈ levels := by
  unfold FindingOk
  rw [h.eval_eq, h.levels_eq]
  simp [levelsOf, hlines]

theorem Prints.verdict (henv : env.Faultless) {runId : Uuid} {console : Console} {w : World}
    (hfresh : Fresh runId console w) (order : List String)
    : ∃ levels console' w',
        Prints env runId
            (do
              if (evaluateOrder order).isEmpty then
                Console.log "finding_ok" "[+] 伺服器的演算法指定順序符合安全性等級從高到低的最佳實踐"
              else
                (evaluateOrder order).forM fun group =>
                  Console.log "finding_warn" s!"[-] 伺服器將安全性較高演算法放在後面：{group}"
              let names := String.intercalate "," (order.map quoted)
              Console.log "result" s!"Final Order: [{names}]")
            () levels console w console' w'
          ∧ ("finding_ok" ∈ levels ↔ evaluateOrder order = []) := by
  by_cases hfound : evaluateOrder order = []
  . obtain ⟨console₁, w₁, hok, -, -⟩ := Prints.log henv hfresh "finding_ok"
      "[+] 伺服器的演算法指定順序符合安全性等級從高到低的最佳實踐"
    obtain ⟨console₂, w₂, hresult, -, -⟩ := Prints.log henv hok.fresh "result" _
    rw [if_pos (by simp [hfound])]
    exact ⟨_, console₂, w₂, hok.bind hresult, by simp [hfound]⟩
  . obtain ⟨levels, console₁, w₁, hwarn, hlevels⟩ := Prints.forM henv "finding_warn"
      (fun group => s!"[-] 伺服器將安全性較高演算法放在後面：{group}") (evaluateOrder order) hfresh
    obtain ⟨console₂, w₂, hresult, -, -⟩ := Prints.log henv hwarn.fresh "result" _
    rw [if_neg (by simp [hfound])]
    refine ⟨_, console₂, w₂, hwarn.bind hresult, ?_⟩
    simp only [hfound, iff_false, List.mem_append, List.mem_singleton, not_or]
    refine ⟨?_, by decide⟩
    intro hmem
    have := hlevels _ hmem
    revert this
    decide

theorem findingOk_iff (henv : env.Faultless) (hrun : w.db.HasRun job.runId)
    (hlines : w.db.linesOf job.runId = []) {adapter : String} {offer preferences : List String}
    {outcomes : List Outcome} (hoffer : offer? adapters env w job = some (adapter, offer))
    (hsees : Sees preferences offer outcomes)
    (hreal : Realises env adapter (firstProbe adapters env w adapter) outcomes)
    : FindingOk adapters env job w ↔ evaluateOrder (reported outcomes) = [] := by
  unfold offer? at hoffer
  split at hoffer
  . cases hoffer
  . next _ hadapter =>
    split at hoffer
    . cases hoffer
    . next caps hcaps =>
      cases hoffer
      have hconf := preferredAdapter_configured hadapter
      obtain ⟨console₁, w₁, hlog₁, hcalls₁, hcache₁⟩ :=
        Prints.log henv (fresh_of_no_lines hrun hlines) "info" _
      obtain ⟨console₂, w₂, hlog₂, hcalls₂, hcache₂⟩ := Prints.log henv hlog₁.fresh "info" _
      have hcache : w₂.cache = w.cache := hcache₂.trans hcache₁
      have hcalls : w₂.calls = w.calls := hcalls₂.trans hcalls₁
      have hcaps' : adapters.capabilitiesOutcome env w₂ adapter = .ok caps := by
        unfold AdapterRegistry.capabilitiesOutcome at hcaps ⊢
        rw [hcache, hcalls]
        exact hcaps
      have hprobe := adapters.calls_capabilities env adapter hcache hcalls
      have hcapabilities := Prints.capabilities hcaps' hlog₂.fresh
      obtain ⟨infos, console₃, w₃, hrounds, hinfos⟩ := Prints.priorityRounds henv job hconf hsees []
        hcapabilities.fresh (hprobe ▸ hreal)
      obtain ⟨levels, console₄, w₄, hverdict, hiff⟩ :=
        Prints.verdict henv hrounds.fresh ([] ++ reported outcomes)
      have hpriority : Prints env job.runId (priority adapters job) ()
          ([] ++ (["info"] ++ (["info"] ++ ([] ++ (infos ++ levels))))) ⟨job.runId, 0⟩ w console₄ w₄ := by
        unfold priority
        rw [hadapter]
        exact (Prints.pure adapter (fresh_of_no_lines hrun hlines)).bind (hlog₁.bind (hlog₂.bind
          (hcapabilities.bind (hrounds.bind hverdict))))
      rw [hpriority.findingOk_iff hlines]
      have hinfo : "finding_ok" ∉ infos := fun hmem => by simpa using hinfos _ hmem
      simpa [hinfo] using hiff

theorem not_findingOk (henv : env.Faultless) (hrun : w.db.HasRun job.runId)
    (hlines : w.db.linesOf job.runId = []) (hoffer : offer? adapters env w job = none)
    : ¬ FindingOk adapters env job w := by
  unfold offer? at hoffer
  unfold FindingOk priority
  split at hoffer
  . next e hadapter =>
    rw [hadapter, ConsoleM.eval_bind]
    simp [liftExcept, levelsOf, hlines]
  . next adapter hadapter =>
    split at hoffer
    . next e hcaps =>
      obtain ⟨console₁, w₁, hlog₁, hcalls₁, hcache₁⟩ :=
        Prints.log henv (fresh_of_no_lines hrun hlines) "info" _
      obtain ⟨console₂, w₂, hlog₂, hcalls₂, hcache₂⟩ := Prints.log henv hlog₁.fresh "info" _
      have hcaps' : adapters.capabilitiesOutcome env w₂ adapter = .error e := by
        unfold AdapterRegistry.capabilitiesOutcome at hcaps ⊢
        rw [hcache₂, hcache₁, hcalls₂, hcalls₁]
        exact hcaps
      obtain ⟨cache, calls, hcapabilities⟩ := adapters.eval_capabilities env w₂ adapter
      rw [hcaps'] at hcapabilities
      have hlevels : levelsOf job.runId w₂ = ["info", "info"] := by
        rw [hlog₂.levels_eq, hlog₁.levels_eq]
        simp [levelsOf, hlines]
      rw [hadapter, ConsoleM.eval_bind]
      simp only [liftExcept]
      rw [ConsoleM.eval_pure]
      dsimp only
      rw [ConsoleM.eval_bind, hlog₁.eval_eq]
      dsimp only
      rw [ConsoleM.eval_bind, hlog₂.eval_eq]
      dsimp only
      rw [ConsoleM.eval_bind, ConsoleM.eval_ofWorker, hcapabilities]
      change "finding_ok" ∉ levelsOf job.runId w₂
      rw [hlevels]
      decide
    . cases hoffer

/--
`finding_ok` is printed only for servers that deserve it exactly when the run sees a handshake
succeed and, unless the preferences are in order, the groups that the server picks before the probing
ends are out of order already. Probing can end early: an adapter can fail at any time, and a name
that the offer does not spell the same way ends the loop.
-/
theorem findingOk_sound_iff (henv : env.Faultless) (hrun : w.db.HasRun job.runId)
    (hlines : w.db.linesOf job.runId = []) {preferences : List String} {outcomes : List Outcome}
    (hsees : ∀ adapter offer, offer? adapters env w job = some (adapter, offer) →
      Sees preferences offer outcomes
        ∧ Realises env adapter (firstProbe adapters env w adapter) outcomes)
    : (FindingOk adapters env job w →
        ∃ adapter offer, offer? adapters env w job = some (adapter, offer)
          ∧ WellOrdered (restrict preferences offer)
          ∧ ∃ group name, Outcome.accepted group name ∈ outcomes)
        ↔
      ∀ adapter offer, offer? adapters env w job = some (adapter, offer) →
        (∃ group name, Outcome.accepted group name ∈ outcomes)
          ∧ (WellOrdered (restrict preferences offer) ∨ ¬ WellOrdered (chosen outcomes)) := by
  cases hoffer : offer? adapters env w job with
  | none => simp [not_findingOk henv hrun hlines hoffer]
  | some probing =>
    rcases probing with ⟨adapter, offer⟩
    obtain ⟨hsees, hreal⟩ := hsees adapter offer hoffer
    rw [findingOk_iff henv hrun hlines hoffer hsees hreal, hsees.evaluateOrder_eq_nil_iff]
    have hchosen : ¬ (∃ group name, Outcome.accepted group name ∈ outcomes) →
        WellOrdered (chosen outcomes) := by
      intro hnone
      have hnil : chosen outcomes = [] := by
        unfold chosen
        rw [List.filterMap_eq_nil_iff]
        intro outcome houtcome
        cases outcome with
        | accepted group name => exact absurd ⟨group, name, houtcome⟩ hnone
        | refused => rfl
        | unreachable => rfl
      rw [hnil]
      exact List.Pairwise.nil
    constructor
    . rintro h _ _ ⟨rfl, rfl⟩
      by_cases hsome : ∃ group name, Outcome.accepted group name ∈ outcomes
      . refine ⟨hsome, ?_⟩
        by_cases hordered : WellOrdered (chosen outcomes)
        . obtain ⟨_, _, heq, hpref, -⟩ := h hordered
          cases heq
          exact .inl hpref
        . exact .inr hordered
      . obtain ⟨_, _, -, -, haccepted⟩ := h (hchosen hsome)
        exact absurd haccepted hsome
    . intro h hordered
      obtain ⟨hsome, hpref⟩ := h adapter offer rfl
      refine ⟨adapter, offer, rfl, ?_, hsome⟩
      rcases hpref with hpref | hnot
      . exact hpref
      . exact absurd hordered hnot

end Verdict

namespace priorityLab

def job : KemJob :=
  { labJob with mode := .priority, kemGroups := ["secp256r1", "X25519MLKEM768"] }

def picked (group : String) : ProbeResponse :=
  { ProbeResponse.failure "openssl" .complete "" with
    handshakeSuccess := true
    negotiated := { group := some group }
    errorSummary := none }

def env (first second : String) : Env :=
  {
    now := 0
    fetchCapabilities := fun _ _ => .ok ⟨"openssl", "3.5.0", ["X25519MLKEM768"], ["mldsa65"], ["TLSv1.3"]⟩
    postProbe := fun n _ _ => .report (picked (if n = 1 then first else second))
  }

theorem realises_two (first second chosen chosen' : String)
    : Realises (env first second) "openssl" 1 [.accepted chosen first, .accepted chosen' second] := by
  intro i outcome houtcome base request
  match i with
  | 0 =>
    cases houtcome
    exact ⟨rfl, rfl⟩
  | 1 =>
    cases houtcome
    exact ⟨rfl, rfl⟩
  | _ + 2 => simp at houtcome

theorem realises_one (first second chosen : String)
    : Realises (env first second) "openssl" 1 [.accepted chosen first] := by
  intro i outcome houtcome base request
  match i with
  | 0 =>
    cases houtcome
    exact ⟨rfl, rfl⟩
  | _ + 1 => simp at houtcome

theorem sees_good
    : Sees ["X25519MLKEM768", "secp256r1"] ["secp256r1", "X25519MLKEM768"]
        [.accepted "X25519MLKEM768" "X25519MLKEM768", .accepted "secp256r1" "secp256r1"] := by
  apply Sees.accepted (by decide) (by decide) (by decide)
  apply Sees.accepted (by decide) (by decide) (by decide)
  exact Sees.exhausted

theorem sees_alias
    : Sees ["secp256r1", "X25519MLKEM768"] ["secp256r1", "X25519MLKEM768"]
        [.accepted "secp256r1" "prime256v1"] :=
  Sees.unlisted (by decide) (by decide) (by decide)

theorem offer_eq (first second : String)
    : offer? labRegistry (env first second) labWorld job
        =
      some ("openssl", ["secp256r1", "X25519MLKEM768"]) := rfl

theorem env_faultless (first second : String) : (env first second).Faultless :=
  fun _ => rfl

theorem findingOk_sound_lab
    : FindingOk labRegistry (env "X25519MLKEM768" "secp256r1") job labWorld
        ∧ ∃ adapter offer,
          offer? labRegistry (env "X25519MLKEM768" "secp256r1") labWorld job = some (adapter, offer)
            ∧ WellOrdered (restrict ["X25519MLKEM768", "secp256r1"] offer)
            ∧ ∃ group name, Outcome.accepted group name
                ∈ [.accepted "X25519MLKEM768" "X25519MLKEM768", .accepted "secp256r1" "secp256r1"] := by
  have hok : FindingOk labRegistry (env "X25519MLKEM768" "secp256r1") job labWorld := by
    rw [findingOk_iff (env_faultless _ _) List.mem_cons_self rfl (offer_eq _ _) sees_good
      (realises_two _ _ _ _)]
    decide
  refine ⟨hok, (findingOk_sound_iff (env_faultless _ _) List.mem_cons_self rfl ?_).mpr ?_ hok⟩
  . intro adapter offer hoffer
    cases (offer_eq _ _).symm.trans hoffer
    exact ⟨sees_good, realises_two _ _ _ _⟩
  . intro adapter offer hoffer
    cases (offer_eq _ _).symm.trans hoffer
    refine ⟨⟨_, _, List.mem_cons_self⟩, .inl ?_⟩
    rw [← evaluateOrder_eq_nil_iff]
    decide

/--
The alias is not in the offer, the loop stops after one round, and the server that prefers the
classical curve is praised.
-/
theorem findingOk_unsound_alias
    : Sees ["secp256r1", "X25519MLKEM768"] ["secp256r1", "X25519MLKEM768"]
          [.accepted "secp256r1" "prime256v1"]
        ∧ Realises (env "prime256v1" "") "openssl"
            (firstProbe labRegistry (env "prime256v1" "") labWorld "openssl")
            [.accepted "secp256r1" "prime256v1"]
        ∧ FindingOk labRegistry (env "prime256v1" "") job labWorld
        ∧ offer? labRegistry (env "prime256v1" "") labWorld job
            = some ("openssl", ["secp256r1", "X25519MLKEM768"])
        ∧ ¬ WellOrdered
            (restrict ["secp256r1", "X25519MLKEM768"] ["secp256r1", "X25519MLKEM768"]) := by
  refine ⟨sees_alias, realises_one _ _ _, ?_, rfl, ?_⟩
  . rw [findingOk_iff (env_faultless _ _) List.mem_cons_self rfl (offer_eq _ _) sees_alias
      (realises_one _ _ _)]
    decide
  . rw [← evaluateOrder_eq_nil_iff]
    decide

end priorityLab

end kem

end PqCas
