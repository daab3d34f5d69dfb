import PqCas.Kem.Priority
import PqCas.Lib.Preference

/-!
What the loop of a priority run recovers from a server that keeps to a preference list.
-/

namespace PqCas

namespace kem

def listed (offer : List String) (group : String) : Bool :=
  offer.any (fun g => Text.eqIgnoreAsciiCase g group)

def occurring (preferences offer : List String) : List String :=
  preferences.filter (listed offer)

/--
The answer of a server that accepts the first of its preferences that is offered and refuses when
there is none, from an adapter that may change the case of the name it reports.
-/
def Answers (preferences offer : List String) (response : ProbeResponse) : Prop :=
  match preferences.find? (listed offer) with
  | some chosen =>
    response.handshakeSuccess = true
      ∧ ∃ reported, response.negotiated.group = some reported
          ∧ Text.eqIgnoreAsciiCase reported chosen = true
  | none => response.handshakeSuccess = false

def Serves (env : Env) (adapter : String) (job : KemJob) (preferences : List String) : Prop :=
  ∀ n base offer, Answers preferences offer
    (AdapterRegistry.ofReply adapter (env.postProbe n base (requestFor job offer)))

section Loop

variable {env : Env} {adapters : AdapterRegistry} {adapter : String} {job : KemJob}
variable {preferences : List String}

theorem listed_eq_offered (offer : List String)
    : listed offer = Preference.offered Text.toAsciiLowercase offer := by
  funext group
  unfold listed Preference.offered
  congr 1
  funext g
  rw [Bool.eq_iff_iff, Text.eqIgnoreAsciiCase_iff, beq_iff_eq]

theorem retain_eq_without (offer : List String) (group : String)
    : retain offer group = Preference.without Text.toAsciiLowercase offer group := by
  unfold retain Preference.without
  apply List.filter_congr
  intro g _
  rw [Bool.eq_iff_iff]
  simp [← Text.eqIgnoreAsciiCase_iff]

theorem Serves.probeOutcome (h : Serves env adapter job preferences)
    (hconf : adapters.isConfigured adapter = true) (w : World) (offer : List String)
    : Answers preferences offer (adapters.probeOutcome env w adapter (requestFor job offer)) := by
  unfold AdapterRegistry.isConfigured at hconf
  obtain ⟨base, hbase⟩ := Option.isSome_iff_exists.mp hconf
  unfold AdapterRegistry.probeOutcome
  rw [hbase]
  exact h w.calls base offer

theorem best_nil : Preference.best Text.toAsciiLowercase preferences [] = none := by
  unfold Preference.best
  rw [List.find?_eq_none]
  intro group _
  simp [Preference.offered]

theorem length_retain_ne {offer : List String} {chosen reported : String}
    (h : Preference.best Text.toAsciiLowercase preferences offer = some chosen)
    (hkey : Text.toAsciiLowercase reported = Text.toAsciiLowercase chosen)
    : (retain offer reported).length ≠ offer.length := by
  have hoffered : Preference.offered Text.toAsciiLowercase offer reported = true := by
    rw [Preference.offered_congr hkey]
    exact List.find?_some h
  have := Preference.length_without_lt hoffered
  rw [retain_eq_without]
  omega

theorem Answers.accepted {offer : List String} {response : ProbeResponse}
    (h : Answers preferences offer response) (hsuccess : response.handshakeSuccess = true)
    : ∃ chosen reported, Preference.best Text.toAsciiLowercase preferences offer = some chosen
        ∧ response.negotiated.group = some reported
        ∧ Text.toAsciiLowercase reported = Text.toAsciiLowercase chosen := by
  unfold Answers at h
  rw [listed_eq_offered] at h
  split at h
  . next chosen hbest =>
    obtain ⟨-, reported, hgroup, hspelled⟩ := h
    exact ⟨chosen, reported, hbest, hgroup, Text.eqIgnoreAsciiCase_iff.mp hspelled⟩
  . simp [hsuccess] at h

theorem Answers.refused {offer : List String} {response : ProbeResponse}
    (h : Answers preferences offer response) (hfailed : response.handshakeSuccess = false)
    : Preference.best Text.toAsciiLowercase preferences offer = none := by
  unfold Answers at h
  rw [listed_eq_offered] at h
  split at h
  . simp [hfailed] at h
  . assumption

theorem priorityRounds_recovers (h : Serves env adapter job preferences)
    (hconf : adapters.isConfigured adapter = true) {offer order result : List String}
    {console console' : Console} {w w' : World}
    (heval : (priorityRounds adapters adapter job offer order).eval env console w
      = (.ok result, console', w'))
    : ∃ picks, result = order ++ picks
        ∧ Preference.Recovers Text.toAsciiLowercase preferences offer picks := by
  induction offer, order using priorityRounds.induct generalizing console w with
  | case1 offer order hempty =>
    rw [priorityRounds, if_pos hempty] at heval
    cases heval
    rw [List.isEmpty_iff.mp hempty]
    exact ⟨[], (List.append_nil _).symm, .done best_nil⟩
  | case2 offer order hempty ih =>
    have hanswer := h.probeOutcome hconf w offer
    rw [priorityRounds, if_neg hempty, ConsoleM.eval_bind, eval_probe hconf] at heval
    dsimp only at heval
    cases hsuccess : (adapters.probeOutcome env w adapter (requestFor job offer)).handshakeSuccess with
    | false =>
      rw [if_pos (by simp [hsuccess])] at heval
      cases heval
      exact ⟨[], (List.append_nil _).symm, .done (hanswer.refused hsuccess)⟩
    | true =>
      obtain ⟨chosen, reported, hbest, hgroup, hkey⟩ := hanswer.accepted hsuccess
      rw [if_neg (by simp [hsuccess]), hgroup] at heval
      dsimp only at heval
      rw [ConsoleM.eval_bind] at heval
      split at heval
      . next heq =>
        -- the exit for a name that was not offered is not taken
        rw [dif_neg (length_retain_ne hbest hkey)] at heval
        obtain ⟨picks, rfl, hpicks⟩ := ih reported (length_retain_ne hbest hkey) heval
        rw [retain_eq_without] at hpicks
        exact ⟨reported :: picks, List.append_assoc _ _ _, .pick hbest hkey hpicks⟩
      . cases heval

theorem priorityRounds_returns (henv : env.Faultless) (h : Serves env adapter job preferences)
    (hconf : adapters.isConfigured adapter = true) (offer order : List String) {runId : Uuid}
    {console : Console} {w : World} (hfresh : Fresh runId console w)
    : ∃ result console' w',
        (priorityRounds adapters adapter job offer order).eval env console w
          = (.ok result, console', w') := by
  induction offer, order using priorityRounds.induct generalizing console w with
  | case1 offer order hempty =>
    rw [priorityRounds, if_pos hempty]
    exact ⟨order, console, w, rfl⟩
  | case2 offer order hempty ih =>
    have hanswer := h.probeOutcome hconf w offer
    rw [priorityRounds, if_neg hempty, ConsoleM.eval_bind, eval_probe hconf]
    dsimp only
    cases hsuccess : (adapters.probeOutcome env w adapter (requestFor job offer)).handshakeSuccess with
    | false =>
      rw [if_pos (by simp)]
      exact ⟨order, console, _, rfl⟩
    | true =>
      obtain ⟨chosen, reported, hbest, hgroup, hkey⟩ := hanswer.accepted hsuccess
      have hcalled : Fresh runId console { w with calls := w.calls + 1 } :=
        ⟨hfresh.runId_eq, hfresh.hasRun, hfresh.lines⟩
      obtain ⟨console₁, w₁, hlog, -, -⟩ := Prints.log henv hcalled "info" reported
      rw [if_neg (by simp), hgroup]
      dsimp only
      rw [ConsoleM.eval_bind, hlog.eval_eq]
      dsimp only
      rw [dif_neg (length_retain_ne hbest hkey)]
      exact ih reported (length_retain_ne hbest hkey) hlog.fresh

/--
The loop ends with the preferences that occur in the offer, in their order and each of them once. It
can only end in another way when the database refuses a line.
-/
theorem priorityRounds_order (hadapter : preferredAdapter adapters = .ok adapter)
    (hserves : Serves env adapter job preferences)
    (hdistinct : preferences.Pairwise (fun a b => Text.eqIgnoreAsciiCase a b = false))
    (offer : List String) (console : Console) (w : World)
    : (∀ order console' w',
        (priorityRounds adapters adapter job offer []).eval env console w = (.ok order, console', w') →
          List.Forall₂ (fun a b => Text.eqIgnoreAsciiCase a b = true) order
              (occurring preferences offer)
            ∧ order.Pairwise (fun a b => Text.eqIgnoreAsciiCase a b = false))
        ∧
      (env.Faultless → Fresh job.runId console w →
        ∃ order console' w',
          (priorityRounds adapters adapter job offer []).eval env console w
            = (.ok order, console', w')) := by
  have hconf := preferredAdapter_configured hadapter
  have hkeys : preferences.Pairwise
      (fun a b => Text.toAsciiLowercase a ≠ Text.toAsciiLowercase b) := by
    apply hdistinct.imp
    intro a b hab hkey
    rw [Text.eqIgnoreAsciiCase_iff.mpr hkey] at hab
    cases hab
  constructor
  . intro order console' w' heval
    obtain ⟨picks, hpicks, hrecovers⟩ := priorityRounds_recovers hserves hconf heval
    rw [List.nil_append] at hpicks
    subst hpicks
    constructor
    . unfold occurring
      rw [listed_eq_offered]
      apply (hrecovers.forall₂ hkeys).imp
      intro a b
      exact Text.eqIgnoreAsciiCase_iff.mpr
    . apply (hrecovers.pairwise hkeys).imp
      intro a b hab
      rw [← Bool.not_eq_true, Text.eqIgnoreAsciiCase_iff]
      exact hab
  . intro henv hfresh
    exact priorityRounds_returns henv hserves hconf offer [] hfresh

end Loop

namespace recoveryLab

def preferences : List String :=
  ["X25519MLKEM768", "secp256r1", "x448"]

def env : Env :=
  {
    now := 0
    fetchCapabilities := fun _ _ => .error "connection refused"
    postProbe := fun _ _ request =>
      match preferences.find? (listed request.kemGroups) with
      | some group => .report (priorityLab.picked (Text.toAsciiLowercase group))
      | none => .unreachable "handshake failure"
  }

theorem serves (adapter : String) (job : KemJob) : Serves env adapter job preferences := by
  intro n base offer
  unfold Answers
  have hgroups : (requestFor job offer).kemGroups = offer := rfl
  simp only [env, hgroups]
  cases preferences.find? (listed offer) with
  | none => rfl
  | some group => exact ⟨rfl, _, rfl, by simp [Text.eqIgnoreAsciiCase_iff]⟩

theorem priorityRounds_order_lab
    : (∀ order console' w',
        (priorityRounds labRegistry "openssl" labJob ["SECP256R1", "x25519mlkem768", "secp256r1", "MLKEM512"]
            []).eval env ⟨labJob.runId, 0⟩ labWorld = (.ok order, console', w') →
          List.Forall₂ (fun a b => Text.eqIgnoreAsciiCase a b = true) order
              ["X25519MLKEM768", "secp256r1"]
            ∧ order.Pairwise (fun a b => Text.eqIgnoreAsciiCase a b = false))
        ∧
      ∃ order console' w',
        (priorityRounds labRegistry "openssl" labJob ["SECP256R1", "x25519mlkem768", "secp256r1", "MLKEM512"]
            []).eval env ⟨labJob.runId, 0⟩ labWorld = (.ok order, console', w') := by
  have hadapter : preferredAdapter labRegistry = .ok "openssl" := rfl
  obtain ⟨horder, hreturns⟩ := priorityRounds_order hadapter (serves _ labJob) (by decide)
    ["SECP256R1", "x25519mlkem768", "secp256r1", "MLKEM512"] ⟨labJob.runId, 0⟩ labWorld
  exact ⟨horder, hreturns (fun _ => rfl) (fresh_of_no_lines List.mem_cons_self rfl)⟩

end recoveryLab

end kem

end PqCas
