import PqCas.Kem.Modes

/-!
How far the probing loop of a priority run can go, whatever the server answers.
-/

namespace PqCas

namespace kem

def Offered (offer : List String) (group : String) : Prop :=
  ∃ g ∈ offer, Text.eqIgnoreAsciiCase g group = true

/--
An order that the loop can recover from an offer. The last group is what the server named when the loop
stopped.
-/
structure Recovered (offer order : List String) : Prop where
  length_le : order.length ≤ offer.length
  distinct : order.dropLast.Pairwise (fun a b => Text.eqIgnoreAsciiCase a b = false)
  offered : ∀ group ∈ order.dropLast, Offered offer group

structure LoopInv (offer remaining order : List String) : Prop where
  length_le : order.length + remaining.length ≤ offer.length
  distinct : order.Pairwise (fun a b => Text.eqIgnoreAsciiCase a b = false)
  offered : ∀ group ∈ order, Offered offer group
  remaining_subset : ∀ g ∈ remaining, g ∈ offer
  left : ∀ group ∈ order, ∀ g ∈ remaining, Text.eqIgnoreAsciiCase g group = false

section Loop

variable {offer remaining order : List String}

theorem LoopInv.start (offer : List String) : LoopInv offer offer [] := by
  constructor <;> simp

theorem exists_of_retain {group : String} (h : (retain remaining group).length ≠ remaining.length)
    : ∃ g ∈ remaining, Text.eqIgnoreAsciiCase g group = true := by
  by_contra hnone
  apply h
  unfold retain
  rw [List.length_filter_eq_length_iff]
  intro g hg
  rw [Bool.not_eq_true', ← Bool.not_eq_true]
  exact fun heq => hnone ⟨g, hg, heq⟩

theorem LoopInv.next (h : LoopInv offer remaining order) {group : String}
    (hshorter : (retain remaining group).length ≠ remaining.length)
    : LoopInv offer (retain remaining group) (order ++ [group]) := by
  obtain ⟨g, hg, heq⟩ := exists_of_retain hshorter
  have hsub : ∀ x ∈ retain remaining group, x ∈ remaining := fun x hx => List.mem_of_mem_filter hx
  constructor
  case length_le =>
    have hle := length_retain_le remaining group
    have hlength := h.length_le
    rw [List.length_append, List.length_singleton]
    omega
  case distinct =>
    rw [List.pairwise_append]
    refine ⟨h.distinct, List.pairwise_singleton _ _, ?_⟩
    intro a ha b hb
    rw [List.mem_singleton.mp hb, ← Bool.not_eq_true]
    intro hsame
    -- The group that was taken out would be a spelling of one recovered before.
    rw [Text.eqIgnoreAsciiCase_comm] at hsame
    have hagain := Text.eqIgnoreAsciiCase_trans heq hsame
    rw [h.left a ha g hg] at hagain
    cases hagain
  case offered =>
    intro a ha
    rw [List.mem_append, List.mem_singleton] at ha
    rcases ha with ha | rfl
    . exact h.offered a ha
    . exact ⟨g, h.remaining_subset g hg, heq⟩
  case remaining_subset => exact fun x hx => h.remaining_subset x (hsub x hx)
  case left =>
    intro a ha x hx
    rw [List.mem_append, List.mem_singleton] at ha
    rcases ha with ha | rfl
    . exact h.left a ha x (hsub x hx)
    . simpa using (List.mem_filter.mp hx).2

theorem LoopInv.stop (h : LoopInv offer remaining order) : Recovered offer order := by
  have hlength := h.length_le
  constructor
  . omega
  . exact h.distinct.sublist (List.dropLast_sublist order)
  . exact fun group hgroup => h.offered group (List.mem_of_mem_dropLast hgroup)

theorem LoopInv.break (h : LoopInv offer remaining order) (hne : remaining ≠ []) (group : String)
    : Recovered offer (order ++ [group]) := by
  have hlength := h.length_le
  have hpos := List.length_pos_iff.mpr hne
  constructor
  . rw [List.length_append, List.length_singleton]
    omega
  . rw [List.dropLast_concat]
    exact h.distinct
  . rw [List.dropLast_concat]
    exact h.offered

end Loop

section Rounds

variable (env : Env) (adapters : AdapterRegistry) (adapter : String) (job : KemJob)

theorem calls_eval_probe (request : ProbeRequest) (console : Console) (w : World)
    : ∃ response w', (kem.probe adapters adapter request).eval env console w = (.ok response, console, w')
        ∧ w'.calls ≤ w.calls + 1 := by
  unfold kem.probe
  rw [ConsoleM.eval_ofWorker, WorkerM.eval_lift]
  refine ⟨_, _, rfl, ?_⟩
  unfold AdapterRegistry.probe
  cases adapters.bases.lookup adapter with
  | none => exact Nat.le_succ _
  | some base => exact Nat.le_refl _

theorem calls_statement (fault : Option Err) (w : World) (db : Except Err Db)
    : (Env.statement fault w db).2.calls = w.calls := by
  unfold Env.statement
  split <;> rfl

theorem calls_eval_log (level message : String) (console : Console) (w : World)
    : ((Console.log level message).eval env console w).2.2.calls = w.calls := by
  unfold Console.log
  rw [ConsoleM.eval_bind, ConsoleM.eval_ofWorker, Console.eval_utcNow]
  dsimp only
  rw [ConsoleM.eval_bind, Console.eval_next]
  dsimp only
  rw [ConsoleM.eval_bind, ConsoleM.eval_ofWorker, Console.eval_insertLine]
  rcases hinsert : Env.statement (env.fails .insertKemLog) w (w.db.insertKemLog
    ⟨console.runId, console.seq + 1, env.now, level, message⟩) with ⟨r, w₁⟩
  have hcalls := calls_statement (env.fails .insertKemLog) w (w.db.insertKemLog
    ⟨console.runId, console.seq + 1, env.now, level, message⟩)
  rw [hinsert] at hcalls
  cases r with
  | error e => exact hcalls
  | ok _ =>
    dsimp only
    rw [ConsoleM.eval_ofWorker, eval_publishEvent, ← hcalls]
    split <;> rfl

structure Bounded (offer : List String) (limit : Nat) (r : Except Err (List String) × Console × World)
    : Prop where
  calls_le : r.2.2.calls ≤ limit
  recovered : ∀ order, r.1 = .ok order → Recovered offer order

theorem bounded_ok {offer order : List String} {limit : Nat} (console : Console) {w : World}
    (hcalls : w.calls ≤ limit) (h : Recovered offer order) : Bounded offer limit (.ok order, console, w) := by
  refine ⟨hcalls, ?_⟩
  rintro _ ⟨⟩
  exact h

theorem bounded_rounds {offer remaining order : List String} (h : LoopInv offer remaining order)
    (console : Console) (w : World)
    : Bounded offer (w.calls + remaining.length)
        ((priorityRounds adapters adapter job remaining order).eval env console w) := by
  induction remaining, order using kem.priorityRounds.induct generalizing console w with
  | case1 remaining order hempty =>
    rw [kem.priorityRounds, if_pos hempty, ConsoleM.eval_pure]
    exact bounded_ok console (Nat.le_add_right _ _) h.stop
  | case2 remaining order hempty ih =>
    have hne : remaining ≠ [] := by simpa using hempty
    have hpos := List.length_pos_iff.mpr hne
    rw [kem.priorityRounds, if_neg hempty, ConsoleM.eval_bind]
    obtain ⟨response, w₁, hprobe, hcalls⟩ :=
      calls_eval_probe env adapters adapter (requestFor job remaining) console w
    rw [hprobe]
    dsimp only
    split
    . rw [ConsoleM.eval_pure]
      exact bounded_ok console (by omega) h.stop
    . split
      . rw [ConsoleM.eval_pure]
        exact bounded_ok console (by omega) h.stop
      . next group hgroup =>
        rw [ConsoleM.eval_bind]
        have hlog := calls_eval_log env "info" group console w₁
        rcases heval : (Console.log "info" group).eval env console w₁ with ⟨r, console₂, w₂⟩
        rw [heval] at hlog
        dsimp only at hlog
        cases r with
        | error e =>
          refine ⟨by dsimp only; omega, ?_⟩
          rintro _ ⟨⟩
        | ok _ =>
          dsimp only
          split
          . rw [ConsoleM.eval_pure]
            exact bounded_ok console₂ (by omega) (h.break hne group)
          . next hshorter =>
            have hle := length_retain_le remaining group
            have hrest := ih group hshorter (h.next hshorter) console₂ w₂
            exact ⟨by have := hrest.calls_le; omega, hrest.recovered⟩

/--
The loop makes at most as many probes as there are groups in the offer, and what it recovers is no longer
than the offer, without a group twice and without one that was not offered up to the last.
-/
theorem priorityRounds_bounded (offer : List String) (console : Console) (w : World)
    : Bounded offer (w.calls + offer.length)
        ((priorityRounds adapters adapter job offer []).eval env console w) :=
  bounded_rounds env adapters adapter job (LoopInv.start offer) console w

end Rounds

end kem

end PqCas
