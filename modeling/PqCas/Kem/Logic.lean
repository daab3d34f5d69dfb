import Mathlib.Data.Set.Lattice
import PqCas.Kem.Modes

/-!
The structural rules that a property of console code needs to hold of the three modes. Which cells
of the matrix a piece of code may write is part of it.
-/

namespace PqCas

/--
Worker code that only talks to adapters and to the capability cache: it stays where it is in every
protocol that lets it.
-/
def WorkerM.OnlyCalls {α : Type} (m : WorkerM α) : Prop :=
  ∀ (σ : Type) (δ : σ → (op : Op) → op.Reply → σ → Prop) (s : σ),
    (∀ (op : Op) (r : op.Reply), op.isCall = true → δ s op r s) →
      m.run.Conforms δ (fun _ s' => s' = s) s

namespace kem

theorem onlyCalls_capabilities (adapters : AdapterRegistry) (adapter : String)
    : WorkerM.OnlyCalls (adapters.capabilities adapter) :=
  fun _ _ _ hcall => adapters.capabilities_conforms adapter (hcall _ _)

theorem onlyCalls_probe (adapters : AdapterRegistry) (adapter : String) (request : ProbeRequest)
    : WorkerM.OnlyCalls (ExceptT.lift (adapters.probe adapter request)) := by
  intro σ δ s hcall
  apply Prog.Conforms.bind
  apply Prog.Conforms.mono (adapters.probe_conforms adapter request (hcall _ _))
  exact fun _ _ hs => hs

abbrev Cell := String × String

/--
A property of console code and of the cells it may write, with its rules. No cell is written twice.
-/
structure ConsoleLogic where
  Holds : {α : Type} → Set Cell → ConsoleM α → Prop
  pure {α : Type} (a : α) : Holds ∅ (Pure.pure a : ConsoleM α)
  throw {α : Type} (e : Err) : Holds ∅ (throw e : ConsoleM α)
  bind {α β : Type} {C D : Set Cell} {m : ConsoleM α} {f : α → ConsoleM β} :
    Holds C m → (∀ a, Holds D (f a)) → Disjoint C D → Holds (C ∪ D) (m >>= f)
  mono {α : Type} {C D : Set Cell} {m : ConsoleM α} : Holds C m → C ⊆ D → Holds D m
  outcome {α : Type} {C : Set Cell} {m : ConsoleM α} : Holds C m → Holds C (ConsoleM.outcome m)
  calls {α : Type} {m : WorkerM α} : m.OnlyCalls → Holds ∅ (ConsoleM.ofWorker m)
  log (level message : String) : Holds ∅ (Console.log level message)
  cell (kem adapter : String) (verdict : ResultStatus) (detail : Option String) :
    Holds {(kem, adapter)} (Console.cell kem adapter verdict detail)

def opening (adapters : AdapterRegistry) (job : KemJob) : Except Err String :=
  match job.mode with
  | .libraryCompat => .ok ""
  | .groupCompat | .priority => preferredAdapter adapters

def banner (job : KemJob) : String :=
  match job.mode with
  | .libraryCompat => s!"=== run_library_compat ({job.host}:{job.port}) ==="
  | .groupCompat => s!"=== run_full_handshake ({job.host}:{job.port}) ==="
  | .priority => s!"=== run_priority_test ({job.host}:{job.port}) ==="

namespace ConsoleLogic

variable (L : ConsoleLogic) {α β : Type} {C : Set Cell}

def AfterBanner (adapters : AdapterRegistry) (job : KemJob) (C : Set Cell) (m : ConsoleM Unit) : Prop :=
  ∃ rest : String → ConsoleM Unit,
    m = (liftExcept (opening adapters job) >>= fun adapter =>
        Console.log "info" (banner job) >>= fun _ => rest adapter)
      ∧ ∀ adapter, L.Holds C (rest adapter)

variable {L}

theorem bind_right {m : ConsoleM α} {f : α → ConsoleM β} (hm : L.Holds ∅ m)
    (hf : ∀ a, L.Holds C (f a)) : L.Holds C (m >>= f) := by
  have h := L.bind hm hf (Set.empty_disjoint C)
  rwa [Set.empty_union] at h

theorem bind_left {m : ConsoleM α} {f : α → ConsoleM β} (hm : L.Holds C m)
    (hf : ∀ a, L.Holds ∅ (f a)) : L.Holds C (m >>= f) := by
  have h := L.bind hm hf (Set.disjoint_empty C)
  rwa [Set.union_empty] at h

theorem ofExcept (r : Except Err α) : L.Holds ∅ (liftExcept r : ConsoleM α) := by
  cases r with
  | ok a => exact L.pure a
  | error e => exact L.throw e

theorem forM {ι : Type} {f : ι → ConsoleM Unit} {cells : ι → Set Cell}
    (hf : ∀ i, L.Holds (cells i) (f i)) {is : List ι}
    (hdisj : is.Pairwise (fun i j => Disjoint (cells i) (cells j)))
    : L.Holds (⋃ i ∈ is, cells i) (is.forM f) := by
  induction is with
  | nil => exact L.mono (L.pure ()) (Set.empty_subset _)
  | cons i is ih =>
    rw [List.pairwise_cons] at hdisj
    have hrest : Disjoint (cells i) (⋃ j ∈ is, cells j) := by
      rw [Set.disjoint_iUnion₂_right]
      exact hdisj.1
    apply L.mono (L.bind (hf i) (fun _ => ih hdisj.2) hrest)
    simp

theorem forM_empty {ι : Type} {f : ι → ConsoleM Unit} (hf : ∀ i, L.Holds ∅ (f i)) (is : List ι)
    : L.Holds ∅ (is.forM f) := by
  have hdisj : is.Pairwise (fun _ _ => Disjoint (∅ : Set Cell) ∅) :=
    List.pairwise_of_forall (fun _ _ => Set.empty_disjoint _)
  exact L.mono (forM hf hdisj) (by simp)

variable (adapters : AdapterRegistry) (job : KemJob)

theorem capabilities (adapter : String)
    : L.Holds ∅ (ConsoleM.ofWorker (adapters.capabilities adapter)) :=
  L.calls (onlyCalls_capabilities adapters adapter)

theorem probe (adapter : String) (request : ProbeRequest)
    : L.Holds ∅ (kem.probe adapters adapter request) :=
  L.calls (onlyCalls_probe adapters adapter request)

theorem supported (name adapter : String) : L.Holds ∅ (kem.supported adapters name adapter) := by
  apply bind_right (L.outcome (capabilities adapters adapter))
  intro r
  cases r with
  | ok caps => exact L.pure _
  | error err => exact bind_right (L.log _ _) (fun _ => L.pure false)

theorem libraryCell (name adapter : String)
    : L.Holds {(name, adapter)} (kem.libraryCell adapters job name adapter) := by
  unfold kem.libraryCell
  split
  . apply L.cell
  . apply bind_right (supported adapters name adapter)
    intro supported
    split
    . apply L.cell
    . refine bind_right (probe adapters adapter _) (fun response => ?_)
      refine bind_left (L.cell _ _ _ _) (fun _ => ?_)
      apply L.log

theorem libraryLoop
    : L.Holds Set.univ
        (MATRIX_KEMS.forM fun name => MATRIX_ADAPTERS.forM fun adapter =>
          kem.libraryCell adapters job name adapter) := by
  have hrow : ∀ name, L.Holds {cell | cell.1 = name}
      (MATRIX_ADAPTERS.forM fun adapter => kem.libraryCell adapters job name adapter) := by
    intro name
    apply L.mono (forM (libraryCell adapters job name) _)
    . intro cell hcell
      simp only [Set.mem_iUnion, Set.mem_singleton_iff] at hcell
      obtain ⟨_, _, rfl⟩ := hcell
      rfl
    . have hne : MATRIX_ADAPTERS.Pairwise (· ≠ ·) := by decide
      apply hne.imp
      intro a b hab
      simp [hab]
  apply L.mono (forM hrow _) (Set.subset_univ _)
  have hne : MATRIX_KEMS.Pairwise (· ≠ ·) := by decide
  apply hne.imp
  intro a b hab
  rw [Set.disjoint_left]
  rintro cell rfl hb
  exact hab hb

theorem httpLines (http : HttpOutcome) : L.Holds ∅ (kem.httpLines http) := by
  unfold kem.httpLines
  refine bind_right (L.log _ _) (fun _ => ?_)
  refine bind_right (L.log _ _) (fun _ => ?_)
  refine bind_right (forM_empty (fun header => L.log _ _) _) (fun _ => ?_)
  refine bind_right (L.log _ _) (fun _ => ?_)
  apply L.log

theorem priorityRounds (adapter : String) (remaining order : List String)
    : L.Holds ∅ (kem.priorityRounds adapters adapter job remaining order) := by
  induction remaining, order using kem.priorityRounds.induct with
  | case1 remaining order hempty =>
    rw [kem.priorityRounds, if_pos hempty]
    exact L.pure order
  | case2 remaining order hempty ih =>
    rw [kem.priorityRounds, if_neg hempty]
    refine bind_right (probe adapters adapter _) (fun response => ?_)
    split
    . exact L.pure order
    . split
      . exact L.pure order
      . next group _ =>
        refine bind_right (L.log _ _) (fun _ => ?_)
        split
        . exact L.pure _
        . next h => exact ih group h

variable {job}

theorem afterBanner_libraryCompat (hmode : job.mode = .libraryCompat)
    : L.AfterBanner adapters job Set.univ (kem.libraryCompat adapters job) := by
  unfold AfterBanner opening banner
  rw [hmode]
  refine ⟨fun _ => _, rfl, ?_⟩
  intro _
  apply bind_left (libraryLoop adapters job)
  exact fun _ => L.log _ _

theorem afterBanner_groupCompat (hmode : job.mode = .groupCompat)
    : L.AfterBanner adapters job ∅ (kem.groupCompat adapters job) := by
  unfold AfterBanner opening banner
  rw [hmode]
  refine ⟨_, rfl, ?_⟩
  intro adapter
  refine bind_right (L.log _ _) (fun _ => ?_)
  refine bind_right (probe adapters adapter _) (fun response => ?_)
  split
  . refine bind_right (L.log _ _) (fun _ => ?_)
    apply L.log
  . split
    . next http _ =>
      refine bind_right (httpLines http) (fun _ => ?_)
      apply L.log
    . apply L.log

theorem afterBanner_priority (hmode : job.mode = .priority)
    : L.AfterBanner adapters job ∅ (kem.priority adapters job) := by
  unfold AfterBanner opening banner
  rw [hmode]
  refine ⟨_, rfl, ?_⟩
  intro adapter
  refine bind_right (L.log _ _) (fun _ => ?_)
  refine bind_right (capabilities adapters adapter) (fun caps => ?_)
  refine bind_right (priorityRounds adapters job adapter _ []) (fun order => ?_)
  dsimp only
  split
  . refine bind_right (L.log _ _) (fun _ => ?_)
    apply L.log
  . refine bind_right (forM_empty (fun group => L.log _ _) _) (fun _ => ?_)
    apply L.log

variable (job)

theorem afterBanner_runMode : L.AfterBanner adapters job Set.univ (kem.runMode adapters job) := by
  unfold kem.runMode
  split
  . next hmode => exact afterBanner_libraryCompat adapters hmode
  . next hmode =>
    obtain ⟨rest, heq, hrest⟩ := afterBanner_groupCompat (L := L) adapters hmode
    exact ⟨rest, heq, fun adapter => L.mono (hrest adapter) (Set.empty_subset _)⟩
  . next hmode =>
    obtain ⟨rest, heq, hrest⟩ := afterBanner_priority (L := L) adapters hmode
    exact ⟨rest, heq, fun adapter => L.mono (hrest adapter) (Set.empty_subset _)⟩

theorem runMode : L.Holds Set.univ (kem.runMode adapters job) := by
  obtain ⟨rest, heq, hrest⟩ := afterBanner_runMode (L := L) adapters job
  rw [heq]
  refine bind_right (ofExcept _) (fun adapter => ?_)
  refine bind_right (L.log _ _) (fun _ => ?_)
  apply hrest

end ConsoleLogic

end kem

end PqCas
