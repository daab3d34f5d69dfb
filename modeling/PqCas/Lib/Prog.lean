import Mathlib.Data.List.Forall2
import Mathlib.Logic.Relation

/-!
This module contains a small library for programs whose only access to the outside is through
operations, each answered by a reply. A program can be run alone, it can be stopped after any number
of operations, and several programs can be interleaved one operation at a time.
-/

/--
A program that returns an `α` after performing operations `i : ι` that are answered with a `ρ i`.
-/
inductive Prog (ι : Type) (ρ : ι → Type) (α : Type) where
  | pure (a : α)
  | op (i : ι) (k : ρ i → Prog ι ρ α)

namespace Prog

variable {ι : Type} {ρ : ι → Type} {α β W σ τ : Type}

def bind (p : Prog ι ρ α) (f : α → Prog ι ρ β) : Prog ι ρ β :=
  match p with
  | .pure a => f a
  | .op i k => .op i (fun r => (k r).bind f)

instance : Monad (Prog ι ρ) where
  pure := .pure
  bind := .bind

@[simp]
theorem pure_eq (a : α) : (Pure.pure a : Prog ι ρ α) = .pure a := rfl

@[simp]
theorem pure_bind (a : α) (f : α → Prog ι ρ β) : (Prog.pure a : Prog ι ρ α) >>= f = f a := rfl

@[simp]
theorem op_bind (i : ι) (k : ρ i → Prog ι ρ α) (f : α → Prog ι ρ β)
    : Prog.op i k >>= f = .op i (fun r => k r >>= f) := rfl

@[simp]
theorem map_eq_bind (f : α → β) (p : Prog ι ρ α) : f <$> p = p >>= fun a => .pure (f a) := rfl

def perform (i : ι) : Prog ι ρ (ρ i) :=
  .op i .pure

@[simp]
theorem perform_bind (i : ι) (f : ρ i → Prog ι ρ β) : perform i >>= f = .op i f := rfl

section Alone

variable (exec : (i : ι) → W → ρ i × W)

def run : Prog ι ρ α → W → α × W
  | .pure a, w => (a, w)
  | .op i k, w => (k (exec i w).1).run (exec i w).2

def trace : Prog ι ρ α → W → List ((i : ι) × ρ i)
  | .pure _, _ => []
  | .op i k, w => ⟨i, (exec i w).1⟩ :: (k (exec i w).1).trace (exec i w).2

/--
What is left of a program, and the world, when it is stopped after `n` operations.
-/
def stop : Nat → Prog ι ρ α → W → Prog ι ρ α × W
  | 0, p, w => (p, w)
  | _ + 1, .pure a, w => (.pure a, w)
  | n + 1, .op i k, w => stop n (k (exec i w).1) (exec i w).2

def ops : Nat → Prog ι ρ α → W → List ι
  | 0, _, _ => []
  | _ + 1, .pure _, _ => []
  | n + 1, .op i k, w => i :: ops n (k (exec i w).1) (exec i w).2

@[simp]
theorem run_pure (a : α) (w : W) : (Prog.pure a : Prog ι ρ α).run exec w = (a, w) := rfl

@[simp]
theorem run_op (i : ι) (k : ρ i → Prog ι ρ α) (w : W)
    : (Prog.op i k).run exec w = (k (exec i w).1).run exec (exec i w).2 := rfl

theorem run_bind (p : Prog ι ρ α) (f : α → Prog ι ρ β) (w : W)
    : (p >>= f).run exec w = (f (p.run exec w).1).run exec (p.run exec w).2 := by
  induction p generalizing w with
  | pure a => rfl
  | op i k ih =>
    simp only [op_bind, run_op]
    rw [ih]

theorem exists_stop_eq_run (p : Prog ι ρ α) (w : W)
    : ∃ n, p.stop exec n w = (.pure (p.run exec w).1, (p.run exec w).2) := by
  induction p generalizing w with
  | pure a => exact ⟨0, rfl⟩
  | op i k ih =>
    obtain ⟨n, hn⟩ := ih (exec i w).1 (exec i w).2
    exact ⟨n + 1, hn⟩

def Performs (P : ι → W → Prop) : Prog ι ρ α → W → Prop
  | .pure _, _ => True
  | .op i k, w => P i w ∧ (k (exec i w).1).Performs P (exec i w).2

variable {P : ι → W → Prop}

theorem performs_bind {p : Prog ι ρ α} {f : α → Prog ι ρ β} {w : W}
    : (p >>= f).Performs exec P w
        ↔
      p.Performs exec P w ∧ (f (p.run exec w).1).Performs exec P (p.run exec w).2 := by
  induction p generalizing w with
  | pure a => simp [Performs]
  | op i k ih =>
    simp only [op_bind, Performs, run_op]
    rw [ih, and_assoc]

end Alone

section Conforms

-- `δ s i r s'`: in phase `s` the operation `i` is allowed, and its reply `r` leads to `s'`.
variable (δ : σ → (i : ι) → ρ i → σ → Prop)

/--
Started in phase `s`, whatever the replies are, the program only performs operations that the
protocol `δ` allows, and it returns in a phase that satisfies `post`.
-/
def Conforms (post : α → σ → Prop) : Prog ι ρ α → σ → Prop
  | .pure a, s => post a s
  | .op i k, s => ∀ r, ∃ s', δ s i r s' ∧ (k r).Conforms post s'

variable {δ}

theorem Conforms.bind {post : β → σ → Prop} {p : Prog ι ρ α} {f : α → Prog ι ρ β} {s : σ}
    (h : p.Conforms δ (fun a s' => (f a).Conforms δ post s') s)
    : (p >>= f).Conforms δ post s := by
  induction p generalizing s with
  | pure a => exact h
  | op i k ih =>
    intro r
    obtain ⟨s', hs', hk⟩ := h r
    exact ⟨s', hs', ih r hk⟩

theorem Conforms.mono {post post' : α → σ → Prop} {p : Prog ι ρ α} {s : σ}
    (h : p.Conforms δ post s) (himp : ∀ a s', post a s' → post' a s')
    : p.Conforms δ post' s := by
  induction p generalizing s with
  | pure a => exact himp a s h
  | op i k ih =>
    intro r
    obtain ⟨s', hs', hk⟩ := h r
    exact ⟨s', hs', ih r hk⟩

theorem Conforms.performs {exec : (i : ι) → W → ρ i × W} {P : ι → W → Prop} {post : α → σ → Prop}
    {p : Prog ι ρ α} {s : σ} (h : p.Conforms δ post s) (hP : ∀ s i r s' w, δ s i r s' → P i w) (w : W)
    : p.Performs exec P w := by
  induction p generalizing s w with
  | pure a => trivial
  | op i k ih =>
    obtain ⟨s', hs', hk⟩ := h (exec i w).1
    exact ⟨hP s i _ s' w hs', ih _ hk _⟩

variable (δ) (exec : (i : ι) → W → ρ i × W)

/--
A run of a program that conforms to `δ`, seen from outside: the operations it performed with the
replies they got, the phases it went through and what became of the world.
-/
inductive Path : σ → W → List ((i : ι) × ρ i) → σ → W → Prop where
  | nil {s w} : Path s w [] s w
  | cons {s w i s' tr s'' w''} (h : δ s i (exec i w).1 s') (htail : Path s' (exec i w).2 tr s'' w'')
    : Path s w (⟨i, (exec i w).1⟩ :: tr) s'' w''

variable {δ}

theorem Conforms.path_run {post : α → σ → Prop} {p : Prog ι ρ α} {s : σ} (h : p.Conforms δ post s)
    (w : W)
    : ∃ s', post (p.run exec w).1 s' ∧ Path δ exec s w (p.trace exec w) s' (p.run exec w).2 := by
  induction p generalizing s w with
  | pure a => exact ⟨s, h, .nil⟩
  | op i k ih =>
    obtain ⟨s', hs', hk⟩ := h (exec i w).1
    obtain ⟨s'', hpost, hpath⟩ := ih _ hk (exec i w).2
    exact ⟨s'', hpost, .cons hs' hpath⟩

theorem Conforms.path_stop {post : α → σ → Prop} {p : Prog ι ρ α} {s : σ} (h : p.Conforms δ post s)
    (n : Nat) (w : W) : ∃ s' tr, Path δ exec s w tr s' (p.stop exec n w).2 := by
  induction n generalizing p s w with
  | zero => exact ⟨s, [], .nil⟩
  | succ n ih =>
    cases p with
    | pure a => exact ⟨s, [], .nil⟩
    | op i k =>
      obtain ⟨s', hs', hk⟩ := h (exec i w).1
      obtain ⟨s'', tr, hpath⟩ := ih hk (exec i w).2
      exact ⟨s'', _, .cons hs' hpath⟩

variable {exec}

theorem Path.invariant {I : σ → W → Prop} {s s' : σ} {w w' : W} {tr : List ((i : ι) × ρ i)}
    (h : Path δ exec s w tr s' w') (hs : I s w)
    (hstep : ∀ s i w s', I s w → δ s i (exec i w).1 s' → I s' (exec i w).2)
    : I s' w' := by
  induction h with
  | nil => exact hs
  | cons hδ _ ih => exact ih (hstep _ _ _ _ hs hδ)

theorem Path.forall_trace {I : σ → W → Prop} {Q : (i : ι) → ρ i → Prop} {s s' : σ} {w w' : W}
    {tr : List ((i : ι) × ρ i)} (h : Path δ exec s w tr s' w') (hs : I s w)
    (hstep : ∀ s i w s', I s w → δ s i (exec i w).1 s' → I s' (exec i w).2)
    (hQ : ∀ s i w s', I s w → δ s i (exec i w).1 s' → Q i (exec i w).1)
    : ∀ e ∈ tr, Q e.1 e.2 := by
  induction h with
  | nil => simp
  | cons hδ _ ih =>
    rw [List.forall_mem_cons]
    exact ⟨hQ _ _ _ _ hs hδ, ih (hstep _ _ _ _ hs hδ)⟩

end Conforms

end Prog

/--
A world shared by threads. What a thread is running for is `τ`, what is left of it is `π`.
-/
structure Pool (τ π W : Type) where
  world : W
  threads : List (τ × π)

namespace Pool

variable {ι : Type} {ρ : ι → Type} {α W σ τ : Type}

inductive Label (τ ι : Type) where
  | spawn (t : τ)
  | perform (t : τ) (i : ι)

section Step

variable (spawnable : W → τ → Prop) (exec : (i : ι) → W → ρ i → W → Prop)

/--
One step of interleaved programs. A thread that never moves again stands for a crashed one.
-/
inductive Step (prog : τ → Prog ι ρ α)
    : Pool τ (Prog ι ρ α) W → Label τ ι → Pool τ (Prog ι ρ α) W → Prop where
  | spawn {w ts} (t : τ) (h : spawnable w t) : Step prog ⟨w, ts⟩ (.spawn t) ⟨w, (t, prog t) :: ts⟩
  | perform {w w' ts₁ ts₂} (t : τ) (i : ι) (k : ρ i → Prog ι ρ α) (r : ρ i) (h : exec i w r w')
    : Step prog ⟨w, ts₁ ++ (t, .op i k) :: ts₂⟩ (.perform t i) ⟨w', ts₁ ++ (t, k r) :: ts₂⟩

/--
One step of interleaved phases: the same system with only the protocol of the threads left.
-/
inductive PhaseStep (δ : τ → σ → (i : ι) → ρ i → σ → Prop) (s₀ : σ)
    : Pool τ σ W → Label τ ι → Pool τ σ W → Prop where
  | spawn {w ts} (t : τ) (h : spawnable w t)
    : PhaseStep δ s₀ ⟨w, ts⟩ (.spawn t) ⟨w, (t, s₀) :: ts⟩
  | perform {w w' ts₁ ts₂} (t : τ) (i : ι) (s s' : σ) (r : ρ i) (h : exec i w r w')
      (hs : δ t s i r s')
    : PhaseStep δ s₀ ⟨w, ts₁ ++ (t, s) :: ts₂⟩ (.perform t i) ⟨w', ts₁ ++ (t, s') :: ts₂⟩

end Step

/--
A pool of programs and a pool of phases agree: same world, and thread by thread the rest of the
program conforms to the phase.
-/
structure Simulates (δ : τ → σ → (i : ι) → ρ i → σ → Prop) (post : τ → α → σ → Prop)
    (p : Pool τ (Prog ι ρ α) W) (a : Pool τ σ W) : Prop where
  world : p.world = a.world
  threads : List.Forall₂ (fun t s => t.1 = s.1 ∧ t.2.Conforms (δ t.1) (post t.1) s.2) p.threads a.threads

variable {δ : τ → σ → (i : ι) → ρ i → σ → Prop} {post : τ → α → σ → Prop} {s₀ : σ}
variable {spawnable : W → τ → Prop} {exec : (i : ι) → W → ρ i → W → Prop} {prog : τ → Prog ι ρ α}

theorem forall₂_append_cons_left {α β : Type} {R : α → β → Prop} {x : α} {l₁ l₂ : List α} {m : List β}
    (h : List.Forall₂ R (l₁ ++ x :: l₂) m)
    : ∃ m₁ y m₂, m = m₁ ++ y :: m₂ ∧ List.Forall₂ R l₁ m₁ ∧ R x y ∧ List.Forall₂ R l₂ m₂ := by
  induction l₁ generalizing m with
  | nil =>
    obtain ⟨y, m₂, hy, hm₂, rfl⟩ := List.forall₂_cons_left_iff.mp h
    exact ⟨[], y, m₂, rfl, .nil, hy, hm₂⟩
  | cons a l₁ ih =>
    obtain ⟨b, m', hb, hm', rfl⟩ := List.forall₂_cons_left_iff.mp h
    obtain ⟨m₁, y, m₂, rfl, h₁, hy, h₂⟩ := ih hm'
    exact ⟨b :: m₁, y, m₂, rfl, .cons hb h₁, hy, h₂⟩

theorem steps_stop {run : (i : ι) → W → ρ i × W} (hrun : ∀ i w, exec i w (run i w).1 (run i w).2)
    (t : τ) (n : Nat) (p : Prog ι ρ α) (w : W) (ts₁ ts₂ : List (τ × Prog ι ρ α))
    : Relation.ReflTransGen (fun p p' => ∃ l, Step spawnable exec prog p l p')
        ⟨w, ts₁ ++ (t, p) :: ts₂⟩
        ⟨(p.stop run n w).2, ts₁ ++ (t, (p.stop run n w).1) :: ts₂⟩ := by
  induction n generalizing p w with
  | zero => exact .refl
  | succ n ih =>
    cases p with
    | pure a => exact .refl
    | op i k => exact .head ⟨_, .perform t i k _ (hrun i w)⟩ (ih _ _)

theorem forall₂_exists_right {α β : Type} {R : α → β → Prop} {l : List α} {m : List β}
    (h : List.Forall₂ R l m) {x : α} (hx : x ∈ l) : ∃ y ∈ m, R x y := by
  induction h with
  | nil => cases hx
  | @cons a b l m hab _ ih =>
    cases hx with
    | head => exact ⟨b, by simp, hab⟩
    | tail _ hx =>
      obtain ⟨y, hy, hxy⟩ := ih hx
      exact ⟨y, by simp [hy], hxy⟩

theorem Simulates.exists_phase {p : Pool τ (Prog ι ρ α) W} {a : Pool τ σ W}
    (h : Simulates δ post p a) {t : τ × Prog ι ρ α} (ht : t ∈ p.threads)
    : ∃ s, (t.1, s) ∈ a.threads ∧ t.2.Conforms (δ t.1) (post t.1) s := by
  obtain ⟨⟨t', s⟩, hs, rfl, hconf⟩ := forall₂_exists_right h.threads ht
  exact ⟨s, hs, hconf⟩

theorem Simulates.exists_prog {p : Pool τ (Prog ι ρ α) W} {a : Pool τ σ W}
    (h : Simulates δ post p a) {t : τ × σ} (ht : t ∈ a.threads)
    : ∃ q, (t.1, q) ∈ p.threads ∧ q.Conforms (δ t.1) (post t.1) t.2 := by
  obtain ⟨⟨t', q⟩, hq, rfl, hconf⟩ := forall₂_exists_right h.threads.flip ht
  exact ⟨q, hq, hconf⟩

section Replace

variable {α : Type} {P : α → Prop} {x x' : α} {l₁ l₂ : List α}

theorem forall_replace (h : ∀ y ∈ l₁ ++ x :: l₂, P y) (hx : P x → P x')
    : ∀ y ∈ l₁ ++ x' :: l₂, P y := by
  simp only [List.forall_mem_append, List.forall_mem_cons] at h ⊢
  exact ⟨h.1, hx h.2.1, h.2.2⟩

theorem exists_replace (h : ∃ y ∈ l₁ ++ x :: l₂, P y) (hx : P x → P x')
    : ∃ y ∈ l₁ ++ x' :: l₂, P y := by
  obtain ⟨y, hy, hP⟩ := h
  rw [List.mem_append, List.mem_cons] at hy
  rcases hy with hy | rfl | hy
  . exact ⟨y, by simp [hy], hP⟩
  . exact ⟨x', by simp, hx hP⟩
  . exact ⟨y, by simp [hy], hP⟩

end Replace

/--
Programs that conform to a protocol refine it: each of their steps is a step of the phases.
-/
theorem Simulates.step {p p' : Pool τ (Prog ι ρ α) W} {a : Pool τ σ W} {l : Label τ ι}
    (hconf : ∀ t, (prog t).Conforms (δ t) (post t) s₀) (hsim : Simulates δ post p a)
    (hstep : Step spawnable exec prog p l p')
    : ∃ a', PhaseStep spawnable exec δ s₀ a l a' ∧ Simulates δ post p' a' := by
  rcases a with ⟨w, as⟩
  rcases hsim with ⟨hw, hts⟩
  cases hstep with
  | spawn t h =>
    cases hw
    refine ⟨_, .spawn t h, rfl, ?_⟩
    exact .cons ⟨rfl, hconf t⟩ hts
  | perform t i k r h =>
    cases hw
    -- The stepping thread splits the list of phases at the same place.
    obtain ⟨as₁, ⟨t', s⟩, as₂, rfl, h₁, ⟨rfl, hs⟩, h₂⟩ := forall₂_append_cons_left hts
    obtain ⟨s', hs', hk⟩ := hs r
    refine ⟨_, .perform t i s s' r h hs', rfl, ?_⟩
    exact List.rel_append h₁ (.cons ⟨rfl, hk⟩ h₂)

/--
An invariant of the phases is one of the programs. Its steps may rely on what guards the steps of the
run.
-/
theorem Simulates.invariant {guard : Pool τ (Prog ι ρ α) W → Label τ ι → Prop}
    {P : Pool τ σ W → Prop} {p p' : Pool τ (Prog ι ρ α) W} {a : Pool τ σ W}
    (hconf : ∀ t, (prog t).Conforms (δ t) (post t) s₀)
    (hstep : ∀ p a l a', Simulates δ post p a → guard p l → P a → PhaseStep spawnable exec δ s₀ a l a' →
      P a')
    (hsim : Simulates δ post p a) (ha : P a)
    (h : Relation.ReflTransGen (fun p p' => ∃ l, guard p l ∧ Step spawnable exec prog p l p') p p')
    : ∃ a', Simulates δ post p' a' ∧ P a' := by
  induction h with
  | refl => exact ⟨a, hsim, ha⟩
  | tail _ hs ih =>
    obtain ⟨a, hsim, ha⟩ := ih
    obtain ⟨l, hguard, hs⟩ := hs
    obtain ⟨a', ha', hsim'⟩ := hsim.step hconf hs
    exact ⟨a', hsim', hstep _ a l a' hsim hguard ha ha'⟩

inductive Crash {π : Type} : Pool τ π W → Pool τ π W → Prop where
  | mk {w ts₁ ts₂} (t : τ × π) : Crash ⟨w, ts₁ ++ t :: ts₂⟩ ⟨w, ts₁ ++ ts₂⟩

theorem Simulates.crash {p p' : Pool τ (Prog ι ρ α) W} {a : Pool τ σ W} (hsim : Simulates δ post p a)
    (h : Crash p p') : ∃ a', Crash a a' ∧ Simulates δ post p' a' := by
  rcases a with ⟨w, as⟩
  rcases hsim with ⟨hw, hts⟩
  cases h with
  | mk t =>
    cases hw
    obtain ⟨as₁, s, as₂, rfl, h₁, -, h₂⟩ := forall₂_append_cons_left hts
    exact ⟨_, .mk s, rfl, List.rel_append h₁ h₂⟩

section Trace

inductive Trace {S L : Type} (step : S → L → S → Prop) : S → List (S × L) → S → Prop where
  | refl (s : S) : Trace step s [] s
  | tail {s s' s'' : S} {tr : List (S × L)} {l : L} (h : Trace step s tr s') (hs : step s' l s'')
    : Trace step s (tr ++ [(s', l)]) s''

theorem Trace.head {S L : Type} {step : S → L → S → Prop} {s s' s'' : S} {l : L} {tr : List (S × L)}
    (hs : step s l s') (h : Trace step s' tr s'') : Trace step s ((s, l) :: tr) s'' := by
  induction h with
  | refl => exact .tail (.refl s) hs
  | tail _ hlast ih => exact .tail ih hlast

theorem Trace.trans {S L : Type} {step : S → L → S → Prop} {s s' s'' : S} {tr tr' : List (S × L)}
    (h : Trace step s tr s') (h' : Trace step s' tr' s'') : Trace step s (tr ++ tr') s'' := by
  induction h' with
  | refl =>
    rw [List.append_nil]
    exact h
  | tail _ hlast ih =>
    rw [← List.append_assoc]
    exact .tail ih hlast

theorem Simulates.trace_invariant {guard : Pool τ (Prog ι ρ α) W → Label τ ι → Prop}
    {P : List (Pool τ (Prog ι ρ α) W × Label τ ι) → Pool τ σ W → Prop} {p p' : Pool τ (Prog ι ρ α) W}
    {a : Pool τ σ W} {tr : List (Pool τ (Prog ι ρ α) W × Label τ ι)}
    (hconf : ∀ t, (prog t).Conforms (δ t) (post t) s₀)
    (hstep : ∀ tr p a l a', Simulates δ post p a → guard p l → P tr a →
      PhaseStep spawnable exec δ s₀ a l a' → P (tr ++ [(p, l)]) a')
    (hsim : Simulates δ post p a) (ha : P [] a)
    (h : Trace (fun p l p' => guard p l ∧ Step spawnable exec prog p l p') p tr p')
    : ∃ a', Simulates δ post p' a' ∧ P tr a' := by
  induction h with
  | refl => exact ⟨a, hsim, ha⟩
  | tail _ hs ih =>
    obtain ⟨a, hsim, ha⟩ := ih
    obtain ⟨hguard, hs⟩ := hs
    obtain ⟨a', ha', hsim'⟩ := hsim.step hconf hs
    exact ⟨a', hsim', hstep _ _ a _ a' hsim hguard ha ha'⟩

theorem trace_stop {guard : Pool τ (Prog ι ρ α) W → Label τ ι → Prop} {run : (i : ι) → W → ρ i × W}
    (hrun : ∀ i w, exec i w (run i w).1 (run i w).2) (t : τ) (hguard : ∀ p i, guard p (.perform t i))
    (n : Nat) (p : Prog ι ρ α) (w : W) (ts₁ ts₂ : List (τ × Prog ι ρ α))
    : ∃ tr, tr.map Prod.snd = ((p.ops run n w).map (Label.perform t))
        ∧ Trace (fun p l p' => guard p l ∧ Step spawnable exec prog p l p')
            ⟨w, ts₁ ++ (t, p) :: ts₂⟩ tr ⟨(p.stop run n w).2, ts₁ ++ (t, (p.stop run n w).1) :: ts₂⟩ := by
  induction n generalizing p w with
  | zero => exact ⟨[], rfl, .refl _⟩
  | succ n ih =>
    cases p with
    | pure a => exact ⟨[], rfl, .refl _⟩
    | op i k =>
      obtain ⟨tr, hlabels, htr⟩ := ih (k (run i w).1) (run i w).2
      refine ⟨(⟨w, ts₁ ++ (t, .op i k) :: ts₂⟩, .perform t i) :: tr, ?_, ?_⟩
      . rw [List.map_cons, hlabels]
        rfl
      . exact .head ⟨hguard _ i, .perform t i k _ (hrun i w)⟩ htr

end Trace

end Pool
