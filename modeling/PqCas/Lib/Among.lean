import PqCas.Lib.Prog

/-!
This module contains runs of one program in a world that others change too.
-/

namespace Prog

variable {ι : Type} {ρ : ι → Type} {α W σ : Type}

section

variable (exec : (i : ι) → W → ρ i → W → Prop) (rely : W → W → Prop)

/--
The program performs the operations of the list, with the replies they got. In between others make
steps of `rely`.
-/
inductive Among : Prog ι ρ α → W → List ((i : ι) × ρ i) → Prog ι ρ α → W → Prop where
  | refl {p : Prog ι ρ α} {w : W} : Among p w [] p w
  | others {p p' : Prog ι ρ α} {w w' w'' : W} {tr : List ((i : ι) × ρ i)} (h : rely w w')
      (htail : Among p w' tr p' w'') : Among p w tr p' w''
  | perform {i : ι} {k : ρ i → Prog ι ρ α} {r : ρ i} {p' : Prog ι ρ α} {w w' w'' : W}
      {tr : List ((i : ι) × ρ i)} (h : exec i w r w') (htail : Among (k r) w' tr p' w'')
    : Among (.op i k) w (⟨i, r⟩ :: tr) p' w''

end

variable {exec : (i : ι) → W → ρ i → W → Prop} {rely : W → W → Prop}

theorem among_run {run : (i : ι) → W → ρ i × W} (hrun : ∀ i w, exec i w (run i w).1 (run i w).2)
    (p : Prog ι ρ α) (w : W)
    : Among exec rely p w (p.trace run w) (.pure (p.run run w).1) (p.run run w).2 := by
  induction p generalizing w with
  | pure a => exact .refl
  | op i k ih => exact .perform (hrun i w) (ih _ _)

variable {δ : σ → (i : ι) → ρ i → σ → Prop} {post : α → σ → Prop}

/--
What the program and the others keep holds all along, next to a phase that the rest of the program
conforms to. It may speak about the operations performed so far.
-/
theorem Conforms.among {I : List ((i : ι) × ρ i) → σ → W → Prop} {p p' : Prog ι ρ α} {w w' : W}
    {tr tr₀ : List ((i : ι) × ρ i)} {s : σ} (h : Among exec rely p w tr p' w')
    (hp : p.Conforms δ post s) (hI : I tr₀ s w)
    (hrely : ∀ tr s w w', I tr s w → rely w w' → I tr s w')
    (hstep : ∀ tr s i w r s' w', I tr s w → δ s i r s' → exec i w r w' → I (tr ++ [⟨i, r⟩]) s' w')
    : ∃ s', p'.Conforms δ post s' ∧ I (tr₀ ++ tr) s' w' := by
  induction h generalizing tr₀ s with
  | refl => exact ⟨s, hp, by simpa using hI⟩
  | others h _ ih => exact ih hp (hrely _ _ _ _ hI h)
  | @perform i k r p' w w' w'' tr h _ ih =>
    obtain ⟨s', hs', hk⟩ := hp r
    have hend := ih hk (hstep _ _ _ _ _ _ _ hI hs' h)
    rwa [List.append_assoc, List.singleton_append] at hend

end Prog
