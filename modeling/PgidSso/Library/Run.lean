import PgidSso.Library.Checked

/-! Runs of a checked transition, and the invariants that relate a state to the
outputs before it. -/

open checked

namespace run

variable {ε σ ι ο : Type}

/-- The outputs of the transition on a list of inputs, oldest first, and the last state. -/
def outputs (step : σ → ι → Except ε (ο × σ)) : σ → List ι → Except ε (List ο × σ)
  | state, [] => .ok ([], state)
  | state, input :: inputs => do
    let (output, next) ← step state input
    let (rest, last) ← outputs step next inputs
    return (output :: rest, last)

/-- Every element of a list fits the elements before it. -/
def Fitting (Fits : List ι → ι → Prop) (past inputs : List ι) : Prop :=
  ∀ before input after, inputs = before ++ input :: after → Fits (past ++ before) input

theorem Fitting.head {Fits : List ι → ι → Prop} {past inputs : List ι} {input : ι}
    (hfitting : Fitting Fits past (input :: inputs)) : Fits past input := by
  simpa using hfitting [] input inputs rfl

theorem Fitting.tail {Fits : List ι → ι → Prop} {past inputs : List ι} {input : ι}
    (hfitting : Fitting Fits past (input :: inputs)) : Fitting Fits (past ++ [input]) inputs := by
  rintro before next after rfl
  simpa using hfitting (input :: before) next after rfl

section invariant

variable {step : σ → ι → Except ε (ο × σ)} {origin : ο → ι}
  {Inv : List ο → σ → Prop} {Fits : List ι → ι → Prop} {P : List ο → ο → Prop}

/-- A property that each step establishes from an invariant of the history holds of
every output of a run, seen from the outputs before it. -/
theorem outputs_invariant
    (horigin : ∀ {state input output next}, step state input = .ok (output, next) →
      origin output = input)
    (hstep : ∀ {past state input output next}, Inv past state → Fits (past.map origin) input →
      step state input = .ok (output, next) → P past output ∧ Inv (past ++ [output]) next) :
    ∀ {inputs past state outs last}, Inv past state → Fitting Fits (past.map origin) inputs →
      outputs step state inputs = .ok (outs, last) →
        Inv (past ++ outs) last ∧
          ∀ before output after, outs = before ++ output :: after → P (past ++ before) output
  | [], past, state, outs, last, hinv, _, hrun => by
    simp only [outputs, Except.ok.injEq, Prod.mk.injEq] at hrun
    obtain ⟨rfl, rfl⟩ := hrun
    exact ⟨by simpa using hinv, by simp⟩
  | input :: inputs, past, state, outs, last, hinv, hfits, hrun => by
    simp only [outputs, bind_eq_ok_iff, Prod.exists, pure_eq_ok_iff, Prod.mk.injEq] at hrun
    obtain ⟨output, next, hfirst, rest, last', hrest, rfl, rfl⟩ := hrun
    obtain ⟨hproperty, hnext⟩ := hstep hinv hfits.head hfirst
    have hmap : (past ++ [output]).map origin = past.map origin ++ [input] := by
      simp [horigin hfirst]
    obtain ⟨hlast, hrestProperty⟩ :=
      outputs_invariant horigin hstep hnext (hmap ▸ hfits.tail) hrest
    refine ⟨by simpa using hlast, ?_⟩
    intro before found after hsplit
    cases before with
    | nil =>
      simp only [List.nil_append, List.cons.injEq] at hsplit
      obtain ⟨rfl, -⟩ := hsplit
      simpa using hproperty
    | cons first before =>
      simp only [List.cons_append, List.cons.injEq] at hsplit
      obtain ⟨rfl, hsplit⟩ := hsplit
      simpa using hrestProperty before found after hsplit

/-- A run returns when each step does under the invariant. -/
theorem outputs_returns
    (horigin : ∀ {state input output next}, step state input = .ok (output, next) →
      origin output = input)
    (hstep : ∀ {past state input}, Inv past state → Fits (past.map origin) input →
      ∃ output next, step state input = .ok (output, next) ∧ Inv (past ++ [output]) next) :
    ∀ {inputs past state}, Inv past state → Fitting Fits (past.map origin) inputs →
      ∃ outs last, outputs step state inputs = .ok (outs, last) ∧ outs.map origin = inputs
  | [], past, state, _, _ => ⟨[], state, rfl, rfl⟩
  | input :: inputs, past, state, hinv, hfits => by
    obtain ⟨output, next, hfirst, hnext⟩ := hstep hinv hfits.head
    have hmap : (past ++ [output]).map origin = past.map origin ++ [input] := by
      simp [horigin hfirst]
    obtain ⟨rest, last, hrest, hinputs⟩ :=
      outputs_returns horigin hstep hnext (hmap ▸ hfits.tail)
    refine ⟨output :: rest, last, ?_, by simp [horigin hfirst, hinputs]⟩
    simp [outputs, hfirst, hrest, Bind.bind, Except.bind, Pure.pure, Except.pure]

end invariant

/-- A list whose elements are related pairwise fits the relation to everything before. -/
theorem fitting_of_pairwise {R : ι → ι → Prop} {Own : ι → Prop} {inputs : List ι}
    (hpairwise : inputs.Pairwise R) (hown : ∀ input ∈ inputs, Own input) :
    Fitting (fun past input => Own input ∧ ∀ earlier ∈ past, R earlier input) [] inputs := by
  rintro before input after rfl
  refine ⟨hown input (by simp), fun earlier hearlier => ?_⟩
  rw [List.nil_append] at hearlier
  exact (List.pairwise_append.mp hpairwise).2.2 earlier hearlier input List.mem_cons_self

end run
