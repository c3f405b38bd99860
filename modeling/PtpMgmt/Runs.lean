import Mathlib.Data.List.Induction
import Mathlib.Tactic.Common

set_option autoImplicit false

/-! # Runs of a transition system

A system is a partial step: what an event makes of a state, or nothing when it cannot happen there. A run
takes one event after the other. Invariants carry over from the steps to the runs, also those that speak of
the events up to there; and a property that a step may break is kept by exactly the runs whose steps meet
the condition under which it does not. -/

namespace Runs

variable {σ ε : Type} (step : σ → ε → Option σ)

/-- One event after the other, as long as each can happen. -/
def run (s : σ) : List ε → Option σ
  | [] => some s
  | e :: es => (step s e).bind fun s' => run s' es

/-- Every state that the run comes through has the property. -/
def Throughout (P : σ → Prop) (s : σ) : List ε → Prop
  | [] => P s
  | e :: es => P s ∧ ∀ s', step s e = some s' → Throughout P s' es

/-- Every step of the run meets the condition. -/
def Along (G : σ → ε → Prop) (s : σ) : List ε → Prop
  | [] => True
  | e :: es => ∀ s', step s e = some s' → G s e ∧ Along G s' es

variable {step}

theorem run_cons {s s' : σ} {e : ε} {es : List ε} :
    run step s (e :: es) = some s' ↔ ∃ s₁, step s e = some s₁ ∧ run step s₁ es = some s' := by
  rw [run, Option.bind_eq_some_iff]

theorem run_append (s : σ) (es es' : List ε) :
    run step s (es ++ es') = (run step s es).bind fun s' => run step s' es' := by
  induction es generalizing s with
  | nil => rfl
  | cons e es ih =>
      rw [List.cons_append, run, run, Option.bind_assoc]
      simp only [ih]

theorem run_snoc {s s' : σ} {es : List ε} {e : ε} :
    run step s (es ++ [e]) = some s' ↔ ∃ s₁, run step s es = some s₁ ∧ step s₁ e = some s' := by
  have hone : ∀ s₁, run step s₁ [e] = step s₁ e := fun s₁ => Option.bind_fun_some (step s₁ e)
  rw [run_append, Option.bind_eq_some_iff]
  simp only [hone]

/-- What the first state has and every step keeps, the last state has. -/
theorem run_invariant {I : σ → Prop} (hstep : ∀ s e s', I s → step s e = some s' → I s') {s s' : σ}
    {es : List ε} (hs : I s) (hrun : run step s es = some s') : I s' := by
  induction es generalizing s with
  | nil =>
      cases hrun
      exact hs
  | cons e es ih =>
      obtain ⟨s₁, hone, hrest⟩ := run_cons.1 hrun
      exact ih (hstep s e s₁ hs hone) hrest

/-- The same for an invariant that speaks of the events up to the state. -/
theorem run_history {I : List ε → σ → Prop} {s : σ} (hs : I [] s)
    (hstep : ∀ es s₁ e s', I es s₁ → step s₁ e = some s' → I (es ++ [e]) s') {s' : σ} {es : List ε}
    (hrun : run step s es = some s') : I es s' := by
  induction es using List.reverseRecOn generalizing s' with
  | nil =>
      cases hrun
      exact hs
  | append_singleton es e ih =>
      obtain ⟨s₁, hpart, hone⟩ := run_snoc.1 hrun
      exact hstep es s₁ e s' (ih hpart) hone

theorem Throughout.first {P : σ → Prop} {s : σ} {es : List ε} (h : Throughout step P s es) : P s := by
  cases es with
  | nil => exact h
  | cons e es => exact h.1

theorem Throughout.last {P : σ → Prop} {s s' : σ} {es : List ε} (h : Throughout step P s es)
    (hrun : run step s es = some s') : P s' := by
  induction es generalizing s with
  | nil =>
      cases hrun
      exact h
  | cons e es ih =>
      obtain ⟨s₁, hone, hrest⟩ := run_cons.1 hrun
      exact ih (h.2 s₁ hone) hrest

theorem Along.cons {G : σ → ε → Prop} {s s' : σ} {e : ε} {es : List ε} (hG : G s e)
    (hstep : step s e = some s') (hrest : Along step G s' es) : Along step G s (e :: es) := by
  intro s₁ hstep'
  rw [hstep] at hstep'
  cases hstep'
  exact ⟨hG, hrest⟩

/-- **A property holds throughout a run exactly when every step meets the condition**, where the condition
    is that of one step: under the invariant, what has the property keeps it if and only if the step meets
    it. -/
theorem throughout_iff_along {I P : σ → Prop} {G : σ → ε → Prop}
    (hkeeps : ∀ s e s', I s → step s e = some s' → I s')
    (hstep : ∀ s e s', I s → P s → step s e = some s' → (P s' ↔ G s e)) {s : σ} (hs : I s) (hP : P s)
    (es : List ε) : Throughout step P s es ↔ Along step G s es := by
  induction es generalizing s with
  | nil => exact iff_of_true hP trivial
  | cons e es ih =>
      constructor
      · rintro ⟨-, hrest⟩ s' hone
        have hP' := (hrest s' hone).first
        exact ⟨(hstep s e s' hs hP hone).1 hP', (ih (hkeeps s e s' hs hone) hP').1 (hrest s' hone)⟩
      · intro halong
        refine ⟨hP, fun s' hone => ?_⟩
        obtain ⟨hG, hrest⟩ := halong s' hone
        exact (ih (hkeeps s e s' hs hone) ((hstep s e s' hs hP hone).2 hG)).2 hrest

end Runs

/-! # Lists that tell another list in its order

A list repeats another one when it tells each of its values some number of times, perhaps never, in the
order of that list. So nothing is told that is not there, and nothing older behind something newer. -/

/-- Each value of `l` so many times, in the order of `l`. -/
def Repeats {α : Type} (t l : List α) : Prop :=
  ∃ ns : List ℕ, ns.length = l.length ∧ t = (List.zipWith List.replicate ns l).flatten

namespace Repeats

variable {α : Type} {t l : List α} {x : α}

theorem nil : Repeats ([] : List α) [] := ⟨[], rfl, rfl⟩

theorem zipWith_snoc {ns : List ℕ} (hlen : ns.length = l.length) (n : ℕ) (x : α) :
    (List.zipWith List.replicate (ns ++ [n]) (l ++ [x])).flatten =
      (List.zipWith List.replicate ns l).flatten ++ List.replicate n x := by
  rw [List.zipWith_append hlen, List.flatten_append]
  simp

/-- A value more is told never, so far. -/
theorem snoc (h : Repeats t l) (x : α) : Repeats t (l ++ [x]) := by
  obtain ⟨ns, hlen, rfl⟩ := h
  refine ⟨ns ++ [0], by simp [hlen], ?_⟩
  rw [zipWith_snoc hlen]
  simp

/-- The last value is told once more. -/
theorem tell (h : Repeats t (l ++ [x])) : Repeats (t ++ [x]) (l ++ [x]) := by
  obtain ⟨ns, hlen, rfl⟩ := h
  obtain ⟨ms, n, rfl⟩ : ∃ ms n, ns = ms ++ [n] := by
    rcases List.eq_nil_or_concat ns with rfl | ⟨ms, n, rfl⟩
    · simp at hlen
    · exact ⟨ms, n, List.concat_eq_append⟩
  have hms : ms.length = l.length := by simpa using hlen
  refine ⟨ms ++ [n + 1], by simp [hms], ?_⟩
  rw [zipWith_snoc hms, zipWith_snoc hms, List.append_assoc, ← List.replicate_succ']

end Repeats
