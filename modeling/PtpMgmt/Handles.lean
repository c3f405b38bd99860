import PtpMgmt.Runs
import Mathlib.Algebra.Order.Ring.Int
import Mathlib.Data.List.Count

set_option autoImplicit false

/-! # Handles

A program gets handles from a system, uses them and gives them back. The uses are in order when it opens no
handle twice, and uses and closes only handles that are open. A part of a program that holds at most one
handle moves from what it holds to what it holds behind it, and such moves go one behind the other. -/

namespace Handles

/-- What a program does with a handle. -/
inductive Use (η : Type)
  | opened (h : η)
  | used (h : η)
  | closed (h : η)

variable {η : Type} [DecidableEq η]

/-- The handles that are open behind a use, if the use is in order. -/
def step (held : List η) : Use η → Option (List η)
  | .opened h => if h ∈ held then none else some (h :: held)
  | .used h => if h ∈ held then some held else none
  | .closed h => if h ∈ held then some (held.erase h) else none

/-- How often a use opens the handle. -/
def Use.opens (x : η) : Use η → Nat
  | .opened h => if h = x then 1 else 0
  | _ => 0

/-- How often a use closes the handle. -/
def Use.closes (x : η) : Use η → Nat
  | .closed h => if h = x then 1 else 0
  | _ => 0

theorem step_count {held held' : List η} {u : Use η} (h : step held u = some held') (x : η) :
    held'.count x + u.closes x = held.count x + u.opens x := by
  cases u with
  | opened y =>
      obtain ⟨-, rfl⟩ : y ∉ held ∧ y :: held = held' := by simpa [step] using h
      simp [List.count_cons, Use.closes, Use.opens]
  | used y =>
      obtain ⟨-, rfl⟩ : y ∈ held ∧ held = held' := by simpa [step] using h
      rfl
  | closed y =>
      obtain ⟨hmem, rfl⟩ : y ∈ held ∧ held.erase y = held' := by simpa [step] using h
      by_cases hxy : y = x
      · subst hxy
        have hpos := List.count_pos_iff.2 hmem
        simp only [List.count_erase_self, Use.closes, Use.opens, if_true]
        omega
      · simp [Use.closes, Use.opens, hxy, List.count_erase_of_ne (Ne.symm hxy)]

/-- Uses that are in order open a handle as often as they close it, but for the handles that are open in
    front of them and behind them. -/
theorem run_count {held held' : List η} {uses : List (Use η)}
    (h : Runs.run step held uses = some held') (x : η) :
    held'.count x + (uses.map (Use.closes x)).sum = held.count x + (uses.map (Use.opens x)).sum := by
  induction uses generalizing held with
  | nil =>
      cases h
      rfl
  | cons u uses ih =>
      obtain ⟨held₁, hone, hrest⟩ := Runs.run_cons.1 h
      have hfirst := step_count hone x
      have hlater := ih hrest
      simp only [List.map_cons, List.sum_cons]
      omega

/-- The uses are in order and lead from one handle, or none, to another. -/
def Moves (a : Option η) (uses : List (Use η)) (b : Option η) : Prop :=
  Runs.run step a.toList uses = some b.toList

namespace Moves

variable {a b c : Option η} {h : η} {us vs : List (Use η)}

theorem nil (a : Option η) : Moves a [] a := rfl

theorem append (h : Moves a us b) (k : Moves b vs c) : Moves a (us ++ vs) c := by
  rw [Moves, Runs.run_append, show Runs.run step a.toList us = _ from h]
  exact k

theorem opened (h : η) : Moves none [.opened h] (some h) := by
  simp [Moves, Runs.run, step]

theorem used (h : η) : Moves (some h) [.used h] (some h) := by
  simp [Moves, Runs.run, step]

theorem closed (h : η) : Moves (some h) [.closed h] none := by
  simp [Moves, Runs.run, step]

/-- Uses of the one handle that is held. -/
theorem of_used (hus : ∀ u ∈ us, u = .used h) : Moves (some h) us (some h) := by
  induction us with
  | nil => exact nil _
  | cons u us ih =>
      obtain rfl := hus u (List.mem_cons_self ..)
      exact (used h).append (ih fun v hv => hus v (List.mem_cons_of_mem _ hv))

/-- Behind moves from none to none every handle was closed as often as it was opened. -/
theorem balanced (h : Moves none us none) (x : η) :
    (us.map (Use.closes x)).sum = (us.map (Use.opens x)).sum := by
  simpa using run_count h x

end Moves

end Handles
