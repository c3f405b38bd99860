import Mathlib.Data.List.DropRight

set_option autoImplicit false

/-! # Scanning a buffer

A position is searched for in a buffer from another one on, forwards or backwards, and one element is
written. None of this leaves the buffer: what would leave it gives nothing. -/

namespace Scan

variable {α : Type*}

/-- The first position from `cur` on with an element that satisfies `p`. -/
def forward (p : α → Bool) (buf : List α) (cur : Nat) : Option Nat :=
  ((buf.drop cur).findIdx? p).map fun n => cur + n

/-- The last position before `fin` with an element that satisfies `p`. -/
def backward (p : α → Bool) (buf : List α) (fin : Nat) : Option Nat :=
  ((buf.take fin).reverse.findIdx? p).map fun n => fin - 1 - n

def store (buf : List α) (pos : Nat) (x : α) : Option (List α) :=
  if pos < buf.length then some (buf.set pos x) else none

theorem findIdx?_append_cons {p : α → Bool} {l : List α} (hl : ∀ x ∈ l, p x = false) {c : α}
    (hc : p c = true) (r : List α) : (l ++ c :: r).findIdx? p = some l.length := by
  induction l with
  | nil => rw [List.nil_append, List.findIdx?_cons, if_pos hc]; rfl
  | cons x l ih =>
    have hx : ¬ p x = true := by
      rw [hl x List.mem_cons_self]
      exact Bool.false_ne_true
    rw [List.cons_append, List.findIdx?_cons, if_neg hx, ih fun y hy => hl y (List.mem_cons_of_mem _ hy)]
    rfl

theorem forward_append {p : α → Bool} {l : List α} (hl : ∀ x ∈ l, p x = false) {c : α} (hc : p c = true)
    (pre r : List α) : forward p (pre ++ (l ++ c :: r)) pre.length = some (pre.length + l.length) := by
  unfold forward
  rw [List.drop_left, findIdx?_append_cons hl hc]
  rfl

theorem forward_eq_none_iff {p : α → Bool} (pre l : List α) :
    forward p (pre ++ l) pre.length = none ↔ ∀ x ∈ l, p x = false := by
  unfold forward
  rw [List.drop_left, Option.map_eq_none_iff, List.findIdx?_eq_none_iff]

theorem backward_append {p : α → Bool} {l : List α} (hl : ∀ x ∈ l, p x = false) {c : α} (hc : p c = true)
    (pre r : List α) {fin : Nat} (hfin : fin = pre.length + 1 + l.length) :
    backward p (pre ++ c :: (l ++ r)) fin = some pre.length := by
  have htake : (pre ++ c :: (l ++ r)).take fin = pre ++ c :: l := by
    rw [show pre ++ c :: (l ++ r) = (pre ++ c :: l) ++ r by simp]
    refine List.take_left' ?_
    rw [List.length_append, List.length_cons]
    omega
  have hrev : (pre ++ c :: l).reverse = l.reverse ++ c :: pre.reverse := by simp
  unfold backward
  rw [htake, hrev, findIdx?_append_cons (fun x hx => hl x (List.mem_reverse.1 hx)) hc, Option.map_some,
    List.length_reverse]
  congr 1
  omega

theorem store_append (pre r : List α) (c x : α) :
    store (pre ++ c :: r) pre.length x = some (pre ++ x :: r) := by
  unfold store
  rw [if_pos (by simp), List.set_append_right _ _ (Nat.le_refl _), Nat.sub_self, List.set_cons_zero]

/-- A list is cut in front of the first element that satisfies `p`. -/
theorem exists_cut {p : α → Bool} {l : List α} (h : ∃ x ∈ l, p x = true) :
    ∃ a c r, l = a ++ c :: r ∧ (∀ x ∈ a, p x = false) ∧ p c = true := by
  induction l with
  | nil =>
    obtain ⟨x, hx, -⟩ := h
    cases hx
  | cons y l ih =>
    cases hy : p y with
    | true => exact ⟨[], y, l, rfl, nofun, hy⟩
    | false =>
      obtain ⟨x, hx, hpx⟩ := h
      have hl : ∃ x ∈ l, p x = true := by
        obtain rfl | hx := List.mem_cons.1 hx
        · rw [hy] at hpx
          cases hpx
        · exact ⟨x, hx, hpx⟩
      obtain ⟨a, c, r, rfl, ha, hc⟩ := ih hl
      refine ⟨y :: a, c, r, rfl, ?_, hc⟩
      intro x hx
      obtain rfl | hx := List.mem_cons.1 hx
      · exact hy
      · exact ha x hx

theorem takeWhile_append_cons {p : α → Bool} {l : List α} (hl : ∀ x ∈ l, p x = true) {c : α}
    (hc : p c = false) (r : List α) : (l ++ c :: r).takeWhile p = l := by
  rw [List.takeWhile_append_of_pos hl, List.takeWhile_cons_of_neg (by rw [hc]; exact Bool.false_ne_true),
    List.append_nil]

theorem dropWhile_append_cons {p : α → Bool} {l : List α} (hl : ∀ x ∈ l, p x = true) {c : α}
    (hc : p c = false) (r : List α) : (l ++ c :: r).dropWhile p = c :: r := by
  rw [List.dropWhile_append_of_pos hl, List.dropWhile_cons_of_neg (by rw [hc]; exact Bool.false_ne_true)]

/-- What is left at the end is empty, or its last element does not satisfy `p`. -/
theorem exists_strip (p : α → Bool) (l : List α) :
    ∃ s, l = l.rdropWhile p ++ s ∧ (∀ x ∈ s, p x = true) ∧
      (l.rdropWhile p = [] ∨ ∃ b c, l.rdropWhile p = b ++ [c] ∧ p c = false) := by
  refine ⟨l.rtakeWhile p, List.rdropWhile_append_rtakeWhile.symm, fun x hx => List.mem_rtakeWhile_imp hx, ?_⟩
  by_cases hnil : l.rdropWhile p = []
  · exact .inl hnil
  · refine .inr ⟨(l.rdropWhile p).dropLast, (l.rdropWhile p).getLast hnil,
      (List.dropLast_append_getLast hnil).symm, ?_⟩
    exact Bool.eq_false_iff.2 (List.rdropWhile_last_not p l hnil)

end Scan
