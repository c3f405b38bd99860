import PtpMgmt.Json.FromJson

set_option autoImplicit false

/-! # The steps of a `JS` function

The steps for a TLV set different fields: what a step has set is what the finished TLV holds there. The flags
of a TLV share one field, where each step has its own bits. -/

namespace PtpMgmt.Json

section Steps

variable {T : Type}

/-- Two TLVs agree in the field of a step, flags apart. -/
def Step.Same (d d' : T) : Step T → Prop
  | .zeroFlag _ => True
  | .proc _ (.flag _) _ _ => True
  | .proc _ _ get _ => get d' = get d

/-- The field of the one step is not changed by the other step. -/
def Step.Keeps (s : Step T) : Step T → Prop
  | .zeroFlag set => ∀ d v, s.Same d (set d v)
  | .proc _ _ _ set => ∀ d v, s.Same d (set d v)

def Step.Apart (s s' : Step T) : Prop := s.Keeps s' ∧ s'.Keeps s

/-- What a step sets is what it finds. -/
def Step.Own : Step T → Prop
  | .zeroFlag _ => True
  | .proc _ _ get set => ∀ d v, get (set d v) = v

theorem Step.Same.trans {s : Step T} {d d₁ d₂ : T} (h : s.Same d d₁) (h' : s.Same d₁ d₂) : s.Same d d₂ := by
  cases s with
  | zeroFlag set => trivial
  | proc name type get set =>
      cases type with
      | flag mask => trivial
      | _ => exact Eq.trans h' h

end Steps

/-- **The steps for an id set different fields.** -/
theorem procSteps_apart (id : MngId) : (procSteps id).Pairwise Step.Apart := by
  cases id <;>
    repeat' first
      | exact List.Pairwise.nil
      | refine List.Pairwise.cons ?_ ?_
      | exact List.forall_mem_nil _
      | refine List.forall_mem_cons.2 ⟨⟨?_, ?_⟩, ?_⟩
      | exact fun _ _ => rfl
      | exact fun _ _ => trivial
      | exact fun _ _ => List.Vector.get_set_of_ne (by decide) _

theorem procSteps_own (id : MngId) : ∀ s ∈ procSteps id, s.Own := by
  cases id <;>
    repeat' first
      | exact List.forall_mem_nil _
      | refine List.forall_mem_cons.2 ⟨?_, ?_⟩
      | exact fun _ _ => rfl
      | exact trivial
      | exact fun _ _ => List.Vector.get_set_same _ _ _

namespace JsonProcFrom

variable {T : Type} {floatTime : Text → Option Timestamp} {mem : NewMem} {obj : Members}

theorem procStep_same {s s' : Step T} {d d' : T} (hkeeps : s.Keeps s')
    (h : procStep floatTime mem obj d s' = some d') : s.Same d d' := by
  cases s' with
  | zeroFlag set =>
      cases h
      exact hkeeps d 0
  | proc name type get set =>
      obtain ⟨v, -, rfl⟩ := Option.map_eq_some_iff.1 h
      exact hkeeps d v

/-- **A field stays as it is while other fields are read.** -/
theorem runSteps_same {s : Step T} {steps : List (Step T)} {d d' : T} (hkeeps : ∀ s' ∈ steps, s.Keeps s')
    (h : runSteps floatTime mem obj d steps = some d') : s.Same d d' := by
  induction steps generalizing d with
  | nil =>
      cases h
      cases s with
      | zeroFlag set => trivial
      | proc name type get set => cases type <;> trivial
  | cons s' rest ih =>
      obtain ⟨d₁, hstep, hrest⟩ := Option.bind_eq_some_iff.1 h
      obtain ⟨hhead, htail⟩ := List.forall_mem_cons.1 hkeeps
      exact (procStep_same hhead hstep).trans (ih htail hrest)

end JsonProcFrom

end PtpMgmt.Json
