import PtpMgmt.Wire.RoundTrip

set_option autoImplicit false

/-! # Errors that a codec leaves

`Advances` carries that a fault stays a fault. Where a caller tells faults apart it needs more: that a
codec which starts on an error with a property `P` ends on one. -/

namespace Wire

open Codec

variable {ε α β : Type} [Faults ε] {P : ε → Prop}

/-- From an error with `P`, whatever is walked over, `c` leaves an error with `P`. -/
class ErrIn (P : ε → Prop) (c : Codec ε α) : Prop where
  err : ∀ s : Cursor ε, P s.err → P (c.run s).2.err

namespace ErrIn

/-- A codec that sets no error. -/
theorem of_err_eq {c : Codec ε α} (h : ∀ s, (c.run s).2.err = s.err) : ErrIn P c :=
  ⟨fun s hs => by rwa [h]⟩

instance pure (a : α) : ErrIn P (Pure.pure a : Codec ε α) := of_err_eq fun _ => rfl

instance isBuild : ErrIn P (Codec.isBuild : Codec ε Bool) := of_err_eq fun _ => rfl

instance getLeft : ErrIn P (Codec.getLeft : Codec ε Int) := of_err_eq fun _ => rfl

instance need (n : Nat) : ErrIn P (Codec.need n : Codec ε Unit) :=
  of_err_eq fun s => by by_cases h : s.left < n <;> simp [Codec.need, h]

instance fail : ErrIn P (Codec.fail : Codec ε α) := of_err_eq fun _ => rfl

theorem failWith {e : ε} (he : IsFault e) (h : P e) : ErrIn P (Codec.failWith e he : Codec ε α) :=
  ⟨fun _ _ => h⟩

instance xfer (len : Nat) (src : List UInt8) : ErrIn P (Codec.xfer len src : Codec ε _) :=
  of_err_eq fun s => by
    by_cases hroom : s.left < len
    · rw [run_xfer_short hroom]
    · have hle : (len : Int) ≤ s.left := Int.not_lt.1 hroom
      cases hb : s.build with
      | true =>
          rw [run_xfer_build hb hle]
          rfl
      | false =>
          rw [run_xfer_parse hb hle]
          rfl

instance bind (c : Codec ε α) (k : α → Codec ε β) [hc : ErrIn P c] [hk : ∀ a, ErrIn P (k a)] :
    ErrIn P (c >>= k) where
  err s hs := by
    have hfirst := hc.err s hs
    rw [run_bind]
    split
    · next a s' he =>
        rw [he] at hfirst
        exact (hk a).err s' hfirst
    · next s' he =>
        rw [he] at hfirst
        exact hfirst

instance ite (p : Prop) [Decidable p] (c d : Codec ε α) [ErrIn P c] [ErrIn P d] :
    ErrIn P (if p then c else d) := by
  split <;> assumption

instance field (len : Nat) (enc : α → List UInt8) (dec : List UInt8 → α) (v : α) :
    ErrIn P (Codec.field len enc dec v : Codec ε α) :=
  inferInstanceAs (ErrIn P (Codec.xfer len (enc v) >>= _))

instance each (p : α → Codec ε α) (l : List α) [h : ∀ a, ErrIn P (p a)] :
    ErrIn P (Codec.each p l) := by
  induction l with
  | nil => exact pure []
  | cons a rest ih =>
      exact inferInstanceAs (ErrIn P (p a >>= fun a => Codec.each p rest >>= fun rest =>
        Pure.pure (a :: rest)))

instance times (c : Codec ε α) (n : Nat) [ErrIn P c] : ErrIn P (Codec.times c n) := by
  induction n with
  | zero => exact pure []
  | succ n ih =>
      exact inferInstanceAs (ErrIn P (c >>= fun a => Codec.times c n >>= fun rest =>
        Pure.pure (a :: rest)))

theorem whileRun {size : Nat} {c : Codec ε α} [hc : ErrIn P c] (fuel : Nat) :
    ∀ s : Cursor ε, P s.err → P (Codec.whileRun size c fuel s).2.err := by
  induction fuel with
  | zero =>
      intro s hs
      rw [Codec.whileRun]
      split <;> exact hs
  | succ fuel ih =>
      intro s hs
      have hfirst := hc.err s hs
      rw [Codec.whileRun]
      split
      · exact hs
      · split
        · next s' he =>
            rw [he] at hfirst
            exact hfirst
        · next a s' he =>
            rw [he] at hfirst
            have hrest := ih s' hfirst
            split
            · next he' =>
                rw [he'] at hrest
                exact hrest
            · next he' =>
                rw [he'] at hrest
                exact hrest

instance whileLeft (size : Nat) (hsize : 0 < size) (c : Codec ε α) [Consumes c] [ErrIn P c] :
    ErrIn P (Codec.whileLeft size hsize c) where
  err s hs := whileRun _ s hs

end ErrIn

end Wire
