import PtpMgmt.Wire.RoundTrip

set_option autoImplicit false

/-! # Where cursor codecs write

The write side of staying inside the buffer. Unlike the facts `Advances` carries it does not hold of
every codec: `Codec.xfer` copies more than was checked when the two disagree.

`InBounds` is for the codecs where they agree. For the others `Spans n w c` keeps the octets a codec
passes apart from the octets it writes, and `StaysIff P c` says how many octets must be left for the
whole walk to stay inside. -/

namespace Wire

open Codec

variable {ε α β : Type} [Faults ε]

/-! ## Codecs that stay inside -/

/-- In build mode `c` writes only into the octets that were left. -/
class InBounds (c : Codec ε α) : Prop where
  writes : ∀ s : Cursor ε, s.build = true → ∃ ws, (c.run s).2.writes = s.writes ++ ws ∧
    ∀ o ∈ ws, s.cur ≤ o ∧ (o : Int) < s.cur + s.left

namespace InBounds

/-- A codec that leaves the log alone writes nothing. -/
theorem of_writes_eq {c : Codec ε α} (h : ∀ s, (c.run s).2.writes = s.writes) : InBounds c :=
  ⟨fun s _ => ⟨[], by rw [h, List.append_nil], by simp⟩⟩

instance pure (a : α) : InBounds (Pure.pure a : Codec ε α) := of_writes_eq fun _ => rfl

instance isBuild : InBounds (Codec.isBuild : Codec ε Bool) := of_writes_eq fun _ => rfl

instance getLeft : InBounds (Codec.getLeft : Codec ε Int) := of_writes_eq fun _ => rfl

instance need (n : Nat) : InBounds (Codec.need n : Codec ε Unit) :=
  of_writes_eq fun s => by by_cases h : s.left < n <;> simp [Codec.need, h]

instance fail : InBounds (Codec.fail : Codec ε α) := of_writes_eq fun _ => rfl

instance failWith (e : ε) (he : IsFault e) : InBounds (Codec.failWith e he : Codec ε α) := of_writes_eq fun _ => rfl

instance bind (c : Codec ε α) (k : α → Codec ε β) [hc : InBounds c] [hk : ∀ a, InBounds (k a)] :
    InBounds (c >>= k) where
  writes s hb := by
    obtain ⟨ws, hws, hw⟩ := hc.writes s hb
    have hadv := c.advances s
    rw [run_bind]
    split
    · next a s' he =>
        rw [he] at hws hadv
        obtain ⟨vs, hvs, hv⟩ := (hk a).writes s' (hadv.build_eq.trans hb)
        have hcur := hadv.cur_le
        have hleft := hadv.left_eq
        simp only at hws hcur hleft
        refine ⟨ws ++ vs, by rw [hvs, hws, List.append_assoc], fun o ho => ?_⟩
        rcases List.mem_append.1 ho with ho | ho
        · exact hw o ho
        · have := hv o ho
          omega
    · next s' he =>
        rw [he] at hws
        exact ⟨ws, hws, hw⟩

/-- Only the build side of a codec matters. -/
theorem isBuild_bind {k : Bool → Codec ε α} (h : InBounds (k true)) :
    InBounds (Codec.isBuild >>= k) where
  writes s hb := by
    rw [run_bind_some (run_isBuild s), hb]
    exact h.writes s hb

instance ite (p : Prop) [Decidable p] (c d : Codec ε α) [InBounds c] [InBounds d] :
    InBounds (if p then c else d) := by
  split <;> assumption

theorem xfer {len : Nat} {src : List UInt8} (h : src.length ≤ len) :
    InBounds (Codec.xfer len src : Codec ε _) where
  writes s hb := by
    by_cases hroom : s.left < len
    · rw [run_xfer_short hroom]
      exact ⟨[], by simp, by simp⟩
    · rw [run_xfer_build hb (Int.not_lt.1 hroom)]
      refine ⟨_, rfl, fun o ho => ?_⟩
      rw [List.mem_range'_1] at ho
      omega

theorem field {len : Nat} {enc : α → List UInt8} {dec : List UInt8 → α} {v : α}
    (h : (enc v).length ≤ len) : InBounds (Codec.field len enc dec v : Codec ε α) :=
  have := xfer (ε := ε) h
  inferInstanceAs (InBounds (Codec.xfer len (enc v) >>= _))

theorem each {p : α → Codec ε α} (l : List α) (h : ∀ a ∈ l, InBounds (p a)) :
    InBounds (Codec.each p l) := by
  induction l with
  | nil => exact pure []
  | cons a rest ih =>
      have ha := h a (List.mem_cons_self ..)
      have hrest := ih (fun b hb => h b (List.mem_cons_of_mem _ hb))
      exact inferInstanceAs (InBounds (p a >>= fun a => Codec.each p rest >>= fun rest =>
        Pure.pure (a :: rest)))

end InBounds

/-! ## Codecs that may not -/

/-- Everything written so far lies below the offset `e`. -/
def Cursor.Below (s : Cursor ε) (e : Int) : Prop :=
  ∀ o ∈ s.writes, (o : Int) < e

/-- Everything written so far lies below the end of the buffer. -/
def Cursor.Inside (s : Cursor ε) : Prop :=
  s.Below (s.cur + s.left)

omit [Faults ε] in
theorem Cursor.below_of_append {s s' : Cursor ε} {off n : Nat} {e : Int}
    (h : s'.writes = s.writes ++ List.range' off n) (hroom : (off + n : Int) ≤ e) :
    s'.Below e ↔ s.Below e := by
  simp only [Below, h]
  refine ⟨fun hin o ho => hin o (List.mem_append_left _ ho), fun hin o ho => ?_⟩
  rcases List.mem_append.1 ho with ho | ho
  · exact hin o ho
  · rw [List.mem_range'_1] at ho
    omega

/-- The end of the buffer and what was written stay during a walk. -/
theorem Advances.inside {s s' : Cursor ε} (h : Advances s s') (hin : s'.Inside) : s.Inside := by
  obtain ⟨ws, hws⟩ := h.writes
  have hend := h.left_eq
  intro o ho
  have hlt := hin o (by rw [hws]; exact List.mem_append_left _ ho)
  omega

theorem InBounds.inside {c : Codec ε α} (hc : InBounds c) {s : Cursor ε} (hb : s.build = true) :
    (c.run s).2.Inside ↔ s.Inside := by
  have hadv := c.advances s
  refine ⟨hadv.inside, fun hin o ho => ?_⟩
  obtain ⟨ws, hws, hw⟩ := hc.writes s hb
  have hend := hadv.left_eq
  rw [hws, List.mem_append] at ho
  rcases ho with ho | ho
  · have := hin o ho
    omega
  · have := hw o ho
    omega

/-- In build mode `c` passes `n` octets, when so many are left, and writes `w` octets from where it
    began. It fails otherwise and has written inside only. -/
def Spans (n w : Nat) (c : Codec ε α) : Prop :=
  ∀ s : Cursor ε, s.build = true → 0 ≤ s.left →
    (s.left < n → (c.run s).1 = none ∧ (s.Inside → (c.run s).2.Inside)) ∧
    (n ≤ s.left → ∃ a s', c.run s = (some a, s') ∧ s'.cur = s.cur + n ∧
      (s.Inside → (s'.Inside ↔ (w : Int) ≤ s.left)))

theorem Spans.of_builds {c : Codec ε α} {a : α} {w : List UInt8} (h : Builds c a w)
    [hc : InBounds c] : Spans w.length w.length c := by
  intro s hb hleft
  obtain ⟨hok, hshort⟩ := h s hb hleft
  refine ⟨fun hlt => ⟨(hshort hlt).1, (hc.inside hb).2⟩, fun hroom => ?_⟩
  refine ⟨a, s.emit w, hok hroom, rfl, fun hin => ?_⟩
  have hinside := (hc.inside hb).2 hin
  rw [hok hroom] at hinside
  exact ⟨fun _ => hroom, fun _ => hinside⟩

theorem Spans.xfer (len : Nat) (src : List UInt8) :
    Spans len src.length (Codec.xfer len src : Codec ε _) := by
  intro s hb hleft
  refine ⟨fun hlt => ?_, fun hroom => ⟨src, _, run_xfer_build hb hroom, rfl, fun hin => ?_⟩⟩
  · rw [run_xfer_short hlt]
    exact ⟨rfl, id⟩
  · have hend : ((s.put src).move len).cur + ((s.put src).move len).left = s.cur + s.left := by
      simp only [Cursor.put, Cursor.move]
      push_cast
      omega
    have hwrites : ((s.put src).move len).writes = s.writes ++ List.range' s.cur src.length := rfl
    rw [Cursor.Inside, hend, Cursor.Below, hwrites]
    constructor
    · intro h
      by_contra hlong
      have hlast := h (s.cur + (src.length - 1)) (List.mem_append_right _ (by
        rw [List.mem_range'_1]
        omega))
      omega
    · intro hle o ho
      rcases List.mem_append.1 ho with ho | ho
      · exact hin o ho
      · rw [List.mem_range'_1] at ho
        omega

theorem Spans.isBuild {n w : Nat} {k : Bool → Codec ε α} (h : Spans n w (k true)) :
    Spans n w (Codec.isBuild >>= k) := by
  intro s hb hleft
  rw [run_bind_some (run_isBuild s), hb]
  exact h s hb hleft

/-- What comes first has to stay inside. -/
theorem Spans.bind {n n' w : Nat} {c : Codec ε α} {k : α → Codec ε β} (hc : Spans n n c)
    (hk : ∀ a, Spans n' w (k a)) : Spans (n + n') (n + w) (c >>= k) := by
  intro s hb hleft
  obtain ⟨hshort, hroom⟩ := hc s hb hleft
  push_cast
  by_cases hn : (n : Int) ≤ s.left
  case neg =>
      obtain ⟨hnone, hin⟩ := hshort (Int.not_le.1 hn)
      rw [run_bind_none hnone]
      exact ⟨fun _ => ⟨rfl, hin⟩, fun h => absurd h (by omega)⟩
  case pos =>
      obtain ⟨a, s', hrun, hcur, hin⟩ := hroom hn
      have hadv := c.advances s
      rw [hrun] at hadv
      have hend := hadv.left_eq
      simp only at hend
      obtain ⟨kshort, kroom⟩ := hk a s' (hadv.build_eq.trans hb) (by omega)
      rw [run_bind_some hrun]
      refine ⟨fun hlt => ?_, fun hle => ?_⟩
      · obtain ⟨hnone, kin⟩ := kshort (by omega)
        exact ⟨hnone, fun h => kin ((hin h).2 hn)⟩
      · obtain ⟨b, s'', krun, kcur, kin⟩ := kroom (by omega)
        refine ⟨b, s'', krun, by omega, fun h => (kin ((hin h).2 hn)).trans ?_⟩
        omega

theorem Spans.bind_pure {n w : Nat} {c : Codec ε α} (hc : Spans n w c) (f : α → β) :
    Spans n w (c >>= fun a => Pure.pure (f a)) := by
  intro s hb hleft
  obtain ⟨hshort, hroom⟩ := hc s hb hleft
  refine ⟨fun hlt => ?_, fun hle => ?_⟩
  · obtain ⟨hnone, hin⟩ := hshort hlt
    rw [run_bind_none hnone]
    exact ⟨rfl, hin⟩
  · obtain ⟨a, s', hrun, hcur, hin⟩ := hroom hle
    exact ⟨f a, s', by rw [run_bind_some hrun, run_pure], hcur, hin⟩

/-- In build mode the walk stays inside exactly when `P` holds of the octets left. -/
def StaysIff (P : Int → Prop) (c : Codec ε α) : Prop :=
  ∀ s : Cursor ε, s.build = true → 0 ≤ s.left → s.Inside → ((c.run s).2.Inside ↔ P s.left)

theorem StaysIff.of_inBounds {c : Codec ε α} (hc : InBounds c) : StaysIff (fun _ => True) c :=
  fun _ hb _ hin => iff_of_true ((hc.inside hb).2 hin) trivial

theorem StaysIff.isBuild {P : Int → Prop} {k : Bool → Codec ε α} (h : StaysIff P (k true)) :
    StaysIff P (Codec.isBuild >>= k) := by
  intro s hb hleft hin
  rw [run_bind_some (run_isBuild s), hb]
  exact h s hb hleft hin

theorem StaysIff.bind_pure {P : Int → Prop} {c : Codec ε α} (hc : StaysIff P c) (f : α → β) :
    StaysIff P (c >>= fun a => Pure.pure (f a)) := by
  intro s hb hleft hin
  have hrun : ((c >>= fun a => Pure.pure (f a)).run s).2 = (c.run s).2 := by
    rw [run_bind]
    split
    · next he => rw [he, run_pure]
    · next he => rw [he]
  rw [hrun]
  exact hc s hb hleft hin

/-- A part that stays inside, and then the rest with what it leaves. -/
theorem StaysIff.bind {n : Nat} {P : Int → Prop} {c : Codec ε α} {k : α → Codec ε β}
    (hc : Spans n n c) (hP : ∀ left, left < 0 → P left) (hk : ∀ a, StaysIff P (k a)) :
    StaysIff (fun left => P (left - n)) (c >>= k) := by
  intro s hb hleft hin
  obtain ⟨hshort, hroom⟩ := hc s hb hleft
  by_cases hn : (n : Int) ≤ s.left
  · obtain ⟨a, s', hrun, hcur, hin'⟩ := hroom hn
    have hadv := c.advances s
    rw [hrun] at hadv
    have hend := hadv.left_eq
    simp only at hend
    have hleft' : s'.left = s.left - n := by omega
    simp only [run_bind_some hrun, ← hleft']
    exact hk a s' (hadv.build_eq.trans hb) (by omega) ((hin' hin).2 hn)
  · obtain ⟨hnone, hin'⟩ := hshort (Int.not_le.1 hn)
    rw [run_bind_none hnone]
    exact iff_of_true (hin' hin) (hP _ (by omega))

/-- There is room for all that is written of every value that passes the check. -/
def Room (n w : α → Nat) : Int → List α → Prop
  | _, [] => True
  | left, a :: rest => n a ≤ left → w a ≤ left ∧ Room n w (left - n a) rest

theorem Room.of_neg {n w : α → Nat} {left : Int} (h : left < 0) (l : List α) : Room n w left l := by
  cases l with
  | nil => trivial
  | cons a rest => exact fun hle => absurd hle (by omega)

/-- Whatever is left there is room exactly when no value is written beyond what was checked. -/
theorem forall_room_iff {n w : α → Nat} (hw : ∀ a, n a ≤ w a) (l : List α) :
    (∀ left, Room n w left l) ↔ ∀ a ∈ l, w a = n a := by
  induction l with
  | nil => simp [Room]
  | cons a rest ih =>
      have ha := hw a
      rw [List.forall_mem_cons, ← ih]
      constructor
      · intro h
        refine ⟨?_, fun left => ?_⟩
        · have hle := (h (n a) le_rfl).1
          omega
        · rcases Int.lt_or_le left 0 with hneg | hpos
          · exact Room.of_neg hneg rest
          · have hrest := (h (left + n a) (by omega)).2
            rwa [Int.add_sub_cancel] at hrest
      · rintro ⟨heq, hrest⟩ left hle
        exact ⟨by omega, hrest _⟩

theorem StaysIff.each {n w : α → Nat} {p : α → Codec ε α} (l : List α)
    (h : ∀ a ∈ l, Spans (n a) (w a) (p a)) :
    StaysIff (fun left => Room n w left l) (Codec.each p l) := by
  induction l with
  | nil => exact fun _ _ _ hin => iff_of_true hin trivial
  | cons a rest ih =>
      have hrest := ih fun b hb => h b (List.mem_cons_of_mem _ hb)
      intro s hb hleft hin
      obtain ⟨hshort, hroom⟩ := h a (List.mem_cons_self ..) s hb hleft
      rw [Codec.each]
      by_cases hn : (n a : Int) ≤ s.left
      case neg =>
          obtain ⟨hnone, hin'⟩ := hshort (Int.not_le.1 hn)
          rw [run_bind_none hnone]
          exact iff_of_true (hin' hin) fun hle => absurd hle hn
      case pos =>
          obtain ⟨b, s', hrun, hcur, hin'⟩ := hroom hn
          have hadv := (p a).advances s
          rw [hrun] at hadv
          have hend := hadv.left_eq
          simp only at hend
          have hleft' : s'.left = s.left - n a := by omega
          have hb' : s'.build = true := hadv.build_eq.trans hb
          rw [run_bind_some hrun]
          have hiff := hrest.bind_pure (b :: ·) s' hb' (by omega)
          rw [hleft'] at hiff
          constructor
          · intro hin''
            have hs' := ((Codec.each p rest >>= fun rest => Pure.pure (b :: rest)).advances
              s').inside hin''
            exact fun _ => ⟨(hin' hin).1 hs', (hiff hs').1 hin''⟩
          · intro hP
            obtain ⟨hw, hr⟩ := hP hn
            exact (hiff ((hin' hin).2 hw)).2 hr

end Wire
