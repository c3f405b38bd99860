import Mathlib.Data.List.Induction
import Mathlib.Tactic.SplitIfs
import PtpMgmt.ClkMgr.TimeBase

set_option autoImplicit false

/-! # Offsets in range and the composite event

The state of EventOffsetInRange is worked out when an offset is taken over, with the threshold of that
moment, and stays as it is while the same offset comes again. The composite event is made of states that
are only kept up to date for the events that are subscribed. -/

namespace PtpMgmt.ClkMgr

/-! ## The test of an offset -/

/-- The offset is at most the threshold away from zero, as integers. -/
def WithinThreshold (threshold : UInt32) (offset : Int64) : Prop :=
  offset.toInt.natAbs ≤ threshold.toNat

/-- What the test of an offset accepts: thresholds that do not fit in the `int32_t` accept nothing, but
    for the first of them. Its negation overflows, which the language leaves open; here it wraps, as the
    machine does it, so that it is its own negation. -/
def CastRange (threshold : UInt32) (offset : Int64) : Prop :=
  threshold.toNat < 2 ^ 31 ∧ WithinThreshold threshold offset ∨
    threshold.toNat = 2 ^ 31 ∧ offset.toInt = -2 ^ 31

instance decidableWithinThreshold (threshold : UInt32) (offset : Int64) :
    Decidable (WithinThreshold threshold offset) :=
  inferInstanceAs (Decidable (_ ≤ _))

instance decidableCastRange (threshold : UInt32) (offset : Int64) :
    Decidable (CastRange threshold offset) :=
  inferInstanceAs (Decidable (_ ∨ _))

theorem inRange_iff (threshold : UInt32) (offset : Int64) :
    inRange threshold offset = true ↔ CastRange threshold offset := by
  have hlt : threshold.toNat < 2 ^ 32 := threshold.toNat_lt
  have hcast : threshold.toInt32.toInt =
      if 2 * threshold.toNat < 2 ^ 32 then (threshold.toNat : Int) else threshold.toNat - 2 ^ 32 :=
    BitVec.toInt_eq_toNat_cond threshold.toBitVec
  have hneg : (-threshold.toInt32).toInt =
      if threshold.toNat = 2 ^ 31 then -2 ^ 31 else -threshold.toInt32.toInt := by
    rw [Int32.toInt_neg, hcast]
    split_ifs with hfits hleast hleast
    · omega
    · rw [Int.bmod_eq_of_le] <;> omega
    · rw [hleast]
      decide
    · rw [Int.bmod_eq_of_le] <;> omega
  unfold inRange CastRange WithinThreshold
  simp only [Bool.and_eq_true, decide_eq_true_eq, hneg, hcast]
  split_ifs <;> omega

theorem castRange_of_fits {threshold : UInt32} (h : threshold.toNat < 2 ^ 31) (offset : Int64) :
    CastRange threshold offset ↔ WithinThreshold threshold offset := by
  unfold CastRange
  constructor
  · rintro (⟨-, hle⟩ | ⟨heq, -⟩)
    · exact hle
    · omega
  · exact fun hle => .inl ⟨h, hle⟩

/-! ## What was taken over -/

/-- The two clocks of a time base. -/
inductive Clock
  | ptp
  | sys

namespace Clock

def sub (s : TimeBaseState) : Clock → ClockSubscriptionBase
  | .ptp => s.ptpEventSub.toClockSubscriptionBase
  | .sys => s.sysEventSub.toClockSubscriptionBase

def event (s : TimeBaseState) : Clock → ClockEventBase
  | .ptp => s.ptpEventState.toClockEventBase
  | .sys => s.sysEventState

/-- The new subscription that a call makes for the clock. -/
def subscribes : Clock → Op → Option ClockSubscriptionBase
  | .ptp, .subscribePtp sub => some sub.toClockSubscriptionBase
  | .sys, .subscribeSys sub => some sub.toClockSubscriptionBase
  | _, _ => none

/-- The offset that a call notifies for the clock. -/
def notifies : Clock → Op → Option Int64
  | .ptp, .notifyPtp _ new => some new.clockOffset
  | .sys, .notifySys _ new => some new.clockOffset
  | _, _ => none

end Clock

/-- What the calls of a run have asked for and brought: the last subscription, and the last offset that was
    taken over, with the threshold of that moment. -/
structure Taken where
  sub : ClockSubscriptionBase := {}
  offset : Int64 := 0
  threshold : UInt32 := 0

/-- An offset is taken over when EventOffsetInRange is subscribed and it is another one. -/
def Taken.next (c : Clock) (t : Taken) (op : Op) : Taken :=
  match c.subscribes op, c.notifies op with
  | some sub, _ => { t with sub }
  | none, some offset =>
    if t.sub.eventMask &&& eventOffsetInRange ≠ 0 ∧ offset ≠ t.offset then
      { t with offset, threshold := t.sub.clockOffsetThreshold }
    else t
  | none, none => t

def taken (c : Clock) (ops : List Op) : Taken := ops.foldl (Taken.next c) {}

theorem taken_snoc (c : Clock) (ops : List Op) (op : Op) :
    taken c (ops ++ [op]) = (taken c ops).next c op := by
  rw [taken, List.foldl_append]
  rfl

/-- The threshold that an offset is measured with: the one of now for a new offset, and the one of then for
    the offset that was taken over last. -/
def Taken.measure (t : Taken) (offset : Int64) : UInt32 :=
  if offset = t.offset then t.threshold else t.sub.clockOffsetThreshold

/-- What a clock keeps is what its history says. -/
structure Follows (c : Clock) (s : TimeBaseState) (t : Taken) : Prop where
  sub : c.sub s = t.sub
  offset : (c.event s).clockOffset = t.offset
  inRange : (c.event s).offsetInRange = ClkMgr.inRange t.threshold t.offset

theorem updateOffsetInRange_offset (sub : ClockSubscriptionBase) (offset : Int64) (e : ClockEventBase) :
    (updateOffsetInRange sub offset e).1.clockOffset =
      if sub.eventMask &&& eventOffsetInRange ≠ 0 ∧ offset ≠ e.clockOffset then offset
      else e.clockOffset := by
  unfold updateOffsetInRange
  split
  · simp only
    split <;> split <;> rfl
  · rfl

theorem updateOffsetInRange_inRange (sub : ClockSubscriptionBase) (offset : Int64) (e : ClockEventBase) :
    (updateOffsetInRange sub offset e).1.offsetInRange =
      if sub.eventMask &&& eventOffsetInRange ≠ 0 ∧ offset ≠ e.clockOffset then
        inRange sub.clockOffsetThreshold offset
      else e.offsetInRange := by
  unfold updateOffsetInRange
  split
  · simp only
    split
    · next hin =>
        split
        · exact hin.symm
        · next hold => simpa [hin] using hold
    · next hout =>
        split
        · simpa using hout
        · next hold => simpa [hout] using hold
  · rfl

/-- The later updates leave the offset alone. -/
theorem setTimeBaseStatePtp_event (s : TimeBaseState) (time : Option Timespec) (new : PtpEvent) :
    (s.setTimeBaseStatePtp time new).ptpEventState.clockOffset =
      (updateOffsetInRange s.ptpEventSub.toClockSubscriptionBase new.clockOffset
        s.ptpEventState.toClockEventBase).1.clockOffset ∧
    (s.setTimeBaseStatePtp time new).ptpEventState.offsetInRange =
      (updateOffsetInRange s.ptpEventSub.toClockSubscriptionBase new.clockOffset
        s.ptpEventState.toClockEventBase).1.offsetInRange := by
  unfold TimeBaseState.setTimeBaseStatePtp updateSyncedWithGm updateGmChanged updateAsCapable
    updateComposite
  simp only
  split_ifs <;> exact ⟨rfl, rfl⟩

/-- An update of the offset takes it over as the history does. -/
theorem updateOffsetInRange_follows {sub : ClockSubscriptionBase} {e : ClockEventBase} {t : Taken}
    (hsub : sub = t.sub) (hoffset : e.clockOffset = t.offset)
    (hin : e.offsetInRange = inRange t.threshold t.offset) (offset : Int64) (t' : Taken)
    (ht' : t' = if t.sub.eventMask &&& eventOffsetInRange ≠ 0 ∧ offset ≠ t.offset then
        { t with offset, threshold := t.sub.clockOffsetThreshold } else t) :
    (updateOffsetInRange sub offset e).1.clockOffset = t'.offset ∧
    (updateOffsetInRange sub offset e).1.offsetInRange = inRange t'.threshold t'.offset := by
  rw [updateOffsetInRange_offset, updateOffsetInRange_inRange, hsub, hoffset, ht']
  split_ifs
  · exact ⟨rfl, rfl⟩
  · exact ⟨rfl, hin⟩

theorem Taken.next_sub (c : Clock) (t : Taken) (op : Op) :
    (t.next c op).sub = (c.subscribes op).getD t.sub := by
  unfold Taken.next
  split
  · next hsub => rw [hsub]; rfl
  · next hsub _ =>
      rw [hsub]
      split <;> rfl
  · next hsub _ => rw [hsub]; rfl

/-- **Step**: the clock follows its history. -/
theorem Follows.step {c : Clock} {s : TimeBaseState} {t : Taken} (h : Follows c s t) (op : Op) :
    Follows c (s.step op) (t.next c op) := by
  -- only the calls of the clock's own kind touch it
  cases c with
  | ptp =>
      cases op with
      | subscribePtp sub =>
          simp only [TimeBaseState.step, TimeBaseState.setPtpEventSub_eq]
          exact ⟨rfl, h.offset, h.inRange⟩
      | subscribeSys sub =>
          simp only [TimeBaseState.step, TimeBaseState.setSysEventSub_eq]
          exact ⟨h.sub, h.offset, h.inRange⟩
      | notifyPtp time new =>
          obtain ⟨hoffset, hin⟩ := setTimeBaseStatePtp_event s time new
          obtain ⟨hoffset', hin'⟩ := updateOffsetInRange_follows h.sub h.offset h.inRange
            new.clockOffset (t.next .ptp (.notifyPtp time new)) rfl
          refine ⟨?_, hoffset.trans hoffset', hin.trans hin'⟩
          rw [Taken.next_sub]
          exact h.sub
      | setSubscribed b => exact ⟨h.sub, h.offset, h.inRange⟩
      | notifySys time new => exact ⟨h.sub, h.offset, h.inRange⟩
      | read => exact ⟨h.sub, h.offset, h.inRange⟩
  | sys =>
      cases op with
      | subscribePtp sub =>
          simp only [TimeBaseState.step, TimeBaseState.setPtpEventSub_eq]
          exact ⟨h.sub, h.offset, h.inRange⟩
      | subscribeSys sub =>
          simp only [TimeBaseState.step, TimeBaseState.setSysEventSub_eq]
          exact ⟨rfl, h.offset, h.inRange⟩
      | notifySys time new =>
          obtain ⟨hoffset', hin'⟩ := updateOffsetInRange_follows h.sub h.offset h.inRange
            new.clockOffset (t.next .sys (.notifySys time new)) rfl
          refine ⟨?_, hoffset', hin'⟩
          rw [Taken.next_sub]
          exact h.sub
      | setSubscribed b => exact ⟨h.sub, h.offset, h.inRange⟩
      | notifyPtp time new => exact ⟨h.sub, h.offset, h.inRange⟩
      | read => exact ⟨h.sub, h.offset, h.inRange⟩

/-- **Run**: in every state that is reached. -/
theorem follows_run (c : Clock) (ops : List Op) : Follows c (TimeBaseState.run {} ops) (taken c ops) := by
  induction ops using List.reverseRecOn with
  | nil =>
      cases c
      · exact ⟨rfl, rfl, by decide⟩
      · exact ⟨rfl, rfl, by decide⟩
  | append_singleton ops op ih =>
      rw [taken_snoc, TimeBaseState.run_append]
      exact ih.step op

/-- The state of the offset is what the threshold of now tells of it. A new offset is measured with this
    threshold, which does when it fits, when it is 2^31 and the offset its negation, and when it does not accept
    the offset anyway. An offset that comes again keeps what the threshold of then told: this is the same where
    both have it on the same side, where the one of then was 2^31 and the one of now accepts the offset just if
    it is its negation, and where the one of then was larger, so that it accepted nothing, and the one of now
    does not accept the offset. -/
def Taken.Current (t : Taken) (offset : Int64) : Prop :=
  if offset = t.offset then
    t.threshold.toNat < 2 ^ 31 ∧
        (WithinThreshold t.threshold offset ↔ WithinThreshold t.sub.clockOffsetThreshold offset) ∨
      t.threshold.toNat = 2 ^ 31 ∧
        (offset.toInt = -2 ^ 31 ↔ WithinThreshold t.sub.clockOffsetThreshold offset) ∨
      2 ^ 31 < t.threshold.toNat ∧ ¬ WithinThreshold t.sub.clockOffsetThreshold offset
  else
    t.sub.clockOffsetThreshold.toNat < 2 ^ 31 ∨
      t.sub.clockOffsetThreshold.toNat = 2 ^ 31 ∧ offset.toInt = -2 ^ 31 ∨
      ¬ WithinThreshold t.sub.clockOffsetThreshold offset

instance decidableCurrent (t : Taken) (offset : Int64) : Decidable (t.Current offset) :=
  inferInstanceAs (Decidable (ite (offset = t.offset) (_ ∨ _ ∨ _) (_ ∨ _ ∨ _)))

theorem Taken.current_iff (t : Taken) (offset : Int64) :
    t.Current offset ↔
      (CastRange (t.measure offset) offset ↔ WithinThreshold t.sub.clockOffsetThreshold offset) := by
  unfold Current measure CastRange
  by_cases hsame : offset = t.offset
  · rw [if_pos hsame, if_pos hsame]
    rcases Nat.lt_trichotomy t.threshold.toNat (2 ^ 31) with hlt | heq | hgt
    · have hne : t.threshold.toNat ≠ 2 ^ 31 := by omega
      have hnot : ¬ 2 ^ 31 < t.threshold.toNat := by omega
      simp only [hlt, hne, hnot, true_and, false_and, or_false]
    · simp only [heq, true_and, false_and, or_false, false_or, lt_self_iff_false]
    · have hne : t.threshold.toNat ≠ 2 ^ 31 := by omega
      have hnot : ¬ t.threshold.toNat < 2 ^ 31 := by omega
      simp only [hgt, hne, hnot, true_and, false_and, or_false, false_or, false_iff]
  · rw [if_neg hsame, if_neg hsame]
    unfold WithinThreshold
    constructor
    · intro hcases
      omega
    · intro hiff
      by_contra hno
      omega

/-- **When the state of an offset is current**: after every notification of every run, exactly when the
    threshold that the offset is measured with tells what the threshold of now does. -/
theorem notified_inRange_iff (c : Clock) (ops : List Op) (op : Op) (offset : Int64)
    (hop : c.notifies op = some offset)
    (hmask : (c.sub (TimeBaseState.run {} ops)).eventMask &&& eventOffsetInRange ≠ 0) :
    ((c.event (TimeBaseState.run {} (ops ++ [op]))).offsetInRange = true ↔
      WithinThreshold (c.sub (TimeBaseState.run {} ops)).clockOffsetThreshold offset) ↔
    (taken c ops).Current offset := by
  have hbefore := follows_run c ops
  have hafter := follows_run c (ops ++ [op])
  rw [taken_snoc] at hafter
  rw [hbefore.sub] at hmask ⊢
  rw [hafter.inRange, inRange_iff]
  have hsub : c.subscribes op = none := by
    cases c <;> cases op <;> first | rfl | simp [Clock.notifies] at hop
  have hnext : ((taken c ops).next c op).threshold = (taken c ops).measure offset ∧
      ((taken c ops).next c op).offset = offset := by
    unfold Taken.next Taken.measure
    simp only [hsub, hop]
    by_cases hsame : offset = (taken c ops).offset
    · simp [hsame]
    · simp [hsame, hmask]
  rw [hnext.1, hnext.2, Taken.current_iff]

/-- A subscription to EventOffsetInRange with a threshold. -/
def offsetSub (threshold : UInt32) : PTPClockSubscription :=
  ((PTPClockSubscription.init.setClockOffsetThreshold threshold).setEventMask eventOffsetInRange).2

/-- A threshold that does not fit accepts no offset, and a new threshold does not reach the offset that is
    notified again. -/
theorem offsetInRange_not_current :
    ¬ ((Clock.ptp.event (TimeBaseState.run {}
        [.subscribePtp (offsetSub 0xFFFFFFFF), .notifyPtp none ⟨5, 0, 0, false, false⟩])).offsetInRange = true
      ↔ WithinThreshold 0xFFFFFFFF 5) ∧
    ¬ ((Clock.ptp.event (TimeBaseState.run {}
        [.subscribePtp (offsetSub 10), .notifyPtp none ⟨5, 0, 0, false, false⟩,
          .subscribePtp (offsetSub 1), .notifyPtp none ⟨5, 0, 0, false, false⟩])).offsetInRange = true
      ↔ WithinThreshold 1 5) := by
  decide

/-- The offset is taken over with the threshold that is subscribed. -/
theorem notified_inRange_iff_offsetSub :
    (Clock.ptp.event (TimeBaseState.run {}
        ([.subscribePtp (offsetSub 10)] ++ [.notifyPtp none ⟨5, 0, 0, false, false⟩]))).offsetInRange = true
      ↔ WithinThreshold 10 5 :=
  (notified_inRange_iff .ptp [.subscribePtp (offsetSub 10)] (.notifyPtp none ⟨5, 0, 0, false, false⟩) 5
    rfl (by decide)).2 (by decide)

/-! ## The composite event -/

/-- All conditions of the composite event hold for the notification. -/
def CompositeMet (sub : PTPClockSubscription) (new : PtpEvent) : Prop :=
  (sub.compositeEventMask &&& eventOffsetInRange ≠ 0 →
    WithinThreshold sub.clockOffsetThreshold new.clockOffset) ∧
  (sub.compositeEventMask &&& eventSyncedWithGm ≠ 0 → new.syncedWithGm = true) ∧
  (sub.compositeEventMask &&& eventAsCapable ≠ 0 → new.asCapable = true)

/-- The event is kept up to date when it is a condition. -/
def Watches (sub : PTPClockSubscription) (event : UInt32) : Prop :=
  sub.compositeEventMask &&& event ≠ 0 → sub.eventMask &&& event ≠ 0

theorem compositeOf_iff (sub : PTPClockSubscription) (e : PTPClockEvent) :
    compositeOf sub e = true ↔
      (sub.compositeEventMask &&& eventOffsetInRange ≠ 0 → e.offsetInRange = true) ∧
      (sub.compositeEventMask &&& eventSyncedWithGm ≠ 0 → e.syncedWithGm = true) ∧
      (sub.compositeEventMask &&& eventAsCapable ≠ 0 → e.asCapable = true) := by
  unfold compositeOf
  simp only [Bool.and_eq_true, Bool.or_eq_true, beq_iff_eq, and_assoc, or_iff_not_imp_left, ne_eq]

/-- What a notification leaves of the events that are conditions. -/
theorem setTimeBaseStatePtp_conditions (s : TimeBaseState) (time : Option Timespec) (new : PtpEvent) :
    (s.setTimeBaseStatePtp time new).ptpEventState.syncedWithGm =
      (if s.ptpEventSub.eventMask &&& eventSyncedWithGm ≠ 0 then new.syncedWithGm
        else s.ptpEventState.syncedWithGm) ∧
    (s.setTimeBaseStatePtp time new).ptpEventState.asCapable =
      (if s.ptpEventSub.eventMask &&& eventAsCapable ≠ 0 then new.asCapable
        else s.ptpEventState.asCapable) := by
  unfold TimeBaseState.setTimeBaseStatePtp updateSyncedWithGm updateGmChanged updateAsCapable
    updateComposite
  simp only
  split_ifs <;> simp_all

/-- The composite event is that of the state it is stored with. -/
theorem setTimeBaseStatePtp_composite (s : TimeBaseState) (time : Option Timespec) (new : PtpEvent)
    (hmask : s.ptpEventSub.compositeEventMask ≠ 0) :
    (s.setTimeBaseStatePtp time new).ptpEventState.compositeEvent =
      compositeOf s.ptpEventSub (s.setTimeBaseStatePtp time new).ptpEventState := by
  have hsame : ∀ e : PTPClockEvent, (updateComposite s.ptpEventSub e).1.compositeEvent =
      compositeOf s.ptpEventSub (updateComposite s.ptpEventSub e).1 := by
    intro e
    unfold updateComposite
    split
    · rfl
    · next hno => exact (not_not.1 fun hne => hno ⟨hmask, hne⟩).symm
  exact hsame _

/-- The subscription stays, and with a threshold that fits the offset is always measured with it. -/
structure Subscribed (sub : PTPClockSubscription) (s : TimeBaseState) : Prop where
  kept : s.ptpEventSub = sub
  inRange : sub.clockOffsetThreshold.toNat < 2 ^ 31 →
    (s.ptpEventState.offsetInRange = true ↔
      WithinThreshold sub.clockOffsetThreshold s.ptpEventState.clockOffset)

theorem Subscribed.notifyPtp {sub : PTPClockSubscription} {s : TimeBaseState} (h : Subscribed sub s)
    (time : Option Timespec) (new : PtpEvent) : Subscribed sub (s.setTimeBaseStatePtp time new) := by
  refine ⟨h.kept, fun hfits => ?_⟩
  obtain ⟨hoffset, hin⟩ := setTimeBaseStatePtp_event s time new
  rw [hoffset, hin, updateOffsetInRange_offset, updateOffsetInRange_inRange, h.kept]
  split_ifs
  · rw [inRange_iff, castRange_of_fits hfits]
  · exact h.inRange hfits

theorem Subscribed.run {sub : PTPClockSubscription} {s : TimeBaseState} (h : Subscribed sub s)
    {ops : List Op} (hops : ∀ sub', .subscribePtp sub' ∉ ops) : Subscribed sub (s.run ops) := by
  induction ops generalizing s with
  | nil => exact h
  | cons op ops ih =>
      refine ih ?_ fun sub' hmem => hops sub' (List.mem_cons_of_mem _ hmem)
      cases op with
      | subscribePtp sub' => exact absurd List.mem_cons_self (hops sub')
      | notifyPtp time new => exact h.notifyPtp time new
      | _ => exact ⟨h.kept, h.inRange⟩

theorem subscribed_first (sub : PTPClockSubscription) :
    Subscribed sub (TimeBaseState.run {} [.subscribePtp sub]) := by
  rw [TimeBaseState.run_cons, TimeBaseState.step, TimeBaseState.setPtpEventSub_eq]
  refine ⟨rfl, fun _ => ?_⟩
  simp [WithinThreshold]

/-- After a subscription and these calls, the composite event is met by a notification exactly when all its
    conditions hold. -/
def CompositeTrue (sub : PTPClockSubscription) (ops : List Op) : Prop :=
  ∀ (time : Option Timespec) (new : PtpEvent),
    (TimeBaseState.run {} (.subscribePtp sub :: ops ++ [.notifyPtp time new])).ptpEventState.compositeEvent
      = true ↔ CompositeMet sub new

/-- A run that ends with a notification. -/
theorem composite_notified (sub : PTPClockSubscription) (hmask : sub.compositeEventMask ≠ 0)
    (ops : List Op) (hops : ∀ sub', .subscribePtp sub' ∉ ops) (time : Option Timespec) (new : PtpEvent) :
    ∃ s, Subscribed sub s ∧ s = TimeBaseState.run {} (.subscribePtp sub :: ops) ∧
      ((TimeBaseState.run {} (.subscribePtp sub :: ops ++ [.notifyPtp time new])).ptpEventState.compositeEvent
        = true ↔ compositeOf sub (s.setTimeBaseStatePtp time new).ptpEventState = true) := by
  have hs : Subscribed sub (TimeBaseState.run {} (.subscribePtp sub :: ops)) :=
    (subscribed_first sub).run hops
  refine ⟨_, hs, rfl, ?_⟩
  rw [TimeBaseState.run_append, TimeBaseState.run_cons, TimeBaseState.run_nil, TimeBaseState.step,
    setTimeBaseStatePtp_composite _ _ _ (by rw [hs.kept]; exact hmask), hs.kept]

theorem compositeTrue_of_watches {sub : PTPClockSubscription} (hmask : sub.compositeEventMask ≠ 0)
    (hoffset : Watches sub eventOffsetInRange) (hsynced : Watches sub eventSyncedWithGm)
    (hcapable : Watches sub eventAsCapable)
    (hfits : sub.compositeEventMask &&& eventOffsetInRange ≠ 0 → sub.clockOffsetThreshold.toNat < 2 ^ 31)
    {ops : List Op} (hops : ∀ sub', .subscribePtp sub' ∉ ops) : CompositeTrue sub ops := by
  intro time new
  obtain ⟨s, hs, -, hcomposite⟩ := composite_notified sub hmask ops hops time new
  obtain ⟨hsync, hcap⟩ := setTimeBaseStatePtp_conditions s time new
  rw [hcomposite, compositeOf_iff, hsync, hcap, hs.kept]
  refine and_congr ?_ (and_congr ?_ ?_)
  · refine imp_congr_right fun hbit => ?_
    rw [(hs.notifyPtp time new).inRange (hfits hbit), (setTimeBaseStatePtp_event s time new).1,
      updateOffsetInRange_offset, hs.kept]
    -- the offset is the one of the notification, taken over or the same as before
    split_ifs with htaken
    · rfl
    · rw [not_not.1 fun hne => htaken ⟨hoffset hbit, hne⟩]
  · exact imp_congr_right fun hbit => by rw [if_pos (hsynced hbit)]
  · exact imp_congr_right fun hbit => by rw [if_pos (hcapable hbit)]

theorem watches_of_compositeTrue {sub : PTPClockSubscription} (hmask : sub.compositeEventMask ≠ 0)
    (h : CompositeTrue sub []) :
    Watches sub eventOffsetInRange ∧ Watches sub eventSyncedWithGm ∧ Watches sub eventAsCapable ∧
    (sub.compositeEventMask &&& eventOffsetInRange ≠ 0 →
      sub.clockOffsetThreshold.toNat < 2 ^ 31) := by
  have hfirst : ∀ new : PtpEvent, CompositeMet sub new ↔
      (sub.compositeEventMask &&& eventOffsetInRange ≠ 0 →
        (if sub.eventMask &&& eventOffsetInRange ≠ 0 ∧ new.clockOffset ≠ 0 then
          inRange sub.clockOffsetThreshold new.clockOffset else true) = true) ∧
      (sub.compositeEventMask &&& eventSyncedWithGm ≠ 0 →
        (if sub.eventMask &&& eventSyncedWithGm ≠ 0 then new.syncedWithGm else false) = true) ∧
      (sub.compositeEventMask &&& eventAsCapable ≠ 0 →
        (if sub.eventMask &&& eventAsCapable ≠ 0 then new.asCapable else false) = true) := by
    intro new
    obtain ⟨s, hs, heq, hcomposite⟩ := composite_notified sub hmask [] (by simp) none new
    rw [TimeBaseState.run_cons, TimeBaseState.run_nil, TimeBaseState.step,
      TimeBaseState.setPtpEventSub_eq] at heq
    obtain ⟨hsync, hcap⟩ := setTimeBaseStatePtp_conditions s none new
    rw [← h none new, hcomposite, compositeOf_iff, hsync, hcap,
      (setTimeBaseStatePtp_event s none new).2, updateOffsetInRange_inRange, heq]
  -- a good notification is only met when both flags are taken over
  obtain ⟨-, hsynced, hcapable⟩ := (hfirst ⟨0, 0, 0, true, true⟩).1 ⟨fun _ => Nat.zero_le _, by simp⟩
  have hsynced' : Watches sub eventSyncedWithGm := by
    intro hbit hno
    simpa [hno] using hsynced hbit
  have hcapable' : Watches sub eventAsCapable := by
    intro hbit hno
    simpa [hno] using hcapable hbit
  have hoffset' : Watches sub eventOffsetInRange := by
    -- an offset that no threshold accepts
    intro hbit hno
    have hmet := (hfirst ⟨0x10000000000, 0, 0, true, true⟩).2
      ⟨fun _ => by simp [hno], fun hb => by simp [hsynced' hb], fun hb => by simp [hcapable' hb]⟩
    have hfar : (0x10000000000 : Int64).toInt.natAbs ≤ sub.clockOffsetThreshold.toNat := hmet.1 hbit
    have hlt : sub.clockOffsetThreshold.toNat < 2 ^ 32 := sub.clockOffsetThreshold.toNat_lt
    have habs : (0x10000000000 : Int64).toInt.natAbs = 2 ^ 40 := by decide
    omega
  refine ⟨hoffset', hsynced', hcapable', fun hbit => ?_⟩
  by_contra hbig
  have hwithin : WithinThreshold sub.clockOffsetThreshold 5 := by
    have habs : (5 : Int64).toInt.natAbs = 5 := by decide
    simp only [WithinThreshold, habs]
    omega
  have hin := ((hfirst ⟨5, 0, 0, true, true⟩).1 ⟨fun _ => hwithin, by simp, by simp⟩).1 hbit
  rw [if_pos ⟨hoffset' hbit, by decide⟩, inRange_iff] at hin
  rcases hin with ⟨hlt, -⟩ | ⟨-, heq⟩
  · exact hbig hlt
  · exact absurd heq (by decide)

/-- **When the composite event is the conjunction of its conditions**: for every run after the subscription
    exactly when each condition is subscribed as an event too and the threshold of the offset, where it is
    a condition, fits. -/
theorem compositeTrue_iff (sub : PTPClockSubscription) (hmask : sub.compositeEventMask ≠ 0) :
    (∀ ops : List Op, (∀ sub', .subscribePtp sub' ∉ ops) → CompositeTrue sub ops) ↔
      Watches sub eventOffsetInRange ∧ Watches sub eventSyncedWithGm ∧ Watches sub eventAsCapable ∧
      (sub.compositeEventMask &&& eventOffsetInRange ≠ 0 →
        sub.clockOffsetThreshold.toNat < 2 ^ 31) := by
  constructor
  · exact fun h => watches_of_compositeTrue hmask (h [] (by simp))
  · rintro ⟨hoffset, hsynced, hcapable, hfits⟩ ops hops
    exact compositeTrue_of_watches hmask hoffset hsynced hcapable hfits hops

/-- EventSyncedWithGm is the condition, and no event is subscribed. -/
def conditionOnlySub : PTPClockSubscription :=
  (PTPClockSubscription.init.setCompositeEventMask eventSyncedWithGm).2

/-- The clock is synced, and the composite event is not met. -/
theorem conditionOnlySub_not_composite :
    conditionOnlySub.compositeEventMask ≠ 0 ∧
    ¬ ((TimeBaseState.run {} [.subscribePtp conditionOnlySub,
        .notifyPtp none ⟨0, 0, 0, false, true⟩]).ptpEventState.compositeEvent = true ↔
      CompositeMet conditionOnlySub ⟨0, 0, 0, false, true⟩) := by
  refine ⟨by decide, fun h => ?_⟩
  have hmet : CompositeMet conditionOnlySub ⟨0, 0, 0, false, true⟩ := by
    refine ⟨fun _ => Nat.zero_le _, fun _ => rfl, fun hbit => absurd ?_ hbit⟩
    decide
  exact absurd (h.2 hmet) (by decide)

/-- EventSyncedWithGm is the condition and an event. -/
def conditionSub : PTPClockSubscription :=
  ((PTPClockSubscription.init.setEventMask eventSyncedWithGm).2.setCompositeEventMask eventSyncedWithGm).2

theorem compositeTrue_iff_conditionSub :
    conditionSub.compositeEventMask ≠ 0 ∧
      ∀ ops : List Op, (∀ sub', .subscribePtp sub' ∉ ops) → CompositeTrue conditionSub ops := by
  refine ⟨by decide, (compositeTrue_iff conditionSub (by decide)).2 ⟨?_, ?_, ?_, ?_⟩⟩ <;>
    intro hbit <;> revert hbit <;> decide

end PtpMgmt.ClkMgr
