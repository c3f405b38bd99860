import Mathlib.Data.List.Induction
import PtpMgmt.ClkMgr.TimeBase

set_option autoImplicit false

/-! # The counts of a time base

Every change of an event is counted once, and every count is read once. A call either is a read, which
takes all counts with it, or counts the changes it makes; what a whole run counts follows from the last
read on. -/

namespace PtpMgmt.ClkMgr

/-! ## Events and their counts -/

/-- The events that are counted. -/
inductive Event
  | offsetInRange
  | syncedWithGm
  | gmChanged
  | asCapable
  | composite
  | sysOffsetInRange

namespace Event

/-- The counter of the event. -/
def count (s : TimeBaseState) : Event → UInt32
  | .offsetInRange => s.ptpEventState.offsetInRangeCount
  | .syncedWithGm => s.ptpEventState.syncedWithGmCount
  | .gmChanged => s.ptpEventState.gmChangedCount
  | .asCapable => s.ptpEventState.asCapableCount
  | .composite => s.ptpEventState.compositeEventCount
  | .sysOffsetInRange => s.sysEventState.offsetInRangeCount

/-- The stored value of the event is not the same. -/
def changed (s s' : TimeBaseState) : Event → Bool
  | .offsetInRange => s'.ptpEventState.offsetInRange != s.ptpEventState.offsetInRange
  | .syncedWithGm => s'.ptpEventState.syncedWithGm != s.ptpEventState.syncedWithGm
  | .gmChanged => s'.ptpEventState.gmClockUUID != s.ptpEventState.gmClockUUID
  | .asCapable => s'.ptpEventState.asCapable != s.ptpEventState.asCapable
  | .composite => s'.ptpEventState.compositeEvent != s.ptpEventState.compositeEvent
  | .sysOffsetInRange => s'.sysEventState.offsetInRange != s.sysEventState.offsetInRange

/-- The clock of the event is available to the reader. -/
def available (s : TimeBaseState) : Event → Bool
  | .sysOffsetInRange => s.haveSys
  | _ => s.havePtp

end Event

/-- Calls of a run that change the stored value of the event. -/
def changes (ev : Event) (s : TimeBaseState) : List Op → Nat
  | [] => 0
  | op :: ops => (ev.changed s (s.step op)).toNat + changes ev (s.step op) ops

/-- The copies that the reads of a run return. -/
def reads (s : TimeBaseState) : List Op → List TimeBaseState
  | [] => []
  | .read :: ops => s.getTimeBaseState.1 :: reads s.getTimeBaseState.2 ops
  | op :: ops => reads (s.step op) ops

theorem changes_append (ev : Event) (s : TimeBaseState) (ops ops' : List Op) :
    changes ev s (ops ++ ops') = changes ev s ops + changes ev (s.run ops) ops' := by
  induction ops generalizing s with
  | nil => simp [changes]
  | cons op ops ih => simp [changes, ih, Nat.add_assoc]

theorem reads_append (s : TimeBaseState) (ops ops' : List Op) :
    reads s (ops ++ ops') = reads s ops ++ reads (s.run ops) ops' := by
  induction ops generalizing s with
  | nil => simp [reads]
  | cons op ops ih => cases op <;> simp [reads, ih, TimeBaseState.step]

/-! ## One call -/

/-- A counter after a change or none. -/
def bump (n : UInt32) (c : Bool) : UInt32 := if c then n + 1 else n

/-- What the update of one event does to its value and its counter, and what it tells. -/
structure Counts {α : Type} [BEq α] (v v' : α) (n n' : UInt32) (c : Bool) : Prop where
  told : c = (v' != v)
  count : n' = bump n c

section Updates

variable (sub : PTPClockSubscription) (new : PtpEvent) (e : PTPClockEvent)

theorem updateOffsetInRange_counts (sub : ClockSubscriptionBase) (offset : Int64) (e : ClockEventBase) :
    Counts e.offsetInRange (updateOffsetInRange sub offset e).1.offsetInRange
      e.offsetInRangeCount (updateOffsetInRange sub offset e).1.offsetInRangeCount
      (updateOffsetInRange sub offset e).2 := by
  unfold updateOffsetInRange
  split
  · simp only
    split
    · split
      · next h => exact ⟨by simpa using h, rfl⟩
      · next h => exact ⟨by simp, rfl⟩
    · split
      · next h => exact ⟨by simp [h], rfl⟩
      · exact ⟨by simp, rfl⟩
  · exact ⟨by simp, rfl⟩

theorem updateSyncedWithGm_counts :
    Counts e.syncedWithGm (updateSyncedWithGm sub new e).1.syncedWithGm
      e.syncedWithGmCount (updateSyncedWithGm sub new e).1.syncedWithGmCount
      (updateSyncedWithGm sub new e).2 := by
  unfold updateSyncedWithGm
  split
  · next h => exact ⟨by simpa using h.2, rfl⟩
  · exact ⟨by simp, rfl⟩

theorem updateGmChanged_counts :
    Counts e.gmClockUUID (updateGmChanged sub new e).1.gmClockUUID
      e.gmChangedCount (updateGmChanged sub new e).1.gmChangedCount
      (updateGmChanged sub new e).2 := by
  unfold updateGmChanged
  split
  · next h => exact ⟨by simpa using fun heq => h.2 heq.symm, rfl⟩
  · exact ⟨by simp, rfl⟩

theorem updateAsCapable_counts :
    Counts e.asCapable (updateAsCapable sub new e).1.asCapable
      e.asCapableCount (updateAsCapable sub new e).1.asCapableCount
      (updateAsCapable sub new e).2 := by
  unfold updateAsCapable
  split
  · next h => exact ⟨by simpa using h.2, rfl⟩
  · exact ⟨by simp, rfl⟩

theorem updateComposite_counts :
    Counts e.compositeEvent (updateComposite sub e).1.compositeEvent
      e.compositeEventCount (updateComposite sub e).1.compositeEventCount
      (updateComposite sub e).2 := by
  unfold updateComposite
  split
  · next h => exact ⟨by simpa using h.2, rfl⟩
  · exact ⟨by simp, rfl⟩

/-! Each update leaves the other events alone. -/

theorem updateOffsetInRange_frame (sub : ClockSubscriptionBase) (offset : Int64) (e : ClockEventBase) :
    (updateOffsetInRange sub offset e).1.gmClockUUID = e.gmClockUUID ∧
    (updateOffsetInRange sub offset e).1.gmChangedCount = e.gmChangedCount := by
  unfold updateOffsetInRange
  split
  · simp only
    split <;> split <;> exact ⟨rfl, rfl⟩
  · exact ⟨rfl, rfl⟩

theorem updateSyncedWithGm_frame : ∃ v n, (updateSyncedWithGm sub new e).1 =
    { e with syncedWithGm := v, syncedWithGmCount := n } := by
  unfold updateSyncedWithGm
  split
  · exact ⟨_, _, rfl⟩
  · exact ⟨e.syncedWithGm, e.syncedWithGmCount, rfl⟩

theorem updateGmChanged_frame : ∃ v b n, (updateGmChanged sub new e).1 =
    { e with gmClockUUID := v, gmChanged := b, gmChangedCount := n } := by
  unfold updateGmChanged
  split
  · exact ⟨_, _, _, rfl⟩
  · exact ⟨e.gmClockUUID, e.gmChanged, e.gmChangedCount, rfl⟩

theorem updateAsCapable_frame : ∃ v n, (updateAsCapable sub new e).1 =
    { e with asCapable := v, asCapableCount := n } := by
  unfold updateAsCapable
  split
  · exact ⟨_, _, rfl⟩
  · exact ⟨e.asCapable, e.asCapableCount, rfl⟩

theorem updateComposite_frame : ∃ v n, (updateComposite sub e).1 =
    { e with compositeEvent := v, compositeEventCount := n } := by
  unfold updateComposite
  split
  · exact ⟨_, _, rfl⟩
  · exact ⟨e.compositeEvent, e.compositeEventCount, rfl⟩

end Updates

/-- What a call that is no read does to the counts: every change is counted, and the flag is set when
    there is one. -/
structure Accounts (s s' : TimeBaseState) : Prop where
  count : ∀ ev : Event, ev.count s' = bump (ev.count s) (ev.changed s s')
  flag : s'.eventChanged = true ↔ s.eventChanged = true ∨ ∃ ev : Event, ev.changed s s' = true
  available : ∀ ev : Event, ev.changed s s' = true ∨ ev.available s = true → ev.available s' = true

/-- A call that leaves the events and the flag alone. -/
theorem Accounts.of_same {s s' : TimeBaseState} (hptp : s'.ptpEventState = s.ptpEventState)
    (hsys : s'.sysEventState = s.sysEventState) (hflag : s'.eventChanged = s.eventChanged)
    (hhave : s'.havePtp = s.havePtp ∧ s'.haveSys = s.haveSys) : Accounts s s' := by
  have hchanged : ∀ ev : Event, ev.changed s s' = false := by
    intro ev
    cases ev <;> simp [Event.changed, hptp, hsys]
  refine ⟨fun ev => ?_, ?_, fun ev h => ?_⟩
  · rw [hchanged]
    cases ev <;> simp [Event.count, bump, hptp, hsys]
  · simp [hflag, hchanged]
  · rw [hchanged] at h
    have hav := h.resolve_left (by simp)
    cases ev <;> simpa [Event.available, hhave.1, hhave.2] using hav

theorem setPtpEventSub_accounts (s : TimeBaseState) (sub : PTPClockSubscription) :
    Accounts s (s.setPtpEventSub sub).2 := by
  rw [TimeBaseState.setPtpEventSub_eq]
  exact .of_same rfl rfl rfl ⟨rfl, rfl⟩

theorem setSysEventSub_accounts (s : TimeBaseState) (sub : SysClockSubscription) :
    Accounts s (s.setSysEventSub sub).2 :=
  .of_same rfl rfl rfl ⟨rfl, rfl⟩

theorem setTimeBaseStateSys_accounts (s : TimeBaseState) (time : Option Timespec) (new : ChronyEvent) :
    Accounts s (s.setTimeBaseStateSys time new) := by
  have hcounts := updateOffsetInRange_counts s.sysEventSub.toClockSubscriptionBase new.clockOffset
    s.sysEventState
  unfold TimeBaseState.setTimeBaseStateSys
  rcases hr : updateOffsetInRange s.sysEventSub.toClockSubscriptionBase new.clockOffset s.sysEventState
    with ⟨e, c⟩
  rw [hr] at hcounts
  obtain ⟨htold, hcount⟩ := hcounts
  simp only at htold hcount ⊢
  refine ⟨fun ev => ?_, ?_, fun ev h => ?_⟩
  · cases ev
    case sysOffsetInRange => simpa [Event.count, Event.changed, ← htold] using hcount
    all_goals simp [Event.count, Event.changed, bump]
  · rw [Bool.or_eq_true]
    refine or_congr_right ⟨fun hc => ⟨.sysOffsetInRange, ?_⟩, ?_⟩
    · rw [← hc, htold]
      rfl
    · rintro ⟨ev, hev⟩
      cases ev
      case sysOffsetInRange => exact htold.trans hev
      all_goals simp [Event.changed] at hev
  · cases ev
    case sysOffsetInRange => rfl
    all_goals simpa [Event.changed, Event.available] using h

theorem setTimeBaseStatePtp_accounts (s : TimeBaseState) (time : Option Timespec) (new : PtpEvent) :
    Accounts s (s.setTimeBaseStatePtp time new) := by
  -- the updates one after the other: each counts its own event and leaves the others alone
  have h1 := updateOffsetInRange_counts s.ptpEventSub.toClockSubscriptionBase new.clockOffset
    s.ptpEventState.toClockEventBase
  have f1 := updateOffsetInRange_frame s.ptpEventSub.toClockSubscriptionBase new.clockOffset
    s.ptpEventState.toClockEventBase
  rcases hr1 : updateOffsetInRange s.ptpEventSub.toClockSubscriptionBase new.clockOffset
    s.ptpEventState.toClockEventBase with ⟨base, c1⟩
  rw [hr1] at h1 f1
  obtain ⟨e1, he1⟩ : ∃ e1, { s.ptpEventState with toClockEventBase := base } = e1 := ⟨_, rfl⟩
  have h2 := updateSyncedWithGm_counts s.ptpEventSub new e1
  have f2 := updateSyncedWithGm_frame s.ptpEventSub new e1
  rcases hr2 : updateSyncedWithGm s.ptpEventSub new e1 with ⟨e2, c2⟩
  rw [hr2] at h2 f2
  have h3 := updateGmChanged_counts s.ptpEventSub new e2
  have f3 := updateGmChanged_frame s.ptpEventSub new e2
  rcases hr3 : updateGmChanged s.ptpEventSub new e2 with ⟨e3, c3⟩
  rw [hr3] at h3 f3
  have h4 := updateAsCapable_counts s.ptpEventSub new e3
  have f4 := updateAsCapable_frame s.ptpEventSub new e3
  rcases hr4 : updateAsCapable s.ptpEventSub new e3 with ⟨e4, c4⟩
  rw [hr4] at h4 f4
  have h5 := updateComposite_counts s.ptpEventSub e4
  have f5 := updateComposite_frame s.ptpEventSub e4
  rcases hr5 : updateComposite s.ptpEventSub e4 with ⟨e5, c5⟩
  rw [hr5] at h5 f5
  have hnext : s.setTimeBaseStatePtp time new =
      { s with
        eventChanged := s.eventChanged || c1 || c2 || c3 || c4 || c5
        lastNotificationTime := time.getD s.lastNotificationTime
        ptpEventState := { e5 with
          notificationTimestamp := (time.getD {}).toNotification
          syncInterval := new.syncInterval }
        havePtp := true } := by
    unfold TimeBaseState.setTimeBaseStatePtp
    simp only [hr1, he1, hr2, hr3, hr4, hr5]
  rw [hnext]
  obtain ⟨v2, n2, rfl⟩ := f2
  obtain ⟨v3, b3, n3, rfl⟩ := f3
  obtain ⟨v4, n4, rfl⟩ := f4
  obtain ⟨v5, n5, rfl⟩ := f5
  subst he1
  simp only at h1 f1 h2 h3 h4 h5
  rw [f1.1, f1.2] at h3
  refine ⟨fun ev => ?_, ?_, fun ev h => ?_⟩
  · cases ev
    case offsetInRange => simpa [Event.count, Event.changed, ← h1.told] using h1.count
    case syncedWithGm => simpa [Event.count, Event.changed, ← h2.told] using h2.count
    case gmChanged => simpa [Event.count, Event.changed, ← h3.told] using h3.count
    case asCapable => simpa [Event.count, Event.changed, ← h4.told] using h4.count
    case composite => simpa [Event.count, Event.changed, ← h5.told] using h5.count
    case sysOffsetInRange => simp [Event.count, Event.changed, bump]
  · simp only [Bool.or_eq_true, or_assoc]
    refine or_congr_right ⟨?_, ?_⟩
    · rintro (hc | hc | hc | hc | hc)
      · exact ⟨.offsetInRange, h1.told.symm.trans hc⟩
      · exact ⟨.syncedWithGm, h2.told.symm.trans hc⟩
      · exact ⟨.gmChanged, h3.told.symm.trans hc⟩
      · exact ⟨.asCapable, h4.told.symm.trans hc⟩
      · exact ⟨.composite, h5.told.symm.trans hc⟩
    · rintro ⟨ev, hev⟩
      cases ev
      case offsetInRange => exact .inl (h1.told.trans hev)
      case syncedWithGm => exact .inr (.inl (h2.told.trans hev))
      case gmChanged => exact .inr (.inr (.inl (h3.told.trans hev)))
      case asCapable => exact .inr (.inr (.inr (.inl (h4.told.trans hev))))
      case composite => exact .inr (.inr (.inr (.inr (h5.told.trans hev))))
      case sysOffsetInRange => simp [Event.changed] at hev
  · cases ev
    case sysOffsetInRange => simpa [Event.changed, Event.available] using h
    all_goals rfl

/-- **Step**: every call that is no read counts what it changes. -/
theorem step_accounts (s : TimeBaseState) {op : Op} (hop : op ≠ .read) : Accounts s (s.step op) := by
  cases op with
  | subscribePtp sub => exact setPtpEventSub_accounts s sub
  | subscribeSys sub => exact setSysEventSub_accounts s sub
  | setSubscribed b => exact .of_same rfl rfl rfl ⟨rfl, rfl⟩
  | notifyPtp time new => exact setTimeBaseStatePtp_accounts s time new
  | notifySys time new => exact setTimeBaseStateSys_accounts s time new
  | read => exact absurd rfl hop

theorem changed_read (s : TimeBaseState) (ev : Event) : ev.changed s s.getTimeBaseState.2 = false := by
  cases ev <;> simp [Event.changed, TimeBaseState.getTimeBaseState]

theorem count_read (s : TimeBaseState) (ev : Event) : ev.count s.getTimeBaseState.2 = 0 := by
  cases ev <;> rfl

/-! ## Whole runs -/

/-- Between two reads no event changes as often as its counter can count. -/
def FewChanges (ops : List Op) : Prop :=
  ∀ pre seg post, ops = pre ++ seg ++ post → .read ∉ seg →
    ∀ ev : Event, changes ev (TimeBaseState.run {} pre) seg < 2 ^ 32

theorem changes_le_length (ev : Event) (s : TimeBaseState) (ops : List Op) :
    changes ev s ops ≤ ops.length := by
  induction ops generalizing s with
  | nil => exact Nat.zero_le _
  | cons op ops ih =>
      have hone := (ev.changed s (s.step op)).toNat_le
      have hrest := ih (s.step op)
      simp only [changes, List.length_cons]
      omega

/-- A short run has few changes. -/
theorem FewChanges.of_length {ops : List Op} (h : ops.length < 2 ^ 32) : FewChanges ops := by
  intro pre seg post hops _ ev
  have hle := changes_le_length ev (TimeBaseState.run {} pre) seg
  have hlen : ops.length = pre.length + seg.length + post.length := by simp [hops, Nat.add_assoc]
  omega

/-- What the reads of a run return for an event, all together. -/
def readCount (ev : Event) (s : TimeBaseState) (ops : List Op) : Nat :=
  ((reads s ops).map fun r => (ev.count r).toNat).sum

theorem readCount_append (ev : Event) (s : TimeBaseState) (ops ops' : List Op) :
    readCount ev s (ops ++ ops') = readCount ev s ops + readCount ev (s.run ops) ops' := by
  simp [readCount, reads_append]

theorem reads_eq_nil {ops : List Op} (hops : .read ∉ ops) (s : TimeBaseState) : reads s ops = [] := by
  induction ops generalizing s with
  | nil => rfl
  | cons op ops ih =>
      have htail : .read ∉ ops := fun h => hops (List.mem_cons_of_mem _ h)
      cases op with
      | read => exact absurd List.mem_cons_self hops
      | _ => exact ih htail _

/-- The counts of a state, its flag and its clocks fit together. -/
structure Consistent (s : TimeBaseState) : Prop where
  flag : s.eventChanged = true ↔ ∃ ev : Event, ev.count s ≠ 0
  available : ∀ ev : Event, ev.count s ≠ 0 → ev.available s = true

theorem consistent_read (s : TimeBaseState) : Consistent s.getTimeBaseState.2 where
  flag := by
    have hflag : s.getTimeBaseState.2.eventChanged = false := rfl
    simp only [hflag, count_read]
    simp
  available := fun ev h => absurd (count_read s ev) h

/-- What is left of a run: the calls after its last read, the changes of which are the counts. -/
structure Pending (ops seg : List Op) : Prop where
  suffix : seg <:+ ops
  noRead : .read ∉ seg
  count : ∀ ev : Event, ∀ pre, ops = pre ++ seg →
    (ev.count (TimeBaseState.run {} ops)).toNat = changes ev (TimeBaseState.run {} pre) seg
  sum : ∀ ev : Event, readCount ev {} ops + (ev.count (TimeBaseState.run {} ops)).toNat = changes ev {} ops
  consistent : Consistent (TimeBaseState.run {} ops)

theorem bump_toNat {n : UInt32} {c : Bool} (h : n.toNat + c.toNat < 2 ^ 32) :
    (bump n c).toNat = n.toNat + c.toNat := by
  cases c with
  | false => rfl
  | true =>
      rw [bump, if_pos rfl, UInt32.toNat_add]
      exact Nat.mod_eq_of_lt h

theorem Accounts.consistent {s s' : TimeBaseState} (h : Accounts s s') (hs : Consistent s)
    (hcount : ∀ ev : Event, (ev.count s').toNat = (ev.count s).toNat + (ev.changed s s').toNat) :
    Consistent s' := by
  have hzero : ∀ ev : Event, ev.count s' ≠ 0 ↔ ev.count s ≠ 0 ∨ ev.changed s s' = true := by
    intro ev
    have hn := hcount ev
    rw [ne_eq, ne_eq, ← UInt32.toNat_inj, ← UInt32.toNat_inj, hn, UInt32.toNat_zero]
    cases ev.changed s s' <;> simp
  refine ⟨?_, fun ev hev => h.available ev ?_⟩
  · rw [h.flag, hs.flag, ← exists_or]
    exact exists_congr fun ev => (hzero ev).symm
  · rcases (hzero ev).1 hev with hold | hnew
    · exact .inr (hs.available ev hold)
    · exact .inl hnew

theorem FewChanges.of_append {ops ops' : List Op} (h : FewChanges (ops ++ ops')) : FewChanges ops :=
  fun pre seg post hops => h pre seg (post ++ ops') (by rw [hops, List.append_assoc])

/-- **Run**: a read leaves nothing, and every other call adds its changes. -/
theorem pending_run (ops : List Op) (hfew : FewChanges ops) : ∃ seg, Pending ops seg := by
  -- over the calls in their order: `seg` grows until a read empties it
  induction ops using List.reverseRecOn with
  | nil =>
      refine ⟨[], List.suffix_rfl, by simp, ?_, ?_, ?_, ?_⟩
      · intro ev pre hpre
        cases ev <;> simp [changes, Event.count]
      · intro ev
        cases ev <;> rfl
      · refine ⟨by simp, ?_⟩
        rintro ⟨ev, hev⟩
        cases ev <;> exact absurd rfl hev
      · intro ev hev
        cases ev <;> exact absurd rfl hev
  | append_singleton ops op ih =>
      obtain ⟨seg, hseg⟩ := ih hfew.of_append
      obtain ⟨pre, hpre⟩ := hseg.suffix
      have hstep : TimeBaseState.run {} (ops ++ [op]) = (TimeBaseState.run {} ops).step op := by
        rw [TimeBaseState.run_append]
        rfl
      by_cases hop : op = .read
      · subst hop
        refine ⟨[], List.nil_suffix, by simp, ?_, ?_, ?_⟩
        · intro ev pre' _
          rw [hstep]
          exact congrArg UInt32.toNat (count_read _ ev)
        · intro ev
          rw [hstep, readCount_append, changes_append, ← hseg.sum ev]
          simp only [TimeBaseState.step, count_read, changes, changed_read]
          simp [readCount, reads, TimeBaseState.getTimeBaseState]
        · rw [hstep]
          exact consistent_read _
      · have hacc := step_accounts (TimeBaseState.run {} ops) hop
        have hnoRead : .read ∉ seg ++ [op] := by
          simp only [List.mem_append, List.mem_singleton, not_or]
          exact ⟨hseg.noRead, fun h => hop h.symm⟩
        have hchanges : ∀ ev : Event, changes ev (TimeBaseState.run {} pre) (seg ++ [op]) =
            (ev.count (TimeBaseState.run {} ops)).toNat +
              (ev.changed (TimeBaseState.run {} ops) ((TimeBaseState.run {} ops).step op)).toNat := by
          intro ev
          rw [changes_append, ← TimeBaseState.run_append, hpre, ← hseg.count ev pre hpre.symm]
          rfl
        have hcount : ∀ ev : Event, (ev.count ((TimeBaseState.run {} ops).step op)).toNat =
            (ev.count (TimeBaseState.run {} ops)).toNat +
              (ev.changed (TimeBaseState.run {} ops) ((TimeBaseState.run {} ops).step op)).toNat := by
          intro ev
          rw [hacc.count ev]
          refine bump_toNat ?_
          rw [← hchanges ev]
          exact hfew pre (seg ++ [op]) [] (by rw [← hpre]; simp) hnoRead ev
        refine ⟨seg ++ [op], ⟨pre, by rw [← hpre, List.append_assoc]⟩, hnoRead, ?_, ?_, ?_⟩
        · intro ev pre' hpre'
          have heq : pre' = pre := by
            rw [← hpre, List.append_assoc] at hpre'
            exact (List.append_cancel_right hpre').symm
          rw [hstep, hcount, heq, hchanges]
        · intro ev
          rw [hstep, hcount, readCount_append, changes_append, ← hseg.sum ev]
          have hnil : readCount ev (TimeBaseState.run {} ops) [op] = 0 := by
            rw [readCount, reads_eq_nil (by simpa using fun h => hop h.symm)]
            rfl
          simp only [hnil, changes]
          omega
        · rw [hstep]
          exact hacc.consistent hseg.consistent hcount

end PtpMgmt.ClkMgr
