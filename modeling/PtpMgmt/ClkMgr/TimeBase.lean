import Mathlib.Algebra.Order.Ring.Int
import Mathlib.Tactic.Common

set_option autoImplicit false

/-! # The state of a time base on the client (`timebase_state.cpp`, `subscription.cpp`)

A time base takes subscriptions from the user and notifications from the proxy, and the user reads it.
Notifications count the changes of the events that are subscribed; a read takes a copy and starts the
counts again. The calls hold one lock for all they do, so a run is a sequence of calls.

The model is that of one time base. `TimeBaseStates` keeps one state for every index, and a call only
touches the state of its index. -/

namespace PtpMgmt.ClkMgr

/-! ## Events (`types.m4`, `event.h`) -/

/-- `EventIndex`. -/
def eventOffsetInRange : UInt32 := 1 <<< (0 : UInt32)

def eventSyncedWithGm : UInt32 := 1 <<< (1 : UInt32)

def eventAsCapable : UInt32 := 1 <<< (2 : UInt32)

def eventGmChanged : UInt32 := 1 <<< (3 : UInt32)

/-- `PTP_EVENT_ALL`. -/
def ptpEventAll : UInt32 :=
  eventOffsetInRange ||| eventSyncedWithGm ||| eventAsCapable ||| eventGmChanged

/-- `SYS_EVENT_ALL`. -/
def sysEventAll : UInt32 := eventOffsetInRange

/-- `PTP_COMPOSITE_EVENT_ALL`. -/
def ptpCompositeEventAll : UInt32 := eventOffsetInRange ||| eventSyncedWithGm ||| eventAsCapable

/-- `ptp_event`. -/
structure PtpEvent where
  clockOffset : Int64
  gmClockUUID : UInt64
  syncInterval : UInt64
  asCapable : Bool
  syncedWithGm : Bool
deriving DecidableEq, Inhabited

/-- `chrony_event`. -/
structure ChronyEvent where
  clockOffset : Int64
  gmClockUUID : UInt64
  syncInterval : UInt64
deriving DecidableEq, Inhabited

/-- `ClockEventBase`, which is all of `SysClockEvent`. -/
structure ClockEventBase where
  clockOffset : Int64 := 0
  syncInterval : UInt64 := 0
  gmClockUUID : UInt64 := 0
  notificationTimestamp : UInt64 := 0
  offsetInRangeCount : UInt32 := 0
  gmChangedCount : UInt32 := 0
  offsetInRange : Bool := true
  gmChanged : Bool := false
deriving DecidableEq

structure PTPClockEvent extends ClockEventBase where
  syncedWithGmCount : UInt32 := 0
  asCapableCount : UInt32 := 0
  compositeEventCount : UInt32 := 0
  syncedWithGm : Bool := false
  asCapable : Bool := false
  compositeEvent : Bool := false
deriving DecidableEq

/-! ## Subscriptions -/

structure ClockSubscriptionBase where
  clockOffsetThreshold : UInt32 := 0
  eventMask : UInt32 := 0

/-- `PTPClockSubscription`. The setters refuse every other mask. -/
structure PTPClockSubscription extends ClockSubscriptionBase where
  compositeEventMask : UInt32 := 0
  eventMask_le : eventMask ≤ ptpEventAll
  composite_le : compositeEventMask &&& ~~~ptpCompositeEventAll = 0

/-- `SysClockSubscription`. The setter refuses every other mask. -/
structure SysClockSubscription extends ClockSubscriptionBase where
  eventMask_le : eventMask ≤ sysEventAll

namespace PTPClockSubscription

def init : PTPClockSubscription where
  eventMask_le := by decide
  composite_le := by decide

def setClockOffsetThreshold (s : PTPClockSubscription) (threshold : UInt32) : PTPClockSubscription :=
  { s with clockOffsetThreshold := threshold }

def setEventMask (s : PTPClockSubscription) (newEventMask : UInt32) : Bool × PTPClockSubscription :=
  if h : newEventMask > ptpEventAll then (false, s)
  else (true, { s with eventMask := newEventMask, eventMask_le := UInt32.not_lt.1 h })

def setCompositeEventMask (s : PTPClockSubscription) (mask : UInt32) : Bool × PTPClockSubscription :=
  if h : mask &&& ~~~ptpCompositeEventAll ≠ 0 then (false, s)
  else (true, { s with compositeEventMask := mask, composite_le := not_not.1 h })

end PTPClockSubscription

namespace SysClockSubscription

def init : SysClockSubscription where
  eventMask_le := by decide

def setClockOffsetThreshold (s : SysClockSubscription) (threshold : UInt32) : SysClockSubscription :=
  { s with clockOffsetThreshold := threshold }

def setEventMask (s : SysClockSubscription) (newEventMask : UInt32) : Bool × SysClockSubscription :=
  if h : newEventMask > sysEventAll then (false, s)
  else (true, { s with eventMask := newEventMask, eventMask_le := UInt32.not_lt.1 h })

end SysClockSubscription

/-! ## The state -/

structure Timespec where
  sec : Int64 := 0
  nsec : Int64 := 0
deriving DecidableEq

structure TimeBaseState where
  subscribed : Bool := false
  eventChanged : Bool := false
  ptpEventState : PTPClockEvent := {}
  sysEventState : ClockEventBase := {}
  ptpEventSub : PTPClockSubscription := .init
  sysEventSub : SysClockSubscription := .init
  lastNotificationTime : Timespec := {}
  havePtp : Bool := false
  haveSys : Bool := false

namespace TimeBaseState

/-- `set_ptpEventSub`. The masks of a subscription pass the checks that were made when it was set. -/
def setPtpEventSub (s : TimeBaseState) (eSub : PTPClockSubscription) : Bool × TimeBaseState :=
  let sub := s.ptpEventSub.setClockOffsetThreshold eSub.clockOffsetThreshold
  match sub.setEventMask eSub.eventMask with
  | (false, sub) => (false, { s with ptpEventSub := sub })
  | (true, sub) =>
    let (ok, sub) := sub.setCompositeEventMask eSub.compositeEventMask
    (ok, { s with ptpEventSub := sub })

/-- `set_sysEventSub`. -/
def setSysEventSub (s : TimeBaseState) (eSub : SysClockSubscription) : Bool × TimeBaseState :=
  let sub := s.sysEventSub.setClockOffsetThreshold eSub.clockOffsetThreshold
  let (ok, sub) := sub.setEventMask eSub.eventMask
  (ok, { s with sysEventSub := sub })

/-- A subscription is never refused. -/
theorem setPtpEventSub_eq (s : TimeBaseState) (eSub : PTPClockSubscription) :
    s.setPtpEventSub eSub = (true, { s with ptpEventSub := eSub }) := by
  have hmask : ¬ eSub.eventMask > ptpEventAll := UInt32.not_lt.2 eSub.eventMask_le
  unfold setPtpEventSub
  simp only [PTPClockSubscription.setEventMask, dif_neg hmask,
    PTPClockSubscription.setCompositeEventMask, dif_neg (not_not.2 eSub.composite_le),
    PTPClockSubscription.setClockOffsetThreshold]

theorem setSysEventSub_eq (s : TimeBaseState) (eSub : SysClockSubscription) :
    s.setSysEventSub eSub = (true, { s with sysEventSub := eSub }) := by
  have hmask : ¬ eSub.eventMask > sysEventAll := UInt32.not_lt.2 eSub.eventMask_le
  unfold setSysEventSub
  simp only [SysClockSubscription.setEventMask, dif_neg hmask,
    SysClockSubscription.setClockOffsetThreshold]

end TimeBaseState

/-! ## Notifications -/

/-- The test of an offset against a threshold. The threshold is kept in an `int32_t`; its negation, which
    the language leaves open for the least `int32_t`, wraps. -/
def inRange (threshold : UInt32) (offset : Int64) : Bool :=
  let t : Int32 := threshold.toInt32
  decide ((-t).toInt ≤ offset.toInt) && decide (offset.toInt ≤ t.toInt)

/-- Update EventOffsetInRange, the same for both clocks. The second part tells of a change. -/
def updateOffsetInRange (sub : ClockSubscriptionBase) (offset : Int64) (e : ClockEventBase) :
    ClockEventBase × Bool :=
  if sub.eventMask &&& eventOffsetInRange ≠ 0 ∧ offset ≠ e.clockOffset then
    let e := { e with clockOffset := offset }
    if inRange sub.clockOffsetThreshold e.clockOffset then
      if !e.offsetInRange then
        ({ e with offsetInRange := true, offsetInRangeCount := e.offsetInRangeCount + 1 }, true)
      else (e, false)
    else if e.offsetInRange then
      ({ e with offsetInRange := false, offsetInRangeCount := e.offsetInRangeCount + 1 }, true)
    else (e, false)
  else (e, false)

/-- Update EventSyncedWithGm. -/
def updateSyncedWithGm (sub : PTPClockSubscription) (new : PtpEvent) (e : PTPClockEvent) :
    PTPClockEvent × Bool :=
  if sub.eventMask &&& eventSyncedWithGm ≠ 0 ∧ new.syncedWithGm ≠ e.syncedWithGm then
    ({ e with syncedWithGm := new.syncedWithGm, syncedWithGmCount := e.syncedWithGmCount + 1 }, true)
  else (e, false)

/-- Update EventGmChanged. -/
def updateGmChanged (sub : PTPClockSubscription) (new : PtpEvent) (e : PTPClockEvent) :
    PTPClockEvent × Bool :=
  if sub.eventMask &&& eventGmChanged ≠ 0 ∧ e.gmClockUUID ≠ new.gmClockUUID then
    ({ e with
      gmClockUUID := new.gmClockUUID
      gmChanged := true
      gmChangedCount := e.gmChangedCount + 1 }, true)
  else (e, false)

/-- Update EventAsCapable. -/
def updateAsCapable (sub : PTPClockSubscription) (new : PtpEvent) (e : PTPClockEvent) :
    PTPClockEvent × Bool :=
  if sub.eventMask &&& eventAsCapable ≠ 0 ∧ new.asCapable ≠ e.asCapable then
    ({ e with asCapable := new.asCapable, asCapableCount := e.asCapableCount + 1 }, true)
  else (e, false)

/-- The conditions of the composite event, as the state has them. -/
def compositeOf (sub : PTPClockSubscription) (e : PTPClockEvent) : Bool :=
  (sub.compositeEventMask &&& eventOffsetInRange == 0 || e.offsetInRange) &&
  (sub.compositeEventMask &&& eventSyncedWithGm == 0 || e.syncedWithGm) &&
  (sub.compositeEventMask &&& eventAsCapable == 0 || e.asCapable)

/-- Update composite event. -/
def updateComposite (sub : PTPClockSubscription) (e : PTPClockEvent) : PTPClockEvent × Bool :=
  if sub.compositeEventMask ≠ 0 ∧ compositeOf sub e ≠ e.compositeEvent then
    ({ e with
      compositeEvent := compositeOf sub e
      compositeEventCount := e.compositeEventCount + 1 }, true)
  else (e, false)

/-- `tv_sec * NSEC_PER_SEC + tv_nsec`. -/
def Timespec.toNotification (t : Timespec) : UInt64 := t.sec.toUInt64 * 1000000000 + t.nsec.toUInt64

namespace TimeBaseState

/-- `TimeBaseStates::setTimeBaseStatePtp`. `time` is what the clock answers. -/
def setTimeBaseStatePtp (s : TimeBaseState) (time : Option Timespec) (new : PtpEvent) :
    TimeBaseState :=
  let sub := s.ptpEventSub
  let (base, c1) := updateOffsetInRange sub.toClockSubscriptionBase new.clockOffset
    s.ptpEventState.toClockEventBase
  let e := { s.ptpEventState with toClockEventBase := base }
  let (e, c2) := updateSyncedWithGm sub new e
  let (e, c3) := updateGmChanged sub new e
  let (e, c4) := updateAsCapable sub new e
  let (e, c5) := updateComposite sub e
  { s with
    eventChanged := s.eventChanged || c1 || c2 || c3 || c4 || c5
    lastNotificationTime := time.getD s.lastNotificationTime
    ptpEventState := { e with
      notificationTimestamp := (time.getD {}).toNotification
      syncInterval := new.syncInterval }
    havePtp := true }

/-- `TimeBaseStates::setTimeBaseStateSys`. The identity of the source is taken over, changed or not. -/
def setTimeBaseStateSys (s : TimeBaseState) (time : Option Timespec) (new : ChronyEvent) :
    TimeBaseState :=
  let (e, c) := updateOffsetInRange s.sysEventSub.toClockSubscriptionBase new.clockOffset
    s.sysEventState
  { s with
    eventChanged := s.eventChanged || c
    lastNotificationTime := time.getD s.lastNotificationTime
    sysEventState := { e with
      gmClockUUID := new.gmClockUUID
      syncInterval := new.syncInterval
      notificationTimestamp := (time.getD {}).toNotification }
    haveSys := true }

/-- `TimeBaseStates::getTimeBaseState`: the copy for the reader, and the state that starts again. -/
def getTimeBaseState (s : TimeBaseState) : TimeBaseState × TimeBaseState :=
  (s, { s with
    ptpEventState := { s.ptpEventState with
      offsetInRangeCount := 0
      syncedWithGmCount := 0
      gmChangedCount := 0
      asCapableCount := 0
      compositeEventCount := 0
      gmChanged := false }
    sysEventState := { s.sysEventState with offsetInRangeCount := 0 }
    eventChanged := false })

end TimeBaseState

/-! ## Runs -/

/-- A call on the time base. -/
inductive Op
  | subscribePtp (sub : PTPClockSubscription)
  | subscribeSys (sub : SysClockSubscription)
  | setSubscribed (subscribed : Bool)
  | notifyPtp (time : Option Timespec) (new : PtpEvent)
  | notifySys (time : Option Timespec) (new : ChronyEvent)
  | read

namespace TimeBaseState

def step (s : TimeBaseState) : Op → TimeBaseState
  | .subscribePtp sub => (s.setPtpEventSub sub).2
  | .subscribeSys sub => (s.setSysEventSub sub).2
  | .setSubscribed subscribed => { s with subscribed }
  | .notifyPtp time new => s.setTimeBaseStatePtp time new
  | .notifySys time new => s.setTimeBaseStateSys time new
  | .read => s.getTimeBaseState.2

/-- The state after one call after the other. -/
def run (s : TimeBaseState) (ops : List Op) : TimeBaseState := ops.foldl step s

@[simp] theorem run_nil (s : TimeBaseState) : s.run [] = s := rfl
@[simp] theorem run_cons (s : TimeBaseState) (op : Op) (ops : List Op) :
    s.run (op :: ops) = (s.step op).run ops := rfl
theorem run_append (s : TimeBaseState) (ops ops' : List Op) :
    s.run (ops ++ ops') = (s.run ops).run ops' := List.foldl_append

end TimeBaseState

end PtpMgmt.ClkMgr
