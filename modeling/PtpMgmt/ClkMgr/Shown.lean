import PtpMgmt.ClkMgr.Accounting
import PtpMgmt.ClkMgr.Published

set_option autoImplicit false

/-! # What the application reads

A client keeps what it is told in the state of the time base, as far as the events are subscribed. When all
is quiet and the queue of the client is read, the state shows the event that the proxy publishes. -/

namespace PtpMgmt.ClkMgr

open Wire Clients

/-! ## The state and the last event -/

/-- The event that a call brings to the state. -/
def Op.tells : (c : Clock) → Op → Option c.Event
  | .ptp, .notifyPtp _ new => some new
  | .sys, .notifySys _ new => some new
  | _, _ => none

/-- The last event that the calls brought. -/
def lastTold (c : Clock) (ops : List Op) : c.Event := ((ops.filterMap (Op.tells c)).getLast?).getD c.clear

/-- The fields of the state are those of the event, as far as their events are subscribed. -/
structure ShowsPtp (s : TimeBaseState) (event : PtpEvent) : Prop where
  offset : s.ptpEventSub.eventMask &&& eventOffsetInRange ≠ 0 → s.ptpEventState.clockOffset = event.clockOffset
  synced : s.ptpEventSub.eventMask &&& eventSyncedWithGm ≠ 0 → s.ptpEventState.syncedWithGm = event.syncedWithGm
  gm : s.ptpEventSub.eventMask &&& eventGmChanged ≠ 0 → s.ptpEventState.gmClockUUID = event.gmClockUUID
  asCapable : s.ptpEventSub.eventMask &&& eventAsCapable ≠ 0 → s.ptpEventState.asCapable = event.asCapable
  interval : s.ptpEventState.syncInterval = event.syncInterval

structure ShowsSys (s : TimeBaseState) (event : ChronyEvent) : Prop where
  offset : s.sysEventSub.eventMask &&& eventOffsetInRange ≠ 0 → s.sysEventState.clockOffset = event.clockOffset
  gm : s.sysEventState.gmClockUUID = event.gmClockUUID
  interval : s.sysEventState.syncInterval = event.syncInterval

def Clock.Shows : (c : Clock) → TimeBaseState → c.Event → Prop
  | .ptp => ShowsPtp
  | .sys => ShowsSys

/-- The subscriptions of the clock come before its events. -/
def SubscribedFirst (c : Clock) (ops : List Op) : Prop :=
  ∀ pre op, pre ++ [op] <+: ops → c.subscribes op ≠ none → pre.filterMap (Op.tells c) = []

/-- The fields of the state that a notification may change, as they are at first. -/
def Clock.Untold : (c : Clock) → TimeBaseState → Prop
  | .ptp, s => s.ptpEventState.clockOffset = 0 ∧ s.ptpEventState.syncedWithGm = false ∧
    s.ptpEventState.gmClockUUID = 0 ∧ s.ptpEventState.asCapable = false ∧ s.ptpEventState.syncInterval = 0
  | .sys, s => s.sysEventState.clockOffset = 0 ∧ s.sysEventState.gmClockUUID = 0 ∧
    s.sysEventState.syncInterval = 0

theorem Clock.Untold.shows {c : Clock} {s : TimeBaseState} (h : c.Untold s) : c.Shows s c.clear := by
  cases c with
  | ptp =>
      obtain ⟨hoffset, hsynced, hgm, hcapable, hinterval⟩ := h
      exact ⟨fun _ => hoffset, fun _ => hsynced, fun _ => hgm, fun _ => hcapable, hinterval⟩
  | sys =>
      obtain ⟨hoffset, hgm, hinterval⟩ := h
      exact ⟨fun _ => hoffset, hgm, hinterval⟩

/-- What a notification leaves of the identity. -/
theorem setTimeBaseStatePtp_gm (s : TimeBaseState) (time : Option Timespec) (new : PtpEvent) :
    (s.setTimeBaseStatePtp time new).ptpEventState.gmClockUUID =
      if s.ptpEventSub.eventMask &&& eventGmChanged ≠ 0 then new.gmClockUUID
      else s.ptpEventState.gmClockUUID := by
  have hbase := (updateOffsetInRange_frame s.ptpEventSub.toClockSubscriptionBase new.clockOffset
    s.ptpEventState.toClockEventBase).1
  unfold TimeBaseState.setTimeBaseStatePtp updateSyncedWithGm updateGmChanged updateAsCapable updateComposite
  simp only
  split_ifs <;> simp_all

theorem setTimeBaseStatePtp_shows (s : TimeBaseState) (time : Option Timespec) (new : PtpEvent) :
    ShowsPtp (s.setTimeBaseStatePtp time new) new := by
  have hoffset := (setTimeBaseStatePtp_event s time new).1
  rw [updateOffsetInRange_offset] at hoffset
  obtain ⟨hsynced, hcapable⟩ := setTimeBaseStatePtp_conditions s time new
  refine ⟨fun hmask => ?_, fun hmask => hsynced.trans (if_pos hmask),
    fun hmask => (setTimeBaseStatePtp_gm s time new).trans (if_pos hmask),
    fun hmask => hcapable.trans (if_pos hmask), rfl⟩
  rw [hoffset]
  split
  · rfl
  · next hkept => exact (not_not.1 fun hne => hkept ⟨hmask, hne⟩).symm

theorem setTimeBaseStateSys_shows (s : TimeBaseState) (time : Option Timespec) (new : ChronyEvent) :
    ShowsSys (s.setTimeBaseStateSys time new) new := by
  have hoffset := updateOffsetInRange_offset s.sysEventSub.toClockSubscriptionBase new.clockOffset
    s.sysEventState
  refine ⟨fun hmask => hoffset.trans ?_, rfl, rfl⟩
  split
  · rfl
  · next hkept => exact (not_not.1 fun hne => hkept ⟨hmask, hne⟩).symm

/-- A call that is no notification leaves the fields as they are. -/
theorem step_untold {c : Clock} {op : Op} (htells : op.tells c = none) {s : TimeBaseState} (h : c.Untold s) :
    c.Untold (s.step op) := by
  cases c <;> cases op
  case ptp.subscribePtp sub =>
    rw [TimeBaseState.step, TimeBaseState.setPtpEventSub_eq]
    exact h
  case ptp.subscribeSys sub =>
    rw [TimeBaseState.step, TimeBaseState.setSysEventSub_eq]
    exact h
  case ptp.notifyPtp time new => cases htells
  case sys.subscribePtp sub =>
    rw [TimeBaseState.step, TimeBaseState.setPtpEventSub_eq]
    exact h
  case sys.subscribeSys sub =>
    rw [TimeBaseState.step, TimeBaseState.setSysEventSub_eq]
    exact h
  case sys.notifySys time new => cases htells
  all_goals exact h

/-- **A call**: what is shown then is the event that it brings, or the one from before. A subscription to the
    clock comes where no event was brought. -/
theorem step_shows {c : Clock} {s : TimeBaseState} {event : c.Event} (h : c.Shows s event) (op : Op)
    (hsub : c.subscribes op ≠ none → c.Untold s ∧ event = c.clear) :
    c.Shows (s.step op) ((op.tells c).getD event) := by
  by_cases hfirst : c.subscribes op = none
  · cases c <;> cases op
    case ptp.subscribePtp sub => cases hfirst
    case ptp.subscribeSys sub =>
      rw [TimeBaseState.step, TimeBaseState.setSysEventSub_eq]
      exact ⟨h.offset, h.synced, h.gm, h.asCapable, h.interval⟩
    case ptp.notifyPtp time new => exact setTimeBaseStatePtp_shows s time new
    case sys.subscribePtp sub =>
      rw [TimeBaseState.step, TimeBaseState.setPtpEventSub_eq]
      exact ⟨h.offset, h.gm, h.interval⟩
    case sys.subscribeSys sub => cases hfirst
    case sys.notifySys time new => exact setTimeBaseStateSys_shows s time new
    case ptp.setSubscribed b => exact ⟨h.offset, h.synced, h.gm, h.asCapable, h.interval⟩
    case ptp.notifySys time new => exact ⟨h.offset, h.synced, h.gm, h.asCapable, h.interval⟩
    case ptp.read => exact ⟨h.offset, h.synced, h.gm, h.asCapable, h.interval⟩
    case sys.setSubscribed b => exact ⟨h.offset, h.gm, h.interval⟩
    case sys.notifyPtp time new => exact ⟨h.offset, h.gm, h.interval⟩
    case sys.read => exact ⟨h.offset, h.gm, h.interval⟩
  · obtain ⟨huntold, rfl⟩ := hsub hfirst
    have htells : op.tells c = none := by
      cases c <;> cases op <;> first | rfl | exact absurd rfl hfirst
    rw [htells]
    exact (step_untold htells huntold).shows

theorem lastTold_snoc (c : Clock) (ops : List Op) (op : Op) :
    lastTold c (ops ++ [op]) = (op.tells c).getD (lastTold c ops) := by
  rw [lastTold, List.filterMap_append]
  cases h : op.tells c with
  | none => simp [h, lastTold]
  | some event => simp [h]

/-- The state shows the last event, in every run of calls. -/
theorem run_shows (c : Clock) {ops : List Op} (hfirst : SubscribedFirst c ops) :
    c.Shows (TimeBaseState.run {} ops) (lastTold c ops) ∧
      (ops.filterMap (Op.tells c) = [] → c.Untold (TimeBaseState.run {} ops)) := by
  induction ops using List.reverseRecOn with
  | nil =>
      have huntold : c.Untold {} := by cases c <;> simp [Clock.Untold]
      exact ⟨huntold.shows, fun _ => huntold⟩
  | append_singleton ops op ih =>
      obtain ⟨hshows, huntold⟩ := ih fun pre op' hpre => hfirst pre op' (hpre.trans (List.prefix_append _ _))
      have hnone : ops.filterMap (Op.tells c) = [] → lastTold c ops = c.clear := by
        intro hnil
        rw [lastTold, hnil]
        rfl
      rw [TimeBaseState.run_append, lastTold_snoc]
      constructor
      · refine step_shows hshows op fun hsub => ?_
        have hnil := hfirst ops op (List.prefix_refl _) hsub
        exact ⟨huntold hnil, hnone hnil⟩
      · intro hnil
        rw [List.filterMap_append, List.append_eq_nil_iff] at hnil
        refine step_untold ?_ (huntold hnil.1)
        by_contra htells
        obtain ⟨event, hevent⟩ := Option.ne_none_iff_exists'.1 htells
        simp [hevent] at hnil

/-! ## From the proxy to the application -/

theorem heard_eq (c : Clock) (i : UInt64) (calls : List ClientDone) :
    heard c i calls = ((calls.filterMap (ClientDone.tells c i)).getLast?).getD c.clear := by
  induction calls using List.reverseRecOn with
  | nil => rfl
  | append_singleton calls done ih =>
      rw [heard_append, List.filterMap_append]
      cases h : done.tells c i with
      | none => simp [h, ih]
      | some event => simp [h]

namespace World

/-- All is quiet around a subscription: no thread is in a call, the listener does not work on it, and the
    client has read its queue. -/
structure Rests (w : World) (i : UInt64) (sid : SessionId) : Prop where
  sub : sid ∈ w.clients.subscribedClients i.toNat
  mem : sid ∈ w.clients.sessionMap
  quiet : w.clients.Quiet
  handled : ¬ w.Subscribing i.toNat sid
  read : w.queue (w.clientId sid) = []

theorem Rests.served {w : World} {i : UInt64} {sid : SessionId} (h : w.Rests i sid) (c : Clock) :
    w.Served c i sid where
  sub := h.sub
  mem := h.mem
  stays t := by
    rw [h.quiet t]
    exact id
  told := by
    rw [h.quiet]
    exact id

/-- **The application reads what is published**: behind a run of the proxy with its clients whose replies
    are current, when all rests, the state of the time base shows the event of the clock as the proxy
    publishes it, whatever the application called in between, if it subscribed to the clock before the first
    event. -/
theorem published_shown (p : Serving) (es : List Event) (w : World) (hrun : run p init es = some w)
    (hcurrent : Runs.Along (step p) RepliesCurrent init es) {i : UInt64} {sid : SessionId} (hrests : w.Rests i sid)
    (c : Clock) {ops : List Op} (hfirst : SubscribedFirst c ops)
    (hops : ops.filterMap (Op.tells c) = (w.calls (w.clientId sid)).filterMap (ClientDone.tells c i)) :
    c.Shows (TimeBaseState.run {} ops) (w.events c i) := by
  have hfresh : w.Fresh := ((throughout_fresh_iff p es).2 hcurrent).last hrun
  have hheard := hfresh c i sid (hrests.served c) hrests.handled
  rw [pending, hrests.read, List.filterMap_nil, List.append_nil, heard_eq, ← hops] at hheard
  rw [← hheard]
  exact (run_shows c hfirst).1

/-- Without clients the loop of `notifyClients` has nothing to do. -/
theorem notify_empty {s : Clients} {t idx : Nat} (h : s.subscribedClients idx = ∅) :
    s.notify t idx true = { s with readers := Function.update s.readers idx (s.readers idx + 1) }.goto t
      (.notifying idx [] []) := by
  rw [notify, if_pos rfl, h, Finset.sort_empty]

/-- The proxy has published an event before there is a client. -/
def early : World := init.publish oneBase .ptp 1 oneEvent

theorem early_notify : early.step oneBase (.go (.worker .ptp 1) true) = some
    { early with
      clients := { early.clients with readers := Function.update (fun _ => 0) 1 1 }.goto 3 (.notifying 1 [] [])
      notifyBuff := Function.update early.notifyBuff .ptp
        (Function.update (early.notifyBuff .ptp) 1 (early.notice oneBase .ptp 1)) } := by
  have hpc : early.clients.pc (Thread.worker .ptp 1).id = .notify 1 := rfl
  have hadv : early.clients.advance oneBase.timeBases (Thread.worker .ptp 1).id true =
      some (early.clients.notify (Thread.worker .ptp 1).id 1 true) := rfl
  rw [notify_empty rfl] at hadv
  simp only [step, work, hpc, makeBuffer_notice oneBase early .ptp (i := 1) (by decide), hadv]
  rfl

/-- The event is published, and then a client subscribes. -/
def subscribesLate : List Event :=
  [.publish .ptp 1 oneEvent, .go (.worker .ptp 1) true, .go (.worker .ptp 1) true, .go (.worker .ptp 1) true] ++
    subscribes

def offsetAndSynced : PTPClockSubscription :=
  (PTPClockSubscription.init.setEventMask (eventOffsetInRange ||| eventSyncedWithGm)).2

set_option maxRecDepth 20000 in
theorem published_shown_subscribesLate : ∃ w, run oneBase init subscribesLate = some w ∧
    Clock.ptp.Shows (TimeBaseState.run {} [.subscribePtp offsetAndSynced, .notifyPtp none oneEvent, .setSubscribed true])
      (w.events .ptp 1) := by
  refine ⟨_, Runs.run_cons.2 ⟨_, rfl, Runs.run_cons.2 ⟨_, early_notify, rfl⟩⟩, ?_⟩
  refine published_shown oneBase subscribesLate _ (Runs.run_cons.2 ⟨_, rfl, Runs.run_cons.2 ⟨_, early_notify, rfl⟩⟩)
    ?_ (⟨?_, ?_, ?_, ?_, ?_⟩ : Rests _ 1 0) .ptp ?_ ?_
  · refine .cons trivial rfl (.cons trivial early_notify (.cons trivial rfl (.cons trivial rfl ?_)))
    have hother : ∀ {w : World} {ok : Bool}, (∀ msg rxBuff, w.listener ≠ .sendBuffer msg rxBuff) →
        w.RepliesCurrent (.go .listener ok) := fun hno msg rxBuff hat => absurd hat (hno msg rxBuff)
    refine .cons trivial rfl (.cons (hother nofun) rfl (.cons (hother nofun) rfl (.cons ?_ rfl
      (.cons trivial rfl (.cons (hother nofun) rfl (.cons (hother nofun) rfl (.cons (hother nofun) rfl
        (.cons (hother nofun) rfl (.cons (hother nofun) rfl (.cons ?_ rfl (.cons trivial rfl
          (.cons trivial rfl trivial))))))))))))
    · rintro _ _ ⟨⟩ hid
      cases hid
    · rintro _ _ ⟨⟩ - - - c sid - - done hdone
      cases hdone
      cases c <;> rfl
  · decide
  · decide
  · rintro (_ | _ | _ | _ | t) <;> rfl
  · rintro ⟨_, hmsg, -⟩
    cases hmsg
  · rfl
  · rintro pre op hpre hsub
    rcases pre with _ | ⟨_, _ | ⟨_, _ | ⟨_, pre⟩⟩⟩
    · rfl
    all_goals simp [List.cons_prefix_cons] at hpre
    · obtain ⟨-, rfl⟩ := hpre
      exact absurd rfl hsub
    · obtain ⟨-, -, rfl⟩ := hpre
      exact absurd rfl hsub
  · rfl

end World

end PtpMgmt.ClkMgr
