import PtpMgmt.ClkMgr.Accounting

set_option autoImplicit false

/-! # Waiting for events (`clockmanager.cpp`)

A client that waits reads the time base again and again, and throws away what it read until the flag is
set. It gets every change once: what it throws away has no counts. -/

namespace PtpMgmt.ClkMgr

/-! ## The client -/

/-- `ClockSyncData`. -/
structure ClockSyncData where
  ptpAvailable : Bool := false
  sysAvailable : Bool := false
  ptpClockSync : PTPClockEvent := {}
  sysClockSync : ClockEventBase := {}

/-- `ClockSyncBaseHandler::updateAll`. The data of a clock that is not available stays. -/
def updateAll (data : ClockSyncData) (state : TimeBaseState) : ClockSyncData where
  ptpAvailable := state.havePtp
  sysAvailable := state.haveSys
  ptpClockSync := if state.havePtp then state.ptpEventState else data.ptpClockSync
  sysClockSync := if state.haveSys then state.sysEventState else data.sysClockSync

inductive StatusWaitResult
  | lostConnection
  | invalidArgument
  | noEventDetected
  | eventDetected
deriving DecidableEq

/-- One round of the loop: the calls that other threads make before it reads, and what its checks find. -/
structure Round where
  calls : List Op
  connected : Bool
  alive : Bool
  timeUp : Bool

/-- What a client has after it waited. There is no result while the loop goes on. -/
structure Waited where
  result : Option StatusWaitResult
  data : ClockSyncData
  state : TimeBaseState

/-- The loop of `_statusWait`. -/
def statusWaitLoop (s : TimeBaseState) (data : ClockSyncData) : List Round → Waited
  | [] => ⟨none, data, s⟩
  | r :: rs =>
    let s := s.run r.calls
    if !r.connected then ⟨some .lostConnection, data, s⟩
    else
      let (state, s) := s.getTimeBaseState
      if state.eventChanged then ⟨some .eventDetected, updateAll data state, s⟩
      else if !r.alive then ⟨some .lostConnection, data, s⟩
      else if r.timeUp then ⟨some .noEventDetected, updateAll data state, s⟩
      else statusWaitLoop s data rs

/-- `ClockManager::statusWait`. -/
def statusWait (s : TimeBaseState) (data : ClockSyncData) (connected : Bool) (rounds : List Round) :
    Waited :=
  if !connected then ⟨some .lostConnection, data, s⟩
  else if !s.subscribed then ⟨some .invalidArgument, data, s⟩
  else statusWaitLoop s data rounds

/-- What a client and the other threads do. -/
inductive Action
  /-- A call of another thread. -/
  | other (op : Op)
  /-- The end of `_subscribe`: the client reads. -/
  | subscribed
  | statusWait (connected : Bool) (rounds : List Round)

/-- The data that an action gives to the client, if it does. -/
def Action.act (s : TimeBaseState) (data : ClockSyncData) : Action → Option ClockSyncData × TimeBaseState
  | .other op => (none, s.step op)
  | .subscribed => (some (updateAll data s.getTimeBaseState.1), s.getTimeBaseState.2)
  | .statusWait connected rounds =>
    let w := ClkMgr.statusWait s data connected rounds
    match w.result with
    | some .eventDetected => (some w.data, w.state)
    | some .noEventDetected => (some w.data, w.state)
    | _ => (none, w.state)

/-- The data that the client gets, one after the other. -/
def reports (s : TimeBaseState) (data : ClockSyncData) : List Action → List ClockSyncData
  | [] => []
  | a :: as =>
    let (report, s) := a.act s data
    report.toList ++ reports s (report.getD data) as

/-- The counts of an event that the client finds in its data. -/
def Event.reported (data : ClockSyncData) : Event → Nat
  | .sysOffsetInRange => if data.sysAvailable then data.sysClockSync.offsetInRangeCount.toNat else 0
  | .offsetInRange => if data.ptpAvailable then data.ptpClockSync.offsetInRangeCount.toNat else 0
  | .syncedWithGm => if data.ptpAvailable then data.ptpClockSync.syncedWithGmCount.toNat else 0
  | .gmChanged => if data.ptpAvailable then data.ptpClockSync.gmChangedCount.toNat else 0
  | .asCapable => if data.ptpAvailable then data.ptpClockSync.asCapableCount.toNat else 0
  | .composite => if data.ptpAvailable then data.ptpClockSync.compositeEventCount.toNat else 0

/-- The calls of the loop on the time base, with those of the others. -/
def loopCalls (s : TimeBaseState) : List Round → List Op
  | [] => []
  | r :: rs =>
    if !r.connected then r.calls
    else r.calls ++ .read ::
      (if (s.run r.calls).eventChanged || !r.alive || r.timeUp then []
        else loopCalls (s.run r.calls).getTimeBaseState.2 rs)

def Action.calls (s : TimeBaseState) : Action → List Op
  | .other op => [op]
  | .subscribed => [.read]
  | .statusWait connected rounds => if connected && s.subscribed then loopCalls s rounds else []

/-- The calls of all actions on the time base. -/
def allCalls (s : TimeBaseState) : List Action → List Op
  | [] => []
  | a :: as => a.calls s ++ allCalls (s.run (a.calls s)) as

/-- Only the client reads. -/
def Action.OneReader : Action → Prop
  | .other op => op ≠ .read
  | .subscribed => True
  | .statusWait _ rounds => ∀ r ∈ rounds, .read ∉ r.calls

/-! ## What the client gets -/

theorem Consistent.count_eq_zero {s : TimeBaseState} (h : Consistent s) (hflag : s.eventChanged = false)
    (ev : Event) : ev.count s = 0 := by
  by_contra hne
  have hset := h.flag.2 ⟨ev, hne⟩
  rw [hflag] at hset
  exact absurd hset (by simp)

theorem Consistent.reported {s : TimeBaseState} (h : Consistent s) (data : ClockSyncData) (ev : Event) :
    ev.reported (updateAll data s) = (ev.count s).toNat := by
  by_cases hav : ev.available s = true
  · cases ev <;> simp only [Event.available] at hav <;> simp [Event.reported, updateAll, Event.count, hav]
  · have hzero : ev.count s = 0 := not_not.1 fun hne => hav (h.available ev hne)
    rw [hzero]
    cases ev <;> simp only [Event.available] at hav <;> simp [Event.reported, updateAll, hav]

/-- The state is consistent before and after every call. -/
def Steady (s : TimeBaseState) (ops : List Op) : Prop :=
  ∀ pre post, ops = pre ++ post → Consistent (s.run pre)

theorem Steady.left {s : TimeBaseState} {ops ops' : List Op} (h : Steady s (ops ++ ops')) :
    Steady s ops :=
  fun pre post hops => h pre (post ++ ops') (by rw [hops, List.append_assoc])

theorem Steady.right {s : TimeBaseState} {ops ops' : List Op} (h : Steady s (ops ++ ops')) :
    Steady (s.run ops) ops' := by
  intro pre post hops
  rw [← TimeBaseState.run_append]
  exact h (ops ++ pre) post (by rw [hops, List.append_assoc])

theorem FewChanges.steady {ops : List Op} (hfew : FewChanges ops) : Steady {} ops := by
  intro pre post hops
  subst hops
  obtain ⟨seg, hseg⟩ := pending_run pre hfew.of_append
  exact hseg.consistent

/-- The counts of an event in what a wait gives to the client. -/
def Waited.reported (w : Waited) (ev : Event) : Nat :=
  if w.result = some .eventDetected ∨ w.result = some .noEventDetected then ev.reported w.data else 0

theorem readCount_eq_zero {ops : List Op} (hops : .read ∉ ops) (ev : Event) (s : TimeBaseState) :
    readCount ev s ops = 0 := by
  rw [readCount, reads_eq_nil hops]
  rfl

theorem getTimeBaseState_fst (s : TimeBaseState) : s.getTimeBaseState.1 = s := rfl

theorem readCount_read (ev : Event) (s : TimeBaseState) (ops : List Op) :
    readCount ev s (.read :: ops) = (ev.count s).toNat + readCount ev s.getTimeBaseState.2 ops := rfl

/-- The loop gives all it reads: a read that it throws away has no counts. -/
theorem statusWaitLoop_reported (data : ClockSyncData) (ev : Event) (rounds : List Round)
    (s : TimeBaseState) (hsteady : Steady s (loopCalls s rounds))
    (hone : ∀ r ∈ rounds, .read ∉ r.calls) :
    (statusWaitLoop s data rounds).state = s.run (loopCalls s rounds) ∧
    (statusWaitLoop s data rounds).reported ev = readCount ev s (loopCalls s rounds) := by
  induction rounds generalizing s with
  | nil => exact ⟨rfl, rfl⟩
  | cons r rs ih =>
      have hcalls := readCount_eq_zero (hone r List.mem_cons_self) ev s
      unfold loopCalls at hsteady ⊢
      unfold statusWaitLoop
      by_cases hconn : r.connected = true
      · simp only [hconn, Bool.not_true, Bool.false_eq_true, if_false] at hsteady ⊢
        have hread : Consistent (s.run r.calls) := hsteady r.calls _ rfl
        rw [readCount_append, hcalls, Nat.zero_add, readCount_read, TimeBaseState.run_append,
          TimeBaseState.run_cons]
        rw [getTimeBaseState_fst]
        by_cases hflag : (s.run r.calls).eventChanged = true
        · simp only [hflag, if_true, Bool.true_or]
          refine ⟨rfl, ?_⟩
          simpa [Waited.reported, readCount, reads] using hread.reported data ev
        · have hzero := hread.count_eq_zero (by simpa using hflag) ev
          rw [Bool.not_eq_true] at hflag
          simp only [hflag, Bool.false_or, Bool.false_eq_true, if_false, hzero] at hsteady ⊢
          by_cases halive : r.alive = true
          · by_cases htime : r.timeUp = true
            · simp only [halive, htime, Bool.not_true, Bool.false_eq_true, if_false, if_true,
                Bool.or_true]
              refine ⟨rfl, ?_⟩
              simpa [Waited.reported, readCount, reads, hzero] using hread.reported data ev
            · simp only [halive, htime, Bool.not_true, Bool.false_eq_true, if_false, Bool.or_self]
                at hsteady ⊢
              have hnext : Steady (s.run r.calls) ([.read] ++ loopCalls _ rs) := hsteady.right
              have hrest := ih (s.run r.calls).getTimeBaseState.2 hnext.right
                fun r hr => hone r (List.mem_cons_of_mem _ hr)
              simpa [TimeBaseState.step] using hrest
          · simp only [halive, Bool.not_false, if_true, Bool.true_or]
            exact ⟨rfl, rfl⟩
      · simp only [hconn, Bool.not_false, if_true]
        exact ⟨trivial, hcalls.symm⟩

theorem act_reported (data : ClockSyncData) (ev : Event) (a : Action) (s : TimeBaseState)
    (hsteady : Steady s (a.calls s)) (hone : a.OneReader) :
    (a.act s data).2 = s.run (a.calls s) ∧
    ((a.act s data).1.toList.map ev.reported).sum = readCount ev s (a.calls s) := by
  cases a with
  | other op =>
      refine ⟨rfl, ?_⟩
      rw [Action.calls, readCount_eq_zero (by simpa using fun h => hone h.symm)]
      rfl
  | subscribed =>
      refine ⟨rfl, ?_⟩
      have hread : Consistent s := hsteady [] _ rfl
      simpa [Action.act, Action.calls, readCount, reads, getTimeBaseState_fst] using hread.reported data ev
  | statusWait connected rounds =>
      unfold Action.calls at hsteady ⊢
      unfold Action.act ClkMgr.statusWait
      by_cases hconn : connected = true
      · by_cases hsub : s.subscribed = true
        · simp only [hconn, hsub, Bool.and_self, if_true, Bool.not_true, Bool.false_eq_true, if_false]
            at hsteady ⊢
          obtain ⟨hstate, hreported⟩ := statusWaitLoop_reported data ev rounds s hsteady hone
          rw [← hstate, ← hreported]
          unfold Waited.reported
          rcases (statusWaitLoop s data rounds).result with _ | result
          · exact ⟨rfl, rfl⟩
          · cases result <;> simp
        · simp [hconn, hsub, readCount, reads]
      · simp [hconn, readCount, reads]

/-- **Run**: what the client gets is what it reads. -/
theorem reports_sum (ev : Event) (as : List Action) (s : TimeBaseState) (data : ClockSyncData)
    (hsteady : Steady s (allCalls s as)) (hone : ∀ a ∈ as, a.OneReader) :
    ((reports s data as).map ev.reported).sum = readCount ev s (allCalls s as) := by
  induction as generalizing s data with
  | nil => rfl
  | cons a as ih =>
      obtain ⟨hstate, hreported⟩ :=
        act_reported data ev a s hsteady.left (hone a List.mem_cons_self)
      unfold reports allCalls
      rw [List.map_append, List.sum_append, hreported, hstate, readCount_append,
        ih (s.run (a.calls s)) _ hsteady.right fun a ha => hone a (List.mem_cons_of_mem _ ha)]

/-- **Accounting**: over every run, the flag tells whether something was counted, every change of an event
    is read once or still to be read, and a client that waits for events gets every change once. -/
theorem run_accounting (ops : List Op) (hfew : FewChanges ops) :
    ((TimeBaseState.run {} ops).eventChanged = true ↔
      ∃ ev : Event, ev.count (TimeBaseState.run {} ops) ≠ 0) ∧
    ∀ ev : Event,
      readCount ev {} ops + (ev.count (TimeBaseState.run {} ops)).toNat = changes ev {} ops ∧
      ∀ (data : ClockSyncData) (as : List Action), allCalls {} as = ops → (∀ a ∈ as, a.OneReader) →
        ((reports {} data as).map ev.reported).sum + (ev.count (TimeBaseState.run {} ops)).toNat
          = changes ev {} ops := by
  obtain ⟨seg, hseg⟩ := pending_run ops hfew
  refine ⟨hseg.consistent.flag, fun ev => ⟨hseg.sum ev, ?_⟩⟩
  intro data as hcalls hone
  have hsteady := hfew.steady
  rw [← hseg.sum ev, ← hcalls] at *
  rw [reports_sum ev as {} data hsteady hone]

/-- A subscription to EventSyncedWithGm. -/
def syncedSub : PTPClockSubscription := (PTPClockSubscription.init.setEventMask eventSyncedWithGm).2

/-- The clock is synced while the client waits, and no more after it. -/
def syncedSession : List Action :=
  [.other (.subscribePtp syncedSub), .other (.setSubscribed true),
    .statusWait true
      [⟨[], true, true, false⟩, ⟨[.notifyPtp none ⟨0, 0, 0, false, true⟩], true, true, false⟩],
    .other (.notifyPtp none ⟨0, 0, 0, false, false⟩)]

theorem run_accounting_syncedSession :
    FewChanges (allCalls {} syncedSession) ∧ (reports {} {} syncedSession).length = 1 ∧
    changes .syncedWithGm {} (allCalls {} syncedSession) = 2 ∧
    ((reports {} {} syncedSession).map Event.syncedWithGm.reported).sum
      + (Event.syncedWithGm.count (TimeBaseState.run {} (allCalls {} syncedSession))).toNat = 2 := by
  have hfew : FewChanges (allCalls {} syncedSession) := .of_length (by decide)
  have hone : ∀ a ∈ syncedSession, a.OneReader := by
    simp [syncedSession, Action.OneReader]
  refine ⟨hfew, by decide, by decide, ?_⟩
  exact ((run_accounting _ hfew).2 .syncedWithGm).2 {} syncedSession rfl hone

end PtpMgmt.ClkMgr
