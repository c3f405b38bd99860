import Mathlib.Data.List.Induction
import PtpMgmt.ClkMgr.TimeBase
import PtpMgmt.MngTlvs.Basic

set_option autoImplicit false

/-! # The proxy of a ptp4l daemon (`connect_ptp4l.cpp`, `client.hpp`)

The proxy of a time base keeps one event, which the callbacks of the messages from ptp4l fill in, and
beside it the identity of the grandmaster. When the connection is lost the event is cleared, but the
identity stays, and a port that becomes master with this identity changes nothing. -/

namespace PtpMgmt.ClkMgr

/-- The octets of a clock identity as one number, the first octet on top. -/
def uuid (id : ClockIdentity) : UInt64 :=
  (List.finRange 8).foldl
    (fun u i => u ||| (id.v.get i).toUInt64 <<< (UInt64.ofNat (8 * (7 - i.val)))) 0

/-- `ptpSet`, without its socket. -/
structure PtpSet where
  event : PtpEvent
  /-- The copy of the event that the clients get. -/
  published : PtpEvent
  doNotify : Bool
  gmIdentity : ClockIdentity
  needSetAction : Bool
  /-- The ids that were asked for by the callbacks. -/
  asked : List MngId

namespace PtpSet

/-- `event = { 0 }`. -/
def clearEvent : PtpEvent := ⟨0, 0, 0, false, false⟩

/-- The constructor clears the event and sets nothing of the identity. -/
def init (gmIdentity : ClockIdentity) : PtpSet := ⟨clearEvent, clearEvent, false, gmIdentity, false, []⟩

def portDataReset (s : PtpSet) : PtpSet :=
  { s with
    event := { s.event with clockOffset := 0, syncInterval := 0, syncedWithGm := false }
    needSetAction := true }

def portReset (s : PtpSet) : PtpSet := { s with event := clearEvent, needSetAction := true }

/-- `msg_set_action(LOG_SYNC_INTERVAL)`, once after a reset. -/
def askLogSyncInterval (s : PtpSet) : PtpSet :=
  if s.needSetAction then { s with asked := s.asked ++ [.logSyncInterval], needSetAction := false } else s

/-! ## Callbacks -/

def timeStatusNp (s : PtpSet) (tlv : TimeStatusNp) : PtpSet :=
  { s with
    event := { s.event with clockOffset := tlv.masterOffset, gmClockUUID := uuid tlv.gmIdentity }
    gmIdentity := tlv.gmIdentity
    doNotify := true }

/-- `pow(2.0, logSyncInterval) * USEC_PER_SEC`, cut to whole microseconds. The product is exact; the
    language leaves open what becomes of one that does not fit, from 2 to the 45 on. -/
def syncIntervalOf (logSyncInterval : Int8) : UInt64 :=
  if 0 ≤ logSyncInterval.toInt then UInt64.ofNat (1000000 * 2 ^ logSyncInterval.toInt.toNat)
  else UInt64.ofNat (1000000 / 2 ^ (-logSyncInterval.toInt).toNat)

def logSyncInterval (s : PtpSet) (tlv : LogSyncInterval) : PtpSet :=
  if s.event.syncInterval.toUInt8.toInt8 ≠ tlv.logSyncInterval then
    { s with
      event := { s.event with syncInterval := syncIntervalOf tlv.logSyncInterval }
      doNotify := true }
  else s

/-- The states that reset the data of the port. -/
def resetStates : List PortState :=
  [.initializing, .faulty, .disabled, .listening, .preMaster, .passive, .uncalibrated]

def portDataSet (s : PtpSet) (tlv : PortDataSet) : PtpSet :=
  if tlv.portState ∈ resetStates then { s.portDataReset with doNotify := true }
  else if tlv.portState = .master then
    -- an unchanged identity is ignored
    if s.gmIdentity = tlv.portIdentity.clockIdentity then s
    else
      let s := s.portDataReset
      let s := { s with
        event := { s.event with gmClockUUID := uuid tlv.portIdentity.clockIdentity }
        gmIdentity := tlv.portIdentity.clockIdentity }
      { s.askLogSyncInterval with doNotify := true }
  else if tlv.portState = .slave then
    let s := { s with event := { s.event with syncedWithGm := true } }
    { s.askLogSyncInterval with doNotify := true }
  else { s with doNotify := true }

/-- `portNumber` is that of the peer that sent the message. -/
def cmldsInfoNp (s : PtpSet) (portNumber : UInt16) (tlv : CmldsInfoNp) : PtpSet :=
  if portNumber = 0 then s
  else if s.event.asCapable ≠ decide (tlv.asCapable > 0) then
    { s with event := { s.event with asCapable := decide (tlv.asCapable > 0) }, doNotify := true }
  else s

/-! ## The loop of the thread -/

/-- `event_handle` and the loss of the connection: what is told to the clients is copied. -/
def publish (s : PtpSet) : PtpSet := if s.doNotify then { s with published := s.event } else s

end PtpSet

/-- What the thread handles: the messages with a callback, and the loss of the connection. -/
inductive PtpMsg
  | timeStatusNp (tlv : TimeStatusNp)
  | portDataSet (tlv : PortDataSet)
  | logSyncInterval (tlv : LogSyncInterval)
  | cmldsInfoNp (portNumber : UInt16) (tlv : CmldsInfoNp)
  | lostConnection

namespace PtpSet

def handle (s : PtpSet) : PtpMsg → PtpSet
  | .timeStatusNp tlv => ({ s with doNotify := false }.timeStatusNp tlv).publish
  | .portDataSet tlv => ({ s with doNotify := false }.portDataSet tlv).publish
  | .logSyncInterval tlv => ({ s with doNotify := false }.logSyncInterval tlv).publish
  | .cmldsInfoNp portNumber tlv => ({ s with doNotify := false }.cmldsInfoNp portNumber tlv).publish
  | .lostConnection => { s.portReset with published := s.portReset.event }

def run (s : PtpSet) (msgs : List PtpMsg) : PtpSet := msgs.foldl handle s

theorem run_snoc (s : PtpSet) (msgs : List PtpMsg) (msg : PtpMsg) :
    s.run (msgs ++ [msg]) = (s.run msgs).handle msg := by
  rw [run, List.foldl_append]
  rfl

/-! Publishing leaves what is kept alone. -/

@[simp] theorem publish_event (s : PtpSet) : s.publish.event = s.event := by
  unfold publish
  split <;> rfl

@[simp] theorem publish_gmIdentity (s : PtpSet) : s.publish.gmIdentity = s.gmIdentity := by
  unfold publish
  split <;> rfl

@[simp] theorem askLogSyncInterval_event (s : PtpSet) : s.askLogSyncInterval.event = s.event := by
  unfold askLogSyncInterval
  split <;> rfl

@[simp] theorem askLogSyncInterval_gmIdentity (s : PtpSet) :
    s.askLogSyncInterval.gmIdentity = s.gmIdentity := by
  unfold askLogSyncInterval
  split <;> rfl

end PtpSet

/-! ## What the messages tell -/

/-- What the messages of a run tell about the grandmaster. -/
structure GmHistory where
  /-- The identity of the last TIME_STATUS_NP or of the last port that was master. -/
  gm : ClockIdentity
  /-- It came with a TIME_STATUS_NP, or was another one than before, since the connection is there. -/
  known : Bool
  /-- The port was slave, and since then no message and no loss of the connection has taken that back. -/
  slave : Bool

def GmHistory.next (h : GmHistory) : PtpMsg → GmHistory
  | .timeStatusNp tlv => { h with gm := tlv.gmIdentity, known := true }
  | .portDataSet tlv =>
    if tlv.portState ∈ PtpSet.resetStates then { h with slave := false }
    else if tlv.portState = .master then
      if h.gm = tlv.portIdentity.clockIdentity then h
      else ⟨tlv.portIdentity.clockIdentity, true, false⟩
    else if tlv.portState = .slave then { h with slave := true }
    else h
  | .lostConnection => { h with known := false, slave := false }
  | .logSyncInterval _ => h
  | .cmldsInfoNp _ _ => h

/-- The messages of a run, after the identity that was there before them. -/
def gmHistory (gmIdentity : ClockIdentity) (msgs : List PtpMsg) : GmHistory :=
  msgs.foldl GmHistory.next ⟨gmIdentity, false, false⟩

theorem gmHistory_snoc (gmIdentity : ClockIdentity) (msgs : List PtpMsg) (msg : PtpMsg) :
    gmHistory gmIdentity (msgs ++ [msg]) = (gmHistory gmIdentity msgs).next msg := by
  rw [gmHistory, List.foldl_append]
  rfl

/-- The state is what the messages told. -/
structure Tracks (s : PtpSet) (h : GmHistory) : Prop where
  gmIdentity : s.gmIdentity = h.gm
  gmClockUUID : s.event.gmClockUUID = if h.known then uuid h.gm else 0
  synced : s.event.syncedWithGm = h.slave

theorem Tracks.portDataSet {s : PtpSet} {h : GmHistory} (ht : Tracks s h) (tlv : PortDataSet) :
    Tracks (s.portDataSet tlv) (h.next (.portDataSet tlv)) := by
  unfold PtpSet.portDataSet
  simp only [GmHistory.next, ht.gmIdentity]
  by_cases hreset : tlv.portState ∈ PtpSet.resetStates
  · simp only [if_pos hreset]
    exact ⟨ht.gmIdentity, ht.gmClockUUID, rfl⟩
  · simp only [if_neg hreset]
    by_cases hmaster : tlv.portState = .master
    · simp only [if_pos hmaster]
      by_cases hsame : h.gm = tlv.portIdentity.clockIdentity
      · simp only [if_pos hsame]
        exact ht
      · simp only [if_neg hsame]
        refine ⟨?_, ?_, ?_⟩ <;> simp [PtpSet.portDataReset]
    · simp only [if_neg hmaster]
      by_cases hslave : tlv.portState = .slave
      · simp only [if_pos hslave]
        refine ⟨?_, ?_, ?_⟩
        · simp
        · simpa using ht.gmClockUUID
        · simp
      · simp only [if_neg hslave]
        exact ⟨rfl, ht.gmClockUUID, ht.synced⟩

/-- **Step**: every message. -/
theorem Tracks.handle {s : PtpSet} {h : GmHistory} (ht : Tracks s h) (msg : PtpMsg) :
    Tracks (s.handle msg) (h.next msg) := by
  have hclear : Tracks { s with doNotify := false } h := ⟨ht.gmIdentity, ht.gmClockUUID, ht.synced⟩
  -- what is published is no part of it
  have hpublish : ∀ {s : PtpSet} {h : GmHistory}, Tracks s h → Tracks s.publish h := by
    intro s h ht
    exact ⟨by simpa using ht.gmIdentity, by simpa using ht.gmClockUUID, by simpa using ht.synced⟩
  cases msg with
  | timeStatusNp tlv => exact hpublish ⟨rfl, rfl, ht.synced⟩
  | portDataSet tlv => exact hpublish (hclear.portDataSet tlv)
  | logSyncInterval tlv =>
      refine hpublish ?_
      unfold PtpSet.logSyncInterval
      split <;> exact ⟨ht.gmIdentity, ht.gmClockUUID, ht.synced⟩
  | cmldsInfoNp portNumber tlv =>
      refine hpublish ?_
      unfold PtpSet.cmldsInfoNp
      split
      · exact hclear
      · split <;> exact ⟨ht.gmIdentity, ht.gmClockUUID, ht.synced⟩
  | lostConnection => exact ⟨ht.gmIdentity, rfl, rfl⟩

/-- **Run**: in every state that is reached. -/
theorem tracks_run (gmIdentity : ClockIdentity) (msgs : List PtpMsg) :
    Tracks ((PtpSet.init gmIdentity).run msgs) (gmHistory gmIdentity msgs) := by
  induction msgs using List.reverseRecOn with
  | nil => exact ⟨rfl, rfl, rfl⟩
  | append_singleton msgs msg ih =>
      rw [PtpSet.run_snoc, gmHistory_snoc]
      exact ih.handle msg

/-- The event shows a port that is its own grandmaster. -/
def OwnGm (event : PtpEvent) (id : ClockIdentity) : Prop :=
  event.gmClockUUID = uuid id ∧ event.syncedWithGm = false

instance decidableOwnGm (event : PtpEvent) (id : ClockIdentity) : Decidable (OwnGm event id) :=
  inferInstanceAs (Decidable (_ ∧ _))

/-- **When a master is its own grandmaster**: after every message of every run that reports a master,
    exactly when its identity is new, or is known and not that of a slave. -/
theorem master_ownGm_iff (gmIdentity : ClockIdentity) (msgs : List PtpMsg) (tlv : PortDataSet)
    (hmaster : tlv.portState = .master) :
    OwnGm ((PtpSet.init gmIdentity).run (msgs ++ [.portDataSet tlv])).event
        tlv.portIdentity.clockIdentity ↔
      (gmHistory gmIdentity msgs).gm ≠ tlv.portIdentity.clockIdentity ∨
      ((gmHistory gmIdentity msgs).known = true ∨ uuid tlv.portIdentity.clockIdentity = 0) ∧
        (gmHistory gmIdentity msgs).slave = false := by
  have hafter := tracks_run gmIdentity (msgs ++ [.portDataSet tlv])
  rw [gmHistory_snoc] at hafter
  have hnext : (gmHistory gmIdentity msgs).next (.portDataSet tlv) =
      if (gmHistory gmIdentity msgs).gm = tlv.portIdentity.clockIdentity then gmHistory gmIdentity msgs
      else ⟨tlv.portIdentity.clockIdentity, true, false⟩ := by
    have hreset : PortState.master ∉ PtpSet.resetStates := by decide
    simp only [GmHistory.next, hmaster, if_neg hreset, if_true]
  rw [hnext] at hafter
  unfold OwnGm
  rw [hafter.gmClockUUID, hafter.synced]
  by_cases hsame : (gmHistory gmIdentity msgs).gm = tlv.portIdentity.clockIdentity
  · rw [if_pos hsame, hsame]
    simp only [ne_eq, not_true, false_or]
    refine and_congr_left fun _ => ?_
    by_cases hknown : (gmHistory gmIdentity msgs).known = true
    · simp [hknown]
    · simp [hknown, eq_comm]
  · simp [hsame]

/-- The identity of the examples. -/
def ownIdentity : ClockIdentity := ⟨Octets.ofList 8 [0, 1, 2, 3, 4, 5, 6, 7]⟩

/-- A report of the state of the own port. -/
def ownPort (portState : PortState) : PtpMsg :=
  .portDataSet { (default : PortDataSet) with portIdentity := ⟨ownIdentity, 1⟩, portState }

/-- A slave that hears of its own identity stays synced as a master, and a master that loses its connection
    has no grandmaster when it is back. -/
theorem master_not_ownGm :
    ¬ OwnGm ((PtpSet.init default).run
        [ownPort .slave, .timeStatusNp { (default : TimeStatusNp) with gmIdentity := ownIdentity },
          ownPort .master]).event ownIdentity ∧
    ¬ OwnGm ((PtpSet.init default).run
        [ownPort .master, .lostConnection, ownPort .master]).event ownIdentity := by
  decide

/-- A slave of another clock becomes master. -/
theorem master_ownGm_iff_otherGm :
    OwnGm ((PtpSet.init default).run
        ([ownPort .slave, .timeStatusNp default] ++ [ownPort .master])).event ownIdentity :=
  (master_ownGm_iff default [ownPort .slave, .timeStatusNp default]
    { (default : PortDataSet) with portIdentity := ⟨ownIdentity, 1⟩, portState := .master } rfl).2
    (.inl (by decide))

end PtpMgmt.ClkMgr
