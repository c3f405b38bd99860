import Mathlib.Data.Rat.Floor
import Mathlib.Tactic.IntervalCases
import PtpMgmt.ClkMgr.Proxy

set_option autoImplicit false

/-! # The sync interval of the event (`connect_ptp4l.cpp`)

A LOG_SYNC_INTERVAL carries a logarithm, the event keeps microseconds. What the callback compares is the one
with the other, cut to 8 bits: a message whose logarithm is by chance the last octet of the microseconds
that are there changes nothing. -/

namespace PtpMgmt.ClkMgr

/-! ## What the messages tell -/

/-- The whole part of the interval, in microseconds. -/
def IsInterval (logSyncInterval : Int8) (interval : UInt64) : Prop :=
  (interval.toNat : Int) = ⌊(2 : ℚ) ^ logSyncInterval.toInt * 10 ^ 6⌋

/-- The logarithms of the intervals that are looked at. -/
def Usual (logSyncInterval : Int8) : Prop := -20 ≤ logSyncInterval ∧ logSyncInterval ≤ 11

instance decidableUsual (logSyncInterval : Int8) : Decidable (Usual logSyncInterval) :=
  inferInstanceAs (Decidable (_ ∧ _))

/-- The message resets the data of the port, where the grandmaster is the one that was told before. -/
def PtpMsg.Resets (gm : ClockIdentity) : PtpMsg → Prop
  | .portDataSet tlv =>
    tlv.portState ∈ PtpSet.resetStates ∨ tlv.portState = .master ∧ gm ≠ tlv.portIdentity.clockIdentity
  | .lostConnection => True
  | _ => False

instance decidableResets (gm : ClockIdentity) (msg : PtpMsg) : Decidable (msg.Resets gm) := by
  cases msg <;> unfold PtpMsg.Resets <;> infer_instance

/-- The grandmaster, and the logarithm of the last LOG_SYNC_INTERVAL unless a reset came after it. -/
structure SyncHistory where
  gm : GmHistory
  log : Option Int8

def SyncHistory.next (h : SyncHistory) (msg : PtpMsg) : SyncHistory where
  gm := h.gm.next msg
  log :=
    match msg with
    | .logSyncInterval tlv => some tlv.logSyncInterval
    | msg => if msg.Resets h.gm.gm then none else h.log

def syncHistory (gmIdentity : ClockIdentity) (msgs : List PtpMsg) : SyncHistory :=
  msgs.foldl SyncHistory.next ⟨⟨gmIdentity, false, false⟩, none⟩

theorem syncHistory_snoc (gmIdentity : ClockIdentity) (msgs : List PtpMsg) (msg : PtpMsg) :
    syncHistory gmIdentity (msgs ++ [msg]) = (syncHistory gmIdentity msgs).next msg := by
  rw [syncHistory, List.foldl_append]
  rfl

theorem syncHistory_gm (gmIdentity : ClockIdentity) (msgs : List PtpMsg) :
    (syncHistory gmIdentity msgs).gm = gmHistory gmIdentity msgs := by
  induction msgs using List.reverseRecOn with
  | nil => rfl
  | append_singleton msgs msg ih =>
    rw [syncHistory_snoc, gmHistory_snoc, ← ih]
    rfl

/-- The event shows the interval of the last message, if that is a usual one. -/
def Shows (s : PtpSet) (log : Option Int8) : Prop :=
  ∀ l, log = some l → Usual l → IsInterval l s.event.syncInterval

/-! ## Intervals -/

theorem Usual.toInt {l : Int8} (h : Usual l) : -20 ≤ l.toInt ∧ l.toInt ≤ 11 :=
  ⟨Int8.le_iff_toInt_le.1 h.1, Int8.le_iff_toInt_le.1 h.2⟩

theorem pow_le_two_pow_twenty {k : Nat} (h : k ≤ 20) : 2 ^ k ≤ 2 ^ 20 := Nat.pow_le_pow_right (by decide) h

theorem syncIntervalOf_isInterval {l : Int8} (h : Usual l) : IsInterval l (PtpSet.syncIntervalOf l) := by
  obtain ⟨hlow, hhigh⟩ := h.toInt
  unfold IsInterval PtpSet.syncIntervalOf
  split_ifs with hsign
  · obtain ⟨n, hn⟩ := Int.eq_ofNat_of_zero_le hsign
    have hpow := pow_le_two_pow_twenty (k := n) (by omega)
    have hvalue : (2 : ℚ) ^ l.toInt * 10 ^ 6 = (1000000 * 2 ^ n : Nat) := by
      rw [hn]
      push_cast
      rw [zpow_natCast]
      ring
    rw [hvalue, Int.floor_natCast, hn, Int.toNat_natCast,
      UInt64.toNat_ofNat_of_lt' (by show 1000000 * 2 ^ n < 2 ^ 64; omega)]
  · obtain ⟨n, hn⟩ := Int.eq_ofNat_of_zero_le (a := -l.toInt) (by omega)
    have hle : 1000000 / 2 ^ n ≤ 1000000 := Nat.div_le_self _ _
    have hvalue : (2 : ℚ) ^ l.toInt * 10 ^ 6 = (1000000 : Nat) / (2 ^ n : Nat) := by
      rw [show l.toInt = -(n : Int) by omega, zpow_neg, zpow_natCast]
      push_cast
      rw [div_eq_inv_mul]
      norm_num
    rw [hvalue, Rat.floor_natCast_div_natCast, hn, Int.toNat_natCast,
      UInt64.toNat_ofNat_of_lt' (by show 1000000 / 2 ^ n < 2 ^ 64; omega)]
    push_cast
    rfl

theorem IsInterval.unique {l : Int8} {a b : UInt64} (ha : IsInterval l a) (hb : IsInterval l b) : a = b := by
  have heq : (a.toNat : Int) = b.toNat := Eq.trans ha (Eq.symm hb)
  exact UInt64.toNat_inj.1 (Int.natCast_inj.1 heq)

/-- One interval only has its own logarithm for its last octet. -/
theorem syncIntervalOf_self {l : Int8} (h : Usual l) :
    (PtpSet.syncIntervalOf l).toUInt8.toInt8 = l ↔ l = -12 := by
  obtain ⟨hlow, hhigh⟩ := h.toInt
  rw [← Int8.ofInt_toInt l]
  generalize l.toInt = i at hlow hhigh
  interval_cases i <;> decide

/-! ## One message -/

/-- The callback takes the message over: its logarithm is not the last octet of the interval that is there,
    or is so by right. -/
def TakesOver (interval : UInt64) (logSyncInterval : Int8) : Prop :=
  interval.toUInt8.toInt8 ≠ logSyncInterval ∨ interval = 244 ∧ logSyncInterval = -12

instance decidableTakesOver (interval : UInt64) (logSyncInterval : Int8) :
    Decidable (TakesOver interval logSyncInterval) :=
  inferInstanceAs (Decidable (_ ∨ _))

theorem logSyncInterval_isInterval_iff (s : PtpSet) {tlv : LogSyncInterval}
    (h : Usual tlv.logSyncInterval) :
    IsInterval tlv.logSyncInterval (s.logSyncInterval tlv).event.syncInterval ↔
      TakesOver s.event.syncInterval tlv.logSyncInterval := by
  have hright := syncIntervalOf_isInterval h
  rw [PtpSet.logSyncInterval, TakesOver]
  split_ifs with hdiffers
  · exact iff_of_true hright (.inl hdiffers)
  · rw [not_not] at hdiffers
    constructor
    · intro hkept
      have hvalue := hkept.unique hright
      have hlog : tlv.logSyncInterval = -12 := (syncIntervalOf_self h).1 (hvalue ▸ hdiffers)
      exact .inr ⟨by rw [hvalue, hlog]; rfl, hlog⟩
    · rintro (hne | ⟨hinterval, hlog⟩)
      · exact absurd hdiffers hne
      · rw [hinterval, hlog]
        rw [hlog] at hright
        exact hright

theorem resets_portDataSet (gm : ClockIdentity) (tlv : PortDataSet) :
    (PtpMsg.portDataSet tlv).Resets gm ↔ tlv.portState ∈ PtpSet.resetStates ∨
      tlv.portState = .master ∧ gm ≠ tlv.portIdentity.clockIdentity := Iff.rfl

theorem portDataSet_syncInterval (s : PtpSet) (tlv : PortDataSet) :
    (s.portDataSet tlv).event.syncInterval =
      if (PtpMsg.portDataSet tlv).Resets s.gmIdentity then 0 else s.event.syncInterval := by
  simp only [resets_portDataSet]
  unfold PtpSet.portDataSet
  by_cases hreset : tlv.portState ∈ PtpSet.resetStates
  · simp only [hreset, true_or]
    rfl
  · simp only [hreset, false_or]
    by_cases hmaster : tlv.portState = .master
    · simp only [hmaster, true_and]
      by_cases hsame : s.gmIdentity = tlv.portIdentity.clockIdentity
      · simp [hsame]
      · simp [hsame, PtpSet.portDataReset]
    · simp only [hmaster, false_and]
      by_cases hslave : tlv.portState = .slave
      · simp [hslave]
      · simp [hslave]

/-- What a message makes of the interval, unless it is one. -/
theorem handle_syncInterval (s : PtpSet) {msg : PtpMsg} (h : ∀ tlv, msg ≠ .logSyncInterval tlv) :
    (s.handle msg).event.syncInterval = if msg.Resets s.gmIdentity then 0 else s.event.syncInterval := by
  cases msg with
  | timeStatusNp tlv =>
    exact (congrArg PtpEvent.syncInterval (PtpSet.publish_event _)).trans (if_neg not_false).symm
  | portDataSet tlv =>
    exact (congrArg PtpEvent.syncInterval (PtpSet.publish_event _)).trans
      (portDataSet_syncInterval { s with doNotify := false } tlv)
  | logSyncInterval tlv => exact absurd rfl (h tlv)
  | cmldsInfoNp portNumber tlv =>
    refine (congrArg PtpEvent.syncInterval (PtpSet.publish_event _)).trans ?_
    unfold PtpSet.cmldsInfoNp
    split
    · rfl
    · split <;> rfl
  | lostConnection => rfl

/-! ## Runs -/

/-- **Step**: a message that is no LOG_SYNC_INTERVAL leaves what is shown, or resets it. -/
theorem Shows.handle {s : PtpSet} {h : SyncHistory} (hgm : s.gmIdentity = h.gm.gm) (hshows : Shows s h.log)
    {msg : PtpMsg} (hmsg : ∀ tlv, msg ≠ .logSyncInterval tlv) : Shows (s.handle msg) (h.next msg).log := by
  intro l hl husual
  have hnext : (h.next msg).log = if msg.Resets h.gm.gm then none else h.log := by
    cases msg with
    | logSyncInterval tlv => exact absurd rfl (hmsg tlv)
    | _ => rfl
  rw [hnext] at hl
  rw [handle_syncInterval s hmsg, hgm]
  split_ifs at hl ⊢ with hreset
  exact hshows l hl husual

/-- **Step**: a LOG_SYNC_INTERVAL is shown when it is taken over. -/
theorem shows_logSyncInterval_iff (s : PtpSet) (h : SyncHistory) (tlv : LogSyncInterval) :
    Shows (s.handle (.logSyncInterval tlv)) (h.next (.logSyncInterval tlv)).log ↔
      (Usual tlv.logSyncInterval → TakesOver s.event.syncInterval tlv.logSyncInterval) := by
  have hevent : (s.handle (.logSyncInterval tlv)).event.syncInterval =
      ({ s with doNotify := false }.logSyncInterval tlv).event.syncInterval :=
    congrArg PtpEvent.syncInterval (PtpSet.publish_event _)
  have hlog : (h.next (.logSyncInterval tlv)).log = some tlv.logSyncInterval := rfl
  have hiff := @logSyncInterval_isInterval_iff { s with doNotify := false } tlv
  unfold Shows
  rw [hlog, hevent]
  constructor
  · intro hshows husual
    exact (hiff husual).1 (hshows _ rfl husual)
  · rintro htakes l hl husual
    cases hl
    exact (hiff husual).2 (htakes husual)

/-- Every usual LOG_SYNC_INTERVAL of the run is taken over when it comes. -/
def AllTakenOver (gmIdentity : ClockIdentity) (msgs : List PtpMsg) : Prop :=
  ∀ before tlv, before ++ [.logSyncInterval tlv] <+: msgs → Usual tlv.logSyncInterval →
    TakesOver ((PtpSet.init gmIdentity).run before).event.syncInterval tlv.logSyncInterval

/-- In every state of the run, the event shows the interval of the last LOG_SYNC_INTERVAL that no reset
    followed. -/
def AlwaysShows (gmIdentity : ClockIdentity) (msgs : List PtpMsg) : Prop :=
  ∀ before, before <+: msgs →
    Shows ((PtpSet.init gmIdentity).run before) (syncHistory gmIdentity before).log

theorem alwaysShows_snoc (gmIdentity : ClockIdentity) (msgs : List PtpMsg) (msg : PtpMsg) :
    AlwaysShows gmIdentity (msgs ++ [msg]) ↔ AlwaysShows gmIdentity msgs ∧
      Shows ((PtpSet.init gmIdentity).run (msgs ++ [msg])) (syncHistory gmIdentity (msgs ++ [msg])).log := by
  unfold AlwaysShows
  simp only [List.prefix_concat_iff, or_imp, forall_and, forall_eq]
  exact and_comm

theorem allTakenOver_snoc (gmIdentity : ClockIdentity) (msgs : List PtpMsg) (msg : PtpMsg) :
    AllTakenOver gmIdentity (msgs ++ [msg]) ↔ AllTakenOver gmIdentity msgs ∧
      ∀ tlv, msg = .logSyncInterval tlv → Usual tlv.logSyncInterval →
        TakesOver ((PtpSet.init gmIdentity).run msgs).event.syncInterval tlv.logSyncInterval := by
  unfold AllTakenOver
  constructor
  · intro h
    refine ⟨fun before tlv hpre => h before tlv (hpre.trans (List.prefix_append _ _)), ?_⟩
    rintro tlv rfl
    exact h msgs tlv (List.prefix_refl _)
  · rintro ⟨hmsgs, hmsg⟩ before tlv hpre
    rcases List.prefix_concat_iff.1 hpre with heq | hshort
    · obtain ⟨rfl, hlast⟩ := List.append_inj' heq rfl
      cases hlast
      exact hmsg tlv rfl
    · exact hmsgs before tlv hshort

/-- **Run**: the interval of the event is that of the messages in every state of a run, exactly when none of
    its messages carries the last octet of the interval it finds. -/
theorem alwaysShows_iff (gmIdentity : ClockIdentity) (msgs : List PtpMsg) :
    AlwaysShows gmIdentity msgs ↔ AllTakenOver gmIdentity msgs := by
  induction msgs using List.reverseRecOn with
  | nil =>
    refine iff_of_true ?_ ?_
    · rintro before hpre l hl
      rw [List.prefix_nil.1 hpre] at hl
      cases hl
    · rintro before tlv hpre
      exact absurd (List.prefix_nil.1 hpre) (by simp)
  | append_singleton msgs msg ih =>
    rw [alwaysShows_snoc, allTakenOver_snoc, ← ih]
    refine and_congr_right fun hmsgs => ?_
    have hgm : ((PtpSet.init gmIdentity).run msgs).gmIdentity = (syncHistory gmIdentity msgs).gm.gm := by
      rw [syncHistory_gm]
      exact (tracks_run gmIdentity msgs).gmIdentity
    rw [PtpSet.run_snoc, syncHistory_snoc]
    by_cases hmsg : ∃ tlv, msg = .logSyncInterval tlv
    · obtain ⟨tlv, rfl⟩ := hmsg
      rw [shows_logSyncInterval_iff]
      simp
    · have hother : ∀ tlv, msg ≠ .logSyncInterval tlv := fun tlv heq => hmsg ⟨tlv, heq⟩
      refine iff_of_true (Shows.handle hgm (hmsgs msgs (List.prefix_refl _)) hother) ?_
      intro tlv heq
      exact absurd heq (hother tlv)

/-- One message a second, the first after the start: the interval stays 0. -/
theorem alwaysShows_second : ¬ AlwaysShows default [.logSyncInterval ⟨0⟩] := by
  intro h
  have hshows := h [.logSyncInterval ⟨0⟩] (List.prefix_refl _) 0 rfl (by decide)
  have hvalue := hshows.unique (syncIntervalOf_isInterval (l := 0) (by decide))
  exact absurd hvalue (by decide)

end PtpMgmt.ClkMgr
