import PtpMgmt.ClkMgr.PtpThread
import PtpMgmt.Message.Requests

set_option autoImplicit false

/-! # What the thread of a ptp4l daemon does

What a step of the thread may do is said once. A message of the thread is always built, so that a send fails
only when the system does not take it, and its octets depend on the parameters and on its number alone. -/

namespace PtpMgmt.ClkMgr

open Wire

/-! ## Requests -/

/-- A request of the thread. -/
inductive Request
  | subscribe
  | get (id : MngId)

namespace Request

/-- The dataField. -/
def data : Request → List UInt8
  | .subscribe => beOctets 2 eventsTlv.duration.toNat ++ eventsTlv.bitmask.toList
  | .get _ => []

/-- A message that is set up for it. -/
def setUp (m : PtpMgmt.Message) : Request → PtpMgmt.Message
  | .subscribe =>
    { m with
      sendAction := .set
      tlvId := .subscribeEventsNp
      dataSend := some (.tlv .subscribeEventsNp eventsTlv) }
  | .get id => { m with sendAction := .get, tlvId := id, dataSend := none }

/-- Its octets. -/
def octets (prms : MsgParams) (sequence : UInt16) (r : Request) : List UInt8 :=
  (r.setUp { PtpMgmt.Message.init prms with prms }).plainOctets sequence r.data

theorem data_even (r : Request) : r.data.length % 2 = 0 := by
  cases r with
  | subscribe => rfl
  | get id => rfl

theorem data_fits (r : Request) : mngMsgBaseSize + r.data.length ≤ ptpBufSize := by
  cases r with
  | subscribe => exact Nat.le_of_ble_eq_true rfl
  | get id => exact Nat.le_of_ble_eq_true rfl

/-- A build of the request writes its data. -/
theorem dataOctets (r : Request) {m : PtpMgmt.Message} (hzero : m.prms.useZeroGet = true) :
    PtpMgmt.Message.DataOctets (r.setUp m) r.data := by
  cases r with
  | subscribe =>
      have hmask : Builds (procOctets eventsTlv.bitmask) eventsTlv.bitmask eventsTlv.bitmask.toList :=
        (RoundTrips.field eventsTlv.bitmask eventsTlv.bitmask.toList_length
          (Octets.ofList_toList eventsTlv.bitmask)).builds
      have hw : Builds (tlvF .subscribeEventsNp eventsTlv) eventsTlv
          (beOctets 2 eventsTlv.duration.toNat ++ (eventsTlv.bitmask.toList ++ [])) :=
        Builds.bind (procUInt16_roundTrips eventsTlv.duration 0).builds (Builds.bind hmask (Builds.pure eventsTlv))
      rw [List.append_nil] at hw
      have hcodec : (mngAllVals .subscribeEventsNp).func ≠ .na := by decide
      have hall := PtpMgmt.Message.dataOctets_of_builds (m := setUp m .subscribe) rfl (by simp [setUp]) hcodec hw
      rwa [PtpMgmt.Message.padOctets, show (_ ++ _ : List UInt8).length % 2 = 0 from data_even .subscribe,
        List.replicate_zero, List.append_nil] at hall
  | get id => exact PtpMgmt.Message.dataOctets_nil rfl fun h => by simp [setUp, hzero] at h

/-- The octets depend on nothing but the parameters. -/
theorem plainOctets_setUp (r : Request) {m : PtpMgmt.Message} {prms : MsgParams} (hprms : m.prms = prms)
    (sequence : UInt16) : (r.setUp m).plainOctets sequence r.data = r.octets prms sequence := by
  subst hprms
  cases r <;> rfl

end Request

/-! ## Sending -/

namespace PtpThread

/-- What holds of the message of the thread in all of its life. -/
structure Sound (prms : MsgParams) (t : PtpThread) : Prop where
  zeroGet : prms.useZeroGet = true
  linuxptp : prms.implementSpecific = .linuxptp
  prms : t.msg.prms = prms
  auth : t.msg.auth = none

/-- The requests of a list that are sent, from a number on. -/
def sents (prms : MsgParams) (seq : Nat) (rs : List Request) : List PtpAct :=
  (rs.zipIdx seq).map fun r => .sent (r.1.octets prms (UInt16.ofNat r.2))

theorem sents_append (prms : MsgParams) (seq : Nat) (rs rs' : List Request) :
    sents prms seq (rs ++ rs') = sents prms seq rs ++ sents prms (seq + rs.length) rs' := by
  rw [sents, List.zipIdx_append, List.map_append]
  rfl

/-- The thread behind some acts, with the requests among them, and else as it was: the message and the buffer
    hold what the sending left. -/
structure Sent (prms : MsgParams) (t t' : PtpThread) (rs : List Request) (acts : List PtpAct) : Prop where
  sound : Sound prms t'
  set : t'.set = t.set
  lostConnection : t'.lostConnection = t.lostConnection
  pc : t'.pc = t.pc
  seq : t'.seq = t.seq + rs.length
  acts : t'.acts = t.acts ++ acts

section Sending

variable (lib : HmacLib) {prms : MsgParams} {t : PtpThread}

/-- A request is sent when the system takes it. -/
theorem msgSend_sent (r : Request) (h : Sound prms t) (ok : Bool) :
    (({ t with msg := r.setUp t.msg }).msgSend lib ok).1 = ok ∧
    Sent prms t (({ t with msg := r.setUp t.msg }).msgSend lib ok).2 (if ok then [r] else [])
      (sents prms t.seq (if ok then [r] else [])) := by
  have hsame : (r.setUp t.msg).prms = prms ∧ (r.setUp t.msg).auth = none := by
    cases r <;> exact ⟨h.prms, h.auth⟩
  have hdata := r.dataOctets (m := t.msg) (by rw [h.prms]; exact h.zeroGet)
  obtain ⟨hbuild, hmsg, hoctets⟩ : ((r.setUp t.msg).build lib t.buf ptpBufSize (UInt16.ofNat t.seq)).1 = .ok ∧ _ :=
    PtpMgmt.Message.build_octets (.inl hsame.2) hdata r.data_even r.data_fits
  rw [msgSend]
  simp only
  generalize (r.setUp t.msg).build lib t.buf ptpBufSize (UInt16.ofNat t.seq) = built at hbuild hmsg hoctets ⊢
  obtain ⟨err, msg, mp⟩ := built
  simp only at hbuild hmsg hoctets
  subst hbuild hmsg
  cases ok with
  | false => exact ⟨rfl, ⟨h.zeroGet, h.linuxptp, hsame.1, hsame.2⟩, rfl, rfl, rfl, rfl, (List.append_nil _).symm⟩
  | true =>
      refine ⟨rfl, ⟨h.zeroGet, h.linuxptp, hsame.1, hsame.2⟩, rfl, rfl, rfl, rfl, ?_⟩
      exact congrArg (fun w => t.acts ++ [PtpAct.sent w]) (hoctets.trans (r.plainOctets_setUp h.prms _))

theorem eventSubscription_sent (h : Sound prms t) (ok : Bool) :
    (t.eventSubscription lib ok).1 = ok ∧
    Sent prms t (t.eventSubscription lib ok).2 (if ok then [.subscribe] else [])
      (sents prms t.seq (if ok then [.subscribe] else [])) := by
  have hset : t.msg.setAction .set (.mng .subscribeEventsNp) (some (.tlv .subscribeEventsNp eventsTlv)) =
      (true, Request.subscribe.setUp t.msg) := by
    have hallowed : t.msg.allowedAction (.mng .subscribeEventsNp) .set = true := by
      simp only [PtpMgmt.Message.allowedAction, h.prms, h.linuxptp]
      rfl
    have hverify : PtpMgmt.Message.verifyTlv .subscribeEventsNp (some (.tlv .subscribeEventsNp eventsTlv)) = true := by
      rw [PtpMgmt.Message.verifyTlv, BaseMngTlv.cast?_tlv]
      rfl
    rw [PtpMgmt.Message.setAction, hallowed, hverify]
    rfl
  rw [eventSubscription, hset]
  exact msgSend_sent lib .subscribe h ok

/-- The ids that the thread asks for. -/
def askedIds : List MngId := [.timeStatusNp, .portDataSet, .logSyncInterval]

theorem msgSetAction_sent {id : MngId} (hid : id ∈ askedIds) (h : Sound prms t) (ok : Bool) :
    ∃ gets : List MngId, gets.Sublist [id] ∧
      Sent prms t (t.msgSetAction lib id ok).2 (gets.map .get) (sents prms t.seq (gets.map .get)) := by
  have hset : t.msg.setAction .get (.mng id) none = (true, (Request.get id).setUp t.msg) := by
    have hallowed : t.msg.allowedAction (.mng id) .get = true := by
      simp only [PtpMgmt.Message.allowedAction, h.prms, h.linuxptp]
      revert id
      decide
    rw [PtpMgmt.Message.setAction, hallowed, if_neg (by simp), if_neg (by simp)]
    rfl
  have hsent := (msgSend_sent lib (.get id) h ok).2
  rw [msgSetAction, hset]
  cases ok with
  | false => exact ⟨[], List.nil_sublist _, hsent⟩
  | true => exact ⟨[id], List.Sublist.refl _, hsent⟩

end Sending

/-! ## Steps -/

/-- A message with a callback. -/
theorem handle_eq (s : PtpSet) {msg : PtpMsg} (hmsg : msg ≠ .lostConnection) :
    s.handle msg = (({ s with doNotify := false }).callback msg).publish := by
  cases msg with
  | lostConnection => exact absurd rfl hmsg
  | _ => rfl

theorem publish_doNotify (s : PtpSet) : s.publish.doNotify = s.doNotify := by
  rw [PtpSet.publish]
  split <;> rfl

theorem callHadler_ne {m : PtpMgmt.Message} {msg : PtpMsg} (h : callHadler m = some msg) : msg ≠ .lostConnection := by
  rw [callHadler] at h
  split at h
  · next id _ =>
      split at h
      · cases h
      · obtain ⟨tlv, -, h⟩ := Option.bind_eq_some_iff.1 h
        cases id <;> cases h <;> exact PtpMsg.noConfusion
  · cases h

/-- What a step may do: the requests that it sends, all that is seen of it, and the set, `lost_connection` and
    the place behind it. -/
inductive Does (prms : MsgParams) (t : PtpThread) :
    List Request → List PtpAct → PtpSet → Bool → PtpPc → Prop
  | stopped (hpc : t.pc ≠ .ended) : Does prms t [] [] t.set t.lostConnection .ended
  | failed (hpc : t.pc = .start) : Does prms t [] [.failed] t.set true .wait
  | connected (hpc : t.pc = .start) {gets : List MngId} (hgets : gets.Sublist askedIds) :
      Does prms t (.subscribe :: gets.map .get)
        (sents prms t.seq [.subscribe] ++ [.connected] ++ sents prms (t.seq + 1) (gets.map .get))
        t.set t.lostConnection .wait
  | timeout (hpc : t.pc = .wait) : Does prms t [] [] t.set t.lostConnection .retry
  | unheard (hpc : t.pc = .wait) (doNotify : Bool) :
      Does prms t [] [] { t.set with doNotify } t.lostConnection .wait
  | heard (hpc : t.pc = .wait) {msg : PtpMsg} (hmsg : msg ≠ .lostConnection) {asked : List Request}
      (hasked : asked.Sublist [.get .logSyncInterval]) :
      Does prms t asked (sents prms t.seq asked ++
          if (t.set.handle msg).doNotify then [.told (t.set.handle msg).event] else [])
        (t.set.handle msg) t.lostConnection .wait
  /-- The flag is seen set between the callbacks and the clients. -/
  | cut (hpc : t.pc = .wait) (set : PtpSet) {asked : List Request}
      (hasked : asked.Sublist [.get .logSyncInterval]) :
      Does prms t asked (sents prms t.seq asked) set t.lostConnection .ended
  | again (hpc : t.pc = .retry) :
      Does prms t [.subscribe]
        (sents prms t.seq [.subscribe] ++ if t.lostConnection then [.reconnected] else []) t.set false .wait
  | lost (hpc : t.pc = .retry) (hlost : t.lostConnection = false) :
      Does prms t [] [.lost, .told PtpSet.clearEvent] (t.set.handle .lostConnection) true .retry
  | lostStopped (hpc : t.pc = .retry) (hlost : t.lostConnection = false) :
      Does prms t [] [.lost] t.set.portReset true .ended
  | still (hpc : t.pc = .retry) (hlost : t.lostConnection = true) : Does prms t [] [] t.set true .retry

/-- The thread behind a step that did this. -/
structure Done (prms : MsgParams) (t t' : PtpThread) (rs : List Request) (acts : List PtpAct) : Prop where
  does : Does prms t rs acts t'.set t'.lostConnection t'.pc
  sound : Sound prms t'
  seq : t'.seq = t.seq + rs.length
  acts : t'.acts = t.acts ++ acts

theorem Sent.trans {prms : MsgParams} {t t₁ t₂ : PtpThread} {rs rs' : List Request} {acts acts' : List PtpAct}
    (h : Sent prms t t₁ rs acts) (h' : Sent prms t₁ t₂ rs' acts') :
    Sent prms t t₂ (rs ++ rs') (acts ++ acts') where
  sound := h'.sound
  set := h'.set.trans h.set
  lostConnection := h'.lostConnection.trans h.lostConnection
  pc := h'.pc.trans h.pc
  seq := by rw [h'.seq, h.seq, List.length_append, Nat.add_assoc]
  acts := by rw [h'.acts, h.acts, List.append_assoc]

/-- Requests one behind the other. -/
theorem Sent.ask {prms : MsgParams} {t t₁ t₂ : PtpThread} {rs rs' : List Request}
    (h : Sent prms t t₁ rs (sents prms t.seq rs)) (h' : Sent prms t₁ t₂ rs' (sents prms t₁.seq rs')) :
    Sent prms t t₂ (rs ++ rs') (sents prms t.seq (rs ++ rs')) := by
  rw [sents_append, ← h.seq]
  exact h.trans h'

theorem Sent.act {prms : MsgParams} {t t' : PtpThread} {rs : List Request} {acts : List PtpAct}
    (h : Sent prms t t' rs acts) (a : PtpAct) : Sent prms t (t'.act a) rs (acts ++ [a]) where
  sound := ⟨h.sound.zeroGet, h.sound.linuxptp, h.sound.prms, h.sound.auth⟩
  set := h.set
  lostConnection := h.lostConnection
  pc := h.pc
  seq := h.seq
  acts := by rw [PtpThread.act, h.acts, List.append_assoc]

section Steps

variable (lib : HmacLib) {prms : MsgParams} {t : PtpThread}

/-- A step that ends with another set, flag and place than the sending left. -/
theorem Sent.done {t₁ : PtpThread} {rs : List Request} {acts : List PtpAct} (h : Sent prms t t₁ rs acts)
    {set : PtpSet} {lostConnection : Bool} {pc : PtpPc} (hdoes : Does prms t rs acts set lostConnection pc) :
    Done prms t { t₁ with set, lostConnection, pc } rs acts where
  does := hdoes
  sound := ⟨h.sound.zeroGet, h.sound.linuxptp, h.sound.prms, h.sound.auth⟩
  seq := h.seq
  acts := h.acts

theorem start_done (h : Sound prms t) (hpc : t.pc = .start) (ok : Nat → Bool) :
    ∃ rs acts, Done prms t (t.start lib ok) rs acts := by
  obtain ⟨hok, hsent⟩ := eventSubscription_sent lib h (ok 0)
  rw [start]
  generalize t.eventSubscription lib (ok 0) = tried at hok hsent ⊢
  obtain ⟨b, t₁⟩ := tried
  simp only at hok hsent
  subst hok
  cases hsub : ok 0 with
  | false =>
      rw [hsub] at hsent
      have hdoes : Does prms t [] [.failed] t₁.set true .wait := by
        rw [hsent.set]
        exact .failed hpc
      exact ⟨_, _, (hsent.act .failed).done hdoes⟩
  | true =>
      rw [hsub] at hsent
      obtain ⟨gets₁, hgets₁, hsent₁⟩ := msgSetAction_sent lib (show .timeStatusNp ∈ askedIds by decide)
        (hsent.act .connected).sound (ok 1)
      obtain ⟨gets₂, hgets₂, hsent₂⟩ := msgSetAction_sent lib (show .portDataSet ∈ askedIds by decide)
        hsent₁.sound (ok 2)
      obtain ⟨gets₃, hgets₃, hsent₃⟩ := msgSetAction_sent lib (show .logSyncInterval ∈ askedIds by decide)
        hsent₂.sound (ok 3)
      have hgets : (gets₁ ++ gets₂ ++ gets₃).Sublist askedIds := (hgets₁.append hgets₂).append hgets₃
      have hasks := (hsent₁.ask hsent₂).ask hsent₃
      rw [← List.map_append, ← List.map_append, show (t₁.act .connected).seq = t.seq + 1 from hsent.seq] at hasks
      have hall := (hsent.act .connected).trans hasks
      have hdoes : Does prms t _ _ t.set t.lostConnection .wait := .connected hpc hgets
      rw [← hall.set, ← hall.lostConnection] at hdoes
      exact ⟨_, _, hall.done hdoes⟩

theorem retry_done (h : Sound prms t) (hpc : t.pc = .retry) (ok stop : Bool) :
    ∃ rs acts, Done prms t (t.retry lib ok stop) rs acts := by
  obtain ⟨hok, hsent⟩ := eventSubscription_sent lib h ok
  rw [retry]
  generalize t.eventSubscription lib ok = tried at hok hsent ⊢
  obtain ⟨b, t₁⟩ := tried
  simp only at hok hsent
  subst hok
  cases b with
  | true =>
      have hdoes : Does prms t _ _ t.set false .wait := .again hpc
      rw [← hsent.set] at hdoes
      simp only [hsent.lostConnection]
      cases hlost : t.lostConnection with
      | false =>
          rw [hlost, if_neg Bool.false_ne_true, List.append_nil] at hdoes
          exact ⟨_, _, hsent.done hdoes⟩
      | true =>
          rw [hlost, if_pos rfl] at hdoes
          exact ⟨_, _, (hsent.act .reconnected).done hdoes⟩
  | false =>
      simp only [hsent.lostConnection]
      cases hlost : t.lostConnection with
      | true =>
          have hdoes : Does prms t [] [] t.set true .retry := .still hpc hlost
          rw [← hsent.set] at hdoes
          refine ⟨[], [], ?_, hsent.sound, hsent.seq, hsent.acts⟩
          rw [if_pos rfl, hsent.lostConnection, hsent.pc, hlost, hpc]
          exact hdoes
      | false =>
          cases stop with
          | true =>
              have hdoes : Does prms t [] [.lost] t.set.portReset true .ended := .lostStopped hpc hlost
              rw [← hsent.set] at hdoes
              exact ⟨_, _, (hsent.act .lost).done hdoes⟩
          | false =>
              have hdoes : Does prms t [] _ (t.set.handle .lostConnection) true .retry := .lost hpc hlost
              rw [← hsent.set, ← hpc, ← hsent.pc] at hdoes
              exact ⟨_, _, ((hsent.act .lost).act (.told PtpSet.clearEvent)).done hdoes⟩

/-- The callback of a message, and what it asks for. -/
theorem callbacks_sent (h : Sound prms t) (msg : PtpMsg) (ok : Bool) :
    ∃ gets : List MngId, gets.Sublist [.logSyncInterval] ∧
      Sent prms { t with set := t.set.callback msg } (t.callbacks lib msg ok) (gets.map .get)
        (sents prms t.seq (gets.map .get)) := by
  have hset : Sound prms { t with set := t.set.callback msg } := ⟨h.zeroGet, h.linuxptp, h.prms, h.auth⟩
  rw [callbacks]
  split
  · exact ⟨[], List.nil_sublist _, hset, rfl, rfl, rfl, rfl, (List.append_nil _).symm⟩
  · exact msgSetAction_sent lib (show .logSyncInterval ∈ askedIds by decide) hset ok

theorem eventHandle_done {t₀ : PtpThread} (h : Sent prms t₀ t [] []) (hpc : t₀.pc = .wait) (ok : Bool)
    (stop : Option Stop) : ∃ rs acts, Done prms t₀ (t.eventHandle lib ok stop) rs acts := by
  have hstopped : Does prms t₀ [] [] t₀.set t₀.lostConnection .ended := .stopped (by rw [hpc]; decide)
  rw [← h.set, ← h.lostConnection] at hstopped
  rw [eventHandle]
  split
  · exact ⟨_, _, h.done hstopped⟩
  · cases hmsg : callHadler t.msg with
    | none =>
        simp only [hmsg, Bool.false_eq_true, if_false]
        split
        · have hcut : Does prms t₀ [] [] { t₀.set with doNotify := false } t₀.lostConnection .ended :=
            .cut hpc _ (List.nil_sublist _)
          rw [← h.set, ← h.lostConnection] at hcut
          exact ⟨_, _, h.done hcut⟩
        · have hunheard : Does prms t₀ [] [] { t₀.set with doNotify := false } t₀.lostConnection .wait :=
            .unheard hpc false
          rw [← h.set, ← h.lostConnection, ← hpc, ← h.pc] at hunheard
          exact ⟨_, _, h.done hunheard⟩
    | some msg =>
        simp only [hmsg]
        obtain ⟨gets, hgets, hsent⟩ := callbacks_sent lib (t := { t with set := { t.set with doNotify := false } })
          ⟨h.sound.zeroGet, h.sound.linuxptp, h.sound.prms, h.sound.auth⟩ msg ok
        generalize callbacks lib { t with set := { t.set with doNotify := false } } msg ok = t₂ at hsent ⊢
        have hasked : (gets.map Request.get).Sublist [.get .logSyncInterval] := hgets.map Request.get
        have hseq : t.seq = t₀.seq := h.seq
        have hset : t₂.set = ({ t₀.set with doNotify := false }).callback msg := h.set ▸ hsent.set
        have hhandle : t₀.set.handle msg = t₂.set.publish := by rw [handle_eq _ (callHadler_ne hmsg), hset]
        have hlost : t₂.lostConnection = t₀.lostConnection := hsent.lostConnection.trans h.lostConnection
        have hwait : t₂.pc = .wait := (hsent.pc.trans h.pc).trans hpc
        have hsents : sents prms t.seq (gets.map .get) = sents prms t₀.seq (gets.map .get) := by rw [hseq]
        have hacts : t₂.acts = t₀.acts ++ sents prms t₀.seq (gets.map .get) := by
          rw [hsent.acts, ← hsents, show t.acts = _ from h.acts, List.append_nil]
        have hlen : t₂.seq = t₀.seq + (gets.map Request.get).length := hseq ▸ hsent.seq
        split
        · have hcut : Does prms t₀ _ _ t₂.set t₀.lostConnection .ended := .cut hpc t₂.set hasked
          rw [← hlost] at hcut
          exact ⟨_, _, hcut, ⟨h.sound.zeroGet, h.sound.linuxptp, hsent.sound.prms, hsent.sound.auth⟩, hlen, hacts⟩
        · have hheard : Does prms t₀ _ _ (t₀.set.handle msg) t₀.lostConnection .wait :=
            .heard hpc (callHadler_ne hmsg) hasked
          rw [← hlost, hhandle, publish_doNotify, PtpSet.publish_event, ← hwait] at hheard
          split
          · next hdo =>
              rw [if_pos hdo] at hheard
              refine ⟨_, _, hheard, ⟨h.sound.zeroGet, h.sound.linuxptp, hsent.sound.prms, hsent.sound.auth⟩, hlen, ?_⟩
              rw [act, hacts, List.append_assoc]
          · next hdo =>
              rw [if_neg hdo, List.append_nil, PtpSet.publish, if_neg hdo] at hheard
              exact ⟨_, _, hheard, hsent.sound, hlen, hacts⟩

theorem packet_done (h : Sound prms t) (hpc : t.pc = .wait) (data : List UInt8) (ok : Bool)
    (stop : Option Stop) : ∃ rs acts, Done prms t (t.packet lib data ok stop) rs acts := by
  have hsame : Does prms t [] [] t.set t.lostConnection .wait := .unheard hpc t.set.doNotify
  rw [← hpc] at hsame
  rw [packet]
  simp only
  split
  · exact ⟨_, _, hsame, h, rfl, (List.append_nil _).symm⟩
  · next hdata =>
      have hkeeps := PtpMgmt.Message.parse_keeps lib t.msg (store t.buf 0 (data.take ptpBufSize))
        (data.take ptpBufSize).length
      generalize t.msg.parse lib (store t.buf 0 (data.take ptpBufSize)) (data.take ptpBufSize).length = parsed
        at hkeeps ⊢
      obtain ⟨err, msg, log⟩ := parsed
      have hsent : Sent prms t { t with buf := store t.buf 0 (data.take ptpBufSize), msg } [] [] :=
        ⟨⟨h.zeroGet, h.linuxptp, hkeeps.prms.trans h.prms, hkeeps.auth.trans h.auth⟩, rfl, rfl, rfl, rfl,
          (List.append_nil _).symm⟩
      split
      · next he =>
          cases he
          exact eventHandle_done lib hsent hpc ok stop
      · next he =>
          cases he
          exact ⟨_, _, hsent.done hsame⟩

/-- **What a step does**, whatever comes from outside. -/
theorem step_done {t' : PtpThread} (h : Sound prms t) {i : Input} (hstep : t.step lib i = some t') :
    ∃ rs acts, Done prms t t' rs acts := by
  cases i with
  | stop =>
      rw [step] at hstep
      split at hstep
      · cases hstep
      · next hpc =>
          cases hstep
          exact ⟨[], [], .stopped hpc, ⟨h.zeroGet, h.linuxptp, h.prms, h.auth⟩, rfl, (List.append_nil _).symm⟩
  | run ok stop =>
      rw [step] at hstep
      split at hstep
      · next hpc =>
          cases hstep
          exact start_done lib h hpc ok
      · next hpc =>
          cases hstep
          exact retry_done lib h hpc (ok 0) stop
      · cases hstep
  | timeout =>
      rw [step] at hstep
      split at hstep
      · next hpc =>
          cases hstep
          exact ⟨[], [], .timeout hpc, ⟨h.zeroGet, h.linuxptp, h.prms, h.auth⟩, rfl, (List.append_nil _).symm⟩
      · cases hstep
  | packet data ok stop =>
      rw [step] at hstep
      split at hstep
      · next hpc =>
          cases hstep
          exact packet_done lib h hpc data ok stop
      · cases hstep

end Steps

end PtpThread

end PtpMgmt.ClkMgr
