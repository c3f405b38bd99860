import PtpMgmt.ClkMgr.PtpRuns
import PtpMgmt.Message.Answers
import PtpMgmt.Message.Deleted

set_option autoImplicit false

/-! # What the thread of a ptp4l daemon hears

A run of the thread, over the octets that it receives, does to its event what the messages do that it hears:
the replies with a callback, and each loss of the connection. A reply is heard as the value that its octets
carry. -/

namespace PtpMgmt.ClkMgr

open Wire

namespace PtpThread

/-- The messages that the callbacks get, and the loss of the connection. -/
def hears (lib : HmacLib) (t : PtpThread) : Input → List PtpMsg
  | .packet data _ _ =>
    let data := data.take ptpBufSize
    if data = [] then []
    else
      match t.msg.parse lib (store t.buf 0 data) data.length with
      | (.ok, msg, _) => (callHadler msg).toList
      | _ => []
  | .run ok _ => if t.pc = .retry ∧ ok 0 = false ∧ t.lostConnection = false then [.lostConnection] else []
  | _ => []

/-- All that is heard in a run. -/
def history (lib : HmacLib) (t : PtpThread) : List Input → List PtpMsg
  | [] => []
  | i :: inputs =>
    match t.step lib i with
    | some t' => t.hears lib i ++ t'.history lib inputs
    | none => []

/-- The same, but for the mark that there is something to tell. -/
def Same (s s' : PtpSet) : Prop := { s with doNotify := false } = { s' with doNotify := false }

theorem Same.refl (s : PtpSet) : Same s s := rfl

theorem Same.event {s s' : PtpSet} (h : Same s s') : s.event = s'.event := by
  have hclear : { s with doNotify := false } = { s' with doNotify := false } := h
  have hevent := congrArg PtpSet.event hclear
  exact hevent

theorem Same.trans {a b c : PtpSet} (h : Same a b) (h' : Same b c) : Same a c := Eq.trans h h'

/-- The mark is no part of what a message does. -/
theorem Same.handle {s s' : PtpSet} (h : Same s s') (msg : PtpMsg) : Same (s.handle msg) (s'.handle msg) := by
  by_cases hmsg : msg = .lostConnection
  · subst hmsg
    obtain ⟨event, published, doNotify, gmIdentity, needSetAction, asked⟩ := s
    obtain ⟨event', published', doNotify', gmIdentity', needSetAction', asked'⟩ := s'
    cases h
    rfl
  · have hclear : { s with doNotify := false } = { s' with doNotify := false } := h
    rw [handle_eq _ hmsg, handle_eq _ hmsg, hclear]
    exact .refl _

theorem Same.run {s s' : PtpSet} (h : Same s s') (msgs : List PtpMsg) : Same (s.run msgs) (s'.run msgs) := by
  induction msgs generalizing s s' with
  | nil => exact h
  | cons msg msgs ih => exact ih (h.handle msg)

section Steps

variable {lib : HmacLib} {prms : MsgParams} {t t' : PtpThread}

/-- What a message does to the set. -/
theorem eventHandle_set (h : Sound prms t) (ok : Bool) (stop : Option Stop)
    (hpc : (t.eventHandle lib ok stop).pc ≠ .ended) :
    Same (t.eventHandle lib ok stop).set (t.set.run (callHadler t.msg).toList) := by
  rw [eventHandle] at hpc ⊢
  split at hpc
  · exact absurd rfl hpc
  · next hfront =>
      rw [if_neg hfront]
      cases hmsg : callHadler t.msg with
      | none =>
          simp only [hmsg, Bool.false_eq_true, if_false] at hpc ⊢
          split at hpc
          · exact absurd rfl hpc
          · next hbehind =>
              rw [if_neg hbehind]
              rfl
      | some msg =>
          simp only [hmsg] at hpc ⊢
          obtain ⟨gets, -, hsent⟩ := callbacks_sent lib (t := { t with set := { t.set with doNotify := false } })
            ⟨h.zeroGet, h.linuxptp, h.prms, h.auth⟩ msg ok
          have hhandle : t.set.run (some msg).toList =
              (callbacks lib { t with set := { t.set with doNotify := false } } msg ok).set.publish := by
            rw [hsent.set]
            exact handle_eq _ (callHadler_ne hmsg)
          rw [hhandle]
          split at hpc
          · exact absurd rfl hpc
          · next hbehind =>
              rw [if_neg hbehind]
              split
              · exact .refl _
              · next hquiet =>
                  rw [PtpSet.publish, if_neg hquiet]
                  exact .refl _

theorem packet_set (h : Sound prms t) (data : List UInt8) (ok : Bool) (stop : Option Stop)
    (hpc : (t.packet lib data ok stop).pc ≠ .ended) :
    Same (t.packet lib data ok stop).set (t.set.run (t.hears lib (.packet data ok stop))) := by
  rw [packet] at hpc ⊢
  rw [hears]
  simp only at hpc ⊢
  split
  · exact .refl _
  · next hdata =>
      rw [if_neg hdata] at hpc
      have hkeeps := PtpMgmt.Message.parse_keeps lib t.msg (store t.buf 0 (data.take ptpBufSize))
        (data.take ptpBufSize).length
      generalize t.msg.parse lib (store t.buf 0 (data.take ptpBufSize)) (data.take ptpBufSize).length = parsed
        at hkeeps hpc ⊢
      obtain ⟨err, msg, log⟩ := parsed
      by_cases hok : err = .ok
      · subst hok
        exact eventHandle_set (t := { t with buf := store t.buf 0 (data.take ptpBufSize), msg })
          ⟨h.zeroGet, h.linuxptp, hkeeps.prms.trans h.prms, hkeeps.auth.trans h.auth⟩ ok stop hpc
      · cases err with
        | ok => exact absurd rfl hok
        | _ => exact .refl _

theorem start_set (h : Sound prms t) (ok : Nat → Bool) (hstart : t.pc = .start) : (t.start lib ok).set = t.set := by
  obtain ⟨rs, acts, hdone⟩ := start_done lib h hstart ok
  have hdoes := hdone.does
  generalize (t.start lib ok).set = set, (t.start lib ok).lostConnection = lost, (t.start lib ok).pc = pc
    at hdoes ⊢
  cases hdoes <;> simp_all

theorem retry_set (h : Sound prms t) (ok : Nat → Bool) (stop : Bool) (hretry : t.pc = .retry)
    (hpc : (t.retry lib (ok 0) stop).pc ≠ .ended) :
    Same (t.retry lib (ok 0) stop).set (t.set.run (t.hears lib (.run ok stop))) := by
  obtain ⟨hok, hsent⟩ := eventSubscription_sent lib h (ok 0)
  rw [retry] at hpc ⊢
  rw [hears]
  generalize t.eventSubscription lib (ok 0) = tried at hok hsent hpc ⊢
  obtain ⟨b, t₁⟩ := tried
  simp only at hok hsent
  subst hok
  cases hsub : ok 0 with
  | true =>
      rw [if_neg (by simp), ← hsent.set]
      show Same (if t₁.lostConnection then t₁.act .reconnected else t₁).set t₁.set
      split <;> exact .refl _
  | false =>
      rw [hsub] at hpc
      simp only [hsent.lostConnection] at hpc ⊢
      by_cases hlost : t.lostConnection = true
      · rw [if_pos hlost, if_neg (by simp [hlost]), ← hsent.set]
        exact .refl _
      · have hheard : t.pc = .retry ∧ True ∧ t.lostConnection = false :=
          ⟨hretry, trivial, by simpa using hlost⟩
        rw [if_neg hlost] at hpc ⊢
        rw [if_pos hheard]
        split at hpc
        · exact absurd rfl hpc
        · next hstop =>
            rw [if_neg hstop, ← hsent.set]
            exact .refl _

/-- **Step**: the set behind it is what was heard. -/
theorem step_set (h : Sound prms t) {i : Input} (hstep : t.step lib i = some t') (hpc : t'.pc ≠ .ended) :
    Same t'.set (t.set.run (t.hears lib i)) := by
  cases i with
  | stop =>
      rw [step] at hstep
      split at hstep
      · cases hstep
      · cases hstep
        exact absurd rfl hpc
  | run ok stop =>
      rw [step] at hstep
      split at hstep
      · next hstart =>
          cases hstep
          rw [start_set h ok hstart, hears, if_neg (by simp [hstart])]
          exact .refl _
      · next hretry =>
          cases hstep
          exact retry_set h ok stop hretry hpc
      · cases hstep
  | timeout =>
      rw [step] at hstep
      split at hstep
      · cases hstep
        exact .refl _
      · cases hstep
  | packet data ok stop =>
      rw [step] at hstep
      split at hstep
      · cases hstep
        exact packet_set h data ok stop hpc
      · cases hstep

/-- **Run**: as long as the thread runs, its set is what was heard. -/
theorem run_set {inputs : List Input} (h : Sound prms t) (hrun : Runs.run (step lib) t inputs = some t')
    (hpc : t'.pc ≠ .ended) : Same t'.set (t.set.run (t.history lib inputs)) := by
  induction inputs generalizing t with
  | nil =>
      cases hrun
      exact .refl _
  | cons i inputs ih =>
      obtain ⟨t₁, hone, hrest⟩ := Runs.run_cons.1 hrun
      obtain ⟨rs, acts, hdone⟩ := step_done lib h hone
      have hrunning : t₁.pc ≠ .ended := by
        cases inputs with
        | nil =>
            cases hrest
            exact hpc
        | cons j inputs =>
            obtain ⟨t₂, hnext, -⟩ := Runs.run_cons.1 hrest
            obtain ⟨_, _, hdone'⟩ := step_done lib hdone.sound hnext
            exact hdone'.does.ne_ended
      have hall := (ih hdone.sound hrest).trans ((step_set h hone hrunning).run (t₁.history lib inputs))
      rw [history, hone]
      simp only
      rwa [PtpSet.run, List.foldl_append]

/-- A reply is heard as the value that it carries. -/
theorem hears_reply (h : Sound prms t) {id : MngId} {msg : PtpMsg} {d : Tlv id} {data : List UInt8}
    (hcallback : callbackOf (PtpMgmt.Message.readHeader t.msg.hdr (store t.buf 0 data)).peer.portNumber id
      (tlvNorm id d) = some msg)
    (hfits : tlvFits id d) {a : Tlv id} {w : List UInt8} (hw : Builds (tlvF id d) a w) (hne : w ≠ [])
    {actionField : ActionField} (hcheck : PtpMgmt.Message.checkReplyAction id actionField = true)
    (hframe : PtpMgmt.Message.ReplyFrame id actionField w (store t.buf 0 data) data.length)
    (hlen : data.length ≤ ptpBufSize) (ok : Bool) (stop : Option Stop) :
    t.hears lib (.packet data ok stop) = [msg] := by
  have hcodec : (mngAllVals id).func ≠ .na ∧ PtpMgmt.Message.isEmpty (.mng id) = false := by
    cases id <;> cases hcallback <;> exact ⟨nofun, rfl⟩
  have hknows : PtpMgmt.Message.Knows t.msg.prms id := .inl (by rw [h.prms]; exact h.linuxptp)
  have hauth : PtpMgmt.Message.AuthTaken lib t.msg (store t.buf 0 data) := fun a ha => by
    rw [h.auth] at ha
    cases ha
  obtain ⟨log, hparse⟩ := hframe.parse hcheck hknows hauth hcodec.1 hfits hw hne
  have hdata : data ≠ [] := by
    rintro rfl
    exact absurd hframe.header.base_le (by decide)
  have hlinuxptp : t.msg.prms.implementSpecific = .linuxptp := by rw [h.prms, h.linuxptp]
  rw [hears, List.take_of_length_le hlen]
  simp only [if_neg hdata, hparse]
  rw [callHadler]
  simp only [PtpMgmt.Message.getTlvId, PtpMgmt.Message.getData, PtpMgmt.Message.isValidId, hlinuxptp,
    bne_self_eq_false, Bool.false_and,
    Bool.not_false, Bool.not_true, hcodec.2, Bool.or_false, Bool.false_eq_true, if_false, TlvPtr.cast?,
    BaseMngTlv.cast?_tlv, Option.bind_some, hcallback]
  rfl

end Steps

/-- **What the thread makes of what it hears**: over every run, whatever octets are received and whichever
    sends fail, as long as the thread runs the last event that the clients were told is that which the heard
    messages make; and a reply that carries what the codec writes of a value with a callback is heard as this
    value, whatever was received before it, as long as that left no pointer that was never assigned, and its
    parse deletes none. -/
theorem told_history (lib : HmacLib) {param : TimeBaseCfg} {msg : PtpMgmt.Message} (hmsg : initMsg param = some msg)
    (gmIdentity : ClockIdentity) (buf : Nat → UInt8) {inputs : List Input} {t : PtpThread}
    (hrun : Runs.run (step lib) (init gmIdentity buf msg) inputs = some t) (hpc : t.pc ≠ .ended) :
    lastTold t.acts = ((PtpSet.init gmIdentity).run ((init gmIdentity buf msg).history lib inputs)).event ∧
    ∀ (id : MngId) (d a : Tlv id) (w data : List UInt8) (actionField : ActionField) (msg : PtpMsg)
      (ok : Bool) (stop : Option Stop), tlvFits id d → Builds (tlvF id d) a w → w ≠ [] →
      PtpMgmt.Message.checkReplyAction id actionField = true →
      PtpMgmt.Message.ReplyFrame id actionField w (store t.buf 0 data) data.length → data.length ≤ ptpBufSize →
      callbackOf (PtpMgmt.Message.readHeader t.msg.hdr (store t.buf 0 data)).peer.portNumber id (tlvNorm id d) =
        some msg → t.msg.Owned →
      t.hears lib (.packet data ok stop) = [msg] ∧
      (t.msg.parse lib (store t.buf 0 data) data.length).2.2.freesWild = false := by
  have hsound := sound_init hmsg gmIdentity buf
  have hsound' := (run_keeps (I := fun _ => True) (fun _ _ _ _ _ _ => trivial) hsound trivial hrun).1
  have hshows := run_shows hsound (shows_init gmIdentity buf msg) hrun hpc
  refine ⟨?_, ?_⟩
  · have hsame := run_set hsound hrun hpc
    rw [hshows.told]
    exact hsame.event
  · intro id d a w data actionField msg ok stop hfits hw hne hcheck hframe hlen hcallback howned
    refine ⟨hears_reply hsound' hcallback hfits hw hne hcheck hframe hlen ok stop, ?_⟩
    rw [← Bool.not_eq_true, PtpMgmt.Message.parse_freesWild_iff]
    exact howned.not_deletesWild _ _

theorem intervalReply_frame :
    PtpMgmt.Message.ReplyFrame .logSyncInterval .response [0xfd] (store startedThread.buf 0 intervalReply)
      intervalReply.length where
  header := ⟨by decide, by decide, by decide, by decide, by decide, by decide⟩
  action := by decide
  tlvType := by decide
  lengthField := by decide
  managementId := by decide
  dataField := by decide
  rest_nonneg := by decide

theorem startedThread_owned : startedThread.msg.Owned :=
  ⟨TlvPtr.noConfusion, fun _ hx => (List.not_mem_nil hx).elim⟩

theorem told_history_startedThread :
    startedThread.hears zeroLib (.packet intervalReply true none) = [.logSyncInterval ⟨-3⟩] := by
  have hw : Builds (tlvF .logSyncInterval ⟨-3⟩) ⟨-3⟩ [0xfd] :=
    Builds.bind (procInt8_roundTrips (-3) 0).builds (Builds.pure _)
  exact ((told_history zeroLib (show initMsg someParam = some someMsg from rfl) default (fun _ => 0)
    startedThread_run nofun).2 .logSyncInterval ⟨-3⟩ ⟨-3⟩ [0xfd] intervalReply .response (.logSyncInterval ⟨-3⟩) true
    none ⟨trivial, trivial, trivial⟩ hw nofun (by decide) intervalReply_frame (by decide) rfl
    startedThread_owned).1

end PtpThread

end PtpMgmt.ClkMgr
