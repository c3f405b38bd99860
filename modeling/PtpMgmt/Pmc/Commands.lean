import PtpMgmt.Message.Allowed
import PtpMgmt.Message.Replies
import PtpMgmt.Message.Written
import PtpMgmt.Pmc.Shell

set_option autoImplicit false

/-! # What the lines of `pmc` send

The tool keeps one message for what it sends and what it receives, and one buffer for both. Still what it sends
depends on its lines alone: not on what it receives between them, nor on when, nor on whether the lines come from
the command line. The proof runs the lines alone beside the tool. -/

namespace PtpMgmt

open Json Wire MsgBuild
open Message (Alike SendsAlike SendInv)

/-! ## Setting the message up -/

section SetUp

variable {m m' : Message}

theorem allowedAction_alike (h : Alike m m') (tlvId : MngVals) (action : ActionField) :
    m.allowedAction tlvId action = m'.allowedAction tlvId action := by
  cases action <;> cases tlvId <;> simp only [Message.allowedAction, h.implementSpecific]

/-- `setAction` on messages that are alike: both refuse, or both send the same behind it. -/
theorem setAction_alike (h : Alike m m') (action : ActionField) (id : MngId) (data : Option BaseMngTlv) :
    (m.setAction action (.mng id) data).1 = (m'.setAction action (.mng id) data).1 ∧
    Alike (m.setAction action (.mng id) data).2 (m'.setAction action (.mng id) data).2 ∧
    ((m.setAction action (.mng id) data).1 = true →
      SendsAlike (m.setAction action (.mng id) data).2 (m'.setAction action (.mng id) data).2 ∧
      ((m.setAction action (.mng id) data).2.dataSend = none ∨
        (m.setAction action (.mng id) data).2.dataSend = data)) := by
  simp only [Message.setAction, allowedAction_alike h]
  split
  · exact ⟨rfl, h, fun hok => by cases hok⟩
  · split
    · split
      · exact ⟨rfl, h, fun hok => by cases hok⟩
      · exact ⟨rfl, ⟨h.prms, h.auth⟩, fun _ => ⟨⟨⟨h.prms, h.auth⟩, rfl, rfl, rfl⟩, .inr rfl⟩⟩
    · exact ⟨rfl, ⟨h.prms, h.auth⟩, fun _ => ⟨⟨⟨h.prms, h.auth⟩, rfl, rfl, rfl⟩, .inl rfl⟩⟩

/-- A message that was set up, whatever it was before. -/
theorem setAction_sendInv {action : ActionField} {id : MngId} {data : Option BaseMngTlv}
    (hok : (m.setAction action (.mng id) data).1 = true) : SendInv (m.setAction action (.mng id) data).2 := by
  -- a new message with the same parameters sends the same
  let new : Message := { Message.init m.prms with prms := m.prms, auth := m.auth }
  have hnew : SendInv new := (Message.sendInv_init m.prms).congr rfl rfl rfl
  have halike : Alike m new := ⟨rfl, rfl⟩
  obtain ⟨-, -, hsame⟩ := setAction_alike halike action id data
  obtain ⟨hsends, -⟩ := hsame hok
  exact (hnew.setAction action (.mng id) data).congr hsends.dataSend hsends.sendAction hsends.tlvId

/-- The TLVs with addresses of their own have no builder. -/
theorem addressesFit_of_builder {id : MngId} {b : Builder id} (hb : builder id = some b) (d : Tlv id) :
    tlvAddressesFit id d := by
  cases id
  case clockDescription | grandmasterClusterTable | unicastMasterTable | unicastMasterTableNp => cases hb
  all_goals trivial

theorem iBuild_addressesFit {id : MngId} {mem : Tlv id} {save : Text} {tlv : BaseMngTlv}
    (h : iBuild id mem save = some (some tlv)) : ∀ id' d, tlv = .tlv id' d → tlvAddressesFit id' d := by
  rw [iBuild] at h
  split at h
  · cases h
  · next b hb =>
      obtain ⟨built, -, hbuilt⟩ := Option.map_eq_some_iff.1 h
      obtain ⟨d, -, rfl⟩ := Option.map_eq_some_iff.1 hbuilt
      rintro id' d' heq
      cases heq
      exact addressesFit_of_builder hb d

/-- A message that is to be sent is set up for it. -/
structure SetUp (m m' : Message) : Prop extends SendsAlike m m' where
  inv : SendInv m
  addresses : ∀ id d, m.dataSend = some (.tlv id d) → tlvAddressesFit id d

theorem setAction_setUp (h : Alike m m') {action : ActionField} {id : MngId} {data : Option BaseMngTlv}
    (haddr : ∀ tlv, data = some tlv → ∀ id' d, tlv = .tlv id' d → tlvAddressesFit id' d) :
    (m.setAction action (.mng id) data).1 = (m'.setAction action (.mng id) data).1 ∧
    Alike (m.setAction action (.mng id) data).2 (m'.setAction action (.mng id) data).2 ∧
    ((m.setAction action (.mng id) data).1 = true →
      SetUp (m.setAction action (.mng id) data).2 (m'.setAction action (.mng id) data).2) := by
  obtain ⟨hok, halike, hsame⟩ := setAction_alike h action id data
  refine ⟨hok, halike, fun hset => ?_⟩
  obtain ⟨hsends, hdata⟩ := hsame hset
  refine ⟨hsends, setAction_sendInv hset, fun id' d hd => ?_⟩
  rcases hdata with hnone | hdata
  · rw [hnone] at hd
    cases hd
  · exact haddr _ (hdata.symm.trans hd) id' d rfl

/-- `buildTlv` on messages that are alike. -/
theorem buildTlv_alike (h : Alike m m') (action : ActionField) (id : MngId) (mem : (id : MngId) → Tlv id)
    (save : Text) :
    Option.Rel (fun (r r' : Bool × Message) => r.1 = r'.1 ∧ Alike r.2 r'.2 ∧ (r.1 = true → SetUp r.2 r'.2))
      (buildTlv m action (.mng id) mem save) (buildTlv m' action (.mng id) mem save) := by
  have hvalid : m.isValidId (.mng id) = m'.isValidId (.mng id) := by
    simp only [Message.isValidId, h.implementSpecific]
  rw [buildTlv, buildTlv, hvalid]
  split
  · exact .some ⟨rfl, h, fun hok => by cases hok⟩
  · split
    · exact .some (setAction_setUp h fun _ hnone => by cases hnone)
    · split
      · cases hbuild : iBuild id (mem id) save with
        | none => exact .none
        | some tlv =>
            cases tlv with
            | none => exact .some ⟨rfl, h, fun hok => by cases hok⟩
            | some tlv =>
                refine .some (setAction_setUp h fun tlv' htlv => ?_)
                cases htlv
                exact iBuild_addressesFit hbuild
      · exact .some ⟨rfl, h, fun hok => by cases hok⟩

theorem buildTlv_keeps {action : ActionField} {tlvId : MngVals} {mem : (id : MngId) → Tlv id} {save : Text}
    {r : Bool × Message} (h : buildTlv m action tlvId mem save = some r) :
    r.2.prms = m.prms ∧ r.2.auth = m.auth := by
  have hset : ∀ data, (m.setAction action tlvId data).2.prms = m.prms ∧
      (m.setAction action tlvId data).2.auth = m.auth := by
    intro data
    obtain heq | ⟨id, -, ⟨d, -, -, heq⟩ | ⟨-, heq⟩⟩ := Message.setAction_cases m action tlvId data
    all_goals
      rw [heq]
      exact ⟨rfl, rfl⟩
  unfold buildTlv at h
  split at h
  · cases h
    exact ⟨rfl, rfl⟩
  · split at h
    · cases h
      exact hset none
    · split at h
      · split at h
        · obtain ⟨tlv, -, rfl⟩ := Option.map_eq_some_iff.1 h
          cases tlv with
          | none => exact ⟨rfl, rfl⟩
          | some tlv => exact hset _
        · cases h
          exact ⟨rfl, rfl⟩
      · cases h
        exact ⟨rfl, rfl⟩

end SetUp

namespace Shell

open Pmc

/-- The octets that were sent, in their order. -/
def sentOctets (log : List Shown) : List (List UInt8) :=
  log.filterMap fun shown => match shown with
    | .sent octets => some octets
    | _ => none

theorem sentOctets_append (log log' : List Shown) : sentOctets (log ++ log') = sentOctets log ++ sentOctets log' :=
  List.filterMap_append

/-- Two tools that have sent the same, and will send the same of a line. -/
structure Same (s t : Shell) : Prop where
  msg : Alike s.pmc.msg t.pmc.msg
  seq : s.seq = t.seq
  sent : sentOctets s.log = sentOctets t.log

/-- What the tool keeps: its set up but for the target, and the count of what it has sent. -/
structure Keeps (s s' : Shell) : Prop where
  batch : s'.batch = s.batch
  useUds : s'.pmc.useUds = s.pmc.useUds
  prms : ∃ target, s'.pmc.msg.prms = { s.pmc.msg.prms with target }
  auth : s'.pmc.msg.auth = s.pmc.msg.auth
  count : s'.seq + (sentOctets s.log).length = s.seq + (sentOctets s'.log).length

theorem Keeps.refl (s : Shell) : Keeps s s := ⟨rfl, rfl, ⟨_, rfl⟩, rfl, rfl⟩

theorem Keeps.trans {s s' s'' : Shell} (h : Keeps s s') (k : Keeps s' s'') : Keeps s s'' := by
  obtain ⟨target, hprms⟩ := h.prms
  obtain ⟨target', hprms'⟩ := k.prms
  have hcount := h.count
  have kcount := k.count
  exact ⟨k.batch.trans h.batch, k.useUds.trans h.useUds, ⟨target', by rw [hprms', hprms]⟩, k.auth.trans h.auth,
    by omega⟩

/-- Only the message is another one. -/
theorem Keeps.withMsg {s s' : Shell} (h : Keeps s s') {m : Message} (hprms : m.prms = s'.pmc.msg.prms)
    (hauth : m.auth = s'.pmc.msg.auth) : Keeps s (s'.withMsg m) :=
  h.trans ⟨rfl, rfl, ⟨_, hprms⟩, hauth, rfl⟩

/-- Something is shown that is no message. -/
theorem Keeps.note {s s' : Shell} (h : Keeps s s') {shown : List Shown} (hshown : sentOctets shown = []) :
    Keeps s (s'.note shown) := by
  refine h.trans ⟨rfl, rfl, ⟨_, rfl⟩, rfl, ?_⟩
  show s'.seq + (sentOctets s'.log).length = s'.seq + (sentOctets (s'.log ++ shown)).length
  rw [sentOctets_append, hshown, List.append_nil]

section Same

variable {s t : Shell}

theorem Same.withMsg (h : Same s t) {m m' : Message} (hm : Alike m m') : Same (s.withMsg m) (t.withMsg m') :=
  ⟨hm, h.seq, h.sent⟩

/-- Something is shown that is no message. -/
theorem Same.note (h : Same s t) {shown shown' : List Shown} (hshown : sentOctets shown = sentOctets shown') :
    Same (s.note shown) (t.note shown') := by
  refine ⟨h.msg, h.seq, ?_⟩
  show sentOctets (s.log ++ shown) = sentOctets (t.log ++ shown')
  rw [sentOctets_append, sentOctets_append, h.sent, hshown]

/-- The message is built of both, or of none, and the octets are the same. -/
theorem Same.sendAction (lib : HmacLib) (h : Same s t) (hset : SetUp s.pmc.msg t.pmc.msg) (taken : Bool) :
    (s.sendAction lib taken).1 = (t.sendAction lib taken).1 ∧
    Same (s.sendAction lib taken).2 (t.sendAction lib taken).2 := by
  obtain ⟨hiff, hoctets⟩ := hset.toSendsAlike.build lib hset.inv hset.addresses s.buf t.buf bufSize (UInt16.ofNat s.seq)
  obtain ⟨len, hmsg⟩ := Message.build_message lib s.pmc.msg s.buf bufSize (UInt16.ofNat s.seq)
  obtain ⟨len', hmsg'⟩ := Message.build_message lib t.pmc.msg t.buf bufSize (UInt16.ofNat s.seq)
  simp only [Shell.sendAction, ← h.seq]
  generalize s.pmc.msg.build lib s.buf bufSize (UInt16.ofNat s.seq) = built at hiff hoctets hmsg ⊢
  generalize t.pmc.msg.build lib t.buf bufSize (UInt16.ofNat s.seq) = built' at hiff hoctets hmsg' ⊢
  obtain ⟨err, msg, mp⟩ := built
  obtain ⟨err', msg', mp'⟩ := built'
  simp only at hiff hoctets hmsg hmsg' ⊢
  have halike : Alike msg msg' := by
    rw [hmsg, hmsg']
    exact ⟨hset.prms, hset.auth⟩
  have hbuilt : Same { s.withMsg msg with buf := mp.mem } { t.withMsg msg' with buf := mp'.mem } :=
    ⟨halike, h.seq, h.sent⟩
  by_cases herr : err = .ok
  · rw [if_neg (not_not.2 herr), if_neg (not_not.2 (hiff.1 herr))]
    cases taken with
    | false => exact ⟨rfl, hbuilt.note rfl⟩
    | true =>
        refine ⟨rfl, halike, congrArg (· + 1) h.seq, ?_⟩
        show sentOctets (s.log ++ [.sent (slice mp.mem 0 msg.msgLen)]) =
          sentOctets (t.log ++ [.sent (slice mp'.mem 0 msg'.msgLen)])
        rw [sentOctets_append, sentOctets_append, h.sent, hoctets herr]
  · rw [if_pos herr, if_pos fun herr' => herr (hiff.2 herr')]
    exact ⟨rfl, hbuilt.note rfl⟩

/-- Both leave the line, or both send or not and are the same behind it. -/
def SameResult : Option (Bool × Shell) → Option (Bool × Shell) → Prop :=
  Option.Rel fun (r r' : Bool × Shell) => r.1 = r'.1 ∧ Same r.2 r'.2

theorem Same.callData (lib : HmacLib) (h : Same s t) (action : ActionField) (id : MngId)
    (mem : (id : MngId) → Tlv id) (save : Text) (taken : Bool) :
    SameResult (s.callData lib action id mem save taken) (t.callData lib action id mem save taken) := by
  have hbuilt := buildTlv_alike h.msg action id mem save
  rw [Shell.callData, Shell.callData]
  generalize buildTlv s.pmc.msg action (.mng id) mem save = built at hbuilt ⊢
  generalize buildTlv t.pmc.msg action (.mng id) mem save = built' at hbuilt ⊢
  cases hbuilt with
  | none => exact .none
  | @some r r' hr =>
      obtain ⟨ok, msg⟩ := r
      obtain ⟨ok', msg'⟩ := r'
      obtain ⟨hok, halike, hset⟩ := hr
      simp only at hok
      subst hok
      refine .some ?_
      cases ok with
      | false => exact ⟨rfl, h.withMsg halike⟩
      | true =>
          obtain ⟨hsent, hsame⟩ := (h.withMsg halike).sendAction lib (hset rfl) taken
          simp only [if_true]
          generalize (s.withMsg msg).sendAction lib taken = sent at hsent hsame ⊢
          generalize (t.withMsg msg').sendAction lib taken = sent' at hsent hsame ⊢
          obtain ⟨b, s₁⟩ := sent
          obtain ⟨b', t₁⟩ := sent'
          simp only at hsent hsame
          subst hsent
          cases b with
          | false => exact ⟨rfl, hsame⟩
          | true => exact ⟨rfl, hsame.note rfl⟩

theorem updatePortIdentity_alike {prms prms' : MsgParams} (h : prms.outbound = prms'.outbound) (str : Text) :
    Option.Rel (fun p p' => p.outbound = p'.outbound) (updatePortIdentity prms str) (updatePortIdentity prms' str) := by
  have htarget : ∀ target, { prms with target }.outbound = { prms' with target }.outbound := fun target =>
    congrArg (fun p : MsgParams => { p with target }) h
  rw [updatePortIdentity, updatePortIdentity]
  split
  · exact .none
  · split
    · exact .none
    · simp only
      split
      · exact .none
      · split
        · exact .none
        · exact .some (htarget _)

theorem updatePortIdentity_target {prms prms' : MsgParams} {str : Text} (h : updatePortIdentity prms str = some prms') :
    ∃ target, prms' = { prms with target } := by
  rw [updatePortIdentity] at h
  split at h
  · cases h
  · split at h
    · cases h
    · simp only at h
      split at h
      · cases h
      · split at h
        · cases h
        · exact ⟨_, (Option.some.inj h).symm⟩

theorem updateParams_alike {m m' : Message} (h : Alike m m') {prms prms' : MsgParams}
    (hprms : prms.outbound = prms'.outbound) : Alike (m.updateParams prms).2 (m'.updateParams prms').2 := by
  have hts : prms.transportSpecific = prms'.transportSpecific := (congrArg MsgParams.transportSpecific hprms :)
  rw [Message.updateParams, Message.updateParams, hts]
  split
  · exact h
  · exact ⟨hprms, h.auth⟩

theorem Same.runTarget (h : Same s t) (cur : Text) : Option.Rel Same (s.runTarget cur) (t.runTarget cur) := by
  rw [Shell.runTarget, Shell.runTarget]
  cases strtok cur with
  | none => exact .none
  | some r =>
      obtain ⟨tkn, rest⟩ := r
      refine .some ?_
      cases tkn with
      | none => exact h
      | some tkn =>
          simp only
          split
          · exact h
          · split
            · have hprms := congrArg (fun p : MsgParams =>
                { p with target := ⟨⟨List.Vector.replicate 8 0xff⟩, 0xffff⟩ }) h.msg.prms
              exact h.withMsg ⟨hprms, h.msg.auth⟩
            · have hport := updatePortIdentity_alike h.msg.prms tkn.1
              generalize updatePortIdentity s.pmc.msg.prms tkn.1 = port at hport ⊢
              generalize updatePortIdentity t.pmc.msg.prms tkn.1 = port' at hport ⊢
              cases hport with
              | none => exact h.note rfl
              | some hprms => exact h.withMsg (updateParams_alike h.msg hprms)

theorem Same.runAction (lib : HmacLib) (h : Same s t) (action : ActionField) (cur : Text)
    (mem : (id : MngId) → Tlv id) (taken : Bool) :
    SameResult (s.runAction lib action cur mem taken) (t.runAction lib action cur mem taken) := by
  rw [Shell.runAction, Shell.runAction]
  split
  · exact .none
  · exact .some ⟨rfl, h⟩
  · split
    · exact .some ⟨rfl, h⟩
    · exact h.callData lib action _ mem _ taken

/-- **A line does the same to both.** -/
theorem Same.runLine (lib : HmacLib) (h : Same s t) (line : Text) (mem : (id : MngId) → Tlv id) (taken : Bool) :
    SameResult (s.runLine lib line mem taken) (t.runLine lib line mem taken) := by
  rw [Shell.runLine, Shell.runLine]
  split
  · exact .none
  · exact .some ⟨rfl, h⟩
  · next cur _ save _ =>
      split
      · exact h.runAction lib _ save mem taken
      · split
        · have htarget := h.runTarget save
          generalize s.runTarget save = s₁ at htarget ⊢
          generalize t.runTarget save = t₁ at htarget ⊢
          cases htarget with
          | none => exact .none
          | some hsame => exact .some ⟨rfl, hsame⟩
        · exact .some ⟨rfl, h⟩

end Same

/-! ## What the tool keeps -/

section Keeps

variable {lib : HmacLib} {s s' : Shell}

theorem keeps_sendAction (lib : HmacLib) (s : Shell) (taken : Bool) :
    Keeps s (s.sendAction lib taken).2 ∧ (s.sendAction lib taken).2.place = s.place := by
  obtain ⟨len, hmsg⟩ := Message.build_message lib s.pmc.msg s.buf bufSize (UInt16.ofNat s.seq)
  simp only [Shell.sendAction]
  generalize s.pmc.msg.build lib s.buf bufSize (UInt16.ofNat s.seq) = built at hmsg ⊢
  obtain ⟨err, msg, mp⟩ := built
  simp only at hmsg ⊢
  subst hmsg
  have hbuilt : Keeps s { s.withMsg { s.pmc.msg with msgLen := len } with buf := mp.mem } :=
    ⟨rfl, rfl, ⟨_, rfl⟩, rfl, rfl⟩
  split
  · exact ⟨hbuilt.note rfl, rfl⟩
  · split
    · refine ⟨⟨rfl, rfl, ⟨_, rfl⟩, rfl, ?_⟩, rfl⟩
      show s.seq + 1 + (sentOctets s.log).length = s.seq + (sentOctets (s.log ++ [.sent _])).length
      have hone : ∀ octets, (sentOctets [.sent octets]).length = 1 := fun _ => rfl
      rw [sentOctets_append, List.length_append, hone]
      omega
    · exact ⟨hbuilt.note rfl, rfl⟩

theorem keeps_callData {action : ActionField} {id : MngId} {mem : (id : MngId) → Tlv id} {save : Text}
    {taken : Bool} {r : Bool × Shell} (h : s.callData lib action id mem save taken = some r) :
    Keeps s r.2 ∧ r.2.place = s.place := by
  obtain ⟨⟨ok, msg⟩, hbuilt, rfl⟩ := Option.map_eq_some_iff.1 h
  obtain ⟨hprms, hauth⟩ := buildTlv_keeps hbuilt
  have hmsg : Keeps s (s.withMsg msg) := (Keeps.refl s).withMsg hprms hauth
  obtain ⟨hsent, hplace⟩ := keeps_sendAction lib (s.withMsg msg) taken
  simp only
  split
  · split
    · next he =>
        rw [he] at hsent hplace
        exact ⟨(hmsg.trans hsent).note rfl, hplace⟩
    · next he =>
        rw [he] at hsent hplace
        exact ⟨hmsg.trans hsent, hplace⟩
  · exact ⟨hmsg, rfl⟩

theorem keeps_runTarget {cur : Text} (h : s.runTarget cur = some s') : Keeps s s' ∧ s'.place = s.place := by
  obtain ⟨⟨tkn, rest⟩, -, rfl⟩ := Option.map_eq_some_iff.1 h
  simp only
  split
  · exact ⟨.refl s, rfl⟩
  · split
    · exact ⟨.refl s, rfl⟩
    · split
      · exact ⟨⟨rfl, rfl, ⟨_, rfl⟩, rfl, rfl⟩, rfl⟩
      · split
        · next prms hport =>
            obtain ⟨target, rfl⟩ := updatePortIdentity_target hport
            refine ⟨⟨rfl, rfl, ?_, ?_, rfl⟩, rfl⟩
            · simp only [Shell.withMsg, Message.updateParams]
              split
              · exact ⟨_, rfl⟩
              · exact ⟨target, rfl⟩
            · simp only [Shell.withMsg, Message.updateParams]
              split <;> rfl
        · exact ⟨(Keeps.refl s).note rfl, rfl⟩

theorem keeps_runLine {line : Text} {mem : (id : MngId) → Tlv id} {taken : Bool} {r : Bool × Shell}
    (h : s.runLine lib line mem taken = some r) : Keeps s r.2 ∧ r.2.place = s.place := by
  have hsame : Keeps s s ∧ s.place = s.place := ⟨.refl s, rfl⟩
  rw [Shell.runLine] at h
  split at h
  · cases h
  · cases h
    exact hsame
  · split at h
    · rw [Shell.runAction] at h
      split at h
      · cases h
      · cases h
        exact hsame
      · split at h
        · cases h
          exact hsame
        · exact keeps_callData h
    · split at h
      · obtain ⟨s', htarget, rfl⟩ := Option.map_eq_some_iff.1 h
        exact keeps_runTarget htarget
      · cases h
        exact hsame

theorem keeps_rcv (lib : HmacLib) (s : Shell) (got : Option (List UInt8)) : Keeps s (s.rcv lib got).2 := by
  have hpmc : ∀ buf cnt, (s.pmc.rcv lib buf cnt).2.2.msg.prms = s.pmc.msg.prms ∧
      (s.pmc.rcv lib buf cnt).2.2.msg.auth = s.pmc.msg.auth ∧
      (s.pmc.rcv lib buf cnt).2.2.useUds = s.pmc.useUds := by
    intro buf cnt
    rw [Pmc.rcv]
    split
    · exact ⟨rfl, rfl, rfl⟩
    · have hkeeps := Message.parse_keeps lib s.pmc.msg buf cnt
      exact ⟨hkeeps.prms, hkeeps.auth, rfl⟩
  have hcount : ∀ printed, s.seq + (sentOctets s.log).length =
      s.seq + (sentOctets (s.log ++ [.printed printed])).length := fun printed => by
    rw [sentOctets_append, show sentOctets [.printed printed] = [] from rfl, List.append_nil]
  cases got with
  | none =>
      obtain ⟨hprms, hauth, huds⟩ := hpmc s.buf (-1)
      rw [Shell.rcv]
      exact ⟨rfl, huds, ⟨_, hprms⟩, hauth, hcount _⟩
  | some octets =>
      obtain ⟨hprms, hauth, huds⟩ := hpmc (store s.buf 0 octets) octets.length
      rw [Shell.rcv]
      exact ⟨rfl, huds, ⟨_, hprms⟩, hauth, hcount _⟩

/-- The place is another one. -/
theorem Keeps.at (h : Keeps s s') (place : Place) : Keeps s { s' with place } :=
  h.trans ⟨rfl, rfl, ⟨_, rfl⟩, rfl, rfl⟩

theorem Keeps.wait (h : Keeps s s') (pkts : Nat) : Keeps s (s'.wait pkts) := by
  cases pkts with
  | zero => exact h.at _
  | succ pkts => exact (h.note rfl).at _

theorem Keeps.waited (h : Keeps s s') (pkts : Nat) : Keeps s (s'.waited pkts) := by
  rw [Shell.waited]
  split
  · exact h.wait _
  · exact h.at _

theorem keeps_takeLine {pkts : Nat} {line : Text} {mem : (id : MngId) → Tlv id} {taken : Bool}
    (h : s.takeLine lib pkts line mem taken = some s') : Keeps s s' := by
  obtain ⟨⟨sent, s₁⟩, hrun, rfl⟩ := Option.map_eq_some_iff.1 h
  obtain ⟨hkeeps, -⟩ := keeps_runLine hrun
  simp only
  split
  · exact hkeeps.at _
  · split
    · exact hkeeps.wait 1
    · exact hkeeps

theorem keeps_takeAnswer (lib : HmacLib) (s : Shell) (pkts : Nat) (ready : Bool) (timeout : UInt64)
    (got : Option (List UInt8)) : Keeps s (s.takeAnswer lib pkts ready timeout got) := by
  rw [Shell.takeAnswer]
  split
  · simp only
    split
    · exact keeps_rcv lib s got
    · exact (keeps_rcv lib s got).waited pkts
  · exact ((Keeps.refl s).note rfl).waited pkts

theorem keeps_step {input : Input} (h : step lib s input = some s') : Keeps s s' := by
  unfold Shell.step at h
  split at h
  · exact keeps_takeLine h
  · obtain rfl := Option.some.inj h
    split
    · exact (Keeps.refl s).wait _
    · exact (Keeps.refl s).at _
  · split at h
    · cases h
    · obtain rfl := Option.some.inj h
      exact keeps_rcv lib s _
  · obtain rfl := Option.some.inj h
    exact keeps_takeAnswer ..
  · cases h

theorem keeps_run {inputs : List Input} (h : Runs.run (step lib) s inputs = some s') : Keeps s s' :=
  Runs.run_invariant (I := Keeps s) (fun _ _ _ hkeeps hone => hkeeps.trans (keeps_step hone)) (.refl s) h

end Keeps

/-! ## Runs -/

/-- The lines among what comes from outside. -/
def Input.isLine : Input → Bool
  | .line .. => true
  | _ => false

/-- A tool on a network, which may take a line at any time. -/
structure AtLines (t : Shell) : Prop where
  batch : t.batch = false
  useUds : t.pmc.useUds = false
  place : t.place = .lines 0

section Runs

variable {lib : HmacLib} {s s' t : Shell}

theorem Same.rcv (h : Same s t) (got : Option (List UInt8)) : Same (s.rcv lib got).2 t := by
  have hpmc : ∀ buf cnt, Alike (s.pmc.rcv lib buf cnt).2.2.msg t.pmc.msg := by
    intro buf cnt
    rw [Pmc.rcv]
    split
    · exact h.msg
    · have hkeeps := Message.parse_keeps lib s.pmc.msg buf cnt
      exact Alike.trans ⟨congrArg MsgParams.outbound hkeeps.prms, hkeeps.auth⟩ h.msg
  have hsent : ∀ printed, sentOctets (s.log ++ [.printed printed]) = sentOctets t.log := fun printed => by
    rw [sentOctets_append, ← h.sent]
    exact List.append_nil _
  cases got with
  | none =>
      have hmsg := hpmc s.buf (-1)
      rw [Shell.rcv]
      exact ⟨hmsg, h.seq, hsent _⟩
  | some octets =>
      have hmsg := hpmc (store s.buf 0 octets) octets.length
      rw [Shell.rcv]
      exact ⟨hmsg, h.seq, hsent _⟩

theorem Same.wait (h : Same s t) (pkts : Nat) : Same (s.wait pkts) t := by
  cases pkts with
  | zero => exact ⟨h.msg, h.seq, h.sent⟩
  | succ pkts => exact ⟨h.msg, h.seq, (sentOctets_append ..).trans ((List.append_nil _).trans h.sent)⟩

theorem Same.waited (h : Same s t) (pkts : Nat) : Same (s.waited pkts) t := by
  rw [Shell.waited]
  split
  · exact h.wait _
  · exact ⟨h.msg, h.seq, h.sent⟩

/-- A line that the tool takes is taken by the lines alone. -/
theorem Same.takeLine (h : Same s t) (ht : AtLines t) {pkts : Nat} {line : Text} {mem : (id : MngId) → Tlv id}
    {taken : Bool} (hline : s.takeLine lib pkts line mem taken = some s') :
    ∃ t', Shell.step lib t (.line line mem taken) = some t' ∧ Same s' t' ∧ AtLines t' := by
  obtain ⟨⟨sent, s₁⟩, hrun, rfl⟩ := Option.map_eq_some_iff.1 hline
  have hresult := h.runLine lib line mem taken
  rw [hrun] at hresult
  generalize ht₁ : t.runLine lib line mem taken = r at hresult
  cases hresult with
  | @some _ r hr =>
      obtain ⟨sent', t₁⟩ := r
      obtain ⟨-, hsame⟩ := hr
      obtain ⟨hkeeps, hplace⟩ := keeps_runLine ht₁
      have hbatch : t₁.batch = false := hkeeps.batch.trans ht.batch
      have huds : t₁.pmc.useUds = false := hkeeps.useUds.trans ht.useUds
      refine ⟨t₁, ?_, ?_, hbatch, huds, hplace.trans ht.place⟩
      · simp [Shell.step, ht.place, Shell.takeLine, ht₁, hbatch, huds]
      · simp only
        split
        · exact ⟨hsame.msg, hsame.seq, hsame.sent⟩
        · split
          · exact hsame.wait 1
          · exact hsame

theorem Same.takeAnswer (h : Same s t) (pkts : Nat) (ready : Bool) (timeout : UInt64) (got : Option (List UInt8)) :
    Same (s.takeAnswer lib pkts ready timeout got) t := by
  rw [Shell.takeAnswer]
  split
  · simp only
    split
    · exact h.rcv got
    · exact (h.rcv got).waited pkts
  · have hnote : Same (s.note [.pollError]) t :=
      ⟨h.msg, h.seq, (sentOctets_append ..).trans ((List.append_nil _).trans h.sent)⟩
    exact hnote.waited pkts

/-- **Step**: the lines alone, beside the tool. What else comes changes nothing that is sent. -/
theorem Same.step {input : Input} (h : Same s t) (ht : AtLines t) (hstep : step lib s input = some s') :
    ∃ t', Runs.run (Shell.step lib) t ([input].filter Input.isLine) = some t' ∧ Same s' t' ∧ AtLines t' := by
  unfold Shell.step at hstep
  split at hstep
  · obtain ⟨t', hone, hrest⟩ := h.takeLine ht hstep
    exact ⟨t', Runs.run_cons.2 ⟨t', hone, rfl⟩, hrest⟩
  · obtain rfl := Option.some.inj hstep
    refine ⟨t, rfl, ?_, ht⟩
    split
    · exact h.wait _
    · exact ⟨h.msg, h.seq, h.sent⟩
  · split at hstep
    · cases hstep
    · obtain rfl := Option.some.inj hstep
      exact ⟨t, rfl, h.rcv _, ht⟩
  · obtain rfl := Option.some.inj hstep
    exact ⟨t, rfl, h.takeAnswer .., ht⟩
  · cases hstep

/-- **Run**: the lines alone send the same. -/
theorem Same.run {inputs : List Input} (h : Same s t) (ht : AtLines t)
    (hrun : Runs.run (Shell.step lib) s inputs = some s') :
    ∃ t', Runs.run (Shell.step lib) t (inputs.filter Input.isLine) = some t' ∧ Same s' t' := by
  induction inputs generalizing s t with
  | nil =>
      cases hrun
      exact ⟨t, rfl, h⟩
  | cons input inputs ih =>
      obtain ⟨s₁, hone, hrest⟩ := Runs.run_cons.1 hrun
      obtain ⟨t₁, hfirst, hsame, hat⟩ := h.step ht hone
      obtain ⟨t', hlines, hlast⟩ := ih hsame hat hrest
      refine ⟨t', ?_, hlast⟩
      rw [← List.singleton_append, List.filter_append, Runs.run_append, hfirst]
      exact hlines

end Runs

/-! ## Set up -/

/-- Options on a network. -/
def networkOptions : Options := ⟨none, 0, false, default, 1, 0, 0, false, false⟩

end Shell

end PtpMgmt
