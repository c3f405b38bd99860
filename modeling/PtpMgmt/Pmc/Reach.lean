import PtpMgmt.Message.Answers
import PtpMgmt.Pmc.Commands
import PtpMgmt.Pmc.Values

set_option autoImplicit false

/-! # From a line to the getters of a receiver

A line that sets integers and flags becomes a TLV, the TLV a message, and the reply to the message a TLV again.
The values on the line are those that the receiver finds. -/

namespace PtpMgmt

open Json Wire MsgBuild

namespace MsgBuild

section Holds

variable {id : MngId} {b : Builder id} {v : String → Int} {d : Tlv id}

/-- Values in the range of their keys fit the wire. -/
theorem tlvFits_of_holds (hb : builder id = some b)
    (hallows : ∀ name key, (txt name, key) ∈ b.keys → key.Allows (v name)) (h : Holds id v d) : tlvFits id d := by
  have haddr := addressesFit_of_builder hb d
  cases id <;> simp only [builder, Option.some.injEq, reduceCtorEq] at hb <;> subst hb
  case time =>
    have hsec : v "secondsField" ≤ uint48Max := (hallows "secondsField" _ (.head _)).2
    rw [← h.1] at hsec
    exact ⟨UInt64.le_iff_toNat_le.2 (Int.ofNat_le.1 hsec), haddr, trivial⟩
  case alternateTimeOffsetProperties =>
    have hnext : v "timeOfNextJump" ≤ uint48Max :=
      (hallows "timeOfNextJump" _ (.tail _ (.tail _ (.tail _ (.head _))))).2
    rw [← h.2.2.2] at hnext
    exact ⟨UInt64.le_iff_toNat_le.2 (Int.ofNat_le.1 hnext), haddr, trivial⟩
  all_goals first
    | exact h.elim
    | exact ⟨trivial, haddr, trivial⟩

theorem tlvWidth_of_holds (h : Holds id v d) : tlvWidth id d ≤ 66 := by
  cases id
  all_goals first
    | exact h.elim
    | (simp only [tlvWidth]; omega)

theorem size_ne_zero_of_holds (h : Holds id v d) : (mngAllVals id).size ≠ 0 := by
  cases id
  all_goals first
    | exact h.elim
    | decide

end Holds

/-- **Step**: the TLV of a line, in the message. -/
theorem buildTlv_assigns {m : Message} {action : ActionField} {id : MngId} {b : Builder id} {line : Text}
    {vals : List (Text × Int)} (hb : builder id = some b) (honly : OnlyNumbers b.keys) (hid : id ≠ .logSyncInterval)
    (haction : action = .set ∨ action = .command) (hallowed : m.allowedAction (.mng id) action = true)
    (hvalid : m.isValidId (.mng id) = true) (hline : 0 ∉ line) (hassigns : Assigns b.keys line vals)
    (mem : (id : MngId) → Tlv id) :
    ∃ d, Holds id (fun name => b.keys.value vals (txt name)) d ∧ tlvFits id d ∧
      buildTlv m action (.mng id) mem (line ++ [0]) =
        some (true, { m with dataSend := some (.tlv id d), sendAction := action, tlvId := id }) := by
  obtain ⟨ks, hparse, hlen, hgiven⟩ := given_of_assigns hb honly hline hassigns
  obtain ⟨d, hset, hholds⟩ := holds_of_given hb honly hid hgiven hlen (newTlv id (mem id))
  have hbuild : b.build (line ++ [0]) (newTlv id (mem id)) = some (some d) := by simp [Builder.build, hparse, hset]
  have hfull := size_ne_zero_of_holds hholds
  have hcodec : (mngAllVals id).func ≠ .na := (mngAllVals_size_eq_zero id).not.1 hfull
  have hget : action ≠ .get := by rcases haction with rfl | rfl <;> decide
  have hnull : id ≠ .nullPtpManagement := fun heq => by
    subst heq
    cases hb
  refine ⟨d, hholds, tlvFits_of_holds hb (fun name key hmem => (hgiven name key hmem).2) hholds, ?_⟩
  simp [buildTlv, hvalid, hget, haction, Message.isEmpty, hfull, iBuild, hb, hbuild, Message.setAction, hallowed,
    hnull, Message.verifyTlv, hcodec]

end MsgBuild

namespace Shell

open Pmc
open Message (SendInv Knows AuthTaken HeaderOf replyTo)

/-- The message of a TLV of integers and flags has room in the buffer of the tool. -/
theorem build_room {lib : HmacLib} (hlib : lib.Computes) {m : Message} (hm : SendInv m) {d : Tlv m.tlvId}
    (hdata : m.dataSend = some (.tlv m.tlvId d)) (hfits : tlvFits m.tlvId d) (hwidth : tlvWidth m.tlvId d ≤ 66)
    (mem : Nat → UInt8) (sequence : UInt16) :
    (m.build lib mem bufSize sequence).1 = .ok ∧ (m.build lib mem bufSize sequence).2.1.msgLen ≤ bufSize := by
  obtain ⟨hsend, hbuild, -⟩ := hm.data _ hdata
  obtain ⟨w, hlen, hw, -⟩ := tlvF_roundTrips m.tlvId d hfits.1 hfits.2.1
  have hoctets := Message.dataOctets_of_builds hdata hsend (Message.func_ne_na_of_builds hbuild) hw
  have hpad : (Message.padOctets w).length = padEven (tlvWidth m.tlvId d) := by rw [Message.length_padOctets, hlen]
  have hauth : m.addAuth ≤ 42 := by
    rw [Message.addAuth]
    split
    · next a _ =>
        have hmac := (a.sa.spp a.sppID).macSize_le a.keyID
        split
        · rw [authTlvSize, Auth.macSize]
          omega
        · exact Nat.zero_le _
    · exact Nat.zero_le _
  have hroom : mngMsgBaseSize + (Message.padOctets w).length + m.addAuth ≤ bufSize := by
    rw [hpad, padEven, mngMsgBaseSize, mngMsgSize, tlvSizeHdr, lengthFieldMngBase, bufSize]
    omega
  have heven : (Message.padOctets w).length % 2 = 0 := by
    rw [hpad, padEven]
    omega
  obtain ⟨mp, hrun, -⟩ | ⟨-, hfail⟩ := (Message.build_cases lib mem bufSize sequence hoctets heven).2 hroom
  · rw [hrun]
    exact ⟨rfl, hroom⟩
  · exact absurd hlib hfail

/-- The line is the word of an action, the name of an id, and values for the keys of its builder. -/
structure Command (line : Text) (action : ActionField) {id : MngId} (b : Builder id) (vals : List (Text × Int)) :
    Prop where
  text : 0 ∉ line
  words : ∃ cmd behind name rest, firstWord line = some (cmd, behind) ∧ action? cmd = some action ∧
    firstWord behind.tail = some (name, rest) ∧ findMngID name .nullPtpManagement false = (true, id) ∧
    Assigns b.keys rest.tail vals

theorem action?_cases {cmd : Text} {action : ActionField} (h : action? cmd = some action) :
    action = .get ∨ action = .set ∨ action = .command := by
  unfold action? at h
  split at h
  · exact .inl (Option.some.inj h).symm
  · split at h
    · exact .inr (.inl (Option.some.inj h).symm)
    · split at h
      · exact .inr (.inr (Option.some.inj h).symm)
      · cases h

section Command

variable {lib : HmacLib} {s : Shell} {line : Text} {action : ActionField} {id : MngId} {b : Builder id}
  {vals : List (Text × Int)}

/-- **Step**: a command sets the TLV of its values up, and sends it. -/
theorem Command.runLine (h : Command line action b vals) (hb : builder id = some b) (honly : OnlyNumbers b.keys)
    (hid : id ≠ .logSyncInterval) (hget : action ≠ .get)
    (hallowed : ((mngAllVals id).allowed &&& (1 <<< action.val) != 0) = true)
    (himpl : s.pmc.msg.prms.implementSpecific = .linuxptp) (lib : HmacLib) (mem : (id : MngId) → Tlv id)
    (taken : Bool) :
    ∃ d, Holds id (fun name => b.keys.value vals (txt name)) d ∧ tlvFits id d ∧
      ∀ sent s₁, (s.withMsg { s.pmc.msg with
          dataSend := some (.tlv id d), sendAction := action, tlvId := id }).sendAction lib taken = (sent, s₁) →
        s.runLine lib line mem taken =
          some (sent, if sent then s₁.note [.sending s₁.pmc.msg.sendAction id] else s₁) := by
  obtain ⟨cmd, behind, name, rest, hcmd, haction, hname, hfind, hassigns⟩ := h.words
  have hsend := (action?_cases haction).resolve_left hget
  have hbehind : 0 ∉ behind.tail := fun hmem => h.text ((firstWord_rest hcmd).1.mem hmem)
  have hrest : 0 ∉ rest.tail := fun hmem => hbehind ((firstWord_rest hname).1.mem hmem)
  have hset : s.pmc.msg.allowedAction (.mng id) action = true := by
    rcases hsend with rfl | rfl <;> simpa [Message.allowedAction, himpl] using hallowed
  have hvalid : s.pmc.msg.isValidId (.mng id) = true := by simp [Message.isValidId, himpl]
  obtain ⟨d, hholds, hfits, hbuild⟩ := buildTlv_assigns hb honly hid hsend hset hvalid hrest hassigns mem
  refine ⟨d, hholds, hfits, fun sent s₁ hsent => ?_⟩
  rw [Shell.runLine, strtok_line h.text, hcmd]
  simp only [haction]
  rw [Shell.runAction, strtok_line hbehind, hname]
  simp only [hfind]
  rw [Shell.callData, hbuild]
  cases sent <;> simp [hsent]

/-- The message that is built is sent. -/
theorem sendAction_built {s : Shell} (hok : (s.pmc.msg.build lib s.buf bufSize (UInt16.ofNat s.seq)).1 = .ok) :
    ∃ s', s.sendAction lib true = (true, s') ∧
      s'.log = s.log ++ [.sent (slice (s.pmc.msg.build lib s.buf bufSize (UInt16.ofNat s.seq)).2.2.mem 0
        (s.pmc.msg.build lib s.buf bufSize (UInt16.ofNat s.seq)).2.1.msgLen)] := by
  simp only [Shell.sendAction]
  generalize s.pmc.msg.build lib s.buf bufSize (UInt16.ofNat s.seq) = built at hok ⊢
  obtain ⟨err, msg, mp⟩ := built
  simp only at hok
  subst hok
  exact ⟨_, rfl, rfl⟩

/-- A line that sent a message is behind the tool. -/
theorem sentOctets_wait (s : Shell) (pkts : Nat) : sentOctets (s.wait pkts).log = sentOctets s.log := by
  cases pkts with
  | zero => rfl
  | succ pkts => exact (sentOctets_append ..).trans (List.append_nil _)

theorem step_line {pkts : Nat} (hplace : s.place = .lines pkts) {mem : (id : MngId) → Tlv id} {taken sent : Bool}
    {s₁ : Shell} (hrun : s.runLine lib line mem taken = some (sent, s₁)) :
    ∃ s', step lib s (.line line mem taken) = some s' ∧ sentOctets s'.log = sentOctets s₁.log := by
  have htake : step lib s (.line line mem taken) = s.takeLine lib pkts line mem taken := by
    unfold Shell.step
    rw [hplace]
  rw [htake, Shell.takeLine, hrun]
  refine ⟨_, rfl, ?_⟩
  simp only
  split
  · rfl
  · split
    · exact sentOctets_wait s₁ 1
    · rfl

end Command

/-! ## Set up -/

/-- Linuxptp is the implementation of the tool. -/
def Linuxptp (m : Message) : Prop := m.prms.implementSpecific = .linuxptp

theorem Linuxptp.updateParams {m : Message} (h : Linuxptp m) {prms : MsgParams}
    (hprms : prms.implementSpecific = .linuxptp) : Linuxptp (m.updateParams prms).2 := by
  rw [Message.updateParams]
  split
  · exact h
  · exact hprms

theorem processAuth_linuxptp {lib : HmacLib} {opt : Options} {m : Message} (hm : Linuxptp m)
    {r : Message × UInt8 × MsgParams} (h : processAuth lib opt m = some r) :
    Linuxptp r.1 ∧ r.2.2.implementSpecific = .linuxptp := by
  rw [processAuth] at h
  split at h
  · cases h
    exact ⟨hm, hm⟩
  · next sa spp keyId _ =>
      split at h
      · cases h
      · obtain ⟨auth, hkey⟩ := Message.selectKey_send lib m sa spp keyId
        rw [Message.useAuth] at h
        split at h
        · cases h
        · next he =>
            rw [he] at hkey
            obtain rfl := hkey
            cases h
            exact ⟨hm, hm⟩

theorem start_linuxptp {lib : HmacLib} {opt : Options} {pmc : Pmc} (h : start lib opt = some pmc) :
    Linuxptp pmc.msg := by
  rw [start, Option.bind_eq_bind, Option.bind_eq_some_iff] at h
  obtain ⟨p, hprocess, heq⟩ := h
  rw [process, Option.bind_eq_bind, Option.bind_eq_some_iff] at hprocess
  obtain ⟨⟨m, allowUnauth, prms⟩, hauth, hp⟩ := hprocess
  obtain ⟨hm, hprms⟩ := processAuth_linuxptp (m := Message.init .init) rfl hauth
  cases hp
  cases heq
  -- the parameters of the options keep the implementation
  have hoptions : ({ prms with
    selfId := opt.selfId
    boundaryHops := opt.boundaryHops
    domainNumber := opt.domainNumber
    transportSpecific := opt.transportSpecific
    useZeroGet := opt.useZeroGet } : MsgParams).implementSpecific = .linuxptp := hprms
  have hfirst := hm.updateParams hoptions
  exact hfirst.updateParams hfirst

/-! ## What a receiver reads -/

/-- The octets that come back of a message: those of it, but for the action of the reply and for what stands
    behind the TLV. -/
structure Back (octets : List UInt8) (tail : Nat) (action : ActionField) (buf : Nat → UInt8) (size : Int) : Prop where
  same : ∀ o, o + tail < octets.length → o ≠ Message.actionFieldOff → octets[o]? = some (buf o)
  action : buf Message.actionFieldOff &&& 0xf = (replyTo action).val
  size : octets.length ≤ size

/-- **What a command sets is what a receiver reads**: in every run of the tool, in front of every line, a command
    with values for the integers and flags of an id is sent as the next message, with the count of those before it
    as its sequence, and where its reply brings the octets back, every receiver that knows the id gets these values
    of it. -/
theorem command_read (lib : HmacLib) (hlib : lib.Computes) (opt : Options) {pmc : Pmc}
    (hstart : start lib opt = some pmc) {inputs : List Input} {s : Shell}
    (hrun : Runs.run (step lib) (init pmc opt.batch) inputs = some s) {pkts : Nat} (hplace : s.place = .lines pkts)
    {line : Text} {action : ActionField} {id : MngId} {b : Builder id} {vals : List (Text × Int)}
    (hline : Command line action b vals) (hb : builder id = some b) (honly : OnlyNumbers b.keys)
    (hid : id ≠ .logSyncInterval) (hget : action ≠ .get)
    (hallowed : ((mngAllVals id).allowed &&& (1 <<< action.val) != 0) = true) (mem : (id : MngId) → Tlv id) :
    ∃ s' octets d, step lib s (.line line mem true) = some s' ∧
      sentOctets s'.log = sentOctets s.log ++ [octets] ∧ Holds id (fun name => b.keys.value vals (txt name)) d ∧
      ∀ (receiverLib : HmacLib) (r : Message) (buf : Nat → UInt8) (size : Int), Knows r.prms id →
        AuthTaken receiverLib r buf → Back octets s.pmc.msg.addAuth action buf size →
        (r.parse receiverLib buf size).1 = .ok ∧ (r.parse receiverLib buf size).2.1.getTlvId = .mng id ∧
        (r.parse receiverLib buf size).2.1.getData = .obj (.tlv id (tlvNorm id d)) ∧
        HeaderOf s.pmc.msg (UInt16.ofNat (sentOctets s.log).length) (r.parse receiverLib buf size).2.1.hdr := by
  have hkeeps := keeps_run hrun
  have himpl : s.pmc.msg.prms.implementSpecific = .linuxptp := by
    obtain ⟨target, hprms⟩ := hkeeps.prms
    rw [hprms]
    exact start_linuxptp hstart
  have hseq : s.seq = (sentOctets s.log).length := by simpa [init, sentOctets] using hkeeps.count
  obtain ⟨d, hholds, hfits, hrunLine⟩ := hline.runLine hb honly hid hget hallowed himpl lib mem true
  obtain ⟨cmd, -, -, -, -, haction, -⟩ := hline.words
  have hasks := action?_cases haction
  have hsend := hasks.resolve_left hget
  -- the message with the TLV
  let m : Message := { s.pmc.msg with dataSend := some (.tlv id d), sendAction := action, tlvId := id }
  have hbuilds := Message.builds_of_allowed id hsend hallowed (size_ne_zero_of_holds hholds)
  have hm : SendInv m := ⟨fun tlv htlv => ⟨hget, hbuilds, d, (Option.some.inj htlv).symm⟩,
    fun hnone => by cases hnone⟩
  obtain ⟨hok, hlen⟩ := build_room hlib hm rfl hfits (tlvWidth_of_holds hholds) s.buf (UInt16.ofNat s.seq)
  obtain ⟨s₁, hsent, hlog⟩ := sendAction_built (s := s.withMsg m) hok
  obtain ⟨s', hstep, hoctets⟩ := step_line hplace (hrunLine true s₁ hsent)
  refine ⟨s', slice (m.build lib s.buf bufSize (UInt16.ofNat s.seq)).2.2.mem 0
    (m.build lib s.buf bufSize (UInt16.ofNat s.seq)).2.1.msgLen, d, hstep, ?_, hholds,
    fun receiverLib r buf size hknows hauth hback => ?_⟩
  · rw [hoctets]
    show sentOctets (s₁.log ++ [.sending _ _]) = _
    rw [sentOctets_append, hlog, sentOctets_append, List.append_assoc]
    rfl
  · rw [← hseq]
    have hcomes : Message.ComesBack lib m s.buf bufSize (UInt16.ofNat s.seq) buf := fun o ho hne => by
      have hsame := hback.same o (by rw [length_slice]; exact Nat.add_lt_of_lt_sub ho) hne
      have hat : o < (m.build lib s.buf bufSize (UInt16.ofNat s.seq)).2.1.msgLen :=
        Nat.lt_of_lt_of_le ho (Nat.sub_le ..)
      rw [slice, List.getElem?_map, List.getElem?_range' hat] at hsame
      simpa using hsame.symm
    have hshort := Nat.lt_of_le_of_lt hlen (show bufSize < 65536 by decide)
    have hsize := hback.size
    rw [length_slice] at hsize
    obtain ⟨a, w, hw, hne, hframe⟩ := Message.replyFrame_of_back hm rfl hfits hok hshort hcomes hback.action hsize
    have hcheck := Message.checkReplyAction_of_allowed hasks hget hallowed
    obtain ⟨log, hparse⟩ := hframe.parse hcheck hknows hauth (Message.func_ne_na_of_builds hbuilds) hfits hw hne
    rw [hparse]
    obtain ⟨hsequence, hdomain, hunicast, hpeer, htarget⟩ := Message.headerOf_of_back hcomes hok r.hdr
    exact ⟨rfl, rfl, rfl, hsequence, hdomain, hunicast, hpeer, htarget⟩

/-- The first priority, in another case and in hexadecimal. -/
def setsPriority1 : Text := txt " SET Priority1\tpriority1 0x7"

theorem setsPriority1_command : Command setsPriority1 .set priority1B [(txt "priority1", 7)] := by
  have hwords : Cfg.SppKeys.words (txt "priority1 0x7") = [txt "priority1", txt "0x7"] := by decide
  have hspelled : Spelled priority1B.keys [(txt "priority1", 7)] [txt "priority1", txt "0x7"] :=
    .cons (.head _) (by decide) (by decide) (by decide) .nil
  refine ⟨by decide, txt "SET", txt " Priority1\tpriority1 0x7", txt "Priority1", txt "\tpriority1 0x7", by decide,
    by decide, by decide, by decide, ?_⟩
  exact ⟨hwords ▸ hspelled, by decide, by decide⟩

theorem command_read_setsPriority1 :
    ∃ pmc s' octets, start zeroLib networkOptions = some pmc ∧
      step zeroLib (init pmc false) (.line setsPriority1 (fun _ => default) true) = some s' ∧
      sentOctets s'.log = [octets] ∧
      ((Message.init .init).parse zeroLib (Function.update (ofList octets) Message.actionFieldOff 2)
        octets.length).2.1.getData = .obj (.tlv .priority1 ⟨7⟩) := by
  obtain ⟨pmc, hstart⟩ := Option.isSome_iff_exists.1
    (show (start zeroLib networkOptions).isSome = true by decide +kernel)
  have hrun : Runs.run (step zeroLib) (init pmc false) [] = some (init pmc false) := rfl
  obtain ⟨s', octets, d, hstep, hsent, hholds, hread⟩ :=
    command_read zeroLib (fun _ _ _ => rfl) networkOptions hstart hrun rfl setsPriority1_command rfl (by decide)
      (by decide) (by decide) (by decide) fun _ => default
  have hback : Back octets (init pmc false).pmc.msg.addAuth .set
      (Function.update (ofList octets) Message.actionFieldOff 2) octets.length := by
    refine ⟨fun o ho hne => ?_, ?_, le_rfl⟩
    · have hlt : o < octets.length := by omega
      simp [Function.update_of_ne hne, ofList, hlt]
    · rw [Function.update_self]
      decide
  obtain ⟨-, -, hdata, -⟩ := hread zeroLib (Message.init .init) _ _ (.inl rfl)
    (fun _ hauth => by cases hauth) hback
  have hvalue : d = ⟨7⟩ := by
    have hnum : (d.priority1.toNat : Int) = 7 := hholds
    have hval : d.priority1 = 7 := UInt8.toNat_inj.1 (by exact_mod_cast hnum)
    cases d
    simp_all
  exact ⟨pmc, s', octets, hstart, hstep, hsent, hvalue ▸ hdata⟩

end Shell

end PtpMgmt
