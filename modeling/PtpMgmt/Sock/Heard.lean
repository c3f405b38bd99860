import PtpMgmt.Sock.Held

set_option autoImplicit false

/-! # Who hears whom

What one object sends and another reads, over their whole lives. A unix socket reads from a sender with the
name of its peer alone, and the name that it is given has no abstract senders. An Ethernet socket reads the
frames that its filter passes. -/

namespace PtpMgmt

open Wire Json

namespace Sock

/-! ## Unix sockets -/

/-- The socket that `sun_path` names. The name of a file ends at its zero, an abstract one has all octets. -/
def Sender.ofPath (sunPath : Text) : Sender :=
  if isAddressAbstract sunPath then .abstract (sunPath.drop 1) else .path (cStr sunPath)

/-- The name of the socket behind the calls. -/
def boundName (d : Option Descriptor) : Sender :=
  match d.bind Descriptor.bound with
  | some (.un sunPath) => .ofPath sunPath
  | _ => .unnamed

/-- A message that `a` sends to its peer, as `b` is given it, when it is the one that is bound to the
    address. -/
def passOn (a b : Life) (msg : List UInt8) (behind : Text) : Option Datagram :=
  match a.sock with
  | .unix s =>
    match s.send.1 with
    | some (.un sunPath) =>
      if boundName (view b.log) = .ofPath sunPath then some ⟨msg, boundName (view a.log), behind⟩ else none
    | _ => none
  | _ => none

/-- What the reader finds in its buffer. -/
def heardFrom (a b : Life) (msg : List UInt8) (behind : Text) (bufSize : Nat) : Option (List UInt8) :=
  match b.sock with
  | .unix s => (passOn a b msg behind).bind fun d => (s.rcv bufSize (some d)).1
  | _ => none

/-- An object that is set up has an address of a length that was checked. -/
theorem Lives.tested {cs : List Call} {l : Life} (h : Lives cs l) {u : SockUnix} (hu : l.sock = .unix u)
    (hinit : u.isInit = true) : testUnix u.me 0 = true := by
  refine h.invariant (I := fun l => ∀ u, l.sock = .unix u → u.isInit = true → testUnix u.me 0 = true)
    (fun s hs => ?_) (fun l s' calls hl heffect => ?_) u hu hinit
  · rintro u rfl hinit
    have hnew := hs.none.1
    rw [show u.toSockBase = _ from hnew] at hinit
    cases hinit
  · obtain ⟨sock, log⟩ := l
    have halike : ∀ s', Alike sock s' → ∀ u, s' = .unix u → u.isInit = true → testUnix u.me 0 = true := by
      rintro s' hsame u rfl hinit
      cases sock with
      | unix v =>
          rw [hsame.1] at hinit
          rw [hsame.2.1 hinit]
          exact hl v rfl hinit
      | _ => exact hsame.elim
    cases heffect with
    | quiet h => exact halike s' h
    | transfer h _ => exact halike s' h
    | close =>
        rintro u hu hinit
        cases sock with
        | unix v =>
            cases hu
            cases hinit
        | _ => cases hu
    | @init b _ _ htest =>
        rintro u hu hinit
        cases sock with
        | unix v =>
            rw [show ready (.unix v) = .unix v from rfl, ite_self] at hu
            cases hu
            cases hold : v.isInit with
            | false => exact htest v rfl hinit hold
            | true => exact hl v rfl hold
        | _ =>
            dsimp only at hu
            split at hu <;> cases hu

/-- The name that the system has for an object that is set up. -/
theorem boundName_of_isInit {cs : List Call} {l : Life} (h : Lives cs l) {u : SockUnix} (hu : l.sock = .unix u)
    (hinit : u.isInit = true) : boundName (view l.log) = .ofPath (setUnixAddr u.me) := by
  have hready := (h.kept.ready (by rw [hu]; exact hinit)).2
  rw [hu] at hready
  rw [show view l.log = _ from hready]
  rfl

/-- The name of the sender is read as the text up to its zero, and none is read of an abstract sender. -/
theorem fromText_ofPath {me : Text} (htest : testUnix me 0 = true) (data : List UInt8) (behind : Text) :
    Datagram.fromText ⟨data, .ofPath (setUnixAddr me), behind⟩ =
      if isAddressAbstract me then [] else cStr me := by
  obtain ⟨hname, habstract⟩ := setUnixAddr_spec htest
  rw [Sender.ofPath, habstract, hname]
  split
  · exact fromText_abstract data _ behind
  · have hlen : (cStr me).length ≤ unixPathMax := by
      have hle := (List.takeWhile_sublist (p := fun c => decide (c ≠ 0)) (l := me)).length_le
      simp only [testUnix, Nat.sub_zero, Bool.not_eq_true', Bool.or_eq_false_iff, decide_eq_false_iff_not] at htest
      exact Nat.le_trans hle (Nat.le_of_not_lt htest.2)
    have hzero : (0 : UInt8) ∉ cStr me := fun hmem => by
      have hne := List.mem_takeWhile_imp hmem
      simp at hne
    rw [fromText_path hzero, List.take_of_length_le hlen]

/-- **Who hears whom over unix sockets**: whatever the users of two objects did before, a message that one
    sends is read by the other exactly when both are set up, the peer of the sender is the address that the
    reader is bound to, and the peer of the reader is the address of the sender, which is not abstract. The
    reader then gets what fits in its buffer, if that is not empty. -/
theorem heardFrom_iff {ca cb : List Call} {a b : Life} (ha : Lives ca a) (hb : Lives cb b) {sa sb : SockUnix}
    (hsa : a.sock = .unix sa) (hsb : b.sock = .unix sb) (msg : List UInt8) (behind : Text) (bufSize : Nat)
    (got : List UInt8) :
    heardFrom a b msg behind bufSize = some got ↔
      sa.isInit = true ∧ sb.isInit = true ∧ testUnix sa.peer 0 = true ∧ testUnix sb.peer 0 = true ∧
      Sender.ofPath (setUnixAddr sa.peer) = Sender.ofPath (setUnixAddr sb.me) ∧
      isAddressAbstract sa.me = false ∧ sb.peer = cStr sa.me ∧ got = msg.take bufSize ∧ got ≠ [] := by
  rw [heardFrom, hsb]
  simp only [Option.bind_eq_some_iff, SockUnix.rcv_iff]
  constructor
  · rintro ⟨d, hpass, hinitb, htestb, hfrom, hne, hgot⟩
    rw [passOn, hsa] at hpass
    simp only [SockUnix.send] at hpass
    cases hinita : sa.isInit with
    | false => simp [hinita] at hpass
    | true =>
        cases htesta : testUnix sa.peer 0 with
        | false => simp [hinita, htesta] at hpass
        | true =>
            simp only [hinita, htesta, Bool.not_true, Bool.false_eq_true, if_false] at hpass
            rw [boundName_of_isInit ha hsa hinita, boundName_of_isInit hb hsb hinitb, ha.kept.peer sa hsa] at hpass
            split at hpass
            · next hname =>
                obtain rfl := Option.some.inj hpass
                rw [fromText_ofPath (ha.tested hsa hinita)] at hfrom
                cases habstract : isAddressAbstract sa.me with
                | true =>
                    rw [habstract, if_pos rfl] at hfrom
                    exact absurd hfrom.symm (testUnix_ne_nil htestb)
                | false =>
                    rw [habstract, if_neg Bool.false_ne_true] at hfrom
                    exact ⟨rfl, hinitb, rfl, htestb, hname.symm, rfl, hfrom.symm, hgot, hne⟩
            · cases hpass
  · rintro ⟨hinita, hinitb, htesta, htestb, hname, habstract, hpeer, hgot, hne⟩
    refine ⟨⟨msg, .ofPath (setUnixAddr sa.me), behind⟩, ?_, hinitb, htestb, ?_, hne, hgot⟩
    · rw [passOn, hsa]
      simp only [SockUnix.send, hinita, htesta, Bool.not_true, Bool.false_eq_true, if_false]
      rw [boundName_of_isInit ha hsa hinita, boundName_of_isInit hb hsb hinitb, ha.kept.peer sa hsa, if_pos hname.symm]
    · rw [fromText_ofPath (ha.tested hsa hinita), habstract, if_neg Bool.false_ne_true, hpeer]

/-- Two sockets that have each other as peers. -/
def meLife (me peer : Text) : Life where
  sock := .unix { me, peer, peerAddr := setUnixAddr peer, fd := some 3, isInit := true }
  log := [.socket .unix 3, .bind 3 (.un (setUnixAddr me)) true]

theorem meLife_lives (me peer : Text) (hme : testUnix me 0 = true) (hpeer : testUnix peer 0 = true) :
    Lives [.setSelfAddress me false, .setPeerAddress peer false, .init ⟨some 3, fun _ => true⟩]
      (meLife me peer) := by
  refine ⟨.unix {}, .unix, ?_⟩
  simp only [Runs.run, Life.step, Option.bind_some, call, SockUnix.call, SockUnix.setSelfAddress,
    SockUnix.setPeerInternal, hme, hpeer, SockUnix.initBase, Bool.not_true, Bool.false_eq_true, if_false]
  rfl

theorem heardFrom_iff_meLife :
    heardFrom (meLife [47, 97] [47, 98]) (meLife [47, 98] [47, 97]) [1, 2] [] 1 = some [1] :=
  (heardFrom_iff (meLife_lives _ _ rfl rfl) (meLife_lives _ _ rfl rfl) rfl rfl _ _ _ _).2 (by decide)

/-! ## Ethernet -/

/-- The packets that come through the filter of a descriptor, which is the last that was attached. -/
def Descriptor.pass (d : Descriptor) (packet : List UInt8) : Option (List UInt8) :=
  let filters := d.opts.filterMap fun opt => match opt with
    | .attachFilter filter => some filter
    | _ => none
  match filters.getLast? with
  | some filter => Bpf.filter filter packet
  | none => some packet

/-- What the reader finds in its buffer of a packet at its interface. -/
def heardFrame (l : Life) (packet : List UInt8) (bufSize : Nat) : Option (List UInt8) :=
  match l.sock, view l.log with
  | .raw s, some d => (s.rcv bufSize (d.pass packet)).1
  | _, _ => none

/-- The octets of the protocol in the header. -/
def ptpProto : Binary := beOctets 2 ethP1588.toNat

/-- What a call gives: the system has MACs of six octets (`EUI48`), and a configuration those of `fromMac`. -/
def Call.Given : Call → Prop
  | .setIf (some ifObj) => ifObj.mac.length = 6
  | .setPtpDstMacCfg mac => mac.length = 6 ∨ mac.length = 8
  | _ => True

/-- The header is all in its memory, and that of an object that is set up has its addresses. -/
structure SockRaw.Framed (s : SockRaw) : Prop where
  hdr : s.hdr.length = ethHdrSize
  mac : s.haveIf = true → s.mac.length = 6
  dst : s.ptpDstMac ≠ [] → s.ptpDstMac.length = 6 ∨ s.ptpDstMac.length = 8
  frame : s.isInit = true → s.hdr = s.ptpDstMac.take 6 ++ s.mac ++ ptpProto

/-- The destination is cut to its field: the source is written over what is behind. -/
theorem SockRaw.sendHdr_eq {s : SockRaw} (hhdr : s.hdr.length = ethHdrSize) (hmac : s.mac.length = 6)
    (hdst : s.ptpDstMac.length = 6 ∨ s.ptpDstMac.length = 8) :
    s.sendHdr = s.ptpDstMac.take 6 ++ s.mac ++ ptpProto := by
  have hproto : (beOctets 2 ethP1588.toNat).length = 2 := length_beOctets 2 _
  have hnone : s.hdr.drop 14 = [] := List.drop_eq_nil_of_le (by rw [hhdr]; exact Nat.le_refl 14)
  have hshort : s.ptpDstMac.drop 12 = [] := List.drop_eq_nil_of_le (by omega)
  rw [ethHdrSize] at hhdr
  rw [sendHdr, ptpProto]
  simp only [laid, List.take_zero, List.nil_append, Nat.zero_add]
  rcases hdst with hdst | hdst
  · simp [List.drop_append, hhdr, hmac, hdst, hproto, hnone, hshort,
      List.take_of_length_le (Nat.le_of_eq hdst)]
  · simp [List.take_append, List.drop_append, hhdr, hmac, hdst, hproto, hnone, hshort]

theorem length_sendHdr {dst mac : Binary} (hmac : mac.length = 6) (hdst : dst.length = 6 ∨ dst.length = 8) :
    (dst.take 6 ++ mac ++ ptpProto).length = ethHdrSize := by
  have hproto : ptpProto.length = 2 := length_beOctets 2 _
  rw [List.length_append, List.length_append, List.length_take, hmac, hproto, ethHdrSize]
  omega

theorem SockRaw.initBase_framed {s : SockRaw} (h : s.Framed) (ans : Answers) : (s.initBase ans).2.1.Framed := by
  rw [initBase]
  split
  · exact h
  · split
    · exact h
    · next hif =>
        rw [Bool.not_eq_true, Bool.not_eq_false'] at hif
        split
        · exact h
        · next hdst =>
            split
            · exact h
            · simp only
              split
              · exact ⟨h.hdr, h.mac, h.dst, fun hinit => by cases hinit⟩
              · cases (tryCalls ans.ok (s.steps _)).1 with
                | false => exact ⟨h.hdr, h.mac, h.dst, fun hinit => by cases hinit⟩
                | true =>
                    have hsend := sendHdr_eq h.hdr (h.mac hif) (h.dst hdst)
                    exact ⟨by rw [if_pos rfl, hsend]; exact length_sendHdr (h.mac hif) (h.dst hdst), h.mac, h.dst,
                      fun _ => hsend⟩

theorem SockRaw.Framed.call {s : SockRaw} (h : s.Framed) {c : Call} (hc : c.Given) : (s.call c).1.Framed := by
  -- a value is set only while the object is not set up
  have hset : ¬s.isInit = true → ∀ ptpDstMac socketPriority, (ptpDstMac.length = 6 ∨ ptpDstMac.length = 8) →
      SockRaw.Framed { s with ptpDstMac, socketPriority } :=
    fun hinit _ _ hdst => ⟨h.hdr, h.mac, fun _ => hdst, fun hup => absurd hup hinit⟩
  cases c with
  | close => exact ⟨h.hdr, h.mac, h.dst, fun hinit => by cases hinit⟩
  | init ans => exact initBase_framed h ans
  | setIf ifObj =>
      cases ifObj with
      | none =>
          rw [SockRaw.call, SockBaseIf.setIf, ite_self]
          exact h
      | some ifObj =>
          rw [SockRaw.call, SockBaseIf.setIf]
          split
          · exact h
          · next hinit => exact ⟨h.hdr, fun _ => hc, h.dst, fun hup => absurd hup hinit⟩
  | setPtpDstMacStr str =>
      rw [SockRaw.call, setPtpDstMacStr]
      split
      · exact h
      · next hinit =>
          split
          · exact h
          · split
            · exact h
            · next mac hmac =>
                rw [Binary.fromMac, Option.filter_eq_some_iff, decide_eq_true_iff] at hmac
                exact hset hinit mac s.socketPriority hmac.2
  | setPtpDstMac mac =>
      rw [SockRaw.call, setPtpDstMac]
      split
      · exact h
      · next hinit =>
          split
          · exact h
          · next hlen =>
              rw [Bool.not_eq_true, Bool.not_eq_false', decide_eq_true_iff] at hlen
              exact hset hinit mac s.socketPriority hlen
  | setPtpDstMacCfg mac =>
      rw [SockRaw.call, setPtpDstMacCfg]
      split
      · exact h
      · next hinit => exact hset hinit mac s.socketPriority hc
  | setSocketPriority socketPriority =>
      rw [SockRaw.call, setSocketPriority]
      split
      · exact h
      · next hinit =>
          split
          · exact h
          · exact ⟨h.hdr, h.mac, h.dst, fun hup => absurd hup hinit⟩
  | setSocketPriorityCfg socketPriority =>
      rw [SockRaw.call, setSocketPriorityCfg]
      split
      · exact h
      · next hinit => exact ⟨h.hdr, h.mac, h.dst, fun hup => absurd hup hinit⟩
  | _ => exact h

theorem Lives.framed {cs : List Call} {l : Life} (h : Lives cs l) (hcs : ∀ c ∈ cs, c.Given) {s : SockRaw}
    (hs : l.sock = .raw s) : s.Framed := by
  obtain ⟨new, hnew, hrun⟩ := h
  refine Runs.run_history (I := fun cs l => (∀ c ∈ cs, c.Given) → ∀ s, l.sock = .raw s → s.Framed)
    (fun _ s hs => ?_) (fun cs l c l' hl hone hgiven s hs => ?_) hrun hcs s hs
  · cases hnew <;> cases hs
    exact ⟨rfl, nofun, nofun, nofun⟩
  · cases hone
    obtain ⟨sock, log⟩ := l
    cases sock with
    | raw r =>
        cases hs
        exact (hl (fun c hc => hgiven c (List.mem_append_left _ hc)) r rfl).call
          (hgiven c (List.mem_append_right _ (List.mem_singleton_self c)))
    | _ => cases hs

/-- The filter passes the frames of the protocol. -/
theorem filter_bpfCode (packet : List UInt8) :
    Bpf.filter bpfCode packet =
      if ethHdrSize ≤ packet.length ∧ (packet.drop 12).take 2 = ptpProto then some (packet.take 0x40000)
      else none := by
  rw [Bpf.filter, bpfCode, Bpf.run, ethHdrSize]
  by_cases hlen : 14 ≤ packet.length
  · rw [if_pos hlen, Bpf.run]
    by_cases h : (packet.drop 12).take 2 = ptpProto
    · have hnum : ofBe ((packet.drop 12).take 2) = ethP1588.toNat := by
        rw [h, ptpProto, ofBe_beOctets]
        rfl
      rw [if_pos hnum, if_pos ⟨hlen, h⟩]
      rfl
    · have hnum : ofBe ((packet.drop 12).take 2) ≠ ethP1588.toNat := fun hnum => h <| by
        refine ofBe_inj ?_ ?_
        · rw [List.length_take, List.length_drop, ptpProto, length_beOctets]
          omega
        · rw [hnum, ptpProto, ofBe_beOctets]
          rfl
      rw [if_neg hnum, if_neg fun hand => h hand.2]
      rfl
  · rw [if_neg hlen, if_neg fun h => hlen h.1]

/-- The descriptor of an object that is set up has the filter. -/
theorem heardFrame_eq {cs : List Call} {l : Life} (h : Lives cs l) {s : SockRaw} (hs : l.sock = .raw s)
    (hinit : s.isInit = true) (packet : List UInt8) (bufSize : Nat) :
    heardFrame l packet bufSize = (s.rcv bufSize (Bpf.filter bpfCode packet)).1 := by
  have hready := (h.kept.ready (by rw [hs]; exact hinit)).2
  rw [hs] at hready
  rw [heardFrame, hs, show view l.log = _ from hready]
  rfl

/-- **Which frames are heard**: whatever the users of two Ethernet objects did before, an object that is set
    up reads just the packets of the protocol, as far as the filter keeps them and its buffer goes; and what
    an object that is set up sends is such a packet, with its addresses as they are now, so that the other
    reads the message. -/
theorem frames_heard {ca cb : List Call} {a b : Life} (ha : Lives ca a) (hb : Lives cb b)
    (hgiven : ∀ c ∈ ca, c.Given) {sa sb : SockRaw} (hsa : a.sock = .raw sa) (hsb : b.sock = .raw sb)
    (hinita : sa.isInit = true) (hinitb : sb.isInit = true) (bufSize : Nat) :
    (∀ packet got, heardFrame b packet bufSize = some got ↔
      ethHdrSize ≤ packet.length ∧ (packet.drop 12).take 2 = ptpProto ∧
      got = ((packet.take 0x40000).drop ethHdrSize).take bufSize) ∧
    ∀ msg, (sa.send msg).1 = some (sa.ptpDstMac.take 6 ++ sa.mac ++ ptpProto ++ msg) ∧
      heardFrame b (sa.ptpDstMac.take 6 ++ sa.mac ++ ptpProto ++ msg) bufSize =
        some (msg.take (min bufSize (0x40000 - ethHdrSize))) := by
  have hheard : ∀ packet got, heardFrame b packet bufSize = some got ↔
      ethHdrSize ≤ packet.length ∧ (packet.drop 12).take 2 = ptpProto ∧
      got = ((packet.take 0x40000).drop ethHdrSize).take bufSize := by
    intro packet got
    rw [heardFrame_eq hb hsb hinitb, filter_bpfCode]
    by_cases h : ethHdrSize ≤ packet.length ∧ (packet.drop 12).take 2 = ptpProto
    · have hlong : ¬((packet.take 0x40000).take (ethHdrSize + bufSize)).length < ethHdrSize := by
        rw [List.length_take, List.length_take]
        have hhdr := h.1
        simp only [ethHdrSize] at hhdr ⊢
        omega
      rw [if_pos h, SockRaw.rcv, hinitb]
      simp only [Bool.not_true, Bool.false_eq_true, if_false, if_neg hlong, Option.some.injEq]
      rw [List.drop_take, Nat.add_sub_cancel_left]
      exact ⟨fun heq => ⟨h.1, h.2, heq.symm⟩, fun heq => heq.2.2.symm⟩
    · rw [if_neg h, SockRaw.rcv, hinitb]
      simp only [Bool.not_true, Bool.false_eq_true, if_false, reduceCtorEq, false_iff]
      exact fun hall => h ⟨hall.1, hall.2.1⟩
  have hframed := ha.framed hgiven hsa
  have hhdr := hframed.frame hinita
  have hlen : (sa.ptpDstMac.take 6 ++ sa.mac ++ ptpProto).length = ethHdrSize := hhdr ▸ hframed.hdr
  have hproto : ptpProto.length = 2 := length_beOctets 2 _
  have haddrs : (sa.ptpDstMac.take 6 ++ sa.mac).length = 12 := by
    rw [List.length_append, hproto, ethHdrSize] at hlen
    exact Nat.succ.inj (Nat.succ.inj hlen)
  refine ⟨hheard, fun msg => ⟨?_, (hheard _ _).2 ⟨?_, ?_, ?_⟩⟩⟩
  · rw [SockRaw.send, hinita, hhdr]
    rfl
  · rw [List.length_append, hlen]
    exact Nat.le_add_right _ _
  · rw [List.append_assoc, List.drop_append_of_le_length (Nat.le_of_eq haddrs.symm),
      List.drop_of_length_le (Nat.le_of_eq haddrs), List.nil_append, ← hproto, List.take_left]
  · rw [List.drop_take, ← hlen, List.drop_left, List.take_take]

/-- An Ethernet socket that is set up. -/
def rawLife : Life where
  sock := .raw {
    ifName := [101]
    ifIndex := 2
    mac := [2, 0, 0, 0, 0, 1]
    haveIf := true
    ptpDstMac := [1, 27, 25, 0, 0, 0]
    socketPriority := 0
    hdr := [1, 27, 25, 0, 0, 0, 2, 0, 0, 0, 0, 1, 0x88, 0xf7]
    fd := some 5
    isInit := true }
  log := [.socket .packet 5, .setsockopt 5 (.bindToDevice [101]) true, .setsockopt 5 (.priority 0) true,
    .setsockopt 5 (.attachFilter bpfCode) true, .setsockopt 5 (.packetAddMembership [1, 27, 25, 0, 0, 0] 2) true,
    .bind 5 (.ll ⟨2, ethPAll⟩) true]

/-- The calls that set it up. -/
def rawCalls : List Call :=
  [.setIf (some ⟨[101], 2, [2, 0, 0, 0, 0, 1]⟩), .setPtpDstMac [1, 27, 25, 0, 0, 0], .setSocketPriority 0,
    .init ⟨some 5, fun _ => true⟩]

theorem rawLife_lives : Lives rawCalls rawLife := ⟨.raw {}, .raw, rfl⟩

theorem frames_heard_rawLife :
    heardFrame rawLife ([1, 27, 25, 0, 0, 0, 2, 0, 0, 0, 0, 1, 0x88, 0xf7] ++ [7, 8]) 1 = some [7] :=
  ((frames_heard rawLife_lives rawLife_lives (by simp [rawCalls, Call.Given]) rfl rfl rfl rfl 1).2 [7, 8]).2

end Sock

end PtpMgmt
