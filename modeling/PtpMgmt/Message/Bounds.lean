import PtpMgmt.Message.BuildProofs
import PtpMgmt.Wire.Bounds

set_option autoImplicit false

/-! # Where a build writes

Every field of a dataField checks the room for what it then copies, with one exception: the octets of
an address are checked by their number cut to 16 bits, and all of them are copied. A table of
addresses is the only data with such a field that can be sent, so the writes of a build are inside of
the buffer exactly when it has the room for every address it gets to. -/

namespace PtpMgmt

open Wire Codec

/-! ## Tables of addresses -/

/-- The octets of an address that a build checks and passes. -/
def PortAddress.checked (d : PortAddress) : Nat := 4 + d.addressField.length % 65536

/-- An address takes as many octets as were checked when its length fits 16 bits. -/
theorem PortAddress.size_eq_checked_iff (d : PortAddress) : d.size = d.checked ↔ d.Fits := by
  rw [size, checked, Fits]
  omega

theorem procBinary_spans (bin : Binary) (len : UInt16) :
    Spans (bin.length % 65536) bin.length (procBinary bin len) := by
  have hlen : (UInt16.ofNat bin.length).toNat = bin.length % 65536 := UInt16.toNat_ofNat'
  refine Spans.isBuild ?_
  simp only [if_true, hlen]
  exact Spans.xfer _ bin

theorem PortAddress.spans (d : PortAddress) : Spans d.checked d.size (proc d) := by
  have hproto : Spans 2 2 (proc d.networkProtocol) :=
    Spans.of_builds (procUInt16_roundTrips d.networkProtocol 0).builds
  have hlen : Spans 2 2 (proc (UInt16.ofNat d.addressField.length)) :=
    Spans.of_builds (procUInt16_roundTrips _ 0).builds
  have hall : Spans (2 + (2 + d.addressField.length % 65536))
      (2 + (2 + d.addressField.length)) (proc d) :=
    hproto.bind fun _ => hlen.bind fun len => (procBinary_spans d.addressField len).bind_pure _
  have hsize : d.size = 2 + (2 + d.addressField.length) := by
    rw [size]
    omega
  rwa [hsize, checked, show 4 + d.addressField.length % 65536
    = 2 + (2 + d.addressField.length % 65536) by omega]

/-- There is room for every address that a build gets to. -/
def AddressRoom (left : Int) (l : List PortAddress) : Prop :=
  Room PortAddress.checked PortAddress.size left l

theorem forall_addressRoom_iff (l : List PortAddress) :
    (∀ left, AddressRoom left l) ↔ ∀ d ∈ l, d.Fits := by
  have hle : ∀ d : PortAddress, d.checked ≤ d.size := fun d => by
    rw [PortAddress.checked, PortAddress.size]
    omega
  exact (forall_room_iff hle l).trans
    (forall₂_congr fun d _ => d.size_eq_checked_iff)

theorem vectorF_staysIff (count : UInt32) (l : List PortAddress) :
    StaysIff (fun left => AddressRoom left l) (vectorF count l) :=
  StaysIff.isBuild (StaysIff.each l fun d _ => d.spans)

/-! ## The dataField -/

/-- There is room for every address of the TLV, with `left` octets for its dataField. -/
def tlvRoom (left : Int) : (id : MngId) → Tlv id → Prop
  | .grandmasterClusterTable, d => AddressRoom (left - 2) d.portAddress
  | .unicastMasterTable, d => AddressRoom (left - 3) d.portAddress
  | _, _ => True

theorem tlvRoom_of_neg {left : Int} (h : left < 0) (id : MngId) (d : Tlv id) :
    tlvRoom left id d := by
  cases id
  case grandmasterClusterTable => exact Room.of_neg (by omega) _
  case unicastMasterTable => exact Room.of_neg (by omega) _
  all_goals trivial

theorem forall_tlvRoom_iff {id : MngId} (hbuild : (mngAllVals id).func.builds = true) (d : Tlv id) :
    (∀ left, tlvRoom left id d) ↔ tlvAddressesFit id d := by
  have hshift : ∀ (n : Int) (l : List PortAddress),
      (∀ left, AddressRoom (left - n) l) ↔ ∀ left, AddressRoom left l := fun n l =>
    ⟨fun h left => by have hn := h (left + n); rwa [Int.add_sub_cancel] at hn, fun h _ => h _⟩
  cases id
  case grandmasterClusterTable => exact (hshift 2 _).trans (forall_addressRoom_iff _)
  case unicastMasterTable => exact (hshift 3 _).trans (forall_addressRoom_iff _)
  all_goals first
    | exact iff_of_true (fun _ => trivial) trivial
    | exact absurd hbuild (by decide)

theorem tlvF_staysIff {id : MngId} (hbuild : (mngAllVals id).func.builds = true) (d : Tlv id) :
    StaysIff (fun left => tlvRoom left id d) (tlvF id d) := by
  have hsub : ∀ (left : Int) (n k : Nat), left - n - k = left - ((n + k : Nat) : Int) := by
    intro left n k
    push_cast
    omega
  cases id
  case grandmasterClusterTable =>
      have hint : Spans 1 1 (proc d.logQueryInterval) :=
        Spans.of_builds (procInt8_roundTrips d.logQueryInterval 0).builds
      have hcount : Spans 1 1 (proc (UInt8.ofNat d.portAddress.length)) :=
        Spans.of_builds (procUInt8_roundTrips _ 0).builds
      have hall : StaysIff (fun left => AddressRoom (left - (1 : Nat) - (1 : Nat)) d.portAddress)
          (grandmasterClusterTableF d) :=
        StaysIff.isBuild (StaysIff.bind hint (fun _ h => Room.of_neg (by omega) _)
          fun _ => StaysIff.bind hcount (fun _ h => Room.of_neg h _)
            fun count => (vectorF_staysIff count.toUInt32 d.portAddress).bind_pure _)
      simp only [hsub] at hall
      exact hall
  case unicastMasterTable =>
      have hint : Spans 1 1 (proc d.logQueryInterval) :=
        Spans.of_builds (procInt8_roundTrips d.logQueryInterval 0).builds
      have hcount : Spans 2 2 (proc (UInt16.ofNat d.portAddress.length)) :=
        Spans.of_builds (procUInt16_roundTrips _ 0).builds
      have hall : StaysIff (fun left => AddressRoom (left - (1 : Nat) - (2 : Nat)) d.portAddress)
          (unicastMasterTableF d) :=
        StaysIff.isBuild (StaysIff.bind hint (fun _ h => Room.of_neg (by omega) _)
          fun _ => StaysIff.bind hcount (fun _ h => Room.of_neg h _)
            fun count => (vectorF_staysIff count.toUInt32 d.portAddress).bind_pure _)
      simp only [hsub] at hall
      exact hall
  all_goals first
    | exact StaysIff.of_inBounds (tlvF_inBounds _ d trivial)
    | exact absurd hbuild (by decide)

namespace Message

theorem poke_below {mp : MsgProc} {off : Nat} {w : List UInt8} {e : Int}
    (h : (off + w.length : Int) ≤ e) : (poke mp off w).Below e ↔ mp.Below e :=
  Cursor.below_of_append rfl h

theorem put_below {mp : MsgProc} {w : List UInt8} {e : Int} (h : (mp.cur + w.length : Int) ≤ e) :
    (mp.put w).Below e ↔ mp.Below e :=
  Cursor.below_of_append rfl h

theorem emit_below {mp : MsgProc} {w : List UInt8} {e : Int} (h : (mp.cur + w.length : Int) ≤ e) :
    (mp.emit w).Below e ↔ mp.Below e :=
  Cursor.below_of_append rfl h

/-- The fixed part of the message fits every buffer that is not refused at once. -/
theorem buildStart_inside {m : Message} {mem : Nat → UInt8} {bufSize : Nat} {sequence : UInt16}
    (h : mngMsgBaseSize ≤ bufSize) : (m.buildStart mem bufSize sequence).Inside := by
  have hend : (mngMsgBaseSize : Int) ≤ (m.buildStart mem bufSize sequence).cur +
      (m.buildStart mem bufSize sequence).left := by
    simp only [buildStart, poke_cur, poke_left]
    omega
  simp only [mngMsgBaseSize, mngMsgSize, tlvSizeHdr, lengthFieldMngBase] at hend
  refine (poke_below ?_).2 ((poke_below ?_).2 ((poke_below ?_).2 ?_))
  · rw [length_beOctets]
    exact le_trans (by decide) hend
  · rw [length_beOctets]
    exact le_trans (by decide) hend
  · rw [length_headerOctets]
    exact le_trans (by decide) hend
  · exact fun o ho => absurd ho (by simp)

/-- The walk over the dataField of a TLV to send, with the pad or without. -/
theorem buildData_walk {m : Message} {d : Tlv m.tlvId} {mp : MsgProc} (hm : SendInv m)
    (hb : mp.build = true) (hdata : m.dataSend = some (.tlv m.tlvId d)) :
    (m.buildData mp).2 = ((tlvF m.tlvId d).run mp.fresh).2 ∨
    (m.buildData mp).2 = (procRes.run ((tlvF m.tlvId d).run mp.fresh).2).2 := by
  obtain ⟨haction, hbuild, -⟩ := hm.data _ hdata
  have hwalk := callTlvData_build_walk d (func_ne_na_of_builds hbuild) hb
  rw [← hwalk, buildData, if_pos ⟨haction, by rw [hdata]; rfl⟩, hdata]
  split
  · next mp' hrun =>
      rw [show callTlvData m.tlvId (.obj (.tlv m.tlvId d)) mp = _ from hrun]
      split
      · refine .inr ?_
        split <;> next hres => rw [hres]
      · exact .inl rfl
  · next hrun =>
      rw [show callTlvData m.tlvId (.obj (.tlv m.tlvId d)) mp = _ from hrun]
      exact .inl rfl

/-- The dataField is written inside exactly when there is room for the addresses in it. -/
theorem buildData_inside {m : Message} (hm : SendInv m) (mp : MsgProc) (hb : mp.build = true)
    (hleft : 0 ≤ mp.left) (hin : mp.Inside) :
    (m.buildData mp).2.cur + (m.buildData mp).2.left = mp.cur + mp.left ∧
    ((m.buildData mp).2.Inside ↔
      ∀ id d, m.dataSend = some (.tlv id d) → tlvRoom mp.left id d) := by
  cases hdata : m.dataSend with
  | some tlv =>
      obtain ⟨-, hbuild, d, rfl⟩ := hm.data tlv hdata
      have hstays : ((tlvF m.tlvId d).run mp.fresh).2.Inside ↔ tlvRoom mp.fresh.left m.tlvId d :=
        tlvF_staysIff hbuild d mp.fresh hb hleft hin
      have hadv := (tlvF m.tlvId d).advances mp.fresh
      have hroom : tlvRoom mp.fresh.left m.tlvId d ↔ ∀ id d', some (BaseMngTlv.tlv m.tlvId d)
          = some (.tlv id d') → tlvRoom mp.left id d' :=
        ⟨fun h id d' heq => by cases heq; exact h, fun h => h _ d rfl⟩
      rw [← hroom, ← hstays]
      have hend := hadv.left_eq
      simp only [MsgProc.fresh_left, MsgProc.fresh_cur] at hend
      rcases buildData_walk hm hb hdata with heq | heq
      · rw [heq]
        exact ⟨by omega, Iff.rfl⟩
      · have hpad := procRes.advances ((tlvF m.tlvId d).run mp.fresh).2
        have hend' := hpad.left_eq
        rw [heq]
        exact ⟨by omega, procRes_inBounds.inside (hadv.build_eq.trans hb)⟩
  | none =>
      have htrue : ∀ id d, (none : Option BaseMngTlv) = some (.tlv id d) → tlvRoom mp.left id d :=
        fun _ _ h => absurd h (by simp)
      obtain ⟨n, hroom, heq⟩ := buildData_walk_none (m := m) hleft (by simp [hdata])
      have hend : ((mp.emit (List.replicate n 0)).cur : Int)
          + (mp.emit (List.replicate n 0)).left = mp.cur + mp.left := by
        rw [Cursor.emit_cur, Cursor.emit_left]
        push_cast
        omega
      rw [heq, Cursor.Inside, hend, emit_below (by rw [List.length_replicate]; omega)]
      exact ⟨rfl, iff_of_true hin htrue⟩

/-- The authentication TLV is checked as a whole. -/
theorem buildAuth_below {lib : HmacLib} {m : Message} {a : Auth} (mp : MsgProc) {size : Nat}
    {e : Int} (hend : mp.cur + mp.left = e) (hbase : (mngMsgBaseSize : Int) ≤ e) :
    (buildAuth lib m a mp size).2.2.Below e ↔ mp.Below e := by
  rw [buildAuth]
  simp only
  split
  · exact Iff.rfl
  · next hfit =>
      have hroom : ((authTlvSize + a.macSize : Nat) : Int) ≤ mp.left := Int.not_lt.1 hfit
      have htlv : (poke (mp.emit (authTlvOctets a a.macSize)) messageLengthOff
          (beOctets 2 (size + authTlvSize + a.macSize))).Below e ↔ mp.Below e := by
        rw [poke_below, emit_below]
        · rw [length_authTlvOctets]
          omega
        · rw [length_beOctets]
          exact le_trans (by decide) hbase
      split
      · exact htlv
      · next mac hmac =>
          rw [put_below, htlv]
          rw [HmacKey.length_of_digest hmac ((a.sa.spp a.sppID).macSize_le a.keyID), poke_cur,
            Cursor.emit_cur, length_authTlvOctets]
          push_cast at hroom ⊢
          omega

/-- Behind the dataField everything is checked. -/
theorem buildFinish_below {lib : HmacLib} {m : Message} {mp : MsgProc} {e : Int}
    (hend : mp.cur + mp.left = e) (hbase : (mngMsgBaseSize : Int) ≤ e) :
    (m.buildFinish lib mp).2.2.Below e ↔ mp.Below e := by
  have hfield : ∀ n, (poke mp lengthFieldOff (beOctets 2 n)).Below e ↔ mp.Below e := fun n =>
    poke_below (by rw [length_beOctets]; exact le_trans (by decide) hbase)
  have hplain : ∀ n k, (poke (poke mp lengthFieldOff (beOctets 2 n)) messageLengthOff
      (beOctets 2 k)).Below e ↔ mp.Below e := fun n k =>
    (poke_below (by rw [length_beOctets]; exact le_trans (by decide) hbase)).trans (hfield n)
  rw [buildFinish]
  simp only
  split
  · exact Iff.rfl
  · split
    · split
      · exact (buildAuth_below (poke mp lengthFieldOff _) hend hbase).trans (hfield _)
      · exact hplain _ _
    · exact hplain _ _

/-- There is room for every address of the TLV to send. -/
def BufferRoom (m : Message) (bufSize : Nat) : Prop :=
  ∀ id d, m.dataSend = some (.tlv id d) → tlvRoom ((bufSize : Int) - mngMsgBaseSize) id d

/-- Every address of the TLV to send has a length that fits 16 bits. -/
def AddressesFit (m : Message) : Prop :=
  ∀ id d, m.dataSend = some (.tlv id d) → tlvAddressesFit id d

/-- A build stays inside the buffer exactly when there is room for every address it gets to. -/
theorem build_below_iff (lib : HmacLib) {m : Message} (hm : SendInv m) (mem : Nat → UInt8)
    (bufSize : Nat) (sequence : UInt16) :
    (m.build lib mem bufSize sequence).2.2.Below bufSize ↔ BufferRoom m bufSize := by
  by_cases hbase : bufSize < mngMsgBaseSize
  · rw [build, if_pos hbase]
    exact iff_of_true (fun o ho => absurd ho (by simp))
      fun id d _ => tlvRoom_of_neg (by omega) id d
  · let mp := m.buildStart mem bufSize sequence
    have hleft : mp.left = (bufSize : Int) - mngMsgBaseSize := rfl
    have hcur : mp.cur = mngMsgBaseSize := rfl
    obtain ⟨hend, hiff⟩ := buildData_inside hm mp rfl (by omega)
      (buildStart_inside (Nat.not_lt.1 hbase))
    have hbuf : ((m.buildData mp).2.cur : Int) + (m.buildData mp).2.left = bufSize := by
      rw [hend, hleft, hcur]
      omega
    rw [Cursor.Inside, hbuf, hleft] at hiff
    rw [build, if_neg hbase]
    refine Iff.trans ?_ hiff
    split
    · next mp' hrun =>
        rw [show m.buildData mp = _ from hrun] at hbuf ⊢
        exact buildFinish_below hbuf (by omega)
    · next err mp' _ hrun =>
        rw [show m.buildData mp = _ from hrun]

theorem forall_bufferRoom_iff {m : Message} (hm : SendInv m) :
    (∀ bufSize, BufferRoom m bufSize) ↔ AddressesFit m := by
  constructor
  · intro h id d hdata
    obtain ⟨-, hbuild, d, heq⟩ := hm.data _ hdata
    cases heq
    refine (forall_tlvRoom_iff hbuild d).1 fun left => ?_
    rcases Int.lt_or_le left 0 with hneg | hpos
    · exact tlvRoom_of_neg hneg _ d
    · have hroom := h (left.toNat + mngMsgBaseSize) _ d hdata
      rwa [Nat.cast_add, Int.add_sub_cancel, Int.toNat_of_nonneg hpos] at hroom
  · intro h bufSize id d hdata
    have hfit := h id d hdata
    obtain ⟨-, hbuild, d, heq⟩ := hm.data _ hdata
    cases heq
    exact (forall_tlvRoom_iff hbuild d).2 hfit _

/-- **When a build writes inside the buffer only**: into a given buffer exactly when there is room for
    every address it gets to, and into every buffer exactly when the lengths of the addresses fit 16
    bits. -/
theorem build_writes_iff (lib : HmacLib) (m : Message) (hm : Reachable lib m) :
    (∀ (mem : Nat → UInt8) (bufSize : Nat) (sequence : UInt16),
      (∀ o ∈ (m.build lib mem bufSize sequence).2.2.writes, o < bufSize) ↔
        BufferRoom m bufSize) ∧
    ((∀ (mem : Nat → UInt8) (bufSize : Nat) (sequence : UInt16),
      ∀ o ∈ (m.build lib mem bufSize sequence).2.2.writes, o < bufSize) ↔ AddressesFit m) := by
  have hroom : ∀ (mem : Nat → UInt8) (bufSize : Nat) (sequence : UInt16),
      (∀ o ∈ (m.build lib mem bufSize sequence).2.2.writes, o < bufSize) ↔
        BufferRoom m bufSize := by
    intro mem bufSize sequence
    rw [← build_below_iff lib hm.sendInv mem bufSize sequence, Cursor.Below]
    simp only [Nat.cast_lt]
  refine ⟨hroom, ?_⟩
  rw [← forall_bufferRoom_iff hm.sendInv]
  exact ⟨fun h bufSize => (hroom (fun _ => 0) bufSize 0).1 (h _ bufSize _),
    fun h mem bufSize sequence => (hroom mem bufSize sequence).2 (h bufSize)⟩

/-- A message that sets a table of one unicast master with an address of `n` octets. -/
def setUnicastMaster (n : Nat) : Message :=
  (init .init).call zeroLib (.setAction .set (.mng .unicastMasterTable)
    (some (.tlv .unicastMasterTable ⟨0, 1, [⟨1, 0, List.replicate n 0⟩]⟩)))

theorem addressRoom_replicate {n : Nat} {left : Int}
    (h : AddressRoom left [⟨1, 0, List.replicate n 0⟩]) (hcheck : (4 + n % 65536 : Nat) ≤ left) :
    (4 + n : Nat) ≤ left := by
  have hlen : (List.replicate n (0 : UInt8)).length = n := List.length_replicate
  have hfull := (h (by rw [PortAddress.checked, hlen]; exact hcheck)).1
  rw [PortAddress.size, hlen] at hfull
  omega

/-- An address of 65536 octets is checked for none of them. -/
theorem setUnicastMaster_overflow :
    Reachable zeroLib (setUnicastMaster 65536) ∧
    ¬ ∀ o ∈ ((setUnicastMaster 65536).build zeroLib (fun _ => 0) 61 7).2.2.writes, o < 61 := by
  have hm : Reachable zeroLib (setUnicastMaster 65536) := .call _ (.init _)
  refine ⟨hm, fun hall => ?_⟩
  have hroom := (build_below_iff zeroLib hm.sendInv (fun _ => 0) 61 7).1
    fun o ho => by exact_mod_cast hall o ho
  have haddr := hroom .unicastMasterTable ⟨0, 1, [⟨1, 0, List.replicate 65536 0⟩]⟩ rfl
  exact absurd (addressRoom_replicate haddr (by decide)) (by decide)

theorem build_writes_iff_setUnicastMaster :
    Reachable zeroLib (setUnicastMaster 6) ∧
    ∀ o ∈ ((setUnicastMaster 6).build zeroLib (fun _ => 0) 61 7).2.2.writes, o < 61 := by
  have hdata : (setUnicastMaster 6).dataSend
      = some (.tlv .unicastMasterTable ⟨0, 1, [⟨1, 0, List.replicate 6 0⟩]⟩) := rfl
  have hm : Reachable zeroLib (setUnicastMaster 6) := .call _ (.init _)
  refine ⟨hm, (build_writes_iff zeroLib (setUnicastMaster 6) hm).2.2 ?_ _ 61 7⟩
  intro id d h
  rw [hdata] at h
  cases h
  intro rec hrec
  obtain rfl := List.mem_singleton.1 hrec
  show 6 < 65536
  decide

end Message

end PtpMgmt
