import PtpMgmt.Message.BuildProofs
import Mathlib.Algebra.Order.BigOperators.Group.List

set_option autoImplicit false

/-! # Planned and declared lengths

Two descriptions of the same layouts are compared here with the encoder: the length that
`getMsgPlanedLen` plans from the table of ids and the size functions, and the lengths and counts that
the message itself declares.

Lengths and counts are kept in wide integers and cut to 8 or 16 bits when they are written, and no
branch looks whether they fit; the last section says for which messages they do. -/

namespace PtpMgmt

open Wire Codec

namespace Message

/-! ## Planned length -/

/-- With room for the planned length the build succeeds. -/
theorem build_of_room {lib : HmacLib} (hlib : lib.Computes) {m : Message} {w : List UInt8}
    (hw : DataOctets m w) (heven : w.length % 2 = 0)
    (hplan : m.getMsgPlanedLen = (mngMsgBaseSize + w.length + m.addAuth : Nat))
    (mem : Nat → UInt8) {bufSize : Nat} (sequence : UInt16) (hroom : m.getMsgPlanedLen ≤ bufSize) :
    (m.build lib mem bufSize sequence).1 = .ok ∧
      ((m.build lib mem bufSize sequence).2.1.msgLen : Int) = m.getMsgPlanedLen := by
  rw [hplan] at hroom ⊢
  obtain ⟨mp', hrun, -⟩ | ⟨-, hfail⟩ := (build_cases lib mem bufSize sequence hw heven).2
    (by exact_mod_cast hroom)
  · rw [hrun]
    exact ⟨rfl, rfl⟩
  · exact absurd hlib hfail

/-- **The planned length agrees with the encoder**, for every message that calls can set up: a buffer of
    at least the planned length takes the message, which then has that length, and any other one is
    too small. -/
theorem build_planedLen (lib : HmacLib) (hlib : lib.Computes) (m : Message) (hm : Reachable lib m)
    (hfits : ∀ id d, m.dataSend = some (.tlv id d) → tlvFits id d) (mem : Nat → UInt8)
    (bufSize : Nat) (sequence : UInt16) :
    (m.getMsgPlanedLen ≤ bufSize → (m.build lib mem bufSize sequence).1 = .ok ∧
      ((m.build lib mem bufSize sequence).2.1.msgLen : Int) = m.getMsgPlanedLen) ∧
    (bufSize < m.getMsgPlanedLen → (m.build lib mem bufSize sequence).1 = .tooSmall) := by
  obtain ⟨w, hw, heven, hplan⟩ := exists_dataOctets hm.sendInv (fun id d h => (hfits id d h).1)
    (fun id d h => (hfits id d h).2.1)
  refine ⟨build_of_room hlib hw heven hplan mem sequence, fun hlt => ?_⟩
  rw [hplan] at hlt
  exact (build_cases lib mem bufSize sequence hw heven).1 (by exact_mod_cast hlt)

/-- A message that sets the first priority. -/
def setPriority1 : Message :=
  (init .init).call zeroLib (.setAction .set (.mng .priority1) (some (.tlv .priority1 ⟨128⟩)))

theorem build_planedLen_setPriority1 :
    setPriority1.getMsgPlanedLen = 56 ∧
    (setPriority1.build zeroLib (fun _ => 0) 56 7).1 = .ok ∧
    (setPriority1.build zeroLib (fun _ => 0) 55 7).1 = .tooSmall := by
  have hplan : setPriority1.getMsgPlanedLen = 56 := by decide
  have hfits : ∀ id d, setPriority1.dataSend = some (.tlv id d) → tlvFits id d := by
    intro id d h
    have hdata : setPriority1.dataSend = some (.tlv .priority1 ⟨128⟩) := rfl
    rw [hdata] at h
    cases h
    exact ⟨trivial, trivial, trivial⟩
  have hbuild := fun n => build_planedLen zeroLib (fun _ _ _ => rfl) setPriority1
    (.call _ (.init _)) hfits (fun _ => 0) n 7
  rw [hplan] at hbuild
  exact ⟨hplan, ((hbuild 56).1 (by decide)).1, (hbuild 55).2 (by decide)⟩

/-! ## Declared lengths and counts -/

/-- Every address of a table from offset `off` on has its real length in front of it. -/
def AddressesTrue (mem : Nat → UInt8) : Nat → List PortAddress → Prop
  | _, [] => True
  | off, d :: rest => beAt mem (off + 2) 2 = d.addressField.length ∧
      AddressesTrue mem (off + 4 + d.addressField.length) rest

/-- The counts and lengths in the dataField of a TLV that can be sent are the real ones. -/
def DataTrue (mem : Nat → UInt8) : (id : MngId) → Tlv id → Prop
  | .userDescription, d =>
    beAt mem mngMsgBaseSize 1 = d.userDescription.textField.length
  | .grandmasterClusterTable, d =>
    beAt mem (mngMsgBaseSize + 1) 1 = d.portAddress.length ∧
      AddressesTrue mem (mngMsgBaseSize + 2) d.portAddress
  | .unicastMasterTable, d =>
    beAt mem (mngMsgBaseSize + 1) 2 = d.portAddress.length ∧
      AddressesTrue mem (mngMsgBaseSize + 3) d.portAddress
  | .acceptableMasterTable, d => beAt mem mngMsgBaseSize 2 = d.list.length
  | .alternateTimeOffsetName, d =>
    beAt mem (mngMsgBaseSize + 1) 1 = d.displayName.textField.length
  | _, _ => True

/-- What the message declares is true, for a message of `msgLen` octets. The content of the management
    TLV begins at `mngMsgMinSize` and ends where the authentication TLV begins. -/
structure Truthful (m : Message) (msgLen : Nat) (mem : Nat → UInt8) : Prop where
  messageLength : beAt mem messageLengthOff 2 = msgLen
  lengthField : mngMsgMinSize + beAt mem lengthFieldOff 2 + m.addAuth = msgLen
  authLength : ∀ a, m.auth = some a → m.prms.sendAuth = true →
    tlvSizeHdr + beAt mem (msgLen - m.addAuth + 2) 2 = authTlvSize + a.macSize
  data : ∀ id d, m.dataSend = some (.tlv id d) → DataTrue mem id d

/-- The dataField of a message is determined. -/
theorem DataOctets.unique {m : Message} {v w : List UInt8} (hv : DataOctets m v)
    (hw : DataOctets m w) : v = w := by
  let mp : MsgProc := {
    build := true
    cur := 0
    left := v.length + w.length
    size := 0
    err := .tooSmall
    mem := fun _ => 0
    reads := []
    writes := []
    stuck := false }
  have hleft : mp.left = v.length + w.length := rfl
  have hrunv := (hv mp rfl (by omega) rfl rfl).1 (by omega)
  have hrunw := (hw mp rfl (by omega) rfl rfl).1 (by omega)
  rw [hrunv, Prod.mk.injEq] at hrunw
  have hlen : v.length = w.length := by
    have hsize := congrArg Cursor.size hrunw.2
    rw [Cursor.emit_size, Cursor.emit_size] at hsize
    exact Nat.add_left_cancel hsize
  have hself := slice_store_self mp.mem mp.cur v
  have hmem := congrArg Cursor.mem hrunw.2
  rw [Cursor.emit_mem, Cursor.emit_mem] at hmem
  rw [hmem, hlen, slice_store_self] at hself
  exact hself.symm

theorem addressesTrue_of_slice {mem : Nat → UInt8} (l : List PortAddress) (off : Nat)
    (hfits : ∀ d ∈ l, d.Fits)
    (h : slice mem off (l.flatMap PortAddress.octets).length = l.flatMap PortAddress.octets) :
    AddressesTrue mem off l := by
  induction l generalizing off with
  | nil => trivial
  | cons d rest ih =>
      rw [List.flatMap_cons] at h
      obtain ⟨hhead, htail⟩ := slice_eq_append h
      rw [PortAddress.octets] at hhead
      have hlen := (slice_eq_append (slice_eq_append hhead).2).1
      rw [length_beOctets, length_beOctets] at hlen
      refine ⟨?_, ?_⟩
      · rw [beAt_of_slice hlen]
        exact Nat.mod_eq_of_lt (hfits d (List.mem_cons_self ..))
      · have hsize : d.octets.length = 4 + d.addressField.length := d.length_octets
        rw [hsize, ← Nat.add_assoc] at htail
        exact ih _ (fun x hx => hfits x (List.mem_cons_of_mem _ hx)) htail

theorem AddressesTrue.fits {mem : Nat → UInt8} (l : List PortAddress) (off : Nat)
    (h : AddressesTrue mem off l) : ∀ d ∈ l, d.Fits := by
  induction l generalizing off with
  | nil => simp
  | cons d rest ih =>
      obtain ⟨hlen, hrest⟩ := h
      intro x hx
      rcases List.mem_cons.1 hx with rfl | hx
      · have hlt := beAt_lt mem (off + 2) 2
        rw [hlen] at hlt
        exact hlt
      · exact ih _ hrest x hx

/-- A successful build has no text that is too long and no 48-bit value out of range. -/
theorem valuesFit_of_build {lib : HmacLib} {m : Message} {mem : Nat → UInt8} {bufSize : Nat}
    {sequence : UInt16} (hm : SendInv m) (hok : (m.build lib mem bufSize sequence).1 = .ok) :
    ∀ id d, m.dataSend = some (.tlv id d) → tlvValuesFit id d := by
  intro id d hdata
  obtain ⟨haction, hbuild, d, heq⟩ := hm.data _ hdata
  cases heq
  by_contra hfit
  let mp := m.buildStart mem bufSize sequence
  have hne := callTlvData_refuses mp hbuild (func_ne_na_of_builds hbuild) rfl hfit
  have hdata' : (m.buildData mp).1 ≠ .ok := by
    rw [buildData, if_pos ⟨haction, by rw [hdata]; rfl⟩, hdata]
    split
    · next hrun =>
        rw [show callTlvData m.tlvId (.obj (.tlv m.tlvId d)) mp = _ from hrun] at hne
        exact absurd rfl hne
    · next hrun =>
        rw [show callTlvData m.tlvId (.obj (.tlv m.tlvId d)) mp = _ from hrun] at hne
        exact hne
  rw [build] at hok
  split at hok
  · exact absurd hok (by simp)
  · split at hok
    · next hrun => exact hdata' (by rw [show m.buildData mp = _ from hrun])
    · next hrun =>
        exact hdata' (by rw [show m.buildData mp = _ from hrun]; exact hok)

/-- The planned length of a message with data, whatever the data. -/
theorem planed_data {m : Message} {d : Tlv m.tlvId} (hm : SendInv m)
    (hdata : m.dataSend = some (.tlv m.tlvId d)) :
    m.getMsgPlanedLen = (mngMsgBaseSize + padEven (tlvWidth m.tlvId d) + m.addAuth : Nat) := by
  obtain ⟨haction, hbuild, -⟩ := hm.data _ hdata
  obtain ⟨hnonneg, hsize⟩ := dataSize_some d hbuild
  rw [planed_eq (some (.tlv m.tlvId d)) (by rw [if_pos haction, hdata]) (fun h => haction h.1)
    (fun _ h => absurd h (by simp)) hnonneg, hsize]

theorem length_le_sum_size {l : List PortAddress} {d : PortAddress} (h : d ∈ l) :
    d.addressField.length ≤ (l.map PortAddress.size).sum := by
  have hle := List.le_sum_of_mem (List.mem_map_of_mem (f := PortAddress.size) h)
  rw [PortAddress.size] at hle
  omega

/-- The addresses of a message that is planned to fit 16 bits fit too. -/
theorem addressesFit_of_planed {m : Message} (hm : SendInv m) (hplan : m.getMsgPlanedLen ≤ 65535) :
    ∀ id d, m.dataSend = some (.tlv id d) → tlvAddressesFit id d := by
  intro id d hdata
  obtain ⟨-, hbuild, d, heq⟩ := hm.data _ hdata
  cases heq
  rw [planed_data hm hdata] at hplan
  have hwidth : tlvWidth m.tlvId d < 65536 := by
    have hpad : tlvWidth m.tlvId d ≤ padEven (tlvWidth m.tlvId d) := Nat.le_add_right ..
    omega
  generalize m.tlvId = id at d hbuild hwidth
  cases id
  case grandmasterClusterTable =>
      intro rec hrec
      have hle := length_le_sum_size hrec
      simp only [tlvWidth] at hwidth
      show rec.addressField.length < 65536
      omega
  case unicastMasterTable =>
      intro rec hrec
      have hle := length_le_sum_size hrec
      simp only [tlvWidth] at hwidth
      show rec.addressField.length < 65536
      omega
  all_goals trivial

theorem length_le_width {α : Type} (size : α → Nat) (l : List α) (h : ∀ a, 0 < size a) :
    l.length ≤ (l.map size).sum := by
  induction l with
  | nil => simp
  | cons a rest ih =>
      have ha := h a
      rw [List.length_cons, List.map_cons, List.sum_cons]
      omega

/-- The counts and lengths are true when they fit, for a dataField that stands in the memory. -/
theorem dataTrue_of_slice {mem : Nat → UInt8} {id : MngId} {d : Tlv id}
    (hvalues : tlvValuesFit id d) (haddr : tlvAddressesFit id d) (hwidth : tlvWidth id d < 65536)
    (hcluster : ∀ d', (⟨id, d⟩ : Σ id, Tlv id) = ⟨.grandmasterClusterTable, d'⟩ →
      d'.portAddress.length ≤ 255)
    (hslice : ∀ a w, Builds (tlvF id d) a w → slice mem mngMsgBaseSize w.length = w) :
    DataTrue mem id d := by
  cases id
  case userDescription =>
      have h := hslice _ _ (userDescriptionF_roundTrips hvalues).builds
      have hlen := (slice_eq_append (slice_eq_append h).1).1
      rw [length_beOctets] at hlen
      exact (beAt_of_slice hlen).trans (Nat.mod_eq_of_lt (Nat.lt_succ_of_le hvalues))
  case grandmasterClusterTable =>
      have h := (slice_eq_append (hslice _ _ (grandmasterClusterTableF_builds haddr))).2
      obtain ⟨hcount, hrecs⟩ := slice_eq_append h
      rw [length_beOctets, length_beOctets] at hcount hrecs
      refine ⟨(beAt_of_slice hcount).trans (Nat.mod_eq_of_lt ?_), ?_⟩
      · exact Nat.lt_succ_of_le (hcluster d rfl)
      · exact addressesTrue_of_slice _ _ haddr (slice_eq_append hrecs).1
  case unicastMasterTable =>
      have h := (slice_eq_append (hslice _ _ (unicastMasterTableF_builds haddr))).2
      obtain ⟨hcount, hrecs⟩ := slice_eq_append h
      rw [length_beOctets, length_beOctets] at hcount hrecs
      refine ⟨(beAt_of_slice hcount).trans (Nat.mod_eq_of_lt ?_), ?_⟩
      · have hle := length_le_width PortAddress.size d.portAddress (fun a => by
          rw [PortAddress.size]; omega)
        simp only [tlvWidth] at hwidth
        omega
      · exact addressesTrue_of_slice _ _ haddr (slice_eq_append hrecs).1
  case acceptableMasterTable =>
      obtain ⟨w, -, hbuilds, -⟩ := acceptableMasterTableF_roundTrips d
      have hcount := (slice_eq_append (hslice _ _ hbuilds)).1
      rw [length_beOctets] at hcount
      refine (beAt_of_slice hcount).trans (Nat.mod_eq_of_lt ?_)
      have hle := length_le_width (fun _ => AcceptableMaster.size) d.list (fun _ => by decide)
      simp only [tlvWidth] at hwidth
      omega
  case alternateTimeOffsetName =>
      have h := hslice _ _ (alternateTimeOffsetNameF_roundTrips hvalues).builds
      have hlen := (slice_eq_append (slice_eq_append (slice_eq_append h).2).1).1
      rw [length_beOctets, length_beOctets] at hlen
      exact (beAt_of_slice hlen).trans (Nat.mod_eq_of_lt (Nat.lt_succ_of_le hvalues))
  all_goals trivial

/-- True lengths of addresses are lengths that fit. -/
theorem DataTrue.addressesFit {mem : Nat → UInt8} {id : MngId} {d : Tlv id}
    (hbuild : (mngAllVals id).func.builds = true) (h : DataTrue mem id d) :
    tlvAddressesFit id d := by
  cases id
  case grandmasterClusterTable => exact AddressesTrue.fits _ _ h.2
  case unicastMasterTable => exact AddressesTrue.fits _ _ h.2
  all_goals trivial

/-- What no branch of the build looks at: the message fits a 16-bit length, and the count of a cluster
    table fits its octet. -/
def LengthsFit (m : Message) : Prop :=
  m.getMsgPlanedLen ≤ 65535 ∧
    ∀ d, m.dataSend = some (.tlv .grandmasterClusterTable d) → d.portAddress.length ≤ 255

/-- The dataField of a message that fits is true. -/
theorem dataTrue_of_built {lib : HmacLib} {m : Message} {w : List UInt8} {mem : Nat → UInt8}
    (hm : SendInv m) (hw : DataOctets m w) (hbuilt : Built lib m w mem) (hfit : LengthsFit m)
    (hvalues : ∀ id d, m.dataSend = some (.tlv id d) → tlvValuesFit id d) :
    ∀ id d, m.dataSend = some (.tlv id d) → DataTrue mem id d := by
  intro id d hdata
  have haddr := addressesFit_of_planed hm hfit.1 id d hdata
  obtain ⟨haction, hbuild, d, heq⟩ := hm.data _ hdata
  cases heq
  refine dataTrue_of_slice (hvalues _ d hdata) haddr ?_ ?_ ?_
  · have hplan := hfit.1
    rw [planed_data hm hdata] at hplan
    have hpad : tlvWidth m.tlvId d ≤ padEven (tlvWidth m.tlvId d) := Nat.le_add_right ..
    omega
  · intro d' heq
    refine hfit.2 d' (hdata.trans ?_)
    exact congrArg (fun x : Σ id, Tlv id => some (BaseMngTlv.tlv x.1 x.2)) heq
  · intro a v hv
    have hpad := DataOctets.unique hw
      (dataOctets_of_builds hdata haction (func_ne_na_of_builds hbuild) hv)
    have hslice := hbuilt.dataField
    rw [hpad, padOctets] at hslice
    exact (slice_eq_append hslice).1

/-- The AUTHENTICATION TLV declares its own length in every message. -/
theorem authLength_of_built {lib : HmacLib} {m : Message} {w : List UInt8} {mem : Nat → UInt8}
    (hbuilt : Built lib m w mem) {a : Auth} (ha : m.auth = some a)
    (hsend : m.prms.sendAuth = true) :
    tlvSizeHdr + beAt mem (mngMsgBaseSize + w.length + 2) 2 = authTlvSize + a.macSize := by
  have htlv := hbuilt.authTlv a ha hsend
  rw [authTlvOctets, ← length_authTlvOctets a a.macSize, authTlvOctets, List.append_assoc,
    List.append_assoc] at htlv
  have hlen := (slice_eq_append (slice_eq_append htlv).2).1
  rw [length_beOctets, length_beOctets] at hlen
  have hmac : a.macSize ≤ 32 := (a.sa.spp a.sppID).macSize_le a.keyID
  rw [beAt_of_slice hlen]
  simp only [authTlvSize, tlvSizeHdr]
  omega

/-- With addresses that fit, a message that was built is known octet for octet. -/
theorem built_of_addressesFit {lib : HmacLib} {m : Message} {mem : Nat → UInt8} {bufSize : Nat}
    {sequence : UInt16} (hm : SendInv m) (hok : (m.build lib mem bufSize sequence).1 = .ok)
    (haddr : ∀ id d, m.dataSend = some (.tlv id d) → tlvAddressesFit id d) :
    ∃ w, DataOctets m w ∧ m.getMsgPlanedLen = (mngMsgBaseSize + w.length + m.addAuth : Nat) ∧
      (m.build lib mem bufSize sequence).2.1.msgLen = mngMsgBaseSize + w.length + m.addAuth ∧
      Built lib m w (m.build lib mem bufSize sequence).2.2.mem := by
  obtain ⟨w, hw, heven, hplan⟩ := exists_dataOctets hm (valuesFit_of_build hm hok) haddr
  obtain ⟨hshort, hroom⟩ := build_cases lib mem bufSize sequence hw heven
  by_cases hsize : bufSize < mngMsgBaseSize + w.length + m.addAuth
  · rw [hshort hsize] at hok
    exact absurd hok (by decide)
  · obtain ⟨mp', hrun, hbuilt⟩ | ⟨hfail, -⟩ := hroom (Nat.not_lt.1 hsize)
    · rw [hrun]
      exact ⟨w, hw, hplan, rfl, hbuilt⟩
    · rw [hfail] at hok
      exact absurd hok (by decide)

/-- **When what a message declares is true**: exactly when its length fits 16 bits and the count of its
    cluster table one octet. -/
theorem build_truthful_iff (lib : HmacLib) (m : Message) (hm : Reachable lib m)
    (mem : Nat → UInt8) (bufSize : Nat) (sequence : UInt16)
    (hok : (m.build lib mem bufSize sequence).1 = .ok) :
    Truthful m (m.build lib mem bufSize sequence).2.1.msgLen
      (m.build lib mem bufSize sequence).2.2.mem ↔ LengthsFit m := by
  have hinv := hm.sendInv
  -- what the fields declare is what their width leaves of the true lengths
  constructor
  · intro htrue
    have haddr : ∀ id d, m.dataSend = some (.tlv id d) → tlvAddressesFit id d := by
      intro id d hdata
      have hd := htrue.data id d hdata
      obtain ⟨-, hbuild, d, heq⟩ := hinv.data _ hdata
      cases heq
      exact hd.addressesFit hbuild
    obtain ⟨w, -, hplan, hlen, -⟩ := built_of_addressesFit hinv hok haddr
    refine ⟨?_, fun d hdata => ?_⟩
    · have hlt := beAt_lt (m.build lib mem bufSize sequence).2.2.mem messageLengthOff 2
      rw [htrue.messageLength, hlen] at hlt
      rw [hplan]
      exact_mod_cast Nat.le_of_lt_succ hlt
    · have hlt := beAt_lt (m.build lib mem bufSize sequence).2.2.mem (mngMsgBaseSize + 1) 1
      rw [(htrue.data _ d hdata).1] at hlt
      exact Nat.le_of_lt_succ hlt
  · intro hfit
    obtain ⟨w, hw, hplan, hlen, hbuilt⟩ := built_of_addressesFit hinv hok
      (addressesFit_of_planed hinv hfit.1)
    have hsmall : mngMsgBaseSize + w.length + m.addAuth < 65536 := by
      have hle := hfit.1
      rw [hplan] at hle
      omega
    constructor
    case messageLength => rw [hbuilt.messageLength, hlen, Nat.mod_eq_of_lt hsmall]
    case lengthField =>
        rw [hbuilt.lengthField, hlen]
        simp only [mngMsgBaseSize, mngMsgMinSize] at hsmall ⊢
        omega
    case authLength =>
        intro a ha hsend
        rw [hlen, Nat.add_sub_cancel]
        exact authLength_of_built hbuilt ha hsend
    case data => exact dataTrue_of_built hinv hw hbuilt hfit (valuesFit_of_build hinv hok)

/-- A cluster table of as many empty addresses. -/
def clusterTable (n : Nat) : GrandmasterClusterTable where
  logQueryInterval := 0
  actualTableSize := 0
  portAddress := List.replicate n default

/-- A message that sets a cluster table of as many empty addresses. -/
def setClusterTable (n : Nat) : Message :=
  (init .init).call zeroLib (.setAction .set (.mng .grandmasterClusterTable)
    (some (.tlv .grandmasterClusterTable (clusterTable n))))

theorem setClusterTable_planed (n : Nat) :
    (setClusterTable n).getMsgPlanedLen = (56 + 4 * n : Nat) := by
  have hm : Reachable zeroLib (setClusterTable n) := .call _ (.init _)
  have hsize : (default : PortAddress).size = 4 := rfl
  have hwidth : tlvWidth (setClusterTable n).tlvId (clusterTable n) = 2 + 4 * n := by
    show 2 + ((List.replicate n default).map PortAddress.size).sum = 2 + 4 * n
    simp [hsize, mul_comm]
  have hauth : (setClusterTable n).addAuth = 0 := rfl
  rw [planed_data hm.sendInv (d := clusterTable n) rfl, hauth, hwidth, padEven]
  simp only [mngMsgBaseSize, mngMsgSize, tlvSizeHdr, lengthFieldMngBase]
  omega

theorem setClusterTable_build (n : Nat) {bufSize : Nat}
    (hroom : (setClusterTable n).getMsgPlanedLen ≤ bufSize) :
    ((setClusterTable n).build zeroLib (fun _ => 0) bufSize 7).1 = .ok := by
  have hm : Reachable zeroLib (setClusterTable n) := .call _ (.init _)
  have hdata : (setClusterTable n).dataSend
      = some (.tlv .grandmasterClusterTable (clusterTable n)) := rfl
  obtain ⟨w, hw, heven, hplan⟩ := exists_dataOctets hm.sendInv
    (fun id d h => by rw [hdata] at h; cases h; trivial)
    (fun id d h => by
      rw [hdata] at h
      cases h
      intro rec hrec
      obtain rfl := List.eq_of_mem_replicate hrec
      show (0 : Nat) < 65536
      decide)
  exact (build_of_room (fun _ _ _ => rfl) hw heven hplan _ 7 hroom).1

/-- 256 addresses are sent with a count of zero. -/
theorem setClusterTable_not_truthful :
    Reachable zeroLib (setClusterTable 256) ∧
    ((setClusterTable 256).build zeroLib (fun _ => 0) 1080 7).1 = .ok ∧
    ¬ Truthful (setClusterTable 256)
      ((setClusterTable 256).build zeroLib (fun _ => 0) 1080 7).2.1.msgLen
      ((setClusterTable 256).build zeroLib (fun _ => 0) 1080 7).2.2.mem := by
  have hroom : (setClusterTable 256).getMsgPlanedLen ≤ 1080 := (setClusterTable_planed 256).le
  refine ⟨.call _ (.init _), setClusterTable_build 256 hroom, fun htrue => ?_⟩
  have hcount := (htrue.data .grandmasterClusterTable (clusterTable 256) rfl).1
  have hlt := beAt_lt ((setClusterTable 256).build zeroLib (fun _ => 0) 1080 7).2.2.mem
    (mngMsgBaseSize + 1) 1
  rw [hcount, clusterTable, List.length_replicate] at hlt
  exact absurd hlt (by decide)

theorem build_truthful_iff_setClusterTable :
    Truthful (setClusterTable 2)
      ((setClusterTable 2).build zeroLib (fun _ => 0) 64 7).2.1.msgLen
      ((setClusterTable 2).build zeroLib (fun _ => 0) 64 7).2.2.mem := by
  have hplan := setClusterTable_planed 2
  refine (build_truthful_iff zeroLib (setClusterTable 2) (.call _ (.init _)) _ 64 7
    (setClusterTable_build 2 hplan.le)).2 ⟨by rw [hplan]; decide, fun d hdata => ?_⟩
  have heq : (setClusterTable 2).dataSend
      = some (.tlv .grandmasterClusterTable (clusterTable 2)) := rfl
  rw [heq] at hdata
  cases hdata
  decide

end Message

end PtpMgmt
