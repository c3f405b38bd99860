import PtpMgmt.Message.Build
import PtpMgmt.Message.Run
import PtpMgmt.MngTlvs.Dispatch

set_option autoImplicit false

/-! # What a build writes

`DataOctets m w` says that `w` is the dataField of the message, padded to an even length. The dataField
of every reachable message is of this form as long as the TLV to send fits the wire, and the planned
length is the length of the message around it.

The rest of the message has a fixed layout around the dataField; `buildFinish_spec` gives what it comes
to. -/

namespace PtpMgmt

open Wire Codec

namespace Message

/-! ## The dataField -/

/-- With room a build writes `w` as the dataField, else it fails for want of room. -/
def DataOctets (m : Message) (w : List UInt8) : Prop :=
  ∀ mp : MsgProc, mp.build = true → 0 ≤ mp.left → mp.size = 0 → mp.err = .tooSmall →
    ((w.length : Int) ≤ mp.left → m.buildData mp = (.ok, mp.emit w)) ∧
    (mp.left < w.length → (m.buildData mp).1 = .tooSmall)

/-- The octets with the reserved octet that makes their number even. -/
def padOctets (w : List UInt8) : List UInt8 := w ++ List.replicate (w.length % 2) 0

theorem length_padOctets (w : List UInt8) : (padOctets w).length = padEven w.length := by
  simp [padOctets, padEven]

theorem procRes_builds : Builds procRes () [0] :=
  Builds.bind (procUInt8_roundTrips 0 0).builds (Builds.pure ())

theorem dataOctets_of_builds {m : Message} {d a : Tlv m.tlvId} {w : List UInt8}
    (hdata : m.dataSend = some (.tlv m.tlvId d)) (haction : m.sendAction ≠ .get)
    (hcodec : (mngAllVals m.tlvId).func ≠ .na) (hw : Builds (tlvF m.tlvId d) a w) :
    DataOctets m (padOctets w) := by
  intro mp hb hleft hsize herr
  obtain ⟨hroom, hshort⟩ := callTlvData_builds hcodec hw hb hleft
  have hptr : TlvPtr.ofOption m.dataSend = .obj (.tlv m.tlvId d) := by
    rw [hdata]
    rfl
  rw [length_padOctets, buildData, if_pos ⟨haction, by rw [hdata]; rfl⟩, hptr]
  by_cases hfit : (w.length : Int) ≤ mp.left
  · rw [hroom hfit, MsgProc.fresh_of_err herr]
    have hemit : (mp.emit w).size = w.length := by rw [Cursor.emit_size, hsize, Nat.zero_add]
    simp only [hemit]
    rcases Nat.mod_two_eq_zero_or_one w.length with heven | hodd
    · rw [if_neg (by omega), padOctets, heven, List.replicate_zero, List.append_nil, padEven, heven]
      exact ⟨fun _ => rfl, fun hlt => absurd hlt (by omega)⟩
    · obtain ⟨hok, hfail⟩ := procRes_builds (mp.emit w) hb (by rw [Cursor.emit_left]; omega)
      rw [Cursor.emit_left, List.length_singleton] at hok hfail
      rw [if_pos hodd, padOctets, hodd, padEven, hodd, Cursor.emit_append]
      refine ⟨fun hle => ?_, fun hlt => ?_⟩
      · rw [hok (by push_cast at hle ⊢; omega)]
        rfl
      · have hnone := (hfail (by push_cast at hlt ⊢; omega)).1
        split
        · rfl
        · next hsome => rw [hsome] at hnone; exact absurd hnone (by simp)
  · have hfail := hshort (Int.not_le.1 hfit)
    have hpad : (w.length : Int) ≤ padEven w.length := by rw [padEven]; omega
    refine ⟨fun hle => absurd hle (by omega), fun _ => ?_⟩
    generalize hres : callTlvData m.tlvId (.obj (.tlv m.tlvId d)) mp = res at hfail ⊢
    obtain ⟨err, tlv, mp'⟩ := res
    simp only at hfail
    subst hfail
    rfl

/-- Without a TLV to send and without a size to fill, the dataField is empty. -/
theorem dataOctets_nil {m : Message} (hdata : m.dataSend = none)
    (h : ¬ (m.sendAction = .get ∧ (!m.prms.useZeroGet) = true ∧ (mngAllVals m.tlvId).size ≠ 0)) :
    DataOctets m [] := by
  intro mp hb hleft hsize herr
  have hrun : m.buildData mp = (.ok, mp) := by
    rw [buildData, if_neg (by simp [hdata]), if_neg h]
  rw [hrun, Cursor.emit_nil]
  exact ⟨fun _ => rfl, fun hlt => absurd hlt (by simpa using hleft)⟩

/-- The size of the dataField as the table or the size function of the id gives it. -/
def dataSize (id : MngId) (tlv : Option BaseMngTlv) : Int :=
  if (mngAllVals id).size = -2 then dataFieldSize id tlv else (mngAllVals id).size

theorem dataSize_none_nonneg (id : MngId) : 0 ≤ dataSize id none := by
  cases id <;> decide

/-- Rounding a size up to an even one, as the source does it. -/
theorem roundUp_eq {n : Int} (h : 0 ≤ n) :
    (if n % 2 = 1 then n + 1 else n) = (padEven n.toNat : Int) := by
  rw [padEven]
  split <;> omega

theorem padEven_padEven (n : Nat) : padEven (padEven n) = padEven n := by
  simp only [padEven]
  omega

/-- A GET that asks for its dataField is filled with zeros. -/
theorem dataOctets_get {m : Message} (hdata : m.dataSend = none) (haction : m.sendAction = .get)
    (hzero : m.prms.useZeroGet = false) (hsize : (mngAllVals m.tlvId).size ≠ 0) :
    DataOctets m (List.replicate (padEven (dataSize m.tlvId none).toNat) 0) := by
  intro mp hb hleft _ _
  have hnonneg := dataSize_none_nonneg m.tlvId
  have hrun : m.buildData mp = if (padEven (dataSize m.tlvId none).toNat : Int) > mp.left
      then (.tooSmall, mp)
      else (.ok, mp.emit (List.replicate (padEven (dataSize m.tlvId none).toNat) 0)) := by
    rw [buildData, if_neg (by simp [hdata]), if_pos ⟨haction, by simp [hzero], hsize⟩]
    show (if dataSize m.tlvId none < 0 then (MngParseError.invalidId, mp)
      else if (if dataSize m.tlvId none % 2 = 1 then dataSize m.tlvId none + 1
          else dataSize m.tlvId none) > mp.left then (.tooSmall, mp)
      else (.ok, mp.emit (List.replicate (if dataSize m.tlvId none % 2 = 1
        then dataSize m.tlvId none + 1 else dataSize m.tlvId none).toNat 0))) = _
    rw [if_neg (Int.not_lt.2 hnonneg), roundUp_eq hnonneg, Int.toNat_natCast]
  rw [hrun, List.length_replicate]
  refine ⟨fun hle => ?_, fun hlt => ?_⟩
  · rw [if_neg (Int.not_lt.2 hle)]
  · rw [if_pos hlt]

/-! ## The planned length -/

theorem func_ne_na_of_builds {f : TlvFunc} (h : f.builds = true) : f ≠ .na := by
  rintro rfl
  exact absurd h (by decide)

/-- The size that the table and the size functions give is what the codec writes. -/
theorem dataSize_some {id : MngId} (d : Tlv id) (hbuild : (mngAllVals id).func.builds = true) :
    0 ≤ dataSize id (some (.tlv id d)) ∧
      padEven (dataSize id (some (.tlv id d))).toNat = padEven (tlvWidth id d) := by
  by_cases hsized : (mngAllVals id).func.sized = true
  · have hid : id ≠ .clockDescription := by
      rintro rfl
      exact absurd hbuild (by decide)
    have heq : dataSize id (some (.tlv id d)) = tlvWidth id d := by
      rw [dataSize, if_pos ((mngAllVals_size_eq_neg_two id).2 hsized), dataFieldSize]
      simp [tlvS_eq id d hsized hid]
    rw [heq]
    exact ⟨Int.natCast_nonneg _, rfl⟩
  · have heq : dataSize id (some (.tlv id d)) = padEven (tlvWidth id d) := by
      rw [dataSize, if_neg (fun h => hsized ((mngAllVals_size_eq_neg_two id).1 h)),
        padEven_tlvWidth_eq_size id d (by simpa using hsized)]
    rw [heq]
    exact ⟨Int.natCast_nonneg _, padEven_padEven _⟩

/-- The planned length when there is a dataField to plan. -/
theorem planed_eq {m : Message} (tlv : Option BaseMngTlv)
    (htlv : (if m.sendAction ≠ .get then m.dataSend else none) = tlv)
    (hzero : ¬ (m.sendAction = .get ∧ m.prms.useZeroGet = true))
    (hneed : m.sendAction ≠ .get → tlv.isNone = true → (mngAllVals m.tlvId).size ≠ -2)
    (hnonneg : 0 ≤ dataSize m.tlvId tlv) :
    m.getMsgPlanedLen
      = (mngMsgBaseSize + padEven (dataSize m.tlvId tlv).toNat + m.addAuth : Nat) := by
  have hplan : m.getMsgPlanedLen = if dataSize m.tlvId tlv < 0 then dataSize m.tlvId tlv
      else (if dataSize m.tlvId tlv % 2 = 1 then dataSize m.tlvId tlv + 1
        else dataSize m.tlvId tlv) + mngMsgBaseSize + m.addAuth := by
    rw [getMsgPlanedLen]
    simp only [htlv]
    rw [if_neg hzero, if_neg (fun ⟨h2, hnone, hget⟩ => hneed hget hnone h2)]
    rfl
  rw [hplan, if_neg (Int.not_lt.2 hnonneg), roundUp_eq hnonneg]
  push_cast
  omega

/-- Every state of a message has a dataField to build when its TLV fits, and its planned length is
    the length around it. -/
theorem exists_dataOctets {m : Message} (hm : SendInv m)
    (hvalues : ∀ id d, m.dataSend = some (.tlv id d) → tlvValuesFit id d)
    (haddr : ∀ id d, m.dataSend = some (.tlv id d) → tlvAddressesFit id d) :
    ∃ w, DataOctets m w ∧ w.length % 2 = 0 ∧
      m.getMsgPlanedLen = (mngMsgBaseSize + w.length + m.addAuth : Nat) := by
  have heven : ∀ n, padEven n % 2 = 0 := fun n => by rw [padEven]; omega
  cases hdata : m.dataSend with
  | some tlv =>
      obtain ⟨haction, hbuild, d, rfl⟩ := hm.data tlv hdata
      obtain ⟨w, hlen, hw, -⟩ := tlvF_roundTrips m.tlvId d (hvalues _ d hdata) (haddr _ d hdata)
      obtain ⟨hnonneg, hsize⟩ := dataSize_some d hbuild
      refine ⟨padOctets w, dataOctets_of_builds hdata haction (func_ne_na_of_builds hbuild) hw, ?_, ?_⟩
      · rw [length_padOctets]
        exact heven _
      · rw [planed_eq (some (.tlv m.tlvId d)) (by rw [if_pos haction, hdata]) (fun h => haction h.1)
          (fun _ h => absurd h (by simp)) hnonneg, length_padOctets, hsize, hlen]
  | none =>
      by_cases hget : m.sendAction = .get
      · cases hzero : m.prms.useZeroGet with
        | true =>
            refine ⟨[], dataOctets_nil hdata (by simp [hzero]), rfl, ?_⟩
            rw [getMsgPlanedLen]
            simp [hget, hzero]
        | false =>
            have hplan := planed_eq none (m := m) (by simp [hget]) (by simp [hzero])
              (fun h => absurd hget h) (dataSize_none_nonneg _)
            by_cases hsize : (mngAllVals m.tlvId).size = 0
            · refine ⟨[], dataOctets_nil hdata (fun h => h.2.2 hsize), rfl, ?_⟩
              rw [hplan, dataSize, hsize]
              rfl
            · refine ⟨_, dataOctets_get hdata hget hzero hsize, ?_, ?_⟩
              · rw [List.length_replicate]
                exact heven _
              · rw [hplan, List.length_replicate]
      · have hsize := (hm.noData hdata).resolve_left hget
        refine ⟨[], dataOctets_nil hdata (fun h => hget h.1), rfl, ?_⟩
        have heq : dataSize m.tlvId none = 0 := by
          rw [dataSize, hsize]
          rfl
        rw [planed_eq none (by rw [if_pos hget, hdata]) (fun h => hget h.1)
          (fun _ _ => by rw [hsize]; decide) heq.ge, heq]
        rfl

/-! ## The message around the dataField -/

@[simp]
theorem length_portIdentityOctets (d : PortIdentity) : (portIdentityOctets d).length = 10 := by
  simp [portIdentityOctets]

@[simp]
theorem length_headerOctets (m : Message) (sequence : UInt16) :
    (m.headerOctets sequence).length = mngMsgSize := by
  simp [headerOctets, mngMsgSize]

@[simp]
theorem length_authTlvOctets (a : Auth) (macSize : Nat) :
    (authTlvOctets a macSize).length = authTlvSize := by
  simp [authTlvOctets, authTlvSize]

/-- What the memory holds after a successful build of the dataField `w`. -/
structure Built (lib : HmacLib) (m : Message) (w : List UInt8) (mem : Nat → UInt8) : Prop where
  messageLength : beAt mem messageLengthOff 2 = (mngMsgBaseSize + w.length + m.addAuth) % 65536
  lengthField : beAt mem lengthFieldOff 2 = (lengthFieldMngBase + w.length) % 65536
  dataField : slice mem mngMsgBaseSize w.length = w
  authTlv : ∀ a, m.auth = some a → m.prms.sendAuth = true →
    slice mem (mngMsgBaseSize + w.length) authTlvSize = authTlvOctets a a.macSize
  icv : ∀ a, m.auth = some a → m.prms.sendAuth = true →
    a.hmac.digest lib (slice mem 0 (mngMsgBaseSize + w.length + authTlvSize)) a.macSize
      = some (slice mem (mngMsgBaseSize + w.length + authTlvSize) a.macSize)

@[simp] theorem poke_mem (mp : MsgProc) (off : Nat) (w : List UInt8) :
    (poke mp off w).mem = store mp.mem off w := rfl
@[simp] theorem poke_cur (mp : MsgProc) (off : Nat) (w : List UInt8) :
    (poke mp off w).cur = mp.cur := rfl
@[simp] theorem poke_left (mp : MsgProc) (off : Nat) (w : List UInt8) :
    (poke mp off w).left = mp.left := rfl
@[simp] theorem poke_size (mp : MsgProc) (off : Nat) (w : List UInt8) :
    (poke mp off w).size = mp.size := rfl

/-- The walk behind the dataField once the lengthField is written. -/
def withLengthField (mp : MsgProc) (n : Nat) : MsgProc :=
  poke mp lengthFieldOff (beOctets 2 (lengthFieldMngBase + n))

theorem addAuth_of_plain {m : Message} (h : m.auth = none ∨ m.prms.sendAuth = false) :
    m.addAuth = 0 := by
  rw [addAuth]
  split
  · next a ha =>
      have hsend := h.resolve_left (by simp [ha])
      rw [hsend]
      rfl
  · rfl

theorem addAuth_of_auth {m : Message} {a : Auth} (ha : m.auth = some a)
    (hsend : m.prms.sendAuth = true) : m.addAuth = authTlvSize + a.macSize := by
  rw [addAuth, ha]
  exact if_pos hsend

section Finish

variable {lib : HmacLib} {m : Message} {w : List UInt8} {mp : MsgProc}

theorem base_add_even (heven : w.length % 2 = 0) : ¬ (mngMsgBaseSize + w.length) % 2 = 1 := by
  simp only [mngMsgBaseSize, mngMsgSize, tlvSizeHdr, lengthFieldMngBase]
  omega

theorem buildFinish_plain_eq (hsize : mp.size = w.length) (heven : w.length % 2 = 0)
    (hauth : m.auth = none ∨ m.prms.sendAuth = false) :
    m.buildFinish lib mp = (.ok, { m with msgLen := mngMsgBaseSize + w.length },
      poke (withLengthField mp w.length) messageLengthOff
        (beOctets 2 (mngMsgBaseSize + w.length))) := by
  rw [buildFinish, hsize, if_neg (base_add_even heven)]
  split
  · next a ha =>
      have hsend := hauth.resolve_left (by simp [ha])
      rw [hsend]
      rfl
  · rfl

theorem buildFinish_auth_eq (hsize : mp.size = w.length) (heven : w.length % 2 = 0) {a : Auth}
    (ha : m.auth = some a) (hsend : m.prms.sendAuth = true) :
    m.buildFinish lib mp = buildAuth lib m a (withLengthField mp w.length)
      (mngMsgBaseSize + w.length) := by
  rw [buildFinish, hsize, if_neg (base_add_even heven)]
  simp only [ha, hsend, if_true]
  rfl

end Finish

/-! ### Frame: the lengths are written before the dataField -/

theorem beAt_store_length (mem : Nat → UInt8) (off v : Nat) :
    beAt (store mem off (beOctets 2 v)) off 2 = v % 65536 :=
  beAt_store_self mem off 2 v

theorem slice_messageLength (mem : Nat → UInt8) (v : Nat) {off : Nat} (n : Nat) (h : 4 ≤ off) :
    slice (store mem messageLengthOff (beOctets 2 v)) off n = slice mem off n :=
  slice_store_of_disjoint _ _ _ _ _ (.inr (by rw [length_beOctets]; exact h))

theorem slice_lengthField (mp : MsgProc) (v : Nat) {off : Nat} (n : Nat) (h : 52 ≤ off) :
    slice (withLengthField mp v).mem off n = slice mp.mem off n :=
  slice_store_of_disjoint _ _ _ _ _ (.inr (by rw [length_beOctets]; exact h))

/-- Without authentication the lengths are all that is missing. -/
theorem built_plain {lib : HmacLib} {m : Message} {w : List UInt8} {mp : MsgProc}
    (hdata : slice mp.mem mngMsgBaseSize w.length = w)
    (hauth : m.auth = none ∨ m.prms.sendAuth = false) :
    Built lib m w (poke (withLengthField mp w.length) messageLengthOff
      (beOctets 2 (mngMsgBaseSize + w.length))).mem where
  messageLength := by
    rw [poke_mem, beAt_store_length, addAuth_of_plain hauth, Nat.add_zero]
  lengthField := by
    rw [poke_mem, beAt, slice_messageLength _ _ _ (by decide)]
    exact beAt_store_length _ _ _
  dataField := by
    rw [poke_mem, slice_messageLength _ _ _ (by decide), slice_lengthField _ _ _ (by decide), hdata]
  authTlv a ha hsend := absurd (hauth.resolve_left (by simp [ha])) (by simp [hsend])
  icv a ha hsend := absurd (hauth.resolve_left (by simp [ha])) (by simp [hsend])

/-- The walk behind the authentication TLV, with the messageLength written and the ICV to come. -/
def withAuthTlv (mp : MsgProc) (a : Auth) (n : Nat) : MsgProc :=
  poke ((withLengthField mp n).emit (authTlvOctets a a.macSize)) messageLengthOff
    (beOctets 2 (mngMsgBaseSize + n + authTlvSize + a.macSize))

/-- With authentication the ICV is the last thing written, over everything before it. -/
theorem built_auth {lib : HmacLib} {m : Message} {w : List UInt8} {mp : MsgProc} {a : Auth}
    {mac : List UInt8} (hcur : mp.cur = mngMsgBaseSize + w.length)
    (hdata : slice mp.mem mngMsgBaseSize w.length = w) (ha : m.auth = some a)
    (hsend : m.prms.sendAuth = true) (hlen : mac.length = a.macSize)
    (hmac : a.hmac.digest lib (slice (withAuthTlv mp a w.length).mem 0
      (mngMsgBaseSize + w.length + authTlvSize)) a.macSize = some mac) :
    Built lib m w ((withAuthTlv mp a w.length).put mac).mem := by
  have hicv : ((withAuthTlv mp a w.length).put mac).mem
      = store (withAuthTlv mp a w.length).mem (mngMsgBaseSize + w.length + authTlvSize) mac := by
    have hend : (withAuthTlv mp a w.length).cur = mngMsgBaseSize + w.length + authTlvSize := by
      rw [withAuthTlv, poke_cur, Cursor.emit_cur, length_authTlvOctets, ← hcur]
      rfl
    rw [← hend]
    rfl
  have hmem : (withAuthTlv mp a w.length).mem
      = store (store (withLengthField mp w.length).mem (mngMsgBaseSize + w.length)
        (authTlvOctets a a.macSize)) messageLengthOff
        (beOctets 2 (mngMsgBaseSize + w.length + authTlvSize + a.macSize)) := by
    have hstart : (withLengthField mp w.length).cur = mngMsgBaseSize + w.length := hcur
    rw [withAuthTlv, poke_mem, Cursor.emit_mem, hstart]
  -- everything below the ICV is as it was before the ICV was written
  have hlow : ∀ off n, off + n ≤ mngMsgBaseSize + w.length + authTlvSize →
      slice ((withAuthTlv mp a w.length).put mac).mem off n
        = slice (withAuthTlv mp a w.length).mem off n := by
    intro off n h
    rw [hicv]
    exact slice_store_of_disjoint _ _ _ _ _ (.inl h)
  have hbase : 54 ≤ mngMsgBaseSize + w.length := Nat.le_add_right 54 _
  constructor
  case messageLength =>
      rw [beAt, hlow _ _ (by simp only [messageLengthOff]; omega), hmem, ← beAt, beAt_store_length,
        addAuth_of_auth ha hsend]
      simp only [Nat.add_assoc]
  case lengthField =>
      rw [beAt, hlow _ _ (by simp only [lengthFieldOff, mngMsgSize]; omega), hmem,
        slice_messageLength _ _ _ (by decide), slice_store_of_disjoint _ _ _ _ _
          (.inl (by simp only [lengthFieldOff, mngMsgSize]; omega))]
      exact beAt_store_length _ _ _
  case dataField =>
      rw [hlow _ _ (by omega), hmem, slice_messageLength _ _ _ (by decide),
        slice_store_of_disjoint _ _ _ _ _ (.inl le_rfl), slice_lengthField _ _ _ (by decide), hdata]
  case authTlv =>
      intro a' ha' _
      obtain rfl : a = a' := by rw [ha] at ha'; exact Option.some.inj ha'
      have hself := slice_store_self (withLengthField mp w.length).mem (mngMsgBaseSize + w.length)
        (authTlvOctets a a.macSize)
      rw [length_authTlvOctets] at hself
      rw [hlow _ _ le_rfl, hmem, slice_messageLength _ _ _ (by omega), hself]
  case icv =>
      intro a' ha' _
      obtain rfl : a = a' := by rw [ha] at ha'; exact Option.some.inj ha'
      rw [hlow _ _ (by omega), hmac, hicv, ← hlen, slice_store_self]

/-! ## The whole build -/

section Build

variable (lib : HmacLib) {m : Message} {w : List UInt8} (mem : Nat → UInt8) (bufSize : Nat)
  (sequence : UInt16)

theorem buildAuth_eq {a : Auth} {mp : MsgProc} (hroom : (authTlvSize + a.macSize : Nat) ≤ mp.left) :
    buildAuth lib m a (withLengthField mp w.length) (mngMsgBaseSize + w.length)
      = match a.hmac.digest lib (slice (withAuthTlv mp a w.length).mem 0
          (mngMsgBaseSize + w.length + authTlvSize)) a.macSize with
        | none => (.auth, m, withAuthTlv mp a w.length)
        | some mac => (.ok, { m with
            msgLen := mngMsgBaseSize + w.length + authTlvSize + a.macSize },
            (withAuthTlv mp a w.length).put mac) := by
  have hleft : ¬ ((authTlvSize + a.macSize : Nat) : Int) > (withLengthField mp w.length).left :=
    Int.not_lt.2 hroom
  rw [buildAuth]
  simp only [hleft, if_false, Nat.add_sub_cancel]
  rfl

/-- The end of a build behind the dataField `w`: too little room for the authentication TLV is refused,
    and otherwise only the HMAC library can fail. -/
theorem buildFinish_cases {mp : MsgProc} (hsize : mp.size = w.length)
    (hcur : mp.cur = mngMsgBaseSize + w.length) (hdata : slice mp.mem mngMsgBaseSize w.length = w)
    (heven : w.length % 2 = 0) (hleft : 0 ≤ mp.left) :
    (mp.left < m.addAuth → (m.buildFinish lib mp).1 = .tooSmall) ∧
    (m.addAuth ≤ mp.left →
      (∃ mp', m.buildFinish lib mp
          = (.ok, { m with msgLen := mngMsgBaseSize + w.length + m.addAuth }, mp') ∧
        Built lib m w mp'.mem) ∨
      (m.buildFinish lib mp).1 = .auth ∧ ¬ lib.Computes) := by
  by_cases hplain : m.auth = none ∨ m.prms.sendAuth = false
  · rw [addAuth_of_plain hplain, buildFinish_plain_eq hsize heven hplain]
    exact ⟨fun h => absurd h (Int.not_lt.2 hleft), fun _ => .inl ⟨_, rfl, built_plain hdata hplain⟩⟩
  · rw [not_or, Bool.not_eq_false] at hplain
    obtain ⟨a, ha⟩ := Option.ne_none_iff_exists'.1 hplain.1
    have hmac : a.macSize ≤ 32 := (a.sa.spp a.sppID).macSize_le a.keyID
    rw [addAuth_of_auth ha hplain.2, buildFinish_auth_eq hsize heven ha hplain.2]
    refine ⟨fun h => ?_, fun h => ?_⟩
    · rw [buildAuth, if_pos]
      exact h
    · rw [buildAuth_eq lib h]
      split
      · next hnone =>
          refine .inr ⟨rfl, fun hlib => ?_⟩
          obtain ⟨mac, hsome⟩ := hlib.digest a.hmac (slice (withAuthTlv mp a w.length).mem 0
            (mngMsgBaseSize + w.length + authTlvSize)) hmac
          rw [hsome] at hnone
          exact absurd hnone (by simp)
      · next mac hsome =>
          refine .inl ⟨_, by rw [Nat.add_assoc _ authTlvSize], ?_⟩
          exact built_auth hcur hdata ha hplain.2 (HmacKey.length_of_digest hsome hmac) hsome

/-- **The build of a message with the dataField `w`**: too small a buffer is refused, any other one
    takes the message, unless the HMAC library fails. -/
theorem build_cases (hw : DataOctets m w) (heven : w.length % 2 = 0) :
    (bufSize < mngMsgBaseSize + w.length + m.addAuth →
      (m.build lib mem bufSize sequence).1 = .tooSmall) ∧
    (mngMsgBaseSize + w.length + m.addAuth ≤ bufSize →
      (∃ mp', m.build lib mem bufSize sequence
          = (.ok, { m with msgLen := mngMsgBaseSize + w.length + m.addAuth }, mp') ∧
        Built lib m w mp'.mem) ∨
      (m.build lib mem bufSize sequence).1 = .auth ∧ ¬ lib.Computes) := by
  by_cases hbase : bufSize < mngMsgBaseSize
  · rw [build, if_pos hbase]
    exact ⟨fun _ => rfl, fun h => absurd h (by omega)⟩
  -- the walk over the dataField starts with what is left behind the fixed part
  let mp := m.buildStart mem bufSize sequence
  have hleft : mp.left = (bufSize : Int) - mngMsgBaseSize := rfl
  obtain ⟨hok, hshort⟩ := hw mp rfl (by omega) rfl rfl
  by_cases hroom : (w.length : Int) ≤ mp.left
  case neg =>
      have hfail := hshort (Int.not_le.1 hroom)
      refine ⟨fun _ => ?_, fun h => absurd h (by omega)⟩
      rw [build, if_neg hbase]
      split
      · next mp' heq =>
          have hcode : (m.buildData mp).1 = .ok := by rw [show m.buildData mp = _ from heq]
          rw [hfail] at hcode
          exact absurd hcode (by decide)
      · next err mp' _ heq =>
          have hcode : (m.buildData mp).1 = err := by rw [show m.buildData mp = _ from heq]
          exact hcode.symm.trans hfail
  case pos =>
      have hrun : m.build lib mem bufSize sequence = m.buildFinish lib (mp.emit w) := by
        rw [build, if_neg hbase, show m.buildData (m.buildStart mem bufSize sequence) = _ from hok hroom]
      have hsize : (mp.emit w).size = w.length := by
        rw [Cursor.emit_size]
        exact Nat.zero_add _
      have hrest : (mp.emit w).left = (bufSize : Int) - mngMsgBaseSize - w.length := by
        rw [Cursor.emit_left, hleft]
      obtain ⟨hsmall, hfits⟩ := buildFinish_cases lib hsize rfl
        (slice_store_self mp.mem mngMsgBaseSize w) heven (by omega)
      rw [hrun]
      exact ⟨fun h => hsmall (by omega), fun h => hfits (by omega)⟩

end Build

/-! ## Every successful build -/

/-- Without a TLV nothing or zeros are written. -/
theorem buildData_walk_none {m : Message} {mp : MsgProc} (hleft : 0 ≤ mp.left)
    (hdata : ¬ (m.sendAction ≠ .get ∧ m.dataSend.isSome = true)) :
    ∃ n : Nat, n ≤ mp.left ∧ (m.buildData mp).2 = mp.emit (List.replicate n 0) := by
  have hfill : ∀ size : Int, ∃ n : Nat, n ≤ mp.left ∧
      (if size < 0 then (MngParseError.invalidId, mp)
        else if (if size % 2 = 1 then size + 1 else size) > mp.left then (.tooSmall, mp)
        else (.ok, mp.emit (List.replicate (if size % 2 = 1 then size + 1 else size).toNat 0))).2
      = mp.emit (List.replicate n 0) := by
    intro size
    generalize (if size % 2 = 1 then size + 1 else size) = n
    split
    · exact ⟨0, hleft, (Cursor.emit_nil mp).symm⟩
    · split
      · exact ⟨0, hleft, (Cursor.emit_nil mp).symm⟩
      · next hfit => exact ⟨n.toNat, by omega, rfl⟩
  rw [buildData, if_neg hdata]
  split
  · exact hfill (dataSize m.tlvId none)
  · exact ⟨0, hleft, (Cursor.emit_nil mp).symm⟩

/-- The size counts the octets the cursor passed. -/
theorem buildData_size (m : Message) (mp : MsgProc) (hleft : 0 ≤ mp.left) :
    (m.buildData mp).2.size + mp.cur = mp.size + (m.buildData mp).2.cur := by
  by_cases hdata : m.sendAction ≠ .get ∧ m.dataSend.isSome = true
  · have hcall := (callTlvData_advances m.tlvId (.ofOption m.dataSend) mp).size_eq
    simp only [MsgProc.fresh_size, MsgProc.fresh_cur] at hcall
    rw [buildData, if_pos hdata]
    split
    · next mp' he =>
        rw [he] at hcall
        split
        · have hpad := (procRes.advances mp').size_eq
          simp only at hcall
          split <;> next hres => rw [hres] at hpad; simp only at hpad ⊢; omega
        · exact hcall
    · next he =>
        rw [he] at hcall
        exact hcall
  · obtain ⟨n, -, heq⟩ := buildData_walk_none hleft hdata
    rw [heq, Cursor.emit_size, Cursor.emit_cur]
    omega

/-- Behind any dataField a build that succeeds ends like this. -/
theorem built_of_finish {lib : HmacLib} {m : Message} {mp : MsgProc}
    (hcur : mp.cur = mngMsgBaseSize + mp.size) (hok : (m.buildFinish lib mp).1 = .ok) :
    ∃ w, (m.buildFinish lib mp).2.1.msgLen = mngMsgBaseSize + w.length + m.addAuth ∧
      Built lib m w (m.buildFinish lib mp).2.2.mem := by
  -- the dataField is what the memory holds
  let w := slice mp.mem mngMsgBaseSize mp.size
  have hlen : mp.size = w.length := (length_slice _ _ _).symm
  have hdata : slice mp.mem mngMsgBaseSize w.length = w := by rw [← hlen]
  rw [hlen] at hcur
  by_cases hodd : w.length % 2 = 1
  · rw [buildFinish, hlen, if_pos (by
      simp only [mngMsgBaseSize, mngMsgSize, tlvSizeHdr, lengthFieldMngBase]
      omega)] at hok
    exact absurd hok (by simp)
  have heven : w.length % 2 = 0 := by omega
  by_cases hplain : m.auth = none ∨ m.prms.sendAuth = false
  · rw [buildFinish_plain_eq hlen heven hplain]
    exact ⟨w, by rw [addAuth_of_plain hplain, Nat.add_zero], built_plain hdata hplain⟩
  · rw [not_or, Bool.not_eq_false] at hplain
    obtain ⟨a, ha⟩ := Option.ne_none_iff_exists'.1 hplain.1
    rw [buildFinish_auth_eq hlen heven ha hplain.2] at hok ⊢
    by_cases hroom : ((authTlvSize + a.macSize : Nat) : Int) ≤ mp.left
    · rw [buildAuth_eq lib hroom] at hok ⊢
      split at hok
      · exact absurd hok (by simp)
      · next mac hmac =>
          refine ⟨w, by rw [addAuth_of_auth ha hplain.2, Nat.add_assoc _ authTlvSize], ?_⟩
          exact built_auth hcur hdata ha hplain.2 (HmacKey.length_of_digest hmac
            ((a.sa.spp a.sppID).macSize_le a.keyID)) hmac
    · rw [buildAuth, if_pos (show (withLengthField mp w.length).left < _ from Int.not_le.1 hroom)]
        at hok
      exact absurd hok (by simp)

/-- Whatever the dataField is, a build that succeeds ends like this around it. -/
theorem built_of_build {lib : HmacLib} {m : Message} {mem : Nat → UInt8} {bufSize : Nat}
    {sequence : UInt16} (hok : (m.build lib mem bufSize sequence).1 = .ok) :
    ∃ w, (m.build lib mem bufSize sequence).2.1.msgLen = mngMsgBaseSize + w.length + m.addAuth ∧
      Built lib m w (m.build lib mem bufSize sequence).2.2.mem := by
  by_cases hbase : bufSize < mngMsgBaseSize
  · rw [build, if_pos hbase] at hok
    exact absurd hok (by simp)
  have hleft : (m.buildStart mem bufSize sequence).left = (bufSize : Int) - mngMsgBaseSize := rfl
  have hsize := buildData_size m (m.buildStart mem bufSize sequence) (by omega)
  rw [build, if_neg hbase] at hok ⊢
  split at hok
  · next mp hdata =>
      rw [hdata] at hsize
      have hstart : (m.buildStart mem bufSize sequence).cur = mngMsgBaseSize := rfl
      have hzero : (m.buildStart mem bufSize sequence).size = 0 := rfl
      simp only at hsize
      exact built_of_finish (by omega) hok
  · next err mp hne hdata => exact absurd hok hne

end Message

end PtpMgmt
