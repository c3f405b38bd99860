import PtpMgmt.Message.Parse

set_option autoImplicit false

/-! # What a parse decides

The decisions of `parse` and of `parseAuth`, once for all proofs that follow: which buffers get to the
management and to the signalling part, and which authentication TLVs are accepted. -/

namespace PtpMgmt

open Wire Codec

namespace Message

/-! ## The header -/

/-- The version and the interval are those of a management or signalling message. -/
def headerOk (buf : Nat → UInt8) : Prop :=
  buf 1 &&& 0xf = ptpMajorVer ∧ buf logMessageIntervalOff = logMessageIntervalDef

/-- The buffer holds a signalling message that is asked for. -/
structure SigHeader (prms : MsgParams) (buf : Nat → UInt8) (bufSize : Int) : Prop where
  base_le : sigBaseSize ≤ bufSize
  length_le : beAt buf messageLengthOff 2 ≤ bufSize
  type_eq : buf 0 &&& 0xf = MsgType.signaling
  rcvSignaling : prms.rcvSignaling = true
  header : headerOk buf

/-- The buffer holds a management message. -/
structure MngHeader (buf : Nat → UInt8) (bufSize : Int) : Prop where
  base_le : sigBaseSize ≤ bufSize
  length_le : beAt buf messageLengthOff 2 ≤ bufSize
  type_eq : buf 0 &&& 0xf = MsgType.management
  min_le : mngMsgMinSize ≤ beAt buf messageLengthOff 2
  header : headerOk buf

/-- The octets that are examined for the header. -/
def headerLog : ParseLog :=
  (((((((ParseLog.init.look messageLengthOff 2).look 0 1).look 1 1).look logMessageIntervalOff 1).look
    4 3).look 30 2).look 20 10).look 34 10

/-- The fields of a header that was read. -/
def readHeader (hdr : MsgHeader) (buf : Nat → UInt8) : MsgHeader :=
  headerFields { hdr with
    type := buf 0 &&& 0xf
    versionPTP := buf 1 &&& 0xf
    minorVersionPTP := buf 1 >>> 4 } buf

theorem parseHeader_of_ok {m : Message} {buf : Nat → UInt8} (h : headerOk buf) :
    parseHeader { m with hdr := { m.hdr with type := buf 0 &&& 0xf } } buf
        ((ParseLog.init.look messageLengthOff 2).look 0 1)
      = (true, { m with hdr := readHeader m.hdr buf }, headerLog) := by
  rw [parseHeader, if_neg (not_not_intro h.1)]
  simp only
  rw [if_neg (not_not_intro h.2)]
  rfl

theorem headerOk_of_parseHeader {m m' : Message} {buf : Nat → UInt8} {log log' : ParseLog}
    (h : parseHeader m buf log = (true, m', log')) : headerOk buf := by
  rw [parseHeader] at h
  simp only at h
  split at h
  · cases h
  · next hversion =>
      split at h
      · cases h
      · next hinterval => exact ⟨not_not.1 hversion, not_not.1 hinterval⟩

section Parse

variable (lib : HmacLib) (m : Message) {buf : Nat → UInt8} {bufSize : Int}

theorem parse_eq_parseSig (h : SigHeader m.prms buf bufSize) :
    m.parse lib buf bufSize = parseSig lib { m with hdr := readHeader m.hdr buf } buf
      ((beAt buf messageLengthOff 2 : Int) - sigBaseSize) headerLog := by
  rw [parse, if_neg (Int.not_lt.2 h.base_le)]
  simp only
  rw [if_neg (Int.not_lt.2 h.length_le), if_pos h.type_eq, h.rcvSignaling,
    if_neg (by decide), parseHeader_of_ok h.header]

theorem parse_signaling (h : SigHeader m.prms buf bufSize) :
    ∃ hdr, m.parse lib buf bufSize = parseSig lib { m with hdr } buf
      ((beAt buf messageLengthOff 2 : Int) - sigBaseSize) headerLog :=
  ⟨_, parse_eq_parseSig lib m h⟩

theorem parse_eq_parseMng (h : MngHeader buf bufSize) :
    m.parse lib buf bufSize = parseMng lib { m with hdr := readHeader m.hdr buf } buf
      (beAt buf messageLengthOff 2) headerLog := by
  have htype : ¬ (buf 0 &&& 0xf) = MsgType.signaling := by
    rw [h.type_eq]
    decide
  rw [parse, if_neg (Int.not_lt.2 h.base_le)]
  simp only
  rw [if_neg (Int.not_lt.2 h.length_le), if_neg htype, if_pos h.type_eq,
    if_neg (Nat.not_lt.2 h.min_le), parseHeader_of_ok h.header]

theorem parse_management (h : MngHeader buf bufSize) :
    ∃ hdr, m.parse lib buf bufSize
      = parseMng lib { m with hdr } buf (beAt buf messageLengthOff 2) headerLog :=
  ⟨_, parse_eq_parseMng lib m h⟩

/-- Every other buffer is refused for its header. -/
theorem parse_refused (hsig : ¬ SigHeader m.prms buf bufSize) (hmng : ¬ MngHeader buf bufSize) :
    (m.parse lib buf bufSize).1 = .tooSmall ∨ (m.parse lib buf bufSize).1 = .header := by
  rw [parse]
  simp only
  split
  · exact .inl rfl
  · next hbase =>
      split
      · exact .inr rfl
      · next hlength =>
          split
          · next htype =>
              split
              · exact .inr rfl
              · next hrcv =>
                  rw [Bool.not_eq_true, Bool.not_eq_false'] at hrcv
                  split
                  · exact .inr rfl
                  · next he =>
                      exact absurd ⟨Int.not_lt.1 hbase, Int.not_lt.1 hlength, htype, hrcv,
                        headerOk_of_parseHeader he⟩ hsig
          · split
            · next htype =>
                split
                · exact .inl rfl
                · next hmin =>
                    split
                    · exact .inr rfl
                    · next he =>
                        exact absurd ⟨Int.not_lt.1 hbase, Int.not_lt.1 hlength, htype,
                          Nat.not_lt.1 hmin, headerOk_of_parseHeader he⟩ hmng
            · exact .inr rfl

end Parse

/-! ## The frame of a management message -/

/-- The lengthField of the management TLV. -/
def mngLength (buf : Nat → UInt8) : Nat := beAt buf lengthFieldOff 2

/-- Offset of what follows the management TLV. -/
def mngEnd (buf : Nat → UInt8) : Nat := mngTlvOff + beAt buf lengthFieldOff 2

/-- Octets behind the management TLV of a message of `msgSize` octets. -/
def mngRest (buf : Nat → UInt8) (msgSize : Nat) : Int :=
  (msgSize : Int) - mngMsgMinSize - beAt buf lengthFieldOff 2

/-- The type of the management TLV. -/
def mngTlvType (buf : Nat → UInt8) : TlvType :=
  TlvType.ofVal (UInt16.ofNat (beAt buf mngMsgSize 2))

/-- The action and the TLV header of a management message are well formed. -/
structure MngFrame (buf : Nat → UInt8) (msgSize : Nat) (actionField : ActionField) : Prop where
  action_eq : ActionField.ofReply (buf actionFieldOff &&& 0xf) = some actionField
  rest_nonneg : 0 ≤ mngRest buf msgSize
  even : beAt buf lengthFieldOff 2 % 2 = 0

/-- A message behind the frame of a management message. -/
def framed (m : Message) (buf : Nat → UInt8) : Message :=
  { m with lastSig := false, mngType := mngTlvType buf }

section Frame

variable (lib : HmacLib) (m : Message) {buf : Nat → UInt8} {msgSize : Nat} (log : ParseLog)

theorem parseMng_framed {actionField : ActionField} (h : MngFrame buf msgSize actionField) :
    ∃ log', log'.freesWild = log.freesWild ∧ parseMng lib m buf msgSize log =
      if (parseMngAuth lib m buf (mngEnd buf) (mngRest buf msgSize) log').1 ≠ .ok ∧
          m.prms.rcvAuthHas rcvAuthIgnore = false then
        ((parseMngAuth lib m buf (mngEnd buf) (mngRest buf msgSize) log').1, m.framed buf,
          (parseMngAuth lib m buf (mngEnd buf) (mngRest buf msgSize) log').2)
      else parseMngTlv (m.framed buf) buf (mngTlvType buf) actionField (mngLength buf)
        (parseMngAuth lib m buf (mngEnd buf) (mngRest buf msgSize) log').1
        (parseMngAuth lib m buf (mngEnd buf) (mngRest buf msgSize) log').2 := by
  have hroom : ¬ ((msgSize : Int) - mngMsgMinSize < beAt buf lengthFieldOff 2 ∨
      beAt buf lengthFieldOff 2 % 2 = 1) := by
    have hrest := h.rest_nonneg
    have heven := h.even
    rw [mngRest] at hrest
    omega
  refine ⟨(log.look actionFieldOff 1).look mngMsgSize tlvSizeHdr, rfl, ?_⟩
  rw [parseMng, h.action_eq]
  simp only [if_neg hroom, Bool.not_eq_eq_eq_not, Bool.not_true]
  rfl

theorem parseMng_unframed (h : ∀ actionField, ¬ MngFrame buf msgSize actionField) :
    (parseMng lib m buf msgSize log).1 = .action ∨
    (parseMng lib m buf msgSize log).1 = .tooSmall := by
  rw [parseMng]
  simp only
  split
  · exact .inl rfl
  · next actionField haction =>
      split
      · exact .inr rfl
      · next hroom =>
          refine absurd ⟨haction, ?_, ?_⟩ (h actionField)
          · rw [mngRest]
            omega
          · omega

end Frame

/-! ## Authentication TLVs -/

/-- The spp that the authentication TLV at `auth` names. -/
def sppAt (buf : Nat → UInt8) (auth : Nat) : UInt8 := buf (auth + 4)

/-- The key that the authentication TLV at `auth` names. -/
def keyIDAt (buf : Nat → UInt8) (auth : Nat) : UInt32 := UInt32.ofNat (beAt buf (auth + 6) 4)

/-- The HMAC key of an id of an spp. -/
def namedKey (sa : SaFile) (spp : UInt8) (keyID : UInt32) : HmacKey :=
  ⟨(sa.spp spp).htype keyID, (sa.spp spp).key keyID⟩

/-- What is asked of an authentication TLV at `auth` with an ICV of `len` octets. -/
structure Accepted (lib : HmacLib) (a : Auth) (buf : Nat → UInt8) (auth len : Nat) : Prop where
  haveKey : a.sa.haveKey (sppAt buf auth) (keyIDAt buf auth) = true
  secParam : buf (auth + 5) = 0
  even : len % 2 = 0
  two_le : 2 ≤ len
  le_own : len ≤ (a.sa.spp (sppAt buf auth)).macSize a.keyID
  alloc : receiveKey lib a (sppAt buf auth) (keyIDAt buf auth)
    = some (namedKey a.sa (sppAt buf auth) (keyIDAt buf auth))
  icv : (namedKey a.sa (sppAt buf auth) (keyIDAt buf auth)).digest lib
    (slice buf 0 (auth + authTlvSize)) len = some (slice buf (auth + authTlvSize) len)

/-- The key in use and a new one are both the key that is named. -/
theorem receiveKey_eq {lib : HmacLib} {a : Auth} {spp : UInt8} {keyID : UInt32} {hmac : HmacKey}
    (h : receiveKey lib a spp keyID = some hmac) : hmac = namedKey a.sa spp keyID := by
  rw [receiveKey] at h
  split at h
  · next heq =>
      obtain ⟨rfl, rfl⟩ := heq
      rw [← Option.some.inj h]
      exact a.hmac_eq
  · rw [hmacAllocHMAC] at h
    split at h
    · exact (Option.some.inj h).symm
    · exact absurd h (by simp)

/-- A library that sets up every key gives the key that is named. -/
theorem receiveKey_of_works {lib : HmacLib} (hlib : lib.Works) {a : Auth} {spp : UInt8}
    {keyID : UInt32} : receiveKey lib a spp keyID = some (namedKey a.sa spp keyID) := by
  rw [receiveKey]
  split
  · next heq =>
      obtain ⟨rfl, rfl⟩ := heq
      rw [a.hmac_eq]
      rfl
  · rw [hmacAllocHMAC, if_pos (hlib.init _ _)]
    rfl

/-- The codes of `parseAuth`. -/
inductive AuthCode : MngParseError → Prop
  | ok : AuthCode .ok
  | auth : AuthCode .auth
  | authNone : AuthCode .authNone
  | authWrong : AuthCode .authWrong
  | authNokey : AuthCode .authNokey

section ParseAuth

variable {lib : HmacLib} {a : Auth} {buf : Nat → UInt8} {auth : Nat} {left : Int} {log : ParseLog}

theorem verifyIcv_code (spp : UInt8) (keyID : UInt32) (len : Nat) :
    AuthCode (verifyIcv lib a buf auth spp keyID len log).1 := by
  rw [verifyIcv]
  simp only
  split
  · exact .authWrong
  · split
    · exact .auth
    · split
      · exact .ok
      · exact .authWrong

theorem parseAuth_code (check : Bool) :
    AuthCode (parseAuth lib a buf auth left check log).1 := by
  rw [parseAuth]
  split
  · exact .authNone
  · cases check with
    | true =>
        simp only [Bool.true_and, if_true]
        split
        · exact .authNone
        · split
          · exact .authNokey
          · split
            · exact .auth
            · split
              · exact .auth
              · split
                · exact .auth
                · split
                  · exact .auth
                  · exact verifyIcv_code _ _ _
    | false =>
        simp only [Bool.false_and, Bool.false_eq_true, if_false]
        split
        · exact .authNokey
        · split
          · exact .auth
          · split
            · exact .auth
            · exact verifyIcv_code _ _ _

/-- The checks behind the key that is named. -/
theorem verifyIcv_ok_iff {len : Nat}
    (hkey : a.sa.haveKey (sppAt buf auth) (keyIDAt buf auth) = true) :
    (if buf (auth + 5) ≠ 0 then (MngParseError.auth, log)
      else if len % 2 = 1 ∨ len < 2 then (.auth, log)
      else verifyIcv lib a buf auth (sppAt buf auth) (keyIDAt buf auth) len log).1 = .ok ↔
      Accepted lib a buf auth len := by
  split
  · next hsec => exact iff_of_false (by simp) fun h => hsec h.secParam
  · next hsec =>
      split
      · next hlen =>
          refine iff_of_false (by simp) fun h => ?_
          have heven := h.even
          have htwo := h.two_le
          omega
      · next hlen =>
          rw [verifyIcv]
          split
          · next hlong => exact iff_of_false (by simp) fun h => absurd h.le_own (Nat.not_le.2 hlong)
          · next hle =>
              split
              · next hnone =>
                  refine iff_of_false (by simp) fun h => ?_
                  rw [h.alloc] at hnone
                  exact absurd hnone (by simp)
              · next hmac hsome =>
                  obtain rfl := receiveKey_eq hsome
                  simp only [HmacKey.verify_iff, length_slice]
                  split
                  · next hicv =>
                      exact iff_of_true rfl ⟨hkey, not_not.1 hsec, by omega, by omega,
                        Nat.not_lt.1 hle, hsome, hicv⟩
                  · next hicv => exact iff_of_false (by simp) fun h => hicv h.icv

/-- **The authentication TLVs that are accepted behind a management TLV.** -/
theorem parseAuth_ok_iff :
    (parseAuth lib a buf auth left true log).1 = .ok ↔
      (authTlvSize : Int) ≤ left ∧
      TlvType.ofVal (UInt16.ofNat (beAt buf auth 2)) = .authentication ∧
      ((beAt buf (auth + 2) 2 + tlvSizeHdr : Nat) : Int) ≤ left ∧
      authTlvSize ≤ beAt buf (auth + 2) 2 + tlvSizeHdr ∧
      Accepted lib a buf auth (beAt buf (auth + 2) 2 + tlvSizeHdr - authTlvSize) := by
  rw [parseAuth]
  split
  · next hleft => exact iff_of_false (by simp) fun h => absurd h.1 (Int.not_le.2 hleft)
  · next hleft =>
      simp only [Bool.true_and, if_true]
      split
      · next htype => exact iff_of_false (by simp) fun h => absurd h.2.1 (by simpa using htype)
      · next htype =>
          split
          · next hkey =>
              refine iff_of_false (by simp) fun h => ?_
              have hhave := h.2.2.2.2.haveKey
              rw [sppAt, keyIDAt] at hhave
              rw [hhave] at hkey
              exact absurd hkey (by simp)
          · next hkey =>
              rw [Bool.not_eq_true, Bool.not_eq_false'] at hkey
              split
              · next hlong =>
                  rw [decide_eq_true_eq] at hlong
                  exact iff_of_false (by simp) fun h => absurd h.2.2.1 (Int.not_le.2 hlong)
              · next hlong =>
                  rw [decide_eq_true_eq, not_lt] at hlong
                  split
                  · next hshort =>
                      rw [decide_eq_true_eq] at hshort
                      exact iff_of_false (by simp) fun h => absurd h.2.2.2.1 (Nat.not_le.2 hshort)
                  · next hshort =>
                      rw [decide_eq_true_eq, not_lt] at hshort
                      refine (verifyIcv_ok_iff hkey).trans ?_
                      simp only [bne_iff_ne, not_not] at htype
                      exact ⟨fun h => ⟨Int.not_lt.1 hleft, htype, hlong, hshort, h⟩,
                        fun h => h.2.2.2.2⟩

/-- **The authentication TLVs that are accepted in a signalling message.** -/
theorem parseAuth_sig_ok_iff :
    (parseAuth lib a buf auth left false log).1 = .ok ↔
      (authTlvSize : Int) ≤ left ∧ Accepted lib a buf auth (left.toNat - authTlvSize) := by
  rw [parseAuth]
  split
  · next hleft => exact iff_of_false (by simp) fun h => absurd h.1 (Int.not_le.2 hleft)
  · next hleft =>
      simp only [Bool.false_and, Bool.false_eq_true, if_false]
      split
      · next hkey =>
          refine iff_of_false (by simp) fun h => ?_
          have hhave := h.2.haveKey
          rw [sppAt, keyIDAt] at hhave
          rw [hhave] at hkey
          exact absurd hkey (by simp)
      · next hkey =>
          rw [Bool.not_eq_true, Bool.not_eq_false'] at hkey
          exact (verifyIcv_ok_iff hkey).trans (and_iff_right (Int.not_lt.1 hleft)).symm

end ParseAuth

end Message

end PtpMgmt
