import PtpMgmt.Message.Length
import PtpMgmt.Message.ParseProofs

set_option autoImplicit false

/-! # Authentication of management messages

What an accepted message proves about its sender, and whether what a sender signs is accepted. In both
the length of the ICV is where sender and receiver may differ: the sender takes the digest length of the
key it names, and the receiver takes any length up to the one of its own key. -/

namespace PtpMgmt

open Wire Codec

namespace Message

/-! ## Acceptance -/

/-- The management TLV is followed by an authentication TLV that names a key of the association, with
    the digest of all that precedes it, in the length configured for that key. -/
structure Authentic (lib : HmacLib) (sa : SaFile) (buf : Nat → UInt8) : Prop where
  type_eq : TlvType.ofVal (UInt16.ofNat (beAt buf (mngEnd buf) 2)) = .authentication
  haveKey : sa.haveKey (sppAt buf (mngEnd buf)) (keyIDAt buf (mngEnd buf)) = true
  length_eq : beAt buf (mngEnd buf + 2) 2 + tlvSizeHdr
    = authTlvSize + (sa.spp (sppAt buf (mngEnd buf))).macSize (keyIDAt buf (mngEnd buf))
  end_le : mngEnd buf + (beAt buf (mngEnd buf + 2) 2 + tlvSizeHdr) ≤ beAt buf messageLengthOff 2
  icv : (namedKey sa (sppAt buf (mngEnd buf)) (keyIDAt buf (mngEnd buf))).digest lib
      (slice buf 0 (mngEnd buf + authTlvSize))
      ((sa.spp (sppAt buf (mngEnd buf))).macSize (keyIDAt buf (mngEnd buf)))
    = some (slice buf (mngEnd buf + authTlvSize)
      ((sa.spp (sppAt buf (mngEnd buf))).macSize (keyIDAt buf (mngEnd buf))))

/-- An accepted message passed the check of its authentication TLV. -/
theorem parseMng_auth {lib : HmacLib} {m : Message} {a : Auth} {buf : Nat → UInt8} {msgSize : Nat}
    {log : ParseLog} (hauth : m.auth = some a) (hrcv : m.prms.rcvAuthHas rcvAuthMng = true)
    (hignore : m.prms.rcvAuthHas rcvAuthIgnore = false)
    (hcode : (parseMng lib m buf msgSize log).1 = .ok ∨ (parseMng lib m buf msgSize log).1 = .msg) :
    ∃ log', (parseAuth lib a buf (mngEnd buf) (mngRest buf msgSize) true log').1 = .ok := by
  by_cases hframe : ∃ actionField, MngFrame buf msgSize actionField
  case neg =>
      rcases parseMng_unframed lib m log (not_exists.1 hframe) with h | h
      all_goals
        rw [h] at hcode
        exact absurd hcode (by simp)
  case pos =>
      obtain ⟨actionField, hframe⟩ := hframe
      obtain ⟨log', -, heq⟩ := parseMng_framed lib m log hframe
      have hcheck : parseMngAuth lib m buf (mngEnd buf) (mngRest buf msgSize) log'
          = parseAuth lib a buf (mngEnd buf) (mngRest buf msgSize) true log' := by
        simp only [parseMngAuth, hauth, hrcv, if_true]
      refine ⟨log', ?_⟩
      by_contra hne
      rw [heq, hcheck, if_pos ⟨hne, hignore⟩] at hcode
      refine hcode.elim hne fun hmsg => ?_
      have hauthCode : AuthCode .msg := hmsg ▸ parseAuth_code true
      cases hauthCode

/-- The ICV has the length that is configured for the key it is said to be made with. -/
def FullIcv (sa : SaFile) (buf : Nat → UInt8) : Prop :=
  beAt buf (mngEnd buf + 2) 2 + tlvSizeHdr
    = authTlvSize + (sa.spp (sppAt buf (mngEnd buf))).macSize (keyIDAt buf (mngEnd buf))

theorem authentic_of_fullIcv {lib : HmacLib} {a : Auth} {buf : Nat → UInt8} {log : ParseLog}
    (hok : (parseAuth lib a buf (mngEnd buf) (mngRest buf (beAt buf messageLengthOff 2)) true log).1
      = .ok) (hfull : FullIcv a.sa buf) : Authentic lib a.sa buf := by
  obtain ⟨-, htype, hle, hmin, h⟩ := parseAuth_ok_iff.1 hok
  have hlen : beAt buf (mngEnd buf + 2) 2 + tlvSizeHdr - authTlvSize
      = (a.sa.spp (sppAt buf (mngEnd buf))).macSize (keyIDAt buf (mngEnd buf)) := by
    rw [hfull, Nat.add_sub_cancel_left]
  constructor
  case type_eq => exact htype
  case haveKey => exact h.haveKey
  case length_eq => exact hfull
  case end_le =>
      have hend : (mngEnd buf : Int) + mngRest buf (beAt buf messageLengthOff 2)
          = beAt buf messageLengthOff 2 := by
        simp only [mngEnd, mngRest, mngTlvOff]
        push_cast
        omega
      omega
  case icv =>
      rw [← hlen]
      exact h.icv

/-- Every spp with a key of the id in use has digests of two octets only, the shortest there are. -/
def ShortDigests (a : Auth) : Prop :=
  ∀ spp, (a.sa.spp spp).haveKey a.keyID = true →
    ∀ keyID, (a.sa.spp spp).haveKey keyID = true → (a.sa.spp spp).macSize keyID = 2

/-- What is accepted under two-octet digests cannot be cut shorter. -/
theorem Accepted.length_eq {lib : HmacLib} {a : Auth} {buf : Nat → UInt8} {auth len : Nat}
    (h : Accepted lib a buf auth len) (hshort : ShortDigests a) :
    len = (a.sa.spp (sppAt buf auth)).macSize (keyIDAt buf auth) := by
  have hown : (a.sa.spp (sppAt buf auth)).haveKey a.keyID = true :=
    Spp.haveKey_of_macSize_pos (Nat.lt_of_lt_of_le (by decide) (h.two_le.trans h.le_own))
  have hkey := h.haveKey
  rw [SaFile.haveKey_eq] at hkey
  have htwo := hshort _ hown _ hown
  have hle := h.le_own
  have hge := h.two_le
  rw [hshort _ hown _ hkey]
  omega

theorem fullIcv_of_shortDigests {lib : HmacLib} {a : Auth} {buf : Nat → UInt8} {left : Int}
    {log : ParseLog} (hok : (parseAuth lib a buf (mngEnd buf) left true log).1 = .ok)
    (hshort : ShortDigests a) : FullIcv a.sa buf := by
  obtain ⟨-, -, -, hmin, h⟩ := parseAuth_ok_iff.1 hok
  have hlen := h.length_eq hshort
  rw [FullIcv]
  omega

/-- A management message is accepted only with an authentication TLV that passed its check. -/
theorem parse_auth {lib : HmacLib} {m : Message} {a : Auth} {buf : Nat → UInt8} {bufSize : Int}
    (hauth : m.auth = some a) (hrcv : m.prms.rcvAuthHas rcvAuthMng = true)
    (hignore : m.prms.rcvAuthHas rcvAuthIgnore = false)
    (htype : buf 0 &&& 0xf = MsgType.management)
    (hcode : (m.parse lib buf bufSize).1 = .ok ∨ (m.parse lib buf bufSize).1 = .msg) :
    ∃ log, (parseAuth lib a buf (mngEnd buf) (mngRest buf (beAt buf messageLengthOff 2)) true log).1
      = .ok := by
  by_cases hmng : MngHeader buf bufSize
  · obtain ⟨hdr, hparse⟩ := parse_management lib m hmng
    rw [hparse] at hcode
    exact parseMng_auth (m := { m with hdr }) hauth hrcv hignore hcode
  · have hsig : ¬ SigHeader m.prms buf bufSize := fun h => by
      have hboth := h.type_eq.symm.trans htype
      exact absurd hboth (by decide)
    rcases parse_refused lib m hsig hmng with h | h
    all_goals
      rw [h] at hcode
      exact absurd hcode (by simp)

/-! ### A reply without data, with an ICV of two octets -/

/-- The octets of the reply in front of the key that its authentication TLV names. -/
def nullReplyHead : List UInt8 :=
  [0x0d, 0x02, 0, 66, 0, 0, 0, 0] ++ List.replicate 8 0 ++ List.replicate 4 0 ++
  List.replicate 10 0 ++ [0, 0, 0x04, 0x7f] ++ List.replicate 10 0 ++ [0, 0, 0x02, 0] ++
  [0, 0x01, 0, 2, 0, 0] ++ [0x80, 0x09, 0, 8]

/-- The octets of the reply in front of the ICV. -/
def nullReply (spp : UInt8) (keyID : UInt32) : List UInt8 :=
  nullReplyHead ++ ([spp, 0] ++ beOctets 4 keyID.toNat)

/-- The reply as it is received. -/
def nullReplyBuf (spp : UInt8) (keyID : UInt32) (icv : List UInt8) : Nat → UInt8 :=
  ofList (nullReply spp keyID ++ icv)

section NullReply

variable (spp : UInt8) (keyID : UInt32) (icv : List UInt8)

theorem beAt_nullReplyBuf {off n : Nat} (h : off + n ≤ 58) :
    beAt (nullReplyBuf spp keyID icv) off n = ofBe ((nullReplyHead.drop off).take n) := by
  rw [beAt, nullReplyBuf, nullReply, List.append_assoc, slice_ofList _ _ h]

theorem nullReply_messageLength : beAt (nullReplyBuf spp keyID icv) messageLengthOff 2 = 66 := by
  rw [beAt_nullReplyBuf _ _ _ (by decide)]
  decide

theorem nullReply_lengthField : beAt (nullReplyBuf spp keyID icv) lengthFieldOff 2 = 2 := by
  rw [beAt_nullReplyBuf _ _ _ (by decide)]
  decide

theorem nullReply_mngEnd : mngEnd (nullReplyBuf spp keyID icv) = 54 := by
  rw [mngEnd, nullReply_lengthField]
  rfl

theorem nullReply_mngRest : mngRest (nullReplyBuf spp keyID icv) 66 = 12 := by
  rw [mngRest, nullReply_lengthField]
  rfl

theorem nullReply_type : nullReplyBuf spp keyID icv 0 &&& 0xf = MsgType.management := by
  rw [show nullReplyBuf spp keyID icv 0 = 0x0d from rfl]
  decide

theorem nullReply_header : MngHeader (nullReplyBuf spp keyID icv) 66 where
  base_le := by decide
  length_le := by rw [nullReply_messageLength]; decide
  type_eq := nullReply_type spp keyID icv
  min_le := by rw [nullReply_messageLength]; decide
  header := by
    refine ⟨?_, rfl⟩
    rw [show nullReplyBuf spp keyID icv 1 = 0x02 from rfl]
    decide

theorem nullReply_frame : MngFrame (nullReplyBuf spp keyID icv) 66 .response where
  action_eq := by
    rw [show nullReplyBuf spp keyID icv actionFieldOff = 0x02 from rfl]
    decide
  rest_nonneg := by rw [nullReply_mngRest]; decide
  even := by rw [nullReply_lengthField]

theorem sppAt_nullReply : sppAt (nullReplyBuf spp keyID icv) 54 = spp := rfl

theorem keyIDAt_nullReply : keyIDAt (nullReplyBuf spp keyID icv) 54 = keyID := by
  have hslice : slice (nullReplyBuf spp keyID icv) 60 4 = beOctets 4 keyID.toNat := rfl
  have hlt : keyID.toNat < 256 ^ 4 := keyID.toNat_lt
  rw [keyIDAt, show 54 + 6 = 60 from rfl, beAt_of_slice hslice, Nat.mod_eq_of_lt hlt,
    UInt32.ofNat_toNat]

theorem nullReply_management : mngTlvType (nullReplyBuf spp keyID icv) = .management := by
  rw [mngTlvType, beAt_nullReplyBuf _ _ _ (by decide)]
  decide

theorem nullReply_authentication :
    TlvType.ofVal (UInt16.ofNat (beAt (nullReplyBuf spp keyID icv) 54 2)) = .authentication := by
  rw [beAt_nullReplyBuf _ _ _ (by decide)]
  decide

theorem nullReply_authLength : beAt (nullReplyBuf spp keyID icv) (54 + 2) 2 = 8 := by
  rw [beAt_nullReplyBuf _ _ _ (by decide)]
  decide

theorem nullReply_findTlvId (spec : ImplementSpecific) :
    findTlvId (UInt16.ofNat (beAt (nullReplyBuf spp keyID icv) mngTlvOff 2)) spec
      = some .nullPtpManagement := by
  rw [beAt_nullReplyBuf _ _ _ (by decide)]
  cases spec <;> decide

/-- The reply is a good one for every message, authentication apart. -/
theorem parseMngTlv_nullReply (m : Message) (errAuth : MngParseError) (log : ParseLog) :
    (parseMngTlv m (nullReplyBuf spp keyID icv) .management .response 2 errAuth log).1 = errAuth := by
  simp only [parseMngTlv, parseManagement]
  rw [if_neg (by decide), if_neg (by decide)]
  simp only [nullReply_findTlvId]
  rw [if_neg (by decide), if_pos (by decide)]

end NullReply

/-- A digest cut to two octets is accepted under every key whose spp has a key of the id in use. -/
theorem nullReply_accepted {lib : HmacLib} (hlib : lib.Works) {a : Auth} {spp : UInt8}
    {keyID : UInt32} {icv : List UInt8} (hown : (a.sa.spp spp).haveKey a.keyID = true)
    (hkey : (a.sa.spp spp).haveKey keyID = true)
    (hicv : (namedKey a.sa spp keyID).digest lib (nullReply spp keyID) 2 = some icv) :
    Accepted lib a (nullReplyBuf spp keyID icv) 54 2 := by
  have hlen : icv.length = 2 := HmacKey.length_of_digest hicv (by decide)
  constructor
  case haveKey => rw [sppAt_nullReply, keyIDAt_nullReply, SaFile.haveKey_eq, hkey]
  case secParam => rfl
  case even => rfl
  case two_le => exact le_rfl
  case le_own => exact Spp.two_le_macSize hown
  case alloc => exact receiveKey_of_works hlib
  case icv =>
      have hhead : slice (nullReplyBuf spp keyID icv) 0 64 = nullReply spp keyID := by
        rw [nullReplyBuf, slice_ofList _ _ (by simp [nullReply, nullReplyHead])]
        rfl
      have htail := slice_ofList_right (nullReply spp keyID) icv
      rw [hlen] at htail
      rw [sppAt_nullReply, keyIDAt_nullReply, show 54 + authTlvSize = 64 from rfl, hhead, hicv]
      exact congrArg some htail.symm

/-- Such a reply is accepted as a whole. -/
theorem parse_nullReply {lib : HmacLib} {m : Message} {a : Auth} (hauth : m.auth = some a)
    (hrcv : m.prms.rcvAuthHas rcvAuthMng = true) {spp : UInt8} {keyID : UInt32} {icv : List UInt8}
    (h : Accepted lib a (nullReplyBuf spp keyID icv) 54 2) :
    (m.parse lib (nullReplyBuf spp keyID icv) 66).1 = .ok := by
  obtain ⟨hdr, hparse⟩ := parse_management lib m (nullReply_header spp keyID icv)
  obtain ⟨log', -, hmng⟩ := parseMng_framed lib { m with hdr } headerLog (nullReply_frame spp keyID icv)
  have hok : (parseAuth lib a (nullReplyBuf spp keyID icv) 54 12 true log').1 = .ok := by
    refine parseAuth_ok_iff.2 ⟨by decide, nullReply_authentication _ _ _, ?_, ?_, ?_⟩
    · rw [nullReply_authLength]
      decide
    · rw [nullReply_authLength]
      decide
    · rw [nullReply_authLength]
      exact h
  have hcheck : parseMngAuth lib { m with hdr } (nullReplyBuf spp keyID icv)
      (mngEnd (nullReplyBuf spp keyID icv)) (mngRest (nullReplyBuf spp keyID icv) 66) log'
      = parseAuth lib a (nullReplyBuf spp keyID icv) 54 12 true log' := by
    rw [nullReply_mngEnd, nullReply_mngRest]
    simp only [parseMngAuth, hauth, hrcv, if_true]
  rw [hparse, nullReply_messageLength, hmng, hcheck, if_neg (fun hne => hne.1 hok),
    nullReply_management, mngLength, nullReply_lengthField, parseMngTlv_nullReply, hok]

/-- **When an accepted message is authentic**: exactly when its ICV has the full length of the key that
    it names. For every message that is received this is so exactly when all digests that the key in use
    lets in have two octets, so that none can be cut shorter. -/
theorem parse_authentic_iff (lib : HmacLib) (hlib : lib.Works) (m : Message) (a : Auth)
    (hauth : m.auth = some a) (hrcv : m.prms.rcvAuthHas rcvAuthMng = true)
    (hignore : m.prms.rcvAuthHas rcvAuthIgnore = false) :
    (∀ (buf : Nat → UInt8) (bufSize : Int), buf 0 &&& 0xf = MsgType.management →
      ((m.parse lib buf bufSize).1 = .ok ∨ (m.parse lib buf bufSize).1 = .msg) →
      (Authentic lib a.sa buf ↔ FullIcv a.sa buf)) ∧
    ((∀ (buf : Nat → UInt8) (bufSize : Int), buf 0 &&& 0xf = MsgType.management →
      ((m.parse lib buf bufSize).1 = .ok ∨ (m.parse lib buf bufSize).1 = .msg) →
      Authentic lib a.sa buf) ↔ ShortDigests a) := by
  refine ⟨?_, ?_, ?_⟩
  · intro buf bufSize htype hcode
    obtain ⟨log, hok⟩ := parse_auth hauth hrcv hignore htype hcode
    exact ⟨fun h => h.length_eq, authentic_of_fullIcv hok⟩
  · intro h spp hown keyID hkey
    -- the first two octets of the digest of a reply, which no key refuses
    obtain ⟨icv, hicv⟩ := hlib.computes.digest (namedKey a.sa spp keyID) (nullReply spp keyID)
      (show 2 ≤ 32 by decide)
    have hok := parse_nullReply hauth hrcv (nullReply_accepted hlib hown hkey hicv)
    have hlen := (h _ 66 (nullReply_type _ _ _) (.inl hok)).length_eq
    rw [nullReply_mngEnd, nullReply_authLength, sppAt_nullReply, keyIDAt_nullReply] at hlen
    simp only [tlvSizeHdr, authTlvSize] at hlen
    omega
  · intro hshort buf bufSize htype hcode
    obtain ⟨log, hok⟩ := parse_auth hauth hrcv hignore htype hcode
    exact authentic_of_fullIcv hok (fullIcv_of_shortDigests hok hshort)

/-! ### An association with two keys of different digests -/

/-- The keys of the spp: a digest of 16 octets under the id 1, and of 32 under the id 2. -/
def sampleSpp : Spp where
  keys id :=
    if id = 1 then some ⟨.sha256, [1, 2, 3, 4, 5, 6, 7, 8, 9, 10, 11, 12, 13, 14, 15, 16], 16,
      by decide⟩
    else if id = 2 then some ⟨.sha256, [17, 18, 19, 20, 21, 22, 23, 24, 25, 26, 27, 28, 29, 30, 31,
      32], 32, by decide⟩
    else none
  keys_zero := by decide

def sampleSa : SaFile where
  spps id := if id = 1 then some sampleSpp else none

/-- A library that computes one digest. -/
def digestLib (digest : List UInt8) : HmacLib where
  init _ _ := true
  mac _ _ _ := some (Octets.ofList _ digest)

theorem digestLib_works (digest : List UInt8) : (digestLib digest).Works :=
  ⟨fun _ _ => rfl, fun _ _ _ => rfl⟩

/-- Authentication with a key of the association. -/
def sampleAuth (keyID : UInt32) (h : sampleSa.haveKey 1 keyID = true) : Auth where
  sa := sampleSa
  sppID := 1
  keyID
  hmac := namedKey sampleSa 1 keyID
  haveKey := h
  hmac_eq := rfl

/-- A message that uses a key of the association. -/
def sampleMessage (lib : HmacLib) (keyID : UInt32) : Message :=
  ((init .init).useAuth lib sampleSa 1 keyID).2

/-- The HMAC-SHA256 of the reply under the key 1. -/
def nullReplyDigest : List UInt8 :=
  [0x2b, 0x5d, 0x0c, 0xb7, 0xfc, 0xdc, 0x1d, 0x17, 0x8c, 0x08, 0x60, 0xc1, 0xee, 0xbd, 0x65, 0xa1,
   0x78, 0xa5, 0xd5, 0x40, 0x7b, 0x3d, 0x4b, 0xeb, 0xb0, 0x43, 0x55, 0x5e, 0x54, 0x61, 0x93, 0x95]

/-- The receiver of the reply. -/
def nullReplyReceiver : Message := sampleMessage (digestLib nullReplyDigest) 1

/-- Two octets of a digest of 16 are accepted. -/
theorem parse_not_authentic :
    nullReplyReceiver.prms.rcvAuthHas rcvAuthMng = true ∧
    nullReplyReceiver.prms.rcvAuthHas rcvAuthIgnore = false ∧
    (nullReplyReceiver.parse (digestLib nullReplyDigest) (nullReplyBuf 1 1 [0x2b, 0x5d]) 66).1
      = .ok ∧
    ¬ Authentic (digestLib nullReplyDigest) sampleSa (nullReplyBuf 1 1 [0x2b, 0x5d]) := by
  refine ⟨by decide, by decide, parse_nullReply (a := sampleAuth 1 rfl) rfl (by decide) ?_, ?_⟩
  · exact nullReply_accepted (a := sampleAuth 1 rfl) (digestLib_works _) rfl rfl rfl
  · intro h
    have hlen := h.length_eq
    rw [nullReply_mngEnd, nullReply_authLength, sppAt_nullReply, keyIDAt_nullReply] at hlen
    exact absurd hlen (by decide)

theorem parse_authentic_iff_nullReply :
    (Authentic (digestLib nullReplyDigest) sampleSa (nullReplyBuf 1 1 [0x2b, 0x5d]) ↔
      FullIcv sampleSa (nullReplyBuf 1 1 [0x2b, 0x5d])) ∧
    ¬ ∀ (buf : Nat → UInt8) (bufSize : Int), buf 0 &&& 0xf = MsgType.management →
      ((nullReplyReceiver.parse (digestLib nullReplyDigest) buf bufSize).1 = .ok ∨
        (nullReplyReceiver.parse (digestLib nullReplyDigest) buf bufSize).1 = .msg) →
      Authentic (digestLib nullReplyDigest) sampleSa buf := by
  have hok : (nullReplyReceiver.parse (digestLib nullReplyDigest)
      (nullReplyBuf 1 1 [0x2b, 0x5d]) 66).1 = .ok :=
    parse_nullReply (a := sampleAuth 1 rfl) rfl (by decide)
      (nullReply_accepted (digestLib_works _) rfl rfl rfl)
  obtain ⟨hone, hall⟩ := parse_authentic_iff (digestLib nullReplyDigest) (digestLib_works _)
    nullReplyReceiver (sampleAuth 1 rfl) rfl (by decide) (by decide)
  refine ⟨hone _ 66 (nullReply_type _ _ _) (.inl hok), hall.not.2 fun hshort => ?_⟩
  exact absurd (hshort 1 rfl 1 rfl) (by decide)

/-! ## Agreement of sender and receiver -/

/-- The authentication TLV of a build, field by field. -/
structure AuthTlvAt (buf : Nat → UInt8) (auth : Nat) (a : Auth) : Prop where
  type_eq : beAt buf auth 2 = 0x8009
  length_eq : beAt buf (auth + 2) 2 + tlvSizeHdr = authTlvSize + a.macSize
  spp_eq : sppAt buf auth = a.sppID
  secParam : buf (auth + 5) = 0
  keyID_eq : keyIDAt buf auth = a.keyID

theorem authTlvAt_of_slice {buf : Nat → UInt8} {auth : Nat} {a : Auth}
    (h : slice buf auth authTlvSize = authTlvOctets a a.macSize) : AuthTlvAt buf auth a := by
  have hmac : a.macSize ≤ 32 := (a.sa.spp a.sppID).macSize_le a.keyID
  rw [← length_authTlvOctets a a.macSize, authTlvOctets, List.append_assoc, List.append_assoc] at h
  obtain ⟨htype, h⟩ := slice_eq_append h
  obtain ⟨hlen, h⟩ := slice_eq_append h
  obtain ⟨hspp, hkey⟩ := slice_eq_append h
  simp only [length_beOctets, List.length_cons, List.length_nil] at htype hlen hspp hkey
  have hpair : buf (auth + 4) = a.sppID ∧ buf (auth + 5) = 0 := by
    simpa [slice, List.range'] using hspp
  constructor
  case type_eq => exact beAt_of_slice htype
  case length_eq =>
      rw [beAt_of_slice hlen]
      simp only [authTlvSize, tlvSizeHdr]
      omega
  case spp_eq => exact hpair.1
  case secParam => exact hpair.2
  case keyID_eq =>
      have hlt : a.keyID.toNat < 256 ^ 4 := a.keyID.toNat_lt
      have hat : beAt buf (auth + 6) 4 = a.keyID.toNat := by
        rw [beAt_of_slice hkey, Nat.mod_eq_of_lt hlt]
      rw [keyIDAt, hat, UInt32.ofNat_toNat]

/-- What a receiver asks of the TLV of a sender that uses the same spp. -/
theorem AuthTlvAt.accepted_iff {lib : HmacLib} (hlib : lib.Works) {a b : Auth}
    {buf : Nat → UInt8} {auth : Nat} (h : AuthTlvAt buf auth a) (hsa : b.sa = a.sa)
    (hspp : b.sppID = a.sppID)
    (hicv : a.hmac.digest lib (slice buf 0 (auth + authTlvSize)) a.macSize
      = some (slice buf (auth + authTlvSize) a.macSize)) :
    Accepted lib b buf auth a.macSize ↔ a.macSize ≤ b.macSize := by
  have hown : (b.sa.spp (sppAt buf auth)).macSize b.keyID = b.macSize := by
    rw [h.spp_eq, ← hspp]
    rfl
  constructor
  · intro hacc
    rw [← hown]
    exact hacc.le_own
  · intro hle
    have hnamed : namedKey b.sa (sppAt buf auth) (keyIDAt buf auth) = a.hmac := by
      rw [h.spp_eq, h.keyID_eq, hsa, a.hmac_eq]
      rfl
    have hhave : b.sa.haveKey (sppAt buf auth) (keyIDAt buf auth) = true := by
      rw [h.spp_eq, h.keyID_eq, hsa]
      exact a.haveKey
    constructor
    case haveKey => exact hhave
    case secParam => exact h.secParam
    case even => exact Spp.macSize_even _ _
    case two_le => exact Spp.two_le_macSize ((SaFile.haveKey_eq _ _ _).symm.trans a.haveKey)
    case le_own => rw [hown]; exact hle
    case alloc => exact receiveKey_of_works hlib
    case icv => rw [hnamed, hicv]

/-- The authentication TLV of a message as it is built, read by a receiver with the same spp. -/
theorem Built.parseAuth_iff {lib : HmacLib} (hlib : lib.Works) {m : Message} {a b : Auth}
    (ha : m.auth = some a) (hsend : m.prms.sendAuth = true) (hsa : b.sa = a.sa)
    (hspp : b.sppID = a.sppID) {w : List UInt8} {buf : Nat → UInt8} (h : Built lib m w buf)
    (check : Bool) (log : ParseLog) :
    (parseAuth lib b buf (mngMsgBaseSize + w.length) m.addAuth check log).1 = .ok ↔
      a.macSize ≤ b.macSize := by
  have htlv := authTlvAt_of_slice (h.authTlv a ha hsend)
  have hacc := htlv.accepted_iff hlib hsa hspp (h.icv a ha hsend)
  rw [addAuth_of_auth ha hsend]
  cases check with
  | true =>
      rw [parseAuth_ok_iff, htlv.type_eq, htlv.length_eq, Nat.add_sub_cancel_left, hacc]
      refine ⟨fun h => h.2.2.2.2, fun h => ⟨?_, by decide, le_rfl, Nat.le_add_right _ _, h⟩⟩
      exact_mod_cast Nat.le_add_right _ _
  | false =>
      rw [parseAuth_sig_ok_iff, Int.toNat_natCast, Nat.add_sub_cancel_left, hacc]
      exact and_iff_right (by exact_mod_cast Nat.le_add_right _ _)

/-- **When a receiver accepts what a sender signed** with another key of the same spp: exactly when the
    digest of the sender's key is not longer than the one of the receiver's. -/
theorem parseAuth_build_iff (lib : HmacLib) (hlib : lib.Works) (m : Message) (a b : Auth)
    (ha : m.auth = some a) (hsend : m.prms.sendAuth = true) (hsa : b.sa = a.sa)
    (hspp : b.sppID = a.sppID) (mem : Nat → UInt8) (bufSize : Nat) (sequence : UInt16)
    (hok : (m.build lib mem bufSize sequence).1 = .ok) (check : Bool) (log : ParseLog) :
    (parseAuth lib b (m.build lib mem bufSize sequence).2.2.mem
      ((m.build lib mem bufSize sequence).2.1.msgLen - m.addAuth) m.addAuth check log).1 = .ok ↔
      a.macSize ≤ b.macSize := by
  obtain ⟨w, hlen, hbuilt⟩ := built_of_build hok
  rw [hlen, Nat.add_sub_cancel]
  exact hbuilt.parseAuth_iff hlib ha hsend hsa hspp check log

/-- The HMAC-SHA256 under the key 2 of a GET of NULL_PTP_MANAGEMENT with the sequence 7. -/
def longDigest : List UInt8 :=
  [0x85, 0x01, 0x30, 0x60, 0x33, 0x63, 0xb9, 0x59, 0xc4, 0x14, 0x34, 0x89, 0x9c, 0x0f, 0xd2, 0xec,
   0xad, 0x4d, 0xe0, 0x42, 0x05, 0x6e, 0x70, 0x75, 0xf0, 0x5d, 0x97, 0xd4, 0x18, 0x1d, 0x24, 0xfa]

/-- The HMAC-SHA256 of the same message under the key 1. -/
def shortDigest : List UInt8 :=
  [0x43, 0x44, 0xd6, 0x8c, 0xa4, 0x35, 0xa7, 0xb0, 0x2d, 0x32, 0xe9, 0x00, 0x2b, 0x86, 0x2d, 0x7b,
   0x9b, 0xea, 0x8c, 0x41, 0x62, 0x74, 0xfa, 0xed, 0x2b, 0xeb, 0xa4, 0xc0, 0x6d, 0xe1, 0xaf, 0x6c]

/-- A message that signs with the key 2 and is to be sent. -/
def longSender : Message := sampleMessage (digestLib longDigest) 2

/-- A message that signs with the key 1 and is to be sent. -/
def shortSender : Message := sampleMessage (digestLib shortDigest) 1

theorem longSender_build :
    (longSender.build (digestLib longDigest) (fun _ => 0) 96 7).1 = .ok := by
  have hw : DataOctets longSender [] := dataOctets_nil rfl (by decide)
  exact (build_of_room (digestLib_works _).computes hw rfl rfl _ 7 (by decide)).1

theorem shortSender_build :
    (shortSender.build (digestLib shortDigest) (fun _ => 0) 80 7).1 = .ok := by
  have hw : DataOctets shortSender [] := dataOctets_nil rfl (by decide)
  exact (build_of_room (digestLib_works _).computes hw rfl rfl _ 7 (by decide)).1

/-- The receiver that uses the key 1 refuses the digest of 32 octets of the key 2. -/
theorem longSender_refused :
    (longSender.build (digestLib longDigest) (fun _ => 0) 96 7).1 = .ok ∧
    (parseAuth (digestLib longDigest) (sampleAuth 1 rfl)
      (longSender.build (digestLib longDigest) (fun _ => 0) 96 7).2.2.mem
      ((longSender.build (digestLib longDigest) (fun _ => 0) 96 7).2.1.msgLen - longSender.addAuth)
      longSender.addAuth true .init).1 ≠ .ok := by
  obtain ⟨w, hlen, hbuilt⟩ := built_of_build longSender_build
  have hiff := hbuilt.parseAuth_iff (a := sampleAuth 2 rfl) (b := sampleAuth 1 rfl)
    (digestLib_works _) rfl (by decide) rfl rfl true .init
  refine ⟨longSender_build, fun hok => ?_⟩
  rw [hlen, Nat.add_sub_cancel, hiff] at hok
  exact absurd hok (by decide)

theorem parseAuth_build_iff_shortSender :
    (parseAuth (digestLib shortDigest) (sampleAuth 2 rfl)
      (shortSender.build (digestLib shortDigest) (fun _ => 0) 80 7).2.2.mem
      ((shortSender.build (digestLib shortDigest) (fun _ => 0) 80 7).2.1.msgLen
        - shortSender.addAuth)
      shortSender.addAuth true .init).1 = .ok := by
  refine (parseAuth_build_iff (digestLib shortDigest) (digestLib_works _) shortSender
    (sampleAuth 1 rfl) (sampleAuth 2 rfl) rfl (by decide) rfl rfl _ 80 7 shortSender_build true
    .init).2 (by decide)

end Message

end PtpMgmt
