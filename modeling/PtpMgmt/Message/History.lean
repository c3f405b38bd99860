import PtpMgmt.Message.Deleted
import PtpMgmt.Message.Run

set_option autoImplicit false

/-! # What one message leaves for the next

One `Message` object parses one message after the other, and the getters report what the last one held.
What a message holds is set by the parse, but the data is only set when there is some, and so is the text
of an error. Then the getters report what an earlier message left. And data for an id without a codec
function leaves a pointer that was never assigned, which a later message has deleted. -/

namespace PtpMgmt

open Wire Codec

namespace Message

/-! ## The signalling TLVs that are read -/

/-- The offsets where the loop over the signalling TLVs reads a header: behind a TLV, but inside of an
    authentication TLV. -/
def visits (buf : Nat → UInt8) : Nat → Nat → Int → List Nat
  | 0, _, _ => []
  | fuel + 1, cur, left =>
    if left < tlvSizeHdr then []
    else cur :: visits buf fuel
      (if tlvTypeAt buf cur = .authentication then cur + tlvSizeHdr
        else cur + tlvSizeHdr + lengthAt buf cur)
      (left - (tlvSizeHdr + lengthAt buf cur : Nat))

/-- The offsets of a message of `msgSize` octets. -/
def sigVisits (buf : Nat → UInt8) (msgSize : Nat) : List Nat :=
  visits buf ((msgSize : Int) - sigBaseSize).toNat sigBaseSize ((msgSize : Int) - sigBaseSize)

theorem sigLoop_visits {lib : HmacLib} {prms : MsgParams} {auth : Option Auth} {buf : Nat → UInt8}
    {fuel : Nat} {s s' : SigState} (h : sigLoop lib prms auth buf fuel s = (none, s')) :
    s'.tlvs = s.tlvs ++ (visits buf fuel s.cur s.leftAll).filterMap (sigTlvAt prms buf) := by
  induction fuel generalizing s with
  | zero =>
      rw [sigLoop] at h
      split at h <;> cases h <;> simp [visits]
  | succ fuel ih =>
      rw [sigLoop] at h
      split at h
      · next hleft =>
          cases h
          simp [visits, hleft]
      · next hleft =>
          have hnonneg : 0 ≤ s.leftAll := by
            simp only [tlvSizeHdr] at hleft
            omega
          obtain ⟨s'', hstep, hpassed⟩ | ⟨err, hstep, -⟩ := sigStep_cases hnonneg
          · rw [hstep] at h
            rw [ih h, visits, if_neg hleft, hpassed.tlvs, hpassed.next_cur, hpassed.leftAll, List.append_assoc,
              List.filterMap_cons]
            cases sigTlvAt prms buf s.cur <;> rfl
          · split at h
            · cases h
            · next he =>
                rw [he] at hstep
                cases hstep

/-- A management TLV with data for an id that no codec function reads. -/
def WildAt (prms : MsgParams) (buf : Nat → UInt8) (t : Nat) : Prop :=
  tlvTypeAt buf t = .management ∧ filtered prms buf t = false ∧ 2 < lengthAt buf t ∧
    ∃ id, findTlvId (UInt16.ofNat (beAt buf (t + tlvSizeHdr) 2)) prms.implementSpecific = some id ∧
      (mngAllVals id).func = .na

end Message

/-- The same TLV for who looks at it. What a pointer that was never set points to is not the same as
    anything. -/
def TlvPtr.Same : TlvPtr → TlvPtr → Prop
  | .null, .null => True
  | .obj a, .obj b => a = b
  | _, _ => False

def BaseSigTlv.Same : BaseSigTlv → BaseSigTlv → Prop
  | .management a, .management b => a.managementId = b.managementId ∧ a.tlvData.Same b.tlvData
  | a, b => a = b

theorem TlvPtr.same_self (p : TlvPtr) : p.Same p ↔ p ≠ .wild := by
  cases p <;> simp [Same]

theorem TlvPtr.same_null (p : TlvPtr) : p.Same .null ↔ p = .null := by
  cases p <;> simp [Same]

theorem BaseSigTlv.same_self (tlv : BaseSigTlv) : tlv.Same tlv ↔ tlv.Assigned := by
  cases tlv <;> simp [Same, Assigned, TlvPtr.same_self]

namespace Message

/-- Data that was read is data of the id, when there is a codec function for it. -/
theorem callTlvData_wild {id : MngId} {mp : MsgProc} (hb : mp.build = false)
    (h : (callTlvData id .wild mp).1 = .ok) :
    (callTlvData id .wild mp).2.1 = .wild ↔ (mngAllVals id).func = .na := by
  by_cases hna : (mngAllVals id).func = .na
  · rw [callTlvData_na _ _ hna]
    exact iff_of_true rfl hna
  · have hfault := ((tlvF id default).advances mp.fresh).err
      (show IsFault MngParseError.tooSmall by decide)
    rw [callTlvData_parse _ hna hb] at h ⊢
    rcases hrun : (tlvF id default).run mp.fresh with ⟨_ | t, mp'⟩
    · rw [hrun] at h hfault
      exact absurd h hfault.1
    · exact iff_of_false (by simp) hna

theorem caseBuild_assigned {α : Type} [Inhabited α] {f : α → Proc α} {mk : α → BaseSigTlv}
    {mp : MsgProc} {tlv : BaseSigTlv} (h : (caseBuild f mk mp).1 = .ok (some tlv))
    (hmk : ∀ a, (mk a).Assigned) : tlv.Assigned := by
  rw [caseBuild] at h
  split at h
  · cases h
  · cases h
    exact hmk _

theorem sigErrorStatus_assigned {spec : ImplementSpecific} {buf : Nat → UInt8} {mp : MsgProc}
    {tlv : BaseSigTlv} (h : (sigErrorStatus spec buf mp).1 = .ok (some tlv)) : tlv.Assigned := by
  rw [sigErrorStatus] at h
  split at h
  · cases h
  · simp only at h
    split at h
    · cases h
    · split at h
      · cases h
      · cases h
        trivial

theorem sigTlv_assigned {spec : ImplementSpecific} {buf : Nat → UInt8} {tlvType : TlvType}
    {mp : MsgProc} {tlv : BaseSigTlv} (hne : tlvType ≠ .management)
    (h : (sigTlv spec buf tlvType mp).1 = .ok (some tlv)) : tlv.Assigned := by
  cases tlvType
  case management => exact absurd rfl hne
  case managementErrorStatus => exact sigErrorStatus_assigned h
  case slaveDelayTimingDataNp =>
      simp only [sigTlv] at h
      split at h
      · exact caseBuild_assigned h fun _ => trivial
      · cases h
  all_goals first
    | exact caseBuild_assigned h fun _ => trivial
    | cases h

theorem sigManagement_assigned {spec : ImplementSpecific} {buf : Nat → UInt8} {start length : Nat}
    {tlv : BaseSigTlv}
    (h : (sigManagement spec buf (.parseAt buf start length)).1 = .ok (some tlv)) :
    2 < length ∧ ∃ id, findTlvId (UInt16.ofNat (beAt buf start 2)) spec = some id ∧
      (tlv.Assigned ↔ (mngAllVals id).func ≠ .na) := by
  rw [sigManagement] at h
  split at h
  · cases h
  · simp only at h
    split at h
    · cases h
    · next id hfound =>
        split at h
        · next hleft =>
            have hlong : 2 < length := by
              simp only [MsgProc.peek, MsgProc.parseAt_left] at hleft
              omega
            refine ⟨hlong, id, hfound, ?_⟩
            split at h
            · next he =>
                have hiff := callTlvData_wild rfl (congrArg Prod.fst he)
                rw [he] at hiff
                cases h
                exact hiff.not
            · cases h
        · cases h

/-- The TLVs of the list whose pointer was set. -/
theorem sigTlvAt_assigned {prms : MsgParams} {buf : Nat → UInt8} {t : Nat} {x : TlvType × BaseSigTlv}
    (h : sigTlvAt prms buf t = some x) : x.2.Assigned ↔ ¬ WildAt prms buf t := by
  rw [sigTlvAt] at h
  split at h
  · cases h
  · next hgo =>
      rw [not_or, Bool.not_eq_true] at hgo
      split at h
      · next tlv hown =>
          obtain ⟨y, rfl, rfl⟩ := Option.map_eq_some_iff.1 h
          rw [ownTlv] at hown
          by_cases htype : tlvTypeAt buf t = .management
          · rw [htype] at hown
            obtain ⟨hlong, id, hfound, hiff⟩ := sigManagement_assigned hown
            rw [hiff, not_iff_not]
            constructor
            · exact fun hna => ⟨htype, hgo.2, hlong, id, hfound, hna⟩
            · rintro ⟨-, -, -, id', hfound', hna⟩
              rw [hfound] at hfound'
              cases hfound'
              exact hna
          · exact iff_of_true (sigTlv_assigned htype hown) fun hwild => htype hwild.1
      · cases h

theorem sigTlvAt_of_wild {prms : MsgParams} {buf : Nat → UInt8} {t : Nat} (h : WildAt prms buf t) :
    ∃ x, sigTlvAt prms buf t = some x := by
  obtain ⟨htype, hfilter, hlong, id, hfound, hna⟩ := h
  have hown : ownTlv prms.implementSpecific buf t
      = .ok (some (.management { managementId := id, tlvData := .wild })) := by
    rw [ownTlv, htype]
    show (sigManagement _ _ _).1 = _
    rw [sigManagement, if_neg (by simp only [MsgProc.parseAt_left]; omega)]
    simp only [MsgProc.parseAt_cur, hfound, callTlvData_na _ _ hna]
    rw [if_pos (by simp only [MsgProc.peek, MsgProc.parseAt_left]; omega)]
  rw [sigTlvAt, if_neg (by simp [htype, hfilter]), hown]
  exact ⟨_, rfl⟩

/-! ## Reports -/

/-- The object after it parsed one buffer after the other. -/
def parseAll (lib : HmacLib) (m : Message) (bufs : List ((Nat → UInt8) × Int)) : Message :=
  bufs.foldl (fun m b => (m.parse lib b.1 b.2).2.1) m

theorem parseAll_keeps (lib : HmacLib) (m : Message) (bufs : List ((Nat → UInt8) × Int)) :
    Keeps m (parseAll lib m bufs) := by
  induction bufs generalizing m with
  | nil => exact .refl m
  | cons b bufs ih => exact (parse_keeps lib m b.1 b.2).trans (ih _)

/-- No message has a pointer deleted that was never assigned. -/
def Defined (lib : HmacLib) (m : Message) (bufs : List ((Nat → UInt8) × Int)) : Prop :=
  ∀ pre b post, bufs = pre ++ b :: post →
    ((parseAll lib m pre).parse lib b.1 b.2).2.2.freesWild = false

theorem defined_iff (lib : HmacLib) (m : Message) (bufs : List ((Nat → UInt8) × Int)) :
    Defined lib m bufs ↔ ∀ pre b post, bufs = pre ++ b :: post →
      ¬ DeletesWild lib (parseAll lib m pre) b.1 b.2 := by
  simp only [Defined, ← parse_freesWild_iff, Bool.not_eq_true]

/-- The getters for a message with this code report the same. -/
def SameReport (code : MngParseError) (m m' : Message) : Prop :=
  match code with
  | .ok => m.getTlvId = m'.getTlvId ∧ m.getData.Same m'.getData
  | .msg => m.getTlvId = m'.getTlvId ∧ m.getErrId = m'.getErrId ∧
      m.getErrDisplay = m'.getErrDisplay
  | .sig => List.Forall₂ (fun x y => x.1 = y.1 ∧ x.2.Same y.2) m.traversSigTlvs m'.traversSigTlvs
  | _ => True

/-- The message brings all that it reports: data behind its id, which has a codec function, the text of
    its error. What it does not bring was not there before. -/
def Settled (m : Message) (buf : Nat → UInt8) : Prop :=
  if buf 0 &&& 0xf = MsgType.signaling then
    ∀ t ∈ sigVisits buf (beAt buf messageLengthOff 2), ¬ WildAt m.prms buf t
  else if mngTlvType buf = .managementErrorStatus then
    mngLength buf ≤ managementErrorTlvSize + 1 → m.getErrDisplay = []
  else if mngLength buf = lengthFieldMngBase then m.getData = .null
  else ∀ id, replyId buf m.prms.implementSpecific = some id → (mngAllVals id).func ≠ .na

/-- The object has not parsed a message. -/
structure Unparsed (m : Message) : Prop where
  data : m.dataGet = .null
  display : m.errorDisplay = default

theorem call_sets (lib : HmacLib) (m : Message) (c : Call) :
    ∃ prms sendAction dataSend tlvId auth,
      m.call lib c = { m with prms, sendAction, dataSend, tlvId, auth } := by
  cases c with
  | updateParams prms =>
      simp only [Message.call, Message.updateParams]
      split <;> exact ⟨_, _, _, _, _, rfl⟩
  | setAction action tlvId dataSend =>
      obtain hsame | ⟨id, -, ⟨d, -, -, heq⟩ | ⟨-, heq⟩⟩ := setAction_cases m action tlvId dataSend
      all_goals simp only [Message.call]
      · rw [hsame]
        exact ⟨_, _, _, _, _, rfl⟩
      · rw [heq]
        exact ⟨_, _, _, _, _, rfl⟩
      · rw [heq]
        exact ⟨_, _, _, _, _, rfl⟩
  | clearData =>
      simp only [Message.call, Message.clearData]
      split <;> exact ⟨_, _, _, _, _, rfl⟩
  | useAuth sa sppID keyID =>
      obtain ⟨auth, heq⟩ := selectKey_send lib m sa sppID keyID
      simp only [Message.call, Message.useAuth, heq]
      exact ⟨_, _, _, _, _, rfl⟩
  | changeAuth sppID keyID =>
      simp only [Message.call, Message.changeAuth]
      split
      · exact ⟨_, _, _, _, _, rfl⟩
      · next a _ =>
          obtain ⟨auth, heq⟩ := selectKey_send lib m a.sa sppID keyID
          rw [heq]
          exact ⟨_, _, _, _, _, rfl⟩
  | changeAuthKey keyID =>
      simp only [Message.call, Message.changeAuthKey]
      split
      · exact ⟨_, _, _, _, _, rfl⟩
      · next a _ =>
          obtain ⟨auth, heq⟩ := selectKey_send lib m a.sa a.sppID keyID
          rw [heq]
          exact ⟨_, _, _, _, _, rfl⟩
  | disableAuth => exact ⟨_, _, _, _, _, rfl⟩

/-- The calls that set a message up for sending do not parse. -/
theorem Reachable.unparsed {lib : HmacLib} {m : Message} (h : Reachable lib m) : Unparsed m := by
  induction h with
  | init prms => exact ⟨rfl, rfl⟩
  | @call m c _ ih =>
      obtain ⟨_, _, _, _, _, heq⟩ := call_sets lib m c
      rw [heq]
      exact ⟨ih.data, ih.display⟩

theorem Reachable.owned {lib : HmacLib} {m : Message} (h : Reachable lib m) : m.Owned := by
  induction h with
  | init prms => exact ⟨fun hdata => (by cases hdata), fun x hx => (by cases hx)⟩
  | @call m c _ ih =>
      obtain ⟨_, _, _, _, _, heq⟩ := call_sets lib m c
      rw [heq]
      exact ⟨ih.data, ih.tlvs⟩

theorem forall₂_same_self (l : List (TlvType × BaseSigTlv)) :
    List.Forall₂ (fun x y => x.1 = y.1 ∧ x.2.Same y.2) l l ↔ ∀ x ∈ l, x.2.Assigned := by
  rw [List.forall₂_same]
  simp only [true_and, BaseSigTlv.same_self]

/-- A management message has no code of a signalling message. -/
theorem parse_mng_ne_sig {lib : HmacLib} {m : Message} {buf : Nat → UInt8} {bufSize : Int}
    (h : MngHeader buf bufSize) : (m.parse lib buf bufSize).1 ≠ .sig := by
  obtain ⟨hdr, hparse⟩ := parse_management lib m h
  rw [hparse]
  by_cases hframe : ∃ actionField, MngFrame buf (beAt buf messageLengthOff 2) actionField
  case neg =>
      rcases parseMng_unframed lib { m with hdr } headerLog (not_exists.1 hframe) with h | h
      all_goals
        rw [h]
        decide
  case pos =>
      obtain ⟨actionField, hframe⟩ := hframe
      obtain ⟨log, -, heq⟩ := parseMng_framed lib { m with hdr } headerLog hframe
      have hauth : AuthCode (parseMngAuth lib { m with hdr } buf (mngEnd buf)
        (mngRest buf (beAt buf messageLengthOff 2)) log).1 := parseMngAuth_code
      rw [heq]
      split
      · exact ne_of_code hauth.ok_or_fault (by decide) (by decide)
      · exact parseMngTlv_ne_sig hauth

section Report

variable {lib : HmacLib} {m m₀ : Message} {buf : Nat → UInt8} {bufSize : Int}

theorem parse_reply_iff (hprms : m.prms = m₀.prms) (hauth : m.auth = m₀.auth)
    (hfits : m.errorDisplay.Fits) (hm₀ : Unparsed m₀) (hcode : (m.parse lib buf bufSize).1 = .ok) :
    (m₀.parse lib buf bufSize).1 = .ok ∧
      (SameReport .ok (m.parse lib buf bufSize).2.1 (m₀.parse lib buf bufSize).2.1 ↔
        Settled m buf) := by
  obtain ⟨actionField, hacc, hgood⟩ := accepted_of_code hfits (.inl hcode)
  rw [hcode] at hgood
  cases hgood with
  | @reply id htype hgood =>
      obtain ⟨-, hid, hdata⟩ := parse_reply hacc htype hgood
      obtain ⟨hcode₀, hid₀, hdata₀⟩ := parse_reply (m := m₀) (hprms ▸ hauth ▸ hacc) htype
        (hprms ▸ hgood)
      have hsig : ¬ (buf 0 &&& 0xf) = MsgType.signaling := by
        rw [hacc.header.type_eq]
        decide
      have hreply : ¬ mngTlvType buf = .managementErrorStatus := by
        rw [htype]
        decide
      refine ⟨hcode₀, ?_⟩
      rw [Settled, if_neg hsig, if_neg hreply]
      simp only [SameReport, getTlvId, getData, hid, hid₀, hdata, hdata₀, true_and]
      by_cases hempty : mngLength buf = lengthFieldMngBase
      · simp only [if_pos hempty]
        rw [hm₀.data, TlvPtr.same_null]
      · simp only [if_neg hempty]
        have hwild := callTlvData_wild rfl (hgood.decodes hempty)
        rw [TlvPtr.same_self]
        refine hwild.not.trans ⟨fun hcodec id' hfound => ?_, fun hcodec => hcodec id hgood.found⟩
        rw [hgood.found] at hfound
        cases hfound
        exact hcodec

theorem parse_error_iff (hprms : m.prms = m₀.prms) (hauth : m.auth = m₀.auth)
    (hfits : m.errorDisplay.Fits) (hm₀ : Unparsed m₀) (hcode : (m.parse lib buf bufSize).1 = .msg) :
    (m₀.parse lib buf bufSize).1 = .msg ∧
      (SameReport .msg (m.parse lib buf bufSize).2.1 (m₀.parse lib buf bufSize).2.1 ↔
        Settled m buf) := by
  obtain ⟨actionField, hacc, hgood⟩ := accepted_of_code hfits (.inr hcode)
  rw [hcode] at hgood
  cases hgood with
  | @error id htype hgood =>
      have hfits₀ : m₀.errorDisplay.Fits := by
        rw [hm₀.display]
        exact Nat.zero_le _
      obtain ⟨-, hid, herr, htext⟩ := parse_error hfits hacc htype hgood
      obtain ⟨hcode₀, hid₀, herr₀, htext₀⟩ := parse_error (m := m₀) hfits₀ (hprms ▸ hauth ▸ hacc)
        htype (hprms ▸ hgood)
      have hsig : ¬ (buf 0 &&& 0xf) = MsgType.signaling := by
        rw [hacc.header.type_eq]
        decide
      refine ⟨hcode₀, ?_⟩
      simp only [SameReport, getTlvId, getErrId, getErrDisplay, hid, hid₀, herr, herr₀, htext, htext₀,
        true_and]
      rw [Settled, if_neg hsig, if_pos htype]
      split
      · next hlong => exact iff_of_true rfl fun hshort => absurd hlong (Nat.not_lt.2 hshort)
      · next hshort =>
          rw [hm₀.display]
          exact ⟨fun heq _ => heq, fun h => h (Nat.not_lt.1 hshort)⟩

/-- Only parameters and authentication count for a signalling message. -/
theorem parseSig_congr (lib : HmacLib) {m m' : Message} (hprms : m.prms = m'.prms)
    (hauth : m.auth = m'.auth) (buf : Nat → UInt8) (leftAll : Int) (log : ParseLog) :
    (parseSig lib m buf leftAll log).1 = (parseSig lib m' buf leftAll log).1 ∧
    (parseSig lib m buf leftAll log).2.1.traversSigTlvs
      = (parseSig lib m' buf leftAll log).2.1.traversSigTlvs := by
  rw [parseSig, parseSig, hprms, hauth]
  split <;> exact ⟨rfl, rfl⟩

/-- The list after a signalling message. -/
theorem parseSig_list {msgSize : Nat} {log : ParseLog}
    (h : (parseSig lib m buf ((msgSize : Int) - sigBaseSize) log).1 = .sig) :
    (parseSig lib m buf ((msgSize : Int) - sigBaseSize) log).2.1.traversSigTlvs
      = (sigVisits buf msgSize).filterMap (sigTlvAt m.prms buf) := by
  rw [parseSig] at h ⊢
  split
  · next he =>
      rw [he] at h
      exact absurd h (sigLoop_fault he).2.2.1
  · next he => exact sigLoop_visits he

theorem parse_sig_iff (hprms : m.prms = m₀.prms) (hauth : m.auth = m₀.auth)
    (hcode : (m.parse lib buf bufSize).1 = .sig) :
    (m₀.parse lib buf bufSize).1 = .sig ∧
      (SameReport .sig (m.parse lib buf bufSize).2.1 (m₀.parse lib buf bufSize).2.1 ↔
        Settled m buf) := by
  by_cases hsig : SigHeader m.prms buf bufSize
  case neg =>
      by_cases hmng : MngHeader buf bufSize
      · exact absurd hcode (parse_mng_ne_sig hmng)
      · rcases parse_refused lib m hsig hmng with h | h
        all_goals
          rw [h] at hcode
          cases hcode
  case pos =>
      obtain ⟨hdr, hparse⟩ := parse_signaling lib m hsig
      obtain ⟨hdr₀, hparse₀⟩ := parse_signaling lib m₀ (hprms ▸ hsig)
      rw [hparse] at hcode
      have hboth : { m with hdr }.prms = { m₀ with hdr := hdr₀ }.prms ∧
          { m with hdr }.auth = { m₀ with hdr := hdr₀ }.auth := ⟨hprms, hauth⟩
      obtain ⟨hsame, hlist⟩ := parseSig_congr lib hboth.1 hboth.2 buf
        ((beAt buf messageLengthOff 2 : Int) - sigBaseSize) headerLog
      refine ⟨by rw [hparse₀, ← hsame, hcode], ?_⟩
      simp only [SameReport, hparse, hparse₀]
      rw [← hlist, forall₂_same_self, parseSig_list hcode, Settled, if_pos hsig.type_eq]
      constructor
      · intro h t ht hwild
        obtain ⟨x, hx⟩ := sigTlvAt_of_wild hwild
        exact (sigTlvAt_assigned hx).1 (h x (List.mem_filterMap.2 ⟨t, ht, hx⟩)) hwild
      · intro h x hx
        obtain ⟨t, ht, hx⟩ := List.mem_filterMap.1 hx
        exact (sigTlvAt_assigned hx).2 (h t ht)

end Report

/-- What is reported of the last message, whatever the run before it deleted. -/
theorem parseAll_report_last (lib : HmacLib) (m₀ : Message) (hm₀ : Reachable lib m₀)
    (bufs : List ((Nat → UInt8) × Int)) (buf : Nat → UInt8) (bufSize : Int)
    (hcode : ((parseAll lib m₀ bufs).parse lib buf bufSize).1 = .ok ∨
      ((parseAll lib m₀ bufs).parse lib buf bufSize).1 = .msg ∨
      ((parseAll lib m₀ bufs).parse lib buf bufSize).1 = .sig) :
    (((parseAll lib m₀ bufs).parse lib buf bufSize).1 = (m₀.parse lib buf bufSize).1 ∧
      SameReport ((parseAll lib m₀ bufs).parse lib buf bufSize).1
        ((parseAll lib m₀ bufs).parse lib buf bufSize).2.1 (m₀.parse lib buf bufSize).2.1) ↔
      Settled (parseAll lib m₀ bufs) buf := by
  have hkeeps := parseAll_keeps lib m₀ bufs
  have hfits : (parseAll lib m₀ bufs).errorDisplay.Fits := hkeeps.shown (by
    rw [hm₀.unparsed.display]
    exact Nat.zero_le _)
  rcases hcode with hcode | hcode | hcode
  · obtain ⟨hcode₀, hiff⟩ := parse_reply_iff hkeeps.prms hkeeps.auth hfits hm₀.unparsed hcode
    rw [hcode, hcode₀]
    exact (and_iff_right rfl).trans hiff
  · obtain ⟨hcode₀, hiff⟩ := parse_error_iff hkeeps.prms hkeeps.auth hfits hm₀.unparsed hcode
    rw [hcode, hcode₀]
    exact (and_iff_right rfl).trans hiff
  · obtain ⟨hcode₀, hiff⟩ := parse_sig_iff hkeeps.prms hkeeps.auth hcode
    rw [hcode, hcode₀]
    exact (and_iff_right rfl).trans hiff

/-- **When the getters report the last message and nothing else**, for every run of parses from every
    object that is set up: exactly when no message deletes a pointer that was never assigned, and the last
    one brings what is reported, or nothing was there before. -/
theorem parseAll_report_iff (lib : HmacLib) (m₀ : Message) (hm₀ : Reachable lib m₀)
    (bufs : List ((Nat → UInt8) × Int)) (buf : Nat → UInt8) (bufSize : Int)
    (hcode : ((parseAll lib m₀ bufs).parse lib buf bufSize).1 = .ok ∨
      ((parseAll lib m₀ bufs).parse lib buf bufSize).1 = .msg ∨
      ((parseAll lib m₀ bufs).parse lib buf bufSize).1 = .sig) :
    (Defined lib m₀ (bufs ++ [(buf, bufSize)]) ∧
      ((parseAll lib m₀ bufs).parse lib buf bufSize).1 = (m₀.parse lib buf bufSize).1 ∧
      SameReport ((parseAll lib m₀ bufs).parse lib buf bufSize).1
        ((parseAll lib m₀ bufs).parse lib buf bufSize).2.1 (m₀.parse lib buf bufSize).2.1) ↔
      (∀ pre b post, bufs ++ [(buf, bufSize)] = pre ++ b :: post →
        ¬ DeletesWild lib (parseAll lib m₀ pre) b.1 b.2) ∧
      Settled (parseAll lib m₀ bufs) buf :=
  and_congr (defined_iff lib m₀ _) (parseAll_report_last lib m₀ hm₀ bufs buf bufSize hcode)

/-! ### A reply without data behind a reply with data -/

/-- A RESPONSE in front of its data. -/
def responseHead (messageLength lengthField idHigh idLow : UInt8) : List UInt8 :=
  [0x0d, 0x02, 0, messageLength, 0, 0, 0, 0] ++ List.replicate 8 0 ++ List.replicate 4 0 ++
  List.replicate 10 0 ++ [0, 0, 0x04, 0x7f] ++ List.replicate 10 0 ++ [0, 0, 0x02, 0] ++
  [0, 0x01, 0, lengthField, idHigh, idLow]

/-- The PRIORITY1 of a clock. -/
def priority1Reply (priority1 : UInt8) : Nat → UInt8 :=
  ofList (responseHead 56 4 0x20 0x05 ++ [priority1, 0])

/-- A DEFAULT_DATA_SET without data. -/
def emptyReply : Nat → UInt8 := ofList (responseHead 54 2 0x20 0x00)

section Replies

variable (v : UInt8)

theorem beAt_priority1Reply {off n : Nat} (h : off + n ≤ 54) :
    beAt (priority1Reply v) off n = ofBe (((responseHead 56 4 0x20 0x05).drop off).take n) := by
  rw [beAt, priority1Reply, slice_ofList _ _ h]

theorem priority1Reply_messageLength : beAt (priority1Reply v) messageLengthOff 2 = 56 := by
  rw [beAt_priority1Reply _ (by decide)]
  decide

theorem priority1Reply_length : mngLength (priority1Reply v) = 4 := by
  rw [mngLength, beAt_priority1Reply _ (by decide)]
  decide

theorem priority1Reply_accepted :
    MngAccepted zeroLib MsgParams.init none (priority1Reply v) 56 .response where
  header :=
    { base_le := by decide
      length_le := by rw [priority1Reply_messageLength]; decide
      type_eq := by rw [show priority1Reply v 0 = 0x0d from rfl]; decide
      min_le := by rw [priority1Reply_messageLength]; decide
      header := ⟨by rw [show priority1Reply v 1 = 0x02 from rfl]; decide, rfl⟩ }
  frame :=
    { action_eq := by rw [show priority1Reply v actionFieldOff = 0x02 from rfl]; decide
      rest_nonneg := by
        rw [mngRest, priority1Reply_messageLength, ← mngLength, priority1Reply_length]
        decide
      even := by rw [← mngLength, priority1Reply_length] }
  auth := fun a ha => by cases ha

theorem priority1Reply_type : mngTlvType (priority1Reply v) = .management := by
  rw [mngTlvType, beAt_priority1Reply _ (by decide)]
  decide

theorem priority1Reply_good : GoodReply .linuxptp (priority1Reply v) .response .priority1 where
  action := .inl rfl
  min_le := by rw [priority1Reply_length]; decide
  found := by
    rw [replyId, beAt_priority1Reply _ (by decide)]
    decide
  allowed := by decide
  decodes _ := by
    rw [readTlv, priority1Reply_length]
    rfl

end Replies

theorem emptyReply_accepted : MngAccepted zeroLib MsgParams.init none emptyReply 54 .response where
  header := ⟨by decide, by decide, by decide, by decide, by decide, by decide⟩
  frame := ⟨by decide, by decide, by decide⟩
  auth := fun a ha => by cases ha

theorem emptyReply_good : GoodReply .linuxptp emptyReply .response .defaultDataSet :=
  ⟨.inl rfl, by decide, by decide, by decide, fun h => absurd (by decide) h⟩

/-- An object that parsed a PRIORITY1. -/
def afterPriority1 : Message := parseAll zeroLib (init .init) [(priority1Reply 7, 56)]

theorem afterPriority1_keeps : Keeps (init .init) afterPriority1 := parseAll_keeps _ _ _

theorem afterPriority1_data : ∃ d, afterPriority1.getData = .obj (.tlv .priority1 d) := by
  have hdata := (parse_reply (m := init .init) (priority1Reply_accepted 7) (priority1Reply_type 7)
    (priority1Reply_good 7)).2.2
  rw [if_neg (by rw [priority1Reply_length]; decide), readTlv, priority1Reply_length] at hdata
  exact ⟨_, hdata⟩

/-- The PRIORITY1 of the first reply is reported as the data of the second, a DEFAULT_DATA_SET. -/
theorem emptyReply_not_settled :
    (afterPriority1.parse zeroLib emptyReply 54).1 = .ok ∧
    (afterPriority1.parse zeroLib emptyReply 54).2.1.getTlvId = .mng .defaultDataSet ∧
    (∃ d, (afterPriority1.parse zeroLib emptyReply 54).2.1.getData = .obj (.tlv .priority1 d)) ∧
    ((init .init).parse zeroLib emptyReply 54).2.1.getData = .null ∧
    ¬ SameReport .ok (afterPriority1.parse zeroLib emptyReply 54).2.1
      ((init .init).parse zeroLib emptyReply 54).2.1 := by
  obtain ⟨d, hd⟩ := afterPriority1_data
  have hacc : MngAccepted zeroLib afterPriority1.prms afterPriority1.auth emptyReply 54 .response := by
    rw [afterPriority1_keeps.prms, afterPriority1_keeps.auth]
    exact emptyReply_accepted
  have hgood : GoodReply afterPriority1.prms.implementSpecific emptyReply .response
      .defaultDataSet := by
    rw [afterPriority1_keeps.prms]
    exact emptyReply_good
  obtain ⟨hcode, hid, hdata⟩ := parse_reply hacc (by decide) hgood
  obtain ⟨-, -, hdata₀⟩ := parse_reply (m := init .init) emptyReply_accepted (by decide)
    emptyReply_good
  rw [if_pos (by decide)] at hdata hdata₀
  refine ⟨hcode, hid, ⟨d, hdata.trans hd⟩, hdata₀, fun hsame => ?_⟩
  have hbad := hsame.2
  rw [getData, getData, hdata, hdata₀, show afterPriority1.dataGet = _ from hd] at hbad
  exact hbad

theorem afterPriority1_owned : afterPriority1.Owned where
  data := by
    obtain ⟨d, hd⟩ := afterPriority1_data
    rw [show afterPriority1.dataGet = _ from hd]
    exact TlvPtr.noConfusion
  tlvs := by
    rw [show afterPriority1.sigTlvs = [] from rfl]
    exact fun x hx => by cases hx

/-- One PRIORITY1 behind another. -/
theorem parseAll_report_iff_priority1 :
    Defined zeroLib (init .init) [(priority1Reply 7, 56), (priority1Reply 9, 56)] ∧
      ((parseAll zeroLib (init .init) [(priority1Reply 7, 56)]).parse zeroLib (priority1Reply 9) 56).1
        = ((init .init).parse zeroLib (priority1Reply 9) 56).1 ∧
      SameReport
        ((parseAll zeroLib (init .init) [(priority1Reply 7, 56)]).parse zeroLib (priority1Reply 9) 56).1
        ((parseAll zeroLib (init .init) [(priority1Reply 7, 56)]).parse zeroLib (priority1Reply 9)
          56).2.1
        ((init .init).parse zeroLib (priority1Reply 9) 56).2.1 := by
  have hacc : MngAccepted zeroLib afterPriority1.prms afterPriority1.auth (priority1Reply 9) 56
      .response := by
    rw [afterPriority1_keeps.prms, afterPriority1_keeps.auth]
    exact priority1Reply_accepted 9
  have hgood : GoodReply afterPriority1.prms.implementSpecific (priority1Reply 9) .response
      .priority1 := by
    rw [afterPriority1_keeps.prms]
    exact priority1Reply_good 9
  refine (parseAll_report_iff zeroLib (init .init) (.init _) [(priority1Reply 7, 56)]
    (priority1Reply 9) 56 (.inl (parse_reply hacc (priority1Reply_type 9) hgood).1)).2 ⟨?_, ?_⟩
  · intro pre b post hsplit
    refine Owned.not_deletesWild ?_ b.1 b.2
    rcases pre with _ | ⟨b₁, _ | ⟨b₂, pre⟩⟩
    · exact (@Reachable.init zeroLib .init).owned
    · obtain ⟨rfl, -⟩ := List.cons_eq_cons.1 hsplit
      exact afterPriority1_owned
    · exact absurd (congrArg List.length hsplit) (by simp)
  rw [Settled, if_neg (by rw [show priority1Reply 9 0 = 0x0d from rfl]; decide),
    if_neg (by rw [priority1Reply_type]; decide), if_neg (by rw [priority1Reply_length]; decide)]
  intro id hfound
  rw [show parseAll zeroLib (init .init) [(priority1Reply 7, 56)] = afterPriority1 from rfl,
    hgood.found] at hfound
  cases hfound
  decide

end Message

end PtpMgmt
