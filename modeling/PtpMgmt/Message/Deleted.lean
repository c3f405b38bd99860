import PtpMgmt.Message.Replies
import PtpMgmt.Message.Signaling

set_option autoImplicit false

/-! # What a parse deletes

The data of the last reply and the TLVs of the last signalling message are deleted when a message brings
others. A pointer that was never assigned goes the same way, and nothing can be said of what the source
does from there on. -/

namespace PtpMgmt

open Wire Codec

/-- The pointer of the TLV was set. -/
def BaseSigTlv.Assigned : BaseSigTlv → Prop
  | .management d => d.tlvData ≠ .wild
  | _ => True

theorem TlvPtr.isWild_iff (p : TlvPtr) : p.isWild = true ↔ p = .wild := by
  cases p <;> simp [isWild]

theorem BaseSigTlv.isWild_iff (tlv : BaseSigTlv) : tlv.isWild = true ↔ ¬ tlv.Assigned := by
  cases tlv <;> simp [isWild, Assigned, TlvPtr.isWild_iff]

namespace Message

/-- Every pointer that the object owns was set. -/
structure Owned (m : Message) : Prop where
  data : m.dataGet ≠ .wild
  tlvs : ∀ x ∈ m.sigTlvs, x.2.Assigned

/-! ## When something is deleted -/

/-- The authentication TLV behind the management TLV is accepted. -/
structure VerifiesBehind (lib : HmacLib) (a : Auth) (buf : Nat → UInt8) (auth : Nat) (left : Int) :
    Prop where
  room : (authTlvSize : Int) ≤ left
  type_eq : tlvTypeAt buf auth = .authentication
  fits : ((lengthAt buf auth + tlvSizeHdr : Nat) : Int) ≤ left
  min_le : authTlvSize ≤ lengthAt buf auth + tlvSizeHdr
  accepted : Accepted lib a buf auth (lengthAt buf auth + tlvSizeHdr - authTlvSize)

/-- The management TLV brings data: a reply whose data is read, or the SMPTE TLV where it is asked for. -/
inductive BringsData (prms : MsgParams) (buf : Nat → UInt8) (actionField : ActionField) : Prop
  | reply {id : MngId} (htype : mngTlvType buf = .management)
      (hgood : GoodReply prms.implementSpecific buf actionField id)
      (hdata : mngLength buf ≠ lengthFieldMngBase) : BringsData prms buf actionField
  | smpte (htype : mngTlvType buf = .organizationExtension) (hrcv : prms.rcvSMPTEOrg = true)
      (haction : actionField = .command)
      (hreads : ((smpteOrganizationExtensionF default).run
        (MsgProc.parseAt buf mngTlvOff (mngLength buf))).1.isSome = true) :
      BringsData prms buf actionField

/-- The data of the message takes the place of that of the last one. -/
structure ReplacesData (lib : HmacLib) (prms : MsgParams) (auth : Option Auth) (buf : Nat → UInt8)
    (bufSize : Int) (actionField : ActionField) : Prop where
  header : MngHeader buf bufSize
  frame : MngFrame buf (beAt buf messageLengthOff 2) actionField
  verifies : ∀ a, auth = some a → prms.rcvAuthHas rcvAuthMng = true →
    prms.rcvAuthHas rcvAuthIgnore = false →
    VerifiesBehind lib a buf (mngEnd buf) (mngRest buf (beAt buf messageLengthOff 2))
  brings : BringsData prms buf actionField

/-- The message has a pointer deleted that was never assigned: that of the data, or one of a TLV in the
    list of the last signalling message. -/
def DeletesWild (lib : HmacLib) (m : Message) (buf : Nat → UInt8) (bufSize : Int) : Prop :=
  m.dataGet = .wild ∧ (∃ actionField, ReplacesData lib m.prms m.auth buf bufSize actionField) ∨
  (∃ x ∈ m.sigTlvs, ¬ x.2.Assigned) ∧ SigHeader m.prms buf bufSize

theorem Owned.not_deletesWild {lib : HmacLib} {m : Message} (h : m.Owned) (buf : Nat → UInt8)
    (bufSize : Int) : ¬ DeletesWild lib m buf bufSize := by
  rintro (⟨hwild, -⟩ | ⟨⟨x, hx, hwild⟩, -⟩)
  · exact h.data hwild
  · exact hwild (h.tlvs x hx)

/-! ## What deletes nothing -/

section Keeps

variable {lib : HmacLib} {prms : MsgParams} {auth : Option Auth} {m : Message} {buf : Nat → UInt8}
  {log : ParseLog}

theorem verifyIcv_freesWild {a : Auth} {off len : Nat} {spp : UInt8} {keyID : UInt32} :
    (verifyIcv lib a buf off spp keyID len log).2.freesWild = log.freesWild := by
  rw [verifyIcv]
  split
  · rfl
  · split
    · rfl
    · simp only
      split <;> rfl

theorem parseAuth_freesWild {a : Auth} {off : Nat} {left : Int} {check : Bool} :
    (parseAuth lib a buf off left check log).2.freesWild = log.freesWild := by
  rw [parseAuth]
  simp only
  -- a check that refuses has only looked at octets; behind the last one is the check of the ICV
  repeat' split
  all_goals first
    | rfl
    | exact verifyIcv_freesWild

theorem sigStep_freesWild (s : SigState) :
    (sigStep lib prms auth buf s).2.log.freesWild = s.log.freesWild := by
  rw [sigStep]
  simp only
  split
  · rfl
  · split
    · cases auth with
      | none => rfl
      | some a =>
          simp only [sigAuth]
          split
          · split <;> exact parseAuth_freesWild
          · rfl
    · split
      · rfl
      · rw [sigDecode]
        split <;> rfl

theorem sigLoop_freesWild (fuel : Nat) (s : SigState) :
    (sigLoop lib prms auth buf fuel s).2.log.freesWild = s.log.freesWild := by
  induction fuel generalizing s with
  | zero =>
      rw [sigLoop]
      split <;> rfl
  | succ fuel ih =>
      have hstep := @sigStep_freesWild lib prms auth buf s
      rw [sigLoop]
      split
      · rfl
      · split
        · next he =>
            rw [he] at hstep
            exact hstep
        · next he =>
            rw [he] at hstep
            exact (ih _).trans hstep

theorem sigFinish_freesWild {s : SigState} :
    (sigFinish lib prms auth buf s).2.freesWild = s.log.freesWild := by
  cases auth with
  | none => rfl
  | some a =>
      simp only [sigFinish]
      split
      · split
        · rfl
        · split
          · split <;> exact parseAuth_freesWild
          · split <;> rfl
      · rfl

theorem parseErrorStatus_freesWild {actionField : ActionField} {tlvSize : Nat}
    {errAuth : MngParseError} :
    (parseErrorStatus m buf actionField tlvSize errAuth log).2.2.freesWild = log.freesWild := by
  rw [parseErrorStatus]
  split
  · rfl
  · simp only
    split
    · rfl
    · split
      · rfl
      · split
        · rfl
        · split <;> rfl

theorem parseMngAuth_freesWild {off : Nat} {left : Int} :
    (parseMngAuth lib m buf off left log).2.freesWild = log.freesWild := by
  rw [parseMngAuth]
  split
  · rfl
  · split
    · exact parseAuth_freesWild
    · rfl

end Keeps

/-! ## Management -/

section Reply

variable {lib : HmacLib} {m : Message} {buf : Nat → UInt8} {bufSize : Int} {actionField : ActionField}
  {errAuth : MngParseError} {log : ParseLog}

/-- Only a reply with data that is read deletes the old data. -/
theorem parseManagement_freesWild :
    (parseManagement m buf actionField (mngLength buf) errAuth log).2.2.freesWild = true ↔
      log.freesWild = true ∨ m.dataGet = .wild ∧ mngLength buf ≠ lengthFieldMngBase ∧
        ∃ id, GoodReply m.prms.implementSpecific buf actionField id := by
  have hkept : ∀ (log' : ParseLog), log'.freesWild = log.freesWild →
      (¬ (mngLength buf ≠ lengthFieldMngBase ∧
        ∃ id, GoodReply m.prms.implementSpecific buf actionField id)) →
      (log'.freesWild = true ↔ log.freesWild = true ∨ m.dataGet = .wild ∧
        mngLength buf ≠ lengthFieldMngBase ∧
        ∃ id, GoodReply m.prms.implementSpecific buf actionField id) := by
    intro log' hlog hno
    rw [hlog]
    exact (or_iff_left fun h => hno h.2).symm
  rw [parseManagement]
  split
  · next haction =>
      refine hkept _ rfl ?_
      rintro ⟨-, id, hgood⟩
      exact hgood.action.elim haction.1 haction.2
  · next haction =>
      simp only
      split
      · next hshort =>
          refine hkept _ rfl ?_
          rintro ⟨-, id, hgood⟩
          exact absurd hshort (Nat.not_lt.2 hgood.min_le)
      · next hmin =>
          split
          · next hnone =>
              refine hkept _ rfl ?_
              rintro ⟨-, id, hgood⟩
              have hfound := hgood.found
              rw [replyId, hnone] at hfound
              cases hfound
          · next id hfound =>
              have hid : ∀ id', GoodReply m.prms.implementSpecific buf actionField id' → id' = id := by
                intro id' hgood
                have hfound' := hgood.found
                rw [replyId, hfound] at hfound'
                exact (Option.some.inj hfound').symm
              split
              · next hrefused =>
                  refine hkept _ rfl ?_
                  rintro ⟨-, id', hgood⟩
                  have hallowed := hgood.allowed
                  rw [hid id' hgood] at hallowed
                  simp [hallowed] at hrefused
              · next hallowed =>
                  split
                  · next hempty => exact hkept _ rfl fun h => h.1 hempty
                  · next hdata =>
                      split
                      · next tlv mp he =>
                          -- the pointer takes the new data
                          have hgood : GoodReply m.prms.implementSpecific buf actionField id :=
                            ⟨by tauto, Nat.not_lt.1 hmin, hfound, by simpa using hallowed,
                              fun _ => congrArg Prod.fst he⟩
                          simp only [ParseLog.delete, ParseLog.decoder, Bool.or_eq_true, TlvPtr.isWild_iff]
                          exact or_congr_right (iff_self_and.2 fun _ => ⟨hdata, id, hgood⟩)
                      · next hne he =>
                          refine hkept _ rfl ?_
                          rintro ⟨-, id', hgood⟩
                          have hok := hgood.decodes hdata
                          rw [hid id' hgood, readTlv, he] at hok
                          exact hne hok

/-- Only an SMPTE TLV that is read deletes the old data. -/
theorem parseSMPTE_freesWild :
    (parseSMPTE m buf actionField (mngLength buf) errAuth log).2.2.freesWild = true ↔
      log.freesWild = true ∨ m.dataGet = .wild ∧ m.prms.rcvSMPTEOrg = true ∧ actionField = .command ∧
        ((smpteOrganizationExtensionF default).run
          (MsgProc.parseAt buf mngTlvOff (mngLength buf))).1.isSome = true := by
  rw [parseSMPTE]
  split
  · next hrcv =>
      exact (or_iff_left fun h => by simp [h.2.1] at hrcv).symm
  · next hrcv =>
      split
      · next haction => exact (or_iff_left fun h => haction h.2.2.1).symm
      · next haction =>
          simp only
          split
          · next he =>
              refine (or_iff_left fun h => ?_).symm
              rw [he] at h
              cases h.2.2.2
          · next he =>
              simp only [ParseLog.delete, ParseLog.decoder, Bool.or_eq_true, TlvPtr.isWild_iff, he]
              exact or_congr_right (iff_self_and.2 fun _ => ⟨by simpa using hrcv, not_not.1 haction, rfl⟩)

theorem parseMngTlv_freesWild :
    (parseMngTlv m buf (mngTlvType buf) actionField (mngLength buf) errAuth log).2.2.freesWild = true ↔
      log.freesWild = true ∨ m.dataGet = .wild ∧ BringsData m.prms buf actionField := by
  have hother : mngTlvType buf ≠ .management → mngTlvType buf ≠ .organizationExtension →
      ¬ BringsData m.prms buf actionField := by
    rintro hmng horg (⟨htype, -, -⟩ | ⟨htype, -, -, -⟩)
    · exact hmng htype
    · exact horg htype
  cases htype : mngTlvType buf
  case management =>
      rw [parseMngTlv, parseManagement_freesWild]
      refine or_congr_right (and_congr_right fun _ => Iff.intro ?_ ?_)
      · rintro ⟨hdata, id, hgood⟩
        exact .reply htype hgood hdata
      · rintro (⟨-, hgood, hdata⟩ | ⟨horg, -, -, -⟩)
        · exact ⟨hdata, _, hgood⟩
        · rw [htype] at horg
          cases horg
  case organizationExtension =>
      rw [parseMngTlv, parseSMPTE_freesWild]
      refine or_congr_right (and_congr_right fun _ => Iff.intro ?_ ?_)
      · rintro ⟨hrcv, haction, hreads⟩
        exact .smpte htype hrcv haction hreads
      · rintro (⟨hmng, -, -⟩ | ⟨-, hrcv, haction, hreads⟩)
        · rw [htype] at hmng
          cases hmng
        · exact ⟨hrcv, haction, hreads⟩
  case managementErrorStatus =>
      rw [parseMngTlv, parseErrorStatus_freesWild]
      exact (or_iff_left fun h => hother (by rw [htype]; decide) (by rw [htype]; decide) h.2).symm
  all_goals exact (or_iff_left fun h => hother (by simp [htype]) (by simp [htype]) h.2).symm

/-- The management TLV is reached: the authentication TLV behind it is accepted where that matters. -/
theorem parseMngAuth_passes_iff {auth : Nat} {left : Int} :
    ¬ ((parseMngAuth lib m buf auth left log).1 ≠ .ok ∧ m.prms.rcvAuthHas rcvAuthIgnore = false) ↔
      ∀ a, m.auth = some a → m.prms.rcvAuthHas rcvAuthMng = true →
        m.prms.rcvAuthHas rcvAuthIgnore = false → VerifiesBehind lib a buf auth left := by
  have hverifies : ∀ a log, (parseAuth lib a buf auth left true log).1 = .ok ↔
      VerifiesBehind lib a buf auth left := by
    intro a log
    rw [parseAuth_ok_iff]
    exact ⟨fun ⟨hroom, htype, hfits, hmin, hacc⟩ => ⟨hroom, htype, hfits, hmin, hacc⟩,
      fun ⟨hroom, htype, hfits, hmin, hacc⟩ => ⟨hroom, htype, hfits, hmin, hacc⟩⟩
  rw [parseMngAuth]
  cases hauth : m.auth with
  | none => simp
  | some a =>
      by_cases hmng : m.prms.rcvAuthHas rcvAuthMng = true
      · simp only [if_pos hmng, not_and, ne_eq]
        constructor
        · rintro hcode a' ⟨⟩ - hignore
          refine (hverifies a log).1 ?_
          by_contra hne
          exact hcode hne hignore
        · intro hall hne hignore
          exact hne ((hverifies a log).2 (hall a rfl hmng hignore))
      · simp [hmng]

/-- A management message behind its header. -/
theorem parseMng_freesWild (hlog : log.freesWild = false) (hdr : MngHeader buf bufSize) :
    (parseMng lib m buf (beAt buf messageLengthOff 2) log).2.2.freesWild = true ↔
      m.dataGet = .wild ∧ ∃ actionField, ReplacesData lib m.prms m.auth buf bufSize actionField := by
  by_cases hframe : ∃ actionField, MngFrame buf (beAt buf messageLengthOff 2) actionField
  case neg =>
      refine iff_of_false ?_ fun ⟨_, actionField, h⟩ => hframe ⟨actionField, h.frame⟩
      have hsame : (parseMng lib m buf (beAt buf messageLengthOff 2) log).2.2.freesWild
          = log.freesWild := by
        rw [parseMng]
        simp only
        split
        · rfl
        · next actionField haction =>
            split
            · rfl
            · next hroom =>
                refine absurd ⟨actionField, haction, ?_, ?_⟩ hframe
                · rw [mngRest]
                  omega
                · omega
      rw [hsame, hlog]
      decide
  case pos =>
      obtain ⟨actionField, hframe⟩ := hframe
      have hunique : ∀ other, MngFrame buf (beAt buf messageLengthOff 2) other → other = actionField := by
        intro other hother
        have haction := hother.action_eq
        rw [hframe.action_eq] at haction
        exact (Option.some.inj haction).symm
      obtain ⟨log', hlog', hmng⟩ := parseMng_framed lib m log hframe
      have hpass := @parseMngAuth_passes_iff lib m buf log' (mngEnd buf)
        (mngRest buf (beAt buf messageLengthOff 2))
      have hclean : log'.freesWild = false := hlog'.trans hlog
      rw [hmng]
      split
      · next hrefused =>
          rw [parseMngAuth_freesWild, hclean]
          exact iff_of_false (by decide) fun ⟨_, _, h⟩ => hpass.2 h.verifies hrefused
      · next hgo =>
          rw [parseMngTlv_freesWild, parseMngAuth_freesWild, hclean]
          simp only [Bool.false_eq_true, false_or]
          refine and_congr_right fun _ => ⟨fun h => ⟨actionField, hdr, hframe, hpass.1 hgo, h⟩, ?_⟩
          rintro ⟨other, h⟩
          exact hunique other h.frame ▸ h.brings

end Reply

/-! ## Messages -/

theorem headerLog_freesWild : headerLog.freesWild = false := rfl

/-- A buffer that is refused for its header has nothing deleted. -/
theorem parse_refused_freesWild {lib : HmacLib} {m : Message} {buf : Nat → UInt8} {bufSize : Int}
    (hsig : ¬ SigHeader m.prms buf bufSize) (hmng : ¬ MngHeader buf bufSize) :
    (m.parse lib buf bufSize).2.2.freesWild = false := by
  have hheader : ∀ hdr log, (parseHeader { m with hdr } buf log).2.2.freesWild = log.freesWild := by
    intro hdr log
    rw [parseHeader]
    simp only
    split
    · rfl
    · split <;> rfl
  rw [parse]
  simp only
  split
  · rfl
  · next hbase =>
      split
      · rfl
      · next hlength =>
          have hlog := hheader { m.hdr with type := buf 0 &&& 0xf }
            ((ParseLog.init.look messageLengthOff 2).look 0 1)
          split
          · next htype =>
              split
              · rfl
              · next hrcv =>
                  rw [Bool.not_eq_true, Bool.not_eq_false'] at hrcv
                  split
                  · next he =>
                      rw [he] at hlog
                      exact hlog
                  · next he =>
                      exact absurd ⟨Int.not_lt.1 hbase, Int.not_lt.1 hlength, htype, hrcv,
                        headerOk_of_parseHeader he⟩ hsig
          · split
            · next htype =>
                split
                · rfl
                · next hmin =>
                    split
                    · next he =>
                        rw [he] at hlog
                        exact hlog
                    · next he =>
                        exact absurd ⟨Int.not_lt.1 hbase, Int.not_lt.1 hlength, htype,
                          Nat.not_lt.1 hmin, headerOk_of_parseHeader he⟩ hmng
            · rfl

theorem parseSig_freesWild {lib : HmacLib} {m : Message} {buf : Nat → UInt8} {leftAll : Int}
    {log : ParseLog} (hlog : log.freesWild = false) :
    (parseSig lib m buf leftAll log).2.2.freesWild = true ↔ ∃ x ∈ m.sigTlvs, ¬ x.2.Assigned := by
  have hloop := @sigLoop_freesWild lib m.prms m.auth buf leftAll.toNat (sigStart sigBaseSize leftAll log)
  have hdeletes : ∀ log' : ParseLog, log'.freesWild = log.freesWild →
      ((log'.deleteTlvs m.sigTlvs).freesWild = true ↔ ∃ x ∈ m.sigTlvs, ¬ x.2.Assigned) := by
    intro log' hsame
    simp [ParseLog.deleteTlvs, hsame, hlog, BaseSigTlv.isWild_iff]
  rw [parseSig]
  split
  · next he =>
      rw [he] at hloop
      exact hdeletes _ hloop
  · next he =>
      rw [he] at hloop
      exact hdeletes _ (sigFinish_freesWild.trans hloop)

/-- **When a parse deletes a pointer that was never assigned**: exactly when it takes the place of one. -/
theorem parse_freesWild_iff (lib : HmacLib) (m : Message) (buf : Nat → UInt8) (bufSize : Int) :
    (m.parse lib buf bufSize).2.2.freesWild = true ↔ DeletesWild lib m buf bufSize := by
  have hne : MsgType.signaling ≠ MsgType.management := by decide
  by_cases hsig : SigHeader m.prms buf bufSize
  · obtain ⟨hdr, hparse⟩ := parse_signaling lib m hsig
    rw [hparse, parseSig_freesWild headerLog_freesWild, DeletesWild, and_iff_left hsig]
    refine (or_iff_right fun h => ?_).symm
    obtain ⟨_, _, hreplaces⟩ := h
    exact hne (hsig.type_eq.symm.trans hreplaces.header.type_eq)
  · rw [DeletesWild, or_iff_left fun h => hsig h.2]
    by_cases hmng : MngHeader buf bufSize
    · obtain ⟨hdr, hparse⟩ := parse_management lib m hmng
      rw [hparse]
      exact parseMng_freesWild headerLog_freesWild hmng
    · rw [parse_refused_freesWild hsig hmng]
      exact iff_of_false (by decide) fun ⟨_, _, h⟩ => hmng h.header

end Message

end PtpMgmt
