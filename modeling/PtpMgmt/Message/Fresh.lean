import PtpMgmt.Message.History

set_option autoImplicit false

/-! # Pointers that were never set

A parse calls `call_tlv_data` with a pointer that is not set and takes over what the pointer is behind the
call. An id without a codec function is read with code OK and leaves the pointer as it was, so a message
that brings data for such an id makes the object own whatever was there. -/

namespace PtpMgmt

open Wire Codec

/-! ## `call_tlv_data` -/

/-- A parse that is fine gave the pointer a new TLV, the one that the codec of the id read. -/
def DecodesAnew (id : MngId) (mp : MsgProc) : Prop :=
  ∀ ptr, (callTlvData id ptr mp).1 = .ok →
    ∃ d mp', (tlvF id default).run mp.fresh = (some d, mp') ∧
      callTlvData id ptr mp = (.ok, .obj (.tlv id d), mp')

/-- **A TLV is read anew exactly when its id has a codec function.** -/
theorem decodesAnew_iff (id : MngId) (mp : MsgProc) (hb : mp.build = false) :
    DecodesAnew id mp ↔ (mngAllVals id).func ≠ .na := by
  constructor
  · intro hanew hna
    have hcall := callTlvData_na .wild mp hna
    obtain ⟨d, mp', -, htlv⟩ := hanew .wild (by rw [hcall])
    rw [hcall] at htlv
    cases htlv
  · intro hcodec ptr hok
    have hfault := ((tlvF id default).advances mp.fresh).err
      (show IsFault MngParseError.tooSmall by decide)
    rw [callTlvData_parse ptr hcodec hb] at hok ⊢
    rcases hrun : (tlvF id default).run mp.fresh with ⟨_ | d, mp'⟩
    · rw [hrun] at hok hfault
      exact absurd hok hfault.1
    · exact ⟨d, mp', rfl, rfl⟩

namespace Message

/-! ## Messages that leave such a pointer -/

/-- The parse goes to a TLV with data for an id without a codec function: it is at `cur`, with `left`
    octets left, and each TLV that it comes by is passed. -/
inductive MeetsWild (lib : HmacLib) (prms : MsgParams) (auth : Option Auth) (buf : Nat → UInt8) :
    Nat → Int → Prop
  | here {cur : Nat} {left : Int} (hpass : Passes lib prms auth buf (cur + left.toNat) cur)
      (hwild : WildAt prms buf cur) : MeetsWild lib prms auth buf cur left
  | next {cur : Nat} {left : Int} (hpass : Passes lib prms auth buf (cur + left.toNat) cur)
      (hrest : MeetsWild lib prms auth buf
        (if tlvTypeAt buf cur = .authentication then cur + tlvSizeHdr
          else cur + tlvSizeHdr + lengthAt buf cur)
        (left - (tlvSizeHdr + lengthAt buf cur : Nat))) :
      MeetsWild lib prms auth buf cur left

/-- A signalling message with a TLV like that. -/
structure WildSignal (lib : HmacLib) (prms : MsgParams) (auth : Option Auth) (buf : Nat → UInt8)
    (bufSize : Int) : Prop where
  header : SigHeader prms buf bufSize
  meets : MeetsWild lib prms auth buf sigBaseSize ((beAt buf messageLengthOff 2 : Int) - sigBaseSize)

/-- A reply with data for an id without a codec function, behind the header, the authentication and the
    id. -/
structure WildReply (lib : HmacLib) (prms : MsgParams) (auth : Option Auth) (buf : Nat → UInt8)
    (bufSize : Int) (actionField : ActionField) (id : MngId) : Prop where
  header : MngHeader buf bufSize
  frame : MngFrame buf (beAt buf messageLengthOff 2) actionField
  verifies : ∀ a, auth = some a → prms.rcvAuthHas rcvAuthMng = true →
    prms.rcvAuthHas rcvAuthIgnore = false →
    VerifiesBehind lib a buf (mngEnd buf) (mngRest buf (beAt buf messageLengthOff 2))
  type_eq : mngTlvType buf = .management
  action : actionField = .response ∨ actionField = .acknowledge
  found : replyId buf prms.implementSpecific = some id
  allowed : checkReplyAction id actionField = true
  data : lengthFieldMngBase < mngLength buf
  noCodec : (mngAllVals id).func = .na

/-- The message makes the object own a pointer that is not set. -/
def Wild (lib : HmacLib) (prms : MsgParams) (auth : Option Auth) (buf : Nat → UInt8) (bufSize : Int) :
    Prop :=
  WildSignal lib prms auth buf bufSize ∨
    ∃ actionField id, WildReply lib prms auth buf bufSize actionField id

/-! ## Signalling -/

section Signal

variable {lib : HmacLib} {prms : MsgParams} {auth : Option Auth} {buf : Nat → UInt8}

/-- One TLV: it is passed, and what it adds is set but for data of an id without a codec function. -/
theorem meetsWild_iff_of_passes {cur : Nat} {left : Int}
    (h : Passes lib prms auth buf (cur + left.toNat) cur) :
    MeetsWild lib prms auth buf cur left ↔ WildAt prms buf cur ∨
      MeetsWild lib prms auth buf
        (if tlvTypeAt buf cur = .authentication then cur + tlvSizeHdr
          else cur + tlvSizeHdr + lengthAt buf cur)
        (left - (tlvSizeHdr + lengthAt buf cur : Nat)) := by
  constructor
  · intro hmeets
    cases hmeets with
    | here _ hwild => exact .inl hwild
    | next _ hrest => exact .inr hrest
  · rintro (hwild | hrest)
    · exact .here h hwild
    · exact .next h hrest

theorem MeetsWild.passes {cur : Nat} {left : Int} (h : MeetsWild lib prms auth buf cur left) :
    Passes lib prms auth buf (cur + left.toNat) cur := by
  cases h with
  | here hpass _ => exact hpass
  | next hpass _ => exact hpass

theorem sigTlvAt_toList_assigned (prms : MsgParams) (buf : Nat → UInt8) (t : Nat) :
    (∀ x ∈ (sigTlvAt prms buf t).toList, x.2.Assigned) ↔ ¬ WildAt prms buf t := by
  cases htlv : sigTlvAt prms buf t with
  | none =>
      refine iff_of_true (by simp) fun hwild => ?_
      obtain ⟨x, hx⟩ := sigTlvAt_of_wild hwild
      rw [htlv] at hx
      cases hx
  | some x => simpa using sigTlvAt_assigned htlv

/-- The loop only adds TLVs. -/
theorem sigLoop_tlvs (fuel : Nat) (s : SigState) :
    s.tlvs <+: (sigLoop lib prms auth buf fuel s).2.tlvs := by
  induction fuel generalizing s with
  | zero =>
      rw [sigLoop]
      split <;> exact List.prefix_rfl
  | succ fuel ih =>
      by_cases hdone : s.leftAll < tlvSizeHdr
      · have hdone' : (sigLoop lib prms auth buf (fuel + 1) s).2.tlvs = s.tlvs := by rw [sigLoop_done hdone]
        exact hdone' ▸ List.prefix_rfl
      · have hnonneg : 0 ≤ s.leftAll := by
          simp only [tlvSizeHdr] at hdone
          omega
        obtain ⟨s', hstep, hpassed⟩ | ⟨err, hstep, -⟩ := @sigStep_cases lib prms auth buf s hnonneg
        · rw [sigLoop_passed (Int.not_lt.1 hdone) hstep]
          exact (hpassed.tlvs ▸ List.prefix_append _ _).trans (ih s')
        · have hstopped : (sigLoop lib prms auth buf (fuel + 1) s).2.tlvs = s.tlvs := by
            rw [sigLoop_stopped (Int.not_lt.1 hdone) hstep, sigStep_error_tlvs (Prod.ext hstep rfl)]
          exact hstopped ▸ List.prefix_rfl

/-- **The loop owns a pointer that is not set exactly when it meets one.** By induction on the rounds
    that are left; each round takes a header at least. -/
theorem sigLoop_assigned {fuel : Nat} {s : SigState} (hfuel : s.leftAll.toNat ≤ fuel)
    (hs : ∀ x ∈ s.tlvs, x.2.Assigned) :
    (∀ x ∈ (sigLoop lib prms auth buf fuel s).2.tlvs, x.2.Assigned) ↔
      ¬ MeetsWild lib prms auth buf s.cur s.leftAll := by
  induction fuel generalizing s with
  | zero =>
      have hdone : s.leftAll < tlvSizeHdr := by
        simp only [tlvSizeHdr]
        omega
      rw [sigLoop_done hdone]
      refine iff_of_true hs fun hmeets => ?_
      have hfits := hmeets.passes.fits
      simp only [tlvSizeHdr] at hfits
      omega
  | succ fuel ih =>
      by_cases hdone : s.leftAll < tlvSizeHdr
      · rw [sigLoop_done hdone]
        refine iff_of_true hs fun hmeets => ?_
        have hfits := hmeets.passes.fits
        simp only [tlvSizeHdr] at hfits hdone
        omega
      · have hnonneg : 0 ≤ s.leftAll := by
          simp only [tlvSizeHdr] at hdone
          omega
        have hleft : s.leftAll = (s.cur + s.leftAll.toNat : Nat) - s.cur := by
          push_cast
          omega
        by_cases hpass : Passes lib prms auth buf (s.cur + s.leftAll.toNat) s.cur
        · obtain ⟨s', hstep, hpassed⟩ := sigStep_passed hpass hleft
          rw [sigLoop_passed (Int.not_lt.1 hdone) hstep, meetsWild_iff_of_passes hpass, not_or,
            ← hpassed.next_cur, ← hpassed.leftAll, ← sigTlvAt_toList_assigned]
          -- the own TLV of the round, and then those of the rounds behind it
          by_cases hown : ∀ x ∈ (sigTlvAt prms buf s.cur).toList, x.2.Assigned
          · rw [and_iff_right hown]
            refine ih ?_ ?_
            · rw [hpassed.leftAll]
              simp only [tlvSizeHdr]
              omega
            · rw [hpassed.tlvs]
              intro x hx
              rcases List.mem_append.1 hx with hx | hx
              · exact hs x hx
              · exact hown x hx
          · refine iff_of_false (fun hall => hown fun x hx => hall x ?_) fun h => hown h.1
            -- what the list holds once it keeps
            have hpre : s'.tlvs <+: (sigLoop lib prms auth buf fuel s').2.tlvs := sigLoop_tlvs fuel s'
            exact hpre.subset (hpassed.tlvs ▸ List.mem_append_right _ hx)
        · obtain ⟨err, hstep, -⟩ := sigStep_refused hpass hleft
          rw [sigLoop_stopped (Int.not_lt.1 hdone) hstep, sigStep_error_tlvs (Prod.ext hstep rfl)]
          exact iff_of_true hs fun hmeets => hpass hmeets.passes

end Signal

/-! ## Management -/

section Reply

variable {lib : HmacLib} {m : Message} {buf : Nat → UInt8} {bufSize : Int} {actionField : ActionField}
  {errAuth : MngParseError} {log : ParseLog}

theorem parseErrorStatus_owned (h : m.Owned) {tlvSize : Nat} :
    (parseErrorStatus m buf actionField tlvSize errAuth log).2.1.Owned := by
  rw [parseErrorStatus]
  split
  · exact h
  · simp only
    split
    · exact ⟨h.data, h.tlvs⟩
    · split
      · exact ⟨h.data, h.tlvs⟩
      · split
        · exact ⟨h.data, h.tlvs⟩
        · split <;> exact ⟨h.data, h.tlvs⟩

theorem parseSMPTE_owned (h : m.Owned) {tlvSize : Nat} :
    (parseSMPTE m buf actionField tlvSize errAuth log).2.1.Owned := by
  rw [parseSMPTE]
  split
  · exact h
  · split
    · exact h
    · simp only
      split
      · exact ⟨h.data, h.tlvs⟩
      · exact ⟨by simp, h.tlvs⟩

/-- The reply brings data for an id without a codec function. -/
def WildData (spec : ImplementSpecific) (buf : Nat → UInt8) (actionField : ActionField) : Prop :=
  (actionField = .response ∨ actionField = .acknowledge) ∧ lengthFieldMngBase < mngLength buf ∧
    ∃ id, replyId buf spec = some id ∧ checkReplyAction id actionField = true ∧
      (mngAllVals id).func = .na

theorem parseManagement_owned (h : m.Owned) :
    (parseManagement m buf actionField (mngLength buf) errAuth log).2.1.Owned ↔
      ¬ WildData m.prms.implementSpecific buf actionField := by
  have hkept : ∀ replyAction replayTlvId, ({ m with replyAction, replayTlvId } : Message).Owned :=
    fun _ _ => ⟨h.data, h.tlvs⟩
  -- every way out but the last keeps the old data; an id without a codec leaves the new pointer unset
  rw [parseManagement]
  split
  · next haction =>
      exact iff_of_true h fun hwild => hwild.1.elim haction.1 haction.2
  · next haction =>
      simp only
      split
      · next hshort =>
          exact iff_of_true (hkept _ _) fun hwild => absurd hshort (Nat.not_lt.2 hwild.2.1.le)
      · next hmin =>
          split
          · next hnone =>
              refine iff_of_true (hkept _ _) fun hwild => ?_
              obtain ⟨id, hfound, -⟩ := hwild.2.2
              rw [replyId, hnone] at hfound
              cases hfound
          · next id hfound =>
              have hid : ∀ id', replyId buf m.prms.implementSpecific = some id' → id' = id := by
                intro id' hfound'
                rw [replyId, hfound] at hfound'
                exact (Option.some.inj hfound').symm
              split
              · next hrefused =>
                  refine iff_of_true (hkept _ _) fun hwild => ?_
                  obtain ⟨id', hfound', hallowed, -⟩ := hwild.2.2
                  rw [hid id' hfound'] at hallowed
                  simp [hallowed] at hrefused
              · next hallowed =>
                  split
                  · next hempty =>
                      exact iff_of_true (hkept _ _) fun hwild =>
                        absurd hempty (Nat.ne_of_gt hwild.2.1)
                  · next hdata =>
                      have hlong : lengthFieldMngBase < mngLength buf := by omega
                      have hwild : WildData m.prms.implementSpecific buf actionField ↔
                          (mngAllVals id).func = .na := by
                        constructor
                        · rintro ⟨-, -, id', hfound', -, hna⟩
                          rwa [hid id' hfound'] at hna
                        · intro hna
                          refine ⟨by tauto, hlong, id, hfound, by simpa using hallowed, hna⟩
                      rw [hwild]
                      split
                      · next tlv mp he =>
                          have hiff := callTlvData_wild rfl (congrArg Prod.fst he)
                          rw [he] at hiff
                          rw [← hiff]
                          exact ⟨fun hown => hown.data, fun hset => ⟨hset, h.tlvs⟩⟩
                      · next hne he =>
                          refine iff_of_true (hkept _ _) fun hna => ?_
                          rw [callTlvData_na _ _ hna] at he
                          cases he
                          exact hne rfl

theorem parseMngTlv_owned (h : m.Owned) {tlvType : TlvType} :
    (parseMngTlv m buf tlvType actionField (mngLength buf) errAuth log).2.1.Owned ↔
      ¬ (tlvType = .management ∧ WildData m.prms.implementSpecific buf actionField) := by
  cases tlvType
  case management =>
      rw [parseMngTlv, parseManagement_owned h]
      simp
  case managementErrorStatus => exact iff_of_true (parseErrorStatus_owned h) (by simp)
  case organizationExtension => exact iff_of_true (parseSMPTE_owned h) (by simp)
  all_goals exact iff_of_true h (by simp)

/-- A management message that is not framed sets no pointer. -/
theorem parseMng_unframed_owned (h : m.Owned) {msgSize : Nat}
    (hframe : ∀ actionField, ¬ MngFrame buf msgSize actionField) :
    (parseMng lib m buf msgSize log).2.1.Owned := by
  rw [parseMng]
  simp only
  split
  · exact ⟨h.data, h.tlvs⟩
  · next actionField haction =>
      split
      · exact ⟨h.data, h.tlvs⟩
      · next hroom =>
          refine absurd ⟨haction, ?_, ?_⟩ (hframe actionField)
          · rw [mngRest]
            omega
          · omega

/-- A management message behind its header. -/
theorem parseMng_owned (h : m.Owned) (hdr : MngHeader buf bufSize) :
    (parseMng lib m buf (beAt buf messageLengthOff 2) log).2.1.Owned ↔
      ¬ ∃ actionField id, WildReply lib m.prms m.auth buf bufSize actionField id := by
  by_cases hframe : ∃ actionField, MngFrame buf (beAt buf messageLengthOff 2) actionField
  case neg =>
      refine iff_of_true ?_ fun ⟨actionField, id, hwild⟩ => hframe ⟨actionField, hwild.frame⟩
      exact parseMng_unframed_owned h (not_exists.1 hframe)
  case pos =>
      obtain ⟨actionField, hframe⟩ := hframe
      obtain ⟨log', -, hmng⟩ := parseMng_framed lib m log hframe
      have howned : (m.framed buf).Owned := ⟨h.data, h.tlvs⟩
      have hpass := @parseMngAuth_passes_iff lib m buf log' (mngEnd buf)
        (mngRest buf (beAt buf messageLengthOff 2))
      rw [hmng]
      split
      · next hrefused =>
          refine iff_of_true howned fun ⟨actionField', id, hwild⟩ => ?_
          exact hpass.2 hwild.verifies hrefused
      · next hgo =>
          rw [parseMngTlv_owned howned, not_iff_not]
          constructor
          · rintro ⟨htype, haction, hdata, id, hfound, hallowed, hna⟩
            exact ⟨actionField, id, hdr, hframe, hpass.1 hgo, htype, haction, hfound, hallowed, hdata,
              hna⟩
          · rintro ⟨actionField', id, hwild⟩
            obtain rfl : actionField' = actionField := by
              have haction := hwild.frame.action_eq
              rw [hframe.action_eq] at haction
              exact (Option.some.inj haction).symm
            exact ⟨hwild.type_eq, hwild.action, hwild.data, id, hwild.found, hwild.allowed,
              hwild.noCodec⟩

end Reply

/-! ## Messages -/

theorem parseSig_owned {lib : HmacLib} {m : Message} {buf : Nat → UInt8} {log : ParseLog}
    (h : m.Owned) (e : Nat) :
    (parseSig lib m buf ((e : Int) - sigBaseSize) log).2.1.Owned ↔
      ¬ MeetsWild lib m.prms m.auth buf sigBaseSize ((e : Int) - sigBaseSize) := by
  have hloop := @sigLoop_assigned lib m.prms m.auth buf ((e : Int) - sigBaseSize).toNat
    (sigStart sigBaseSize ((e : Int) - sigBaseSize) log) le_rfl (fun x hx => by cases hx)
  have hdata : (parseSig lib m buf ((e : Int) - sigBaseSize) log).2.1.dataGet = m.dataGet := by
    rw [parseSig]
    split <;> rfl
  refine Iff.trans ?_ hloop
  rw [← sigRun, ← parseSig_tlvs]
  exact ⟨fun hown => hown.tlvs, fun htlvs => ⟨hdata ▸ h.data, htlvs⟩⟩

/-- A buffer that is refused for its header sets no pointer. -/
theorem parse_refused_owned {lib : HmacLib} {m : Message} {buf : Nat → UInt8} {bufSize : Int}
    (h : m.Owned) (hsig : ¬ SigHeader m.prms buf bufSize) (hmng : ¬ MngHeader buf bufSize) :
    (m.parse lib buf bufSize).2.1.Owned := by
  have hheader : ∀ hdr log, (parseHeader { m with hdr } buf log).2.1.Owned := by
    intro hdr log
    rw [parseHeader]
    simp only
    split
    · exact ⟨h.data, h.tlvs⟩
    · split <;> exact ⟨h.data, h.tlvs⟩
  rw [parse]
  simp only
  split
  · exact h
  · next hbase =>
      split
      · exact h
      · next hlength =>
          split
          · next htype =>
              split
              · exact ⟨h.data, h.tlvs⟩
              · next hrcv =>
                  rw [Bool.not_eq_true, Bool.not_eq_false'] at hrcv
                  split
                  · next he =>
                      have hown := hheader { m.hdr with type := buf 0 &&& 0xf }
                        ((ParseLog.init.look messageLengthOff 2).look 0 1)
                      rw [he] at hown
                      exact hown
                  · next he =>
                      exact absurd ⟨Int.not_lt.1 hbase, Int.not_lt.1 hlength, htype, hrcv,
                        headerOk_of_parseHeader he⟩ hsig
          · split
            · next htype =>
                split
                · exact ⟨h.data, h.tlvs⟩
                · next hmin =>
                    split
                    · next he =>
                        have hown := hheader { m.hdr with type := buf 0 &&& 0xf }
                          ((ParseLog.init.look messageLengthOff 2).look 0 1)
                        rw [he] at hown
                        exact hown
                    · next he =>
                        exact absurd ⟨Int.not_lt.1 hbase, Int.not_lt.1 hlength, htype,
                          Nat.not_lt.1 hmin, headerOk_of_parseHeader he⟩ hmng
            · exact ⟨h.data, h.tlvs⟩

/-- What one message does to an object that owns what was set. -/
theorem parse_owned_iff (lib : HmacLib) {m : Message} (h : m.Owned) (buf : Nat → UInt8)
    (bufSize : Int) :
    (m.parse lib buf bufSize).2.1.Owned ↔ ¬ Wild lib m.prms m.auth buf bufSize := by
  have hne : MsgType.signaling ≠ MsgType.management := by decide
  by_cases hsig : SigHeader m.prms buf bufSize
  · obtain ⟨hdr, hparse⟩ := parse_signaling lib m hsig
    have howned : ({ m with hdr } : Message).Owned := ⟨h.data, h.tlvs⟩
    rw [hparse, parseSig_owned howned, not_iff_not]
    constructor
    · exact fun hmeets => .inl ⟨hsig, hmeets⟩
    · rintro (hwild | ⟨_, _, hwild⟩)
      · exact hwild.meets
      · exact absurd (hsig.type_eq.symm.trans hwild.header.type_eq) hne
  · by_cases hmng : MngHeader buf bufSize
    · obtain ⟨hdr, hparse⟩ := parse_management lib m hmng
      have howned : ({ m with hdr } : Message).Owned := ⟨h.data, h.tlvs⟩
      rw [hparse, parseMng_owned howned hmng, not_iff_not]
      constructor
      · exact fun hwild => .inr hwild
      · rintro (hwild | hwild)
        · exact absurd hwild.header hsig
        · exact hwild
    · refine iff_of_true (parse_refused_owned h hsig hmng) ?_
      rintro (hwild | ⟨_, _, hwild⟩)
      · exact hsig hwild.header
      · exact hmng hwild.header

/-- One message after the other: the object owns what was set all the way exactly when no message
    brings a pointer that is not. -/
theorem parseAll_owned_iff (lib : HmacLib) {m : Message} (h : m.Owned)
    (bufs : List ((Nat → UInt8) × Int)) :
    (∀ pre, pre <+: bufs → (parseAll lib m pre).Owned) ↔
      ∀ b ∈ bufs, ¬ Wild lib m.prms m.auth b.1 b.2 := by
  induction bufs generalizing m with
  | nil => exact iff_of_true (fun pre hpre => by rw [List.prefix_nil.1 hpre]; exact h) (by simp)
  | cons b bufs ih =>
      have hkeeps := parse_keeps lib m b.1 b.2
      constructor
      · intro hall
        have hone : (m.parse lib b.1 b.2).2.1.Owned :=
          hall [b] (List.prefix_cons_iff.2 (.inr ⟨[], rfl, List.nil_prefix⟩))
        have hrest := (ih hone).1 fun pre hpre =>
          hall (b :: pre) ((List.prefix_cons_inj b).2 hpre)
        rw [hkeeps.prms, hkeeps.auth] at hrest
        intro b' hb'
        rcases List.mem_cons.1 hb' with rfl | hb'
        · exact (parse_owned_iff lib h _ _).1 hone
        · exact hrest b' hb'
      · intro hall pre hpre
        rcases List.prefix_cons_iff.1 hpre with rfl | ⟨pre', rfl, hpre'⟩
        · exact h
        · have hone := (parse_owned_iff lib h b.1 b.2).2 (hall b List.mem_cons_self)
          refine (ih hone).2 (fun b' hb' => ?_) pre' hpre'
          rw [hkeeps.prms, hkeeps.auth]
          exact hall b' (List.mem_cons_of_mem b hb')

/-- **What is read is fresh, ids without a codec function apart.** `call_tlv_data` gives its pointer a
    new TLV exactly for the ids with a codec function; a message makes an object own a pointer that was
    never set exactly when it brings data for another id; so does a run of messages. -/
theorem call_tlv_data_fresh_iff (lib : HmacLib) :
    (∀ id mp, mp.build = false → 0 < mp.left → (DecodesAnew id mp ↔ (mngAllVals id).func ≠ .na)) ∧
    (∀ m buf bufSize, Owned m →
      ((m.parse lib buf bufSize).2.1.Owned ↔ ¬ Wild lib m.prms m.auth buf bufSize)) ∧
    ∀ m, Reachable lib m → ∀ bufs : List ((Nat → UInt8) × Int),
      ((∀ pre, pre <+: bufs → (parseAll lib m pre).Owned) ↔
        ∀ b ∈ bufs, ¬ Wild lib m.prms m.auth b.1 b.2) :=
  ⟨fun id mp hb _ => decodesAnew_iff id mp hb, fun _ buf bufSize h => parse_owned_iff lib h buf bufSize,
    fun _ h bufs => parseAll_owned_iff lib h.owned bufs⟩

/-- An ACKNOWLEDGE of ENABLE_PORT with two octets of data. -/
def enablePortReply : Nat → UInt8 :=
  ofList ([0x0d, 0x02, 0, 56, 0, 0, 0, 0] ++ List.replicate 8 0 ++ List.replicate 4 0 ++
    List.replicate 10 0 ++ [0, 0, 0x04, 0x7f] ++ List.replicate 10 0 ++ [0, 0, 0x04, 0] ++
    [0, 0x01, 0, 4, 0x20, 0x0d, 0, 0])

/-- The object owns a pointer that nothing set, and the code of the parse is OK. -/
theorem enablePortReply_not_fresh :
    ((init .init).parse zeroLib enablePortReply 56).1 = .ok ∧
    ((init .init).parse zeroLib enablePortReply 56).2.1.getData = .wild ∧
    ¬ DecodesAnew .enablePort (.parseAt enablePortReply 54 2) := by
  refine ⟨by decide, rfl, fun hanew => ?_⟩
  exact (decodesAnew_iff _ _ rfl).1 hanew rfl

theorem call_tlv_data_fresh_iff_enablePort :
    (DecodesAnew .enablePort (.parseAt enablePortReply 54 2) ↔ (mngAllVals .enablePort).func ≠ .na) ∧
    (((init .init).parse zeroLib enablePortReply 56).2.1.Owned ↔
      ¬ Wild zeroLib .init none enablePortReply 56) ∧
    ((∀ pre, pre <+: [(enablePortReply, 56)] → (parseAll zeroLib (init .init) pre).Owned) ↔
      ∀ b ∈ [(enablePortReply, 56)], ¬ Wild zeroLib .init none b.1 b.2) :=
  ⟨(call_tlv_data_fresh_iff zeroLib).1 _ _ rfl (by decide),
    (call_tlv_data_fresh_iff zeroLib).2.1 _ _ _ (@Reachable.init zeroLib .init).owned,
    (call_tlv_data_fresh_iff zeroLib).2.2 _ (.init .init) _⟩

end Message

end PtpMgmt
