import PtpMgmt.Message.History

set_option autoImplicit false

/-! # Messages that are parsed although their authentication fails

With `RCV_AUTH_IGNORE` a parse goes on behind an error of authentication, and the error becomes the code
of the message when nothing else is wrong with it. So a code of authentication says, as OK does, that
the whole message was read. The type of the message and of its TLV, on the other hand, stay behind
whatever the code is. -/

namespace PtpMgmt

open Wire Codec

namespace Message

/-! ## Signalling messages -/

section Sig

variable {lib : HmacLib} {prms : MsgParams} {auth : Option Auth} {buf : Nat → UInt8}

theorem caseBuild_plain {α : Type} [Inhabited α] {f : α → Proc α} [hf : ∀ d, PlainProc (f d)]
    {mk : α → BaseSigTlv} {mp : MsgProc} {err : MngParseError} (hmp : Plain mp.err)
    (h : (caseBuild f mk mp).1 = .error err) : Plain err := by
  have hplain := (hf default).err mp hmp
  rw [caseBuild] at h
  split at h
  · next he =>
      rw [he] at hplain
      cases h
      exact hplain
  · cases h

theorem sigErrorStatus_plain {spec : ImplementSpecific} {mp : MsgProc} {err : MngParseError}
    (h : (sigErrorStatus spec buf mp).1 = .error err) : Plain err := by
  rw [sigErrorStatus] at h
  split at h
  · cases h
    exact plain_tooSmall
  · simp only at h
    split at h
    · cases h
    · split at h
      · cases h
        exact plain_tooSmall
      · cases h

theorem sigManagement_plain {spec : ImplementSpecific} {mp : MsgProc} {err : MngParseError}
    (h : (sigManagement spec buf mp).1 = .error err) : Plain err := by
  rw [sigManagement] at h
  split at h
  · cases h
    exact plain_tooSmall
  · simp only at h
    split at h
    · cases h
    · next id _ =>
        split at h
        · have hplain := callTlvData_plain id .wild ((mp.peek mp.cur 2).skip 2)
          split at h
          · cases h
          · next he =>
              rw [he] at hplain
              cases h
              exact hplain
        · cases h

/-- The error of a decoder is none of authentication. -/
theorem sigTlv_plain {spec : ImplementSpecific} {tlvType : TlvType} {mp : MsgProc}
    {err : MngParseError} (hmp : Plain mp.err) (h : (sigTlv spec buf tlvType mp).1 = .error err) :
    Plain err := by
  cases tlvType
  case managementErrorStatus => exact sigErrorStatus_plain h
  case management => exact sigManagement_plain h
  case slaveDelayTimingDataNp =>
      simp only [sigTlv] at h
      split at h
      · exact caseBuild_plain hmp h
      · cases h
  all_goals first
    | exact caseBuild_plain hmp h
    | cases h

/-- An authentication TLV at which the loop ends: it is checked, and does not verify. -/
structure RefusedAt (lib : HmacLib) (prms : MsgParams) (auth : Option Auth) (buf : Nat → UInt8) (t : Nat) :
    Prop where
  type_eq : tlvTypeAt buf t = .authentication
  checked : prms.rcvAuthHas rcvAuthSigAll = true
  strict : prms.rcvAuthHas rcvAuthIgnore = false
  fails : ∃ a, auth = some a ∧ ¬ Verifies lib a buf t

theorem RefusedAt.not_passes {e t : Nat} (h : RefusedAt lib prms auth buf t) :
    ¬ Passes lib prms auth buf e t := by
  obtain ⟨a, ha, hfails⟩ := h.fails
  exact fun hpass => hfails (hpass.accepted h.type_eq a ha h.checked h.strict)

/-- Nothing but an authentication TLV ends the loop with an error of authentication. -/
theorem sigStep_isAuth {s s' : SigState} {err : MngParseError} (hauth : err.IsAuth)
    (h : sigStep lib prms auth buf s = (some err, s')) : RefusedAt lib prms auth buf s.cur := by
  rw [sigStep] at h
  simp only at h
  split at h
  · cases h
    exact absurd hauth plain_tooSmall
  · split at h
    · next htype =>
        cases auth with
        | none => cases h
        | some a =>
            obtain ⟨code, log', hparse, -, hok, -⟩ :=
              parseAuth_sig lib a buf s.cur ((s.log.head s.cur).look s.cur tlvSizeHdr)
            simp only [sigAuth, Nat.add_sub_cancel] at h
            split at h
            · next hall =>
                rw [show beAt buf (s.cur + 2) 2 + tlvSizeHdr = lengthAt buf s.cur + tlvSizeHdr from rfl,
                  hparse] at h
                simp only at h
                split at h
                · next hstop =>
                    refine ⟨htype, hall, by simpa using hstop.2, a, rfl, fun hverifies => ?_⟩
                    exact hstop.1 (hok.2 hverifies)
                · cases h
            · cases h
    · split at h
      · cases h
      · rw [sigDecode] at h
        split at h
        · next he =>
            cases h
            exact absurd hauth (sigTlv_plain plain_tooSmall (congrArg Prod.fst he))
        · cases h

theorem sigStep_not_refused {s s' : SigState} (hnonneg : 0 ≤ s.leftAll)
    (h : sigStep lib prms auth buf s = (none, s')) : ¬ RefusedAt lib prms auth buf s.cur := by
  intro hrefused
  have hleft : s.leftAll = (s.cur + s.leftAll.toNat : Nat) - s.cur := by
    push_cast
    omega
  obtain ⟨err, hstep, -⟩ := sigStep_refused hrefused.not_passes hleft
  rw [h] at hstep
  cases hstep

/-- A loop that ends with an error of authentication ends at the first TLV that is refused. -/
theorem sigLoop_isAuth {fuel : Nat} {s s' : SigState} {err : MngParseError} (hauth : err.IsAuth)
    (h : sigLoop lib prms auth buf fuel s = (some err, s')) :
    ∃ done t rest, visits buf fuel s.cur s.leftAll = done ++ t :: rest ∧
      (∀ u ∈ done, ¬ RefusedAt lib prms auth buf u) ∧ RefusedAt lib prms auth buf t ∧
      s'.tlvs = s.tlvs ++ done.filterMap (sigTlvAt prms buf) := by
  induction fuel generalizing s with
  | zero =>
      rw [sigLoop] at h
      split at h <;> cases h
  | succ fuel ih =>
      by_cases hdone : s.leftAll < tlvSizeHdr
      · rw [sigLoop_done hdone] at h
        cases h
      · have hnonneg : 0 ≤ s.leftAll := by
          simp only [tlvSizeHdr] at hdone
          omega
        rw [visits, if_neg hdone]
        obtain ⟨s'', hstep, hpassed⟩ | ⟨err', hstep, -⟩ := @sigStep_cases lib prms auth buf s hnonneg
        · rw [sigLoop_passed (Int.not_lt.1 hdone) hstep] at h
          obtain ⟨done, t, rest, hvisits, hbefore, hrefused, htlvs⟩ := ih h
          rw [hpassed.next_cur, hpassed.leftAll] at hvisits
          refine ⟨s.cur :: done, t, rest, by rw [hvisits, List.cons_append], ?_, hrefused, ?_⟩
          · intro u hu
            rcases List.mem_cons.1 hu with rfl | hu
            · exact sigStep_not_refused hnonneg hstep
            · exact hbefore u hu
          · rw [htlvs, hpassed.tlvs, List.append_assoc, List.filterMap_cons]
            cases sigTlvAt prms buf s.cur <;> rfl
        · have hend : sigLoop lib prms auth buf (fuel + 1) s = _ := sigLoop_stopped (Int.not_lt.1 hdone) hstep
          rw [h] at hend
          obtain rfl : err = err' := Option.some.inj (congrArg Prod.fst hend)
          refine ⟨[], s.cur, _, rfl, fun u hu => (List.not_mem_nil hu).elim,
            sigStep_isAuth hauth (Prod.ext hstep rfl), ?_⟩
          have hend' : s' = (sigStep lib prms auth buf s).2 := congrArg Prod.snd hend
          rw [hend', sigStep_error_tlvs (Prod.ext hstep rfl), List.filterMap_nil,
            List.append_nil]

/-- A loop that gets to the end came by no TLV that is refused. -/
theorem sigLoop_not_refused {fuel : Nat} {s s' : SigState}
    (h : sigLoop lib prms auth buf fuel s = (none, s')) :
    ∀ t ∈ visits buf fuel s.cur s.leftAll, ¬ RefusedAt lib prms auth buf t := by
  induction fuel generalizing s with
  | zero => exact fun t ht => by cases ht
  | succ fuel ih =>
      intro t ht
      rw [visits] at ht
      split at ht
      · cases ht
      · next hdone =>
          have hnonneg : 0 ≤ s.leftAll := by
            simp only [tlvSizeHdr] at hdone
            omega
          obtain ⟨s'', hstep, hpassed⟩ | ⟨err, hstep, -⟩ := @sigStep_cases lib prms auth buf s hnonneg
          · rw [sigLoop_passed (Int.not_lt.1 hdone) hstep] at h
            rcases List.mem_cons.1 ht with rfl | ht
            · exact sigStep_not_refused hnonneg hstep
            · rw [← hpassed.next_cur, ← hpassed.leftAll] at ht
              exact ih h t ht
          · have hend : sigLoop lib prms auth buf (fuel + 1) s = _ := sigLoop_stopped (Int.not_lt.1 hdone) hstep
            rw [h] at hend
            cases congrArg Prod.fst hend

/-- The list that a signalling message with an error of authentication leaves: the TLVs in front of the
    first one that is refused, or all of them. -/
theorem parseSig_isAuth {m : Message} {msgSize : Nat} {log : ParseLog}
    (h : (parseSig lib m buf ((msgSize : Int) - sigBaseSize) log).1.IsAuth) :
    (∃ done t rest, sigVisits buf msgSize = done ++ t :: rest ∧
      (∀ u ∈ done, ¬ RefusedAt lib m.prms m.auth buf u) ∧ RefusedAt lib m.prms m.auth buf t ∧
      (parseSig lib m buf ((msgSize : Int) - sigBaseSize) log).2.1.traversSigTlvs
        = done.filterMap (sigTlvAt m.prms buf)) ∨
    (∀ t ∈ sigVisits buf msgSize, ¬ RefusedAt lib m.prms m.auth buf t) ∧
      (parseSig lib m buf ((msgSize : Int) - sigBaseSize) log).2.1.traversSigTlvs
        = (sigVisits buf msgSize).filterMap (sigTlvAt m.prms buf) := by
  rw [parseSig] at h ⊢
  split
  · next he =>
      rw [he] at h
      exact .inl (sigLoop_isAuth h he)
  · next he => exact .inr ⟨sigLoop_not_refused he, sigLoop_visits he⟩

end Sig

/-! ## Management messages -/

theorem authCode_of_isAuth {err : MngParseError} (h : err.IsAuth) : AuthCode err := by
  rcases h with rfl | rfl | rfl | rfl
  · exact .auth
  · exact .authNone
  · exact .authWrong
  · exact .authNokey

section Mng

variable {lib : HmacLib} {m : Message} {buf : Nat → UInt8} {bufSize : Int}

/-- The codes of a management message that was read to its end. -/
def Reads (m : Message) (code : MngParseError) : Prop :=
  code = .ok ∨ code = .msg ∨ code.IsAuth ∧ m.prms.rcvAuthHas rcvAuthIgnore = true

/-- Such a message is read up to the end of its management TLV. -/
theorem parse_reads (hmng : MngHeader buf bufSize) (h : m.Reads (m.parse lib buf bufSize).1) :
    ∃ actionField errAuth log, MngFrame buf (beAt buf messageLengthOff 2) actionField ∧
      AuthCode errAuth ∧ m.parse lib buf bufSize
        = parseMngTlv ({ m with hdr := readHeader m.hdr buf }.framed buf) buf (mngTlvType buf)
          actionField (mngLength buf) errAuth log := by
  rw [parse_eq_parseMng lib m hmng] at h ⊢
  by_cases hframe : ∃ actionField, MngFrame buf (beAt buf messageLengthOff 2) actionField
  case neg =>
      rcases parseMng_unframed lib { m with hdr := readHeader m.hdr buf } headerLog
        (not_exists.1 hframe) with hcode | hcode
      all_goals
        rw [hcode] at h
        rcases h with h | h | ⟨h, -⟩
        · cases h
        · cases h
        · exact absurd h (by decide)
  case pos =>
      obtain ⟨actionField, hframe⟩ := hframe
      obtain ⟨log, -, heq⟩ := parseMng_framed lib { m with hdr := readHeader m.hdr buf } headerLog hframe
      have hauth : AuthCode (parseMngAuth lib { m with hdr := readHeader m.hdr buf } buf (mngEnd buf)
        (mngRest buf (beAt buf messageLengthOff 2)) log).1 := parseMngAuth_code
      rw [heq] at h ⊢
      refine ⟨actionField, _, _, hframe, hauth, if_neg ?_⟩
      rintro hstop
      rw [if_pos hstop] at h
      rcases h with h | h | ⟨-, hignore⟩
      · exact hstop.1 h
      · exact hauth.ne_msg h
      · rw [hignore] at hstop
        exact absurd hstop.2 (by decide)

/-- A reply that is read to its end: all that is set, but the data where there is none. -/
theorem parse_reads_reply (hmng : MngHeader buf bufSize) (htype : mngTlvType buf = .management)
    (h : m.Reads (m.parse lib buf bufSize).1) :
    ∃ actionField id, ActionField.ofReply (buf actionFieldOff &&& 0xf) = some actionField ∧
      GoodReply m.prms.implementSpecific buf actionField id ∧
      (m.parse lib buf bufSize).2.1 = { m with
        hdr := readHeader m.hdr buf
        lastSig := false
        mngType := .management
        replyAction := actionField
        replayTlvId := .mng id
        dataGet := if mngLength buf = lengthFieldMngBase then m.dataGet else (readTlv buf id).2.1 } := by
  obtain ⟨actionField, errAuth, log, hframe, hauth, heq⟩ := parse_reads hmng h
  rw [heq, htype, parseMngTlv] at h ⊢
  have hcode : AuthCode (parseManagement ({ m with hdr := readHeader m.hdr buf }.framed buf) buf
      actionField (mngLength buf) errAuth log).1 := by
    rcases h with h | h | ⟨h, -⟩
    · rw [h]
      exact .ok
    · exact absurd h (ne_of_code (parseManagement_code hauth) (by decide) (by decide))
    · exact authCode_of_isAuth h
  obtain ⟨-, id, hgood⟩ := goodReply_of_code hcode
  obtain ⟨_, hreply⟩ := parseManagement_reply (m := { m with hdr := readHeader m.hdr buf }.framed buf)
    errAuth log hgood
  refine ⟨actionField, id, hframe.action_eq, hgood, ?_⟩
  rw [hreply, framed, htype]

/-- An error that is read to its end: all that is set, but the text where there is none. -/
theorem parse_reads_error (hfits : m.errorDisplay.Fits) (hmng : MngHeader buf bufSize)
    (htype : mngTlvType buf = .managementErrorStatus) (h : m.Reads (m.parse lib buf bufSize).1) :
    ∃ actionField id, ActionField.ofReply (buf actionFieldOff &&& 0xf) = some actionField ∧
      GoodError m.prms.implementSpecific buf actionField id ∧
      (m.parse lib buf bufSize).2.1 = { m with
        hdr := readHeader m.hdr buf
        lastSig := false
        mngType := .managementErrorStatus
        replyAction := actionField
        replayTlvId := .mng id
        errorId := UInt16.ofNat (beAt buf mngTlvOff 2)
        errorDisplay := if managementErrorTlvSize + 1 < mngLength buf
          then (readText buf).1.getD default else m.errorDisplay } := by
  obtain ⟨actionField, errAuth, log, hframe, hauth, heq⟩ := parse_reads hmng h
  rw [heq, htype, parseMngTlv] at h ⊢
  have hshown : ({ m with hdr := readHeader m.hdr buf }.framed buf).errorDisplay.Fits := hfits
  have hcode : (parseErrorStatus ({ m with hdr := readHeader m.hdr buf }.framed buf) buf
      actionField (mngLength buf) errAuth log).1 = .msg ∨
      AuthCode (parseErrorStatus ({ m with hdr := readHeader m.hdr buf }.framed buf) buf
      actionField (mngLength buf) errAuth log).1 := by
    rcases h with h | h | ⟨h, -⟩
    · exact absurd h (ne_of_code (parseErrorStatus_code hauth) (by decide) (by decide))
    · exact .inl h
    · exact .inr (authCode_of_isAuth h)
  obtain ⟨id, hgood⟩ := goodError_of_code hshown hcode
  obtain ⟨_, herror⟩ := parseErrorStatus_error errAuth log hshown hgood
  refine ⟨actionField, id, hframe.action_eq, hgood, ?_⟩
  rw [herror, framed, htype]

/-- Without `RCV_AUTH_IGNORE` an error of authentication ends the parse in front of the management TLV: all
    but the header and the types is that of earlier messages. -/
theorem parse_unread (hfits : m.errorDisplay.Fits) (hmng : MngHeader buf bufSize)
    (htype : mngTlvType buf = .management ∨ mngTlvType buf = .managementErrorStatus)
    (hstrict : m.prms.rcvAuthHas rcvAuthIgnore = false) (h : (m.parse lib buf bufSize).1.IsAuth) :
    (m.parse lib buf bufSize).2.1 = { m with hdr := readHeader m.hdr buf }.framed buf := by
  rw [parse_eq_parseMng lib m hmng] at h ⊢
  by_cases hframe : ∃ actionField, MngFrame buf (beAt buf messageLengthOff 2) actionField
  case neg =>
      rcases parseMng_unframed lib { m with hdr := readHeader m.hdr buf } headerLog
        (not_exists.1 hframe) with hcode | hcode
      all_goals
        rw [hcode] at h
        exact absurd h (by decide)
  case pos =>
      obtain ⟨actionField, hframe⟩ := hframe
      obtain ⟨log, -, heq⟩ := parseMng_framed lib { m with hdr := readHeader m.hdr buf } headerLog hframe
      rw [heq] at h ⊢
      split
      · rfl
      · next hgo =>
          have hok : (parseMngAuth lib { m with hdr := readHeader m.hdr buf } buf (mngEnd buf)
              (mngRest buf (beAt buf messageLengthOff 2)) log).1 = .ok := by
            by_contra hne
            exact hgo ⟨hne, hstrict⟩
          rw [if_neg hgo, hok] at h
          -- a TLV that is read has no code of authentication of its own
          rcases htype with htype | htype
          · rw [htype, parseMngTlv] at h
            obtain ⟨hcode, -⟩ := goodReply_of_code (authCode_of_isAuth h)
            rw [hcode] at h
            exact absurd h (by decide)
          · rw [htype, parseMngTlv] at h
            have hshown : ({ m with hdr := readHeader m.hdr buf }.framed buf).errorDisplay.Fits := hfits
            obtain ⟨id, hgood⟩ := goodError_of_code hshown (.inr (authCode_of_isAuth h))
            obtain ⟨log', herror⟩ := parseErrorStatus_error .ok _ hshown hgood
            rw [herror, if_neg (not_not_intro rfl)] at h
            have hmsg : MngParseError.msg.IsAuth := h
            exact absurd hmsg (by decide)

end Mng

/-! ## The type that stays behind -/

instance (buf : Nat → UInt8) : Decidable (headerOk buf) := inferInstanceAs (Decidable (_ ∧ _))

instance (buf : Nat → UInt8) (bufSize : Int) : Decidable (MngHeader buf bufSize) :=
  decidable_of_iff (sigBaseSize ≤ bufSize ∧ beAt buf messageLengthOff 2 ≤ bufSize ∧
      buf 0 &&& 0xf = MsgType.management ∧ mngMsgMinSize ≤ beAt buf messageLengthOff 2 ∧ headerOk buf)
    ⟨fun ⟨hbase, hlength, htype, hmin, hheader⟩ => ⟨hbase, hlength, htype, hmin, hheader⟩,
      fun h => ⟨h.base_le, h.length_le, h.type_eq, h.min_le, h.header⟩⟩

section Kind

variable (m : Message) (buf : Nat → UInt8) (bufSize : Int)

/-- The type of the message in the object, once there are octets enough for a header: that of an earlier
    message when the length is wrong. -/
def lastType : MsgType :=
  if (beAt buf messageLengthOff 2 : Int) > bufSize then m.hdr.type else buf 0 &&& 0xf

/-- The type of the management TLV in the object: that of an earlier message when the message is refused
    before its TLV. -/
def lastMngType : TlvType :=
  if MngHeader buf bufSize ∧ (ActionField.ofReply (buf actionFieldOff &&& 0xf)).isSome
  then mngTlvType buf else m.mngType

/-- The types are the same. -/
def SameKind (m m' : Message) : Prop := m'.hdr.type = m.hdr.type ∧ m'.mngType = m.mngType

end Kind

section Kind

variable {lib : HmacLib} {m : Message} {buf : Nat → UInt8} {log : ParseLog}

theorem parseMngTlv_kind {tlvType : TlvType} {actionField : ActionField} {tlvSize : Nat}
    {errAuth : MngParseError} :
    SameKind m (parseMngTlv m buf tlvType actionField tlvSize errAuth log).2.1 := by
  cases tlvType
  case managementErrorStatus =>
      simp only [parseMngTlv, parseErrorStatus]
      repeat' split
      all_goals exact ⟨rfl, rfl⟩
  case management =>
      simp only [parseMngTlv, parseManagement]
      repeat' split
      all_goals exact ⟨rfl, rfl⟩
  case organizationExtension =>
      simp only [parseMngTlv, parseSMPTE]
      repeat' split
      all_goals exact ⟨rfl, rfl⟩
  all_goals exact ⟨rfl, rfl⟩

theorem parseMng_kind {msgSize : Nat} :
    (parseMng lib m buf msgSize log).2.1.hdr.type = m.hdr.type ∧
    (parseMng lib m buf msgSize log).2.1.mngType =
      if (ActionField.ofReply (buf actionFieldOff &&& 0xf)).isSome then mngTlvType buf
      else m.mngType := by
  rw [parseMng]
  simp only
  split
  · next haction =>
      rw [haction]
      exact ⟨rfl, rfl⟩
  · next haction =>
      rw [haction]
      split
      · exact ⟨rfl, rfl⟩
      · split
        · exact ⟨rfl, rfl⟩
        · exact parseMngTlv_kind

theorem parseSig_hdr {leftAll : Int} : (parseSig lib m buf leftAll log).2.1.hdr = m.hdr := by
  rw [parseSig]
  split <;> rfl

theorem parseSig_kind {leftAll : Int} : SameKind m (parseSig lib m buf leftAll log).2.1 := by
  rw [parseSig]
  split <;> exact ⟨rfl, rfl⟩

theorem parseHeader_kind (m : Message) (buf : Nat → UInt8) (log : ParseLog) :
    SameKind m (parseHeader m buf log).2.1 := by
  rw [parseHeader]
  simp only
  split
  · exact ⟨rfl, rfl⟩
  · split <;> exact ⟨rfl, rfl⟩

theorem parse_kind (lib : HmacLib) (m : Message) (buf : Nat → UInt8) {bufSize : Int} (hbase : sigBaseSize ≤ bufSize) :
    (m.parse lib buf bufSize).2.1.hdr.type = m.lastType buf bufSize ∧
    (m.parse lib buf bufSize).2.1.mngType = m.lastMngType buf bufSize := by
  have hkind := parseHeader_kind { m with hdr := { m.hdr with type := buf 0 &&& 0xf } } buf
    ((ParseLog.init.look messageLengthOff 2).look 0 1)
  have hother : ¬ MngHeader buf bufSize → m.lastMngType buf bufSize = m.mngType := fun h =>
    if_neg fun hboth => h hboth.1
  -- the type is stored with the first octet, the type of the TLV only behind a header that is right
  rw [parse, if_neg (Int.not_lt.2 hbase)]
  simp only
  split
  · next hlong =>
      exact ⟨(if_pos hlong).symm, (hother fun h => absurd h.length_le (Int.not_le.2 hlong)).symm⟩
  · next hlength =>
      have htype : m.lastType buf bufSize = buf 0 &&& 0xf := if_neg hlength
      rw [htype]
      split
      · next hsig =>
          have hmng : m.lastMngType buf bufSize = m.mngType := hother fun h => by
            rw [h.type_eq] at hsig
            exact absurd hsig (by decide)
          rw [hmng]
          split
          · exact ⟨rfl, rfl⟩
          · split
            · next he =>
                rw [he] at hkind
                exact hkind
            · next he =>
                rw [he] at hkind
                exact ⟨parseSig_kind.1.trans hkind.1, parseSig_kind.2.trans hkind.2⟩
      · split
        · next hmng =>
            split
            · next hmin => exact ⟨rfl, (hother fun h => absurd h.min_le (Nat.not_le.2 hmin)).symm⟩
            · next hmin =>
                split
                · next he =>
                    rw [he] at hkind
                    refine ⟨hkind.1, hkind.2.trans (hother fun h => ?_).symm⟩
                    rw [parseHeader_of_ok h.header] at he
                    cases he
                · next he =>
                    rw [he] at hkind
                    have hheader : MngHeader buf bufSize := ⟨hbase, Int.not_lt.1 hlength, hmng,
                      Nat.not_lt.1 hmin, headerOk_of_parseHeader he⟩
                    refine ⟨parseMng_kind.1.trans hkind.1, parseMng_kind.2.trans ?_⟩
                    simp only [lastMngType, hheader, true_and]
                    rw [hkind.2]
        · next hmng => exact ⟨rfl, (hother fun h => absurd h.type_eq hmng).symm⟩

end Kind

end Message

end PtpMgmt
