import PtpMgmt.Message.Parse
import PtpMgmt.MngTlvs.Dispatch

set_option autoImplicit false

/-! # What a parse examines

A buffer that is received is not trusted. Whatever it holds, a parse examines octets of the message
only, every decoder stays inside of its TLV, and every loop ends.

`MsgProc.Within` is kept by every decoder because `Advances` comes with every codec, and
`ParseLog.Good` by everything that examines octets of its own. -/

namespace PtpMgmt

open Wire Codec

/-! ## Decoders -/

/-- The walk is inside of the `length` octets from `start` on. -/
structure MsgProc.Within (start length : Nat) (mp : MsgProc) : Prop where
  reads : ∀ o ∈ mp.reads, start ≤ o ∧ o < start + length
  le_cur : start ≤ mp.cur
  left_nonneg : 0 ≤ mp.left
  end_eq : mp.cur + mp.left = start + length
  stuck : mp.stuck = false

namespace MsgProc.Within

variable {start length : Nat} {mp : MsgProc}

theorem parseAt (buf : Nat → UInt8) (start length : Nat) :
    Within start length (.parseAt buf start length) where
  reads := by simp [MsgProc.parseAt]
  le_cur := le_rfl
  left_nonneg := Int.natCast_nonneg _
  end_eq := rfl
  stuck := rfl

/-- Every walk keeps it. -/
theorem advance {mp' : MsgProc} (h : Within start length mp) (hadv : Advances mp mp') :
    Within start length mp' := by
  have hcur := hadv.cur_le
  have hend := hadv.left_eq
  have hleft := hadv.left_nonneg h.left_nonneg
  have hle := h.le_cur
  have heq := h.end_eq
  obtain ⟨rs, hrs, hr⟩ := hadv.reads
  constructor
  case reads =>
      intro o ho
      rw [hrs, List.mem_append] at ho
      rcases ho with ho | ho
      · exact h.reads o ho
      · have := hr o ho
        omega
  case le_cur => omega
  case left_nonneg => exact hleft
  case end_eq => omega
  case stuck => rw [hadv.stuck_eq, h.stuck]

theorem run {α : Type} (h : Within start length mp) (c : Proc α) :
    Within start length (c.run mp).2 :=
  h.advance (c.advances mp)

theorem peek (h : Within start length mp) (off n : Nat) (hle : start ≤ off)
    (hend : off + n ≤ start + length) : Within start length (mp.peek off n) where
  reads o ho := by
    rcases List.mem_append.1 ho with ho | ho
    · exact h.reads o ho
    · rw [List.mem_range'_1] at ho
      omega
  le_cur := h.le_cur
  left_nonneg := h.left_nonneg
  end_eq := h.end_eq
  stuck := h.stuck

theorem skip (h : Within start length mp) (n : Nat) (hn : (n : Int) ≤ mp.left) :
    Within start length (mp.skip n) where
  reads := h.reads
  le_cur := Nat.le_trans h.le_cur (Nat.le_add_right _ _)
  left_nonneg := by
    simp only [MsgProc.skip]
    omega
  end_eq := by
    have heq := h.end_eq
    simp only [MsgProc.skip]
    push_cast
    omega
  stuck := h.stuck

theorem callTlvData (h : Within start length mp) (id : MngId) (tlv : TlvPtr) :
    Within start length (callTlvData id tlv mp).2.2 := by
  have hfresh : Within start length mp.fresh := ⟨h.reads, h.le_cur, h.left_nonneg, h.end_eq, h.stuck⟩
  exact hfresh.advance (callTlvData_advances id tlv mp)

end MsgProc.Within

/-! ## The log -/

/-- Nothing is examined behind the message of `msgSize` octets, the fixed part of the header apart,
    every decoder stayed inside of its TLV, and no loop was given up. -/
structure ParseLog.Good (buf : Nat → UInt8) (msgSize : Nat) (log : ParseLog) : Prop where
  reads : ∀ o ∈ log.reads, o < max sigBaseSize msgSize
  windows : ∀ w ∈ log.windows, w.length = beAt buf (w.start - 2) 2 ∧
    ∀ o ∈ w.reads, w.start ≤ o ∧ o < w.start + w.length
  stuck : log.stuck = false

namespace ParseLog.Good

variable {buf : Nat → UInt8} {msgSize : Nat} {log : ParseLog}

theorem init : Good buf msgSize ParseLog.init :=
  ⟨by simp [ParseLog.init], by simp [ParseLog.init], rfl⟩

theorem look (h : Good buf msgSize log) (off n : Nat) (hend : off + n ≤ max sigBaseSize msgSize) :
    Good buf msgSize (log.look off n) where
  reads o ho := by
    rcases List.mem_append.1 ho with ho | ho
    · exact h.reads o ho
    · rw [List.mem_range'_1] at ho
      omega
  windows := h.windows
  stuck := h.stuck

/-- What is deleted is none of the octets. -/
theorem delete (h : Good buf msgSize log) (ptr : TlvPtr) : Good buf msgSize (log.delete ptr) :=
  ⟨h.reads, h.windows, h.stuck⟩

theorem deleteTlvs (h : Good buf msgSize log) (tlvs : List (TlvType × BaseSigTlv)) :
    Good buf msgSize (log.deleteTlvs tlvs) :=
  ⟨h.reads, h.windows, h.stuck⟩

theorem head (h : Good buf msgSize log) (cur : Nat) : Good buf msgSize (log.head cur) :=
  ⟨h.reads, h.windows, h.stuck⟩

theorem decoder (h : Good buf msgSize log) {start length : Nat} {mp : MsgProc}
    (hmp : mp.Within start length) (hlen : length = beAt buf (start - 2) 2)
    (hend : start + length ≤ msgSize) : Good buf msgSize (log.decoder start length mp) where
  reads o ho := by
    rcases List.mem_append.1 ho with ho | ho
    · exact h.reads o ho
    · have := hmp.reads o ho
      omega
  windows w hw := by
    rcases List.mem_append.1 hw with hw | hw
    · exact h.windows w hw
    · obtain rfl := List.mem_singleton.1 hw
      exact ⟨hlen, hmp.reads⟩
  stuck := by
    simp only [ParseLog.decoder, h.stuck, hmp.stuck, Bool.or_self]

end ParseLog.Good

namespace Message

/-! ## Authentication TLVs -/

section Good

variable {lib : HmacLib} {buf : Nat → UInt8} {msgSize : Nat} {log : ParseLog}

theorem verifyIcv_good (h : log.Good buf msgSize) {a : Auth} {auth len : Nat} {spp : UInt8}
    {keyID : UInt32} (hend : auth + authTlvSize + len ≤ msgSize) :
    (verifyIcv lib a buf auth spp keyID len log).2.Good buf msgSize := by
  have hlook := (h.look (auth + authTlvSize) len (by omega)).look 0 (auth + authTlvSize) (by omega)
  rw [verifyIcv]
  simp only
  split
  · exact h
  · split
    · exact h
    · split <;> exact hlook

theorem parseAuth_good (h : log.Good buf msgSize) {a : Auth} {auth : Nat} {left : Int} {check : Bool}
    (hend : auth + left ≤ msgSize) :
    (parseAuth lib a buf auth left check log).2.Good buf msgSize := by
  rw [parseAuth]
  -- every octet it looks at lies in the fixed part, and the ICV behind it was measured
  split
  · exact h
  · next hleft =>
      have hfixed : auth + 10 ≤ msgSize := by
        simp only [authTlvSize] at hleft
        omega
      cases check with
      | true =>
          have htype := h.look auth 2 (by omega)
          have hkey := (htype.look (auth + 4) 1 (by omega)).look (auth + 6) 4 (by omega)
          have hlen := hkey.look (auth + 2) 2 (by omega)
          have hsec := hlen.look (auth + 5) 1 (by omega)
          simp only [Bool.true_and, if_true]
          split
          · exact htype
          · split
            · exact hkey
            · split
              · exact hlen
              · next hlong =>
                  rw [decide_eq_true_eq] at hlong
                  split
                  · exact hlen
                  · split
                    · exact hsec
                    · split
                      · exact hsec
                      · exact verifyIcv_good hsec (by omega)
      | false =>
          have hkey := (h.look (auth + 4) 1 (by omega)).look (auth + 6) 4 (by omega)
          have hsec := hkey.look (auth + 5) 1 (by omega)
          simp only [Bool.false_and, Bool.false_eq_true, if_false]
          split
          · exact hkey
          · split
            · exact hsec
            · split
              · exact hsec
              · exact verifyIcv_good hsec (by omega)

/-! ## Signalling messages -/

/-- What the loop over the TLVs keeps. The cursor may fall behind, but never gets ahead of the octets
    that are left. -/
structure SigInv (buf : Nat → UInt8) (msgSize : Nat) (s : SigState) : Prop where
  log : s.log.Good buf msgSize
  cur_le : s.cur + s.leftAll ≤ msgSize
  auth_le : s.lastAuth + s.lastAuthLen ≤ msgSize

variable {prms : MsgParams} {auth : Option Auth}

theorem caseBuild_within {α : Type} [Inhabited α] (f : α → Proc α) (mk : α → BaseSigTlv)
    {start length : Nat} {mp : MsgProc} (h : mp.Within start length) :
    (caseBuild f mk mp).2.Within start length := by
  have hrun := h.run (f default)
  rw [caseBuild]
  split <;> next he => rw [he] at hrun; exact hrun

theorem displayData_within (text : PTPText) {start length : Nat} {mp : MsgProc}
    (h : mp.Within start length) : (displayData text mp).2.Within start length := by
  rw [displayData]
  split
  · exact h.run _
  · exact h

theorem sigErrorStatus_within (spec : ImplementSpecific) (start length : Nat) :
    (sigErrorStatus spec buf (.parseAt buf start length)).2.Within start length := by
  have h := MsgProc.Within.parseAt buf start length
  rw [sigErrorStatus]
  split
  · exact h
  · next hleft =>
      have hroom : 8 ≤ length := by
        simp only [managementErrorTlvSize, MsgProc.parseAt_left] at hleft
        omega
      have hpeek := h.peek (start + 2) 2 (by omega) (by omega)
      have hskip := hpeek.skip managementErrorTlvSize (Int.not_lt.1 hleft)
      have htext := displayData_within default hskip
      simp only [MsgProc.parseAt_cur]
      split
      · exact hpeek
      · split
        · next he =>
            rw [he] at htext
            exact htext
        · next he =>
            rw [he] at htext
            exact htext.peek start 2 le_rfl (by omega)

theorem sigManagement_within (spec : ImplementSpecific) (start length : Nat) :
    (sigManagement spec buf (.parseAt buf start length)).2.Within start length := by
  have h := MsgProc.Within.parseAt buf start length
  rw [sigManagement]
  split
  · exact h
  · next hleft =>
      have hroom : 2 ≤ length := by
        simp only [MsgProc.parseAt_left] at hleft
        omega
      have hpeek := h.peek (MsgProc.parseAt buf start length).cur 2 le_rfl
        (Nat.add_le_add_left hroom _)
      simp only
      split
      · exact hpeek
      · next id _ =>
          have hcall := (hpeek.skip 2 (Int.not_lt.1 hleft)).callTlvData id .wild
          split
          · split
            · next he =>
                rw [he] at hcall
                exact hcall
            · next he =>
                rw [he] at hcall
                exact hcall
          · exact hpeek

theorem sigTlv_within (buf : Nat → UInt8) (spec : ImplementSpecific) (tlvType : TlvType) (start length : Nat) :
    (sigTlv spec buf tlvType (.parseAt buf start length)).2.Within start length := by
  have h := MsgProc.Within.parseAt buf start length
  cases tlvType
  case managementErrorStatus => exact sigErrorStatus_within spec start length
  case management => exact sigManagement_within spec start length
  case slaveDelayTimingDataNp =>
      simp only [sigTlv]
      split
      · exact caseBuild_within _ _ h
      · exact h
  all_goals first
    | exact caseBuild_within _ _ h
    | exact h

/-- Behind a decoder the cursor is at the end of the TLV. -/
theorem cur_of_within {start length : Nat} {mp : MsgProc} (h : mp.Within start length) :
    (if mp.left > 0 then mp.cur + mp.left.toNat else mp.cur) = start + length := by
  have hleft := h.left_nonneg
  have hend := h.end_eq
  split <;> omega

theorem sigAuth_inv {s : SigState} {lengthField : Nat} (h : SigInv buf msgSize s)
    (hcur : tlvSizeHdr ≤ s.cur) (hend : s.cur + lengthField ≤ msgSize) :
    SigInv buf msgSize (sigAuth lib prms auth buf lengthField s).2 := by
  cases auth with
  | none => exact h
  | some a =>
      have hlen : s.cur - tlvSizeHdr + (lengthField + tlvSizeHdr) ≤ msgSize := by omega
      simp only [sigAuth]
      split
      · have hgood : (parseAuth lib a buf (s.cur - tlvSizeHdr) (lengthField + tlvSizeHdr : Nat) false
            s.log).2.Good buf msgSize := parseAuth_good h.log (by exact_mod_cast hlen)
        split <;> exact ⟨hgood, h.cur_le, hlen⟩
      · exact ⟨h.log, h.cur_le, hlen⟩

theorem sigDecode_inv {s : SigState} {tlvType : TlvType} {lengthField : Nat}
    (h : SigInv buf msgSize s) (hcur : s.cur + lengthField + s.leftAll ≤ msgSize)
    (hlen : lengthField = beAt buf (s.cur - 2) 2) (hend : s.cur + lengthField ≤ msgSize) :
    SigInv buf msgSize (sigDecode prms buf tlvType lengthField s).2 := by
  have hwithin := sigTlv_within buf prms.implementSpecific tlvType s.cur lengthField
  rw [sigDecode]
  split
  · next he =>
      rw [he] at hwithin
      exact ⟨h.log.decoder hwithin hlen hend, h.cur_le, h.auth_le⟩
  · next he =>
      rw [he] at hwithin
      refine ⟨h.log.decoder hwithin hlen hend, ?_, h.auth_le⟩
      simp only [cur_of_within hwithin]
      exact_mod_cast hcur

/-- One round keeps the invariant and has a header less to go. -/
theorem sigStep_inv {s : SigState} (h : SigInv buf msgSize s) (hleft : tlvSizeHdr ≤ s.leftAll) :
    SigInv buf msgSize (sigStep lib prms auth buf s).2 := by
  have hcur := h.cur_le
  have hhead := (h.log.head s.cur).look s.cur tlvSizeHdr (by omega)
  rw [sigStep]
  simp only
  split
  · exact ⟨hhead, by simp only; push_cast; omega, h.auth_le⟩
  · next hlong =>
      have hroom := Int.not_lt.1 hlong
      split
      · exact sigAuth_inv ⟨hhead, by simp only; push_cast; omega, h.auth_le⟩ (by simp only; omega)
          (by simp only; omega)
      · split
        · exact ⟨hhead, by simp only; push_cast; omega, h.auth_le⟩
        · exact sigDecode_inv ⟨hhead, by simp only; push_cast; omega, h.auth_le⟩
            (by simp only; push_cast; omega) rfl (by simp only; omega)

theorem sigAuth_leftAll {s : SigState} {lengthField : Nat} :
    (sigAuth lib prms auth buf lengthField s).2.leftAll = s.leftAll := by
  cases auth with
  | none => rfl
  | some a =>
      simp only [sigAuth]
      split
      · split <;> rfl
      · rfl

theorem sigDecode_leftAll {s : SigState} {tlvType : TlvType} {lengthField : Nat} :
    (sigDecode prms buf tlvType lengthField s).2.leftAll = s.leftAll := by
  rw [sigDecode]
  split <;> rfl

theorem sigStep_leftAll {s : SigState} :
    (sigStep lib prms auth buf s).2.leftAll ≤ s.leftAll - tlvSizeHdr := by
  rw [sigStep]
  simp only
  split
  · exact le_rfl
  · split
    · rw [sigAuth_leftAll]
      simp only
      omega
    · split
      · simp only
        omega
      · rw [sigDecode_leftAll]
        simp only
        omega

/-- The loop keeps the invariant, and a round for every octet left is enough for it to end. -/
theorem sigLoop_inv (fuel : Nat) {s : SigState} (h : SigInv buf msgSize s)
    (hfuel : s.leftAll ≤ fuel) : SigInv buf msgSize (sigLoop lib prms auth buf fuel s).2 := by
  induction fuel generalizing s with
  | zero =>
      rw [sigLoop, if_pos (by simp only [tlvSizeHdr]; omega)]
      exact h
  | succ fuel ih =>
      rw [sigLoop]
      split
      · exact h
      · next hleft =>
          have hstep : SigInv buf msgSize (sigStep lib prms auth buf s).2 :=
            sigStep_inv h (Int.not_lt.1 hleft)
          have hless : (sigStep lib prms auth buf s).2.leftAll ≤ s.leftAll - tlvSizeHdr :=
            sigStep_leftAll
          split
          · next he =>
              rw [he] at hstep
              exact hstep
          · next he =>
              rw [he] at hstep hless
              refine ih hstep ?_
              simp only [tlvSizeHdr] at hless
              omega

theorem sigFinish_good {s : SigState} (h : SigInv buf msgSize s) :
    (sigFinish lib prms auth buf s).2.Good buf msgSize := by
  cases auth with
  | none => exact h.log
  | some a =>
      have hgood : (parseAuth lib a buf s.lastAuth s.lastAuthLen false s.log).2.Good buf msgSize :=
        parseAuth_good h.log (by exact_mod_cast h.auth_le)
      simp only [sigFinish]
      split
      · split
        · exact h.log
        · split
          · split <;> exact hgood
          · split <;> exact h.log
      · exact h.log

theorem parseSig_good {m : Message} {leftAll : Int} (h : log.Good buf msgSize)
    (hend : sigBaseSize + leftAll ≤ msgSize) :
    (parseSig lib m buf leftAll log).2.2.Good buf msgSize := by
  have hstart : SigInv buf msgSize (sigStart sigBaseSize leftAll log) :=
    ⟨h, hend, Nat.zero_le _⟩
  have hloop : SigInv buf msgSize (sigLoop lib m.prms m.auth buf leftAll.toNat
      (sigStart sigBaseSize leftAll log)).2 :=
    sigLoop_inv _ hstart (Int.self_le_toNat _)
  rw [parseSig]
  split
  · next he =>
      rw [he] at hloop
      exact hloop.log.deleteTlvs m.sigTlvs
  · next he =>
      rw [he] at hloop
      exact (sigFinish_good hloop).deleteTlvs m.sigTlvs

/-! ## Management messages -/

section MngTlv

variable {m : Message} {actionField : ActionField} {tlvSize : Nat} {errAuth : MngParseError}

theorem parseErrorStatus_good (h : log.Good buf msgSize) (hlen : tlvSize = beAt buf lengthFieldOff 2)
    (hend : mngTlvOff + tlvSize ≤ msgSize) :
    (parseErrorStatus m buf actionField tlvSize errAuth log).2.2.Good buf msgSize := by
  have hwithin := MsgProc.Within.parseAt buf mngTlvOff tlvSize
  rw [parseErrorStatus]
  split
  · exact h
  · simp only
    split
    · exact h
    · next hsize =>
        have hroom : 8 ≤ tlvSize := Nat.not_lt.1 hsize
        have hid := hwithin.peek (mngTlvOff + 2) 2 (by omega) (by omega)
        have herr := hid.peek mngTlvOff 2 le_rfl (by omega)
        have htext := displayData_within m.errorDisplay (herr.skip managementErrorTlvSize
          (show (managementErrorTlvSize : Int) ≤ tlvSize by exact_mod_cast hroom))
        split
        · exact h.decoder hid hlen hend
        · split
          · exact h.decoder hid hlen hend
          · split
            · next he =>
                rw [he] at htext
                exact h.decoder htext hlen hend
            · next he =>
                rw [he] at htext
                exact h.decoder htext hlen hend

theorem parseManagement_good (h : log.Good buf msgSize) (hlen : tlvSize = beAt buf lengthFieldOff 2)
    (hend : mngTlvOff + tlvSize ≤ msgSize) :
    (parseManagement m buf actionField tlvSize errAuth log).2.2.Good buf msgSize := by
  have hwithin := MsgProc.Within.parseAt buf mngTlvOff tlvSize
  rw [parseManagement]
  split
  · exact h
  · simp only
    split
    · exact h
    · next hsize =>
        have hroom : 2 ≤ tlvSize := Nat.not_lt.1 hsize
        have hid := hwithin.peek mngTlvOff 2 le_rfl (by omega)
        split
        · exact h.decoder hid hlen hend
        · next id _ =>
            have hcall := (hid.skip lengthFieldMngBase
              (show (lengthFieldMngBase : Int) ≤ tlvSize by exact_mod_cast hroom)).callTlvData id .wild
            split
            · exact h.decoder hid hlen hend
            · split
              · exact h.decoder hid hlen hend
              · split
                · next he =>
                    rw [he] at hcall
                    exact (h.decoder hcall hlen hend).delete m.dataGet
                · next he =>
                    rw [he] at hcall
                    exact h.decoder hcall hlen hend

theorem parseSMPTE_good (h : log.Good buf msgSize) (hlen : tlvSize = beAt buf lengthFieldOff 2)
    (hend : mngTlvOff + tlvSize ≤ msgSize) :
    (parseSMPTE m buf actionField tlvSize errAuth log).2.2.Good buf msgSize := by
  have hrun := (MsgProc.Within.parseAt buf mngTlvOff tlvSize).run
    (smpteOrganizationExtensionF default)
  rw [parseSMPTE]
  split
  · exact h
  · split
    · exact h
    · simp only
      split
      · next he =>
          rw [he] at hrun
          exact h.decoder hrun hlen hend
      · next he =>
          rw [he] at hrun
          exact (h.decoder hrun hlen hend).delete m.dataGet

theorem parseMngTlv_good {tlvType : TlvType} (h : log.Good buf msgSize)
    (hlen : tlvSize = beAt buf lengthFieldOff 2) (hend : mngTlvOff + tlvSize ≤ msgSize) :
    (parseMngTlv m buf tlvType actionField tlvSize errAuth log).2.2.Good buf msgSize := by
  cases tlvType
  case managementErrorStatus => exact parseErrorStatus_good h hlen hend
  case management => exact parseManagement_good h hlen hend
  case organizationExtension => exact parseSMPTE_good h hlen hend
  all_goals exact h

end MngTlv

theorem parseMngAuth_good {m : Message} (h : log.Good buf msgSize) {off : Nat} {left : Int}
    (hend : off + left ≤ msgSize) : (parseMngAuth lib m buf off left log).2.Good buf msgSize := by
  rw [parseMngAuth]
  split
  · exact h
  · split
    · exact parseAuth_good h hend
    · exact h

theorem parseMng_good {m : Message} (h : log.Good buf msgSize) (hmin : mngMsgMinSize ≤ msgSize) :
    (parseMng lib m buf msgSize log).2.2.Good buf msgSize := by
  have haction := h.look actionFieldOff 1 (le_trans (le_trans (by decide) hmin) (le_max_right _ _))
  have htlv := haction.look mngMsgSize tlvSizeHdr (le_trans hmin (le_max_right _ _))
  rw [parseMng]
  simp only
  split
  · exact haction
  · split
    · exact htlv
    · next hroom =>
        rw [not_or, Int.not_lt] at hroom
        have hend : mngTlvOff + beAt buf lengthFieldOff 2 ≤ msgSize := by
          have := hroom.1
          simp only [mngTlvOff]
          omega
        have hleft : ((mngTlvOff + beAt buf lengthFieldOff 2 : Nat) : Int) + ((msgSize : Int)
            - mngMsgMinSize - beAt buf lengthFieldOff 2) ≤ msgSize := by
          simp only [mngTlvOff]
          push_cast
          omega
        split
        · exact parseMngAuth_good htlv hleft
        · exact parseMngTlv_good (parseMngAuth_good htlv hleft) rfl hend

/-! ## All messages -/

theorem parseHeader_good {m m' : Message} {ok : Bool} {log' : ParseLog} (h : log.Good buf msgSize)
    (he : parseHeader m buf log = (ok, m', log')) : log'.Good buf msgSize := by
  have hbase : ∀ n, n ≤ sigBaseSize → n ≤ max sigBaseSize msgSize := fun n hn =>
    le_trans hn (le_max_left _ _)
  have hversion := h.look 1 1 (hbase _ (by decide))
  have hinterval := hversion.look logMessageIntervalOff 1 (hbase _ (by decide))
  have hfields := (((hinterval.look 4 3 (hbase _ (by decide))).look 30 2 (hbase _ (by decide))).look
    20 10 (hbase _ (by decide))).look 34 10 (hbase _ (by decide))
  rw [parseHeader] at he
  simp only at he
  split at he
  · cases he
    exact hversion
  · split at he
    · cases he
      exact hinterval
    · cases he
      exact hfields

/-- Whatever the buffer holds, the log of a parse is good. -/
theorem parse_good (lib : HmacLib) (m : Message) (buf : Nat → UInt8) (bufSize : Int) :
    (m.parse lib buf bufSize).2.2.Good buf (beAt buf messageLengthOff 2) := by
  have hbase : ∀ n, n ≤ sigBaseSize → n ≤ max sigBaseSize (beAt buf messageLengthOff 2) :=
    fun n hn => le_trans hn (le_max_left _ _)
  have hinit : ParseLog.init.Good buf (beAt buf messageLengthOff 2) := .init
  have hlength := hinit.look messageLengthOff 2 (hbase _ (by decide))
  have htype := hlength.look 0 1 (hbase _ (by decide))
  rw [parse]
  simp only
  split
  · exact hinit
  · split
    · exact hlength
    · split
      · split
        · exact htype
        · split
          · next he => exact parseHeader_good htype he
          · next he => exact parseSig_good (parseHeader_good htype he) (by omega)
      · split
        · split
          · exact htype
          · next hmin =>
              split
              · next he => exact parseHeader_good htype he
              · next he => exact parseMng_good (parseHeader_good htype he) (Nat.not_lt.1 hmin)
        · exact htype

/-- A buffer that cannot hold the message it declares is examined in its header only. -/
theorem parse_reads_lt (lib : HmacLib) (m : Message) (buf : Nat → UInt8) (bufSize : Int) :
    ∀ o ∈ (m.parse lib buf bufSize).2.2.reads, (o : Int) < bufSize := by
  intro o ho
  have hgood := (parse_good lib m buf bufSize).reads o ho
  by_cases hsmall : bufSize < sigBaseSize
  · rw [parse, if_pos hsmall] at ho
    exact absurd ho (by simp [ParseLog.init])
  · by_cases hlong : (beAt buf messageLengthOff 2 : Int) > bufSize
    · rw [parse, if_neg hsmall] at ho
      simp only [hlong, if_true] at ho
      simp only [ParseLog.look, ParseLog.init, List.nil_append, List.mem_range'_1,
        messageLengthOff] at ho
      simp only [sigBaseSize] at hsmall
      omega
    · omega

end Good

/-- **What a parse examines of a buffer that is not trusted**: octets of the buffer only, behind the
    fixed header only octets of the message, in every decoder only octets of its TLV; and every loop
    ends. -/
theorem parse_bounded (lib : HmacLib) (m : Message) (buf : Nat → UInt8) (bufSize : Int) :
    (∀ o ∈ (m.parse lib buf bufSize).2.2.reads,
      (o : Int) < bufSize ∧ (sigBaseSize ≤ o → o < beAt buf messageLengthOff 2)) ∧
    (∀ w ∈ (m.parse lib buf bufSize).2.2.windows, w.length = beAt buf (w.start - 2) 2 ∧
      ∀ o ∈ w.reads, w.start ≤ o ∧ o < w.start + w.length) ∧
    (m.parse lib buf bufSize).2.2.stuck = false := by
  have hgood := parse_good lib m buf bufSize
  refine ⟨fun o ho => ⟨parse_reads_lt lib m buf bufSize o ho, fun hfixed => ?_⟩, hgood.windows,
    hgood.stuck⟩
  have hlt := hgood.reads o ho
  omega

end Message

end PtpMgmt
