import PtpMgmt.MngTlvs.Proofs

set_option autoImplicit false

/-! # `call_tlv_data` against its specification

What follows for `callTlvData` from the codecs: its code, how far it moves the cursor, and that a
dataField that was built is parsed back. -/

namespace PtpMgmt

open Wire Codec

/-- The code is an error when it is not OK. -/
theorem callTlvData_fault (id : MngId) (tlv : TlvPtr) (mp : MsgProc) :
    (callTlvData id tlv mp).1 = .ok ∨ IsFault (callTlvData id tlv mp).1 := by
  have hfresh : IsFault mp.fresh.err := by
    show IsFault MngParseError.tooSmall
    decide
  have hrun : ∀ d, IsFault ((tlvF id d).run mp.fresh).2.err :=
    fun d => ((tlvF id d).advances mp.fresh).err hfresh
  rw [callTlvData]
  split
  · exact .inl rfl
  · split
    · split
      · exact .inr (show IsFault MngParseError.mismatchTlv by decide)
      · next d _ =>
          have hfault := hrun d
          split
          · next he =>
              rw [he] at hfault
              exact .inr hfault
          · exact .inl rfl
    · have hfault := hrun default
      split
      · next he =>
          rw [he] at hfault
          exact .inr hfault
      · exact .inl rfl

/-- Whatever it is given, `call_tlv_data` walks as every codec does. -/
theorem callTlvData_advances (id : MngId) (tlv : TlvPtr) (mp : MsgProc) :
    Advances mp.fresh (callTlvData id tlv mp).2.2 := by
  rw [callTlvData]
  split
  · exact Advances.refl _
  · split
    · split
      · exact Advances.refl _
      · next a _ =>
          have hadv := (tlvF id a).advances mp.fresh
          split <;> next he => rw [he] at hadv; exact hadv
    · have hadv := (tlvF id default).advances mp.fresh
      split <;> next he => rw [he] at hadv; exact hadv

/-! ## Building -/

/-- With room the dataField is written; without, the build fails for want of room. -/
theorem callTlvData_builds {id : MngId} {d : Tlv id} {a : Tlv id} {w : List UInt8} {mp : MsgProc}
    (h : (mngAllVals id).func ≠ .na) (hw : Builds (tlvF id d) a w) (hb : mp.build = true)
    (hleft : 0 ≤ mp.left) :
    ((w.length : Int) ≤ mp.left →
      callTlvData id (.obj (.tlv id d)) mp = (.ok, .obj (.tlv id a), mp.fresh.emit w)) ∧
    (mp.left < w.length → (callTlvData id (.obj (.tlv id d)) mp).1 = .tooSmall) := by
  obtain ⟨hok, hshort⟩ := hw mp.fresh hb hleft
  rw [callTlvData_build d h hb]
  refine ⟨fun hroom => ?_, fun hroom => ?_⟩
  · rw [hok hroom]
  · obtain ⟨hnone, herr⟩ := hshort hroom
    split
    · next mp' hrun =>
        rw [hrun] at herr
        exact herr
    · next a' mp' hrun =>
        rw [hrun] at hnone
        exact absurd hnone (by simp)

/-- A value that does not fit is never built. -/
theorem callTlvData_refuses {id : MngId} {d : Tlv id} (mp : MsgProc)
    (hbuild : (mngAllVals id).func.builds = true) (h : (mngAllVals id).func ≠ .na)
    (hb : mp.build = true) (hfit : ¬ tlvValuesFit id d) :
    (callTlvData id (.obj (.tlv id d)) mp).1 ≠ .ok := by
  obtain ⟨hnone, herr⟩ := tlvF_refuses id d hbuild hfit mp.fresh hb
  rw [callTlvData_build d h hb]
  split
  · next mp' hrun =>
      rw [hrun] at herr
      simp only [MsgProc.fresh_err] at herr
      rcases herr with herr | herr <;> simp [herr]
  · next a mp' hrun =>
      rw [hrun] at hnone
      exact absurd hnone (by simp)

/-! ## Round trip -/

/-- **A dataField that was built is parsed back**, alone or with the octet that pads it, up to the
    flags cut to their mask and the lengths and counts set to the real numbers. -/
theorem callTlvData_roundTrip (id : MngId) (hcodec : (mngAllVals id).func ≠ .na) (d : Tlv id)
    (hfits : tlvFits id d) (mp mp' : MsgProc) (tlv' : TlvPtr) (hbuild : mp.build = true)
    (hleft : 0 ≤ mp.left) (hok : callTlvData id (.obj (.tlv id d)) mp = (.ok, tlv', mp')) :
    ∃ w : List UInt8, mp'.mem = store mp.mem mp.cur w ∧ mp'.cur = mp.cur + w.length ∧
      ∀ (rp : MsgProc) (ptr : TlvPtr), rp.build = false → slice rp.mem rp.cur w.length = w →
        (rp.left = w.length ∨ w.length % 2 = 1 ∧ rp.left = w.length + 1) →
        ∃ rp', callTlvData id ptr rp = (.ok, .obj (.tlv id (tlvNorm id d)), rp') := by
  obtain ⟨hvalues, haddr, hcounts⟩ := hfits
  obtain ⟨w, hlen, hw, hparse⟩ := tlvF_roundTrips id d hvalues haddr
  obtain ⟨hroom, hshort⟩ := callTlvData_builds hcodec hw hbuild hleft
  have hfit : (w.length : Int) ≤ mp.left := by
    by_contra hlt
    have herr := hshort (Int.not_le.1 hlt)
    rw [hok] at herr
    cases herr
  rw [hroom hfit] at hok
  simp only [Prod.mk.injEq, true_and] at hok
  obtain ⟨-, rfl⟩ := hok
  refine ⟨w, rfl, rfl, fun rp ptr hb hholds hend => ?_⟩
  have hrun := hparse hcounts rp.fresh hb (by simp only [MsgProc.fresh_left]; omega)
    (by simp only [MsgProc.fresh_left]; omega) hholds
  exact ⟨rp.fresh.consume w.length, by rw [callTlvData_parse ptr hcodec hb, hrun]⟩

/-- A build of a user description of two octets, into a buffer with room for ten. -/
def userDescriptionBuild : MsgProc where
  build := true
  cur := 54
  left := 10
  size := 0
  err := .tooSmall
  mem := fun _ => 0
  reads := []
  writes := []
  stuck := false

theorem callTlvData_roundTrip_userDescription :
    ∃ w : List UInt8, ∀ (rp : MsgProc) (ptr : TlvPtr), rp.build = false →
      slice rp.mem rp.cur w.length = w → rp.left = w.length →
      ∃ rp', callTlvData .userDescription ptr rp
        = (.ok, .obj (.tlv .userDescription ⟨⟨2, [0x41, 0x42]⟩⟩), rp') := by
  have hfits : tlvFits .userDescription ⟨⟨0, [0x41, 0x42]⟩⟩ :=
    ⟨by simp [tlvValuesFit, PTPText.Fits], trivial, trivial⟩
  obtain ⟨w, -, -, hparse⟩ := callTlvData_roundTrip .userDescription (by decide)
    ⟨⟨0, [0x41, 0x42]⟩⟩ hfits userDescriptionBuild _ _ rfl (by decide) rfl
  exact ⟨w, fun rp ptr hb hw hleft => hparse rp ptr hb hw (.inl hleft)⟩

end PtpMgmt
