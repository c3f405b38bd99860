import PtpMgmt.MsgProc.Basic
import PtpMgmt.Wire.Bounds

set_option autoImplicit false

/-! # What the field codec writes and reads back

Every `proc` is given its octets or at least their count. Numbers and the records made of them go
out and come back whatever the value is, and are instances, so that a TLV of such fields needs no
proof of its own. The others come back under a condition (`Fits`), possibly with a derived length
set to the real one (`norm`):

- a text is at most 255 octets (a longer one is refused),
- an address is at most 65535 octets (a longer one is *not* refused),
- 48-bit seconds are in range (others are refused). -/

namespace PtpMgmt

open Wire Codec

/-! ## Numbers -/

theorem procBU_roundTrips {α : Type} {len : Nat} {toNat : α → Nat} {ofNat : Nat → α} {val : α}
    (v0 : α) (hof : ofNat (toNat val) = val) (hlt : toNat val < 256 ^ len) :
    RoundTrips (procBU len toNat ofNat val) (procBU len toNat ofNat v0) val
      (beOctets len (toNat val)) := by
  refine RoundTrips.field v0 (length_beOctets _ _) ?_
  rw [ofBe_beOctets, Nat.mod_eq_of_lt hlt, hof]

theorem procBU_roundTripsIn {α : Type} {len : Nat} {toNat : α → Nat} {ofNat : Nat → α} {val : α}
    (v0 : α) (hof : ofNat (toNat val) = val) (hlt : toNat val < 256 ^ len) :
    RoundTripsIn (procBU len toNat ofNat val) (procBU len toNat ofNat v0) val len :=
  (procBU_roundTrips v0 hof hlt).size.of_eq (length_beOctets _ _)

section Numbers

theorem procUInt8_roundTrips (v v0 : UInt8) :
    RoundTrips (proc v) (proc v0) v (beOctets 1 v.toNat) :=
  procBU_roundTrips v0 UInt8.ofNat_toNat v.toNat_lt

theorem beOctets_toNat_ofNat8 (n : Nat) : beOctets 1 (UInt8.ofNat n).toNat = beOctets 1 n := by
  rw [UInt8.toNat_ofNat']
  exact beOctets_mod 1 n

theorem beOctets_toNat_ofNat16 (n : Nat) : beOctets 2 (UInt16.ofNat n).toNat = beOctets 2 n := by
  rw [UInt16.toNat_ofNat']
  exact beOctets_mod 2 n

theorem procUInt16_roundTrips (v v0 : UInt16) :
    RoundTrips (proc v) (proc v0) v (beOctets 2 v.toNat) :=
  procBU_roundTrips v0 UInt16.ofNat_toNat v.toNat_lt

theorem procInt8_roundTrips (v v0 : Int8) :
    RoundTrips (proc v) (proc v0) v (beOctets 1 v.toUInt8.toNat) :=
  procBU_roundTrips v0 (by simp) v.toUInt8.toNat_lt

theorem procInt16_roundTrips (v v0 : Int16) :
    RoundTrips (proc v) (proc v0) v (beOctets 2 v.toUInt16.toNat) :=
  procBU_roundTrips v0 (by simp) v.toUInt16.toNat_lt

instance (v v0 : UInt8) : RoundTripsIn (proc v) (proc v0) v 1 :=
  procBU_roundTripsIn v0 UInt8.ofNat_toNat v.toNat_lt

instance (v v0 : UInt16) : RoundTripsIn (proc v) (proc v0) v 2 :=
  procBU_roundTripsIn v0 UInt16.ofNat_toNat v.toNat_lt

instance (v v0 : UInt32) : RoundTripsIn (proc v) (proc v0) v 4 :=
  procBU_roundTripsIn v0 UInt32.ofNat_toNat v.toNat_lt

instance (v v0 : UInt64) : RoundTripsIn (proc v) (proc v0) v 8 :=
  procBU_roundTripsIn v0 UInt64.ofNat_toNat v.toNat_lt

instance (v v0 : Int8) : RoundTripsIn (proc v) (proc v0) v 1 :=
  procBU_roundTripsIn v0 (by simp) v.toUInt8.toNat_lt

instance (v v0 : Int16) : RoundTripsIn (proc v) (proc v0) v 2 :=
  procBU_roundTripsIn v0 (by simp) v.toUInt16.toNat_lt

instance (v v0 : Int32) : RoundTripsIn (proc v) (proc v0) v 4 :=
  procBU_roundTripsIn v0 (by simp) v.toUInt32.toNat_lt

instance (v v0 : Int64) : RoundTripsIn (proc v) (proc v0) v 8 :=
  procBU_roundTripsIn v0 (by simp) v.toUInt64.toNat_lt

end Numbers

instance procBU_inBounds {α : Type} (len : Nat) (toNat : α → Nat) (ofNat : Nat → α) (val : α) :
    InBounds (procBU len toNat ofNat val) :=
  InBounds.field (by simp)

instance (v : UInt8) : InBounds (proc v) := procBU_inBounds ..
instance (v : UInt16) : InBounds (proc v) := procBU_inBounds ..
instance (v : UInt32) : InBounds (proc v) := procBU_inBounds ..
instance (v : UInt64) : InBounds (proc v) := procBU_inBounds ..
instance (v : Int8) : InBounds (proc v) := procBU_inBounds ..
instance (v : Int16) : InBounds (proc v) := procBU_inBounds ..
instance (v : Int32) : InBounds (proc v) := procBU_inBounds ..
instance (v : Int64) : InBounds (proc v) := procBU_inBounds ..

instance procRes_roundTripsIn : RoundTripsIn procRes procRes () 1 :=
  inferInstanceAs (RoundTripsIn (proc (0 : UInt8) >>= fun _ => pure ()) (proc (0 : UInt8) >>= _) _
    (1 + 0))

instance procRes_inBounds : InBounds procRes :=
  inferInstanceAs (InBounds (proc (0 : UInt8) >>= _))

/-- What a build makes of the flags. -/
def normFlags (flags flagsMask : UInt8) : UInt8 :=
  if flagsMask > 1 then flags &&& flagsMask else if flags > 0 then 1 else flags

instance procFlags_roundTripsIn (flags f0 flagsMask : UInt8) :
    RoundTripsIn (procFlags flags flagsMask) (procFlags f0 flagsMask) (normFlags flags flagsMask)
      1 :=
  RoundTripsIn.isBuild (inferInstanceAs (RoundTripsIn (proc (normFlags flags flagsMask)) (proc f0)
    _ _))

instance procFlags_inBounds (flags flagsMask : UInt8) : InBounds (procFlags flags flagsMask) :=
  inferInstanceAs (InBounds (isBuild >>= _))

theorem procLe_roundTrips (v v0 : UInt64) :
    RoundTrips (procLe v) (procLe v0) v (leOctets 8 v.toNat) := by
  refine RoundTrips.field v0 (length_leOctets _ _) ?_
  rw [ofLe_leOctets, Nat.mod_eq_of_lt (show v.toNat < 256 ^ 8 from v.toNat_lt), UInt64.ofNat_toNat]

instance procLe_roundTripsIn (v v0 : UInt64) : RoundTripsIn (procLe v) (procLe v0) v 8 :=
  (procLe_roundTrips v v0).size.of_eq (length_leOctets _ _)

instance procLe_inBounds (v : UInt64) : InBounds (procLe v) :=
  InBounds.field (by simp)

/-! ## 48-bit numbers -/

/-- The two halves of a 48-bit number add up to it. -/
theorem proc48_halves {val : UInt64} (h : val ≤ uint48Max) :
    (val &&& 0xffffffff).toUInt32.toUInt64 ||| (((val >>> 32) &&& 0xffff).toUInt16.toUInt64 <<< 32)
      = val := by
  have hle : val.toNat ≤ 0xffffffffffff := UInt64.le_iff_toNat_le.1 h
  have hmask32 : ∀ n, n &&& 0xffffffff = n % 4294967296 := fun n =>
    Nat.and_two_pow_sub_one_eq_mod n 32
  have hmask16 : ∀ n, n &&& 0xffff = n % 65536 := fun n =>
    Nat.and_two_pow_sub_one_eq_mod n 16
  have hlow : (val &&& 0xffffffff).toUInt32.toUInt64.toNat = val.toNat % 4294967296 := by
    simp [hmask32]
  have hhigh : ((val >>> 32) &&& 0xffff).toUInt16.toUInt64.toNat = val.toNat / 4294967296 := by
    simp [Nat.shiftRight_eq_div_pow, hmask16]
    omega
  have hshift : (((val >>> 32) &&& 0xffff).toUInt16.toUInt64 <<< 32).toNat
      = 2 ^ 32 * (val.toNat / 4294967296) := by
    rw [UInt64.toNat_shiftLeft, hhigh, Nat.shiftLeft_eq]
    simp only [UInt64.reduceToNat, Nat.reduceMod, Nat.reducePow]
    omega
  apply UInt64.toNat_inj.1
  rw [UInt64.toNat_or, hlow, hshift, Nat.or_comm,
    ← Nat.two_pow_add_eq_or_of_lt (Nat.mod_lt _ (by decide))]
  omega

theorem proc48_roundTripsIn {val : UInt64} (v0 : UInt64) (h : val ≤ uint48Max) :
    RoundTripsIn (proc48 val) (proc48 v0) val 6 := by
  have hbody : RoundTripsIn
      (do
        let _ ← proc ((val >>> 32) &&& 0xffff).toUInt16
        let _ ← proc (val &&& 0xffffffff).toUInt32
        return val : Proc UInt64)
      (do
        let high ← proc (0 : UInt16)
        let low ← proc (0 : UInt32)
        return low.toUInt64 ||| (high.toUInt64 <<< 32)) val (2 + (4 + 0)) := by
    refine .andThen inferInstance (.andThen inferInstance ?_)
    simp only [proc48_halves h]
    infer_instance
  obtain ⟨w, hlen, hw⟩ := hbody.octets
  refine ⟨w, hlen, RoundTrips.need hlen.ge (RoundTrips.isBuild ?_)⟩
  have hmax : ¬ val > uint48Max := Nat.not_lt.2 h
  simp only [hmax, decide_false, Bool.and_false, Bool.false_and]
  exact hw

theorem procBU_err {α : Type} (len : Nat) (toNat : α → Nat) (ofNat : Nat → α) (val : α)
    (s : MsgProc) : ((procBU len toNat ofNat val).run s).2.err = s.err :=
  run_field_err _ _ _ _ s

theorem proc48_refuses {val : UInt64} (h : ¬ val ≤ uint48Max) : Refuses .val (proc48 val) := by
  refine Refuses.bind_right (run_need_err _) fun _ => Refuses.isBuild ?_
  have hmax : val > uint48Max := Nat.not_le.1 h
  simp only [hmax, decide_true, Bool.and_true, if_true]
  exact fun s _ => ⟨rfl, .inr rfl⟩

instance proc48_inBounds (val : UInt64) : InBounds (proc48 val) :=
  inferInstanceAs (InBounds (need sizeofUInteger48 >>= fun _ => isBuild >>= _))

/-! ## Texts and octet strings -/

theorem procString_roundTrips {str : List UInt8} (len : UInt16) (h : str.length < 65536) :
    RoundTrips (procString str len) (procString [] (UInt16.ofNat str.length)) str str := by
  have hlen : (UInt16.ofNat str.length).toNat = str.length := UInt16.toNat_ofNat_of_lt' h
  refine RoundTrips.isBuild ?_
  simp only [if_true, Bool.false_eq_true, if_false, hlen, List.take_length]
  exact RoundTrips.xfer _ rfl

theorem procBinary_roundTrips {bin : Binary} (len : UInt16) (h : bin.length < 65536) :
    RoundTrips (procBinary bin len) (procBinary [] (UInt16.ofNat bin.length)) bin bin := by
  have hlen : (UInt16.ofNat bin.length).toNat = bin.length := UInt16.toNat_ofNat_of_lt' h
  refine RoundTrips.isBuild ?_
  simp only [if_true, Bool.false_eq_true, if_false, hlen]
  exact RoundTrips.xfer _ rfl

instance procString_inBounds (str : List UInt8) (len : UInt16) : InBounds (procString str len) :=
  have : ∀ n, InBounds (xfer n (str.take n) : Proc _) := fun n =>
    InBounds.xfer (List.length_take_le n str)
  inferInstanceAs (InBounds (isBuild >>= _))

/-- `Binary::copy` stays inside what was checked only when the length fits 16 bits. -/
theorem procBinary_inBounds {bin : Binary} (len : UInt16) (h : bin.length < 65536) :
    InBounds (procBinary bin len) := by
  have hlen : (UInt16.ofNat bin.length).toNat = bin.length := UInt16.toNat_ofNat_of_lt' h
  refine InBounds.isBuild_bind ?_
  simp only [if_true, hlen]
  exact InBounds.xfer le_rfl

instance procOctets_roundTripsIn {n : Nat} (v v0 : Octets n) :
    RoundTripsIn (procOctets v) (procOctets v0) v n :=
  (RoundTrips.field v0 v.toList_length (Octets.ofList_toList v)).size.of_eq v.toList_length

instance procOctets_inBounds {n : Nat} (v : Octets n) : InBounds (procOctets v) :=
  InBounds.field (by simp)

theorem ofFn_getD {n : Nat} (v : List.Vector UInt64 n) :
    List.Vector.ofFn (fun i : Fin n => v.toList.getD i 0) = v := by
  apply List.Vector.ext
  intro i
  rw [List.Vector.get_ofFn, List.Vector.get_eq_get_toList]
  simp

instance procLeArr_roundTripsIn {n : Nat} (v v0 : List.Vector UInt64 n) :
    RoundTripsIn (procLeArr v) (procLeArr v0) v (n * 8) := by
  have heach := RoundTrips.each_each (p := procLe) procLe_roundTrips v.toList v0.toList (by simp)
  have hlen : (v.toList.flatMap fun x => leOctets 8 x.toNat).length = n * 8 := by
    simp [List.length_flatMap]
  have hall : RoundTripsIn (procLeArr v) (procLeArr v0) _ (n * 8 + 0) :=
    .andThen (heach.size.of_eq hlen) inferInstance
  rwa [ofFn_getD] at hall

instance procLeArr_inBounds {n : Nat} (v : List.Vector UInt64 n) : InBounds (procLeArr v) :=
  have := InBounds.each v.toList fun x _ => procLe_inBounds x
  inferInstanceAs (InBounds (each procLe v.toList >>= _))

/-! ## Records -/

instance (v v0 : TimeInterval) : RoundTripsIn (proc v) (proc v0) v TimeInterval.size :=
  inferInstanceAs (RoundTripsIn (proc v.scaledNanoseconds >>= _) (proc v0.scaledNanoseconds >>= _) _
    (8 + 0))

instance (v v0 : ClockIdentity) : RoundTripsIn (proc v) (proc v0) v ClockIdentity.size :=
  inferInstanceAs (RoundTripsIn (procOctets v.v >>= _) (procOctets v0.v >>= _) _ (8 + 0))

instance (d d0 : PortIdentity) : RoundTripsIn (proc d) (proc d0) d PortIdentity.size :=
  inferInstanceAs (RoundTripsIn (proc d.clockIdentity >>= _) (proc d0.clockIdentity >>= _) _
    (8 + (2 + 0)))

instance (d d0 : ClockQuality) : RoundTripsIn (proc d) (proc d0) d ClockQuality.size :=
  inferInstanceAs (RoundTripsIn (proc d.clockClass >>= _) (proc d0.clockClass >>= _) _
    (1 + (1 + (2 + 0))))

instance (d d0 : AcceptableMaster) : RoundTripsIn (proc d) (proc d0) d AcceptableMaster.size :=
  inferInstanceAs (RoundTripsIn (proc d.acceptablePortIdentity >>= _) (proc _ >>= _) _
    (10 + (1 + 0)))

instance (v : TimeInterval) : InBounds (proc v) :=
  inferInstanceAs (InBounds (proc v.scaledNanoseconds >>= _))

instance (d : Timestamp) : InBounds (proc d) :=
  inferInstanceAs (InBounds (proc48 d.secondsField >>= _))

instance (v : ClockIdentity) : InBounds (proc v) :=
  inferInstanceAs (InBounds (procOctets v.v >>= _))

instance (d : PortIdentity) : InBounds (proc d) :=
  inferInstanceAs (InBounds (proc d.clockIdentity >>= _))

instance (d : ClockQuality) : InBounds (proc d) :=
  inferInstanceAs (InBounds (proc d.clockClass >>= _))

instance (d : AcceptableMaster) : InBounds (proc d) :=
  inferInstanceAs (InBounds (proc d.acceptablePortIdentity >>= _))

instance (d : PTPText) : InBounds (proc d) :=
  inferInstanceAs (InBounds (if d.textField.length > 255 then fail
    else proc (UInt8.ofNat d.textField.length) >>= _))

instance (d : FaultRecord) : InBounds (proc d) :=
  inferInstanceAs (InBounds (isBuild >>= _))

def Timestamp.Fits (d : Timestamp) : Prop := d.secondsField ≤ uint48Max

def PTPText.Fits (d : PTPText) : Prop := d.textField.length ≤ 255

def PortAddress.Fits (d : PortAddress) : Prop := d.addressField.length < 65536

def FaultRecord.Fits (d : FaultRecord) : Prop :=
  d.faultTime.Fits ∧ d.faultName.Fits ∧ d.faultValue.Fits ∧ d.faultDescription.Fits

def LinuxptpUnicastMaster.Fits (d : LinuxptpUnicastMaster) : Prop := d.portAddress.Fits

def PTPText.norm (d : PTPText) : PTPText :=
  { d with lengthField := UInt8.ofNat d.textField.length }

def PortAddress.norm (d : PortAddress) : PortAddress :=
  { d with addressLength := UInt16.ofNat d.addressField.length }

def FaultRecord.norm (d : FaultRecord) : FaultRecord :=
  { d with
    faultRecordLength := UInt16.ofNat d.size
    faultName := d.faultName.norm
    faultValue := d.faultValue.norm
    faultDescription := d.faultDescription.norm }

def LinuxptpUnicastMaster.norm (d : LinuxptpUnicastMaster) : LinuxptpUnicastMaster :=
  { d with portAddress := d.portAddress.norm }

theorem Timestamp.roundTripsIn {d : Timestamp} (d0 : Timestamp) (h : d.Fits) :
    RoundTripsIn (proc d) (proc d0) d Timestamp.size :=
  have := proc48_roundTripsIn d0.secondsField h
  inferInstanceAs (RoundTripsIn (proc48 d.secondsField >>= _) (proc48 d0.secondsField >>= _) _
    (6 + (4 + 0)))

theorem Timestamp.refuses {d : Timestamp} (h : ¬ d.Fits) : Refuses .val (proc d) :=
  (proc48_refuses h).bind_left

theorem PTPText.proc_of_fits {d : PTPText} (h : d.Fits) :
    proc d = (do
      let lengthField ← proc (UInt8.ofNat d.textField.length)
      let textField ← procString d.textField lengthField.toUInt16
      return { lengthField, textField }) :=
  if_neg (Nat.not_lt.2 h)

/-- The octets of a text on the wire. -/
def PTPText.octets (d : PTPText) : List UInt8 :=
  beOctets 1 d.textField.length ++ d.textField

theorem PTPText.length_octets (d : PTPText) : d.octets.length = d.size := by
  simp [octets, size]

theorem PTPText.roundTrips {d : PTPText} (h : d.Fits) :
    RoundTrips (proc d) (proc (default : PTPText)) d.norm d.octets := by
  have hle : d.textField.length ≤ 255 := h
  have hcut : (UInt8.ofNat d.textField.length).toNat = d.textField.length :=
    UInt8.toNat_ofNat_of_lt' (show d.textField.length < 256 by omega)
  have hlen : (UInt8.ofNat d.textField.length).toUInt16 = UInt16.ofNat d.textField.length := by
    apply UInt16.toNat_inj.1
    rw [UInt8.toNat_toUInt16, hcut, UInt16.toNat_ofNat']
    omega
  have hcount : RoundTrips (proc (UInt8.ofNat d.textField.length)) (proc (UInt8.ofNat 0)) _
      (beOctets 1 (UInt8.ofNat d.textField.length).toNat) :=
    procUInt8_roundTrips _ _
  have htext := procString_roundTrips (UInt8.ofNat d.textField.length).toUInt16
    (show d.textField.length < 65536 by omega)
  rw [hcut] at hcount
  rw [← hlen] at htext
  rw [proc_of_fits h, proc_of_fits (show (default : PTPText).Fits from Nat.zero_le _)]
  have hoctets : d.octets = beOctets 1 d.textField.length ++ (d.textField ++ []) := by simp [octets]
  rw [hoctets]
  exact RoundTrips.bind hcount (RoundTrips.bind htext (RoundTrips.pure d.norm))

theorem PTPText.roundTripsIn {d : PTPText} (h : d.Fits) :
    RoundTripsIn (proc d) (proc (default : PTPText)) d.norm d.size :=
  (roundTrips h).size.of_eq d.length_octets

theorem PTPText.refuses {d : PTPText} (h : ¬ d.Fits) (e : MngParseError) :
    Refuses e (proc d) := by
  intro s _
  have hlong : d.textField.length > 255 := Nat.not_le.1 h
  simp only [proc, hlong, if_true, run_fail, true_or, and_self]

/-- What a parse reads into a text does not depend on the text that was there, as long as that one
    passes the check of its own length. -/
theorem PTPText.run_parse {d : PTPText} (h : d.Fits) {mp : MsgProc} (hb : mp.build = false) :
    (proc d).run mp = match (proc (0 : UInt8)).run mp with
      | (none, mp) => (none, mp)
      | (some lengthField, mp) =>
        match (xfer lengthField.toNat []).run mp with
        | (none, mp) => (none, mp)
        | (some textField, mp) => (some { lengthField, textField }, mp) := by
  have hcount : (proc (UInt8.ofNat d.textField.length)).run mp = (proc (0 : UInt8)).run mp := by
    show (procBU 1 UInt8.toNat UInt8.ofNat _).run mp = (procBU 1 UInt8.toNat UInt8.ofNat 0).run mp
    rw [procBU, procBU]
    exact run_field_parse hb _ _
  rw [proc_of_fits h, run_bind, hcount]
  have hbuild := ((proc (0 : UInt8)).advances mp).build_eq
  rcases hrun : (proc (0 : UInt8)).run mp with ⟨_ | lengthField, mp'⟩
  · rfl
  · rw [hrun, hb] at hbuild
    have hxfer : (procString d.textField lengthField.toUInt16).run mp'
        = (xfer lengthField.toNat []).run mp' := by
      rw [procString, run_bind_some (run_isBuild mp'), hbuild]
      exact run_xfer_src hbuild _ _
    simp only [run_bind, hxfer]
    rcases (xfer lengthField.toNat []).run mp' with ⟨_ | textField, mp''⟩ <;> rfl

/-- A text that was read passes the check of its length. -/
theorem PTPText.fits_of_parse {d t : PTPText} (h : d.Fits) {mp : MsgProc} (hb : mp.build = false)
    (ht : ((proc d).run mp).1 = some t) : t.Fits := by
  rw [run_parse h hb] at ht
  have hbuild := ((proc (0 : UInt8)).advances mp).build_eq
  rcases hrun : (proc (0 : UInt8)).run mp with ⟨_ | lengthField, mp'⟩
  · rw [hrun] at ht
    cases ht
  · rw [hrun] at ht
    rw [hrun, hb] at hbuild
    have hlen : ∀ w ∈ ((xfer lengthField.toNat []).run mp').1, w.length = lengthField.toNat :=
      fun w hw => length_of_xfer_parse hbuild hw
    rcases hxfer : (xfer lengthField.toNat []).run mp' with ⟨_ | textField, mp''⟩
    · simp only [hxfer] at ht
      cases ht
    · simp only [hxfer] at ht
      cases ht
      have hlt := lengthField.toNat_lt
      rw [PTPText.Fits, hlen textField (by rw [hxfer]; rfl)]
      omega

/-- The octets of an address on the wire. -/
def PortAddress.octets (d : PortAddress) : List UInt8 :=
  beOctets 2 d.networkProtocol.toNat ++ (beOctets 2 d.addressField.length ++ d.addressField)

theorem PortAddress.length_octets (d : PortAddress) : d.octets.length = d.size := by
  simp [octets, size]
  omega

theorem PortAddress.roundTrips {d : PortAddress} (h : d.Fits) :
    RoundTrips (proc d) (proc (default : PortAddress)) d.norm d.octets := by
  have hlen : (UInt16.ofNat d.addressField.length).toNat = d.addressField.length :=
    UInt16.toNat_ofNat_of_lt' h
  have hproto : RoundTrips (proc d.networkProtocol) (proc 0) d.networkProtocol
      (beOctets 2 d.networkProtocol.toNat) :=
    procUInt16_roundTrips _ _
  have hcount : RoundTrips (proc (UInt16.ofNat d.addressField.length)) (proc (UInt16.ofNat 0))
      (UInt16.ofNat d.addressField.length) (beOctets 2 (UInt16.ofNat d.addressField.length).toNat) :=
    procUInt16_roundTrips _ _
  rw [hlen] at hcount
  have haddr := procBinary_roundTrips (UInt16.ofNat d.addressField.length) h
  have hoctets : d.octets = beOctets 2 d.networkProtocol.toNat ++
      (beOctets 2 d.addressField.length ++ (d.addressField ++ [])) := by simp [octets]
  rw [hoctets]
  exact RoundTrips.bind hproto (RoundTrips.bind hcount (RoundTrips.bind haddr (RoundTrips.pure _)))

theorem PortAddress.roundTripsIn {d : PortAddress} (h : d.Fits) :
    RoundTripsIn (proc d) (proc (default : PortAddress)) d.norm d.size :=
  (roundTrips h).size.of_eq d.length_octets

theorem PortAddress.inBounds {d : PortAddress} (h : d.Fits) : InBounds (proc d) :=
  have : ∀ len, InBounds (procBinary d.addressField len) := fun len => procBinary_inBounds len h
  inferInstanceAs (InBounds (proc d.networkProtocol >>= _))

theorem LinuxptpUnicastMaster.inBounds {d : LinuxptpUnicastMaster} (h : d.Fits) :
    InBounds (proc d) :=
  have := PortAddress.inBounds h
  inferInstanceAs (InBounds (proc d.portIdentity >>= _))

theorem LinuxptpUnicastMaster.roundTripsIn {d : LinuxptpUnicastMaster} (h : d.Fits) :
    RoundTripsIn (proc d) (proc (default : LinuxptpUnicastMaster)) d.norm d.size := by
  have : RoundTripsIn (proc d.portAddress) (proc (default : LinuxptpUnicastMaster).portAddress) _ _ :=
    PortAddress.roundTripsIn h
  have hall : RoundTripsIn (proc d) (proc default) d.norm
      (10 + (4 + (1 + (1 + (1 + (1 + (d.portAddress.size + 0))))))) :=
    inferInstanceAs (RoundTripsIn (proc d.portIdentity >>= _) (proc _ >>= _) _ _)
  exact hall.of_eq (by simp [size, PortIdentity.size, ClockIdentity.size, ClockQuality.size]; omega)

theorem FaultRecord.size_norm (d : FaultRecord) : d.norm.size = d.size := rfl

theorem FaultRecord.size_lt {d : FaultRecord} (h : d.Fits) : d.size < 65536 := by
  obtain ⟨-, hname, hvalue, hdesc⟩ := h
  simp only [PTPText.Fits] at hname hvalue hdesc
  simp only [size, Timestamp.size, PTPText.size]
  omega

theorem FaultRecord.roundTripsIn {d : FaultRecord} (h : d.Fits) :
    RoundTripsIn (proc d) (proc (default : FaultRecord)) d.norm d.size := by
  have hlen : (UInt16.ofNat d.size).toNat = d.size := UInt16.toNat_ofNat_of_lt' (size_lt h)
  have htime := Timestamp.roundTripsIn default h.1
  have hname := PTPText.roundTripsIn h.2.1
  have hvalue := PTPText.roundTripsIn h.2.2.1
  have hdesc := PTPText.roundTripsIn h.2.2.2
  have hall : RoundTripsIn (proc d) (proc default) d.norm (2 + (10 + (1 + (d.faultName.size +
      (d.faultValue.size + (d.faultDescription.size + 0)))))) := by
    refine RoundTripsIn.isBuild ?_
    refine .andThen inferInstance (.andThen htime (.andThen inferInstance
      (.andThen hname (.andThen hvalue (.andThen hdesc ?_)))))
    have hsame : (d.norm.faultRecordLength.toNat != d.norm.size) = false := by
      rw [size_norm, bne_eq_false_iff_eq]
      exact hlen
    show RoundTripsIn
      (if (!true && d.norm.faultRecordLength.toNat != d.norm.size) = true
        then failWith MngParseError.sizeMiss (by decide) else pure d.norm)
      (if (!false && d.norm.faultRecordLength.toNat != d.norm.size) = true
        then failWith MngParseError.sizeMiss (by decide) else pure d.norm) d.norm 0
    simp only [hsame, Bool.and_false, Bool.false_eq_true, if_false]
    infer_instance
  exact hall.of_eq (by simp [size, Timestamp.size]; omega)

/-! ## Tables -/

variable {α : Type} [Inhabited α] [HasProc α]

theorem vectorF_builds {norm : α → α} {enc : α → List UInt8} {vec : List α} (count : UInt32)
    (h : ∀ a ∈ vec, RoundTrips (proc a) (proc default) (norm a) (enc a)) :
    Builds (vectorF count vec) (vec.map norm) (vec.flatMap enc) :=
  (RoundTrips.each_times vec h).builds.isBuild

theorem vectorF_parses {norm : α → α} {enc : α → List UInt8} {vec : List α} {count : UInt32}
    (hcount : count.toNat = vec.length)
    (h : ∀ a ∈ vec, RoundTrips (proc a) (proc default) (norm a) (enc a)) :
    Parses (vectorF count []) (vec.map norm) (vec.flatMap enc) := by
  have htail : Parses (times (proc default) vec.length >>= fun l => pure ([] ++ l))
      (vec.map norm) (vec.flatMap enc ++ []) :=
    (RoundTrips.each_times vec h).parses.bind (Parses.pure _)
  rw [List.append_nil] at htail
  refine Parses.isBuild ?_
  rw [hcount]
  exact htail

theorem vectorF_inBounds {vec : List α} (count : UInt32) (h : ∀ a ∈ vec, InBounds (proc a)) :
    InBounds (vectorF count vec) :=
  InBounds.isBuild_bind (InBounds.each vec h)

theorem vectorO_builds [Progress α] {norm : α → α} {enc : α → List UInt8} {vec : List α}
    (size : Nat) (hsize : 0 < size)
    (h : ∀ a ∈ vec, RoundTrips (proc a) (proc default) (norm a) (enc a)) :
    Builds (vectorO size hsize vec) (vec.map norm) (vec.flatMap enc) :=
  (RoundTrips.each_times vec h).builds.isBuild

theorem vectorO_parsesEnd [Progress α] {norm : α → α} {enc : α → List UInt8} {vec : List α}
    (size slack : Nat) (hsize : 0 < size) (hslack : slack < size)
    (h : ∀ a ∈ vec, RoundTrips (proc a) (proc default) (norm a) (enc a))
    (hwidth : ∀ a ∈ vec, (enc a).length = size) :
    ParsesEnd slack (vectorO size hsize []) (vec.map norm) (vec.flatMap enc) :=
  ParsesEnd.isBuild ((ParsesEnd.whileLeft hsize hslack vec (fun a ha => (h a ha).parses)
    hwidth).bind_pure ([] ++ ·))

end PtpMgmt
