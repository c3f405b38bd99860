import PtpMgmt.Types

set_option autoImplicit false

/-! # Security associations and authentication keys (`cfg.cpp`, `hmac.cpp`, `hmac/ssl.cpp`)

A key enters a security association only through `Spp::addKey`, so what it checks is part of the type
of a key, and a key that `addKey` refuses cannot be written down.

The HMAC library is outside the repository. `HmacLib` is what the wrapper in `hmac/ssl.cpp` calls: it
may refuse to set a key up, and it fills the digest buffer of the wrapper or fails. -/

namespace PtpMgmt

/-! ## Keys -/

/-- `HMAC_t`. -/
inductive HmacType
  | sha256
  | aes128
  | aes256
deriving DecidableEq, Repr, Inhabited

structure KeyLimit where
  keySize : Nat
  maxDigest : Nat

/-- `key_limit`: a key size of zero leaves the size open. -/
def keyLimit : HmacType → KeyLimit
  | .sha256 => ⟨0, 32⟩
  | .aes128 => ⟨16, 16⟩
  | .aes256 => ⟨32, 16⟩

/-- What `Spp::addKey` asks of a key. -/
structure KeyValid (type : HmacType) (value : Binary) (digest : Nat) : Prop where
  value_ne_nil : value ≠ []
  two_le : 2 ≤ digest
  even : digest % 2 = 0
  keySize : 0 < (keyLimit type).keySize → (keyLimit type).keySize = value.length
  le_max : digest ≤ (keyLimit type).maxDigest

instance (type : HmacType) (value : Binary) (digest : Nat) :
    Decidable (KeyValid type value digest) :=
  decidable_of_iff (value ≠ [] ∧ 2 ≤ digest ∧ digest % 2 = 0 ∧
      (0 < (keyLimit type).keySize → (keyLimit type).keySize = value.length) ∧
      digest ≤ (keyLimit type).maxDigest)
    ⟨fun ⟨h1, h2, h3, h4, h5⟩ => ⟨h1, h2, h3, h4, h5⟩,
     fun ⟨h1, h2, h3, h4, h5⟩ => ⟨h1, h2, h3, h4, h5⟩⟩

/-- `Spp::key_t`. -/
structure Key where
  type : HmacType
  key : Binary
  macSize : Nat
  valid : KeyValid type key macSize

theorem Key.macSize_le (k : Key) : k.macSize ≤ 32 := by
  have h := k.valid.le_max
  cases ht : k.type <;> rw [ht] at h <;> simp only [keyLimit] at h <;> omega

/-- `Spp`: the keys of a security parameters pointer. The id 0 is reserved. -/
structure Spp where
  keys : UInt32 → Option Key
  keys_zero : keys 0 = none

namespace Spp

/-- An `Spp` without keys, as the constructor makes it. -/
def init : Spp := ⟨fun _ => none, rfl⟩

/-- `Spp::have`. -/
def haveKey (s : Spp) (key : UInt32) : Bool := key > 0 && (s.keys key).isSome

/-- `Spp::addKey`. -/
def addKey (s : Spp) (id : UInt32) (type : HmacType) (value : Binary) (digest : Nat)
    (replace : Bool) : Option Spp :=
  if hid : id = 0 then none
  else if hvalid : KeyValid type value digest then
    if s.haveKey id && !replace then none
    else
      some {
        keys := Function.update s.keys id (some ⟨type, value, digest, hvalid⟩)
        keys_zero := by
          rw [Function.update_of_ne (Ne.symm hid)]
          exact s.keys_zero }
  else none

def macSize (s : Spp) (id : UInt32) : Nat :=
  match s.keys id with
  | some k => k.macSize
  | none => 0

def key (s : Spp) (id : UInt32) : Binary :=
  match s.keys id with
  | some k => k.key
  | none => []

def htype (s : Spp) (id : UInt32) : HmacType :=
  match s.keys id with
  | some k => k.type
  | none => .sha256

theorem haveKey_iff (s : Spp) (id : UInt32) : s.haveKey id = true ↔ ∃ k, s.keys id = some k := by
  rw [haveKey, Bool.and_eq_true, decide_eq_true_eq, Option.isSome_iff_exists]
  refine ⟨fun h => h.2, fun h => ⟨?_, h⟩⟩
  by_contra hzero
  have hid : id = 0 := by
    apply UInt32.toNat_inj.1
    have hnot : ¬ 0 < id.toNat := hzero
    show id.toNat = 0
    omega
  obtain ⟨k, hk⟩ := h
  rw [hid, s.keys_zero] at hk
  exact absurd hk (by simp)

theorem macSize_le (s : Spp) (id : UInt32) : s.macSize id ≤ 32 := by
  rw [macSize]
  split
  · next k _ => exact k.macSize_le
  · omega

theorem macSize_even (s : Spp) (id : UInt32) : s.macSize id % 2 = 0 := by
  rw [macSize]
  split
  · next k _ => exact k.valid.even
  · rfl

theorem two_le_macSize {s : Spp} {id : UInt32} (h : s.haveKey id = true) : 2 ≤ s.macSize id := by
  obtain ⟨k, hk⟩ := (s.haveKey_iff id).1 h
  rw [macSize, hk]
  exact k.valid.two_le

/-- A key that is not there has no digest. -/
theorem haveKey_of_macSize_pos {s : Spp} {id : UInt32} (h : 0 < s.macSize id) :
    s.haveKey id = true := by
  rw [haveKey_iff]
  rw [macSize] at h
  split at h
  · next k hk => exact ⟨k, hk⟩
  · exact absurd h (by simp)

end Spp

/-- `SaFile`: the security association pool. -/
structure SaFile where
  spps : UInt8 → Option Spp

namespace SaFile

def init : SaFile := ⟨fun _ => none⟩

/-- `SaFile::have` of an spp and a key of it. -/
def haveKey (sa : SaFile) (spp : UInt8) (key : UInt32) : Bool :=
  match sa.spps spp with
  | some s => s.haveKey key
  | none => false

/-- `SaFile::spp`: an `Spp` without keys where there is none. -/
def spp (sa : SaFile) (sppID : UInt8) : Spp := (sa.spps sppID).getD .init

theorem haveKey_eq (sa : SaFile) (sppID : UInt8) (key : UInt32) :
    sa.haveKey sppID key = (sa.spp sppID).haveKey key := by
  rw [haveKey, spp]
  cases sa.spps sppID with
  | none => simp [Spp.haveKey, Spp.init]
  | some s => rfl

end SaFile

/-! ## The HMAC library -/

/-- `HMAC_MAX_MAC_SIZE`, the size of the digest buffer. -/
def hmacMaxMacSize : Nat := 64

/-- What the wrapper gets from the library: does `init` of a key succeed, and the digest buffer after
    `EVP_MAC_init`, `EVP_MAC_update` and `EVP_MAC_final`, unless one of them fails. -/
structure HmacLib where
  init : HmacType → Binary → Bool
  mac : HmacType → Binary → List UInt8 → Option (Octets hmacMaxMacSize)

/-- `HMAC_Key`. -/
structure HmacKey where
  type : HmacType
  key : Binary
deriving DecidableEq

/-- `hmac_allocHMAC`. -/
def hmacAllocHMAC (lib : HmacLib) (type : HmacType) (key : Binary) : Option HmacKey :=
  if lib.init type key then some ⟨type, key⟩ else none

namespace HmacKey

def minDigest (h : HmacKey) : Nat := if h.type = .sha256 then 32 else 16

/-- `HMAC_SSL::digest`, for a digest of `size` octets. -/
def digest (lib : HmacLib) (h : HmacKey) (data : List UInt8) (size : Nat) : Option Binary :=
  match lib.mac h.type h.key data with
  | none => none
  | some buf =>
    if max size h.minDigest > hmacMaxMacSize then none else some (buf.toList.take size)

/-- `HMAC_SSL::verify`. -/
def verify (lib : HmacLib) (h : HmacKey) (data : List UInt8) (mac : Binary) : Bool :=
  match h.digest lib data mac.length with
  | some o => o == mac
  | none => false

theorem verify_iff {lib : HmacLib} {h : HmacKey} {data : List UInt8} {mac : Binary} :
    h.verify lib data mac = true ↔ h.digest lib data mac.length = some mac := by
  rw [verify]
  split
  · next o ho => rw [ho, beq_iff_eq, Option.some.injEq]
  · next ho => rw [ho]; simp

theorem length_of_digest {lib : HmacLib} {h : HmacKey} {data : List UInt8} {size : Nat}
    {mac : Binary} (hmac : h.digest lib data size = some mac) (hsize : size ≤ 32) :
    mac.length = size := by
  rw [digest] at hmac
  split at hmac
  · exact absurd hmac (by simp)
  · next buf _ =>
      split at hmac
      · exact absurd hmac (by simp)
      · rw [Option.some.injEq] at hmac
        rw [← hmac, List.length_take, buf.toList_length, hmacMaxMacSize]
        omega

end HmacKey

/-- The library computes a digest for whatever it is given. -/
def HmacLib.Computes (lib : HmacLib) : Prop :=
  ∀ type key data, (lib.mac type key data).isSome = true

theorem HmacLib.Computes.digest {lib : HmacLib} (hlib : lib.Computes) (h : HmacKey)
    (data : List UInt8) {size : Nat} (hsize : size ≤ 32) :
    ∃ mac : Binary, h.digest lib data size = some mac := by
  obtain ⟨buf, hbuf⟩ := Option.isSome_iff_exists.1 (hlib h.type h.key data)
  have hmin : h.minDigest ≤ 32 := by
    rw [HmacKey.minDigest]
    split <;> omega
  have hmax : ¬ max size h.minDigest > hmacMaxMacSize := by
    rw [hmacMaxMacSize]
    omega
  refine ⟨buf.toList.take size, ?_⟩
  rw [HmacKey.digest, hbuf]
  exact if_neg hmax

/-- The library sets every key up and computes every digest. -/
structure HmacLib.Works (lib : HmacLib) : Prop where
  init : ∀ type key, lib.init type key = true
  computes : lib.Computes

/-- A library whose digest is all zeros; messages without authentication never ask it. -/
def zeroLib : HmacLib where
  init _ _ := true
  mac _ _ _ := some default

end PtpMgmt
