import Mathlib.Data.List.GetD
import PtpMgmt.Base64

set_option autoImplicit false

/-! # The memory of a `Binary` (`bin.cpp`)

A `Binary` has more octets allocated than it shows. What grows the size shows some of them, and relies on
them being zero: the allocation clears what is behind the size, and so do `resize` and `clear`. The forms
of `setBin` that replace the content do not: a shorter content leaves the rest of the longer one behind
its end.

Whether the memory can be had is left open at every step, and an object that a text is read into has its
memory. Lengths from 2^64 - 32 on ask `realloc` for no octet at all: what is done with the memory then is
left undefined, and so is the octet in front of it that the last position writes. -/

namespace PtpMgmt

/-! ## One object -/

/-- `m_buf`, `m_alloc` and `m_size`: nothing is allocated where there is no buffer. -/
structure Buffer where
  buf : Option (List UInt8)
  size : Nat
  size_le : size ≤ (buf.getD []).length

namespace Buffer

def octets (b : Buffer) : List UInt8 := b.buf.getD []

/-- `m_alloc`. -/
def alloc (b : Buffer) : Nat := b.octets.length

/-- An octet of the memory, also one behind the size. -/
def get (b : Buffer) (k : Nat) : UInt8 := b.octets.getD k 0

/-- Without memory: moved away, or never had. -/
def null : Buffer := ⟨none, 0, Nat.le_refl 0⟩

/-- A multiple of `min_alloc_size`. -/
def roundUp (length : Nat) : Nat :=
  if length ≤ 32 then 32 else length + (32 - ((length - 1) &&& 31) - 1)

theorem le_roundUp (length : Nat) : length ≤ roundUp length := by
  unfold roundUp
  split
  · assumption
  · exact Nat.le_add_right _ _

/-- What comes of `iResize`: a buffer with so many octets, or the one there was, when there is no memory. -/
inductive Resized (length : Nat)
  | done (b : Buffer) (h : length ≤ b.alloc)
  | failed
  | undefined

/-- What the caller makes of it. -/
def Resized.use {length : Nat} (r : Resized length) (b : Buffer)
    (f : (b : Buffer) → length ≤ b.alloc → Buffer) : Option Buffer :=
  match r with
  | .done b h => some (f b h)
  | .failed => some b
  | .undefined => none

/-- `realloc`, and the clearing of all that is behind the size. -/
def realloc (b : Buffer) (length : Nat) : Buffer where
  buf := some (b.octets.take b.size ++ List.replicate (roundUp length - b.size) 0)
  size := b.size
  size_le := by
    have hle : b.size ≤ b.octets.length := b.size_le
    rw [Option.getD_some, List.length_append, List.length_take, List.length_replicate]
    omega

theorem le_alloc_realloc (b : Buffer) (length : Nat) : length ≤ (b.realloc length).alloc := by
  have hle : b.size ≤ b.octets.length := b.size_le
  have hround := le_roundUp length
  show length ≤ (b.octets.take b.size ++ List.replicate (roundUp length - b.size) 0).length
  rw [List.length_append, List.length_take, List.length_replicate]
  omega

/-- `Binary::iResize`. `ok` tells whether there is memory. -/
def iResize (b : Buffer) (length : Nat) (ok : Bool) : Resized length :=
  if h : length ≤ b.alloc ∧ b.buf.isSome then .done b h.1
  else if 2 ^ 64 ≤ roundUp length then .undefined
  else if ok then .done (b.realloc length) (le_alloc_realloc b length)
  else .failed

/-- `memcpy` to the start of the buffer, and the size. -/
def overwrite (b : Buffer) (data : List UInt8) : Buffer where
  buf := some (data ++ b.octets.drop data.length)
  size := data.length
  size_le := by
    rw [Option.getD_some, List.length_append]
    exact Nat.le_add_right _ _

/-- `Binary::setBin` of a memory block. -/
def setBin (b : Buffer) (data : List UInt8) (ok : Bool) : Option Buffer :=
  if data = [] then some { b with size := 0, size_le := Nat.zero_le _ }
  else (b.iResize data.length ok).use b fun b _ => b.overwrite data

/-- The size reaches a position. -/
def grow (b : Buffer) (length : Nat) (h : length ≤ b.alloc) : Buffer where
  buf := b.buf
  size := max b.size length
  size_le := Nat.max_le.2 ⟨b.size_le, h⟩

def put (b : Buffer) (position : Nat) (value : UInt8) : Buffer where
  buf := b.buf.map fun octets => octets.set position value
  size := b.size
  size_le := by
    have hle := b.size_le
    cases hbuf : b.buf with
    | none => rwa [hbuf] at hle
    | some octets =>
      rw [hbuf] at hle
      simpa using hle

/-- `Binary::setBin` of one octet. -/
def setAt (b : Buffer) (position : UInt64) (value : UInt8) (ok : Bool) : Option Buffer :=
  if position.toNat + 1 = 2 ^ 64 then none
  else (b.iResize (position.toNat + 1) ok).use b fun b h =>
    (b.grow (position.toNat + 1) h).put position.toNat value

/-- `Binary::operator[]`, and what is assigned to the reference at once. -/
def index (b : Buffer) (position : UInt64) (assigned : Option UInt8) (ok : Bool) : Option Buffer :=
  if position.toNat + 1 = 2 ^ 64 then none
  else (b.iResize (position.toNat + 1) ok).use b fun b h =>
    match assigned with
    | some value => (b.grow (position.toNat + 1) h).put position.toNat value
    | none => b.grow (position.toNat + 1) h

/-- `Binary::clear`. -/
def clear (b : Buffer) : Buffer where
  buf := b.buf.map fun octets => List.replicate octets.length 0
  size := 0
  size_le := Nat.zero_le _

/-- The end of `resize`: all behind the length is cleared. -/
def cut (b : Buffer) (length : Nat) (h : length ≤ b.alloc) : Buffer where
  buf := some (b.octets.take length ++ List.replicate (b.alloc - length) 0)
  size := length
  size_le := by
    rw [Option.getD_some, List.length_append, List.length_take]
    have hle : length ≤ b.octets.length := h
    omega

/-- `Binary::resize`. -/
def resize (b : Buffer) (length : UInt64) (ok : Bool) : Option Buffer :=
  if length = 0 then some b.clear
  else (b.iResize length.toNat ok).use b fun b h => b.cut length.toNat h

/-- `memcpy` behind the size, and the size. -/
def extend (b : Buffer) (data : List UInt8) : Buffer where
  buf := some (b.octets.take b.size ++ (data ++ b.octets.drop (b.size + data.length)))
  size := b.size + data.length
  size_le := by
    have hle : b.size ≤ b.octets.length := b.size_le
    rw [Option.getD_some, List.length_append, List.length_append, List.length_take]
    omega

/-- `Binary::append`, of an octet or of the octets of another object. -/
def append (b : Buffer) (data : List UInt8) (ok : Bool) : Option Buffer :=
  if data = [] then some b
  else (b.iResize (b.size + data.length) ok).use b fun b _ => b.extend data

/-- What an object shows. -/
def content (b : Buffer) : Binary := b.octets.take b.size

end Buffer

/-! ## Objects and operations -/

/-- The objects, by their numbers. -/
abbrev Buffers := Nat → Buffer

inductive BinOp
  | setBin (i : Nat) (data : List UInt8)
  | setBinOf (i j : Nat)
  | setBinString (i : Nat) (string : List UInt8)
  | setAt (i : Nat) (position : UInt64) (value : UInt8)
  | index (i : Nat) (position : UInt64) (assigned : Option UInt8)
  | resize (i : Nat) (length : UInt64)
  | clear (i : Nat)
  | append (i : Nat) (octet : UInt8)
  | appendOf (i j : Nat)
  | mvBin (i j : Nat)
  | fromBase64 (i : Nat) (bin64 : List UInt8) (pad : Bool)
  | fromHex (i : Nat) (hex : List UInt8)
  | fromId (i : Nat) (str : List UInt8)

namespace BinOp

/-- The content that a form of `setBin` copies into an object, directly or at the end of a parser. -/
def replaces (s : Buffers) : BinOp → Option (Nat × List UInt8)
  | setBin i data => some (i, data)
  | setBinOf i j => some (i, (s j).content)
  | setBinString i string => if string = [] then none else some (i, string)
  | fromBase64 i bin64 pad =>
    if bin64 = [] then none else (Binary.base64From bin64 0 [] pad).map fun id => (i, id)
  | fromHex i hex => (Binary.fromHex hex).map fun id => (i, id)
  | fromId i str => (Binary.fromId str).map fun id => (i, id)
  | _ => none

/-- What else is done to an object; an object that is moved away loses its buffer. -/
def other (s : Buffers) (ok : Bool) : BinOp → Option Buffers
  | setAt i position value => ((s i).setAt position value ok).map (Function.update s i)
  | index i position assigned => ((s i).index position assigned ok).map (Function.update s i)
  | resize i length => ((s i).resize length ok).map (Function.update s i)
  | clear i => some (Function.update s i (s i).clear)
  | append i octet => ((s i).append [octet] ok).map (Function.update s i)
  | appendOf i j => ((s i).append (s j).content ok).map (Function.update s i)
  | mvBin i j => some (Function.update (Function.update s i (s j)) j Buffer.null)
  | setBinString i [] => some (Function.update s i (s i).clear)
  | fromBase64 i [] _ => some (Function.update s i (s i).clear)
  | _ => some s

/-- One operation. `ok` tells whether there is memory for it; nothing is left where the memory of the object
    is not defined any more. -/
def step (s : Buffers) (op : BinOp) (ok : Bool) : Option Buffers :=
  match op.replaces s with
  | some (i, data) => ((s i).setBin data ok).map (Function.update s i)
  | none => op.other s ok

def run (s : Buffers) : List (BinOp × Bool) → Option Buffers
  | [] => some s
  | (op, ok) :: ops => (op.step s ok).bind fun s => run s ops

/-- The operations that address a position, and the object they grow. -/
def Grows : BinOp → Nat → Prop
  | setAt i _ _, n => n = i
  | index i _ _, n => n = i
  | resize i _, n => n = i
  | _, _ => False

/-- The octets that such an operation writes itself. -/
def Writes : BinOp → Nat → Prop
  | setAt _ position _, k => k = position.toNat
  | index _ position (some _), k => k = position.toNat
  | _, _ => False

/-- Every octet that is newly inside and not written is zero. -/
def ExposesZeros (s : Buffers) (op : BinOp) (s' : Buffers) : Prop :=
  ∀ i, op.Grows i → ∀ k, (s i).size ≤ k → k < (s' i).size → ¬ op.Writes k → (s' i).get k = 0

/-- Where a form of `setBin` replaces the content by a shorter one, what it drops is zero. -/
def DropsZeros (s : Buffers) (op : BinOp) : Prop :=
  ∀ i data, op.replaces s = some (i, data) → ∀ k, data.length ≤ k → k < (s i).size → (s i).get k = 0

end BinOp

/-- Objects as their default constructor leaves them, with or without memory. -/
def Buffers.start (ok : Nat → Bool) : Buffers := fun i =>
  if ok i then Buffer.null.realloc 1 else Buffer.null

/-- Every operation of the run drops zeros only. -/
def AllDropZeros (s : Buffers) : List (BinOp × Bool) → Prop
  | [] => True
  | (op, ok) :: ops => op.DropsZeros s ∧ ∀ s', op.step s ok = some s' → AllDropZeros s' ops

/-! ## What the operations leave behind the size -/

namespace Buffer

/-- Only zeros are allocated behind the size. -/
def TailZero (b : Buffer) : Prop := ∀ k, b.size ≤ k → b.get k = 0

theorem null_tailZero : null.TailZero := fun _ _ => rfl

theorem getD_take (l : List UInt8) (n k : Nat) : (l.take n).getD k 0 = if k < n then l.getD k 0 else 0 := by
  rw [List.getD_eq_getElem?_getD, List.getD_eq_getElem?_getD, List.getElem?_take]
  split_ifs <;> rfl

theorem getD_append_eq (l l' : List UInt8) (k : Nat) :
    (l ++ l').getD k 0 = if k < l.length then l.getD k 0 else l'.getD (k - l.length) 0 := by
  split_ifs with hk
  · exact List.getD_append _ _ _ _ hk
  · exact List.getD_append_right _ _ _ _ (Nat.not_lt.1 hk)

theorem getD_replicate_zero (n k : Nat) : (List.replicate n (0 : UInt8)).getD k 0 = 0 := by
  rw [List.getD_eq_getElem?_getD, List.getElem?_replicate]
  split_ifs <;> rfl

theorem length_take_size (b : Buffer) : (b.octets.take b.size).length = b.size := by
  rw [List.length_take]
  exact Nat.min_eq_left b.size_le

theorem get_realloc (b : Buffer) (length k : Nat) :
    (b.realloc length).get k = if k < b.size then b.get k else 0 := by
  show (b.octets.take b.size ++ List.replicate (roundUp length - b.size) 0).getD k 0 = _
  rw [getD_append_eq, length_take_size, getD_take]
  split_ifs
  · rfl
  · exact getD_replicate_zero _ _

theorem get_overwrite (b : Buffer) (data : List UInt8) (k : Nat) :
    (b.overwrite data).get k = if k < data.length then data.getD k 0 else b.get k := by
  show (data ++ b.octets.drop data.length).getD k 0 = _
  rw [getD_append_eq]
  split_ifs with hk
  · rfl
  · rw [get, List.getD_eq_getElem?_getD, List.getElem?_drop, Nat.add_sub_cancel' (Nat.not_lt.1 hk),
      List.getD_eq_getElem?_getD]

theorem get_put (b : Buffer) (position : Nat) (value : UInt8) (k : Nat) (h : k ≠ position) :
    (b.put position value).get k = b.get k := by
  show ((b.buf.map fun octets => octets.set position value).getD []).getD k 0 = (b.buf.getD []).getD k 0
  cases b.buf with
  | none => rfl
  | some octets =>
    show (octets.set position value).getD k 0 = octets.getD k 0
    rw [List.getD_eq_getElem?_getD, List.getElem?_set_ne h.symm, List.getD_eq_getElem?_getD]

theorem get_clear (b : Buffer) (k : Nat) : b.clear.get k = 0 := by
  show ((b.buf.map fun octets => List.replicate octets.length (0 : UInt8)).getD []).getD k 0 = 0
  cases b.buf with
  | none => rfl
  | some octets => exact getD_replicate_zero _ _

theorem get_cut (b : Buffer) (length : Nat) (h : length ≤ b.alloc) (k : Nat) :
    (b.cut length h).get k = if k < length then b.get k else 0 := by
  have htake : (b.octets.take length).length = length := by
    rw [List.length_take]
    exact Nat.min_eq_left h
  show (b.octets.take length ++ List.replicate (b.alloc - length) 0).getD k 0 = _
  rw [getD_append_eq, htake, getD_take]
  split_ifs
  · rfl
  · exact getD_replicate_zero _ _

theorem get_extend_of_le (b : Buffer) (data : List UInt8) {k : Nat} (h : b.size + data.length ≤ k) :
    (b.extend data).get k = b.get k := by
  show (b.octets.take b.size ++ (data ++ b.octets.drop (b.size + data.length))).getD k 0 = _
  rw [getD_append_eq, length_take_size, if_neg (by omega), getD_append_eq, if_neg (by omega), get,
    List.getD_eq_getElem?_getD, List.getElem?_drop, List.getD_eq_getElem?_getD]
  congr 2
  omega

/-- What `iResize` keeps: the size, what is inside, and zeros behind it. -/
theorem iResize_done {b b' : Buffer} {length : Nat} {ok : Bool} {h : length ≤ b'.alloc}
    (hres : b.iResize length ok = .done b' h) :
    b'.size = b.size ∧ ∀ k, b'.get k = b.get k ∨ b.size ≤ k ∧ b'.get k = 0 := by
  unfold iResize at hres
  split at hres
  · cases hres
    exact ⟨rfl, fun k => .inl rfl⟩
  · split at hres
    · cases hres
    · split at hres
      · cases hres
        refine ⟨rfl, fun k => ?_⟩
        rw [get_realloc]
        split_ifs with hk
        · exact .inl rfl
        · exact .inr ⟨Nat.not_lt.1 hk, rfl⟩
      · cases hres

theorem iResize_tailZero {b b' : Buffer} {length : Nat} {ok : Bool} {h : length ≤ b'.alloc}
    (hres : b.iResize length ok = .done b' h) (hzero : b.TailZero) : b'.TailZero := by
  obtain ⟨hsize, hget⟩ := iResize_done hres
  intro k hk
  rw [hsize] at hk
  rcases hget k with heq | ⟨-, heq⟩
  · rw [heq]
    exact hzero k hk
  · exact heq

/-- A step through `iResize` either leaves the object, or works on a buffer that is as it was up to zeros. -/
theorem Resized.use_cases {b b₁ : Buffer} {length : Nat} {ok : Bool}
    {f : (b : Buffer) → length ≤ b.alloc → Buffer} (h : (b.iResize length ok).use b f = some b₁) :
    b₁ = b ∨ ∃ b' hle, b.iResize length ok = .done b' hle ∧ b₁ = f b' hle := by
  cases hres : b.iResize length ok with
  | done b' hle =>
    rw [hres] at h
    exact .inr ⟨b', hle, rfl, (Option.some.inj h).symm⟩
  | failed =>
    rw [hres] at h
    exact .inl (Option.some.inj h).symm
  | undefined =>
    rw [hres] at h
    cases h

/-! ## Clean objects -/

/-- Zeros behind the size, and an allocation that a machine can hold. -/
structure Clean (b : Buffer) : Prop where
  tailZero : b.TailZero
  alloc_lt : b.alloc < 2 ^ 64

theorem Clean.null : null.Clean := ⟨null_tailZero, Nat.two_pow_pos 64⟩

theorem alloc_realloc (b : Buffer) (length : Nat) :
    (b.realloc length).alloc = b.size + (roundUp length - b.size) := by
  show (b.octets.take b.size ++ List.replicate (roundUp length - b.size) 0).length = _
  rw [List.length_append, length_take_size, List.length_replicate]

theorem Clean.iResize {b b' : Buffer} {length : Nat} {ok : Bool} {h : length ≤ b'.alloc} (hb : b.Clean)
    (hres : b.iResize length ok = .done b' h) : b'.Clean := by
  refine ⟨iResize_tailZero hres hb.tailZero, ?_⟩
  have hsize : b.size ≤ b.alloc := b.size_le
  have hlt := hb.alloc_lt
  unfold Buffer.iResize at hres
  split at hres
  · cases hres
    exact hlt
  · split at hres
    · cases hres
    next hround =>
      split at hres
      · cases hres
        rw [alloc_realloc]
        omega
      · cases hres

theorem alloc_overwrite {b : Buffer} {data : List UInt8} (h : data.length ≤ b.alloc) :
    (b.overwrite data).alloc = b.alloc := by
  show (data ++ b.octets.drop data.length).length = b.octets.length
  rw [List.length_append, List.length_drop]
  exact Nat.add_sub_cancel' h

theorem alloc_put (b : Buffer) (position : Nat) (value : UInt8) : (b.put position value).alloc = b.alloc := by
  show ((b.buf.map fun octets => octets.set position value).getD []).length = (b.buf.getD []).length
  cases b.buf with
  | none => rfl
  | some octets => exact List.length_set

theorem alloc_clear (b : Buffer) : b.clear.alloc = b.alloc := by
  show ((b.buf.map fun octets => List.replicate octets.length (0 : UInt8)).getD []).length
    = (b.buf.getD []).length
  cases b.buf with
  | none => rfl
  | some octets => exact List.length_replicate

theorem alloc_cut (b : Buffer) (length : Nat) (h : length ≤ b.alloc) : (b.cut length h).alloc = b.alloc := by
  show (b.octets.take length ++ List.replicate (b.alloc - length) 0).length = b.alloc
  rw [List.length_append, List.length_take, List.length_replicate]
  have hle : length ≤ b.octets.length := h
  omega

theorem alloc_extend {b : Buffer} {data : List UInt8} (h : b.size + data.length ≤ b.alloc) :
    (b.extend data).alloc = b.alloc := by
  show (b.octets.take b.size ++ (data ++ b.octets.drop (b.size + data.length))).length = b.octets.length
  rw [List.length_append, length_take_size, List.length_append, List.length_drop]
  have hle : b.size + data.length ≤ b.octets.length := h
  omega

/-- The content is replaced: what it had behind the end of the new one comes to lie behind the size. -/
theorem Clean.setBin {b b' : Buffer} {data : List UInt8} {ok : Bool} (hb : b.Clean)
    (hdrop : ∀ k, data.length ≤ k → k < b.size → b.get k = 0) (h : b.setBin data ok = some b') :
    b'.Clean := by
  have hbehind : ∀ k, data.length ≤ k → b.get k = 0 := by
    intro k hk
    by_cases hin : k < b.size
    · exact hdrop k hk hin
    · exact hb.tailZero k (Nat.not_lt.1 hin)
  unfold Buffer.setBin at h
  split at h
  next hnil =>
    cases h
    subst hnil
    exact ⟨fun k _ => hbehind k (Nat.zero_le k), hb.alloc_lt⟩
  next =>
    obtain heq | ⟨b₁, hle, hres, heq⟩ := Resized.use_cases h
    · rw [heq]
      exact hb
    · rw [heq]
      constructor
      · intro k hk
        have hk : data.length ≤ k := hk
        rw [get_overwrite, if_neg (Nat.not_lt.2 hk)]
        obtain hsame | ⟨-, hzero⟩ := (iResize_done hres).2 k
        · rw [hsame]
          exact hbehind k hk
        · exact hzero
      · rw [alloc_overwrite hle]
        exact (hb.iResize hres).alloc_lt

theorem Clean.grow {b : Buffer} {length : Nat} (hb : b.Clean) (h : length ≤ b.alloc) :
    (b.grow length h).Clean := by
  constructor
  · intro k hk
    have hk : max b.size length ≤ k := hk
    exact hb.tailZero k (Nat.le_trans (Nat.le_max_left _ _) hk)
  · exact hb.alloc_lt

theorem Clean.put {b : Buffer} {position : Nat} {value : UInt8} (hb : b.Clean) (h : position < b.size) :
    (b.put position value).Clean := by
  constructor
  · intro k hk
    have hk : b.size ≤ k := hk
    rw [get_put _ _ _ _ (by omega)]
    exact hb.tailZero k hk
  · rw [alloc_put]
    exact hb.alloc_lt

theorem Clean.growPut {b : Buffer} {position : Nat} (hb : b.Clean) (h : position + 1 ≤ b.alloc)
    (value : UInt8) : ((b.grow (position + 1) h).put position value).Clean :=
  (hb.grow h).put (Nat.le_max_right b.size (position + 1))

theorem Clean.setAt {b b' : Buffer} {position : UInt64} {value : UInt8} {ok : Bool} (hb : b.Clean)
    (h : b.setAt position value ok = some b') : b'.Clean := by
  unfold Buffer.setAt at h
  split at h
  · cases h
  · obtain rfl | ⟨b₁, hle, hres, rfl⟩ := Resized.use_cases h
    · exact hb
    · exact (hb.iResize hres).growPut hle value

theorem Clean.index {b b' : Buffer} {position : UInt64} {assigned : Option UInt8} {ok : Bool} (hb : b.Clean)
    (h : b.index position assigned ok = some b') : b'.Clean := by
  unfold Buffer.index at h
  split at h
  · cases h
  · obtain rfl | ⟨b₁, hle, hres, rfl⟩ := Resized.use_cases h
    · exact hb
    · cases assigned with
      | none => exact (hb.iResize hres).grow hle
      | some value => exact (hb.iResize hres).growPut hle value

theorem Clean.clear {b : Buffer} (hb : b.Clean) : b.clear.Clean := by
  refine ⟨fun k _ => get_clear b k, ?_⟩
  rw [alloc_clear]
  exact hb.alloc_lt

theorem Clean.resize {b b' : Buffer} {length : UInt64} {ok : Bool} (hb : b.Clean)
    (h : b.resize length ok = some b') : b'.Clean := by
  unfold Buffer.resize at h
  split at h
  · cases h
    exact hb.clear
  · obtain rfl | ⟨b₁, hle, hres, rfl⟩ := Resized.use_cases h
    · exact hb
    · constructor
      · intro k hk
        have hk : length.toNat ≤ k := hk
        rw [get_cut, if_neg (Nat.not_lt.2 hk)]
      · rw [alloc_cut]
        exact (hb.iResize hres).alloc_lt

theorem Clean.append {b b' : Buffer} {data : List UInt8} {ok : Bool} (hb : b.Clean)
    (h : b.append data ok = some b') : b'.Clean := by
  unfold Buffer.append at h
  split at h
  · cases h
    exact hb
  · obtain rfl | ⟨b₁, hle, hres, rfl⟩ := Resized.use_cases h
    · exact hb
    · have hb₁ := hb.iResize hres
      have hle : b₁.size + data.length ≤ b₁.alloc := by
        rw [(iResize_done hres).1]
        exact hle
      constructor
      · intro k hk
        have hk : b₁.size + data.length ≤ k := hk
        rw [get_extend_of_le _ _ hk]
        exact hb₁.tailZero k (by omega)
      · rw [alloc_extend hle]
        exact hb₁.alloc_lt

end Buffer

/-! ## One step -/

/-- Every object is clean. -/
def Buffers.Clean (s : Buffers) : Prop := ∀ i, (s i).Clean

theorem Buffers.Clean.update {s : Buffers} (hs : s.Clean) (i : Nat) {b : Buffer} (hb : b.Clean) :
    Buffers.Clean (Function.update s i b) := by
  intro j
  by_cases hj : j = i
  · rw [hj, Function.update_self]
    exact hb
  · rw [Function.update_of_ne hj]
    exact hs j

/-- An operation on one object, which may be undefined. -/
theorem Buffers.Clean.map_update {s s' : Buffers} (hs : s.Clean) {i : Nat} {r : Option Buffer}
    (hr : ∀ b, r = some b → b.Clean) (h : r.map (Function.update s i) = some s') : s'.Clean := by
  obtain ⟨b, hb, heq⟩ := Option.map_eq_some_iff.1 h
  rw [← heq]
  exact hs.update i (hr b hb)

theorem Buffers.start_clean (have_ : Nat → Bool) : (Buffers.start have_).Clean := by
  intro i
  unfold Buffers.start
  split_ifs
  · constructor
    · intro k _
      rw [Buffer.get_realloc]
      exact if_neg (Nat.not_lt_zero k)
    · rw [Buffer.alloc_realloc]
      decide
  · exact Buffer.Clean.null

namespace BinOp

theorem other_clean {s s' : Buffers} {op : BinOp} {ok : Bool} (hs : s.Clean)
    (h : op.other s ok = some s') : s'.Clean := by
  have hsame : some s = some s' → s'.Clean := by
    intro heq
    cases heq
    exact hs
  have hcleared : ∀ i, some (Function.update s i (s i).clear) = some s' → s'.Clean := by
    intro i heq
    cases heq
    exact hs.update i (hs i).clear
  cases op with
  | setAt i position value => exact hs.map_update (fun b hb => (hs i).setAt hb) h
  | index i position assigned => exact hs.map_update (fun b hb => (hs i).index hb) h
  | resize i length => exact hs.map_update (fun b hb => (hs i).resize hb) h
  | clear i => exact hcleared i h
  | append i octet => exact hs.map_update (fun b hb => (hs i).append hb) h
  | appendOf i j => exact hs.map_update (fun b hb => (hs i).append hb) h
  | mvBin i j =>
    cases h
    exact (hs.update i (hs j)).update j Buffer.Clean.null
  | setBinString i string =>
    cases string with
    | nil => exact hcleared i h
    | cons octet string => exact hsame h
  | fromBase64 i bin64 pad =>
    cases bin64 with
    | nil => exact hcleared i h
    | cons octet bin64 => exact hsame h
  | setBin i data => exact hsame h
  | setBinOf i j => exact hsame h
  | fromHex i hex => exact hsame h
  | fromId i str => exact hsame h

theorem step_clean {s s' : Buffers} {op : BinOp} {ok : Bool} (hs : s.Clean) (hdrop : op.DropsZeros s)
    (h : op.step s ok = some s') : s'.Clean := by
  unfold step at h
  split at h
  next i data hrep => exact hs.map_update (fun b hb => (hs i).setBin (hdrop i data hrep) hb) h
  next => exact other_clean hs h

end BinOp

/-! ## What a growth shows -/

namespace Buffer

theorem get_growPut {b : Buffer} {position k : Nat} {value : UInt8} (hb : b.Clean)
    (h : position + 1 ≤ b.alloc) (hk : b.size ≤ k) (hne : k ≠ position) :
    ((b.grow (position + 1) h).put position value).get k = 0 := by
  rw [get_put _ _ _ _ hne]
  exact hb.tailZero k hk

theorem Clean.get_setAt {b b' : Buffer} {position : UInt64} {value : UInt8} {ok : Bool} (hb : b.Clean)
    (h : b.setAt position value ok = some b') {k : Nat} (hk : b.size ≤ k) (hne : k ≠ position.toNat) :
    b'.get k = 0 := by
  unfold Buffer.setAt at h
  split at h
  · cases h
  · obtain rfl | ⟨b₁, hle, hres, rfl⟩ := Resized.use_cases h
    · exact hb.tailZero k hk
    · rw [← (iResize_done hres).1] at hk
      exact get_growPut (hb.iResize hres) hle hk hne

theorem Clean.get_index {b b' : Buffer} {position : UInt64} {assigned : Option UInt8} {ok : Bool}
    (hb : b.Clean) (h : b.index position assigned ok = some b') {k : Nat} (hk : b.size ≤ k)
    (hne : assigned.isSome → k ≠ position.toNat) : b'.get k = 0 := by
  unfold Buffer.index at h
  split at h
  · cases h
  · obtain rfl | ⟨b₁, hle, hres, rfl⟩ := Resized.use_cases h
    · exact hb.tailZero k hk
    · rw [← (iResize_done hres).1] at hk
      cases assigned with
      | none => exact (hb.iResize hres).tailZero k hk
      | some value => exact get_growPut (hb.iResize hres) hle hk (hne rfl)

theorem Clean.get_resize {b b' : Buffer} {length : UInt64} {ok : Bool} (hb : b.Clean)
    (h : b.resize length ok = some b') {k : Nat} (hk : b.size ≤ k) : b'.get k = 0 := by
  unfold Buffer.resize at h
  split at h
  · cases h
    exact get_clear b k
  · obtain rfl | ⟨b₁, hle, hres, rfl⟩ := Resized.use_cases h
    · exact hb.tailZero k hk
    · rw [← (iResize_done hres).1] at hk
      rw [get_cut]
      split_ifs
      · exact (hb.iResize hres).tailZero k hk
      · rfl

end Buffer

namespace BinOp

/-- An operation on one object shows in it alone. -/
theorem map_update_self {s s' : Buffers} {i : Nat} {r : Option Buffer}
    (h : r.map (Function.update s i) = some s') : r = some (s' i) := by
  obtain ⟨b, hb, heq⟩ := Option.map_eq_some_iff.1 h
  rw [hb, ← heq, Function.update_self]

theorem step_exposesZeros {s s' : Buffers} {op : BinOp} {ok : Bool} (hs : s.Clean)
    (h : op.step s ok = some s') : op.ExposesZeros s s' := by
  intro n hgrows k hk _ hwrites
  cases op with
  | setAt i position value =>
    obtain rfl : n = i := hgrows
    exact (hs n).get_setAt (map_update_self h) hk hwrites
  | index i position assigned =>
    obtain rfl : n = i := hgrows
    refine (hs n).get_index (map_update_self h) hk fun hsome => ?_
    cases assigned with
    | none => cases hsome
    | some value => exact hwrites
  | resize i length =>
    obtain rfl : n = i := hgrows
    exact (hs n).get_resize (map_update_self h) hk
  | _ => exact hgrows.elim

end BinOp

/-! ## What is left behind a shorter content -/

namespace Buffer

/-- Where the allocation is long enough nothing is allocated. -/
theorem iResize_of_le {b : Buffer} {length : Nat} (ok : Bool) (hpos : 0 < b.alloc) (h : length ≤ b.alloc) :
    b.iResize length ok = .done b h := by
  have hsome : b.buf.isSome := by
    cases hbuf : b.buf with
    | none =>
      have hzero : b.alloc = 0 := by
        unfold alloc octets
        rw [hbuf]
        rfl
      omega
    | some octets => rfl
  unfold iResize
  exact dif_pos ⟨h, hsome⟩

theorem get_setBin_of_lt {b b' : Buffer} {data : List UInt8} {ok : Bool} {k : Nat}
    (h : b.setBin data ok = some b') (hle : data.length ≤ k) (hk : k < b.size) :
    b'.size = data.length ∧ b'.alloc = b.alloc ∧ b'.get k = b.get k := by
  have hsize : b.size ≤ b.alloc := b.size_le
  unfold setBin at h
  split at h
  next hnil =>
    cases h
    rw [hnil]
    exact ⟨rfl, rfl, rfl⟩
  next =>
    rw [iResize_of_le ok (by omega) (by omega)] at h
    cases h
    refine ⟨rfl, alloc_overwrite (by omega), ?_⟩
    rw [get_overwrite, if_neg (Nat.not_lt.2 hle)]

theorem get_resize_of_le {b : Buffer} {length : UInt64} (ok : Bool) {k : Nat}
    (hlen : length.toNat ≤ b.alloc) (hk : k < length.toNat) :
    ∃ b', b.resize length ok = some b' ∧ b'.size = length.toNat ∧ b'.get k = b.get k := by
  refine ⟨b.cut length.toNat hlen, ?_, rfl, ?_⟩
  · have hne : length ≠ 0 := by
      intro hzero
      rw [hzero] at hk
      exact Nat.not_lt_zero k hk
    unfold resize
    rw [if_neg hne, iResize_of_le ok (by omega) hlen]
    rfl
  · rw [get_cut, if_pos hk]

end Buffer

/-- An octet that is dropped and not zero is back when the object gets its former size. -/
theorem BinOp.exposes_of_not_dropsZeros {s s' : Buffers} {op : BinOp} {ok : Bool} (hs : s.Clean)
    (h : op.step s ok = some s') (hdrop : ¬ op.DropsZeros s) (ok' : Bool) :
    ∃ op' s'', BinOp.step s' op' ok' = some s'' ∧ ¬ op'.ExposesZeros s' s'' := by
  unfold BinOp.DropsZeros at hdrop
  push Not at hdrop
  obtain ⟨i, data, hrep, k, hle, hk, hne⟩ := hdrop
  unfold BinOp.step at h
  rw [hrep] at h
  obtain ⟨hsize, halloc, hget⟩ := Buffer.get_setBin_of_lt (map_update_self h) hle hk
  have hsizele : (s i).size ≤ (s i).alloc := (s i).size_le
  have hlt := (hs i).alloc_lt
  -- the former size is a length that a machine can hold, as the allocation is
  have hformer : (UInt64.ofNat (s i).size).toNat = (s i).size :=
    UInt64.toNat_ofNat_of_lt' (Nat.lt_of_le_of_lt hsizele hlt)
  obtain ⟨b', hb', hsize', hget'⟩ :=
    @Buffer.get_resize_of_le (s' i) (UInt64.ofNat (s i).size) ok' k (by omega) (by omega)
  refine ⟨.resize i (UInt64.ofNat (s i).size), Function.update s' i b', ?_, ?_⟩
  · show ((s' i).resize (UInt64.ofNat (s i).size) ok').map (Function.update s' i) = _
    rw [hb']
    rfl
  · intro hexp
    apply hne
    rw [← hget, ← hget', ← Function.update_self (f := s') (a := i) (v := b')]
    refine hexp i rfl k (by omega) ?_ id
    rw [Function.update_self]
    omega

/-! ## Runs -/

theorem BinOp.run_clean {ops : List (BinOp × Bool)} {s s' : Buffers} (hs : s.Clean)
    (hdrop : AllDropZeros s ops) (h : BinOp.run s ops = some s') : s'.Clean := by
  induction ops generalizing s with
  | nil =>
    cases h
    exact hs
  | cons op ops ih =>
    obtain ⟨s₁, hstep, hrest⟩ := Option.bind_eq_some_iff.1 h
    obtain ⟨hop, hops⟩ := hdrop
    exact ih (BinOp.step_clean hs hop hstep) (hops s₁ hstep) hrest

/-- In a run whose replacements drop zeros only, every growth shows zeros only; and a replacement drops zeros
    only if and only if every growth that can be the next shows zeros only. -/
theorem growth_iff (have_ : Nat → Bool) (ops : List (BinOp × Bool)) (s : Buffers)
    (hrun : BinOp.run (Buffers.start have_) ops = some s)
    (hdrop : AllDropZeros (Buffers.start have_) ops) (op : BinOp) (ok : Bool) (s' : Buffers)
    (hstep : op.step s ok = some s') :
    op.ExposesZeros s s' ∧
    (op.DropsZeros s ↔ ∀ (op' : BinOp) (ok' : Bool) (s'' : Buffers),
      BinOp.step s' op' ok' = some s'' → op'.ExposesZeros s' s'') := by
  have hs := BinOp.run_clean (Buffers.start_clean have_) hdrop hrun
  refine ⟨BinOp.step_exposesZeros hs hstep, ?_⟩
  constructor
  · intro hop op' ok' s'' hstep'
    exact BinOp.step_exposesZeros (BinOp.step_clean hs hop hstep) hstep'
  · intro hall
    by_contra hop
    obtain ⟨op', s'', hstep', hexp⟩ := BinOp.exposes_of_not_dropsZeros hs hstep hop ok
    exact hexp (hall op' ok s'' hstep')

/-- An object gets three octets, then three others, and is filled up to a position behind them. -/
theorem growth_iff_sparse : ∃ s s' : Buffers,
    BinOp.run (Buffers.start fun _ => true)
      [(.setBin 0 [1, 2, 3], true), (.setBin 0 [4, 5, 6], true)] = some s ∧
    (BinOp.setAt 0 5 9).step s true = some s' ∧
    (s' 0).content = [4, 5, 6, 0, 0, 9] ∧ (BinOp.setAt 0 5 9).ExposesZeros s s' := by
  refine ⟨_, _, rfl, rfl, rfl, ?_⟩
  refine (growth_iff (fun _ => true) [(.setBin 0 [1, 2, 3], true), (.setBin 0 [4, 5, 6], true)] _ rfl ?_
    (.setAt 0 5 9) true _ rfl).1
  refine ⟨?_, fun s hs => ⟨?_, fun _ _ => trivial⟩⟩
  · intro i data hrep k _ hk
    cases hrep
    exact absurd hk (Nat.not_lt_zero k)
  · cases hs
    intro i data hrep k hle hk
    cases hrep
    exact absurd hk (Nat.not_lt.2 hle)

/-- The octets of a text behind the one that replaces it are there again after a growth. -/
theorem growth_iff_leak :
    ¬ ∀ (have_ : Nat → Bool) (ops : List (BinOp × Bool)) (s : Buffers) (op : BinOp) (ok : Bool) (s' : Buffers),
      BinOp.run (Buffers.start have_) ops = some s → op.step s ok = some s' → op.ExposesZeros s s' := by
  intro h
  have hzero := h (fun _ => true) [(.setBin 0 [97, 98, 99], true), (.setBin 0 [120], true)] _
    (.setAt 0 2 122) true _ rfl rfl 0 rfl 1 (by decide) (by decide)
    (show ¬ 1 = (2 : UInt64).toNat by decide)
  exact absurd hzero (by decide)

end PtpMgmt
