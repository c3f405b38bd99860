import PtpMgmt.Wire.Octets
import Mathlib.Order.Basic

set_option autoImplicit false

/-! # Cursor codecs

A codec that both reads and writes: one piece of code walks a message buffer with a cursor and a
count of octets left, and a mode flag says whether each field is copied from the buffer or into it.

`Cursor` is the state of such a walk, `Codec` the walk itself. A `Codec` carries the proof of what
every walk does whatever it is given (`Advances`): the cursor only moves forward, the count of
octets left pays for every octet passed, a read stays between where the walk began and where it
ended, a parse writes nothing, and no loop is cut short. Whatever is composed from the primitives
of this file keeps these facts; nothing has to be shown again for a new record. The error that a
failed walk reports is a fault as long as it starts with one.

The logs (`reads`, `writes`) and the `stuck` mark are ghost state: they record what the walk did and
no primitive looks at them. -/

namespace Wire

variable {ε α β : Type}

/-- The state of a walk over a message buffer. -/
structure Cursor (ε : Type) where
  /-- Copy into the buffer rather than out of it. -/
  build : Bool
  /-- Offset of the next octet. -/
  cur : Nat
  /-- Octets the walk may still pass. -/
  left : Int
  /-- Octets passed. -/
  size : Nat
  /-- The error to report should the walk fail. -/
  err : ε
  mem : Nat → UInt8
  /-- Offsets read, in order. -/
  reads : List Nat
  /-- Offsets written, in order. -/
  writes : List Nat
  /-- A loop was given up before its condition became false. -/
  stuck : Bool

namespace Cursor

/-- Pass `n` octets. -/
def move (s : Cursor ε) (n : Nat) : Cursor ε :=
  { s with cur := s.cur + n, left := s.left - n, size := s.size + n }

/-- Copy `w` into the buffer at the cursor. -/
def put (s : Cursor ε) (w : List UInt8) : Cursor ε :=
  { s with mem := store s.mem s.cur w, writes := s.writes ++ List.range' s.cur w.length }

/-- Look at the next `n` octets. -/
def look (s : Cursor ε) (n : Nat) : Cursor ε :=
  { s with reads := s.reads ++ List.range' s.cur n }

/-- Write `w` and pass it. -/
def emit (s : Cursor ε) (w : List UInt8) : Cursor ε :=
  (s.put w).move w.length

/-- Read the next `n` octets and pass them. -/
def consume (s : Cursor ε) (n : Nat) : Cursor ε :=
  (s.look n).move n

/-- The octets in front of the cursor are `w`. -/
def Holds (s : Cursor ε) (w : List UInt8) : Prop :=
  slice s.mem s.cur w.length = w

@[simp] theorem emit_nil (s : Cursor ε) : s.emit [] = s := by
  simp [emit, put, move]

@[simp] theorem consume_zero (s : Cursor ε) : s.consume 0 = s := by
  simp [consume, look, move]

@[simp] theorem emit_build (s : Cursor ε) (w : List UInt8) : (s.emit w).build = s.build := rfl
@[simp] theorem emit_cur (s : Cursor ε) (w : List UInt8) : (s.emit w).cur = s.cur + w.length := rfl
@[simp] theorem emit_left (s : Cursor ε) (w : List UInt8) :
    (s.emit w).left = s.left - w.length := rfl
@[simp] theorem emit_size (s : Cursor ε) (w : List UInt8) :
    (s.emit w).size = s.size + w.length := rfl
@[simp] theorem emit_err (s : Cursor ε) (w : List UInt8) : (s.emit w).err = s.err := rfl
@[simp] theorem emit_mem (s : Cursor ε) (w : List UInt8) :
    (s.emit w).mem = store s.mem s.cur w := rfl
@[simp] theorem consume_build (s : Cursor ε) (n : Nat) : (s.consume n).build = s.build := rfl
@[simp] theorem consume_cur (s : Cursor ε) (n : Nat) : (s.consume n).cur = s.cur + n := rfl
@[simp] theorem consume_left (s : Cursor ε) (n : Nat) : (s.consume n).left = s.left - n := rfl
@[simp] theorem consume_err (s : Cursor ε) (n : Nat) : (s.consume n).err = s.err := rfl
@[simp] theorem consume_mem (s : Cursor ε) (n : Nat) : (s.consume n).mem = s.mem := rfl

theorem emit_append (s : Cursor ε) (v w : List UInt8) :
    s.emit (v ++ w) = (s.emit v).emit w := by
  simp only [emit, put, move, store_append, List.length_append, ← List.range'_append_1,
    List.append_assoc, Cursor.mk.injEq, true_and, and_true]
  refine ⟨by omega, by push_cast; omega, by omega⟩

theorem consume_add (s : Cursor ε) (n m : Nat) :
    s.consume (n + m) = (s.consume n).consume m := by
  simp only [consume, look, move, ← List.range'_append_1, List.append_assoc, Cursor.mk.injEq,
    true_and, and_true]
  refine ⟨by omega, by push_cast; omega, by omega⟩

theorem Holds.append_left {s : Cursor ε} {v w : List UInt8} (h : s.Holds (v ++ w)) : s.Holds v :=
  (slice_eq_append h).1

theorem Holds.append_right {s : Cursor ε} {v w : List UInt8} (h : s.Holds (v ++ w)) :
    (s.consume v.length).Holds w :=
  (slice_eq_append h).2

end Cursor

/-! ## What every walk does -/

/-- The errors that a walk may report. -/
class Faults (ε : Type) where
  IsFault : ε → Prop

export Faults (IsFault)

variable [Faults ε]

/-- Every walk from `s` to `s'` satisfies this, whatever the octets and the values are. -/
structure Advances (s s' : Cursor ε) : Prop where
  build_eq : s'.build = s.build
  cur_le : s.cur ≤ s'.cur
  left_eq : s'.left + s'.cur = s.left + s.cur
  left_nonneg : 0 ≤ s.left → 0 ≤ s'.left
  size_eq : s'.size + s.cur = s.size + s'.cur
  reads : ∃ rs, s'.reads = s.reads ++ rs ∧ ∀ o ∈ rs, s.cur ≤ o ∧ o < s'.cur
  writes : ∃ ws, s'.writes = s.writes ++ ws
  parse_mem : s.build = false → s'.mem = s.mem ∧ s'.writes = s.writes
  frame : ∀ o, o < s.cur → s'.mem o = s.mem o
  stuck_eq : s'.stuck = s.stuck
  err : IsFault s.err → IsFault s'.err

theorem Advances.refl (s : Cursor ε) : Advances s s where
  build_eq := rfl
  cur_le := le_rfl
  left_eq := rfl
  left_nonneg := id
  size_eq := rfl
  reads := ⟨[], by simp, by simp⟩
  writes := ⟨[], by simp⟩
  parse_mem := fun _ => ⟨rfl, rfl⟩
  frame := fun _ _ => rfl
  stuck_eq := rfl
  err := id

theorem Advances.trans {a b c : Cursor ε} (h : Advances a b) (k : Advances b c) :
    Advances a c := by
  obtain ⟨rs, hrs, hr⟩ := h.reads
  obtain ⟨qs, hqs, hq⟩ := k.reads
  obtain ⟨ws, hws⟩ := h.writes
  obtain ⟨vs, hvs⟩ := k.writes
  have hcur := h.cur_le
  have kcur := k.cur_le
  have hsize := h.size_eq
  have ksize := k.size_eq
  refine ⟨k.build_eq.trans h.build_eq, hcur.trans kcur, k.left_eq.trans h.left_eq,
    fun h0 => k.left_nonneg (h.left_nonneg h0), by omega, ⟨rs ++ qs, ?_, ?_⟩, ⟨ws ++ vs, ?_⟩, ?_, ?_,
    k.stuck_eq.trans h.stuck_eq, fun hf => k.err (h.err hf)⟩
  · rw [hqs, hrs, List.append_assoc]
  · intro o ho
    rcases List.mem_append.1 ho with ho | ho
    · have := hr o ho; omega
    · have := hq o ho; omega
  · rw [hvs, hws, List.append_assoc]
  · intro hb
    have hm := h.parse_mem hb
    have km := k.parse_mem (h.build_eq.trans hb)
    exact ⟨km.1.trans hm.1, km.2.trans hm.2⟩
  · intro o ho
    exact (k.frame o (Nat.lt_of_lt_of_le ho hcur)).trans (h.frame o ho)

/-- A walk over the buffer: `none` reports a failure. The proof of what it may do comes with it. -/
structure Codec (ε : Type) [Faults ε] (α : Type) where
  run : Cursor ε → Option α × Cursor ε
  advances : ∀ s, Advances s (run s).2

namespace Codec

/-- The walk that passes nothing and answers `a`. -/
def ret (a : α) : Codec ε α where
  run s := (some a, s)
  advances := Advances.refl

/-- One walk after the other; the first failure ends both. -/
def andThen (c : Codec ε α) (k : α → Codec ε β) : Codec ε β where
  run s :=
    match c.run s with
    | (some a, s') => (k a).run s'
    | (none, s') => (none, s')
  advances s := by
    have h := c.advances s
    split
    · next a s' he =>
        rw [he] at h
        exact h.trans ((k a).advances s')
    · next s' he =>
        rw [he] at h
        exact h

instance : Monad (Codec ε) where
  pure := ret
  bind := andThen

@[simp] theorem run_pure (a : α) (s : Cursor ε) : (pure a : Codec ε α).run s = (some a, s) := rfl

theorem run_bind (c : Codec ε α) (k : α → Codec ε β) (s : Cursor ε) :
    (c >>= k).run s = match c.run s with
      | (some a, s') => (k a).run s'
      | (none, s') => (none, s') := rfl

theorem run_bind_some {c : Codec ε α} {k : α → Codec ε β} {s s' : Cursor ε} {a : α}
    (h : c.run s = (some a, s')) : (c >>= k).run s = (k a).run s' := by
  rw [run_bind, h]

theorem run_bind_none {c : Codec ε α} {k : α → Codec ε β} {s : Cursor ε}
    (h : (c.run s).1 = none) : (c >>= k).run s = (none, (c.run s).2) := by
  rw [run_bind]
  split
  · next a s' he => rw [he] at h; exact absurd h (by simp)
  · next s' he => rw [he]

/-! ## Primitives -/

/-- Copy between the buffer and `src`, as every scalar, text and octet field does: refuse when fewer
    than `len` octets are left, else copy and pass `len` octets. A build copies all of `src`, which
    is what the caller checked only when `src` has `len` octets. -/
def xfer (len : Nat) (src : List UInt8) : Codec ε (List UInt8) where
  run s :=
    if s.left < len then (none, s)
    else if s.build then (some src, (s.put src).move len)
    else (some (slice s.mem s.cur len), (s.look len).move len)
  advances s := by
    split
    · exact Advances.refl s
    · next hroom =>
        split
        · next hb =>
            refine ⟨rfl, Nat.le_add_right _ _, ?_, fun _ => ?_, ?_, ⟨[], by simp [Cursor.put,
              Cursor.move], by simp⟩, ⟨_, rfl⟩, fun h => absurd hb (by simp [h]),
              fun o ho => store_apply_of_lt _ _ _ _ ho, rfl, id⟩
            · simp only [Cursor.put, Cursor.move]; push_cast; omega
            · simp only [Cursor.put, Cursor.move]; omega
            · simp only [Cursor.put, Cursor.move]; omega
        · next hb =>
            refine ⟨rfl, Nat.le_add_right _ _, ?_, fun _ => ?_, ?_, ⟨_, rfl, fun o ho => ?_⟩,
              ⟨[], by simp [Cursor.look, Cursor.move]⟩, fun _ => ⟨rfl, rfl⟩,
              fun _ _ => rfl, rfl, id⟩
            · simp only [Cursor.look, Cursor.move]; push_cast; omega
            · simp only [Cursor.look, Cursor.move]; omega
            · simp only [Cursor.look, Cursor.move]; omega
            · rw [List.mem_range'_1] at ho
              exact ho

/-- Is the walk a build? -/
def isBuild : Codec ε Bool where
  run s := (some s.build, s)
  advances := Advances.refl

/-- Octets left to pass. -/
def getLeft : Codec ε Int where
  run s := (some s.left, s)
  advances := Advances.refl

/-- Refuse when fewer than `n` octets are left. -/
def need (n : Nat) : Codec ε Unit where
  run s := if s.left < n then (none, s) else (some (), s)
  advances s := by split <;> exact Advances.refl s

/-- Fail with the error that stands. -/
def fail : Codec ε α where
  run s := (none, s)
  advances := Advances.refl

/-- Fail with the fault `e`. -/
def failWith (e : ε) (he : IsFault e) : Codec ε α where
  run s := (none, { s with err := e })
  advances s := ⟨rfl, le_rfl, rfl, id, rfl, ⟨[], by simp, by simp⟩, ⟨[], by simp⟩,
    fun _ => ⟨rfl, rfl⟩, fun _ _ => rfl, rfl, fun _ => he⟩

@[simp] theorem run_isBuild (s : Cursor ε) : isBuild.run s = (some s.build, s) := rfl
@[simp] theorem run_getLeft (s : Cursor ε) : getLeft.run s = (some s.left, s) := rfl
@[simp] theorem run_fail (s : Cursor ε) : (fail : Codec ε α).run s = (none, s) := rfl
@[simp] theorem run_failWith (e : ε) (he : IsFault e) (s : Cursor ε) :
    (failWith e he : Codec ε α).run s = (none, { s with err := e }) := rfl

theorem run_xfer_build {len : Nat} {src : List UInt8} {s : Cursor ε} (hb : s.build = true)
    (hroom : (len : Int) ≤ s.left) :
    (xfer len src).run s = (some src, (s.put src).move len) := by
  simp [xfer, hb, Int.not_lt.2 hroom]

theorem run_xfer_parse {len : Nat} {src : List UInt8} {s : Cursor ε} (hb : s.build = false)
    (hroom : (len : Int) ≤ s.left) :
    (xfer len src).run s = (some (slice s.mem s.cur len), s.consume len) := by
  simp [xfer, hb, Int.not_lt.2 hroom, Cursor.consume]

theorem run_xfer_short {len : Nat} {src : List UInt8} {s : Cursor ε} (hroom : s.left < len) :
    (xfer len src).run s = (none, s) := by
  simp [xfer, hroom]

theorem run_need {n : Nat} {s : Cursor ε} (hroom : (n : Int) ≤ s.left) :
    (need n).run s = (some (), s) := by
  simp [need, Int.not_lt.2 hroom]

theorem run_need_short {n : Nat} {s : Cursor ε} (hroom : s.left < n) :
    (need n).run s = (none, s) := by
  simp [need, hroom]

/-! ## Loops -/

/-- `p` on every value of a list. -/
def each (p : α → Codec ε α) : List α → Codec ε (List α)
  | [] => return []
  | a :: rest => do
      let a ← p a
      let rest ← each p rest
      return a :: rest

/-- `c` a given number of times. -/
def times (c : Codec ε α) : Nat → Codec ε (List α)
  | 0 => return []
  | n + 1 => do
      let a ← c
      let rest ← times c n
      return a :: rest

/-- A success of `c` passes at least one octet. -/
class Consumes (c : Codec ε α) : Prop where
  cur_lt : ∀ s a, (c.run s).1 = some a → s.cur < (c.run s).2.cur

/-- `while(left >= size)`, for at most `fuel` rounds. A loop that would go on longer is marked. -/
def whileRun (size : Nat) (c : Codec ε α) : Nat → Cursor ε → Option (List α) × Cursor ε
  | 0, s => if s.left < size then (some [], s) else (none, { s with stuck := true })
  | fuel + 1, s =>
    if s.left < size then (some [], s)
    else
      match c.run s with
      | (none, s') => (none, s')
      | (some a, s') =>
        match whileRun size c fuel s' with
        | (none, s'') => (none, s'')
        | (some rest, s'') => (some (a :: rest), s'')

/-- With a round for every octet left the loop is never marked: each round passes an octet. -/
theorem whileRun_advances (size : Nat) (hsize : 0 < size) (c : Codec ε α) [hc : Consumes c] :
    ∀ (fuel : Nat) (s : Cursor ε), s.left ≤ fuel → Advances s (whileRun size c fuel s).2 := by
  intro fuel
  induction fuel with
  | zero =>
      intro s hs
      rw [whileRun, if_pos (by omega)]
      exact Advances.refl s
  | succ fuel ih =>
      intro s hs
      rw [whileRun]
      split
      · exact Advances.refl s
      · have hadv := c.advances s
        split
        · next s' he =>
            rw [he] at hadv
            exact hadv
        · next a s' he =>
            have hlt := hc.cur_lt s a (by rw [he])
            rw [he] at hadv hlt
            have hleft := hadv.left_eq
            have hrec := ih s' (by simp only at hlt hleft; omega)
            split
            · next s'' he' =>
                rw [he'] at hrec
                exact hadv.trans hrec
            · next rest s'' he' =>
                rw [he'] at hrec
                exact hadv.trans hrec

/-- The records of an open-ended list: as long as one more of `size` octets fits. -/
def whileLeft (size : Nat) (hsize : 0 < size) (c : Codec ε α) [Consumes c] :
    Codec ε (List α) where
  run s := whileRun size c s.left.toNat s
  advances s := whileRun_advances size hsize c _ s (Int.self_le_toNat _)

instance consumes_bind_left (c : Codec ε α) (k : α → Codec ε β) [hc : Consumes c] :
    Consumes (c >>= k) where
  cur_lt s b h := by
    rw [run_bind] at h ⊢
    rcases he : c.run s with ⟨_ | a, s'⟩
    · rw [he] at h; exact absurd h (by simp)
    · have hlt := hc.cur_lt s a (by rw [he])
      rw [he] at hlt
      exact Nat.lt_of_lt_of_le hlt ((k a).advances s').cur_le

theorem consumes_xfer {len : Nat} (hlen : 0 < len) (src : List UInt8) :
    Consumes (xfer len src : Codec ε _) where
  cur_lt s a h := by
    by_cases hroom : s.left < len
    · rw [run_xfer_short hroom] at h; exact absurd h (by simp)
    · have hle : (len : Int) ≤ s.left := Int.not_lt.1 hroom
      by_cases hb : s.build = true
      · rw [run_xfer_build hb hle]
        simp only [Cursor.put, Cursor.move]
        omega
      · rw [run_xfer_parse (by simpa using hb) hle, Cursor.consume_cur]
        omega

end Codec

end Wire
