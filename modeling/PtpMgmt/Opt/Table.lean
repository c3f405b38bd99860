import Mathlib.Data.List.Forall2
import Mathlib.Data.List.Induction
import PtpMgmt.Message.Lookup
import PtpMgmt.Wire.Octets

set_option autoImplicit false

/-! # The table of long options (`Options::insert`)

`getopt_long` takes the long options as an array that ends with an entry of zeros, and each entry points to its
name. The entries are those of a vector, and the names are kept in one buffer that grows. The help texts, which
only the help needs, are left out. -/

namespace PtpMgmt.Opt

open Json Wire

/-! ## The buffer of names -/

/-- A block of the heap. -/
abbrev Block := Nat

/-- `Buf`. -/
structure Buf where
  block : Option Block
  size : Nat
  octets : Nat → UInt8

/-- What a `realloc` gives: the block, the same one or another, and the octets behind those that are kept. -/
abbrev Realloc := Option (Block × (Nat → UInt8))

namespace Buf

def init : Buf := ⟨none, 0, fun _ => 0⟩

/-- `Buf::alloc`. -/
def alloc (self : Buf) (size : Nat) (l_buf : Realloc) : Bool × Buf :=
  if size = 0 then (false, self)
  else if size ≤ self.size then (true, self)
  else
    match l_buf with
    | none => (false, self)
    | some (block, rest) => (true, ⟨some block, size, fun i => if i < self.size then self.octets i else rest i⟩)

end Buf

/-! ## Options -/

/-- `Pmc_option`. -/
structure PmcOption where
  shortName : UInt8
  longName : Text
  haveArg : Bool
  longOnly : Bool
  helpMsg : Text
  argHelp : Text
  deriving DecidableEq

/-- `option` of `getopt_long`, whose `flag` is always null. The name is a place in a block. -/
structure LongOption where
  name : Option (Option Block × Nat)
  hasArg : Bool
  val : UInt8

/-- The entry that ends the array. -/
def LongOption.zero : LongOption := ⟨none, false, 0⟩

/-- `Options`. -/
structure Options where
  longOptsList : List LongOption
  strings : Buf
  lastStrings : Nat
  allOpts : Text
  allShortOpts : Text
  withOpts : Text

namespace Options

/-- `Options::Options`, before the options of its own are inserted. -/
def init (useDef : Bool) : Options :=
  let netOpts := if useDef then txt "u246" else []
  ⟨[], .init, 0, netOpts, netOpts, []⟩

/-- The part of `insert` for the long name. -/
def insertLong (self : Options) (opt : PmcOption) (l_buf : Realloc) : Bool × Options :=
  if opt.longName = [] then (true, self)
  else
    let size := self.lastStrings + opt.longName.length + 1
    let (ok, strings) :=
      if size > self.strings.size then self.strings.alloc (size + 250) l_buf else (true, self.strings)
    if ok then
      (true, { self with
        strings := { strings with octets := store strings.octets self.lastStrings (opt.longName ++ [0]) }
        lastStrings := size
        longOptsList := self.longOptsList ++
          [⟨some (strings.block, self.lastStrings), opt.haveArg, opt.shortName⟩] })
    else (false, { self with strings })

/-- What `insert` notes of an option that it takes. -/
def note (self : Options) (opt : PmcOption) : Options :=
  { self with
    allShortOpts :=
      if opt.longOnly then self.allShortOpts
      else self.allShortOpts ++ opt.shortName :: (if opt.haveArg then [chr ':'] else [])
    withOpts := if opt.haveArg then self.withOpts ++ [opt.shortName] else self.withOpts
    allOpts := self.allOpts ++ [opt.shortName] }

/-- `Options::insert`. -/
def insert (self : Options) (opt : PmcOption) (l_buf : Realloc) : Bool × Options :=
  if opt.shortName = 0 ∨ opt.shortName ∈ txt ":+-W" then (false, self)
  else if opt.shortName ∈ self.allOpts then (false, self)
  else if opt.longOnly then
    if opt.longName = [] then (false, self) else (self.note opt).insertLong opt l_buf
  else if (opt.haveArg ∧ opt.argHelp = []) ∨ opt.helpMsg = [] then (false, self)
  else (self.note opt).insertLong opt l_buf

/-- The name that `getopt_long` reads of an entry: nothing where the block is gone. -/
def nameOf (self : Options) (entry : LongOption) : Option Text :=
  match entry.name with
  | none => none
  | some (block, place) =>
    if block = self.strings.block then
      some (cStr (slice self.strings.octets place (self.strings.size - place)))
    else none

end Options

/-! ## Runs -/

/-- One call. -/
structure Insert where
  opt : PmcOption
  l_buf : Realloc

/-- The options, and those that were accepted, each with the block that the buffer had then. -/
structure State where
  options : Options
  accepted : List (PmcOption × Option Block)

def State.next (s : State) (c : Insert) : State :=
  match s.options.insert c.opt c.l_buf with
  | (true, options) => ⟨options, s.accepted ++ [(c.opt, options.strings.block)]⟩
  | (false, options) => ⟨options, s.accepted⟩

def run (useDef : Bool) (calls : List Insert) : State := calls.foldl State.next ⟨.init useDef, []⟩

/-- The accepted options with a long name. -/
def State.long (s : State) : List (PmcOption × Option Block) := s.accepted.filter fun a => a.1.longName ≠ []

/-- The array that `getopt_long` is handed, with what the memory behind the vector holds: nothing is there to read
    where the block of the vector ends. -/
structure TableRight (s : State) (behind : Option LongOption) : Prop where
  names : ∀ a ∈ s.long, ∃ entry ∈ s.options.longOptsList, entry.val = a.1.shortName ∧
    entry.hasArg = a.1.haveArg ∧ s.options.nameOf entry = some a.1.longName
  count : s.options.longOptsList.length = s.long.length
  ends : behind = some .zero

/-! ## Names in the buffer -/

theorem cStr_append_zero (t r : Text) : cStr (t ++ 0 :: r) = cStr t := by
  induction t with
  | nil => simp [cStr]
  | cons c t ih =>
    unfold cStr at ih ⊢
    rw [List.cons_append, List.takeWhile_cons, List.takeWhile_cons, ih]

theorem cStr_eq_self_iff (t : Text) : cStr t = t ↔ (0 : UInt8) ∉ t := by
  refine ⟨?_, cStr_of_clean⟩
  intro h hzero
  rw [← h] at hzero
  simpa using List.mem_takeWhile_imp hzero

/-- The entry of an option: the name is in the part of the buffer that is written. -/
structure EntryOf (o : Options) (a : PmcOption × Option Block) (entry : LongOption) : Prop where
  val_eq : entry.val = a.1.shortName
  hasArg_eq : entry.hasArg = a.1.haveArg
  written : ∃ place, entry.name = some (a.2, place) ∧ place + (a.1.longName ++ [0]).length ≤ o.lastStrings ∧
    slice o.strings.octets place (a.1.longName ++ [0]).length = a.1.longName ++ [0]

section Entry

variable {o o' : Options} {a : PmcOption × Option Block} {entry : LongOption}

/-- What is written stays where it is in the buffer. -/
theorem EntryOf.mono (h : EntryOf o a entry) (hlast : o.lastStrings ≤ o'.lastStrings)
    (hoctets : ∀ i < o.lastStrings, o'.strings.octets i = o.strings.octets i) : EntryOf o' a entry := by
  obtain ⟨place, hname, hle, hslice⟩ := h.written
  refine ⟨h.val_eq, h.hasArg_eq, place, hname, hle.trans hlast, ?_⟩
  refine (slice_congr ?_).trans hslice
  intro i _ hi
  exact hoctets i (Nat.lt_of_lt_of_le hi hle)

theorem EntryOf.nameOf (h : EntryOf o a entry) (hroom : o.lastStrings ≤ o.strings.size) :
    o.nameOf entry = if a.2 = o.strings.block then some (cStr a.1.longName) else none := by
  obtain ⟨place, hname, hle, hslice⟩ := h.written
  simp only [Options.nameOf, hname]
  split
  · have hsize : o.strings.size - place =
        (a.1.longName ++ [0]).length + (o.strings.size - place - (a.1.longName ++ [0]).length) := by omega
    rw [hsize, slice_add, hslice, List.append_assoc, List.singleton_append, cStr_append_zero]
  · rfl

end Entry

/-! ## One call -/

/-- The part of a buffer that is written stays when the buffer grows. -/
theorem Buf.alloc_keeps {self : Buf} {size : Nat} {l_buf : Realloc} {strings : Buf}
    (h : self.alloc size l_buf = (true, strings)) :
    size ≤ strings.size ∧ self.size ≤ strings.size ∧ ∀ i < self.size, strings.octets i = self.octets i := by
  unfold alloc at h
  split at h
  · cases h
  · split at h
    · next hle =>
      cases h
      exact ⟨hle, Nat.le_refl _, fun _ _ => rfl⟩
    · next hlt =>
      cases l_buf with
      | none => cases h
      | some l =>
        cases h
        refine ⟨Nat.le_refl _, Nat.le_of_lt (Nat.lt_of_not_le hlt), ?_⟩
        intro i hi
        exact if_pos hi

theorem Buf.alloc_false {self : Buf} {size : Nat} {l_buf : Realloc} {strings : Buf}
    (h : self.alloc size l_buf = (false, strings)) : strings = self := by
  unfold alloc at h
  split at h
  · cases h
    rfl
  · split at h
    · cases h
    · cases l_buf with
      | none =>
        cases h
        rfl
      | some l => cases h

namespace Options

/-- A long name that is refused, or none, leaves the table; any other one is put behind the others. -/
theorem insertLong_cases (self : Options) (opt : PmcOption) (l_buf : Realloc)
    (hroom : self.lastStrings ≤ self.strings.size) :
    (opt.longName = [] ∧ self.insertLong opt l_buf = (true, self)) ∨
    (opt.longName ≠ [] ∧ self.insertLong opt l_buf = (false, self)) ∨
    opt.longName ≠ [] ∧ ∃ strings : Buf,
      self.lastStrings + (opt.longName ++ [0]).length ≤ strings.size ∧
      (∀ i < self.lastStrings, strings.octets i = self.strings.octets i) ∧
      self.insertLong opt l_buf = (true, { self with
        strings := { strings with octets := store strings.octets self.lastStrings (opt.longName ++ [0]) }
        lastStrings := self.lastStrings + (opt.longName ++ [0]).length
        longOptsList := self.longOptsList ++
          [⟨some (strings.block, self.lastStrings), opt.haveArg, opt.shortName⟩] }) := by
  have hlen : (opt.longName ++ [0]).length = opt.longName.length + 1 := by simp
  rw [hlen, ← Nat.add_assoc]
  by_cases hname : opt.longName = []
  · exact .inl ⟨hname, by rw [insertLong, if_pos hname]⟩
  · refine .inr ?_
    simp only [insertLong, if_neg hname]
    by_cases hgrow : self.lastStrings + opt.longName.length + 1 > self.strings.size
    · simp only [if_pos hgrow]
      cases halloc : self.strings.alloc (self.lastStrings + opt.longName.length + 1 + 250) l_buf with
      | mk ok strings =>
        cases ok with
        | false =>
          refine .inl ⟨hname, ?_⟩
          rw [Buf.alloc_false halloc]
          rfl
        | true =>
          obtain ⟨hsize, -, hkeeps⟩ := Buf.alloc_keeps halloc
          refine .inr ⟨hname, strings, by omega, ?_, rfl⟩
          intro i hi
          exact hkeeps i (Nat.lt_of_lt_of_le hi hroom)
    · simp only [if_neg hgrow]
      exact .inr ⟨hname, self.strings, by omega, fun _ _ => rfl, rfl⟩

/-- An option is refused at once, or it is noted and its long name is put in the table. -/
theorem insert_cases (self : Options) (opt : PmcOption) (l_buf : Realloc) :
    self.insert opt l_buf = (false, self) ∨
      opt.shortName ∉ self.allOpts ∧ self.insert opt l_buf = (self.note opt).insertLong opt l_buf := by
  unfold insert
  split
  · exact .inl rfl
  · split
    · exact .inl rfl
    · next hnew =>
      split
      · split
        · exact .inl rfl
        · exact .inr ⟨hnew, rfl⟩
      · split
        · exact .inl rfl
        · exact .inr ⟨hnew, rfl⟩

end Options

/-! ## The whole run -/

/-- What every sequence of calls keeps. -/
structure Kept (s : State) : Prop where
  entries : List.Forall₂ (EntryOf s.options) s.long s.options.longOptsList
  room : s.options.lastStrings ≤ s.options.strings.size
  vals : ∀ entry ∈ s.options.longOptsList, entry.val ∈ s.options.allOpts
  nodup : (s.options.longOptsList.map (·.val)).Nodup

theorem State.long_snoc (s : State) (o : Options) (a : PmcOption × Option Block) :
    (State.mk o (s.accepted ++ [a])).long = s.long ++ (if a.1.longName ≠ [] then [a] else []) := by
  simp [State.long, List.filter_append, List.filter_cons]

section Step

variable {s : State} {c : Insert}

/-- An option without an entry only adds to the characters. -/
theorem Kept.noted (h : Kept s) {accepted : List (PmcOption × Option Block)}
    (hlong : (State.mk (s.options.note c.opt) accepted).long = s.long) :
    Kept ⟨s.options.note c.opt, accepted⟩ := by
  refine ⟨?_, h.room, ?_, h.nodup⟩
  · rw [hlong]
    exact h.entries.imp fun _ _ he => he.mono (Nat.le_refl _) fun _ _ => rfl
  · intro entry hentry
    exact List.mem_append_left _ (h.vals entry hentry)

theorem Kept.next (h : Kept s) (c : Insert) : Kept (s.next c) := by
  obtain hrefused | ⟨hnew, hinsert⟩ := s.options.insert_cases c.opt c.l_buf
  · rw [State.next, hrefused]
    exact h
  · obtain ⟨hname, hlong⟩ | ⟨hname, hlong⟩ | ⟨hname, strings, hsize, hkeeps, hlong⟩ :=
      (s.options.note c.opt).insertLong_cases c.opt c.l_buf h.room
    · rw [State.next, hinsert, hlong]
      refine h.noted ?_
      rw [State.long_snoc, if_neg (not_not.mpr hname), List.append_nil]
    · rw [State.next, hinsert, hlong]
      exact h.noted rfl
    · -- the new entry comes behind the others, and its name behind theirs
      have hold : ∀ a entry, EntryOf s.options a entry → EntryOf (s.next c).options a entry := by
        intro a entry he
        rw [State.next, hinsert, hlong]
        refine he.mono (Nat.le_add_right _ _) ?_
        intro i hi
        exact (store_apply_of_lt _ _ _ _ hi).trans (hkeeps i hi)
      have hentry : EntryOf (s.next c).options (c.opt, (s.next c).options.strings.block)
          ⟨some ((s.next c).options.strings.block, s.options.lastStrings), c.opt.haveArg, c.opt.shortName⟩ := by
        rw [State.next, hinsert, hlong]
        exact ⟨rfl, rfl, _, rfl, Nat.le_refl _, slice_store_self _ _ _⟩
      rw [State.next, hinsert, hlong] at hold hentry ⊢
      refine ⟨?_, hsize, ?_, ?_⟩
      · rw [State.long_snoc, if_pos hname]
        refine List.rel_append (h.entries.imp fun a entry he => hold a entry he) ?_
        exact .cons hentry .nil
      · intro entry he
        rcases List.mem_append.mp he with he | he
        · exact List.mem_append_left _ (h.vals entry he)
        · rw [List.mem_singleton.mp he]
          exact List.mem_append_right _ (List.mem_singleton_self _)
      · rw [List.map_append, List.map_singleton]
        refine List.nodup_append.mpr ⟨h.nodup, List.nodup_singleton _, ?_⟩
        intro a ha b hb hab
        obtain ⟨entry, he, rfl⟩ := List.mem_map.mp ha
        have hval : entry.val = c.opt.shortName := hab.trans (List.mem_singleton.mp hb)
        exact hnew (hval ▸ h.vals entry he)

end Step

theorem kept_run (useDef : Bool) (calls : List Insert) : Kept (run useDef calls) := by
  induction calls using List.reverseRecOn with
  | nil => exact ⟨.nil, Nat.le_refl _, by simp [run, Options.init], List.nodup_nil⟩
  | append_singleton calls c ih =>
    rw [run, List.foldl_append]
    exact ih.next c

theorem exists_related {α β : Type} {R : α → β → Prop} {l : List α} {l' : List β} (h : List.Forall₂ R l l')
    {a : α} (ha : a ∈ l) : ∃ b ∈ l', R a b := by
  induction h with
  | nil => cases ha
  | cons hab _ ih =>
    rcases List.mem_cons.mp ha with rfl | ha
    · exact ⟨_, List.mem_cons_self, hab⟩
    · obtain ⟨b, hb, hr⟩ := ih ha
      exact ⟨b, List.mem_cons_of_mem _ hb, hr⟩

/-- The name of an entry is read where it was put, and up to the first zero. -/
theorem TableRight.stays {s : State} {behind : Option LongOption} (h : TableRight s behind) (hkept : Kept s) :
    ∀ a ∈ s.long, (0 : UInt8) ∉ a.1.longName ∧ a.2 = s.options.strings.block := by
  intro a ha
  obtain ⟨entry, hentry, hval, -, hname⟩ := h.names a ha
  obtain ⟨entry', hentry', hof⟩ : ∃ e ∈ s.options.longOptsList, EntryOf s.options a e :=
    exists_related hkept.entries ha
  -- an option has one entry only
  have hsame : entry = entry' :=
    List.inj_on_of_nodup_map hkept.nodup hentry hentry' (hval.trans hof.val_eq.symm)
  rw [hsame, hof.nameOf hkept.room] at hname
  split at hname
  · next hblock => exact ⟨(cStr_eq_self_iff _).mp (Option.some.inj hname), hblock⟩
  · cases hname

/-- Whatever is inserted, there are as many entries as accepted long options. The table is right if and only if the
    memory behind the vector, which nothing writes, has the end of the table in it, no long name has a zero, and the
    buffer is still where it was when each of the names was put in it. -/
theorem tableRight_iff (useDef : Bool) (calls : List Insert) (behind : Option LongOption) :
    TableRight (run useDef calls) behind ↔
      behind = some .zero ∧
        ∀ a ∈ (run useDef calls).long,
          (0 : UInt8) ∉ a.1.longName ∧ a.2 = (run useDef calls).options.strings.block := by
  have hkept := kept_run useDef calls
  constructor
  · intro h
    exact ⟨h.ends, h.stays hkept⟩
  · rintro ⟨hends, hnames⟩
    refine ⟨?_, hkept.entries.length_eq.symm, hends⟩
    intro a ha
    obtain ⟨entry, hentry, hof⟩ : ∃ e ∈ (run useDef calls).options.longOptsList,
        EntryOf (run useDef calls).options a e := exists_related hkept.entries ha
    obtain ⟨hclean, hblock⟩ := hnames a ha
    refine ⟨entry, hentry, hof.val_eq, hof.hasArg_eq, ?_⟩
    rw [hof.nameOf hkept.room, if_pos hblock, cStr_of_clean hclean]

/-- An option that takes no argument. -/
def flag (shortName : UInt8) (longName : Text) : PmcOption := ⟨shortName, longName, false, false, txt "help", []⟩

/-- Two options, the second one with a name that makes the buffer grow and move. -/
def moved : List Insert := [
  ⟨flag (chr 'x') (txt "first"), some (0, fun _ => 0)⟩,
  ⟨flag (chr 'y') (List.replicate 260 (chr 'y')), some (1, fun _ => 0)⟩]

/-- Behind one option, where the block of the vector ends, there is no end of the table. After the second one the
    name of the first one is gone as well. -/
theorem not_tableRight_moved : ¬ TableRight (run false (moved.take 1)) none ∧
    ¬ TableRight (run false moved) (some .zero) := by
  constructor
  · intro h
    cases h.ends
  · intro h
    have hblock := (h.stays (kept_run false moved) (flag (chr 'x') (txt "first"), some 0)
      (by decide +kernel)).2
    revert hblock
    decide +kernel

end PtpMgmt.Opt
