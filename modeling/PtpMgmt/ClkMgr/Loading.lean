import PtpMgmt.ClkMgr.Config
import Mathlib.Data.List.Forall2

set_option autoImplicit false

/-! # Loading the configuration (`JsonConfigParser::process_json`)

The object takes the rows over one by one while it walks the array. An element that makes no row ends the
walk, and the rows in front of it stay. A document that is no object has no members to look up: the pointer
that stands for it is null, and it is followed all the same. -/

namespace PtpMgmt.ClkMgr

open Json

namespace JsonConfigParser

/-- The loop of `process_json`: what is returned, and the time bases after it. -/
def loop (currentIndex : UInt64) (timeBaseCfgs : List TimeBaseCfgFull) :
    List Value → Bool × List TimeBaseCfgFull
  | [] => (true, timeBaseCfgs)
  | it :: its =>
    match processRow currentIndex it with
    | none => (false, timeBaseCfgs)
    | some row => loop (currentIndex + 1) (timeBaseCfgs ++ [row]) its

/-- `process_json` of a file with these octets, if it opens: what is returned, and the time bases after it.
    Nothing when it follows a null pointer. -/
def processJson (_timeBaseCfgs : List TimeBaseCfgFull) (file : Option Text) :
    Option (Bool × List TimeBaseCfgFull) :=
  -- `timeBaseCfgs.clear()`
  match file.bind (parseFile true) with
  | none => some (false, [])
  | some main =>
    match main.bind Value.getObj with
    | none => none
    | some obj =>
      match getArr obj (txt "timeBases") with
      | none => some (false, [])
      | some timeBaseArray => some (loop 1 [] timeBaseArray)

end JsonConfigParser

/-! ## Elements that make a row -/

/-- A text that has room in a field of characters. -/
def NameFits (obj : List (Text × Value)) (key : Text) : Prop :=
  ∃ r, getVal obj key = some (.str r) ∧ r ≠ [] ∧ r.length < stringSizeMax

/-- A text, or the default. -/
def StrFits (obj : List (Text × Value)) (key : Text) : Prop :=
  ∀ val, getVal obj key = some val → ∃ r, val = .str r ∧ r ≠ []

/-- A number of 8 bits, or the default. -/
def IntFits (obj : List (Text × Value)) (key : Text) : Prop :=
  ∀ val, getVal obj key = some val → ∃ i : Int64, val.getInt64 false = some i ∧ ¬ (i < 0 ∨ i > 255)

/-- The member for ptp4l. -/
structure Ptp4lFits (ptp4lObj : List (Text × Value)) : Prop where
  interfaceName : NameFits ptp4lObj (txt "interfaceName")
  udsAddr : StrFits ptp4lObj (txt "udsAddr")
  domainNumber : IntFits ptp4lObj (txt "domainNumber")
  transportSpecific : IntFits ptp4lObj (txt "transportSpecific")

/-- An element of the array that describes a time base. -/
def ElementFits (it : Value) : Prop :=
  ∃ obj, it.getObj = some obj ∧ NameFits obj (txt "timeBaseName") ∧
    (∀ ptp4lObj, getObj obj (txt "ptp4l") = some ptp4lObj → Ptp4lFits ptp4lObj) ∧
    ∀ chronyObj, getObj obj (txt "chrony") = some chronyObj → StrFits chronyObj (txt "udsAddr")

theorem getCharsVal_iff (obj : List (Text × Value)) (key : Text) (v : Octets 64) :
    getCharsVal obj key none = some v ↔
      ∃ r, getVal obj key = some (.str r) ∧ r ≠ [] ∧ r.length < stringSizeMax ∧
        v = Octets.ofList 64 (r.takeWhile (· ≠ 0)) := by
  unfold getCharsVal getStrVal
  cases hval : getVal obj key with
  | none => simp
  | some val =>
    cases val with
    | str r =>
      simp only [Option.some.injEq, Value.str.injEq, exists_eq_left']
      by_cases hne : r = []
      · simp [hne]
      · simp only [if_neg hne]
        by_cases hlen : r.length ≥ stringSizeMax
        · simp [hlen]
        · have hshort : (r.takeWhile (· ≠ 0)).take (stringSizeMax - 1) = r.takeWhile (· ≠ 0) := by
            refine List.take_of_length_le ?_
            have hle := (List.takeWhile_sublist (l := r) (· ≠ 0)).length_le
            omega
          rw [if_neg hlen, hshort, Option.some.injEq]
          exact ⟨fun h => ⟨hne, Nat.not_le.1 hlen, h.symm⟩, fun h => h.2.2.symm⟩
    | _ => simp

theorem getCharsVal_isSome_iff (obj : List (Text × Value)) (key : Text) :
    (getCharsVal obj key none).isSome ↔ NameFits obj key := by
  rw [Option.isSome_iff_exists]
  constructor
  · rintro ⟨v, hv⟩
    obtain ⟨r, hval, hne, hlen, -⟩ := (getCharsVal_iff obj key v).1 hv
    exact ⟨r, hval, hne, hlen⟩
  · rintro ⟨r, hval, hne, hlen⟩
    exact ⟨_, (getCharsVal_iff obj key _).2 ⟨r, hval, hne, hlen, rfl⟩⟩

theorem getStrVal_isSome_iff (obj : List (Text × Value)) (key d : Text) :
    (getStrVal obj key (some d)).isSome ↔ StrFits obj key := by
  unfold getStrVal StrFits
  cases getVal obj key with
  | none => simp
  | some val =>
    cases val with
    | str r =>
      by_cases hne : r = []
      · simp [hne]
      · simp [hne]
    | _ => simp

theorem getIntVal_isSome_iff (obj : List (Text × Value)) (key : Text) (d : UInt8) :
    (getIntVal obj key (some d)).isSome ↔ IntFits obj key := by
  unfold getIntVal IntFits
  cases getVal obj key with
  | none => simp
  | some val =>
    simp only [Option.some.injEq, forall_eq']
    cases val.getInt64 false with
    | none => simp
    | some i =>
      by_cases hout : i < 0 ∨ i > 255
      · simp only [if_pos hout, Option.isSome_none, Bool.false_eq_true, false_iff]
        rintro ⟨j, hj, hin⟩
        cases hj
        exact hin hout
      · simp only [if_neg hout, Option.isSome_some, true_iff]
        exact ⟨i, rfl, hout⟩

/-- The part for ptp4l leaves the name of the time base. -/
theorem ptp4lRow_spec {row row' : TimeBaseCfgFull} {ptp4lObj : List (Text × Value)}
    (h : ptp4lRow row ptp4lObj = some row') :
    row'.base.timeBaseName = row.base.timeBaseName ∧
      ∃ v, getCharsVal ptp4lObj (txt "interfaceName") none = some v ∧ row'.base.interfaceName = v := by
  unfold ptp4lRow at h
  simp only [Option.bind_eq_bind, Option.bind_eq_some_iff, Option.pure_def, Option.some.injEq] at h
  obtain ⟨v, hv, -, -, -, -, -, -, rfl⟩ := h
  exact ⟨rfl, v, hv, rfl⟩

theorem ptp4lRow_isSome_iff (row : TimeBaseCfgFull) (ptp4lObj : List (Text × Value)) :
    (ptp4lRow row ptp4lObj).isSome ↔ Ptp4lFits ptp4lObj := by
  have hname := getCharsVal_isSome_iff ptp4lObj (txt "interfaceName")
  have huds := getStrVal_isSome_iff ptp4lObj (txt "udsAddr") defaultUdsPtp4l
  have hdomain := getIntVal_isSome_iff ptp4lObj (txt "domainNumber") 0
  have htrans := getIntVal_isSome_iff ptp4lObj (txt "transportSpecific") 0
  unfold ptp4lRow
  simp only [Option.bind_eq_bind, Option.isSome_bind, Option.any_eq_true, Option.pure_def, Option.isSome_some]
  rw [Option.isSome_iff_exists] at hname huds hdomain htrans
  constructor
  · rintro ⟨v, hv, u, hu, d, hd, t, ht, -⟩
    exact ⟨hname.1 ⟨v, hv⟩, huds.1 ⟨u, hu⟩, hdomain.1 ⟨d, hd⟩, htrans.1 ⟨t, ht⟩⟩
  · intro hfits
    obtain ⟨v, hv⟩ := hname.2 hfits.interfaceName
    obtain ⟨u, hu⟩ := huds.2 hfits.udsAddr
    obtain ⟨d, hd⟩ := hdomain.2 hfits.domainNumber
    obtain ⟨t, ht⟩ := htrans.2 hfits.transportSpecific
    exact ⟨v, hv, u, hu, d, hd, t, ht, trivial⟩

/-- The part for chrony leaves both names. -/
theorem chronyRow_spec {row row' : TimeBaseCfgFull} {chronyObj : List (Text × Value)}
    (h : chronyRow row chronyObj = some row') :
    row'.base.timeBaseName = row.base.timeBaseName ∧ row'.base.interfaceName = row.base.interfaceName := by
  unfold chronyRow at h
  simp only [Option.bind_eq_bind, Option.bind_eq_some_iff, Option.pure_def, Option.some.injEq] at h
  obtain ⟨-, -, rfl⟩ := h
  exact ⟨rfl, rfl⟩

theorem chronyRow_isSome_iff (row : TimeBaseCfgFull) (chronyObj : List (Text × Value)) :
    (chronyRow row chronyObj).isSome ↔ StrFits chronyObj (txt "udsAddr") := by
  have huds := getStrVal_isSome_iff chronyObj (txt "udsAddr") defaultUdsChrony
  rw [← huds]
  unfold chronyRow
  simp [Option.isSome_bind]

/-- Characters that end before their field does. -/
def EndsInField (v : Octets 64) : Prop := 0 ∈ v.toList

theorem ofList_ends {r : Text} (h : r.length < stringSizeMax) :
    EndsInField (Octets.ofList 64 (r.takeWhile (· ≠ 0))) := by
  have hle := (List.takeWhile_sublist (l := r) (· ≠ 0)).length_le
  have hpos : 0 < 64 - (r.takeWhile (· ≠ 0)).length := by
    unfold stringSizeMax at h
    omega
  show 0 ∈ (r.takeWhile (· ≠ 0) ++ List.replicate 64 0).take 64
  rw [List.take_append, List.mem_append, List.take_replicate]
  exact .inr (List.mem_replicate.2 ⟨by omega, rfl⟩)

theorem getCharsVal_ends {obj : List (Text × Value)} {key : Text} {v : Octets 64}
    (h : getCharsVal obj key none = some v) : EndsInField v := by
  obtain ⟨r, -, -, hlen, rfl⟩ := (getCharsVal_iff obj key v).1 h
  exact ofList_ends hlen

/-- The row is the one of the element, with its name. -/
structure RowOf (it : Value) (index : UInt64) (row : TimeBaseCfgFull) : Prop where
  timeBaseIndex : row.base.timeBaseIndex = index
  timeBaseName : ∃ obj r, it.getObj = some obj ∧ getVal obj (txt "timeBaseName") = some (.str r) ∧
    row.base.timeBaseName = Octets.ofList 64 (r.takeWhile (· ≠ 0))
  timeBaseName_ends : EndsInField row.base.timeBaseName
  interfaceName_ends : EndsInField row.base.interfaceName

/-- The row with the part for ptp4l, if the element has one. -/
def withPtp4l (obj : List (Text × Value)) (row : TimeBaseCfgFull) : Option TimeBaseCfgFull :=
  match getObj obj (txt "ptp4l") with
  | none => some row
  | some ptp4lObj => ptp4lRow row ptp4lObj

/-- The row with the part for chrony, if the element has one. -/
def withChrony (obj : List (Text × Value)) (row : TimeBaseCfgFull) : Option TimeBaseCfgFull :=
  match getObj obj (txt "chrony") with
  | none => some row
  | some chronyObj => chronyRow row chronyObj

/-- The body of the loop, part by part. -/
theorem processRow_eq (index : UInt64) (it : Value) :
    processRow index it = it.getObj.bind fun obj => (getCharsVal obj (txt "timeBaseName") none).bind fun name =>
      (withPtp4l obj { emptyRow with base := { emptyRow.base with timeBaseName := name } }).bind fun row =>
        (withChrony obj row).bind fun row =>
          some { row with base := { row.base with timeBaseIndex := index } } := by
  unfold processRow withPtp4l withChrony
  cases it.getObj with
  | none => rfl
  | some obj =>
    simp only [Option.bind_eq_bind, Option.bind_some]
    cases getCharsVal obj (txt "timeBaseName") none with
    | none => rfl
    | some name =>
      simp only [Option.bind_some]
      cases getObj obj (txt "ptp4l") with
      | none => cases getObj obj (txt "chrony") <;> rfl
      | some ptp4lObj => cases getObj obj (txt "chrony") <;> rfl

theorem withPtp4l_spec {obj : List (Text × Value)} {row row' : TimeBaseCfgFull}
    (h : withPtp4l obj row = some row') (hrow : EndsInField row.base.interfaceName) :
    row'.base.timeBaseName = row.base.timeBaseName ∧ EndsInField row'.base.interfaceName := by
  unfold withPtp4l at h
  split at h
  · cases h
    exact ⟨rfl, hrow⟩
  · obtain ⟨hsame, v, hv, hinterface⟩ := ptp4lRow_spec h
    exact ⟨hsame, hinterface ▸ getCharsVal_ends hv⟩

theorem withPtp4l_isSome_iff (obj : List (Text × Value)) (row : TimeBaseCfgFull) :
    (withPtp4l obj row).isSome ↔ ∀ ptp4lObj, getObj obj (txt "ptp4l") = some ptp4lObj → Ptp4lFits ptp4lObj := by
  unfold withPtp4l
  cases getObj obj (txt "ptp4l") with
  | none => exact iff_of_true rfl nofun
  | some ptp4lObj =>
    rw [ptp4lRow_isSome_iff]
    simp

theorem withChrony_spec {obj : List (Text × Value)} {row row' : TimeBaseCfgFull}
    (h : withChrony obj row = some row') :
    row'.base.timeBaseName = row.base.timeBaseName ∧ row'.base.interfaceName = row.base.interfaceName := by
  unfold withChrony at h
  split at h
  · cases h
    exact ⟨rfl, rfl⟩
  · exact chronyRow_spec h

theorem withChrony_isSome_iff (obj : List (Text × Value)) (row : TimeBaseCfgFull) :
    (withChrony obj row).isSome ↔
      ∀ chronyObj, getObj obj (txt "chrony") = some chronyObj → StrFits chronyObj (txt "udsAddr") := by
  unfold withChrony
  cases getObj obj (txt "chrony") with
  | none => exact iff_of_true rfl nofun
  | some chronyObj =>
    rw [chronyRow_isSome_iff]
    simp

/-- **Step**: the row that an element makes. -/
theorem processRow_spec {index : UInt64} {it : Value} {row : TimeBaseCfgFull}
    (h : processRow index it = some row) : RowOf it index row := by
  rw [processRow_eq] at h
  simp only [Option.bind_eq_some_iff, Option.some.injEq] at h
  obtain ⟨obj, hobj, name, hname, row₁, hrow₁, row₂, hrow₂, rfl⟩ := h
  have hempty : EndsInField emptyRow.base.interfaceName := ofList_ends (r := []) (by decide)
  obtain ⟨hname₁, hinterface₁⟩ := withPtp4l_spec hrow₁ hempty
  obtain ⟨hname₂, hinterface₂⟩ := withChrony_spec hrow₂
  obtain ⟨r, hval, -, -, hr⟩ := (getCharsVal_iff _ _ _).1 hname
  exact {
    timeBaseIndex := rfl
    timeBaseName := ⟨obj, r, hobj, hval, (hname₂.trans hname₁).trans hr⟩
    timeBaseName_ends := by
      show EndsInField row₂.base.timeBaseName
      rw [hname₂, hname₁]
      exact getCharsVal_ends hname
    interfaceName_ends := by
      show EndsInField row₂.base.interfaceName
      rw [hinterface₂]
      exact hinterface₁ }

theorem processRow_isSome_iff (index : UInt64) (it : Value) :
    (processRow index it).isSome ↔ ElementFits it := by
  rw [processRow_eq]
  unfold ElementFits
  constructor
  · intro h
    obtain ⟨row, hrow⟩ := Option.isSome_iff_exists.1 h
    simp only [Option.bind_eq_some_iff] at hrow
    obtain ⟨obj, hobj, name, hname, row₁, hrow₁, row₂, hrow₂, -⟩ := hrow
    exact ⟨obj, hobj, (getCharsVal_isSome_iff _ _).1 (Option.isSome_of_eq_some hname),
      (withPtp4l_isSome_iff _ _).1 (Option.isSome_of_eq_some hrow₁),
      (withChrony_isSome_iff _ _).1 (Option.isSome_of_eq_some hrow₂)⟩
  · rintro ⟨obj, hobj, hname, hptp, hchrony⟩
    obtain ⟨name, hname⟩ := Option.isSome_iff_exists.1 ((getCharsVal_isSome_iff _ _).2 hname)
    obtain ⟨row₁, hrow₁⟩ := Option.isSome_iff_exists.1 ((withPtp4l_isSome_iff obj
      { emptyRow with base := { emptyRow.base with timeBaseName := name } }).2 hptp)
    obtain ⟨row₂, hrow₂⟩ := Option.isSome_iff_exists.1 ((withChrony_isSome_iff obj row₁).2 hchrony)
    rw [hobj, Option.bind_some, hname, Option.bind_some, hrow₁, Option.bind_some, hrow₂]
    rfl

/-! ## The array -/

namespace JsonConfigParser

/-- The rows of the elements, in their order, numbered from `first` on. -/
structure RowsOf (its : List Value) (first : Nat) (rows : List TimeBaseCfgFull) : Prop where
  length_le : rows.length ≤ its.length
  row : ∀ k row, rows[k]? = some row → ∃ it, its[k]? = some it ∧ RowOf it (UInt64.ofNat (first + k)) row

theorem RowsOf.cons {it : Value} {its : List Value} {first : Nat} {row : TimeBaseCfgFull}
    {rows : List TimeBaseCfgFull} (hrow : RowOf it (UInt64.ofNat first) row) (h : RowsOf its (first + 1) rows) :
    RowsOf (it :: its) first (row :: rows) := by
  refine ⟨Nat.succ_le_succ h.length_le, fun k r hk => ?_⟩
  cases k with
  | zero =>
    cases hk
    exact ⟨it, rfl, hrow⟩
  | succ k =>
    obtain ⟨it', hit', hr⟩ := h.row k r hk
    refine ⟨it', hit', ?_⟩
    rwa [Nat.add_right_comm] at hr

/-- **Run**: the loop takes over the rows of the elements up to the first one that makes none. -/
theorem loop_spec (its : List Value) (first : Nat) (timeBaseCfgs : List TimeBaseCfgFull) :
    ∃ ok rows, loop (UInt64.ofNat first) timeBaseCfgs its = (ok, timeBaseCfgs ++ rows) ∧
      RowsOf its first rows ∧ (ok = true ↔ ∀ it ∈ its, ElementFits it) ∧
      (ok = true → rows.length = its.length) ∧ (rows = [] ↔ ∀ it ∈ its.head?, ¬ ElementFits it) := by
  induction its generalizing first timeBaseCfgs with
  | nil =>
    refine ⟨true, [], ?_, ⟨Nat.le_refl 0, nofun⟩, ?_, fun _ => rfl, ?_⟩
    · rw [loop, List.append_nil]
    · exact iff_of_true rfl nofun
    · exact iff_of_true rfl nofun
  | cons it its ih =>
    cases hrow : processRow (UInt64.ofNat first) it with
    | none =>
      have hunfit : ¬ ElementFits it := by
        rw [← processRow_isSome_iff (UInt64.ofNat first), hrow]
        exact Bool.false_ne_true
      refine ⟨false, [], ?_, ⟨Nat.zero_le _, nofun⟩, ?_, nofun, ?_⟩
      · rw [loop, hrow, List.append_nil]
      · exact iff_of_false Bool.false_ne_true fun h => hunfit (h it List.mem_cons_self)
      · refine iff_of_true rfl fun it' hit' => ?_
        cases hit'
        exact hunfit
    | some row =>
      have hfit : ElementFits it := by
        rw [← processRow_isSome_iff (UInt64.ofNat first), hrow]
        rfl
      obtain ⟨ok, rows, hloop, hrows, hok, hlen, -⟩ := ih (first + 1) (timeBaseCfgs ++ [row])
      refine ⟨ok, row :: rows, ?_, .cons (processRow_spec hrow) hrows, ?_, ?_, ?_⟩
      · rw [loop, hrow]
        show loop (UInt64.ofNat first + 1) _ _ = _
        rw [← UInt64.ofNat_one, ← UInt64.ofNat_add, hloop, List.append_assoc, List.singleton_append]
      · rw [hok, List.forall_mem_cons]
        exact (and_iff_right hfit).symm
      · intro h
        rw [List.length_cons, List.length_cons, hlen h]
      · exact iff_of_false (List.cons_ne_nil _ _) fun h => h it rfl hfit

theorem loop_extends (its : List Value) (currentIndex : UInt64) (timeBaseCfgs : List TimeBaseCfgFull) :
    ∃ ok rows, loop currentIndex timeBaseCfgs its = (ok, timeBaseCfgs ++ rows) := by
  have hindex : currentIndex = UInt64.ofNat currentIndex.toNat := UInt64.ofNat_toNat.symm
  obtain ⟨ok, rows, hloop, -⟩ := loop_spec its currentIndex.toNat timeBaseCfgs
  rw [← hindex] at hloop
  exact ⟨ok, rows, hloop⟩

/-! ## The document -/

/-- What `process_json` is to do: it returns; then the time bases are those of the array, numbered from 1,
    with names that end in their fields; or it refuses the file, and no time base is left. -/
def ProcessRight (r : Option (Bool × List TimeBaseCfgFull)) (file : Option Text) : Prop :=
  ∃ ok rows, r = some (ok, rows) ∧
    (ok = true → ∃ obj its, file.bind (parseFile true) = some (some (.obj obj)) ∧
      getArr obj (txt "timeBases") = some its ∧ rows.length = its.length ∧ RowsOf its 1 rows) ∧
    (ok = false → rows = [])

/-- A document is an object, and in its array no element that makes no row follows one that makes a row. -/
def DocumentFits (file : Option Text) : Prop :=
  ∀ main, file.bind (parseFile true) = some main → ∃ obj, main = some (.obj obj) ∧
    ∀ its, getArr obj (txt "timeBases") = some its →
      (∀ it ∈ its, ElementFits it) ∨ ∀ it ∈ its.head?, ¬ ElementFits it

theorem getObj_iff (main : Option Value) (obj : List (Text × Value)) :
    main.bind Value.getObj = some obj ↔ main = some (.obj obj) := by
  cases main with
  | none => simp
  | some val => cases val <;> simp [Value.getObj]

/-- For every file `process_json` does what it is to do if and only if the document, where there is one, is an
    object whose array has no element that makes no row behind one that makes a row. -/
theorem processJson_right_iff (timeBaseCfgs : List TimeBaseCfgFull) (file : Option Text) :
    ProcessRight (processJson timeBaseCfgs file) file ↔ DocumentFits file := by
  unfold processJson DocumentFits
  cases hmain : file.bind (parseFile true) with
  | none => exact iff_of_true ⟨false, [], rfl, nofun, fun _ => rfl⟩ nofun
  | some main =>
    simp only [Option.some.injEq, forall_eq']
    cases hobj : main.bind Value.getObj with
    | none =>
      refine iff_of_false ?_ ?_
      · rintro ⟨ok, rows, hnone, -⟩
        cases hnone
      · rintro ⟨obj, hobj', -⟩
        rw [(getObj_iff main obj).2 hobj'] at hobj
        cases hobj
    | some obj =>
      obtain rfl := (getObj_iff main obj).1 hobj
      simp only [Option.some.injEq, Value.obj.injEq, exists_eq_left']
      cases harr : getArr obj (txt "timeBases") with
      | none => exact iff_of_true ⟨false, [], rfl, nofun, fun _ => rfl⟩ nofun
      | some its =>
        obtain ⟨ok, rows, hloop, hrows, hok, hlen, hnil⟩ := loop_spec its 1 []
        simp only [Option.some.injEq, forall_eq', ← hok, ← hnil]
        have hstart : loop 1 [] its = (ok, rows) := hloop
        rw [hstart]
        constructor
        · rintro ⟨ok', rows', hsame, -, hleft⟩
          cases hsame
          cases ok with
          | true => exact .inl rfl
          | false => exact .inr (hleft rfl)
        · intro h
          refine ⟨ok, rows, rfl, fun h => ⟨obj, its, hmain, harr, hlen h, hrows⟩, fun hfail => ?_⟩
          rcases h with h | h
          · rw [hfail] at h
            cases h
          · exact h

/-- A file whose second time base has no name. -/
def halfRead : Text :=
  txt "\x7b\"timeBases\":[\x7b\"timeBaseName\":\"a\"\x7d,\x7b\x7d]\x7d"

/-- An array as document ends the program, and the first time base of a refused file stays. -/
theorem processJson_right_halfRead : ¬ ProcessRight (processJson [] (some (txt "[]"))) (some (txt "[]")) ∧
    ¬ ProcessRight (processJson [] (some halfRead)) (some halfRead) := by
  have hnull : (processJson [] (some (txt "[]"))).isSome = false := by decide +kernel
  have hhalf : (processJson [] (some halfRead)).map (fun r => (r.1, r.2.length)) = some (false, 1) := by
    decide +kernel
  constructor
  · rintro ⟨ok, rows, hrows, -⟩
    rw [hrows] at hnull
    cases hnull
  · rintro ⟨ok, rows, hrows, -, hleft⟩
    rw [hrows, Option.map_some, Option.some.injEq, Prod.mk.injEq] at hhalf
    rw [hleft hhalf.1] at hhalf
    cases hhalf.2

/-! ## The rows of a file that is taken -/

theorem loop_eq_true_iff (its : List Value) (currentIndex : UInt64) (timeBaseCfgs rows : List TimeBaseCfgFull) :
    loop currentIndex timeBaseCfgs its = (true, timeBaseCfgs ++ rows) ↔ processRows currentIndex its = some rows := by
  induction its generalizing currentIndex timeBaseCfgs rows with
  | nil =>
    rw [loop, processRows, Prod.mk.injEq, Option.some.injEq]
    simp
  | cons it its ih =>
    rw [loop, processRows]
    cases processRow currentIndex it with
    | none => simp
    | some row =>
      simp only [Option.bind_eq_bind, Option.bind_some, Option.pure_def, Option.bind_eq_some_iff,
        Option.some.injEq]
      constructor
      · intro h
        obtain ⟨ok, rest, hloop⟩ : ∃ ok rest, loop (currentIndex + 1) (timeBaseCfgs ++ [row]) its =
            (ok, (timeBaseCfgs ++ [row]) ++ rest) := loop_extends _ _ _
        rw [hloop, Prod.mk.injEq, List.append_assoc] at h
        obtain ⟨rfl, happend⟩ := h
        have hrows := List.append_cancel_left happend
        exact ⟨rest, (ih _ _ _).1 hloop, hrows⟩
      · rintro ⟨rest, hrest, rfl⟩
        have hloop := (ih (currentIndex + 1) (timeBaseCfgs ++ [row]) rest).2 hrest
        rwa [List.append_assoc] at hloop

/-- The rows that the server works with are those of a file that is taken. -/
theorem processJson_eq_true_iff (timeBaseCfgs rows : List TimeBaseCfgFull) (file : Text) :
    processJson timeBaseCfgs (some file) = some (true, rows) ↔ ClkMgr.processJson file = some rows := by
  unfold processJson ClkMgr.processJson
  rw [Option.bind_some]
  cases parseFile true file with
  | none => simp
  | some main =>
    cases main with
    | none => simp
    | some val =>
      simp only [Option.bind_some, Option.bind_eq_bind]
      cases val.getObj with
      | none => simp
      | some obj =>
        simp only [Option.bind_some]
        cases getArr obj (txt "timeBases") with
        | none => simp
        | some its =>
          rw [Option.some.injEq, Option.bind_some]
          exact loop_eq_true_iff its 1 [] rows

end JsonConfigParser

end PtpMgmt.ClkMgr
