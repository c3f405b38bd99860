import Mathlib.Logic.Function.Basic
import PtpMgmt.Cfg.Lines
import PtpMgmt.Json.FromJson

set_option autoImplicit false

/-! # The configuration file (`cfg.cpp`)

A file sets values in sections. A value that a section does not set is the one of the global section, and
what the global section does not set has a default.

What a file sets is told beside it: its settings one after the other, each with the section that it stands
in. The sections that are read are made of these settings. -/

namespace PtpMgmt

open Json

/-- `Binary::fromMac`. -/
def Binary.fromMac (str : Text) : Option Binary :=
  (Binary.fromId str).filter fun id => decide (id.length = 6 ∨ id.length = 8)

namespace Cfg

/-! ## Values -/

/-- The integer values. -/
inductive NumVal
  | transportSpecific
  | domainNumber
  | udp6Scope
  | udpTtl
  | socketPriority
  | networkTransport
  | activeKeyId
  | spp
  | allowUnauth
deriving DecidableEq

/-- The string values. -/
inductive StrVal
  | udsAddress
  | saFile
deriving DecidableEq

/-- The MAC addresses. -/
inductive BinVal
  | ptpDstMac
  | p2pDstMac
deriving DecidableEq

inductive Idx
  | num (i : NumVal)
  | str (i : StrVal)
  | bin (i : BinVal)
deriving DecidableEq

def Idx.Val : Idx → Type
  | .num _ => UInt32
  | .str _ => Text
  | .bin _ => Binary

/-- `range_t`. -/
structure Range where
  name : Text
  defStr : Text
  defVal : UInt32
  min : UInt32
  max : UInt32

def rangVal (name : String) (defVal min max : UInt32) : Range := ⟨txt name, [], defVal, min, max⟩

def rangStr (name defStr : String) : Range := ⟨txt name, txt defStr, 0, 0, 0⟩

/-- `ranges`. -/
def ranges : Idx → Range
  | .num .transportSpecific => rangVal "transportSpecific" 0 0 0xf
  | .num .domainNumber => rangVal "domainNumber" 0 0 255
  | .num .udp6Scope => rangVal "udp6_scope" 0xe 0 0xf
  | .num .udpTtl => rangVal "udp_ttl" 1 1 255
  | .num .socketPriority => rangVal "socket_priority" 0 0 15
  | .num .networkTransport => rangVal "network_transport" 0x34 0x32 0x36
  | .num .activeKeyId => rangVal "active_key_id" 0 0 4294967295
  | .num .spp => rangVal "spp" 0 0 255
  | .num .allowUnauth => rangVal "allow_unauth" 0 0 2
  | .str .udsAddress => rangStr "uds_address" "/var/run/ptp/ptp4l"
  | .str .saFile => rangStr "sa_file" ""
  | .bin .ptpDstMac => rangStr "ptp_dst_mac" "1:1b:19:0:0:0"
  | .bin .p2pDstMac => rangStr "p2p_dst_mac" "1:80:c2:0:0:e"

/-- The indexes in their order. -/
def Idx.all : List Idx :=
  [.num .transportSpecific, .num .domainNumber, .num .udp6Scope, .num .udpTtl, .num .socketPriority,
    .num .networkTransport, .num .activeKeyId, .num .spp, .num .allowUnauth, .str .udsAddress, .str .saFile,
    .bin .ptpDstMac, .bin .p2pDstMac]

/-- The index with a name. -/
def Idx.find (name : Text) : Option Idx := Idx.all.find? fun idx => (ranges idx).name == name

/-! ## A section -/

/-- `ConfigSection`: its values, and which of them the file sets. -/
structure ConfigSection where
  vals : (i : Idx) → i.Val
  set : Idx → Bool

namespace ConfigSection

/-- A section that was never in the map. -/
def init : ConfigSection where
  vals
    | .num _ => (0 : UInt32)
    | .str _ => ([] : Text)
    | .bin _ => ([] : Binary)
  set _ := false

/-- `ConfigSection::setGlobal`. -/
def setGlobal (sec : ConfigSection) : ConfigSection where
  vals
    | .num i => (ranges (.num i)).defVal
    | .str i => (ranges (.str i)).defStr
    | .bin i => (Binary.fromId (ranges (.bin i)).defStr).getD (sec.vals (.bin i))
  set := sec.set

def store (sec : ConfigSection) (idx : Idx) (val : idx.Val) : ConfigSection where
  vals := Function.update sec.vals idx val
  set := Function.update sec.set idx true

/-- The value that a text gives. -/
def read (val : Text) : (idx : Idx) → Option idx.Val
  | .str _ => some val
  | .bin _ => Binary.fromMac val
  | .num .networkTransport =>
    if val = txt "UDPv4" then some (0x34 : UInt32)
    else if val = txt "UDPv6" then some (0x36 : UInt32)
    else if val = txt "L2" then some (0x32 : UInt32)
    else none
  | .num i =>
    let ret := (strtoimax 0 val).1.toInt
    if ret < (ranges (.num i)).min.toNat ∨ ret > (ranges (.num i)).max.toNat ∨ (strtoimax 0 val).2 ≠ [] then none
    else some (UInt32.ofNat ret.toNat)

/-- `ConfigSection::set_val`: whether the line is right, and the section after it. -/
def setVal (sec : ConfigSection) (buf : Text) (line : Nat) : Option (Bool × ConfigSection) := do
  let (buf, val) ← nextSpaceToken buf line
  let name ← str buf line
  match Idx.find name with
  | none => return (true, sec)
  | some idx =>
    let fin ← strEnd buf val
    let buf ← stripEndSpaces buf fin
    let text ← str buf val
    if text = [] then return (false, sec)
    else
      match read text idx with
      | none => return (false, sec)
      | some v => return (true, sec.store idx v)

end ConfigSection

/-! ## The file -/

/-- `globalSection`. -/
def globalSection : Text := txt "global"

/-- `ConfigFile`. The global section is one of the map. -/
structure ConfigFile where
  sections : Text → Option ConfigSection
  haveGlobal : (sections globalSection).isSome

namespace ConfigFile

/-- `cfgGlobal`. -/
def global (cfg : ConfigFile) : ConfigSection := (cfg.sections globalSection).get cfg.haveGlobal

/-- `ConfigFile::clear_sections`. -/
def clearSections : ConfigFile where
  sections name := if name = globalSection then some ConfigSection.init.setGlobal else none
  haveGlobal := by rw [if_pos rfl]; rfl

/-- `cfgSec[name]`, before something is done with it. -/
def entry (cfg : ConfigFile) (name : Text) : ConfigSection := (cfg.sections name).getD .init

/-- `cfgSec[name]`, with what was done with it. -/
def put (cfg : ConfigFile) (name : Text) (sec : ConfigSection) : ConfigFile where
  sections := Function.update cfg.sections name (some sec)
  haveGlobal := by
    by_cases h : globalSection = name
    · rw [h, Function.update_self]
      rfl
    · rw [Function.update_of_ne h]
      exact cfg.haveGlobal

/-- The configuration and the current section, while a file is read. -/
structure Reader where
  cfg : ConfigFile
  curSection : Text

/-- What `read_cfg` does with a line. -/
def line (rd : Reader) (buf : Text) : Option (Bool × Reader) := do
  let cur ← skipSpaces buf 0
  let c ← buf[cur]?
  if c = chr '[' then
    match ← sectionName buf cur with
    | none => return (false, rd)
    | some name => return (true, { rd with curSection := name })
  else if c ≠ 0 ∧ c ≠ chr '#' then
    let (ok, sec) ← (rd.cfg.entry rd.curSection).setVal buf cur
    return (ok, { rd with cfg := rd.cfg.put rd.curSection sec })
  else return (true, rd)

/-- `ConfigFile::read_cfg` of a file with these octets, if it can be opened: whether it succeeds, and the
    object after it. -/
def readCfg (cfg : ConfigFile) (file : Option Text) : Option (Bool × ConfigFile) :=
  match file with
  | none => some (false, cfg)
  | some file =>
    (readLines line ⟨clearSections, globalSection⟩ (fileLines file)).map fun r => (r.1, r.2.cfg)

/-! ## Getters -/

/-- `ConfigFile::is_global`. -/
def isGlobal (cfg : ConfigFile) (idx : Idx) (name : Text) : Bool :=
  name == [] ||
    match cfg.sections name with
    | none => true
    | some sec => !sec.set idx

/-- `get_num`, `get_str` and `get_bin`. Nothing where `at` throws. -/
def get (cfg : ConfigFile) (idx : Idx) (name : Text) : Option idx.Val :=
  if cfg.isGlobal idx name then some (cfg.global.vals idx)
  else (cfg.sections name).map fun sec => sec.vals idx

def getNum (cfg : ConfigFile) (i : NumVal) (name : Text) : Option UInt32 := cfg.get (.num i) name

def transportSpecific (cfg : ConfigFile) (name : Text) : Option UInt8 :=
  (cfg.getNum .transportSpecific name).map UInt32.toUInt8

def domainNumber (cfg : ConfigFile) (name : Text) : Option UInt8 :=
  (cfg.getNum .domainNumber name).map UInt32.toUInt8

def udp6Scope (cfg : ConfigFile) (name : Text) : Option UInt8 :=
  (cfg.getNum .udp6Scope name).map UInt32.toUInt8

def udpTtl (cfg : ConfigFile) (name : Text) : Option UInt8 := (cfg.getNum .udpTtl name).map UInt32.toUInt8

def socketPriority (cfg : ConfigFile) (name : Text) : Option UInt8 :=
  (cfg.getNum .socketPriority name).map UInt32.toUInt8

def networkTransport (cfg : ConfigFile) (name : Text) : Option UInt8 :=
  (cfg.getNum .networkTransport name).map UInt32.toUInt8

def activeKeyId (cfg : ConfigFile) (name : Text) : Option UInt32 := cfg.getNum .activeKeyId name

def spp (cfg : ConfigFile) (name : Text) : Option UInt8 := (cfg.getNum .spp name).map UInt32.toUInt8

def allowUnauth (cfg : ConfigFile) (name : Text) : Option UInt8 :=
  (cfg.getNum .allowUnauth name).map UInt32.toUInt8

/-- `ConfigFile::haveSpp`. Nothing where `at` throws. -/
def haveSpp (cfg : ConfigFile) (name : Text) : Option Bool :=
  if cfg.global.set (.num .spp) then some true
  else if name = [] then some false
  else (cfg.sections name).map fun sec => sec.set (.num .spp)

def udsAddress (cfg : ConfigFile) (name : Text) : Option Text := cfg.get (.str .udsAddress) name

def saFile (cfg : ConfigFile) (name : Text) : Option Text := cfg.get (.str .saFile) name

def ptpDstMac (cfg : ConfigFile) (name : Text) : Option Binary := cfg.get (.bin .ptpDstMac) name

def p2pDstMac (cfg : ConfigFile) (name : Text) : Option Binary := cfg.get (.bin .p2pDstMac) name

end ConfigFile

/-! ## What a line does -/

namespace ConfigSection

/-- What is made of the key and the value of a line. -/
def assign (sec : ConfigSection) (t : Text) : Bool × ConfigSection :=
  match Idx.find (key t) with
  | none => (true, sec)
  | some idx =>
    if strip (value t) = [] then (false, sec)
    else
      match read (strip (value t)) idx with
      | none => (false, sec)
      | some v => (true, sec.store idx v)

/-- A line without white space behind the key makes `set_val` leave the buffer. -/
theorem setVal_none (sec : ConfigSection) (pre : Text) {t : Text} (h : ¬ HasSpace t) :
    sec.setVal (pre ++ (t ++ [0])) pre.length = none := by
  unfold setVal
  rw [nextSpaceToken_none h]
  rfl

theorem setVal_eq (sec : ConfigSection) (pre : Text) {t : Text} (h : HasSpace t) :
    sec.setVal (pre ++ (t ++ [0])) pre.length = some (sec.assign t) := by
  obtain ⟨buf, val, htoken, ⟨hkey, -, fin, buf', hend, hstrip, hval⟩⟩ := nextSpaceToken_spec h pre
  unfold setVal assign
  rw [htoken]
  show (str buf pre.length).bind _ = _
  rw [hkey, Option.bind_some]
  cases Idx.find (key t) with
  | none => rfl
  | some idx =>
    show (strEnd buf val).bind _ = _
    rw [hend]
    show (stripEndSpaces buf fin).bind _ = _
    rw [hstrip]
    show (str buf' val).bind _ = _
    rw [hval, Option.bind_some]
    dsimp only
    split_ifs
    · rfl
    · cases read (strip (value t)) idx <;> rfl

end ConfigSection

namespace ConfigFile

/-- What `read_cfg` does with a line, told by what stands in it. -/
def act (rd : Reader) : LineKind → Option (Bool × Reader)
  | .blank => some (true, rd)
  | .header t =>
    match header t with
    | none => some (false, rd)
    | some name => some (true, { rd with curSection := name })
  | .entry t =>
    if HasSpace t then
      some (((rd.cfg.entry rd.curSection).assign t).1,
        { rd with cfg := rd.cfg.put rd.curSection ((rd.cfg.entry rd.curSection).assign t).2 })
    else none

theorem line_eq (rd : Reader) (l : Text) : line rd (l ++ [0]) = act rd (lineKind l) := by
  obtain ⟨pre, t, hbuf, hskip, hc, hkind⟩ := lineKind_spec l
  unfold line
  rw [hskip]
  show ((l ++ [0])[pre.length]?).bind _ = _
  rw [hc, Option.bind_some, hbuf, hkind]
  cases t with
  | nil => rfl
  | cons c r =>
    rw [peek_cons]
    dsimp only
    split_ifs with hopen hblank hentry hentry
    · show (sectionName (pre ++ (c :: (r ++ [0]))) pre.length).bind _ = _
      rw [hopen, sectionName_eq, act]
      cases hname : header r with
      | none => rfl
      | some name => rfl
    · exact absurd hblank (by tauto)
    · rw [act]
      by_cases hspace : HasSpace (c :: r)
      · rw [ConfigSection.setVal_eq _ _ hspace, if_pos hspace]
        rfl
      · rw [ConfigSection.setVal_none _ _ hspace, if_neg hspace]
        rfl
    · rfl
    · exact absurd hblank (by tauto)

end ConfigFile

/-! ## What a file sets -/

/-- Integers have a range. -/
def Idx.InRange : (i : Idx) → i.Val → Prop
  | .num i => fun (v : UInt32) => (ranges (.num i)).min ≤ v ∧ v ≤ (ranges (.num i)).max
  | .str _ => fun _ => True
  | .bin _ => fun _ => True

theorem inRange_of_bounds {i : NumVal} {n : Int} (hmin : ¬ n < (ranges (.num i)).min.toNat)
    (hmax : ¬ n > (ranges (.num i)).max.toNat) : Idx.InRange (.num i) (UInt32.ofNat n.toNat) := by
  have hlt := (ranges (.num i)).max.toNat_lt
  have hnat : (UInt32.ofNat n.toNat).toNat = n.toNat := by
    rw [UInt32.toNat_ofNat']
    omega
  unfold Idx.InRange
  dsimp only
  rw [UInt32.le_iff_toNat_le, UInt32.le_iff_toNat_le, hnat]
  omega

theorem read_inRange {text : Text} {idx : Idx} {v : idx.Val} (h : ConfigSection.read text idx = some v) :
    idx.InRange v := by
  cases idx with
  | str i => trivial
  | bin i => trivial
  | num i =>
    cases i with
    | networkTransport =>
      unfold ConfigSection.read at h
      dsimp only at h
      split_ifs at h
      all_goals
        cases h
        unfold Idx.InRange
        decide
    | _ =>
      unfold ConfigSection.read at h
      dsimp only at h
      split at h
      · cases h
      next hnot =>
        cases h
        rw [not_or, not_or] at hnot
        exact inRange_of_bounds hnot.1 hnot.2.1

/-- A value that a file sets. -/
structure Setting where
  idx : Idx
  val : idx.Val
  inRange : idx.InRange val

/-- The value for an index. -/
def Setting.at (s : Setting) (i : Idx) : Option i.Val :=
  if h : s.idx = i then some (h ▸ s.val) else none

/-- The setting of a line; an unknown key sets nothing. -/
def settingOf (t : Text) : Option Setting :=
  match Idx.find (key t) with
  | none => none
  | some idx =>
    match h : ConfigSection.read (strip (value t)) idx with
    | none => none
    | some v => some ⟨idx, v, read_inRange h⟩

/-- The lines that are no headers, each with its section. -/
def settingsFrom (cur : Text) : List Text → List (Text × Option Setting)
  | [] => []
  | l :: ls =>
    match lineKind l with
    | .blank => settingsFrom cur ls
    | .header t => settingsFrom ((header t).getD cur) ls
    | .entry t => (cur, settingOf t) :: settingsFrom cur ls

def fileSettings (file : Text) : List (Text × Option Setting) := settingsFrom globalSection (fileLines file)

/-- The settings of one section. -/
def settingsIn (es : List (Text × Option Setting)) (name : Text) : List Setting :=
  es.filterMap fun e => if e.1 = name then e.2 else none

/-- The last value that is set in a section. -/
def lastSet (es : List (Text × Option Setting)) (name : Text) (i : Idx) : Option i.Val :=
  ((settingsIn es name).filterMap fun s => s.at i).getLast?

/-- The section has a line. -/
def Named (es : List (Text × Option Setting)) (name : Text) : Prop := ∃ e ∈ es, e.1 = name

instance Named.decidable (es : List (Text × Option Setting)) (name : Text) : Decidable (Named es name) :=
  inferInstanceAs (Decidable (∃ e ∈ es, e.1 = name))

/-! ## The sections that are read -/

def storeAll (sec : ConfigSection) (ss : List Setting) : ConfigSection :=
  ss.foldl (fun sec s => sec.store s.idx s.val) sec

theorem vals_storeAll (ss : List Setting) (sec : ConfigSection) (i : Idx) :
    (storeAll sec ss).vals i = ((ss.filterMap fun s => s.at i).getLast?).getD (sec.vals i) := by
  induction ss generalizing sec with
  | nil => rfl
  | cons s ss ih =>
    have hstore : (sec.store s.idx s.val).vals i = (s.at i).getD (sec.vals i) := by
      unfold ConfigSection.store Setting.at
      by_cases h : s.idx = i
      · subst h
        rw [dif_pos rfl]
        exact Function.update_self _ _ _
      · rw [dif_neg h]
        exact Function.update_of_ne (Ne.symm h) _ _
    show (storeAll (sec.store s.idx s.val) ss).vals i = _
    rw [ih, hstore]
    cases hat : s.at i with
    | none =>
      simp only [List.filterMap_cons, hat]
      rfl
    | some v =>
      simp only [List.filterMap_cons, hat, List.getLast?_cons]
      rfl

theorem set_storeAll (ss : List Setting) (sec : ConfigSection) (i : Idx) :
    (storeAll sec ss).set i = (sec.set i || ((ss.filterMap fun s => s.at i).getLast?).isSome) := by
  induction ss generalizing sec with
  | nil => exact (Bool.or_false _).symm
  | cons s ss ih =>
    have hstore : (sec.store s.idx s.val).set i = (sec.set i || (s.at i).isSome) := by
      unfold ConfigSection.store Setting.at
      by_cases h : s.idx = i
      · subst h
        rw [dif_pos rfl]
        exact (Function.update_self _ _ _).trans (Bool.or_true _).symm
      · rw [dif_neg h]
        exact (Function.update_of_ne (Ne.symm h) _ _).trans (Bool.or_false _).symm
    show (storeAll (sec.store s.idx s.val) ss).set i = _
    rw [ih, hstore]
    cases hat : s.at i with
    | none => simp only [List.filterMap_cons, hat, Option.isSome_none, Bool.or_false]
    | some v =>
      simp only [List.filterMap_cons, hat, List.getLast?_cons, Option.isSome_some, Bool.or_true, Bool.true_or]

/-- What a section has before a line sets something in it. -/
def base (name : Text) : ConfigSection :=
  if name = globalSection then ConfigSection.init.setGlobal else ConfigSection.init

/-- The sections are those with a line, and the global one, with the values of their lines. -/
def Loaded (es : List (Text × Option Setting)) (cfg : ConfigFile) : Prop :=
  ∀ name, cfg.sections name =
    if name = globalSection ∨ Named es name then some (storeAll (base name) (settingsIn es name)) else none

theorem settingsIn_append (es es' : List (Text × Option Setting)) (name : Text) :
    settingsIn (es ++ es') name = settingsIn es name ++ settingsIn es' name := List.filterMap_append

theorem named_append (es es' : List (Text × Option Setting)) (name : Text) :
    Named (es ++ es') name ↔ Named es name ∨ Named es' name := by
  unfold Named
  simp only [List.mem_append, or_and_right, exists_or]

theorem settingsIn_eq_nil {es : List (Text × Option Setting)} {name : Text} (h : ¬ Named es name) :
    settingsIn es name = [] := by
  unfold settingsIn
  rw [List.filterMap_eq_nil_iff]
  intro e he
  exact if_neg fun heq => h ⟨e, he, heq⟩

theorem loaded_clear : Loaded [] ConfigFile.clearSections := by
  intro name
  have hnone : ¬ Named [] name := by
    rintro ⟨e, he, -⟩
    cases he
  rw [settingsIn_eq_nil hnone]
  show (if name = globalSection then some ConfigSection.init.setGlobal else none) = _
  by_cases h : name = globalSection
  · rw [if_pos h, if_pos (.inl h), base, if_pos h]
    rfl
  · rw [if_neg h, if_neg (not_or.2 ⟨h, hnone⟩)]

theorem Loaded.entry {es : List (Text × Option Setting)} {cfg : ConfigFile} (h : Loaded es cfg) (name : Text) :
    cfg.entry name = storeAll (base name) (settingsIn es name) := by
  unfold ConfigFile.entry
  rw [h name]
  split_ifs with hname
  · rfl
  · rw [not_or] at hname
    rw [settingsIn_eq_nil hname.2, base, if_neg hname.1]
    rfl

/-- A line that is right stores its setting. -/
theorem assign_eq {sec : ConfigSection} {t : Text} (h : (sec.assign t).1 = true) :
    (sec.assign t).2 = storeAll sec (settingOf t).toList := by
  unfold ConfigSection.assign at h ⊢
  unfold settingOf
  cases hfind : Idx.find (key t) with
  | none => rfl
  | some idx =>
    rw [hfind] at h
    dsimp only at h ⊢
    split at h
    · cases h
    next hne =>
      rw [if_neg hne]
      split at h
      · cases h
      next v hread =>
        split
        next hnone => rw [hread] at hnone; cases hnone
        next v' hsome =>
          rw [hread, Option.some.injEq] at hsome
          subst hsome
          rfl

theorem Loaded.put {es : List (Text × Option Setting)} {cfg : ConfigFile} (h : Loaded es cfg) (cur : Text)
    (s : Option Setting) :
    Loaded (es ++ [(cur, s)]) (cfg.put cur (storeAll (cfg.entry cur) s.toList)) := by
  intro name
  have hnamed : Named [(cur, s)] name ↔ cur = name := by
    unfold Named
    simp
  show Function.update cfg.sections cur _ name = _
  by_cases hname : cur = name
  · subst hname
    have hin : settingsIn [(cur, s)] cur = s.toList := by
      unfold settingsIn
      cases s <;> simp
    rw [Function.update_self, if_pos (.inr ((named_append _ _ _).2 (.inr (hnamed.2 rfl)))), settingsIn_append, hin,
      h.entry]
    unfold storeAll
    rw [List.foldl_append]
  · have hin : settingsIn [(cur, s)] name = [] := settingsIn_eq_nil fun hn => hname (hnamed.1 hn)
    rw [Function.update_of_ne (Ne.symm hname), h name, settingsIn_append, hin, List.append_nil]
    refine if_congr (or_congr Iff.rfl ?_) rfl rfl
    rw [named_append, hnamed]
    exact (or_iff_left hname).symm

/-- **What is read is what the file sets.** -/
theorem loaded_readLines {ls : List Text} {rd rd' : ConfigFile.Reader} {es : List (Text × Option Setting)}
    (hloaded : Loaded es rd.cfg) (h : readLines ConfigFile.line rd ls = some (true, rd')) :
    Loaded (es ++ settingsFrom rd.curSection ls) rd'.cfg := by
  induction ls generalizing rd es with
  | nil =>
    cases h
    rw [settingsFrom, List.append_nil]
    exact hloaded
  | cons l ls ih =>
    rw [readLines, ConfigFile.line_eq] at h
    rw [settingsFrom]
    cases hkind : lineKind l with
    | blank =>
      rw [hkind] at h
      exact ih hloaded h
    | header t =>
      rw [hkind] at h
      unfold ConfigFile.act at h
      dsimp only at h ⊢
      cases hname : header t with
      | none =>
        rw [hname] at h
        cases h
      | some name =>
        rw [hname] at h
        have hrest := @ih { rd with curSection := name } es hloaded h
        exact hrest
    | entry t =>
      rw [hkind] at h
      unfold ConfigFile.act at h
      dsimp only at h ⊢
      split_ifs at h with hspace
      · cases hok : ((rd.cfg.entry rd.curSection).assign t).1 with
        | false =>
          rw [hok] at h
          cases h
        | true =>
          rw [hok, assign_eq hok] at h
          have hput := hloaded.put rd.curSection (settingOf t)
          have hrest := @ih { rd with cfg := _ } _ hput h
          rwa [List.append_assoc] at hrest

end Cfg

end PtpMgmt
