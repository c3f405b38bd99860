import PtpMgmt.Cfg.Fallback
import PtpMgmt.Cfg.ReadSa
import PtpMgmt.Message.Basic
import PtpMgmt.Pmc.Keys

set_option autoImplicit false

/-! # Options and configuration (`Init::process`)

The parameters of the message are taken from the command line, and from the global section of the configuration
where the command line does not give them. Files, interfaces, sockets and the HMAC library lie outside. Numbers are
read with `atoi` and `strtol` and cut to the parameter, and the answer of `updateParams` is dropped. -/

namespace PtpMgmt

open Json Cfg

namespace Init

/-! ## Options -/

/-- `atoi`: what `strtol` gives, cut to an `int`. -/
def atoi (t : Text) : Int32 := (strtoimax 10 t).1.toInt32

/-- `Options`, once the command line is parsed: `m_opts` and `m_net_select`. -/
structure Options where
  opts : UInt8 → Option Text
  netSelect : UInt8

namespace Options

/-- `Options::have`. -/
def haveOpt (opt : Options) (c : UInt8) : Bool := (opt.opts c).isSome

def val (opt : Options) (c : UInt8) : Text := (opt.opts c).getD []

def valI (opt : Options) (c : UInt8) : Int32 := if opt.haveOpt c then atoi (opt.val c) else 0

end Options

/-- What lies outside. -/
structure System where
  /-- The octets of a file, if it can be opened. -/
  files : Text → Option Text
  lib : HmacLib
  /-- The clock identity of the address of an interface, if there is one. -/
  interface : Text → Option ClockIdentity
  /-- Does the socket of a network come up? -/
  socket : UInt8 → Options → ConfigFile → Bool
  pid : UInt32

end Init

/-- `Init`. -/
structure Init where
  cfg : ConfigFile
  sa : SaTable
  msg : Message
  netSelect : UInt8
  useUds : Bool
  allowUnauth : UInt8

namespace Init

/-- A new object. -/
def new : Init where
  cfg := ConfigFile.clearSections
  sa _ := none
  msg := Message.init MsgParams.init
  netSelect := 0
  useUds := false
  allowUnauth := 0

/-! ## The steps -/

def readConfig (sys : System) (opt : Options) (s : Init) : Option (Bool × Init) :=
  if opt.haveOpt (chr 'f') then
    (s.cfg.readCfg (sys.files (opt.val (chr 'f')))).map fun (ok, cfg) => (ok, { s with cfg })
  else some (true, s)

/-- `SaFile::read_sa(const string &)`. -/
def readSaFile (sys : System) (sa : SaTable) (file : Text) : Option (Bool × SaTable) :=
  if file = [] then some (false, sa) else readSa sa (sys.files file)

/-- `SaFile::read_sa(const ConfigFile &)`, of the global section. -/
def readSaCfg (sys : System) (sa : SaTable) (cfg : ConfigFile) : Option (Bool × SaTable) := do
  let file ← cfg.saFile []
  if file = [] then return (false, sa) else readSaFile sys sa file

def readSaOpt (sys : System) (opt : Options) (sa : SaTable) : Option (Bool × SaTable) :=
  if opt.haveOpt (chr 'F') then readSaFile sys sa (opt.val (chr 'F')) else some (true, sa)

/-- The table of the option is read first, and that of the configuration over it. -/
def readTables (sys : System) (opt : Options) (s : Init) : Option (Bool × Init) := do
  let (ok, sa) ← readSaOpt sys opt s.sa
  if ok then
    let (ok, sa) ← readSaCfg sys sa s.cfg
    return (ok, { s with sa })
  else return (false, { s with sa })

/-- The spp, which is −1 for none. Nothing is left of one that is refused. -/
def chooseSpp (opt : Options) (cfg : ConfigFile) : Option (Option Int) := do
  let haveSpp ← cfg.haveSpp []
  let spp ← cfg.spp []
  if opt.haveOpt (chr 'B') then
    let spp := (opt.valI (chr 'B')).toInt
    return if spp < 0 ∨ spp > 255 then none else some spp
  else return some (if haveSpp then (spp.toNat : Int) else -1)

/-- The key is set up, and `m_allow_unauth` and the parameters follow. -/
def useKey (lib : HmacLib) (spp : Int) (keyId : UInt32) (allowUnauth : UInt8) (s : Init) : Option MsgParams × Init :=
  let prms := s.msg.prms
  match s.msg.useAuth lib s.sa.toSaFile (UInt8.ofInt spp) keyId with
  | (false, _) => (none, s)
  | (true, msg) =>
    let rcvAuth := if allowUnauth > 0 then prms.rcvAuth ||| rcvAuthIgnore else prms.rcvAuth
    let minorVersion := if prms.minorVersion < 1 then 1 else prms.minorVersion
    (some { prms with rcvAuth, minorVersion }, { s with msg, allowUnauth })

/-- The authentication parameters: the parameters of the message, unless something is refused. -/
def authenticate (sys : System) (opt : Options) (s : Init) : Option (Option MsgParams × Init) := do
  let s := { s with allowUnauth := 0 }
  match ← chooseSpp opt s.cfg with
  | none => return (none, s)
  | some spp =>
    if spp < 0 then return (some s.msg.prms, s)
    else
      let activeKeyId ← s.cfg.activeKeyId []
      let allowUnauth ← s.cfg.allowUnauth []
      let keyId := if opt.haveOpt (chr 'A') then UInt32.ofInt (opt.valI (chr 'A')).toInt else activeKeyId
      let allowUnauth := if opt.haveOpt (chr 'U') then UInt8.ofInt (opt.valI (chr 'U')).toInt else allowUnauth
      if keyId < 1 then return (none, s)
      else
        let (ok, s) ← readTables sys opt s
        if ok then return useKey sys.lib spp keyId allowUnauth s else return (none, s)

/-- The network, which is UDP over IPv4 for what stands for none. -/
def network (opt : Options) (cfg : ConfigFile) : Option UInt8 := do
  let transport ← cfg.networkTransport []
  let net := if opt.netSelect = 0 then transport else opt.netSelect
  return if net = chr 'u' ∨ net = chr '6' ∨ net = chr '2' then net else chr '4'

/-- Who sends: the process, or the interface. -/
def selfId (sys : System) (opt : Options) (net : UInt8) (id : PortIdentity) : Option PortIdentity :=
  if net = chr 'u' then
    some {
      clockIdentity := ⟨(id.clockIdentity.v.set 6 (sys.pid >>> 24).toUInt8).set 7 (sys.pid >>> 16).toUInt8⟩
      portNumber := sys.pid.toUInt16 }
  else if opt.val (chr 'i') = [] then none
  else (sys.interface (opt.val (chr 'i'))).map fun clockIdentity => ⟨clockIdentity, 1⟩

/-- The fields of the header. -/
def header (opt : Options) (cfg : ConfigFile) (prms : MsgParams) : Option MsgParams := do
  let domainNumber ← cfg.domainNumber []
  let transportSpecific ← cfg.transportSpecific []
  return { prms with
    boundaryHops := if opt.haveOpt (chr 'b') then UInt8.ofInt (opt.valI (chr 'b')).toInt else 1
    domainNumber := if opt.haveOpt (chr 'd') then UInt8.ofInt (opt.valI (chr 'd')).toInt else domainNumber
    transportSpecific :=
      if opt.haveOpt (chr 't') then UInt8.ofInt (MsgBuild.strtoll16 (opt.val (chr 't'))).1 else transportSpecific
    useZeroGet := opt.val (chr 'z') == txt "1" }

/-- The part of `Init::process` behind the authentication. -/
def finish (sys : System) (opt : Options) (s : Init) (prms : MsgParams) : Option (Bool × Init) := do
  let net ← network opt s.cfg
  match selfId sys opt net prms.selfId with
  | none => return (false, s)
  | some selfId =>
    let prms ← header opt s.cfg { prms with selfId }
    let s := { s with netSelect := net, useUds := if net = chr 'u' then s.useUds else false }
    if sys.socket net opt s.cfg then
      return (true, { s with useUds := net = chr 'u', msg := (s.msg.updateParams prms).2 })
    else return (false, s)

/-- `Init::process`: whether it succeeds, and the object after it. Nothing where a line of a file makes a reader
    leave its buffer. -/
def process (sys : System) (opt : Options) (s : Init) : Option (Bool × Init) := do
  let (ok, s) ← s.readConfig sys opt
  if ok then
    let (prms, s) ← s.authenticate sys opt
    match prms with
    | none => return (false, s)
    | some prms => s.finish sys opt prms
  else return (false, s)

/-! ## What is promised -/

/-- The integer that the whole of a text denotes. -/
def numeral (t : Text) : Option Int :=
  match strto 10 (t.takeWhile (· ≠ 0)) with
  | some (neg, n, []) => some (if neg then -(n : Int) else n)
  | _ => none

/-- The same with base 16, where `0x` may stand in front. -/
def hexNumeral (t : Text) : Option Int :=
  let t := t.dropWhile isCSpace
  let neg := decide (t.head? = some (chr '-'))
  let t := Binary.skipHexPrefix (if neg || decide (t.head? = some (chr '+')) then t.tail else t)
  if t = [] ∨ t.takeWhile (fun c => decide (digitVal c < 16)) ≠ t then none
  else some (if neg then -(magnitude 16 t : Int) else magnitude 16 t)

/-- The value is the one of the option, where that is given. -/
def Gives (read : Text → Option Int) (given : Option Text) (other v : Int) : Prop :=
  match given with
  | none => v = other
  | some t => read t = some v

/-- What is given is an integer from 0 to a bound. -/
def Fits (read : Text → Option Int) (given : Option Text) (max : Int) : Prop :=
  ∀ t, given = some t → ∃ n, read t = some n ∧ 0 ≤ n ∧ n ≤ max

/-- The configuration that the parameters are taken from. -/
def config (sys : System) (opt : Options) (s : Init) : Option ConfigFile :=
  match opt.opts (chr 'f') with
  | none => some s.cfg
  | some file =>
    match s.cfg.readCfg (sys.files file) with
    | some (true, cfg) => some cfg
    | _ => none

/-- A number of the global section. -/
def globalNum (cfg : ConfigFile) (i : NumVal) : UInt32 := cfg.global.vals (.num i)

/-- The name of the file of the security associations in the global section. -/
def globalSaFile (cfg : ConfigFile) : Text := cfg.global.vals (.str .saFile)

/-- The security associations of a file, if it is right. -/
def table (sys : System) (file : Text) : Option SaTable :=
  match readSaFile sys (fun _ => none) file with
  | some (true, sa) => some sa
  | _ => none

/-- An spp is chosen. -/
def Chosen (opt : Options) (cfg : ConfigFile) : Prop :=
  opt.haveOpt (chr 'B') = true ∨ cfg.global.set (.num .spp) = true

/-- The authentication that the message uses is the one that was asked for. -/
structure ExactAuth (sys : System) (opt : Options) (cfg : ConfigFile) (s : Init) (a : Auth) : Prop where
  spp : Gives numeral (opt.opts (chr 'B')) (globalNum cfg .spp).toNat a.sppID.toNat
  keyId : Gives numeral (opt.opts (chr 'A')) (globalNum cfg .activeKeyId).toNat a.keyID.toNat
  saFile : (table sys ((opt.opts (chr 'F')).getD (globalSaFile cfg))).map SaTable.toSaFile = some a.sa
  allowUnauth : Gives numeral (opt.opts (chr 'U')) (globalNum cfg .allowUnauth).toNat s.allowUnauth.toNat

/-- Each parameter is the one of the command line where that gives it, else the one of the configuration. -/
structure Exact (sys : System) (opt : Options) (cfg : ConfigFile) (s : Init) : Prop where
  transportSpecific : Gives hexNumeral (opt.opts (chr 't')) (globalNum cfg .transportSpecific).toNat
    s.msg.prms.transportSpecific.toNat
  domainNumber : Gives numeral (opt.opts (chr 'd')) (globalNum cfg .domainNumber).toNat
    s.msg.prms.domainNumber.toNat
  boundaryHops : Gives numeral (opt.opts (chr 'b')) 1 s.msg.prms.boundaryHops.toNat
  auth : Chosen opt cfg → ∃ a, s.msg.auth = some a ∧ ExactAuth sys opt cfg s a

/-- The parameters can have the values that are given. More than `0xf` is refused by `updateParams`. -/
structure Representable (opt : Options) (cfg : ConfigFile) : Prop where
  transportSpecific : Fits hexNumeral (opt.opts (chr 't')) 0xf
  domainNumber : Fits numeral (opt.opts (chr 'd')) 255
  boundaryHops : Fits numeral (opt.opts (chr 'b')) 255
  spp : Chosen opt cfg → Fits numeral (opt.opts (chr 'B')) 255
  keyId : Chosen opt cfg → Fits numeral (opt.opts (chr 'A')) 0xffffffff
  allowUnauth : Chosen opt cfg → Fits numeral (opt.opts (chr 'U')) 255

/-- Options come before the configuration, and what a parameter cannot have is refused. -/
structure Precedence (sys : System) (opt : Options) (s : Init) : Prop where
  exact : ∀ s', s.process sys opt = some (true, s') → ∃ cfg, s.config sys opt = some cfg ∧ Exact sys opt cfg s'
  refuses : ∀ cfg, s.config sys opt = some cfg → ¬ Representable opt cfg →
    ∀ s', s.process sys opt ≠ some (true, s')

/-! ## Numbers -/

theorem numeral_eq_some {t : Text} {n : Int} (h : numeral t = some n) :
    ∃ neg m, strto 10 (t.takeWhile (· ≠ 0)) = some (neg, m, []) ∧ n = if neg then -(m : Int) else m := by
  unfold numeral at h
  split at h
  next neg m heq =>
    rw [Option.some.injEq] at h
    exact ⟨neg, m, heq, h.symm⟩
  next => cases h

/-- `strtol` gives a numeral that a `long` can hold, and `atoi` cuts it. -/
theorem atoi_numeral {t : Text} {n : Int} (h : numeral t = some n) (hmin : -2 ^ 63 ≤ n) (hmax : n ≤ 2 ^ 63 - 1) :
    (atoi t).toInt = n.bmod (2 ^ 32) := by
  obtain ⟨neg, m, hstrto, hn⟩ := numeral_eq_some h
  -- what is clamped to 64 bits is the numeral itself
  have hlong : (strtoimax 10 t).1 = Int64.ofInt n := by
    unfold strtoimax
    simp only [hstrto]
    rw [← hn, min_eq_right hmax, max_eq_right hmin]
  unfold atoi
  rw [hlong, Int64.toInt_toInt32, Int64.toInt_ofInt_of_le hmin (by omega)]

theorem toNat_ofInt8 {n : Int} (hmin : 0 ≤ n) (hmax : n ≤ 255) : ((UInt8.ofInt n).toNat : Int) = n := by
  unfold UInt8.ofInt
  rw [UInt8.toNat_ofNat', Int.emod_eq_of_lt hmin (by omega), Nat.mod_eq_of_lt (by omega), Int.toNat_of_nonneg hmin]

theorem atoi_octet {t : Text} {n : Int} (h : numeral t = some n) (hmin : 0 ≤ n) (hmax : n ≤ 255) :
    (atoi t).toInt = n := by
  rw [atoi_numeral h (by omega) (by omega), Int.bmod_eq_of_le (by omega) (by omega)]

/-- A key id keeps its 32 bits over the sign of an `int`. -/
theorem atoi_keyId {t : Text} {n : Int} (h : numeral t = some n) (hmin : 0 ≤ n) (hmax : n ≤ 0xffffffff) :
    ((UInt32.ofInt (atoi t).toInt).toNat : Int) = n := by
  -- the negative half of an `int` is the upper half of a key id
  have hmod : n.bmod (2 ^ 32) % 2 ^ 32 = n := by
    have hwrap : n.bmod (2 ^ 32) % ((2 ^ 32 : Nat) : Int) = n % ((2 ^ 32 : Nat) : Int) := Int.bmod_emod
    rw [show (2 ^ 32 : Int) = ((2 ^ 32 : Nat) : Int) from rfl, hwrap, Int.emod_eq_of_lt hmin (by omega)]
  unfold UInt32.ofInt
  rw [atoi_numeral h (by omega) (by omega), hmod, UInt32.toNat_ofNat', Nat.mod_eq_of_lt (by omega),
    Int.toNat_of_nonneg hmin]

theorem strtoll16_hexNumeral {t : Text} {n : Int} (h : hexNumeral t = some n) :
    (MsgBuild.strtoll16 t).1 = clampInt n := by
  unfold hexNumeral at h
  unfold MsgBuild.strtoll16
  dsimp only at h ⊢
  generalize Binary.skipHexPrefix _ = t' at h ⊢
  by_cases hpart : t' = [] ∨ t'.takeWhile (fun c => decide (digitVal c < 16)) ≠ t'
  · rw [if_pos hpart] at h
    cases h
  · rw [if_neg hpart, Option.some.injEq] at h
    rw [not_or, not_not] at hpart
    rw [hpart.2, if_neg hpart.1, h]

/-! ## The global section -/

section Global

variable (cfg : ConfigFile)

@[simp] theorem transportSpecific_nil :
    cfg.transportSpecific [] = some (globalNum cfg .transportSpecific).toUInt8 := rfl

@[simp] theorem domainNumber_nil : cfg.domainNumber [] = some (globalNum cfg .domainNumber).toUInt8 := rfl

@[simp] theorem networkTransport_nil :
    cfg.networkTransport [] = some (globalNum cfg .networkTransport).toUInt8 := rfl

@[simp] theorem activeKeyId_nil : cfg.activeKeyId [] = some (globalNum cfg .activeKeyId) := rfl

@[simp] theorem spp_nil : cfg.spp [] = some (globalNum cfg .spp).toUInt8 := rfl

@[simp] theorem allowUnauth_nil : cfg.allowUnauth [] = some (globalNum cfg .allowUnauth).toUInt8 := rfl

@[simp] theorem saFile_nil : cfg.saFile [] = some (globalSaFile cfg) := rfl

@[simp] theorem haveSpp_nil : cfg.haveSpp [] = some (cfg.global.set (.num .spp)) := by
  unfold ConfigFile.haveSpp
  cases cfg.global.set (.num .spp) <;> rfl

end Global

/-- Every value of the global section is in its range. -/
def GlobalInRange (cfg : ConfigFile) : Prop := ∀ i : Idx, i.InRange (cfg.global.vals i)

theorem globalInRange_clear : GlobalInRange ConfigFile.clearSections := defaultVal_inRange

theorem global_put (cfg : ConfigFile) (name : Text) (sec : ConfigSection) :
    (cfg.put name sec).global = if name = globalSection then sec else cfg.global := by
  unfold ConfigFile.global ConfigFile.put
  by_cases h : name = globalSection
  · simp [h]
  · simp [h, Function.update_of_ne (Ne.symm h)]

theorem entry_global (cfg : ConfigFile) : cfg.entry globalSection = cfg.global := by
  unfold ConfigFile.entry ConfigFile.global
  exact (Option.get_eq_getD _).symm

theorem assign_inRange {sec : ConfigSection} {t : Text} (h : ∀ i : Idx, i.InRange (sec.vals i)) (i : Idx) :
    i.InRange ((sec.assign t).2.vals i) := by
  unfold ConfigSection.assign
  split
  next => exact h i
  next idx _ =>
    split_ifs
    · exact h i
    · split
      next => exact h i
      next v hread =>
        unfold ConfigSection.store
        by_cases hi : i = idx
        · subst hi
          dsimp only
          rw [Function.update_self]
          exact read_inRange hread
        · dsimp only
          rw [Function.update_of_ne hi]
          exact h i

/-- A line keeps the ranges, also one that is refused. -/
theorem line_inRange {rd rd' : ConfigFile.Reader} {l : Text} {ok : Bool} (h : GlobalInRange rd.cfg)
    (hline : ConfigFile.line rd (l ++ [0]) = some (ok, rd')) : GlobalInRange rd'.cfg := by
  rw [ConfigFile.line_eq] at hline
  unfold ConfigFile.act at hline
  split at hline
  next =>
    cases hline
    exact h
  next =>
    split at hline <;>
    · cases hline
      exact h
  next t _ =>
    split_ifs at hline
    cases hline
    intro i
    dsimp only
    rw [global_put]
    -- only a line of the global section changes the global section
    split_ifs with hname
    · rw [hname]
      refine assign_inRange (fun i => ?_) i
      rw [entry_global]
      exact h i
    · exact h i

theorem readCfg_inRange {cfg cfg' : ConfigFile} {file : Option Text} {ok : Bool} (h : GlobalInRange cfg)
    (hread : cfg.readCfg file = some (ok, cfg')) : GlobalInRange cfg' := by
  unfold ConfigFile.readCfg at hread
  split at hread
  next =>
    cases hread
    exact h
  next file =>
    obtain ⟨⟨ok, rd⟩, hlines, heq⟩ := Option.map_eq_some_iff.1 hread
    cases heq
    exact readLines_keeps (P := fun rd => GlobalInRange rd.cfg) (fun rd l ok rd' => line_inRange)
      globalInRange_clear hlines

/-- A number of one octet is the one of the configuration. -/
theorem globalNum_octet {cfg : ConfigFile} (h : GlobalInRange cfg) (i : NumVal)
    (hmax : (ranges (.num i)).max ≤ 255) :
    (globalNum cfg i).toUInt8.toNat = (globalNum cfg i).toNat := by
  have hle : (globalNum cfg i).toNat ≤ 255 :=
    Nat.le_trans (UInt32.le_iff_toNat_le.1 (h (.num i)).2) (UInt32.le_iff_toNat_le.1 hmax)
  rw [UInt32.toNat_toUInt8, Nat.mod_eq_of_lt (by omega)]

/-! ## Files of security associations -/

/-- What a file gives does not depend on the table that was there before it. -/
theorem readSa_true {sa sa' : SaTable} {file : Option Text} (h : readSa sa file = some (true, sa')) (sa₁ : SaTable) :
    readSa sa₁ file = some (true, sa') := by
  unfold readSa at h ⊢
  split at h
  next => cases h
  next file =>
    obtain ⟨⟨ok, rd⟩, hlines, heq⟩ := Option.map_eq_some_iff.1 h
    dsimp only at heq ⊢
    rw [hlines, Option.map_some]
    cases ok with
    | false => cases heq
    | true =>
      rw [if_pos rfl] at heq ⊢
      cases hflush : rd.flush with
      | none =>
        rw [hflush] at heq
        cases heq
      | some spps =>
        rw [hflush] at heq
        exact congrArg some heq

section Tables

variable {sys : System} {opt : Options}

theorem readSaFile_true_iff {sa sa' : SaTable} {file : Text} :
    readSaFile sys sa file = some (true, sa') ↔ table sys file = some sa' := by
  -- the table before it is dropped, whatever it was
  have hany : ∀ sa₁ sa₂, readSaFile sys sa₁ file = some (true, sa') →
      readSaFile sys sa₂ file = some (true, sa') := by
    intro sa₁ sa₂ h
    unfold readSaFile at h ⊢
    split_ifs at h ⊢
    · cases h
    · exact readSa_true h sa₂
  unfold table
  constructor
  · intro h
    rw [hany sa _ h]
  · intro h
    split at h
    next sa₁ hread =>
      cases h
      exact hany _ sa hread
    next => cases h

theorem readSaOpt_true_iff (sa : SaTable) :
    (∃ sa', readSaOpt sys opt sa = some (true, sa')) ↔
      ∀ file, opt.opts (chr 'F') = some file → (table sys file).isSome := by
  unfold readSaOpt Options.haveOpt Options.val
  cases opt.opts (chr 'F') with
  | none =>
    constructor
    · intro _ file hfile
      cases hfile
    · intro _
      exact ⟨sa, rfl⟩
  | some file =>
    simp [readSaFile_true_iff, Option.isSome_iff_exists]

theorem readSaCfg_eq (sa : SaTable) (cfg : ConfigFile) :
    readSaCfg sys sa cfg = readSaFile sys sa (globalSaFile cfg) := by
  unfold readSaCfg readSaFile
  rw [saFile_nil]
  show (if globalSaFile cfg = [] then _ else _) = _
  split_ifs <;> rfl

/-- Both files must be right, and the one of the configuration stays. -/
theorem readTables_true_iff {s s' : Init} :
    readTables sys opt s = some (true, s') ↔
      (∀ file, opt.opts (chr 'F') = some file → (table sys file).isSome) ∧
        ∃ sa, table sys (globalSaFile s.cfg) = some sa ∧ s' = { s with sa } := by
  have hcfg : ∀ sa₁, (do
      let (ok, sa) ← readSaCfg sys sa₁ s.cfg
      return (ok, { s with sa })) = some (true, s') ↔
        ∃ sa, table sys (globalSaFile s.cfg) = some sa ∧ s' = { s with sa } := by
    intro sa₁
    rw [readSaCfg_eq]
    constructor
    · intro h
      obtain ⟨⟨ok, sa⟩, hread, heq⟩ := Option.bind_eq_some_iff.1 h
      cases heq
      exact ⟨sa, readSaFile_true_iff.1 hread, rfl⟩
    · rintro ⟨sa, htable, rfl⟩
      exact Option.bind_eq_some_iff.2 ⟨(true, sa), readSaFile_true_iff.2 htable, rfl⟩
  rw [← readSaOpt_true_iff s.sa]
  unfold readTables
  constructor
  · intro h
    obtain ⟨⟨ok, sa⟩, hopt, hrest⟩ := Option.bind_eq_some_iff.1 h
    cases ok with
    | false => cases hrest
    | true => exact ⟨⟨sa, hopt⟩, (hcfg sa).1 hrest⟩
  · rintro ⟨⟨sa, hopt⟩, hrest⟩
    exact Option.bind_eq_some_iff.2 ⟨(true, sa), hopt, (hcfg sa).2 hrest⟩

end Tables

/-! ## Success -/

/-- The spp, where one is chosen. -/
def chosenSpp (opt : Options) (cfg : ConfigFile) : Int :=
  if opt.haveOpt (chr 'B') then (opt.valI (chr 'B')).toInt else (globalNum cfg .spp).toUInt8.toNat

def chosenKeyId (opt : Options) (cfg : ConfigFile) : UInt32 :=
  if opt.haveOpt (chr 'A') then UInt32.ofInt (opt.valI (chr 'A')).toInt else globalNum cfg .activeKeyId

def chosenUnauth (opt : Options) (cfg : ConfigFile) : UInt8 :=
  if opt.haveOpt (chr 'U') then UInt8.ofInt (opt.valI (chr 'U')).toInt else (globalNum cfg .allowUnauth).toUInt8

def chosenTransport (opt : Options) (cfg : ConfigFile) : UInt8 :=
  if opt.haveOpt (chr 't') then UInt8.ofInt (MsgBuild.strtoll16 (opt.val (chr 't'))).1
  else (globalNum cfg .transportSpecific).toUInt8

def chosenDomain (opt : Options) (cfg : ConfigFile) : UInt8 :=
  if opt.haveOpt (chr 'd') then UInt8.ofInt (opt.valI (chr 'd')).toInt else (globalNum cfg .domainNumber).toUInt8

def chosenHops (opt : Options) : UInt8 :=
  if opt.haveOpt (chr 'b') then UInt8.ofInt (opt.valI (chr 'b')).toInt else 1

/-- The pool has a key for the spp, and the library takes it. -/
def Usable (lib : HmacLib) (sa : SaFile) (sppID : UInt8) (keyID : UInt32) : Prop :=
  sa.haveKey sppID keyID = true ∧ lib.init ((sa.spp sppID).htype keyID) ((sa.spp sppID).key keyID) = true

/-- Nothing about the authentication is refused. -/
structure AuthAdmits (sys : System) (opt : Options) (cfg : ConfigFile) : Prop where
  spp : 0 ≤ chosenSpp opt cfg ∧ chosenSpp opt cfg ≤ 255
  keyId : ¬ chosenKeyId opt cfg < 1
  option : ∀ file, opt.opts (chr 'F') = some file → (table sys file).isSome
  table : ∃ sa, table sys (globalSaFile cfg) = some sa ∧
    Usable sys.lib sa.toSaFile (UInt8.ofInt (chosenSpp opt cfg)) (chosenKeyId opt cfg)

/-- Nothing is refused, once the configuration is read. -/
structure Admits (sys : System) (opt : Options) (cfg : ConfigFile) : Prop where
  auth : Chosen opt cfg → AuthAdmits sys opt cfg
  opens : ∃ net, network opt cfg = some net ∧ sys.socket net opt cfg = true ∧
    (net ≠ chr 'u' → opt.val (chr 'i') ≠ [] ∧ (sys.interface (opt.val (chr 'i'))).isSome)

section Success

variable {sys : System} {opt : Options}

theorem useAuth_of_usable {lib : HmacLib} (m : Message) {sa : SaFile} {sppID : UInt8} {keyID : UInt32}
    (h : Usable lib sa sppID keyID) : ∃ a, m.useAuth lib sa sppID keyID = (true, { m with auth := some a }) := by
  unfold Message.useAuth Message.selectKey hmacAllocHMAC
  rw [dif_pos h.1]
  simp only [h.2, if_true]
  exact ⟨_, rfl⟩

theorem useAuth_true {lib : HmacLib} {m m' : Message} {sa : SaFile} {sppID : UInt8} {keyID : UInt32}
    (h : m.useAuth lib sa sppID keyID = (true, m')) : Usable lib sa sppID keyID ∧
      ∃ a : Auth, m' = { m with auth := some a } ∧ a.sa = sa ∧ a.sppID = sppID ∧ a.keyID = keyID := by
  unfold Message.useAuth Message.selectKey hmacAllocHMAC at h
  split at h
  next hkey =>
    by_cases hinit : lib.init ((sa.spp sppID).htype keyID) ((sa.spp sppID).key keyID) = true
    · simp only [hinit, if_true, Prod.mk.injEq, true_and] at h
      exact ⟨⟨hkey, hinit⟩, _, h.symm, rfl, rfl, rfl⟩
    · simp [hinit] at h
  next => cases h

theorem chooseSpp_eq (opt : Options) (cfg : ConfigFile) :
    chooseSpp opt cfg = some (
      if opt.haveOpt (chr 'B') then
        if chosenSpp opt cfg < 0 ∨ chosenSpp opt cfg > 255 then none else some (chosenSpp opt cfg)
      else some (if cfg.global.set (.num .spp) then chosenSpp opt cfg else -1)) := by
  unfold chooseSpp chosenSpp
  rw [haveSpp_nil, spp_nil]
  by_cases hB : opt.haveOpt (chr 'B') = true
  · simp [hB]
  · simp [hB]

/-- Without an spp only `m_allow_unauth` is set. -/
theorem authenticate_plain {s : Init} (h : ¬ Chosen opt s.cfg) :
    authenticate sys opt s = some (some s.msg.prms, { s with allowUnauth := 0 }) := by
  unfold Chosen at h
  rw [not_or] at h
  unfold authenticate
  dsimp only
  rw [chooseSpp_eq, if_neg h.1, if_neg h.2]
  rfl

theorem chooseSpp_chosen {cfg : ConfigFile} (h : Chosen opt cfg) :
    chooseSpp opt cfg = some (
      if chosenSpp opt cfg < 0 ∨ chosenSpp opt cfg > 255 then none else some (chosenSpp opt cfg)) := by
  rw [chooseSpp_eq]
  by_cases hB : opt.haveOpt (chr 'B') = true
  · rw [if_pos hB]
  · have hset : cfg.global.set (.num .spp) = true := h.resolve_left hB
    have hspp : chosenSpp opt cfg = ((globalNum cfg .spp).toUInt8.toNat : Int) := if_neg hB
    have hlt := UInt8.toNat_lt (globalNum cfg .spp).toUInt8
    rw [if_neg hB, if_pos hset, if_neg (by omega)]

/-- What authentication leaves where an spp is chosen. -/
structure Authenticated (sys : System) (opt : Options) (s s' : Init) : Prop where
  cfg : s'.cfg = s.cfg
  allowUnauth : s'.allowUnauth = chosenUnauth opt s.cfg
  prms : s'.msg.prms = s.msg.prms
  auth : ∃ a : Auth, s'.msg.auth = some a ∧
    (table sys (globalSaFile s.cfg)).map SaTable.toSaFile = some a.sa ∧
    a.sppID = UInt8.ofInt (chosenSpp opt s.cfg) ∧ a.keyID = chosenKeyId opt s.cfg

theorem useKey_true_iff {lib : HmacLib} {spp : Int} {keyId : UInt32} {unauth : UInt8} {s s' : Init} :
    (∃ prms, useKey lib spp keyId unauth s = (some prms, s')) ↔
      ∃ m, s.msg.useAuth lib s.sa.toSaFile (UInt8.ofInt spp) keyId = (true, m) ∧
        s' = { s with msg := m, allowUnauth := unauth } := by
  unfold useKey
  rcases s.msg.useAuth lib s.sa.toSaFile (UInt8.ofInt spp) keyId with ⟨ok, m⟩
  cases ok with
  | false => simp
  | true =>
    constructor
    · rintro ⟨prms, h⟩
      cases h
      exact ⟨m, rfl, rfl⟩
    · rintro ⟨m', h, rfl⟩
      cases h
      exact ⟨_, rfl⟩

/-- An spp is chosen: its range, the key id, the tables and the key decide. -/
theorem authenticate_true_iff {s s' : Init} (hchosen : Chosen opt s.cfg) :
    (∃ prms, authenticate sys opt s = some (some prms, s')) ↔
      (0 ≤ chosenSpp opt s.cfg ∧ chosenSpp opt s.cfg ≤ 255) ∧ ¬ chosenKeyId opt s.cfg < 1 ∧
        ∃ s₁, readTables sys opt { s with allowUnauth := 0 } = some (true, s₁) ∧
          ∃ prms, useKey sys.lib (chosenSpp opt s.cfg) (chosenKeyId opt s.cfg) (chosenUnauth opt s.cfg) s₁
            = (some prms, s') := by
  unfold authenticate
  dsimp only
  rw [chooseSpp_chosen hchosen]
  -- the checks in the order of the source
  by_cases hspp : chosenSpp opt s.cfg < 0 ∨ chosenSpp opt s.cfg > 255
  · rw [if_pos hspp]
    constructor
    · rintro ⟨prms, h⟩
      cases h
    · rintro ⟨⟨hmin, hmax⟩, -⟩
      omega
  · rw [if_neg hspp]
    rw [not_or, not_lt, not_lt] at hspp
    rw [and_iff_right hspp]
    change (∃ prms, (if chosenSpp opt s.cfg < 0 then _ else _) = _) ↔ _
    rw [if_neg (by omega), activeKeyId_nil, allowUnauth_nil]
    change (∃ prms, (if chosenKeyId opt s.cfg < 1 then _ else _) = _) ↔ _
    by_cases hkey : chosenKeyId opt s.cfg < 1
    · rw [if_pos hkey]
      constructor
      · rintro ⟨prms, h⟩
        cases h
      · intro h
        exact absurd hkey h.1
    · rw [if_neg hkey, and_iff_right hkey]
      constructor
      · rintro ⟨prms, h⟩
        obtain ⟨⟨ok, s₁⟩, htables, hrest⟩ := Option.bind_eq_some_iff.1 h
        cases ok with
        | false => cases hrest
        | true => exact ⟨s₁, htables, prms, Option.some.inj hrest⟩
      · rintro ⟨s₁, htables, prms, huse⟩
        exact ⟨prms, Option.bind_eq_some_iff.2 ⟨(true, s₁), htables, congrArg some huse⟩⟩

theorem authenticate_admits {s : Init} (hchosen : Chosen opt s.cfg) (h : AuthAdmits sys opt s.cfg) :
    ∃ prms s', authenticate sys opt s = some (some prms, s') ∧ s'.cfg = s.cfg := by
  obtain ⟨sa, htable, husable⟩ := h.table
  have htables := (readTables_true_iff (s := { s with allowUnauth := 0 })).2 ⟨h.option, sa, htable, rfl⟩
  obtain ⟨a, ha⟩ := useAuth_of_usable s.msg husable
  have huse : ∃ prms, useKey sys.lib (chosenSpp opt s.cfg) (chosenKeyId opt s.cfg) (chosenUnauth opt s.cfg)
      { s with allowUnauth := 0, sa } = (some prms, _) := useKey_true_iff.2 ⟨_, ha, rfl⟩
  obtain ⟨prms, hauth⟩ := (authenticate_true_iff hchosen).2 ⟨h.spp, h.keyId, _, htables, huse⟩
  exact ⟨prms, _, hauth, rfl⟩

theorem authenticate_chosen {s s' : Init} {prms : MsgParams} (hchosen : Chosen opt s.cfg)
    (h : authenticate sys opt s = some (some prms, s')) :
    AuthAdmits sys opt s.cfg ∧ Authenticated sys opt s s' := by
  obtain ⟨hspp, hkey, s₁, htables, huse⟩ := (authenticate_true_iff hchosen).1 ⟨prms, h⟩
  obtain ⟨hoption, sa, htable, rfl⟩ := readTables_true_iff.1 htables
  obtain ⟨m, hm, rfl⟩ := useKey_true_iff.1 huse
  obtain ⟨husable, a, rfl, hsa, hid, hkeyId⟩ := useAuth_true hm
  have hmap : (table sys (globalSaFile s.cfg)).map SaTable.toSaFile = some a.sa := by
    rw [hsa]
    exact congrArg (Option.map SaTable.toSaFile) htable
  exact ⟨⟨hspp, hkey, hoption, sa, htable, husable⟩, ⟨rfl, rfl, rfl, a, rfl, hmap, hid, hkeyId⟩⟩

/-! ## The end -/

theorem header_eq (cfg : ConfigFile) (prms : MsgParams) :
    header opt cfg prms = some { prms with
      boundaryHops := chosenHops opt
      domainNumber := chosenDomain opt cfg
      transportSpecific := chosenTransport opt cfg
      useZeroGet := opt.val (chr 'z') == txt "1" } := by
  unfold header
  rw [domainNumber_nil, transportSpecific_nil]
  rfl

/-- The interface is there, unless the transport is UDS. -/
theorem selfId_isSome (net : UInt8) (id : PortIdentity) :
    (selfId sys opt net id).isSome ↔
      (net ≠ chr 'u' → opt.val (chr 'i') ≠ [] ∧ (sys.interface (opt.val (chr 'i'))).isSome) := by
  unfold selfId
  by_cases hnet : net = chr 'u'
  · simp [hnet]
  · by_cases hval : opt.val (chr 'i') = [] <;> simp [hnet, hval]

theorem finish_true_iff {s s' : Init} {prms : MsgParams} :
    finish sys opt s prms = some (true, s') ↔ ∃ net id prms', network opt s.cfg = some net ∧
      selfId sys opt net prms.selfId = some id ∧ header opt s.cfg { prms with selfId := id } = some prms' ∧
      sys.socket net opt s.cfg = true ∧
      s' = { s with netSelect := net, useUds := net = chr 'u', msg := (s.msg.updateParams prms').2 } := by
  unfold finish
  constructor
  · intro h
    obtain ⟨net, hnet, hrest⟩ := Option.bind_eq_some_iff.1 h
    split at hrest
    next => cases hrest
    next id hid =>
      obtain ⟨prms', hheader, hrest⟩ := Option.bind_eq_some_iff.1 hrest
      dsimp only at hrest
      by_cases hsocket : sys.socket net opt s.cfg = true
      · rw [if_pos hsocket] at hrest
        cases hrest
        exact ⟨net, id, prms', hnet, hid, hheader, hsocket, rfl⟩
      · rw [if_neg hsocket] at hrest
        cases hrest
  · rintro ⟨net, id, prms', hnet, hid, hheader, hsocket, rfl⟩
    refine Option.bind_eq_some_iff.2 ⟨net, hnet, ?_⟩
    rw [hid]
    refine Option.bind_eq_some_iff.2 ⟨prms', hheader, ?_⟩
    dsimp only
    rw [if_pos hsocket]
    rfl

/-- What the last part leaves: `updateParams` takes the parameters, or none of them. -/
structure Finished (opt : Options) (s s' : Init) : Prop where
  cfg : s'.cfg = s.cfg
  auth : s'.msg.auth = s.msg.auth
  allowUnauth : s'.allowUnauth = s.allowUnauth
  prms : if chosenTransport opt s.cfg > 0xf then s'.msg.prms = s.msg.prms
    else s'.msg.prms.transportSpecific = chosenTransport opt s.cfg ∧
      s'.msg.prms.domainNumber = chosenDomain opt s.cfg ∧ s'.msg.prms.boundaryHops = chosenHops opt

theorem finish_finished {s s' : Init} {prms : MsgParams} (h : finish sys opt s prms = some (true, s')) :
    Finished opt s s' := by
  obtain ⟨net, id, prms', -, -, hheader, -, rfl⟩ := finish_true_iff.1 h
  rw [header_eq] at hheader
  cases hheader
  unfold Message.updateParams
  dsimp only
  by_cases hrefused : chosenTransport opt s.cfg > 0xf
  · rw [if_pos hrefused]
    exact ⟨rfl, rfl, rfl, by rw [if_pos hrefused]⟩
  · rw [if_neg hrefused]
    exact ⟨rfl, rfl, rfl, by rw [if_neg hrefused]; exact ⟨rfl, rfl, rfl⟩⟩

theorem config_eq_some_iff {s : Init} {cfg : ConfigFile} :
    config sys opt s = some cfg ↔ readConfig sys opt s = some (true, { s with cfg }) := by
  unfold config readConfig Options.haveOpt Options.val
  cases opt.opts (chr 'f') with
  | none =>
    constructor
    · intro h
      cases h
      rfl
    · intro h
      have hcfg : s.cfg = cfg := congrArg (fun r => r.2.cfg) (Option.some.inj h)
      exact congrArg some hcfg
  | some file =>
    rw [Option.isSome_some, if_pos rfl, Option.getD_some, Option.map_eq_some_iff]
    dsimp only
    constructor
    · intro h
      split at h
      next cfg' hread =>
        cases h
        exact ⟨(true, cfg), hread, rfl⟩
      next => cases h
    · rintro ⟨⟨ok, cfg'⟩, hread, heq⟩
      have hok : ok = true := congrArg Prod.fst heq
      have hcfg : cfg' = cfg := congrArg (fun r => r.2.cfg) heq
      rw [hread, hok, hcfg]

/-- Reading sets the configuration only. -/
theorem readConfig_cfg {s s' : Init} {ok : Bool} (h : readConfig sys opt s = some (ok, s')) :
    ∃ cfg, s' = { s with cfg } := by
  unfold readConfig at h
  split_ifs at h
  · obtain ⟨⟨ok, cfg⟩, -, heq⟩ := Option.map_eq_some_iff.1 h
    cases heq
    exact ⟨cfg, rfl⟩
  · cases h
    exact ⟨s.cfg, rfl⟩

/-- A process that succeeds took every step. -/
theorem process_true {s s' : Init} (h : process sys opt s = some (true, s')) :
    ∃ cfg, config sys opt s = some cfg ∧ Admits sys opt cfg ∧ ∃ s₁ : Init, s₁.cfg = cfg ∧
      s₁.msg.prms = s.msg.prms ∧ (Chosen opt cfg → Authenticated sys opt { s with cfg } s₁) ∧
      Finished opt s₁ s' := by
  obtain ⟨⟨ok, s₀⟩, hread, hrest⟩ := Option.bind_eq_some_iff.1 h
  cases ok with
  | false => cases hrest
  | true =>
    obtain ⟨⟨prms, s₁⟩, hauth, hfinish⟩ := Option.bind_eq_some_iff.1 hrest
    cases prms with
    | none => cases hfinish
    | some prms =>
      obtain ⟨cfg, rfl⟩ := readConfig_cfg hread
      obtain ⟨net, id, -, hnet, hid, -, hsocket, -⟩ := finish_true_iff.1 hfinish
      have hopens := (selfId_isSome net prms.selfId).1 (Option.isSome_iff_exists.2 ⟨id, hid⟩)
      have hfinished : Finished opt s₁ s' := finish_finished hfinish
      refine ⟨cfg, config_eq_some_iff.2 hread, ?_⟩
      -- without an spp the steps of the authentication are not taken
      by_cases hchosen : Chosen opt cfg
      · obtain ⟨hadmits, hdone⟩ := authenticate_chosen hchosen hauth
        rw [hdone.cfg] at hnet hsocket
        exact ⟨⟨fun _ => hadmits, net, hnet, hsocket, hopens⟩, s₁, hdone.cfg, hdone.prms, fun _ => hdone,
          hfinished⟩
      · rw [authenticate_plain hchosen] at hauth
        cases hauth
        exact ⟨⟨fun h => absurd h hchosen, net, hnet, hsocket, hopens⟩, { s with cfg, allowUnauth := 0 }, rfl, rfl,
          fun h => absurd h hchosen, hfinished⟩

theorem process_admits {s : Init} {cfg : ConfigFile} (hcfg : config sys opt s = some cfg) (h : Admits sys opt cfg) :
    ∃ s', process sys opt s = some (true, s') := by
  have hauth : ∃ prms s₁, authenticate sys opt { s with cfg } = some (some prms, s₁) ∧ s₁.cfg = cfg := by
    by_cases hchosen : Chosen opt cfg
    · exact authenticate_admits hchosen (h.auth hchosen)
    · exact ⟨_, _, authenticate_plain hchosen, rfl⟩
  obtain ⟨prms, s₁, hauth, rfl⟩ := hauth
  obtain ⟨net, hnet, hsocket, hopens⟩ := h.opens
  obtain ⟨id, hid⟩ := Option.isSome_iff_exists.1 ((selfId_isSome net prms.selfId).2 hopens)
  have hfinish := finish_true_iff.2 ⟨net, id, _, hnet, hid, header_eq _ _, hsocket, rfl⟩
  exact ⟨_, Option.bind_eq_some_iff.2 ⟨_, config_eq_some_iff.1 hcfg,
    Option.bind_eq_some_iff.2 ⟨_, hauth, hfinish⟩⟩⟩

/-! ## Values -/

/-- A value that is given is kept where it fits, and another one never is what was given. -/
theorem gives_iff {read : Text → Option Int} {given : Option Text} {other max v : Int}
    (hnone : given = none → v = other) (hsome : ∀ t n, given = some t → read t = some n → 0 ≤ n → n ≤ max → v = n)
    (hmin : 0 ≤ v) (hmax : v ≤ max) : Gives read given other v ↔ Fits read given max := by
  unfold Gives Fits
  cases given with
  | none =>
    constructor
    · intro _ t ht
      cases ht
    · intro _
      exact hnone rfl
  | some t =>
    constructor
    · rintro h t' ht
      cases ht
      exact ⟨v, h, hmin, hmax⟩
    · intro h
      obtain ⟨n, hread, hn, hle⟩ := h t rfl
      dsimp only
      rw [hread, hsome t n rfl hread hn hle]

theorem valI_eq {c : UInt8} {t : Text} (h : opt.opts c = some t) : opt.haveOpt c = true ∧ opt.valI c = atoi t := by
  unfold Options.valI Options.haveOpt Options.val
  rw [h]
  exact ⟨rfl, rfl⟩

theorem haveOpt_none {c : UInt8} (h : opt.opts c = none) : opt.haveOpt c = false := by
  unfold Options.haveOpt
  rw [h]
  rfl

/-- An option of one octet. -/
theorem gives_octet {c : UInt8} {d : UInt8} {other : Nat} (hother : d.toNat = other) :
    Gives numeral (opt.opts c) other (if opt.haveOpt c then UInt8.ofInt (opt.valI c).toInt else d).toNat ↔
      Fits numeral (opt.opts c) 255 := by
  refine gives_iff ?_ ?_ (Int.natCast_nonneg _) ?_
  · intro hnone
    rw [haveOpt_none hnone, if_neg Bool.false_ne_true, hother]
  · intro t n hsome hread hmin hmax
    obtain ⟨hhave, hval⟩ := valI_eq hsome
    rw [if_pos hhave, hval, atoi_octet hread hmin hmax, toNat_ofInt8 hmin hmax]
  · have hlt := UInt8.toNat_lt (if opt.haveOpt c then UInt8.ofInt (opt.valI c).toInt else d)
    omega

theorem gives_keyId (cfg : ConfigFile) :
    Gives numeral (opt.opts (chr 'A')) (globalNum cfg .activeKeyId).toNat (chosenKeyId opt cfg).toNat ↔
      Fits numeral (opt.opts (chr 'A')) 0xffffffff := by
  unfold chosenKeyId
  refine gives_iff ?_ ?_ (Int.natCast_nonneg _) ?_
  · intro hnone
    rw [haveOpt_none hnone, if_neg Bool.false_ne_true]
  · intro t n hsome hread hmin hmax
    obtain ⟨hhave, hval⟩ := valI_eq hsome
    rw [if_pos hhave, hval, atoi_keyId hread hmin hmax]
  · have hlt := UInt32.toNat_lt (if opt.haveOpt (chr 'A') then UInt32.ofInt (opt.valI (chr 'A')).toInt
      else globalNum cfg .activeKeyId)
    omega

theorem ofInt_chosenSpp (cfg : ConfigFile) : UInt8.ofInt (chosenSpp opt cfg)
    = if opt.haveOpt (chr 'B') then UInt8.ofInt (opt.valI (chr 'B')).toInt else (globalNum cfg .spp).toUInt8 := by
  have hself : ∀ x : UInt8, UInt8.ofInt (x.toNat : Int) = x := by
    intro x
    have hlt := x.toNat_lt
    apply UInt8.toNat_inj.1
    have hnat := toNat_ofInt8 (n := x.toNat) (Int.natCast_nonneg _) (by omega)
    omega
  unfold chosenSpp
  split_ifs
  · rfl
  · exact hself _

theorem chosenTransport_none {cfg : ConfigFile} (hcfg : GlobalInRange cfg) (h : opt.opts (chr 't') = none) :
    (chosenTransport opt cfg).toNat = (globalNum cfg .transportSpecific).toNat := by
  unfold chosenTransport
  rw [haveOpt_none h, if_neg Bool.false_ne_true]
  exact globalNum_octet hcfg .transportSpecific (by decide)

theorem chosenTransport_some (cfg : ConfigFile) {t : Text} {n : Int} (h : opt.opts (chr 't') = some t)
    (hread : hexNumeral t = some n) (hmin : 0 ≤ n) (hmax : n ≤ 0xf) :
    ((chosenTransport opt cfg).toNat : Int) = n := by
  have hclamp : clampInt n = n := by
    unfold clampInt
    omega
  have hval : opt.val (chr 't') = t := by
    unfold Options.val
    rw [h]
    rfl
  unfold chosenTransport
  rw [(valI_eq h).1, if_pos rfl, hval, strtoll16_hexNumeral hread, hclamp, toNat_ofInt8 hmin (by omega)]

/-- The parameters are taken, if the value of the option is one that `updateParams` takes. -/
theorem chosenTransport_le {cfg : ConfigFile} (hcfg : GlobalInRange cfg)
    (h : Fits hexNumeral (opt.opts (chr 't')) 0xf) : ¬ chosenTransport opt cfg > 0xf := by
  have hle : (chosenTransport opt cfg).toNat ≤ 15 := by
    cases ht : opt.opts (chr 't') with
    | none =>
      rw [chosenTransport_none hcfg ht]
      exact UInt32.le_iff_toNat_le.1 (hcfg (.num .transportSpecific)).2
    | some t =>
      obtain ⟨n, hread, hmin, hmax⟩ := h t ht
      have heq := chosenTransport_some cfg ht hread hmin hmax
      omega
  intro hgt
  have hlt : 15 < (chosenTransport opt cfg).toNat := UInt8.lt_iff_toNat_lt.1 hgt
  omega

/-! ## Objects -/

/-- What a program has: a new object, what `process` leaves of one, also where it fails, and an object whose message
    was used. The message never has a `transportSpecific` that `updateParams` refuses. -/
inductive Made : Init → Prop
  | new : Made new
  | process {s s' : Init} {sys : System} {opt : Options} {ok : Bool} (h : Made s)
      (hprocess : process sys opt s = some (ok, s')) : Made s'
  | msg {s : Init} (m : Message) (h : Made s) (hm : ¬ m.prms.transportSpecific > 0xf) : Made { s with msg := m }

/-- The values of the configuration are in range, and the parameters are some that `updateParams` takes. -/
structure Sound (s : Init) : Prop where
  cfg : GlobalInRange s.cfg
  accepted : ¬ s.msg.prms.transportSpecific > 0xf

theorem readConfig_sound {s s' : Init} {ok : Bool} (hs : Sound s) (h : readConfig sys opt s = some (ok, s')) :
    Sound s' := by
  unfold readConfig at h
  split_ifs at h
  · obtain ⟨⟨ok, cfg⟩, hread, heq⟩ := Option.map_eq_some_iff.1 h
    cases heq
    exact ⟨readCfg_inRange hs.cfg hread, hs.accepted⟩
  · cases h
    exact hs

theorem config_inRange {s : Init} {cfg : ConfigFile} (hs : Sound s) (h : config sys opt s = some cfg) :
    GlobalInRange cfg := (readConfig_sound hs (config_eq_some_iff.1 h)).cfg

theorem readTables_sound {s s' : Init} {ok : Bool} (hs : Sound s) (h : readTables sys opt s = some (ok, s')) :
    Sound s' := by
  obtain ⟨⟨ok, sa⟩, -, hrest⟩ := Option.bind_eq_some_iff.1 h
  cases ok with
  | false =>
    cases hrest
    exact ⟨hs.cfg, hs.accepted⟩
  | true =>
    obtain ⟨⟨ok, sa⟩, -, hrest⟩ := Option.bind_eq_some_iff.1 hrest
    cases hrest
    exact ⟨hs.cfg, hs.accepted⟩

theorem useKey_sound {lib : HmacLib} {spp : Int} {keyId : UInt32} {unauth : UInt8} {s : Init} (hs : Sound s) :
    Sound (useKey lib spp keyId unauth s).2 := by
  unfold useKey
  dsimp only
  split
  next => exact hs
  next m huse =>
    obtain ⟨-, a, rfl, -⟩ := useAuth_true huse
    exact ⟨hs.cfg, hs.accepted⟩

theorem authenticate_sound {s s' : Init} {prms : Option MsgParams} (hs : Sound s)
    (h : authenticate sys opt s = some (prms, s')) : Sound s' := by
  have hzero : Sound { s with allowUnauth := 0 } := ⟨hs.cfg, hs.accepted⟩
  obtain ⟨spp, -, hrest⟩ := Option.bind_eq_some_iff.1 h
  cases spp with
  | none =>
    cases hrest
    exact hzero
  | some spp =>
    dsimp only at hrest
    by_cases hneg : spp < 0
    · rw [if_pos hneg] at hrest
      cases hrest
      exact hzero
    · rw [if_neg hneg] at hrest
      obtain ⟨activeKeyId, -, hrest⟩ := Option.bind_eq_some_iff.1 hrest
      obtain ⟨allowUnauth, -, hrest⟩ := Option.bind_eq_some_iff.1 hrest
      generalize (if opt.haveOpt (chr 'A') = true then _ else activeKeyId) = keyId at hrest
      by_cases hkey : keyId < 1
      · rw [if_pos hkey] at hrest
        cases hrest
        exact hzero
      · rw [if_neg hkey] at hrest
        obtain ⟨⟨ok, s₁⟩, htables, hrest⟩ := Option.bind_eq_some_iff.1 hrest
        have hs₁ := readTables_sound hzero htables
        cases ok with
        | false =>
          cases hrest
          exact hs₁
        | true =>
          have hlast : (useKey sys.lib spp keyId _ s₁).2 = s' := congrArg Prod.snd (Option.some.inj hrest)
          rw [← hlast]
          exact useKey_sound hs₁

theorem finish_sound {s s' : Init} {prms : MsgParams} {ok : Bool} (hs : Sound s)
    (h : finish sys opt s prms = some (ok, s')) : Sound s' := by
  unfold finish at h
  obtain ⟨net, -, hrest⟩ := Option.bind_eq_some_iff.1 h
  split at hrest
  next =>
    cases hrest
    exact hs
  next id _ =>
    obtain ⟨prms', -, hrest⟩ := Option.bind_eq_some_iff.1 hrest
    dsimp only at hrest
    by_cases hsocket : sys.socket net opt s.cfg = true
    · rw [if_pos hsocket] at hrest
      cases hrest
      refine ⟨hs.cfg, ?_⟩
      unfold Message.updateParams
      dsimp only
      by_cases hrefused : prms'.transportSpecific > 0xf
      · rw [if_pos hrefused]
        exact hs.accepted
      · rw [if_neg hrefused]
        exact hrefused
    · rw [if_neg hsocket] at hrest
      cases hrest
      exact ⟨hs.cfg, hs.accepted⟩

theorem process_sound {s s' : Init} {ok : Bool} (hs : Sound s) (h : process sys opt s = some (ok, s')) :
    Sound s' := by
  obtain ⟨⟨ok, s₀⟩, hread, hrest⟩ := Option.bind_eq_some_iff.1 h
  have hs₀ := readConfig_sound hs hread
  cases ok with
  | false =>
    cases hrest
    exact hs₀
  | true =>
    obtain ⟨⟨prms, s₁⟩, hauth, hfinish⟩ := Option.bind_eq_some_iff.1 hrest
    have hs₁ := authenticate_sound hs₀ hauth
    cases prms with
    | none =>
      cases hfinish
      exact hs₁
    | some prms => exact finish_sound hs₁ hfinish

theorem Made.sound {s : Init} (h : Made s) : Sound s := by
  induction h with
  | new => exact ⟨globalInRange_clear, by decide⟩
  | process _ hprocess ih => exact process_sound ih hprocess
  | msg m _ hm ih => exact ⟨ih.cfg, hm⟩

/-! ## The law -/

/-- The file of the option has the associations of the one in the configuration. -/
def SameFile (sys : System) (opt : Options) (cfg : ConfigFile) : Prop :=
  Chosen opt cfg → ∀ file, opt.opts (chr 'F') = some file →
    (table sys file).map SaTable.toSaFile = (table sys (globalSaFile cfg)).map SaTable.toSaFile

/-- Refused parameters leave an older value, which is one that is taken. -/
theorem transport_iff {s s₁ s' : Init} (hs : Sound s) (hcfg : GlobalInRange s₁.cfg)
    (hprms : s₁.msg.prms = s.msg.prms) (hfinished : Finished opt s₁ s') :
    Gives hexNumeral (opt.opts (chr 't')) (globalNum s₁.cfg .transportSpecific).toNat
      s'.msg.prms.transportSpecific.toNat ↔ Fits hexNumeral (opt.opts (chr 't')) 0xf := by
  have hafter := hfinished.prms
  have htaken : Fits hexNumeral (opt.opts (chr 't')) 0xf →
      s'.msg.prms.transportSpecific = chosenTransport opt s₁.cfg := by
    intro hfits
    rw [if_neg (chosenTransport_le hcfg hfits)] at hafter
    exact hafter.1
  -- whether they are taken or not, the message has a value that was taken
  have hle : s'.msg.prms.transportSpecific.toNat ≤ 15 := by
    have hnot : ¬ s'.msg.prms.transportSpecific > 0xf := by
      by_cases hrefused : chosenTransport opt s₁.cfg > 0xf
      · rw [if_pos hrefused] at hafter
        rw [hafter, hprms]
        exact hs.accepted
      · rw [if_neg hrefused] at hafter
        rw [hafter.1]
        exact hrefused
    exact Nat.le_of_not_lt fun hlt => hnot (UInt8.lt_iff_toNat_lt.2 hlt)
  refine gives_iff ?_ ?_ (Int.natCast_nonneg _) (by omega)
  · intro hnone
    have hfits : Fits hexNumeral (opt.opts (chr 't')) 0xf := by
      intro t ht
      rw [hnone] at ht
      cases ht
    rw [htaken hfits, chosenTransport_none hcfg hnone]
  · intro t n hsome hread hmin hmax
    have hfits : Fits hexNumeral (opt.opts (chr 't')) 0xf := by
      intro t' ht
      rw [hsome] at ht
      cases ht
      exact ⟨n, hread, hmin, hmax⟩
    rw [htaken hfits, chosenTransport_some s₁.cfg hsome hread hmin hmax]

/-- Authentication is the one that was asked for, if the options fit and the file is the same. -/
theorem exactAuth_iff {s s₁ s' : Init} (hcfg : GlobalInRange s.cfg) (hchosen : Chosen opt s.cfg)
    (hauth : Authenticated sys opt s s₁) (hfinished : Finished opt s₁ s') :
    (∃ a, s'.msg.auth = some a ∧ ExactAuth sys opt s.cfg s' a) ↔
      Fits numeral (opt.opts (chr 'B')) 255 ∧ Fits numeral (opt.opts (chr 'A')) 0xffffffff ∧
        Fits numeral (opt.opts (chr 'U')) 255 ∧ SameFile sys opt s.cfg := by
  obtain ⟨a, ha, hmap, hid, hkey⟩ := hauth.auth
  have hsome : s'.msg.auth = some a := hfinished.auth.trans ha
  have hspp : Gives numeral (opt.opts (chr 'B')) (globalNum s.cfg .spp).toNat a.sppID.toNat ↔
      Fits numeral (opt.opts (chr 'B')) 255 := by
    rw [hid, ofInt_chosenSpp]
    exact gives_octet (globalNum_octet hcfg .spp (by decide))
  have hkeyId : Gives numeral (opt.opts (chr 'A')) (globalNum s.cfg .activeKeyId).toNat a.keyID.toNat ↔
      Fits numeral (opt.opts (chr 'A')) 0xffffffff := by
    rw [hkey]
    exact gives_keyId s.cfg
  have hunauth : Gives numeral (opt.opts (chr 'U')) (globalNum s.cfg .allowUnauth).toNat s'.allowUnauth.toNat ↔
      Fits numeral (opt.opts (chr 'U')) 255 := by
    rw [hfinished.allowUnauth, hauth.allowUnauth]
    exact gives_octet (globalNum_octet hcfg .allowUnauth (by decide))
  -- the file of the option was read, and then that of the configuration over it
  have hfile : (table sys ((opt.opts (chr 'F')).getD (globalSaFile s.cfg))).map SaTable.toSaFile = some a.sa ↔
      SameFile sys opt s.cfg := by
    unfold SameFile
    rw [hmap]
    cases opt.opts (chr 'F') with
    | none => simp [hmap]
    | some file => simp [hchosen]
  constructor
  · rintro ⟨a', ha', hexact⟩
    rw [hsome] at ha'
    cases ha'
    exact ⟨hspp.1 hexact.spp, hkeyId.1 hexact.keyId, hunauth.1 hexact.allowUnauth, hfile.1 hexact.saFile⟩
  · rintro ⟨hB, hA, hU, hF⟩
    exact ⟨a, hsome, hspp.2 hB, hkeyId.2 hA, hfile.2 hF, hunauth.2 hU⟩

theorem exact_iff {cfg : ConfigFile} {s s₁ s' : Init} (hs : Sound s) (hcfg : GlobalInRange cfg)
    (h₁ : s₁.cfg = cfg) (hprms : s₁.msg.prms = s.msg.prms)
    (hauth : Chosen opt cfg → Authenticated sys opt { s with cfg } s₁) (hfinished : Finished opt s₁ s') :
    Exact sys opt cfg s' ↔ Representable opt cfg ∧ SameFile sys opt cfg := by
  subst h₁
  have hafter := hfinished.prms
  have htransport := transport_iff hs hcfg hprms hfinished
  -- the other fields of the header come with the transport, or stay behind with it
  have hdomain : Fits hexNumeral (opt.opts (chr 't')) 0xf →
      (Gives numeral (opt.opts (chr 'd')) (globalNum s₁.cfg .domainNumber).toNat s'.msg.prms.domainNumber.toNat ↔
        Fits numeral (opt.opts (chr 'd')) 255) := by
    intro hfits
    rw [if_neg (chosenTransport_le hcfg hfits)] at hafter
    rw [hafter.2.1]
    exact gives_octet (globalNum_octet hcfg .domainNumber (by decide))
  have hhops : Fits hexNumeral (opt.opts (chr 't')) 0xf →
      (Gives numeral (opt.opts (chr 'b')) 1 s'.msg.prms.boundaryHops.toNat ↔
        Fits numeral (opt.opts (chr 'b')) 255) := by
    intro hfits
    rw [if_neg (chosenTransport_le hcfg hfits)] at hafter
    rw [hafter.2.2]
    exact gives_octet rfl
  have hauth_iff := fun hchosen : Chosen opt s₁.cfg =>
    exactAuth_iff (s := { s with cfg := s₁.cfg }) hcfg hchosen (hauth hchosen) hfinished
  constructor
  · intro h
    have hfits := htransport.1 h.transportSpecific
    have hchosen := fun hchosen => (hauth_iff hchosen).1 (h.auth hchosen)
    exact ⟨⟨hfits, (hdomain hfits).1 h.domainNumber, (hhops hfits).1 h.boundaryHops, fun hc => (hchosen hc).1,
      fun hc => (hchosen hc).2.1, fun hc => (hchosen hc).2.2.1⟩, fun hc => (hchosen hc).2.2.2 hc⟩
  · rintro ⟨h, hfile⟩
    exact ⟨htransport.2 h.transportSpecific, (hdomain h.transportSpecific).2 h.domainNumber,
      (hhops h.transportSpecific).2 h.boundaryHops,
      fun hc => (hauth_iff hc).2 ⟨h.spp hc, h.keyId hc, h.allowUnauth hc, hfile⟩⟩

/-- Options come before the configuration, unless a value is given that the parameter cannot have or the file of
    `-F` has other associations than the one of the configuration, and nothing else is refused. -/
theorem precedence_iff {s : Init} (h : Made s) (sys : System) (opt : Options) :
    Precedence sys opt s ↔
      ∀ cfg, config sys opt s = some cfg → Admits sys opt cfg → Representable opt cfg ∧ SameFile sys opt cfg := by
  constructor
  -- a process that is not refused shows what became of the options
  · intro hlaw cfg hcfg hadmits
    obtain ⟨s', hprocess⟩ := process_admits hcfg hadmits
    obtain ⟨cfg', hcfg', hexact⟩ := hlaw.exact s' hprocess
    obtain ⟨cfg'', hcfg'', -, s₁, h₁, hprms, hauth, hfinished⟩ := process_true hprocess
    rw [hcfg] at hcfg' hcfg''
    cases hcfg'
    cases hcfg''
    exact (exact_iff h.sound (config_inRange h.sound hcfg) h₁ hprms hauth hfinished).1 hexact
  · intro hright
    refine ⟨?_, ?_⟩
    · intro s' hprocess
      obtain ⟨cfg, hcfg, hadmits, s₁, h₁, hprms, hauth, hfinished⟩ := process_true hprocess
      exact ⟨cfg, hcfg, (exact_iff h.sound (config_inRange h.sound hcfg) h₁ hprms hauth hfinished).2
        (hright cfg hcfg hadmits)⟩
    · intro cfg hcfg hnot s' hprocess
      obtain ⟨cfg', hcfg', hadmits, -⟩ := process_true hprocess
      rw [hcfg] at hcfg'
      cases hcfg'
      exact hnot (hright cfg hcfg hadmits).1

end Success

/-- A machine where UDS comes up, without files. -/
def bare : System where
  files _ := none
  lib := zeroLib
  interface _ := none
  socket _ _ _ := true
  pid := 1

/-- A command line with `-u`. -/
def overUds (opts : List (UInt8 × Text)) : Options where
  opts c := opts.lookup c
  netSelect := chr 'u'

/-- `-u -d 7 -t 0xa`. -/
theorem precedence_iff_taken :
    let opt := overUds [(chr 'd', txt "7"), (chr 't', txt "0xa")]
    (∃ s', process bare opt new = some (true, s') ∧ s'.msg.prms.domainNumber = 7 ∧
      s'.msg.prms.transportSpecific = 0xa) ∧ Precedence bare opt new := by
  refine ⟨⟨_, rfl, by decide, by decide⟩, ?_⟩
  refine (precedence_iff Made.new bare _).2 ?_
  intro cfg hcfg _
  cases hcfg
  have hnone : ¬ Chosen (overUds [(chr 'd', txt "7"), (chr 't', txt "0xa")]) new.cfg := by
    unfold Chosen
    decide
  have hfits : ∀ {read : Text → Option Int} {t : Text} {n max : Int}, read t = some n → 0 ≤ n → n ≤ max →
      Fits read (some t) max := by
    intro read t n max hread hmin hmax t' ht
    cases ht
    exact ⟨n, hread, hmin, hmax⟩
  have hten : hexNumeral (txt "0xa") = some 10 := by decide
  have hseven : numeral (txt "7") = some 7 := by decide
  have hhops : Fits numeral none 255 := by
    intro t ht
    cases ht
  exact ⟨⟨hfits hten (by decide) (by decide), hfits hseven (by decide) (by decide), hhops, fun hc => absurd hc hnone,
    fun hc => absurd hc hnone, fun hc => absurd hc hnone⟩, fun hc => absurd hc hnone⟩

/-- `-u -t 10`: what `updateParams` refuses is dropped, and the new object keeps its parameters. -/
theorem not_precedence_refused :
    ¬ ∀ (s : Init), Made s → ∀ (sys : System) (opt : Options), Precedence sys opt s := by
  intro h
  obtain ⟨cfg, -, hexact⟩ := (h new Made.new bare (overUds [(chr 't', txt "10")])).exact _ rfl
  have htransport := hexact.transportSpecific
  change hexNumeral (txt "10") = some 0 at htransport
  rw [show hexNumeral (txt "10") = some 16 by decide] at htransport
  cases htransport

end Init

end PtpMgmt
