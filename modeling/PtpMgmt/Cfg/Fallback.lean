import PtpMgmt.Cfg.Sections

set_option autoImplicit false

/-! # Values of a section

What a getter gives is the last value that the file sets in the section, else the last one of the global
section, else the default. The empty name stands for the global section. `haveSpp` asks the map without
looking whether the section is there. -/

namespace PtpMgmt.Cfg

open Json

/-! ## The law -/

/-- The section that a name stands for. -/
def sectionOf (name : Text) : Text := if name = [] then globalSection else name

def defaultVal (i : Idx) : i.Val := ConfigSection.init.setGlobal.vals i

/-- The value of a section, with the global section and the default behind it. -/
def valueIn (es : List (Text × Option Setting)) (name : Text) (i : Idx) : i.Val :=
  (lastSet es (sectionOf name) i).getD ((lastSet es globalSection i).getD (defaultVal i))

def numIn (es : List (Text × Option Setting)) (name : Text) (i : NumVal) : UInt32 := valueIn es name (.num i)

/-- The file sets a value in a section. -/
def Sets (es : List (Text × Option Setting)) (name : Text) (i : Idx) : Prop := (lastSet es name i).isSome

instance Sets.decidable (es : List (Text × Option Setting)) (name : Text) (i : Idx) : Decidable (Sets es name i) :=
  inferInstanceAs (Decidable (_ = true))

/-- No getter throws, and each gives the value of the section. -/
structure Fallback (es : List (Text × Option Setting)) (cfg : ConfigFile) (name : Text) : Prop where
  transportSpecific : (cfg.transportSpecific name).map UInt8.toNat = some (numIn es name .transportSpecific).toNat
  domainNumber : (cfg.domainNumber name).map UInt8.toNat = some (numIn es name .domainNumber).toNat
  udp6Scope : (cfg.udp6Scope name).map UInt8.toNat = some (numIn es name .udp6Scope).toNat
  udpTtl : (cfg.udpTtl name).map UInt8.toNat = some (numIn es name .udpTtl).toNat
  socketPriority : (cfg.socketPriority name).map UInt8.toNat = some (numIn es name .socketPriority).toNat
  networkTransport : (cfg.networkTransport name).map UInt8.toNat = some (numIn es name .networkTransport).toNat
  activeKeyId : cfg.activeKeyId name = some (numIn es name .activeKeyId)
  spp : (cfg.spp name).map UInt8.toNat = some (numIn es name .spp).toNat
  allowUnauth : (cfg.allowUnauth name).map UInt8.toNat = some (numIn es name .allowUnauth).toNat
  udsAddress : cfg.udsAddress name = some (valueIn es name (.str .udsAddress))
  saFile : cfg.saFile name = some (valueIn es name (.str .saFile))
  ptpDstMac : cfg.ptpDstMac name = some (valueIn es name (.bin .ptpDstMac))
  p2pDstMac : cfg.p2pDstMac name = some (valueIn es name (.bin .p2pDstMac))
  haveSpp : cfg.haveSpp name
    = some (decide (Sets es (sectionOf name) (.num .spp) ∨ Sets es globalSection (.num .spp)))

/-! ## Getters of what is read -/

section Loaded

variable {es : List (Text × Option Setting)} {cfg : ConfigFile}

theorem base_set (name : Text) (i : Idx) : (base name).set i = false := by
  unfold base
  split_ifs <;> rfl

theorem storeAll_set (es : List (Text × Option Setting)) (name : Text) (i : Idx) :
    (storeAll (base name) (settingsIn es name)).set i = (lastSet es name i).isSome := by
  rw [set_storeAll, base_set, Bool.false_or]
  rfl

theorem storeAll_vals (es : List (Text × Option Setting)) (name : Text) (i : Idx) :
    (storeAll (base name) (settingsIn es name)).vals i = (lastSet es name i).getD ((base name).vals i) :=
  vals_storeAll _ _ i

theorem lastSet_eq_none {name : Text} (h : ¬ Named es name) (i : Idx) : lastSet es name i = none := by
  unfold lastSet
  rw [settingsIn_eq_nil h]
  rfl

theorem Loaded.global_eq (h : Loaded es cfg) :
    cfg.global = storeAll (base globalSection) (settingsIn es globalSection) := by
  have hglobal := h globalSection
  rw [if_pos (.inl rfl)] at hglobal
  unfold ConfigFile.global
  simp only [hglobal, Option.get_some]

theorem Loaded.global_vals (h : Loaded es cfg) (i : Idx) :
    cfg.global.vals i = (lastSet es globalSection i).getD (defaultVal i) := by
  rw [h.global_eq, storeAll_vals, base, if_pos rfl]
  rfl

theorem Loaded.global_set (h : Loaded es cfg) (i : Idx) :
    cfg.global.set i = (lastSet es globalSection i).isSome := by
  rw [h.global_eq, storeAll_set]

/-- `isGlobal` is false for what the section itself sets. -/
theorem Loaded.isGlobal_eq (h : Loaded es cfg) (i : Idx) {name : Text} (hne : name ≠ []) :
    cfg.isGlobal i name = !(lastSet es name i).isSome := by
  have hbeq : (name == []) = false := by
    rw [beq_eq_false_iff_ne]
    exact hne
  unfold ConfigFile.isGlobal
  rw [hbeq, Bool.false_or, h name]
  by_cases hname : name = globalSection ∨ Named es name
  · rw [if_pos hname]
    dsimp only
    rw [storeAll_set]
  · rw [if_neg hname, lastSet_eq_none fun hn => hname (.inr hn)]
    rfl

/-- A getter looks the section up, and then the global one. -/
theorem Loaded.get_eq (h : Loaded es cfg) (i : Idx) (name : Text) : cfg.get i name = some (valueIn es name i) := by
  have hglobal := h.global_vals i
  unfold valueIn sectionOf
  by_cases hempty : name = []
  · rw [hempty, if_pos rfl]
    show some (cfg.global.vals i) = _
    rw [hglobal]
    cases lastSet es globalSection i <;> rfl
  · unfold ConfigFile.get
    rw [if_neg hempty, h.isGlobal_eq i hempty]
    cases hlast : lastSet es name i with
    | none => exact congrArg some hglobal
    | some v =>
      -- the section is there, since it sets a value
      have hname : name = globalSection ∨ Named es name := by
        by_contra hnot
        rw [lastSet_eq_none fun hn => hnot (.inr hn)] at hlast
        cases hlast
      rw [h name, if_pos hname]
      show some ((storeAll (base name) (settingsIn es name)).vals i) = some v
      rw [storeAll_vals, hlast]
      rfl

end Loaded

/-! ## Values of one octet -/

theorem Setting.at_inRange {s : Setting} {i : Idx} {v : i.Val} (h : s.at i = some v) : i.InRange v := by
  unfold Setting.at at h
  split at h
  next heq =>
    subst heq
    cases h
    exact s.inRange
  next => cases h

theorem lastSet_inRange {es : List (Text × Option Setting)} {name : Text} {i : Idx} {v : i.Val}
    (h : lastSet es name i = some v) : i.InRange v := by
  obtain ⟨s, -, hs⟩ := List.mem_filterMap.1 (List.mem_of_getLast? h)
  exact Setting.at_inRange hs

/-- Every default is in its range. -/
theorem defaultVal_inRange (i : Idx) : i.InRange (defaultVal i) := by
  cases i with
  | num i =>
    unfold Idx.InRange defaultVal
    cases i <;> exact ⟨by decide, by decide⟩
  | str i => trivial
  | bin i => trivial

theorem valueIn_inRange (es : List (Text × Option Setting)) (name : Text) (i : Idx) :
    i.InRange (valueIn es name i) := by
  unfold valueIn
  cases hlast : lastSet es (sectionOf name) i with
  | some v => exact lastSet_inRange hlast
  | none =>
    cases hglobal : lastSet es globalSection i with
    | some v => exact lastSet_inRange hglobal
    | none => exact defaultVal_inRange i

/-- A getter of one octet loses nothing. -/
theorem Loaded.getNum_octet {es : List (Text × Option Setting)} {cfg : ConfigFile} (h : Loaded es cfg)
    (i : NumVal) (hmax : (ranges (.num i)).max ≤ 255) (name : Text) :
    ((cfg.getNum i name).map UInt32.toUInt8).map UInt8.toNat = some (numIn es name i).toNat := by
  have hrange : (ranges (.num i)).min ≤ numIn es name i ∧ numIn es name i ≤ (ranges (.num i)).max :=
    valueIn_inRange es name (.num i)
  have hle : (numIn es name i).toNat ≤ 255 :=
    Nat.le_trans (UInt32.le_iff_toNat_le.1 hrange.2) (UInt32.le_iff_toNat_le.1 hmax)
  have hget : cfg.getNum i name = some (numIn es name i) := h.get_eq (.num i) name
  rw [hget, Option.map_some, Option.map_some, UInt32.toNat_toUInt8, Nat.mod_eq_of_lt (by omega)]

/-! ## The presence of an spp -/

/-- `haveSpp` throws for a name that the file does not have, unless the global section sets an spp. -/
theorem Loaded.haveSpp_eq {es : List (Text × Option Setting)} {cfg : ConfigFile} (h : Loaded es cfg)
    (name : Text) : cfg.haveSpp name =
      if Sets es globalSection (.num .spp) ∨ name = [] ∨ name = globalSection ∨ Named es name then
        some (decide (Sets es (sectionOf name) (.num .spp) ∨ Sets es globalSection (.num .spp)))
      else none := by
  have hglobal : cfg.global.set (.num .spp) = true ↔ Sets es globalSection (.num .spp) := by
    rw [h.global_set]
    rfl
  unfold ConfigFile.haveSpp
  rw [if_congr hglobal rfl rfl]
  by_cases hspp : Sets es globalSection (.num .spp)
  · rw [if_pos hspp, if_pos (.inl hspp), decide_eq_true (.inr hspp)]
  · rw [if_neg hspp]
    by_cases hempty : name = []
    · have hnot : ¬ (Sets es (sectionOf name) (.num .spp) ∨ Sets es globalSection (.num .spp)) := by
        unfold sectionOf
        rw [if_pos hempty, or_self]
        exact hspp
      rw [if_pos hempty, if_pos (.inr (.inl hempty)), decide_eq_false hnot]
    · have hsection : sectionOf name = name := if_neg hempty
      rw [if_neg hempty, h name, hsection]
      by_cases hname : name = globalSection ∨ Named es name
      · rw [if_pos hname, if_pos (.inr (.inr hname)), Option.map_some, storeAll_set]
        congr 1
        rw [Bool.eq_iff_iff, decide_eq_true_eq]
        exact (or_iff_left hspp).symm
      · rw [if_neg hname, if_neg (by rintro (h | h | h); exacts [hspp h, hempty h, hname h])]
        rfl

/-- For every file that is accepted and every name the values are those of the section, if and only if the
    name is empty or has a line in the file, or the global section sets an spp. -/
theorem fallback_iff (cfg : ConfigFile) (file : Text) (cfg' : ConfigFile)
    (h : cfg.readCfg (some file) = some (true, cfg')) (name : Text) :
    Fallback (fileSettings file) cfg' name ↔
      name = [] ∨ name = globalSection ∨ Named (fileSettings file) name ∨
        Sets (fileSettings file) globalSection (.num .spp) := by
  have hloaded : Loaded (fileSettings file) cfg' := by
    unfold ConfigFile.readCfg at h
    obtain ⟨⟨ok, rd⟩, hread, heq⟩ := Option.map_eq_some_iff.1 h
    cases heq
    exact loaded_readLines loaded_clear hread
  have hspp := hloaded.haveSpp_eq name
  constructor
  · intro hlaw
    by_contra hnot
    rw [if_neg (by tauto), hlaw.haveSpp] at hspp
    cases hspp
  · intro hname
    rw [if_pos (by tauto)] at hspp
    exact {
      transportSpecific := hloaded.getNum_octet _ (by decide) name
      domainNumber := hloaded.getNum_octet _ (by decide) name
      udp6Scope := hloaded.getNum_octet _ (by decide) name
      udpTtl := hloaded.getNum_octet _ (by decide) name
      socketPriority := hloaded.getNum_octet _ (by decide) name
      networkTransport := hloaded.getNum_octet _ (by decide) name
      activeKeyId := hloaded.get_eq _ name
      spp := hloaded.getNum_octet _ (by decide) name
      allowUnauth := hloaded.getNum_octet _ (by decide) name
      udsAddress := hloaded.get_eq _ name
      saFile := hloaded.get_eq _ name
      ptpDstMac := hloaded.get_eq _ name
      p2pDstMac := hloaded.get_eq _ name
      haveSpp := hspp }

/-- A section with a domain, beside the global one. -/
theorem fallback_iff_domain : ∃ cfg',
    ConfigFile.clearSections.readCfg (some (txt "udp_ttl 3\n[eth0]\ndomainNumber 7\n")) = some (true, cfg') ∧
    cfg'.domainNumber (txt "eth0") = some 7 ∧ cfg'.udpTtl (txt "eth0") = some 3 ∧
    Fallback (fileSettings (txt "udp_ttl 3\n[eth0]\ndomainNumber 7\n")) cfg' (txt "eth0") := by
  refine ⟨_, rfl, by decide, by decide, ?_⟩
  exact (fallback_iff ConfigFile.clearSections _ _ rfl (txt "eth0")).2 (by decide)

/-- `haveSpp` of a port that the file does not name. -/
theorem fallback_iff_absent : ¬ ∀ (cfg : ConfigFile) (file : Text) (cfg' : ConfigFile),
    cfg.readCfg (some file) = some (true, cfg') → ∀ name, Fallback (fileSettings file) cfg' name := by
  intro h
  have hlaw := h ConfigFile.clearSections (txt "[global]\ndomainNumber 7\n") _ rfl (txt "eth0")
  have hthrow := hlaw.haveSpp
  exact absurd hthrow (by decide)

end PtpMgmt.Cfg
