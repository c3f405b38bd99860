import PtpMgmt.Pmc.Assign

set_option autoImplicit false

/-! # What a builder stores of its keys

The builders whose keys are integers and flags alone: a line that assigns values in their ranges is taken, and the
fields of the TLV hold the values, with the defaults for what the line leaves out. -/

namespace PtpMgmt.MsgBuild

open Json
open Cfg.SppKeys (words)

/-! ## Fields -/

section Fields

variable {num val : Int} {key : Key}

theorem uint8_of (h : num = val ∧ key.Allows val) (hfit : 0 ≤ key.ranged.min ∧ key.ranged.max ≤ uint8Max) :
    ((UInt8.ofInt num).toNat : Int) = val := by
  obtain ⟨rfl, hmin, hmax⟩ := h
  rw [uint8Max] at hfit
  simp [UInt8.ofInt]
  omega

theorem uint16_of (h : num = val ∧ key.Allows val) (hfit : 0 ≤ key.ranged.min ∧ key.ranged.max ≤ uint16Max) :
    ((UInt16.ofInt num).toNat : Int) = val := by
  obtain ⟨rfl, hmin, hmax⟩ := h
  rw [uint16Max] at hfit
  simp [UInt16.ofInt]
  omega

theorem uint32_of (h : num = val ∧ key.Allows val) (hfit : 0 ≤ key.ranged.min ∧ key.ranged.max ≤ uint32Max) :
    ((UInt32.ofInt num).toNat : Int) = val := by
  obtain ⟨rfl, hmin, hmax⟩ := h
  rw [uint32Max] at hfit
  simp [UInt32.ofInt]
  omega

theorem uint64_of (h : num = val ∧ key.Allows val) (hfit : 0 ≤ key.ranged.min ∧ key.ranged.max ≤ uint48Max) :
    ((UInt64.ofInt num).toNat : Int) = val := by
  obtain ⟨rfl, hmin, hmax⟩ := h
  rw [uint48Max] at hfit
  simp [UInt64.ofInt]
  omega

theorem int8_of (h : num = val ∧ key.Allows val) (hfit : int8Min ≤ key.ranged.min ∧ key.ranged.max ≤ int8Max) :
    (Int8.ofInt num).toInt = val := by
  obtain ⟨rfl, hmin, hmax⟩ := h
  rw [int8Min, int8Max] at hfit
  exact Int8.toInt_ofInt_of_le (by omega) (by omega)

theorem int16_of (h : num = val ∧ key.Allows val) (hfit : int16Min ≤ key.ranged.min ∧ key.ranged.max ≤ int16Max) :
    (Int16.ofInt num).toInt = val := by
  obtain ⟨rfl, hmin, hmax⟩ := h
  rw [int16Min, int16Max] at hfit
  exact Int16.toInt_ofInt_of_le (by omega) (by omega)

theorem int32_of (h : num = val ∧ key.Allows val) (hfit : int32Min ≤ key.ranged.min ∧ key.ranged.max ≤ int32Max) :
    (Int32.ofInt num).toInt = val := by
  obtain ⟨rfl, hmin, hmax⟩ := h
  rw [int32Min, int32Max] at hfit
  exact Int32.toInt_ofInt_of_le (by omega) (by omega)

theorem scaled_of (h : num = val ∧ key.Allows val) (hfit : int48Min ≤ key.ranged.min ∧ key.ranged.max ≤ int48Max) :
    (scaled num).toInt = val * 2 ^ 16 := by
  obtain ⟨rfl, hmin, hmax⟩ := h
  rw [int48Min, int48Max] at hfit
  exact Int64.toInt_ofInt_of_le (by omega) (by omega)

end Fields

/-- What is asked of the fields: they hold the values of the keys. A flag that has a bit of a field holds whether
    its value is not zero, a version has half an octet, and a correction is in units of 2^-16 ns. -/
def Holds : (id : MngId) → (String → Int) → Tlv id → Prop
  | .initializeTlv, v, d => (d.initializationKey.toNat : Int) = v "initializationKey"
  | .priority1, v, d => (d.priority1.toNat : Int) = v "priority1"
  | .priority2, v, d => (d.priority2.toNat : Int) = v "priority2"
  | .domain, v, d => (d.domainNumber.toNat : Int) = v "domainNumber"
  | .slaveOnly, v, d => (d.flags.toNat : Int) = v "slaveOnly"
  | .logAnnounceInterval, v, d => d.logAnnounceInterval.toInt = v "logAnnounceInterval"
  | .announceReceiptTimeout, v, d => (d.announceReceiptTimeout.toNat : Int) = v "announceReceiptTimeout"
  | .versionNumber, v, d =>
    ((d.versionNumber &&& 0xf).toNat : Int) = v "versionNumber" ∧ ((d.versionNumber >>> 4).toNat : Int) = v "minor"
  | .time, v, d =>
    (d.currentTime.secondsField.toNat : Int) = v "secondsField" ∧
      (d.currentTime.nanosecondsField.toNat : Int) = v "nanosecondsField"
  | .clockAccuracy, v, d => (d.clockAccuracy.toNat : Int) = v "clockAccuracy"
  | .utcProperties, v, d =>
    d.currentUtcOffset.toInt = v "currentUtcOffset" ∧ (d.flags &&& fLi61 ≠ 0 ↔ v "leap61" ≠ 0) ∧
      (d.flags &&& fLi59 ≠ 0 ↔ v "leap59" ≠ 0) ∧ (d.flags &&& fUtcv ≠ 0 ↔ v "currentUtcOffsetValid" ≠ 0)
  | .traceabilityProperties, v, d =>
    (d.flags &&& fTtra ≠ 0 ↔ v "timeTraceable" ≠ 0) ∧ (d.flags &&& fFtra ≠ 0 ↔ v "frequencyTraceable" ≠ 0)
  | .timescaleProperties, v, d => d.flags &&& fPtp ≠ 0 ↔ v "ptpTimescale" ≠ 0
  | .unicastNegotiationEnable, v, d => (d.flags.toNat : Int) = v "unicastNegotiationPortDS"
  | .pathTraceEnable, v, d => (d.flags.toNat : Int) = v "pathTraceDS"
  | .acceptableMasterTableEnabled, v, d => (d.flags.toNat : Int) = v "acceptableMasterPortDS"
  | .alternateMaster, v, d =>
    (d.flags.toNat : Int) = v "transmitAlternateMulticastSync" ∧
      d.logAlternateMulticastSyncInterval.toInt = v "logAlternateMulticastSyncInterval" ∧
      (d.numberOfAlternateMasters.toNat : Int) = v "numberOfAlternateMasters"
  | .alternateTimeOffsetEnable, v, d => (d.flags.toNat : Int) = v "alternateTimescaleOffsetsDS"
  | .alternateTimeOffsetProperties, v, d =>
    (d.keyField.toNat : Int) = v "keyField" ∧ d.currentOffset.toInt = v "currentOffset" ∧
      d.jumpSeconds.toInt = v "jumpSeconds" ∧ (d.timeOfNextJump.toNat : Int) = v "timeOfNextJump"
  | .logMinPdelayReqInterval, v, d => d.logMinPdelayReqInterval.toInt = v "logMinPdelayReqInterval"
  | .primaryDomain, v, d => (d.primaryDomain.toNat : Int) = v "primaryDomain"
  | .externalPortConfigurationEnabled, v, d => (d.flags.toNat : Int) = v "externalPortConfiguration"
  | .masterOnly, v, d => (d.flags.toNat : Int) = v "masterOnly"
  | .holdoverUpgradeEnable, v, d => (d.flags.toNat : Int) = v "holdoverUpgradeDS"
  | .portDataSetNp, v, d =>
    (d.neighborPropDelayThresh.toNat : Int) = v "neighborPropDelayThresh" ∧ d.asCapable.toInt = v "asCapable"
  | .subscribeEventsNp, v, d =>
    (d.duration.toNat : Int) = v "duration" ∧ ∀ event ∈ [("NOTIFY_PORT_STATE", notifyPortState),
      ("NOTIFY_TIME_SYNC", notifyTimeSync), ("NOTIFY_PARENT_DATA_SET", notifyParentDataSet),
      ("NOTIFY_CMLDS", notifyCmlds)],
      (d.bitmask.get (divEvent event.2).1 &&& (divEvent event.2).2 ≠ 0 ↔ v event.1 ≠ 0)
  | .synchronizationUncertainNp, v, d => (d.val.toNat : Int) = v "duration"
  | .portCorrectionsNp, v, d =>
    d.egressLatency.toInt = v "egressLatency" * 2 ^ 16 ∧ d.ingressLatency.toInt = v "ingressLatency" * 2 ^ 16 ∧
      d.delayAsymmetry.toInt = v "delayAsymmetry" * 2 ^ 16
  | _, _, _ => False

/-! ## What the builders do -/

instance (keys : Keys) : Decidable (OnlyNumbers keys) := inferInstanceAs (Decidable (∀ _ ∈ keys, _))

/-- The parsed keys have the values, and each value is in the range of its key. -/
def Given (keys ks : Keys) (v : String → Int) : Prop :=
  ∀ name key, (txt name, key) ∈ keys → ks.num name = v name ∧ key.Allows (v name)

theorem version_nibbles {num minor : Int} (hnum : 0 ≤ num ∧ num ≤ 15) (hminor : 0 ≤ minor ∧ minor ≤ 15) :
    (((UInt8.ofInt minor <<< 4 ||| UInt8.ofInt num) &&& 0xf).toNat : Int) = num ∧
      (((UInt8.ofInt minor <<< 4 ||| UInt8.ofInt num) >>> 4).toNat : Int) = minor := by
  have hall : ∀ n m : Fin 16,
      (((UInt8.ofInt m.val <<< 4 ||| UInt8.ofInt n.val) &&& 0xf).toNat : Int) = n.val ∧
        (((UInt8.ofInt m.val <<< 4 ||| UInt8.ofInt n.val) >>> 4).toNat : Int) = m.val := by
    decide
  have := hall ⟨num.toNat, by omega⟩ ⟨minor.toNat, by omega⟩
  simpa [Int.toNat_of_nonneg hnum.1, Int.toNat_of_nonneg hminor.1] using this

theorem and_ne_zero_or {flags mask m : UInt8} : (flags ||| mask) &&& m ≠ 0 ↔ mask &&& m ≠ 0 ∨ flags &&& m ≠ 0 := by
  have hor : (flags ||| mask) &&& m = flags &&& m ||| mask &&& m := by
    apply UInt8.toNat_inj.1
    simp [Nat.and_or_distrib_right]
  have hzero : ∀ a b : UInt8, a ||| b = 0 ↔ a = 0 ∧ b = 0 := by
    intro a b
    simp [← UInt8.toNat_inj]
  rw [hor, Ne, hzero, not_and_or]
  exact or_comm

/-- A bit is set when its flag is on, or when it was set. -/
theorem addFlag_shows {keys : Keys} {name : String} {mask flags m : UInt8} :
    addFlag keys name mask flags &&& m ≠ 0 ↔ (keys.num name ≠ 0 ∧ mask &&& m ≠ 0) ∨ flags &&& m ≠ 0 := by
  rw [addFlag]
  split
  next h => rw [and_ne_zero_or, and_iff_right h]
  next h => simp [h]

theorem holds_utc {ks : Keys} {v : String → Int} (h : Given utcPropertiesB.keys ks v) (d : UtcProperties) :
    ∃ d', utcPropertiesB.set ks d = some d' ∧ Holds .utcProperties v d' := by
  have hoffset := h "currentUtcOffset" _ (.head _)
  have h61 := h "leap61" _ (.tail _ (.head _))
  have h59 := h "leap59" _ (.tail _ (.tail _ (.head _)))
  have hvalid := h "currentUtcOffsetValid" _ (.tail _ (.tail _ (.tail _ (.head _))))
  refine ⟨_, rfl, int16_of hoffset (by decide), ?_⟩
  simp only [addFlag_shows, h61.1, h59.1, hvalid.1, fLi61, fLi59, fUtcv]
  simp +decide

theorem holds_traceability {ks : Keys} {v : String → Int} (h : Given traceabilityPropertiesB.keys ks v)
    (d : TraceabilityProperties) :
    ∃ d', traceabilityPropertiesB.set ks d = some d' ∧ Holds .traceabilityProperties v d' := by
  have htime := h "timeTraceable" _ (.head _)
  have hfreq := h "frequencyTraceable" _ (.tail _ (.head _))
  refine ⟨_, rfl, ?_⟩
  simp only [Holds, addFlag_shows, htime.1, hfreq.1, fTtra, fFtra]
  simp +decide

theorem holds_timescale {ks : Keys} {v : String → Int} (h : Given timescalePropertiesB.keys ks v)
    (d : TimescaleProperties) :
    ∃ d', timescalePropertiesB.set ks d = some d' ∧ Holds .timescaleProperties v d' := by
  have hptp := h "ptpTimescale" _ (.head _)
  refine ⟨_, rfl, ?_⟩
  simp only [Holds, addFlag_shows, hptp.1, fPtp]
  simp

/-- An event is on when it is added and its flag is on, or when it was on. -/
theorem addEvent_shows {keys : Keys} {name : String} {event : Fin 512} {d : SubscribeEventsNp} {i : Fin 64}
    {m : UInt8} :
    (addEvent keys name event d).bitmask.get i &&& m ≠ 0
      ↔ (keys.num name ≠ 0 ∧ (divEvent event).1 = i ∧ (divEvent event).2 &&& m ≠ 0) ∨ d.bitmask.get i &&& m ≠ 0 := by
  rw [addEvent]
  split
  next hnum =>
    by_cases hi : (divEvent event).1 = i
    · subst hi
      simp only [setEvent, List.Vector.get_set_same, and_ne_zero_or, and_iff_right hnum, true_and]
    · simp [setEvent, hi, List.Vector.get_set_of_ne hi]
  next hnum => simp [hnum]

theorem holds_events {ks : Keys} {v : String → Int} (h : Given subscribeEventsNpB.keys ks v)
    (hlen : ks.length = 5) (d : SubscribeEventsNp) :
    ∃ d', subscribeEventsNpB.set ks d = some d' ∧ Holds .subscribeEventsNp v d' := by
  have hduration := h "duration" _ (.head _)
  have hstate := h "NOTIFY_PORT_STATE" _ (.tail _ (.head _))
  have hsync := h "NOTIFY_TIME_SYNC" _ (.tail _ (.tail _ (.head _)))
  have hparent := h "NOTIFY_PARENT_DATA_SET" _ (.tail _ (.tail _ (.tail _ (.head _))))
  have hcmlds := h "NOTIFY_CMLDS" _ (.tail _ (.tail _ (.tail _ (.tail _ (.head _)))))
  have hevents : divEvent notifyPortState = (0, 0x1) ∧ divEvent notifyTimeSync = (0, 0x2) ∧
      divEvent notifyParentDataSet = (0, 0x4) ∧ divEvent notifyCmlds = (0, 0x8) := by
    decide
  have hzero : (Octets.ofList 64 []).get 0 = 0 := by decide
  refine ⟨_, by rw [subscribeEventsNpB]; exact if_neg (by omega), uint16_of hduration (by decide), ?_⟩
  simp only [List.forall_mem_cons, addEvent_shows, hevents, hstate.1, hsync.1, hparent.1, hcmlds.1, hzero]
  simp +decide

/-- **A builder stores the values of its keys.** -/
theorem holds_of_given {id : MngId} {b : Builder id} (hb : builder id = some b) (honly : OnlyNumbers b.keys)
    (hid : id ≠ .logSyncInterval) {ks : Keys} {v : String → Int} (h : Given b.keys ks v)
    (hlen : ks.length = b.keys.length) (d : Tlv id) : ∃ d', b.set ks d = some d' ∧ Holds id v d' := by
  cases id <;> simp only [builder, Option.some.injEq, reduceCtorEq] at hb <;> subst hb
  case logSyncInterval => exact absurd rfl hid
  -- builders with a text or a parser of their own
  case userDescription | alternateTimeOffsetName | delayMechanism | extPortConfigPortDataSet | grandmasterSettingsNp |
      powerProfileSettingsNp | externalGrandmasterPropertiesNp => exact absurd honly (by decide)
  case initializeTlv => exact ⟨_, rfl, uint16_of (h _ _ (.head _)) (by decide)⟩
  case priority1 | priority2 | domain | slaveOnly | announceReceiptTimeout | clockAccuracy | primaryDomain |
      unicastNegotiationEnable | pathTraceEnable | acceptableMasterTableEnabled | alternateTimeOffsetEnable |
      externalPortConfigurationEnabled | masterOnly | holdoverUpgradeEnable | synchronizationUncertainNp =>
    exact ⟨_, rfl, uint8_of (h _ _ (.head _)) (by decide)⟩
  case logAnnounceInterval | logMinPdelayReqInterval => exact ⟨_, rfl, int8_of (h _ _ (.head _)) (by decide)⟩
  case versionNumber =>
    obtain ⟨hnum, hmin, hmax⟩ := h "versionNumber" _ (.head _)
    obtain ⟨hminor, hmin', hmax'⟩ := h "minor" _ (.tail _ (.head _))
    refine ⟨_, rfl, ?_⟩
    simp only [Holds, hnum, hminor]
    exact version_nibbles ⟨le_trans (by decide) hmin, hmax⟩ ⟨hmin', hmax'⟩
  case time =>
    exact ⟨_, rfl, uint64_of (h _ _ (.head _)) (by decide), uint32_of (h _ _ (.tail _ (.head _))) (by decide)⟩
  case utcProperties => exact holds_utc h d
  case traceabilityProperties => exact holds_traceability h d
  case timescaleProperties => exact holds_timescale h d
  case subscribeEventsNp => exact holds_events h hlen d
  case alternateMaster =>
    exact ⟨_, rfl, uint8_of (h _ _ (.head _)) (by decide), int8_of (h _ _ (.tail _ (.head _))) (by decide),
      uint8_of (h _ _ (.tail _ (.tail _ (.head _)))) (by decide)⟩
  case alternateTimeOffsetProperties =>
    exact ⟨_, rfl, uint8_of (h _ _ (.head _)) (by decide), int32_of (h _ _ (.tail _ (.head _))) (by decide),
      int32_of (h _ _ (.tail _ (.tail _ (.head _)))) (by decide),
      uint64_of (h _ _ (.tail _ (.tail _ (.tail _ (.head _))))) (by decide)⟩
  case portDataSetNp =>
    exact ⟨_, rfl, uint32_of (h _ _ (.head _)) (by decide), int32_of (h _ _ (.tail _ (.head _))) (by decide)⟩
  case portCorrectionsNp =>
    exact ⟨_, rfl, scaled_of (h _ _ (.head _)) (by decide), scaled_of (h _ _ (.tail _ (.head _))) (by decide),
      scaled_of (h _ _ (.tail _ (.tail _ (.head _)))) (by decide)⟩

/-! ## What holds of every builder -/

theorem distinct_builder {id : MngId} {b : Builder id} (hb : builder id = some b) : b.keys.Distinct := by
  cases id <;> simp only [builder, Option.some.injEq, reduceCtorEq] at hb <;> subst hb <;> rw [Keys.Distinct] <;> decide

/-- A default is in the range of its key. -/
theorem default_allowed {id : MngId} {b : Builder id} (hb : builder id = some b) :
    ∀ k ∈ b.keys, k.2.req = false → k.2.handle = none → k.2.Allows k.2.default := by
  cases id <;> simp only [builder, Option.some.injEq, reduceCtorEq] at hb <;> subst hb <;> decide

/-! ## Lines -/

/-- The line spells the assignment out, each name once, with every key that is required. -/
structure Assigns (keys : Keys) (line : Text) (vals : List (Text × Int)) : Prop where
  spelled : Spelled keys vals (words line)
  once : (vals.map Prod.fst).Nodup
  required : ∀ k ∈ keys, k.2.req = true → k.1 ∈ vals.map Prod.fst

/-- A line that must be refused. -/
inductive Faulty (keys : Keys) (line : Text) : Prop
  | missing {k : Text × Key} : k ∈ keys → k.2.req = true →
    (∀ p ∈ pairs keys.singleKey (words line), ¬ IsFor keys k.1 p) → Faulty keys line
  | unknown {w : Text} : keys.singleKey = false → w ∈ nameWords (words line) →
    (∀ k ∈ keys, sameName false w k.1 = false) → Faulty keys line
  | outside {k : Text × Key} {p : Text × Text} {num : Int} : k ∈ keys → k.2.flag = false →
    p ∈ pairs keys.singleKey (words line) → IsFor keys k.1 p → strtoll k.2.base p.2 = (num, []) →
    ¬ k.2.Allows num → Faulty keys line

theorem Spelled.allowed {keys : Keys} (hdistinct : keys.Distinct) {vals : List (Text × Int)} {ws : List Text}
    (h : Spelled keys vals ws) {name : Text} {key : Key} {num : Int} (hmem : (name, key) ∈ keys)
    (hlookup : vals.lookup name = some num) : key.Allows num := by
  induction h with
  | nil => simp at hlookup
  | @cons name' key' num' vals w v ws hmem' _ _ hnum _ ih =>
    rw [List.lookup_cons] at hlookup
    split at hlookup
    next heq =>
      obtain rfl : name = name' := by simpa using heq
      have hkey := (Keys.at?_of_mem hdistinct.names hmem).symm.trans (Keys.at?_of_mem hdistinct.names hmem')
      simp only [Option.some.injEq] at hlookup hkey
      rwa [hkey, ← hlookup]
    next => exact ih hlookup

/-- What is parsed of a line that spells an assignment out. -/
theorem given_of_assigns {id : MngId} {b : Builder id} (hb : builder id = some b) (honly : OnlyNumbers b.keys)
    {line : Text} (hline : 0 ∉ line) {vals : List (Text × Int)} (h : Assigns b.keys line vals) :
    ∃ ks, parseKeys b.keys (line ++ [0]) = some (some ks) ∧ ks.length = b.keys.length ∧
      Given b.keys ks fun name => b.keys.value vals (txt name) := by
  have hdistinct := distinct_builder hb
  obtain ⟨ks, hparse, hlen, hvalue⟩ := parseKeys_spelled honly hdistinct hline h.spelled h.once h.required
  refine ⟨ks, hparse, hlen, fun name key hmem => ⟨?_, ?_⟩⟩
  · obtain ⟨key', hat, hnum⟩ := hvalue _ _ hmem
    have hget : ks.get name = key' := congrArg (fun key => Option.getD key Key.init) hat
    rw [Keys.num, hget, hnum]
  · dsimp only
    rw [Keys.value]
    cases hlookup : vals.lookup (txt name) with
    | some num => exact h.spelled.allowed hdistinct hmem hlookup
    | none =>
      -- what is left out is not required
      have hreq : key.req = false := by
        by_contra hreq
        obtain ⟨p, hp, hpname⟩ := List.mem_map.1 (h.required _ hmem (by simpa using hreq))
        have := List.lookup_eq_none_iff.1 hlookup p hp
        simp [hpname] at this
      rw [Option.getD_none, Keys.at?_of_mem hdistinct.names hmem]
      exact default_allowed hb _ hmem hreq (honly _ hmem).2

theorem parseKeys_faulty {keys : Keys} (honly : OnlyNumbers keys) (hdistinct : keys.Distinct) {line : Text}
    (hline : 0 ∉ line) (h : Faulty keys line) : parseKeys keys (line ++ [0]) = some none := by
  apply parseKeys_refused honly hline
  intro ks hassign
  cases h with
  | @missing k hmem hreq hnone =>
    obtain ⟨j, hj⟩ := List.getElem?_of_mem hmem
    have hj' : keys.withDefaults[j]? = some k := by
      rw [Keys.withDefaults, List.getElem?_map, hj, Option.map_some, if_pos hreq]
    have hkept := List.mem_of_getElem? (assign_missing hj' hnone keys.kinds_withDefaults hassign)
    rw [Keys.missing, List.any_eq_true]
    exact ⟨k, hkept, hreq⟩
  | unknown hsingle hw hnames =>
    rw [assign_unknown hsingle hnames hw keys.kinds_withDefaults] at hassign
    simp at hassign
  | outside hmem hflag hp hfor hv hnum =>
    rw [assign_outside hdistinct hmem hflag hp hfor hv hnum keys.kinds_withDefaults] at hassign
    simp at hassign

/-- **What a builder of integers and flags makes of a line.** -/
theorem build_line {id : MngId} {b : Builder id} (hb : builder id = some b) (honly : OnlyNumbers b.keys) {line : Text}
    (hline : 0 ∉ line) (d : Tlv id) :
    (∀ vals, id ≠ .logSyncInterval → Assigns b.keys line vals →
      ∃ d', b.build (line ++ [0]) d = some (some d') ∧ Holds id (fun name => b.keys.value vals (txt name)) d') ∧
    (Faulty b.keys line → b.build (line ++ [0]) d = some none) := by
  constructor
  · intro vals hid hassigns
    obtain ⟨ks, hparse, hlen, hgiven⟩ := given_of_assigns hb honly hline hassigns
    obtain ⟨d', hset, hholds⟩ := holds_of_given hb honly hid hgiven hlen d
    refine ⟨d', ?_, hholds⟩
    simp [Builder.build, hparse, hset]
  · intro hfaulty
    simp [Builder.build, parseKeys_faulty honly (distinct_builder hb) hline hfaulty]

/-- An offset and a flag, the names in another case and out of order. -/
theorem build_line_utc :
    ∃ d', utcPropertiesB.build (txt " LEAP61\t1 currentutcoffset  -5" ++ [0]) ⟨0, 0⟩ = some (some d') ∧
      Holds .utcProperties (fun name =>
        utcPropertiesB.keys.value [(txt "leap61", 1), (txt "currentUtcOffset", -5)] (txt name)) d' := by
  have hspelled : Spelled utcPropertiesB.keys [(txt "leap61", 1), (txt "currentUtcOffset", -5)]
      [txt "LEAP61", txt "1", txt "currentutcoffset", txt "-5"] :=
    .cons (.tail _ (.head _)) (by decide) (by decide) (by decide)
      (.cons (.head _) (by decide) (by decide) (by decide) .nil)
  have hwords : words (txt " LEAP61\t1 currentutcoffset  -5")
      = [txt "LEAP61", txt "1", txt "currentutcoffset", txt "-5"] := by
    decide
  exact (build_line (b := utcPropertiesB) rfl (by decide) (by decide) ⟨0, 0⟩).1 _ (by decide)
    ⟨hwords ▸ hspelled, by decide, by decide⟩

/-- A single key takes any name, also where it is required, and a flag with a bit of a field does not keep its
    value. -/
theorem build_unnamed :
    (∀ w ∈ words (txt "foo 5"), sameName false w (txt "duration") = false) ∧
      (synchronizationUncertainNpB.build (txt "foo 5" ++ [0]) ⟨0⟩).map (·.map (·.val)) = some (some 5) ∧
      (utcPropertiesB.build (txt "currentUtcOffset 0 leap61 5" ++ [0]) ⟨0, 0⟩).map (·.map (·.flags))
        = some (some 1) := by
  decide

end PtpMgmt.MsgBuild
