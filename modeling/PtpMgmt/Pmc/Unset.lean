import PtpMgmt.Message.BuildProofs
import PtpMgmt.MngTlvs.Wrap
import PtpMgmt.Pmc.Inside
import PtpMgmt.Pmc.Receive

set_option autoImplicit false

/-! # What a command sends of a new TLV

`MessageBuilder::buildTlv` hands a new TLV to the method of its id, and the message is built of it. A new TLV has
whatever its memory held, but for its texts and tables. Most methods set everything that the codec of the TLV
writes; two leave a field as it is. -/

namespace PtpMgmt

open Json Wire

namespace MsgBuild

/-! ## Sending -/

/-- `BaseMngBuildCallback::iBuild`, with the memory the new TLV is made in. -/
def iBuild (id : MngId) (mem : Tlv id) (save : Text) : Option (Option BaseMngTlv) :=
  match builder id with
  | none => some none
  | some b => (b.build save (newTlv id mem)).map fun tlv => tlv.map (.tlv id)

/-- `MessageBuilder::buildTlv`. -/
def buildTlv (m : Message) (actionField : ActionField) (tlvId : MngVals) (mem : (id : MngId) → Tlv id)
    (save : Text) : Option (Bool × Message) :=
  if !m.isValidId tlvId then some (false, m)
  else if actionField = .get ∨ Message.isEmpty tlvId = true then some (m.setAction actionField tlvId none)
  else if actionField = .set ∨ actionField = .command then
    match tlvId with
    | .mng id =>
      (iBuild id (mem id) save).map fun tlv =>
        match tlv with
        | none => (false, m)
        | some tlv => m.setAction actionField tlvId (some tlv)
    | _ => some (false, m)
  else some (false, m)

/-- What `Message::build` answers and leaves in the buffer, once `buildTlv` has succeeded. -/
def sent (lib : HmacLib) (m : Message) (actionField : ActionField) (tlvId : MngVals) (mem : (id : MngId) → Tlv id)
    (save : Text) (buf : Nat → UInt8) (bufSize : Nat) (sequence : UInt16) :
    Option (Option (MngParseError × (Nat → UInt8))) :=
  (buildTlv m actionField tlvId mem save).map fun (ok, m) =>
    if ok then
      let (err, _, mp) := m.build lib buf bufSize sequence
      some (err, mp.mem)
    else none

/-- The line is one that the method of the id takes. -/
def Accepts (id : MngId) (save : Text) : Prop :=
  ∃ b keys, builder id = some b ∧ parseKeys b.keys save = some (some keys) ∧ ∃ d d', b.set keys d = some d'

/-- What is promised of a line: what is sent does not depend on the memory that the TLV was made in. -/
def NothingUnset (id : MngId) (save : Text) : Prop :=
  ∀ (lib : HmacLib) (m : Message) (actionField : ActionField) (mem mem' : (id : MngId) → Tlv id)
    (buf : Nat → UInt8) (bufSize : Nat) (sequence : UInt16), actionField = .set ∨ actionField = .command →
    sent lib m actionField (.mng id) mem save buf bufSize sequence
      = sent lib m actionField (.mng id) mem' save buf bufSize sequence

/-! ## The methods that set everything -/

/-- The codec of what a method makes of a new TLV is the same for every memory. -/
def SetsAll {id : MngId} (b : Builder id) (keys : Keys) : Prop :=
  ∀ mem mem', (b.set keys (newTlv id mem)).map (tlvF id) = (b.set keys (newTlv id mem')).map (tlvF id)

theorem addEvent_bitmask {d d' : SubscribeEventsNp} (h : d.bitmask = d'.bitmask) (keys : Keys) (name : String)
    (event : Fin 512) : (addEvent keys name event d).bitmask = (addEvent keys name event d').bitmask := by
  simp only [addEvent, setEvent, h]
  split
  · rfl
  · exact h

theorem setsAll_subscribeEvents (keys : Keys) : SetsAll subscribeEventsNpB keys := by
  intro mem mem'
  have hmask : ∀ d d' : SubscribeEventsNp, d.bitmask = d'.bitmask →
      (addEvent keys "NOTIFY_CMLDS" notifyCmlds <| addEvent keys "NOTIFY_PARENT_DATA_SET" notifyParentDataSet <|
        addEvent keys "NOTIFY_TIME_SYNC" notifyTimeSync <| addEvent keys "NOTIFY_PORT_STATE" notifyPortState d).bitmask
      = (addEvent keys "NOTIFY_CMLDS" notifyCmlds <| addEvent keys "NOTIFY_PARENT_DATA_SET" notifyParentDataSet <|
        addEvent keys "NOTIFY_TIME_SYNC" notifyTimeSync <| addEvent keys "NOTIFY_PORT_STATE" notifyPortState d').bitmask :=
    fun d d' h => addEvent_bitmask (addEvent_bitmask (addEvent_bitmask (addEvent_bitmask h ..) ..) ..) ..
  have hall := hmask { newTlv .subscribeEventsNp mem with bitmask := .ofList 64 [] }
    { newTlv .subscribeEventsNp mem' with bitmask := .ofList 64 [] } rfl
  simp only [subscribeEventsNpB, hall]

/-- An identity of eight octets takes all the places of the one it is copied to. -/
theorem copyTo_eq {b : Binary} (h : b.length = 8) (id id' : ClockIdentity) : copyTo b id = copyTo b id' := by
  have hdrop : ∀ id : ClockIdentity, id.v.toList.drop b.length = [] := fun id =>
    List.drop_eq_nil_of_le (by rw [h, id.v.toList_length])
  rw [copyTo, copyTo, hdrop, hdrop]

/-- The identity of an external grandmaster is one. -/
def HasIdentity (id : MngId) (keys : Keys) : Prop :=
  id = .externalGrandmasterPropertiesNp →
    ∃ v, Binary.fromHex (keys.get "gmIdentity").strVal = some v ∧ v.length = 8

theorem setsAll {id : MngId} {b : Builder id} (hb : builder id = some b) (hscale : id ≠ .timescaleProperties)
    (henable : id ≠ .alternateTimeOffsetEnable) {keys : Keys} (hgm : HasIdentity id keys) : SetsAll b keys := by
  cases id <;> simp only [builder, Option.some.injEq, reduceCtorEq] at hb <;> subst hb
  case timescaleProperties => exact absurd rfl hscale
  case alternateTimeOffsetEnable => exact absurd rfl henable
  case subscribeEventsNp => exact setsAll_subscribeEvents keys
  case externalGrandmasterPropertiesNp =>
    intro mem mem'
    obtain ⟨v, hv, hlen⟩ := hgm rfl
    simp only [externalGrandmasterPropertiesNpB, hv, copyTo_eq hlen (newTlv _ mem).gmIdentity
      (newTlv _ mem').gmIdentity]
  -- every field of the others has a value of its own, or is not written
  all_goals exact fun _ _ => rfl

/-! ## The identity -/

/-- What an identity that was taken is. -/
def Vetted (key : Key) : Prop :=
  key.handle = some .isClockIdentity → key.req = false → ∃ v, Binary.fromHex key.strVal = some v ∧ v.length = 8

theorem vetted_take {key key' : Key} {tkn behind : Text} (h : key.take tkn behind = some (some key')) :
    Vetted key' := by
  intro hhandle _
  obtain ⟨-, hsame⟩ := take_kind h
  have hkey : key.handle = some .isClockIdentity := hsame.symm.trans hhandle
  rw [Key.take, hkey] at h
  dsimp only at h
  split at h
  next => simp at h
  next =>
    simp only [Handle.run, MsgBuild.isClockIdentity, Option.map_some, Option.some.injEq] at h
    obtain ⟨num, hnum, rfl⟩ := Option.map_eq_some_iff.1 h
    split at hnum
    next v hv =>
      split at hnum
      next hlen => exact ⟨v, hv, hlen⟩
      next => simp at hnum
    next => simp at hnum

/-- The names and the parsers of keys do not change, and the identities are vetted. -/
theorem parseKeys_vetted {keys keys' : Keys} {save : Text} (h : parseKeys keys save = some (some keys'))
    (hkeys : ∀ k ∈ keys.withDefaults, Vetted k.2) :
    keys'.map (fun k => (k.1, k.2.handle)) = keys.map (fun k => (k.1, k.2.handle)) ∧
      (∀ k ∈ keys', Vetted k.2) ∧ ∀ k ∈ keys', k.2.req = false := by
  have hdefaults : keys.withDefaults.map (fun k => (k.1, k.2.handle)) = keys.map (fun k => (k.1, k.2.handle)) := by
    rw [Keys.withDefaults, List.map_map]
    apply List.map_congr_left
    intro k _
    simp only [Function.comp_apply]
    split <;> rfl
  obtain ⟨⟨hnames, hvetted⟩, hmissing⟩ := loop_induct (P := fun ks =>
    ks.map (fun k => (k.1, k.2.handle)) = keys.map (fun k => (k.1, k.2.handle)) ∧ ∀ k ∈ ks, Vetted k.2)
    (fun ks i name key key' tkn behind hp hi htake => by
      refine ⟨?_, fun k hk => ?_⟩
      · have hsame : ((name, key').1, (name, key').2.handle) = (name, key.handle) := by
          rw [(take_kind htake).2]
        have hold : (ks.map fun k => (k.1, k.2.handle))[i]? = some (name, key.handle) := by
          rw [List.getElem?_map, hi, Option.map_some]
        obtain ⟨hlt, hget⟩ := List.getElem?_eq_some_iff.1 hold
        rw [List.map_set, hsame, ← hp.1, ← hget, List.set_getElem_self]
      · rcases List.mem_or_eq_of_mem_set hk with hmem | rfl
        · exact hp.2 k hmem
        · exact vetted_take htake)
    h ⟨hdefaults, hkeys⟩
  refine ⟨hnames, hvetted, fun k hk => ?_⟩
  rw [Keys.missing, List.any_eq_false] at hmissing
  simpa using hmissing k hk

theorem hasIdentity {id : MngId} {b : Builder id} (hb : builder id = some b) {keys : Keys} {save : Text}
    (h : parseKeys b.keys save = some (some keys)) : HasIdentity id keys := by
  rintro rfl
  simp only [builder, Option.some.injEq] at hb
  subst hb
  have hkeys : ∀ k ∈ externalGrandmasterPropertiesNpB.keys.withDefaults, Vetted k.2 := by
    intro k hk _ hreq
    simp only [externalGrandmasterPropertiesNpB, Keys.withDefaults, List.map_cons, List.map_nil, List.mem_cons,
      List.not_mem_nil, or_false] at hk
    rcases hk with rfl | rfl <;> exact absurd hreq (by decide)
  obtain ⟨hnames, hvetted, hreq⟩ := parseKeys_vetted h hkeys
  rcases keys with - | ⟨⟨name, key⟩, rest⟩
  · simp [externalGrandmasterPropertiesNpB] at hnames
  · simp only [externalGrandmasterPropertiesNpB, List.map_cons, List.cons.injEq, Prod.mk.injEq] at hnames
    obtain ⟨⟨hname, hhandle⟩, -⟩ := hnames
    have hget : Keys.get ((name, key) :: rest) "gmIdentity" = key := by
      rw [Keys.get, List.find?_cons_of_pos (by rw [hname]; exact beq_self_eq_true _)]
      rfl
    rw [hget]
    exact hvetted _ List.mem_cons_self hhandle (hreq _ List.mem_cons_self)

/-! ## The message -/

theorem callTlvData_congr {id : MngId} {d d' : Tlv id} (h : tlvF id d = tlvF id d') (mp : MsgProc) :
    (callTlvData id (.obj (.tlv id d)) mp).1 = (callTlvData id (.obj (.tlv id d')) mp).1 ∧
      (callTlvData id (.obj (.tlv id d)) mp).2.2 = (callTlvData id (.obj (.tlv id d')) mp).2.2 := by
  simp only [callTlvData, TlvPtr.cast?, BaseMngTlv.cast?_tlv, h]
  split_ifs
  · exact ⟨rfl, rfl⟩
  · rcases (tlvF id d').run mp.fresh with ⟨- | a, mp'⟩ <;> exact ⟨rfl, rfl⟩
  · rcases (tlvF id default).run mp.fresh with ⟨- | a, mp'⟩ <;> exact ⟨rfl, rfl⟩

/-- The end of a build does not look at the TLV. -/
theorem buildFinish_congr (lib : HmacLib) (m : Message) (dataSend : Option BaseMngTlv) (mp : MsgProc) :
    ({ m with dataSend }.buildFinish lib mp).1 = (m.buildFinish lib mp).1 ∧
      ({ m with dataSend }.buildFinish lib mp).2.2 = (m.buildFinish lib mp).2.2 := by
  simp only [Message.buildFinish]
  split
  · exact ⟨rfl, rfl⟩
  · cases m.auth with
    | none => exact ⟨rfl, rfl⟩
    | some a =>
      dsimp only
      split
      · simp only [Message.buildAuth]
        split
        · exact ⟨rfl, rfl⟩
        · split <;> exact ⟨rfl, rfl⟩
      · exact ⟨rfl, rfl⟩

theorem buildData_congr (m : Message) {id : MngId} {d d' : Tlv id} (h : tlvF id d = tlvF id d')
    (hid : m.tlvId = id) (mp : MsgProc) :
    { m with dataSend := some (.tlv id d) }.buildData mp = { m with dataSend := some (.tlv id d') }.buildData mp := by
  subst hid
  by_cases hget : m.sendAction = .get
  · simp only [Message.buildData, hget, ne_eq, not_true_eq_false, false_and, if_false]
  · obtain ⟨hcode, hwalk⟩ := callTlvData_congr h mp
    simp only [Message.buildData, TlvPtr.ofOption, Option.isSome_some, ne_eq, hget, not_false_eq_true, and_self,
      if_true]
    rcases hd : callTlvData m.tlvId (.obj (.tlv m.tlvId d)) mp with ⟨code, tlv, mp'⟩
    rcases hd' : callTlvData m.tlvId (.obj (.tlv m.tlvId d')) mp with ⟨code', tlv', mp''⟩
    rw [hd, hd'] at hcode hwalk
    simp only at hcode hwalk
    subst hcode hwalk
    cases code <;> rfl

/-- The steps of a build one by one. -/
theorem build_eq_of_steps (lib : HmacLib) {m m' : Message} {buf : Nat → UInt8} {bufSize : Nat} {sequence : UInt16}
    (hstart : m.buildStart buf bufSize sequence = m'.buildStart buf bufSize sequence)
    (hdata : ∀ mp, m.buildData mp = m'.buildData mp)
    (hfinish : ∀ mp, (m.buildFinish lib mp).1 = (m'.buildFinish lib mp).1 ∧
      (m.buildFinish lib mp).2.2 = (m'.buildFinish lib mp).2.2) :
    (m.build lib buf bufSize sequence).1 = (m'.build lib buf bufSize sequence).1 ∧
      (m.build lib buf bufSize sequence).2.2 = (m'.build lib buf bufSize sequence).2.2 := by
  simp only [Message.build, hstart, hdata]
  split
  · exact ⟨rfl, rfl⟩
  · rcases m'.buildData (m'.buildStart buf bufSize sequence) with ⟨code, mp⟩
    cases code with
    | ok => exact hfinish mp
    | _ => exact ⟨rfl, rfl⟩

/-- Two TLVs that the codec takes the same way give the same message. -/
theorem build_congr (lib : HmacLib) (m : Message) {id : MngId} {d d' : Tlv id} (h : tlvF id d = tlvF id d')
    (hid : m.tlvId = id) (buf : Nat → UInt8) (bufSize : Nat) (sequence : UInt16) :
    ({ m with dataSend := some (.tlv id d) }.build lib buf bufSize sequence).1
        = ({ m with dataSend := some (.tlv id d') }.build lib buf bufSize sequence).1 ∧
      ({ m with dataSend := some (.tlv id d) }.build lib buf bufSize sequence).2.2
        = ({ m with dataSend := some (.tlv id d') }.build lib buf bufSize sequence).2.2 := by
  refine build_eq_of_steps lib rfl (fun mp => buildData_congr m h hid mp) fun mp => ?_
  obtain ⟨hcode, hwalk⟩ := buildFinish_congr lib m (some (.tlv id d)) mp
  obtain ⟨hcode', hwalk'⟩ := buildFinish_congr lib m (some (.tlv id d')) mp
  exact ⟨hcode.trans hcode'.symm, hwalk.trans hwalk'.symm⟩

/-! ## What is sent -/

/-- Whether `setAction` takes a TLV of the id does not depend on its fields. -/
theorem setAction_tlv (m : Message) (actionField : ActionField) (id : MngId) :
    (∀ d : Tlv id, m.setAction actionField (.mng id) (some (.tlv id d)) = (false, m)) ∨
      (∀ d : Tlv id, (m.setAction actionField (.mng id) (some (.tlv id d))
        = (true, { m with dataSend := some (.tlv id d), sendAction := actionField, tlvId := id }))) ∨
      ∀ d : Tlv id, m.setAction actionField (.mng id) (some (.tlv id d))
        = (true, { m with dataSend := none, sendAction := actionField, tlvId := id }) := by
  simp only [Message.setAction, Message.verifyTlv, BaseMngTlv.cast?_tlv, Option.isSome_some, Bool.and_true]
  split_ifs
  · exact .inl fun _ => rfl
  · exact .inl fun _ => rfl
  · exact .inr (.inl fun _ => rfl)
  · exact .inr (.inr fun _ => rfl)

theorem nothingUnset_of_setsAll {id : MngId} {b : Builder id} (hb : builder id = some b) {keys : Keys} {save : Text}
    (hkeys : parseKeys b.keys save = some (some keys)) (h : SetsAll b keys) : NothingUnset id save := by
  intro lib m actionField mem mem' buf bufSize sequence haction
  have hbuild : ∀ mem, iBuild id mem save = some ((b.set keys (newTlv id mem)).map (.tlv id)) := by
    intro mem
    rw [iBuild, hb]
    simp only [Builder.build, hkeys, Option.map_some, Option.bind_some]
  simp only [sent, buildTlv, hbuild, if_pos haction]
  split_ifs
  · rfl
  · rfl
  · have hset := h (mem id) (mem' id)
    rcases hd : b.set keys (newTlv id (mem id)) with - | d <;> rcases hd' : b.set keys (newTlv id (mem' id)) with - | d'
    · rfl
    · simp [hd, hd'] at hset
    · simp [hd, hd'] at hset
    · simp only [hd, hd', Option.map_some, Option.some.injEq] at hset
      simp only [Option.map_some, Option.some.injEq]
      rcases setAction_tlv m actionField id with hno | hyes | hnone
      · simp [hno]
      · obtain ⟨hcode, hwalk⟩ := build_congr lib { m with sendAction := actionField, tlvId := id } hset rfl buf bufSize
          sequence
        simp only [hyes, if_true, Option.some.injEq, Prod.mk.injEq]
        exact ⟨hcode, congrArg Wire.Cursor.mem hwalk⟩
      · simp [hnone]

/-! ## The methods that leave a field

A message of its own shows what a TLV of two octets holds. -/

/-- The message that a program with the default parameters sends a TLV with. -/
def plainMessage (id : MngId) (d : Tlv id) : Message :=
  { Message.init MsgParams.init with dataSend := some (.tlv id d), sendAction := .set, tlvId := id }

/-- What is built of a TLV of two octets shows the octets. -/
theorem build_plainMessage {id : MngId} {d a : Tlv id} {w : List UInt8} (hlen : w.length = 2)
    (hcodec : (mngAllVals id).func ≠ .na) (hw : Builds (tlvF id d) a w) :
    ∃ mem, ((plainMessage id d).build zeroLib (fun _ => 0) 100 0).1 = .ok ∧
      ((plainMessage id d).build zeroLib (fun _ => 0) 100 0).2.2.mem = mem ∧
      slice mem mngMsgBaseSize 2 = w := by
  have hocts : Message.DataOctets (plainMessage id d) w := by
    have := Message.dataOctets_of_builds (m := plainMessage id d) rfl (by simp [plainMessage]) hcodec hw
    rwa [Message.padOctets, hlen, List.replicate_zero, List.append_nil] at this
  have hauth : (plainMessage id d).addAuth = 0 := Message.addAuth_of_plain (.inl rfl)
  obtain ⟨-, hfits⟩ := Message.build_cases zeroLib (fun _ => 0) 100 0 hocts (by rw [hlen])
  rcases hfits (by rw [hlen, hauth, mngMsgBaseSize]; decide) with ⟨mp, hbuild, hbuilt⟩ | ⟨-, hlib⟩
  · have hslice := hbuilt.dataField
    rw [hlen] at hslice
    exact ⟨mp.mem, by rw [hbuild], by rw [hbuild], hslice⟩
  · exact absurd (fun _ _ _ => rfl) hlib

/-- Where nothing unset is sent, the codec sees nothing of the memory. -/
theorem norm_eq_of_nothingUnset {id : MngId} {save : Text} (h : NothingUnset id save) {mem mem' d d' : Tlv id}
    (hd : iBuild id mem save = some (some (.tlv id d))) (hd' : iBuild id mem' save = some (some (.tlv id d')))
    (hvalid : (Message.init MsgParams.init).isValidId (.mng id) = true) (hfull : Message.isEmpty (.mng id) = false)
    (hset : ∀ d : Tlv id,
      (Message.init MsgParams.init).setAction .set (.mng id) (some (.tlv id d)) = (true, plainMessage id d))
    (hcodec : (mngAllVals id).func ≠ .na)
    (htrip : ∀ d : Tlv id, RoundTripsIn (tlvF id d) (tlvF id default) (tlvNorm id d) 2) :
    tlvNorm id d = tlvNorm id d' := by
  have hsent : ∀ mem d, iBuild id (mem id) save = some (some (.tlv id d)) →
      sent zeroLib (Message.init MsgParams.init) .set (.mng id) mem save (fun _ => 0) 100 0
        = some (some (((plainMessage id d).build zeroLib (fun _ => 0) 100 0).1,
          ((plainMessage id d).build zeroLib (fun _ => 0) 100 0).2.2.mem)) := by
    intro mem d hd
    simp [sent, buildTlv, hvalid, hfull, hd, hset]
  let memory (mem : Tlv id) : (i : MngId) → Tlv i := Function.update (fun _ => default) id mem
  have hmemory : ∀ mem, memory mem id = mem := fun mem => Function.update_self id mem _
  have heq := h zeroLib (Message.init MsgParams.init) .set (memory mem) (memory mem') (fun _ => 0) 100 0 (.inl rfl)
  rw [hsent _ d (by rw [hmemory, hd]), hsent _ d' (by rw [hmemory, hd'])] at heq
  simp only [Option.some.injEq, Prod.mk.injEq] at heq
  obtain ⟨w, hlen, hw⟩ := (htrip d).octets
  obtain ⟨w', hlen', hw'⟩ := (htrip d').octets
  obtain ⟨_, -, rfl, hslice⟩ := build_plainMessage hlen hcodec hw.builds
  obtain ⟨_, -, rfl, hslice'⟩ := build_plainMessage hlen' hcodec hw'.builds
  -- one memory, so one dataField, and of that one value is read
  rw [heq.2, hslice'] at hslice
  subst hslice
  exact Parses.unique .tooSmall hw.parses hw'.parses

/-- The source of time is whatever was in the memory. -/
theorem not_nothingUnset_timescale {save : Text} (h : Accepts .timescaleProperties save) :
    ¬ NothingUnset .timescaleProperties save := by
  intro hunset
  obtain ⟨b, keys, hb, hkeys, -⟩ := h
  obtain rfl : timescalePropertiesB = b := by simpa [builder] using hb
  have hbuild : ∀ mem : TimescaleProperties, iBuild .timescaleProperties mem save
      = some (some (.tlv .timescaleProperties { mem with flags := addFlag keys "ptpTimescale" fPtp 0 })) := by
    intro mem
    simp only [iBuild, builder, Builder.build, hkeys]
    rfl
  have heq := norm_eq_of_nothingUnset hunset (hbuild ⟨0, 0⟩) (hbuild ⟨0, 1⟩) rfl rfl (fun _ => rfl) (by decide)
    fun d => inferInstanceAs (RoundTripsIn (timescalePropertiesF d) (timescalePropertiesF default) _ (1 + 1))
  simp [tlvNorm] at heq

/-- The key of the offset is whatever was in the memory. -/
theorem not_nothingUnset_offsetEnable {save : Text} (h : Accepts .alternateTimeOffsetEnable save) :
    ¬ NothingUnset .alternateTimeOffsetEnable save := by
  intro hunset
  obtain ⟨b, keys, hb, hkeys, -⟩ := h
  obtain rfl : alternateTimeOffsetEnableB = b := by simpa [builder] using hb
  have hbuild : ∀ mem : AlternateTimeOffsetEnable, iBuild .alternateTimeOffsetEnable mem save
      = some (some (.tlv .alternateTimeOffsetEnable
        { mem with flags := .ofInt (keys.num "alternateTimescaleOffsetsDS") })) := by
    intro mem
    simp only [iBuild, builder, Builder.build, hkeys]
    rfl
  have heq := norm_eq_of_nothingUnset hunset (hbuild ⟨0, 0⟩) (hbuild ⟨1, 0⟩) rfl rfl (fun _ => rfl) (by decide)
    fun d => inferInstanceAs
      (RoundTripsIn (alternateTimeOffsetEnableF d) (alternateTimeOffsetEnableF default) _ (1 + 1))
  simp [tlvNorm] at heq

/-- **Nothing unset is sent, but for the two TLVs with a field that no key stands for.** -/
theorem nothingUnset_iff {id : MngId} {save : Text} (h : Accepts id save) :
    NothingUnset id save ↔ id ≠ .timescaleProperties ∧ id ≠ .alternateTimeOffsetEnable := by
  constructor
  · intro hunset
    constructor
    · rintro rfl
      exact not_nothingUnset_timescale h hunset
    · rintro rfl
      exact not_nothingUnset_offsetEnable h hunset
  · rintro ⟨hscale, henable⟩
    obtain ⟨b, keys, hb, hkeys, -⟩ := h
    exact nothingUnset_of_setsAll hb hkeys (setsAll hb hscale henable (hasIdentity hb hkeys))

/-- A priority is all that is sent of a priority. -/
theorem nothingUnset_priority1 : NothingUnset .priority1 (txt "priority1 5" ++ [0])
    ↔ MngId.priority1 ≠ .timescaleProperties ∧ MngId.priority1 ≠ .alternateTimeOffsetEnable := by
  let key : Key := ⟨false, 0, 128, 255, 0, false, false, 5, txt "5", none⟩
  have hkeys : parseKeys priority1B.keys (txt "priority1 5" ++ [0]) = some (some [(txt "priority1", key)]) := by
    decide
  exact nothingUnset_iff ⟨priority1B, _, rfl, hkeys, ⟨0⟩, _, rfl⟩

/-- `ptpTimescale 1` is taken, and the source of time that is sent with it is nobody's. -/
theorem not_nothingUnset_ptpTimescale : Accepts .timescaleProperties (txt "ptpTimescale 1" ++ [0]) ∧
    ¬ NothingUnset .timescaleProperties (txt "ptpTimescale 1" ++ [0]) := by
  let key : Key := ⟨false, 0, 0, 255, 0, false, true, 1, txt "1", none⟩
  have hkeys : parseKeys timescalePropertiesB.keys (txt "ptpTimescale 1" ++ [0])
      = some (some [(txt "ptpTimescale", key)]) := by
    decide
  have haccepts : Accepts .timescaleProperties (txt "ptpTimescale 1" ++ [0]) :=
    ⟨timescalePropertiesB, _, rfl, hkeys, ⟨0, 0⟩, _, rfl⟩
  exact ⟨haccepts, not_nothingUnset_timescale haccepts⟩

end MsgBuild

end PtpMgmt
