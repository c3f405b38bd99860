import PtpMgmt.Base64
import PtpMgmt.Cfg
import PtpMgmt.Cfg.Lines
import PtpMgmt.Json.FromJson

set_option autoImplicit false

/-! # The security association file (`cfg.cpp`)

Every section of a file with the name `security_association` names an spp and then lists keys. One object
collects the keys of a section; it goes into the table with the next header or with the end of the file,
and the table replaces the former one when the whole file is right. -/

namespace PtpMgmt.Cfg

open Json

/-! ## An association -/

/-- `Spp` as it is while keys are added: its id, and its keys. The source has a map of them; here they stand in
    the order they came in, which nothing reads. -/
structure SppKeys where
  ownId : UInt8
  keys : List (UInt32 × Key)
  ne_zero : ∀ k ∈ keys, k.1 ≠ 0
  nodup : (keys.map Prod.fst).Nodup

namespace SppKeys

/-- `Spp::Spp`. -/
def init : SppKeys := ⟨255, [], nofun, List.nodup_nil⟩

/-- `Spp::set`. -/
def set (_ : SppKeys) (id : UInt8) : SppKeys := ⟨id, [], nofun, List.nodup_nil⟩

/-- `Spp::have`. -/
def haveKey (s : SppKeys) (key : UInt32) : Bool := key > 0 && s.keys.any fun k => k.1 == key

/-- `Spp::addKey`. -/
def addKey (s : SppKeys) (id : UInt32) (type : HmacType) (value : Binary) (digest : Nat) (replace : Bool) :
    Option SppKeys :=
  if hid : id = 0 then none
  else if hvalid : KeyValid type value digest then
    if s.haveKey id && !replace then none
    else
      some {
        ownId := s.ownId
        keys := (s.keys.filter fun k => !(k.1 == id)) ++ [(id, ⟨type, value, digest, hvalid⟩)]
        ne_zero := by
          intro k hk
          obtain hk | hk := List.mem_append.1 hk
          · exact s.ne_zero k (List.mem_of_mem_filter hk)
          · rw [List.mem_singleton.1 hk]
            exact hid
        nodup := by
          rw [List.map_append, List.nodup_append]
          refine ⟨s.nodup.sublist (List.filter_sublist.map _), List.nodup_singleton _, ?_⟩
          intro a ha b hb heq
          obtain ⟨k, hk, rfl⟩ := List.mem_map.1 ha
          have hne := (List.mem_filter.1 hk).2
          rw [heq, List.mem_singleton.1 hb] at hne
          simp at hne }
  else none

/-- `spaceToken`. -/
def isSpaceToken (c : UInt8) : Bool := c == chr ' ' || c == chr '\t' || c == chr '\n' || c == chr '\r'

/-- The tokens that `strtok_r` gives. -/
def words (t : Text) : List Text := (t.splitOnP isSpaceToken).filter fun w => decide (w ≠ [])

/-- `key_cfg`. -/
def keyCfg : List (Text × HmacType × Nat) :=
  [(txt "SHA256-128", .sha256, 16), (txt "SHA256", .sha256, 32), (txt "AES128", .aes128, 16),
    (txt "AES256", .aes256, 16)]

/-- The text behind a prefix. -/
def dropPrefix (pre t : Text) : Option Text := if pre.isPrefixOf t then some (t.drop pre.length) else none

/-- The octets of a key, by its prefix. -/
def keyValue (cur : Text) : Option Binary :=
  match dropPrefix (txt "ASCII:") cur with
  | some t => some t
  | none =>
    match dropPrefix (txt "HEX:") cur with
    | some t => Binary.fromHex t
    | none =>
      match dropPrefix (txt "B64:") cur with
      | some t => if (Binary.fromBase64 [] t false).1 then some (Binary.fromBase64 [] t false).2 else none
      | none => some cur

/-- A key as a line lists it. -/
structure KeyEntry where
  id : UInt32
  type : HmacType
  key : Binary
  digest : Nat

/-- The key that is listed by a line with this key ID and with this behind it. -/
def keyEntry (line val : Text) : Option KeyEntry := do
  let ret := strtoimax 0 line
  if ret.2 ≠ [] ∨ ret.1.toInt < 1 ∨ ret.1.toInt > 4294967295 then none
  else
    let (name, cur, size) ←
      match words val with
      | [name, cur] => some (name, cur, none)
      | [name, size, cur] => some (name, cur, some size)
      | _ => none
    let (_, type, digest) ← keyCfg.find? fun k => k.1 == name
    -- no size is told, or it must be the one of the key
    let keySize ←
      match size with
      | none => some 0
      | some size =>
        let ret := strtoimax 0 size
        if ret.2 ≠ [] ∨ ret.1.toInt < 1 then none else some ret.1.toInt.toNat
    let key ← keyValue cur
    if keySize > 0 ∧ key.length ≠ keySize then none
    else some ⟨UInt32.ofNat ret.1.toInt.toNat, type, key, digest⟩

/-- `Spp::set_val`: whether the line is right, and the object after it. -/
def setVal (s : SppKeys) (buf : Text) (line : Nat) : Option (Bool × SppKeys) := do
  let (buf, cur) ← nextSpaceToken buf line
  let name ← str buf line
  if isDigit (peek name) then
    let val ← str buf cur
    match keyEntry name val with
    | none => return (false, s)
    | some k =>
      match s.addKey k.id k.type k.key k.digest false with
      | none => return (false, s)
      | some s => return (true, s)
  else return (true, s)

/-- The object as it is used later on. -/
def toSpp (s : SppKeys) : Spp where
  keys id := (s.keys.find? fun k => k.1 == id).map Prod.snd
  keys_zero := by
    rw [Option.map_eq_none_iff, List.find?_eq_none]
    intro k hk heq
    exact s.ne_zero k hk (eq_of_beq heq)

theorem haveKey_toSpp (s : SppKeys) (key : UInt32) : s.toSpp.haveKey key = s.haveKey key := by
  unfold Spp.haveKey haveKey toSpp
  rw [Option.isSome_map]
  congr 1
  rw [Bool.eq_iff_iff, List.find?_isSome, List.any_eq_true]

theorem find?_addKey (s : SppKeys) (id : UInt32) (k : Key) :
    (fun id' => (((s.keys.filter fun k => !(k.1 == id)) ++ [(id, k)]).find? fun k => k.1 == id').map Prod.snd)
      = Function.update s.toSpp.keys id (some k) := by
  funext id'
  rw [List.find?_append, List.find?_filter]
  by_cases h : id' = id
  · subst h
    have hnone : s.keys.find? (fun a => decide ((!(a.1 == id')) = true ∧ (a.1 == id') = true)) = none := by
      rw [List.find?_eq_none]
      intro a _
      cases a.1 == id' <;> simp
    rw [hnone, Option.none_or, Function.update_self, List.find?_singleton, if_pos (beq_self_eq_true id')]
    rfl
  · have hsame : (fun a : UInt32 × Key => decide ((!(a.1 == id)) = true ∧ (a.1 == id') = true))
        = fun a => a.1 == id' := by
      funext a
      by_cases ha : a.1 = id'
      · simp [ha, h]
      · simp [ha]
    rw [hsame, Function.update_of_ne h, List.find?_singleton, if_neg (by simpa using Ne.symm h), Option.or_none]
    rfl

/-- **`addKey` does to the object what it does to the keys as they are used.** -/
theorem toSpp_addKey (s : SppKeys) (id : UInt32) (type : HmacType) (value : Binary) (digest : Nat)
    (replace : Bool) :
    (s.addKey id type value digest replace).map toSpp = s.toSpp.addKey id type value digest replace := by
  unfold addKey Spp.addKey
  rw [haveKey_toSpp]
  split_ifs with hid hvalid hhave
  · rfl
  · rfl
  · rw [Option.map_some, Option.some.injEq]
    unfold toSpp
    congr 1
    exact find?_addKey s id _
  · rfl

end SppKeys

/-! ## The file -/

/-- What the next line may be. -/
inductive SaStep
  | other
  | association
  | keys
deriving DecidableEq

/-- `m_spps`. -/
abbrev SaTable := UInt8 → Option SppKeys

/-- The pool as it is used later on. -/
def SaTable.toSaFile (sa : SaTable) : SaFile := ⟨fun n => (sa n).map SppKeys.toSpp⟩

theorem SaTable.haveKey_toSaFile (sa : SaTable) (sppID : UInt8) (key : UInt32) :
    sa.toSaFile.haveKey sppID key = (sa sppID).any fun s => s.haveKey key := by
  unfold SaFile.haveKey SaTable.toSaFile
  dsimp only
  cases sa sppID with
  | none => rfl
  | some s => exact s.haveKey_toSpp key

/-- The variables of `read_sa`. -/
structure SaReader where
  cspp : SppKeys
  spps : SaTable
  step : SaStep

namespace SaReader

def init : SaReader := ⟨SppKeys.init, fun _ => none, .other⟩

/-- An association that is complete goes into the table. It must have keys. -/
def flush (rd : SaReader) : Option SaTable :=
  if rd.step = .keys then
    if rd.cspp.keys.length < 1 then none
    else some (Function.update rd.spps rd.cspp.ownId (some rd.cspp))
  else some rd.spps

/-- `strtol` of the value of an spp. -/
def readSpp (text : Text) : Option UInt8 :=
  let ret := strtoimax 0 text
  if ret.2 ≠ [] ∨ ret.1.toInt < 0 ∨ ret.1.toInt > 255 then none else some (UInt8.ofNat ret.1.toInt.toNat)

/-- What `read_sa` does with a line. -/
def line (rd : SaReader) (buf : Text) : Option (Bool × SaReader) := do
  let cur ← skipSpaces buf 0
  let c ← buf[cur]?
  if c = chr '[' then
    match ← sectionName buf cur with
    | none => return (false, rd)
    | some name =>
      match rd.flush with
      | none => return (false, rd)
      | some spps =>
        return (true, { rd with
          spps := spps, step := if name = txt "security_association" then .association else .other })
  else if c ≠ 0 ∧ c ≠ chr '#' then
    match rd.step with
    | .association =>
      let (buf, val) ← nextSpaceToken buf cur
      let name ← str buf cur
      if name = txt "spp" then
        let fin ← strEnd buf val
        let buf ← stripEndSpaces buf fin
        let text ← str buf val
        match readSpp text with
        | none => return (false, rd)
        | some id => return (true, { rd with step := .keys, cspp := rd.cspp.set id })
      else return (false, rd)
    | .keys =>
      let (ok, cspp) ← rd.cspp.setVal buf cur
      return (ok, { rd with cspp := cspp })
    | .other => return (false, rd)
  else return (true, rd)

end SaReader

/-- `SaFile::read_sa` of a file with these octets, if it can be opened: whether it succeeds, and the table
    after it. -/
def readSa (sa : SaTable) (file : Option Text) : Option (Bool × SaTable) :=
  match file with
  | none => some (false, sa)
  | some file =>
    (readLines SaReader.line SaReader.init (fileLines file)).map fun r =>
      if r.1 then
        match r.2.flush with
        | none => (false, sa)
        | some spps => (true, spps)
      else (false, sa)

/-! ## What a line does -/

namespace SppKeys

/-- The key that a line lists, when it begins with a digit. -/
def listed (t : Text) : Option KeyEntry := keyEntry (key t) (value t)

/-- What is made of a line behind the one of the spp. -/
def take (s : SppKeys) (t : Text) : Bool × SppKeys :=
  if isDigit (peek (key t)) then
    match listed t with
    | none => (false, s)
    | some k =>
      match s.addKey k.id k.type k.key k.digest false with
      | none => (false, s)
      | some s => (true, s)
  else (true, s)

/-- A line without white space behind its first word makes `set_val` leave the buffer. -/
theorem setVal_none (s : SppKeys) (pre : Text) {t : Text} (h : ¬ HasSpace t) :
    s.setVal (pre ++ (t ++ [0])) pre.length = none := by
  unfold setVal
  rw [nextSpaceToken_none h]
  rfl

theorem setVal_eq (s : SppKeys) (pre : Text) {t : Text} (h : HasSpace t) :
    s.setVal (pre ++ (t ++ [0])) pre.length = some (s.take t) := by
  obtain ⟨buf, val, htoken, ⟨hkey, hval, -⟩⟩ := nextSpaceToken_spec h pre
  unfold setVal take listed
  rw [htoken]
  show (str buf pre.length).bind _ = _
  rw [hkey, Option.bind_some]
  split_ifs
  · show (str buf val).bind _ = _
    rw [hval, Option.bind_some]
    cases keyEntry (key t) (value t) with
    | none => rfl
    | some k =>
      dsimp only
      cases s.addKey k.id k.type k.key k.digest false <;> rfl
  · rfl

end SppKeys

namespace SaReader

/-- What is made of the first line of an association. -/
def name (rd : SaReader) (t : Text) : Bool × SaReader :=
  if key t = txt "spp" then
    match readSpp (strip (value t)) with
    | none => (false, rd)
    | some id => (true, { rd with step := .keys, cspp := rd.cspp.set id })
  else (false, rd)

/-- What `read_sa` does with a line, told by what stands in it. -/
def act (rd : SaReader) : LineKind → Option (Bool × SaReader)
  | .blank => some (true, rd)
  | .header t =>
    match header t with
    | none => some (false, rd)
    | some name =>
      match rd.flush with
      | none => some (false, rd)
      | some spps =>
        some (true, { rd with
          spps := spps, step := if name = txt "security_association" then .association else .other })
  | .entry t =>
    match rd.step with
    | .association => if HasSpace t then some (rd.name t) else none
    | .keys =>
      if HasSpace t then some ((rd.cspp.take t).1, { rd with cspp := (rd.cspp.take t).2 }) else none
    | .other => some (false, rd)

theorem line_eq (rd : SaReader) (l : Text) : line rd (l ++ [0]) = act rd (lineKind l) := by
  obtain ⟨pre, t, hbuf, hskip, hc, hkind⟩ := lineKind_spec l
  unfold line
  rw [hskip]
  show ((l ++ [0])[pre.length]?).bind _ = _
  rw [hc, Option.bind_some, hbuf, hkind]
  cases t with
  | nil => rfl
  | cons c r =>
    rw [peek_cons]
    dsimp only
    split_ifs with hopen hblank hentry hentry
    · show (sectionName (pre ++ (c :: (r ++ [0]))) pre.length).bind _ = _
      rw [hopen, sectionName_eq, act]
      cases hname : header r with
      | none => rfl
      | some name =>
        show (match rd.flush with | none => _ | some spps => _) = _
        cases rd.flush <;> rfl
    · exact absurd hblank (by tauto)
    · rw [act]
      cases rd.step with
      | other => rfl
      | association =>
        dsimp only
        by_cases hspace : HasSpace (c :: r)
        · obtain ⟨buf, val, htoken, ⟨hkey, -, fin, buf', hend, hstrip, hval⟩⟩ := nextSpaceToken_spec hspace pre
          rw [htoken, if_pos hspace, name]
          show (str buf pre.length).bind _ = _
          rw [hkey, Option.bind_some]
          split_ifs
          · show (strEnd buf val).bind _ = _
            rw [hend]
            show (stripEndSpaces buf fin).bind _ = _
            rw [hstrip]
            show (str buf' val).bind _ = _
            rw [hval, Option.bind_some]
            cases readSpp (strip (value (c :: r))) <;> rfl
          · rfl
        · rw [nextSpaceToken_none hspace, if_neg hspace]
          rfl
      | keys =>
        dsimp only
        by_cases hspace : HasSpace (c :: r)
        · rw [SppKeys.setVal_eq _ _ hspace, if_pos hspace]
          rfl
        · rw [SppKeys.setVal_none _ _ hspace, if_neg hspace]
          rfl
    · rfl
    · exact absurd hblank (by tauto)

end SaReader

end PtpMgmt.Cfg
