import PtpMgmt.Cfg.Inside

set_option autoImplicit false

/-! # The associations of a file

A file is cut into sections, and a section is an association by itself: its first line names an spp, the
others list keys. The table that `read_sa` makes has the last association of each spp. An spp without a
value reads as 0, as `strtol` is not asked whether it has found a digit. -/

namespace PtpMgmt.Cfg

open Json

/-! ## What stands in a file -/

/-- The lines in front of the first header that are not blank, and the sections, each with its name and its
    lines. -/
def splitSections : List Text → List Text × List (Text × List Text)
  | [] => ([], [])
  | l :: ls =>
    match lineKind l with
    | .blank => splitSections ls
    | .header t => ([], ((header t).getD [], (splitSections ls).1) :: (splitSections ls).2)
    | .entry t => (t :: (splitSections ls).1, (splitSections ls).2)

/-- An association: its spp, whether the file gives a value for it, and the keys. -/
structure Association where
  spp : UInt8
  valued : Bool
  keys : List SppKeys.KeyEntry

/-- The key that a line lists. -/
def keyOf (t : Text) : Option SppKeys.KeyEntry := if isDigit (peek (key t)) then SppKeys.listed t else none

/-- The association of lines, the first of which names the spp. -/
def associationOf : List Text → Option Association
  | [] => none
  | t :: ts =>
    if key t = txt "spp" then
      (SaReader.readSpp (strip (value t))).map fun id =>
        ⟨id, decide (strip (value t) ≠ []), ts.filterMap keyOf⟩
    else none

def sectionAssociation (s : Text × List Text) : Option Association :=
  if s.1 = txt "security_association" then associationOf s.2 else none

def associations (lines : List Text) : List Association := (splitSections lines).2.filterMap sectionAssociation

/-- The last association of an spp. -/
def lastOf (as : List Association) (n : UInt8) : Option Association :=
  (as.filter fun a => decide (a.spp = n)).getLast?

/-! ## What the table has -/

namespace SppKeys

/-- The keys as a file lists them. -/
def entries (s : SppKeys) : List KeyEntry := s.keys.map fun k => ⟨k.1, k.2.type, k.2.key, k.2.macSize⟩

/-- An association that is as it should be. -/
structure Right (s : SppKeys) (n : UInt8) : Prop where
  ownId : s.ownId = n
  keys : s.keys ≠ []
  ids : ∀ k ∈ s.keys, 1 ≤ k.1.toNat ∧ k.1.toNat ≤ 2 ^ 32 - 1
  nodup : (s.keys.map Prod.fst).Nodup
  nonempty : ∀ k ∈ s.keys, k.2.key ≠ []
  aes128 : ∀ k ∈ s.keys, k.2.type = .aes128 → k.2.key.length = 16
  aes256 : ∀ k ∈ s.keys, k.2.type = .aes256 → k.2.key.length = 32
  digest : ∀ k ∈ s.keys, k.2.macSize % 2 = 0 ∧ 2 ≤ k.2.macSize ∧ k.2.macSize ≤ (keyLimit k.2.type).maxDigest

theorem right_of_keys {s : SppKeys} (h : s.keys ≠ []) : s.Right s.ownId where
  ownId := rfl
  keys := h
  ids := by
    intro k hk
    have hlt := k.1.toNat_lt
    have hne : k.1.toNat ≠ 0 := fun hzero => s.ne_zero k hk (UInt32.toNat_inj.1 hzero)
    omega
  nodup := s.nodup
  nonempty k _ := k.2.valid.value_ne_nil
  aes128 k _ htype := by
    have hsize := k.2.valid.keySize
    rw [htype] at hsize
    exact (hsize (by decide)).symm
  aes256 k _ htype := by
    have hsize := k.2.valid.keySize
    rw [htype] at hsize
    exact (hsize (by decide)).symm
  digest k _ := ⟨k.2.valid.even, k.2.valid.two_le, k.2.valid.le_max⟩

theorem addKey_entries {s s' : SppKeys} {id : UInt32} {type : HmacType} {value : Binary} {digest : Nat}
    (h : s.addKey id type value digest false = some s') :
    s'.ownId = s.ownId ∧ s'.entries = s.entries ++ [⟨id, type, value, digest⟩] := by
  unfold addKey at h
  split at h
  · cases h
  next hid =>
    split at h
    · split at h
      · cases h
      next hhave =>
        cases h
        refine ⟨rfl, ?_⟩
        -- no key is replaced
        have hfilter : (s.keys.filter fun k => !(k.1 == id)) = s.keys := by
          rw [List.filter_eq_self]
          intro k hk
          rw [Bool.not_eq_true', Bool.eq_false_iff]
          intro heq
          apply hhave
          rw [Bool.not_false, Bool.and_true, haveKey, Bool.and_eq_true, decide_eq_true_eq, List.any_eq_true]
          refine ⟨?_, k, hk, heq⟩
          exact UInt32.pos_iff_ne_zero.2 hid
        show (List.filter (fun k : UInt32 × Key => !(k.1 == id)) s.keys ++ [(id, _)]).map _ = _
        rw [hfilter, List.map_append]
        rfl
    · cases h

/-- A line behind the one of the spp adds the key that it lists. -/
theorem take_entries {s : SppKeys} {t : Text} (h : (s.take t).1 = true) :
    (s.take t).2.ownId = s.ownId ∧ (s.take t).2.entries = s.entries ++ (keyOf t).toList := by
  unfold take at h ⊢
  unfold keyOf
  split_ifs at h ⊢ with hdigit
  · cases hlisted : listed t with
    | none =>
      rw [hlisted] at h
      cases h
    | some k =>
      rw [hlisted] at h
      dsimp only at h ⊢
      cases hadd : s.addKey k.id k.type k.key k.digest false with
      | none =>
        rw [hadd] at h
        cases h
      | some s' => exact addKey_entries hadd
  · exact ⟨rfl, (List.append_nil _).symm⟩

end SppKeys

/-- An association of the table is one of the file: it has the same keys, in whatever order, as the source
    keeps them in a map. -/
def Matches (s : SppKeys) (a : Association) : Prop := s.ownId = a.spp ∧ s.entries.Perm a.keys ∧ s.keys ≠ []

/-- The associations of a file are put into a table. -/
def Applied (spps : SaTable) (as : List Association) (spps' : SaTable) : Prop :=
  ∀ n, match lastOf as n with
    | none => spps' n = spps n
    | some a => ∃ s, spps' n = some s ∧ Matches s a

theorem lastOf_append (as as' : List Association) (n : UInt8) :
    lastOf (as ++ as') n = (lastOf as' n).or (lastOf as n) := by
  unfold lastOf
  rw [List.filter_append, List.getLast?_append]

theorem lastOf_singleton (a : Association) (n : UInt8) : lastOf [a] n = if a.spp = n then some a else none := by
  unfold lastOf
  by_cases h : a.spp = n
  · rw [List.filter_cons_of_pos (by simpa using h), if_pos h]
    rfl
  · rw [List.filter_cons_of_neg (by simpa using h), if_neg h]
    rfl

theorem Applied.trans {spps spps' spps'' : SaTable} {as as' : List Association} (h : Applied spps as spps')
    (h' : Applied spps' as' spps'') : Applied spps (as ++ as') spps'' := by
  intro n
  have hn := h n
  have hn' := h' n
  rw [lastOf_append]
  cases hlast : lastOf as' n with
  | some a =>
    rw [hlast] at hn'
    exact hn'
  | none =>
    rw [hlast] at hn'
    rw [Option.none_or]
    dsimp only at hn'
    rwa [hn']

theorem applied_nil (spps : SaTable) : Applied spps [] spps := fun _ => rfl

/-! ## The run -/

/-- What a reader has begun, with the lines of its section that are still to come. -/
def pending (rd : SaReader) (valued : Bool) (es : List Text) : List Association :=
  match rd.step with
  | .other => []
  | .association => (associationOf es).toList
  | .keys => [⟨rd.cspp.ownId, valued, rd.cspp.entries ++ es.filterMap keyOf⟩]

/-- What goes into the table at the end of a section. -/
theorem applied_flush {rd : SaReader} {spps : SaTable} (h : rd.flush = some spps) (valued : Bool) :
    Applied rd.spps (pending rd valued []) spps := by
  unfold SaReader.flush at h
  unfold pending
  cases hstep : rd.step with
  | other =>
    rw [hstep] at h
    cases h
    exact applied_nil _
  | association =>
    rw [hstep] at h
    cases h
    exact applied_nil _
  | keys =>
    rw [hstep, if_pos rfl] at h
    split at h
    · cases h
    next hkeys =>
      cases h
      intro n
      dsimp only
      rw [lastOf_singleton]
      dsimp only
      by_cases hn : rd.cspp.ownId = n
      · rw [if_pos hn, ← hn]
        refine ⟨rd.cspp, Function.update_self _ _ _, rfl, .of_eq (List.append_nil _).symm, ?_⟩
        intro hnil
        rw [hnil] at hkeys
        exact hkeys (by decide)
      · rw [if_neg hn]
        exact Function.update_of_ne (Ne.symm hn) _ _

/-- A section begins. -/
theorem pending_header (rd : SaReader) (spps : SaTable) (name : Text) (valued : Bool) (es : List Text) :
    pending { rd with
      spps := spps, step := if name = txt "security_association" then .association else .other } valued es
      = (sectionAssociation (name, es)).toList := by
  unfold pending sectionAssociation
  by_cases h : name = txt "security_association"
  · rw [if_pos h, if_pos h]
  · rw [if_neg h, if_neg h]
    rfl

/-- The first line of an association. -/
theorem pending_name {rd : SaReader} {t : Text} (hstep : rd.step = .association) (h : (rd.name t).1 = true)
    (valued : Bool) (es : List Text) :
    pending rd valued (t :: es) = pending (rd.name t).2 (decide (strip (value t) ≠ [])) es ∧
      (rd.name t).2.spps = rd.spps := by
  unfold SaReader.name at h ⊢
  unfold pending associationOf
  rw [hstep]
  by_cases hkey : key t = txt "spp"
  · rw [if_pos hkey] at h
    cases hread : SaReader.readSpp (strip (value t)) with
    | none =>
      rw [hread] at h
      cases h
    | some id =>
      simp only [if_pos hkey, hread, Option.map_some]
      exact ⟨rfl, trivial⟩
  · rw [if_neg hkey] at h
    cases h

/-- Another line of an association. -/
theorem pending_take {rd : SaReader} {t : Text} (hstep : rd.step = .keys) (h : (rd.cspp.take t).1 = true)
    (valued : Bool) (es : List Text) :
    pending rd valued (t :: es) = pending ⟨(rd.cspp.take t).2, rd.spps, .keys⟩ valued es := by
  obtain ⟨hid, hentries⟩ := SppKeys.take_entries h
  unfold pending
  rw [hstep]
  dsimp only
  rw [hid, hentries, List.append_assoc]
  congr 3
  cases hkey : keyOf t with
  | none => rw [List.filterMap_cons_none hkey]; rfl
  | some k => rw [List.filterMap_cons_some hkey]; rfl

/-- **A file that is read puts its associations into the table, one after the other.** -/
theorem applied_readLines {lines : List Text} {rd rd' : SaReader} {spps : SaTable}
    (h : readLines SaReader.line rd lines = some (true, rd')) (hflush : rd'.flush = some spps) (valued : Bool) :
    Applied rd.spps (pending rd valued (splitSections lines).1 ++ associations lines) spps := by
  -- the table so far and the association that is still open carry the induction over the lines
  induction lines generalizing rd valued with
  | nil =>
    cases h
    rw [associations, splitSections, List.filterMap_nil, List.append_nil]
    exact applied_flush hflush valued
  | cons l lines ih =>
    rw [readLines, SaReader.line_eq] at h
    unfold associations
    rw [splitSections]
    cases hkind : lineKind l with
    | blank =>
      rw [hkind] at h
      exact ih h valued
    | header t =>
      rw [hkind, SaReader.act] at h
      dsimp only at h ⊢
      cases hname : header t with
      | none =>
        rw [hname] at h
        cases h
      | some name =>
        rw [hname] at h
        dsimp only at h
        cases hsection : rd.flush with
        | none =>
          rw [hsection] at h
          cases h
        | some spps' =>
          rw [hsection] at h
          dsimp only at h
          -- a header closes the open association
          have hrest := ih h valued
          rw [pending_header] at hrest
          have hcons : (((some name).getD [], (splitSections lines).1) :: (splitSections lines).2).filterMap
              sectionAssociation
              = (sectionAssociation (name, (splitSections lines).1)).toList ++ associations lines := by
            rw [Option.getD_some, List.filterMap_cons]
            cases sectionAssociation (name, (splitSections lines).1) <;> rfl
          rw [hcons]
          exact (applied_flush hsection valued).trans hrest
    | entry t =>
      rw [hkind, SaReader.act] at h
      dsimp only at h ⊢
      cases hstep : rd.step with
      | other =>
        rw [hstep] at h
        cases h
      -- the line of the spp opens one, and the lines behind it add keys
      | association =>
        rw [hstep] at h
        dsimp only at h
        split_ifs at h
        cases hok : (rd.name t).1 with
        | false =>
          rw [show rd.name t = (false, (rd.name t).2) from Prod.ext hok rfl] at h
          cases h
        | true =>
          obtain ⟨hpending, hspps⟩ := pending_name hstep hok valued (splitSections lines).1
          rw [show rd.name t = (true, (rd.name t).2) from Prod.ext hok rfl] at h
          dsimp only at h
          have hrest := ih h (decide (strip (value t) ≠ []))
          rwa [← hpending, hspps] at hrest
      | keys =>
        rw [hstep] at h
        dsimp only at h
        split_ifs at h
        cases hok : (rd.cspp.take t).1 with
        | false =>
          rw [hok] at h
          cases h
        | true =>
          rw [hok] at h
          have hrest := ih h valued
          rwa [← pending_take hstep hok] at hrest

/-! ## The law -/

/-- The associations for which the file gives a value of the spp. -/
def valuedOnly (as : List Association) : List Association := as.filter fun a => a.valued

/-- What is to come of a file with these associations. -/
structure SaLaw (sa : SaTable) (as : List Association) (ok : Bool) (sa' : SaTable) : Prop where
  unchanged : ok = false → sa' = sa
  table : ok = true → Applied (fun _ => none) (valuedOnly as) sa'
  right : ok = true → ∀ n s, sa' n = some s → s.Right n

/-- No association without a value is the last one that reads as 0, unless it has the keys of the last one
    that gives 0. -/
def ZeroNamed (as : List Association) : Prop :=
  ∀ a, lastOf as 0 = some a → a.valued = false → ∃ b, lastOf (valuedOnly as) 0 = some b ∧ b.keys.Perm a.keys

theorem lastOf_spp {as : List Association} {n : UInt8} {a : Association} (h : lastOf as n = some a) :
    a.spp = n := by
  have hmem := (List.mem_filter.1 (List.mem_of_getLast? h)).2
  exact of_decide_eq_true hmem

/-- `strtol` reads 0 where there is nothing. -/
theorem spp_of_not_valued {lines : List Text} : ∀ a ∈ associations lines, a.valued = false → a.spp = 0 := by
  intro a ha hvalued
  obtain ⟨⟨name, es⟩, -, hsection⟩ := List.mem_filterMap.1 ha
  unfold sectionAssociation at hsection
  split at hsection
  · cases es with
    | nil => cases hsection
    | cons t ts =>
      unfold associationOf at hsection
      dsimp only at hsection
      split at hsection
      · obtain ⟨id, hread, rfl⟩ := Option.map_eq_some_iff.1 hsection
        have hempty : strip (value t) = [] := by
          by_contra hne
          rw [decide_eq_true hne] at hvalued
          cases hvalued
        have hzero : SaReader.readSpp [] = some 0 := by decide
        rw [hempty, hzero] at hread
        exact (Option.some.inj hread).symm
      · cases hsection
  · cases hsection

theorem lastOf_valuedOnly (as : List Association) (n : UInt8) :
    lastOf (valuedOnly as) n = ((as.filter fun a => decide (a.spp = n)).filter fun a => a.valued).getLast? := by
  unfold lastOf valuedOnly
  rw [List.filter_filter, List.filter_filter]
  congr 2
  funext a
  exact Bool.and_comm _ _

theorem lastOf_valuedOnly_of_ne {as : List Association} (h : ∀ a ∈ as, a.valued = false → a.spp = 0) {n : UInt8}
    (hn : n ≠ 0) : lastOf (valuedOnly as) n = lastOf as n := by
  have hall : ((as.filter fun a => decide (a.spp = n)).filter fun a => a.valued)
      = as.filter fun a => decide (a.spp = n) := by
    rw [List.filter_eq_self]
    intro a ha
    obtain ⟨hmem, hspp⟩ := List.mem_filter.1 ha
    cases hvalued : a.valued with
    | true => rfl
    | false => exact absurd ((of_decide_eq_true hspp).symm.trans (h a hmem hvalued)) hn
  rw [lastOf_valuedOnly, hall]
  rfl

theorem lastOf_valuedOnly_of_valued {as : List Association} {n : UInt8} {a : Association}
    (h : lastOf as n = some a) (hvalued : a.valued = true) : lastOf (valuedOnly as) n = some a := by
  obtain ⟨front, hfront⟩ := List.getLast?_eq_some_iff.1 h
  rw [lastOf_valuedOnly, hfront, List.filter_append, List.filter_cons_of_pos hvalued, List.filter_nil,
    List.getLast?_concat]

theorem lastOf_valuedOnly_eq_none {as : List Association} {n : UInt8} (h : lastOf as n = none) :
    lastOf (valuedOnly as) n = none := by
  rw [lastOf_valuedOnly, List.getLast?_eq_none_iff.1 h]
  rfl

/-- The table has the associations with a value if and only if none without one comes out on top. -/
theorem applied_valuedOnly_iff {as : List Association} {sa : SaTable}
    (hzero : ∀ a ∈ as, a.valued = false → a.spp = 0) (h : Applied (fun _ => none) as sa) :
    Applied (fun _ => none) (valuedOnly as) sa ↔ ZeroNamed as := by
  constructor
  · intro hvalued a ha _
    have hlast := h 0
    have hlast' := hvalued 0
    rw [ha] at hlast
    obtain ⟨s, hs, -, hkeys, -⟩ := hlast
    cases hb : lastOf (valuedOnly as) 0 with
    | none =>
      rw [hb] at hlast'
      dsimp only at hlast'
      rw [hs] at hlast'
      cases hlast'
    | some b =>
      rw [hb] at hlast'
      obtain ⟨s', hs', -, hkeys', -⟩ := hlast'
      rw [hs, Option.some.injEq] at hs'
      subst hs'
      exact ⟨b, rfl, hkeys'.symm.trans hkeys⟩
  · intro hnamed n
    have hlast := h n
    -- only the id 0 may come from a line without a value
    by_cases hn : n = 0
    · subst hn
      cases ha : lastOf as 0 with
      | none =>
        rw [ha] at hlast
        rw [lastOf_valuedOnly_eq_none ha]
        exact hlast
      | some a =>
        rw [ha] at hlast
        cases hvalued : a.valued with
        | true =>
          rw [lastOf_valuedOnly_of_valued ha hvalued]
          exact hlast
        | false =>
          obtain ⟨b, hb, hkeys⟩ := hnamed a ha hvalued
          obtain ⟨s, hs, hid, hentries, hne⟩ := hlast
          rw [hb]
          refine ⟨s, hs, ?_, hentries.trans hkeys.symm, hne⟩
          rw [hid, lastOf_spp ha, lastOf_spp hb]
    · rw [lastOf_valuedOnly_of_ne hzero hn]
      exact hlast

theorem Applied.right {as : List Association} {sa : SaTable} (h : Applied (fun _ => none) as sa) :
    ∀ n s, sa n = some s → s.Right n := by
  intro n s hs
  have hlast := h n
  cases ha : lastOf as n with
  | none =>
    rw [ha] at hlast
    dsimp only at hlast
    rw [hs] at hlast
    cases hlast
  | some a =>
    rw [ha] at hlast
    obtain ⟨s', hs', hid, -, hne⟩ := hlast
    rw [hs, Option.some.injEq] at hs'
    subst hs'
    have hright := SppKeys.right_of_keys hne
    rwa [hid, lastOf_spp ha] at hright

/-- A file that is right puts all its associations into the table; one that is not leaves the table. -/
theorem readSa_applied {sa sa' : SaTable} {file : Text} {ok : Bool}
    (h : readSa sa (some file) = some (ok, sa')) :
    (ok = false → sa' = sa) ∧ (ok = true → Applied (fun _ => none) (associations (fileLines file)) sa') := by
  unfold readSa at h
  obtain ⟨⟨done, rd⟩, hread, heq⟩ := Option.map_eq_some_iff.1 h
  cases done with
  | false =>
    cases heq
    exact ⟨fun _ => rfl, nofun⟩
  | true =>
    dsimp only at heq
    rw [if_pos rfl] at heq
    cases hflush : rd.flush with
    | none =>
      rw [hflush] at heq
      cases heq
      exact ⟨fun _ => rfl, nofun⟩
    | some spps =>
      rw [hflush] at heq
      cases heq
      exact ⟨nofun, fun _ => applied_readLines hread hflush true⟩

/-- For every file of lines that fit the table is the one of its associations, and a file that is refused
    leaves the table; an spp without a value counts as 0. So the law holds if and only if no such association
    comes out on top. -/
theorem readSa_iff (sa : SaTable) {lines : List Text} (hlines : ∀ l ∈ lines, Terminated l) :
    readSa sa none = some (false, sa) ∧
    ∃ ok sa', readSa sa (some lines.flatten) = some (ok, sa') ∧
      (ok = true → Applied (fun _ => none) (associations lines) sa') ∧
      (SaLaw sa (associations lines) ok sa' ↔ (ok = true → ZeroNamed (associations lines))) := by
  refine ⟨rfl, ?_⟩
  have hfile := fileLines_flatten hlines
  have hsome : (readSa sa (some lines.flatten)).isSome := by
    unfold readSa
    rw [Option.isSome_map, hfile, readLines_isSome_iff]
    intro pre l post rd hsplit _
    refine (SaReader.line_isSome_iff rd l).2 fun _ => Terminated.not_unspaced (hlines l ?_)
    rw [hsplit]
    exact List.mem_append_right pre List.mem_cons_self
  obtain ⟨⟨ok, sa'⟩, hread⟩ := Option.isSome_iff_exists.1 hsome
  obtain ⟨hfail, happlied⟩ := readSa_applied hread
  rw [hfile] at happlied
  refine ⟨ok, sa', hread, happlied, ?_⟩
  constructor
  · intro hlaw hok
    exact (applied_valuedOnly_iff spp_of_not_valued (happlied hok)).1 (hlaw.table hok)
  · intro hnamed
    exact {
      unchanged := hfail
      table := fun hok => (applied_valuedOnly_iff spp_of_not_valued (happlied hok)).2 (hnamed hok)
      right := fun hok => (happlied hok).right }

/-- Two sections for one spp: the second one stays. -/
theorem readSa_iff_repeated : ∃ sa', readSa (fun _ => none) (some [txt "[security_association]\n", txt "spp 3\n",
      txt "1 SHA256 a\n", txt "[security_association]\n", txt "spp 3\n", txt "7 SHA256-128 b\n"].flatten)
        = some (true, sa') ∧
    ((sa' 3).any fun s => s.haveKey 7 && !s.haveKey 1) = true ∧ ∀ n s, sa' n = some s → s.Right n := by
  have hlines : ∀ l ∈ [txt "[security_association]\n", txt "spp 3\n", txt "1 SHA256 a\n",
      txt "[security_association]\n", txt "spp 3\n", txt "7 SHA256-128 b\n"], Terminated l := by
    decide
  obtain ⟨ok, sa', hread, -, hiff⟩ := (readSa_iff (fun _ => none) hlines).2
  have hnone : (lastOf (associations [txt "[security_association]\n", txt "spp 3\n", txt "1 SHA256 a\n",
      txt "[security_association]\n", txt "spp 3\n", txt "7 SHA256-128 b\n"]) 0).isNone = true := by
    decide
  have hdone : ((readSa (fun _ => none) (some [txt "[security_association]\n", txt "spp 3\n",
      txt "1 SHA256 a\n", txt "[security_association]\n", txt "spp 3\n", txt "7 SHA256-128 b\n"].flatten)).any
        fun r => r.1 && (r.2 3).any fun s => s.haveKey 7 && !s.haveKey 1) = true := by
    decide
  have hlaw := hiff.2 fun _ a ha _ => by
    rw [Option.isNone_iff_eq_none.1 hnone] at ha
    cases ha
  rw [hread, Option.any_some, Bool.and_eq_true] at hdone
  obtain ⟨hok, hkeys⟩ := hdone
  exact ⟨sa', by rw [hread, show ok = true from hok], hkeys, hlaw.right hok⟩

/-- An association without a value of its spp. -/
theorem readSa_iff_empty : ¬ ∀ (sa : SaTable) (lines : List Text), (∀ l ∈ lines, Terminated l) →
    ∀ ok sa', readSa sa (some lines.flatten) = some (ok, sa') → SaLaw sa (associations lines) ok sa' := by
  intro h
  have hdone : ((readSa (fun _ => none) (some [txt "[security_association]\n", txt "spp\n",
      txt "1 SHA256 a\n"].flatten)).any fun r => r.1 && (r.2 0).isSome) = true := by
    decide
  have hlast : (lastOf (valuedOnly (associations [txt "[security_association]\n", txt "spp\n",
      txt "1 SHA256 a\n"])) 0).isNone = true := by
    decide
  cases hread : readSa (fun _ => none) (some [txt "[security_association]\n", txt "spp\n",
      txt "1 SHA256 a\n"].flatten) with
  | none =>
    rw [hread] at hdone
    cases hdone
  | some r =>
    -- nothing in the file gives the 0, but the table has it
    rw [hread, Option.any_some, Bool.and_eq_true] at hdone
    have hzero := (h _ _ (by decide) r.1 r.2 hread).table hdone.1 0
    rw [Option.isNone_iff_eq_none.1 hlast] at hzero
    have hsome := hdone.2
    rw [show r.2 0 = none from hzero] at hsome
    cases hsome

end PtpMgmt.Cfg
