import PtpMgmt.Json.ToJson

set_option autoImplicit false

/-! # What is printed

`Doc` is a document to print: an object with its names in the order they are printed, its numbers as they
are printed and its strings as they stand between the quotation marks. `text` is the layout of it.
Whatever sequence of calls `JsonProcToJson` takes, it adds members to the object that is open, and their
layout is that of a document. A document that is good is read by the parser. -/

namespace PtpMgmt.Json

/-! ## Documents -/

inductive Doc
  | num (t : Text) (dotLoc : Nat)
  | bool (b : Bool)
  | str (t : Text)
  | obj (members : List (String × Doc))
  | arr (elements : List Doc)

/-- What `close` adds. -/
def comma (first : Bool) : Text := if first then [chr '\n'] else [chr ',', chr '\n']

/-- What stands between a name and its value. -/
def Doc.lead (col : Nat) : Doc → Text
  | .obj _ => chr '\n' :: spaces col
  | .arr _ => chr '\n' :: spaces col
  | _ => [chr ' ']

mutual

/-- The text of a value, with its brackets in the column `col`. -/
def Doc.text (col : Nat) : Doc → Text
  | .num t _ => t
  | .bool b => if b then txt "true" else txt "false"
  | .str t => quote t
  | .obj ms => leftCurly :: (membersText (col + 2) true ms ++ chr '\n' :: (spaces col ++ [rightCurly]))
  | .arr ds => chr '[' :: (elementsText (col + 2) true ds ++ chr '\n' :: (spaces col ++ [chr ']']))

def membersText (col : Nat) (first : Bool) : List (String × Doc) → Text
  | [] => []
  | (name, d) :: ms =>
    comma first ++ spaces col ++ quote (txt name) ++ txt " :" ++ d.lead col ++ d.text col ++
      membersText col false ms

def elementsText (col : Nat) (first : Bool) : List Doc → Text
  | [] => []
  | d :: ds => comma first ++ spaces col ++ d.text col ++ elementsText col false ds

end

theorem membersText_append (col : Nat) (first : Bool) (ms ms' : List (String × Doc)) :
    membersText col first (ms ++ ms') = membersText col first ms ++ membersText col (first && ms.isEmpty) ms' := by
  induction ms generalizing first with
  | nil => simp [membersText]
  | cons m ms ih =>
      rw [List.cons_append, membersText, membersText, ih false]
      simp

namespace JsonProcToJson

/-! ## Printing documents -/

/-- Where the members of the object that is open start. -/
def column (p : JsonProcToJson) : Nat := p.firstVals.length * 2 + p.baseIndent

/-- Members are added to the object that is open. -/
def members (p : JsonProcToJson) (ms : List (String × Doc)) : JsonProcToJson :=
  { p with result := p.result ++ membersText p.column p.first ms, first := p.first && ms.isEmpty }

/-- An element stands after what `close` added. -/
def element (p : JsonProcToJson) (d : Doc) : JsonProcToJson :=
  p.put (spaces p.column ++ d.text p.column)

/-- Elements are added to the array that is open. -/
def elements (p : JsonProcToJson) (ds : List Doc) : JsonProcToJson :=
  { p with result := p.result ++ elementsText p.column p.first ds, first := p.first && ds.isEmpty }

@[simp]
theorem members_nil (p : JsonProcToJson) : p.members [] = p := by
  simp [members, membersText]

@[simp]
theorem members_members (p : JsonProcToJson) (ms ms' : List (String × Doc)) :
    (p.members ms).members ms' = p.members (ms ++ ms') := by
  have hempty : (ms ++ ms').isEmpty = (ms.isEmpty && ms'.isEmpty) := by
    cases ms <;> rfl
  simp [members, membersText_append, column, Bool.and_assoc, hempty]

theorem startName_eq (p : JsonProcToJson) (name : String) (last : Text) :
    p.startName name last = { p with
      result := p.result ++ (comma p.first ++ spaces p.column ++ quote (txt name) ++ txt " :" ++ last)
      first := false } := by
  have hcolon : txt "\" :" = chr '"' :: txt " :" := by decide
  simp [startName, close, indent, put, column, quote, comma, hcolon]

/-- A value that is printed on the line of its name. -/
theorem members_line (p : JsonProcToJson) (name : String) {d : Doc} (hlead : ∀ col, d.lead col = [chr ' '])
    {t : Text} (htext : ∀ col, d.text col = t) :
    (p.startName name (txt " ")).put t = p.members [(name, d)] := by
  have hspace : txt " " = [chr ' '] := by decide
  simp [startName_eq, put, members, membersText, hlead, htext, hspace]

theorem procString_eq (p : JsonProcToJson) (name : String) (val : Text) :
    p.procString name val = p.members [(name, .str val)] := by
  have hquote : txt " \"" = [chr ' ', chr '"'] := by decide
  rw [← members_line p name (fun _ => rfl) (fun _ => by rw [Doc.text])]
  have hspace : txt " " = [chr ' '] := by decide
  simp [procString, startName_eq, put, quote, hquote, hspace]

theorem procBool_eq (p : JsonProcToJson) (name : String) (val : Bool) :
    p.procBool name val = p.members [(name, .bool val)] :=
  members_line p name (fun _ => rfl) (fun _ => by rw [Doc.text])

/-- A number, with the place of its dot. -/
theorem procRaw_eq (p : JsonProcToJson) (name : String) (t : Text) (dotLoc : Nat) :
    p.procRaw name t = p.members [(name, .num t dotLoc)] :=
  members_line p name (fun _ => rfl) (fun _ => by rw [Doc.text])

/-- An object under a name. -/
theorem procObject_members (p : JsonProcToJson) (name : String) (ms : List (String × Doc)) :
    ((p.procObject name).members ms).closeObject = p.members [(name, .obj ms)] := by
  have hline : txt "\n" = [chr '\n'] := by decide
  have hcol : (p.firstVals.length + 1) * 2 + p.baseIndent = p.firstVals.length * 2 + p.baseIndent + 2 := by omega
  simp [procObject, startObject, closeObject, startBracket, closeBracket, startName_eq, indent, put, members,
    membersText, column, Doc.lead, Doc.text, hline, hcol]

/-- An object that is an element of an array. -/
theorem startObject_members (p : JsonProcToJson) (ms : List (String × Doc)) :
    (p.startObject.members ms).closeObject = p.element (.obj ms) := by
  have hcol : (p.firstVals.length + 1) * 2 + p.baseIndent = p.firstVals.length * 2 + p.baseIndent + 2 := by omega
  simp [startObject, closeObject, startBracket, closeBracket, indent, put, members, element, column, Doc.text,
    hcol]

theorem foldl_elements {α : Type} (record : JsonProcToJson → α → JsonProcToJson) (doc : α → Doc)
    (hrecord : ∀ p rec, record p rec = p.element (doc rec)) (p : JsonProcToJson) (val : List α) :
    val.foldl (fun p rec => record p.close rec) p = p.elements (val.map doc) := by
  induction val generalizing p with
  | nil => simp [elements, elementsText]
  | cons rec val ih =>
      rw [List.foldl_cons, ih, hrecord]
      simp [elements, elementsText, element, close, put, column, comma]

/-- An array under a name. -/
theorem procVector_eq {α : Type} {record : JsonProcToJson → α → JsonProcToJson} {doc : α → Doc}
    (hrecord : ∀ p rec, record p rec = p.element (doc rec)) (p : JsonProcToJson) (name : String)
    (val : List α) : procVector record p name val = p.members [(name, .arr (val.map doc))] := by
  have hline : txt "\n" = [chr '\n'] := by decide
  have hcol : (p.firstVals.length + 1) * 2 + p.baseIndent = p.firstVals.length * 2 + p.baseIndent + 2 := by omega
  rw [procVector, foldl_elements record doc hrecord]
  simp [procArray, startArray, closeArray, startBracket, closeBracket, startName_eq, indent, put, elements,
    members, membersText, column, Doc.lead, Doc.text, hline, hcol]

end JsonProcToJson

/-! ## Documents that are read -/

/-- What the parser reads between the quotation marks. -/
def strVal (t : Text) : Text := ((getStrLoop none [] (t ++ [chr '"'])).map Prod.fst).getD []

/-- The string ends where it should: the scanner of the parser stops at the quotation mark behind it. -/
def Closes (t : Text) : Prop := StrText t (strVal t)

/-- The names that are printed are plain words. -/
def isWord (c : UInt8) : Bool :=
  isDigit c || isLower c || (decide (chr 'A' ≤ c) && decide (c ≤ chr 'Z')) || c == chr '_'

def isName (name : String) : Bool :=
  (txt name).all isWord && !(txt name).isEmpty

mutual

def Doc.value : Doc → Value
  | .num t dotLoc => .num t dotLoc 0
  | .bool b => .bool b
  | .str t => .str (strVal t)
  | .obj ms => .obj (membersValue [] ms)
  | .arr ds => .arr (elementsValue ds)

/-- The members of an object after those that came before. -/
def membersValue (acc : List (Text × Value)) : List (String × Doc) → List (Text × Value)
  | [] => acc
  | (name, d) :: ms => membersValue (insertMember (txt name) d.value acc) ms

def elementsValue : List Doc → List Value
  | [] => []
  | d :: ds => d.value :: elementsValue ds

end

mutual

/-- What holds of the strings and of the numbers. -/
def Doc.All (P : Text → Prop) (Q : Text → Nat → Prop) : Doc → Prop
  | .num t dotLoc => Q t dotLoc
  | .bool _ => True
  | .str t => P t
  | .obj ms => MembersAll P Q ms
  | .arr ds => ElementsAll P Q ds

def MembersAll (P : Text → Prop) (Q : Text → Nat → Prop) : List (String × Doc) → Prop
  | [] => True
  | (_, d) :: ms => d.All P Q ∧ MembersAll P Q ms

def ElementsAll (P : Text → Prop) (Q : Text → Nat → Prop) : List Doc → Prop
  | [] => True
  | d :: ds => d.All P Q ∧ ElementsAll P Q ds

end

/-- The number is read as it is printed. -/
def IsNum (t : Text) (dotLoc : Nat) : Prop := NumText t t dotLoc 0

/-- The strings close and the numbers are numbers. -/
def Doc.Good (d : Doc) : Prop := d.All Closes IsNum

def MembersGood (ms : List (String × Doc)) : Prop := MembersAll Closes IsNum ms

/-- The elements of an array are objects, or strings that start with a word. -/
def Doc.Opens : Doc → Prop
  | .obj _ => True
  | .str t => isWord (peek t) = true
  | _ => False

mutual

/-- The names are words, and arrays hold what may be told apart from a name. -/
def Doc.Named : Doc → Prop
  | .obj ms => MembersNamed ms
  | .arr ds => ElementsNamed ds
  | _ => True

def MembersNamed : List (String × Doc) → Prop
  | [] => True
  | (name, d) :: ms => isName name = true ∧ d.Named ∧ MembersNamed ms

def ElementsNamed : List Doc → Prop
  | [] => True
  | d :: ds => d.Opens ∧ d.Named ∧ ElementsNamed ds

end

/-- The digits, the letters and the underscore. -/
theorem exists_word {c : UInt8} (h : isWord c = true) : (∃ d : Fin 10, c = UInt8.ofNat (0x30 + d.val)) ∨
    (∃ d : Fin 26, c = UInt8.ofNat (0x61 + d.val)) ∨ (∃ d : Fin 26, c = UInt8.ofNat (0x41 + d.val)) ∨
      c = chr '_' := by
  simp only [isWord, Bool.or_eq_true, Bool.and_eq_true, decide_eq_true_eq, beq_iff_eq] at h
  rcases h with ((hdigit | hlower) | ⟨hlo, hhi⟩) | hline
  · exact .inl (exists_digit hdigit)
  · exact .inr (.inl (exists_lower hlower))
  · exact .inr (.inr (.inl (@exists_between 0x41 0x5a c hlo hhi)))
  · exact .inr (.inr (.inr hline))

theorem isWord_spec {c : UInt8} (h : isWord c = true) :
    c ≠ 0 ∧ c ≠ chr '"' ∧ c ≠ chr '\\' ∧ isCont c = false ∧ contCount c = 0 := by
  rcases exists_word h with ⟨d, rfl⟩ | ⟨d, rfl⟩ | ⟨d, rfl⟩ | rfl
  · clear h
    revert d
    decide
  · clear h
    revert d
    decide
  · clear h
    revert d
    decide
  · decide

/-- A character that stands for itself in a string. -/
theorem getStrLoop_self {c : UInt8} (h0 : c ≠ 0) (hq : c ≠ chr '"') (hb : c ≠ chr '\\')
    (hcont : isCont c = false) (hcount : contCount c = 0) (ret r : Text) :
    getStrLoop none ret (c :: r) = getStrLoop none (ret ++ [c]) r := by
  refine getStrLoop_octets (isEOF_cons h0 r) rfl hq hb ?_
  simp [checkUTF8, hcont, hcount]

/-- A text of characters that stand for themselves is read as it is. -/
theorem strText_self {t : Text} (h : ∀ c ∈ t, c ≠ 0 ∧ c ≠ chr '"' ∧ c ≠ chr '\\' ∧ isCont c = false ∧
    contCount c = 0) : StrText t t := by
  have hscan : ∀ ret r, getStrLoop none ret (t ++ chr '"' :: r) = some (ret ++ t, r) := by
    induction t with
    | nil =>
        intro ret r
        have h0 : chr '"' ≠ 0 := by decide
        rw [List.nil_append, List.append_nil, getStrLoop_quote (isEOF_cons h0 r) rfl rfl]
        rfl
    | cons c t ih =>
        intro ret r
        obtain ⟨h0, hq, hb, hcont, hcount⟩ := h c List.mem_cons_self
        rw [List.cons_append, getStrLoop_self h0 hq hb hcont hcount,
          ih (fun d hd => h d (List.mem_cons_of_mem _ hd)), List.append_assoc]
        rfl
  exact ⟨fun c hc => (h c hc).1, fun r => hscan [] r⟩

theorem strText_name {name : String} (h : isName name = true) : StrText (txt name) (txt name) := by
  refine strText_self fun c hc => isWord_spec ?_
  rw [isName, Bool.and_eq_true, List.all_eq_true] at h
  exact h.1 c hc

theorem strVal_eq {t val : Text} (h : StrText t val) : strVal t = val := by
  rw [strVal, h.scan []]
  rfl

theorem StrText.closes {t val : Text} (h : StrText t val) : Closes t := by
  rw [Closes, strVal_eq h]
  exact h

theorem spaces_space : Spaces [chr ' '] := by decide

theorem spaces_lead (col : Nat) (d : Doc) : Spaces (d.lead col) := by
  cases d with
  | num => exact spaces_space
  | bool => exact spaces_space
  | str => exact spaces_space
  | obj => exact spaces_newline col
  | arr => exact spaces_newline col

theorem membersText_comma (col : Nat) {ms : List (String × Doc)} (hne : ms ≠ []) :
    membersText col false ms = chr ',' :: membersText col true ms := by
  cases ms with
  | nil => exact absurd rfl hne
  | cons m ms => simp [membersText, comma]

theorem elementsText_comma (col : Nat) {ds : List Doc} (hne : ds ≠ []) :
    elementsText col false ds = chr ',' :: elementsText col true ds := by
  cases ds with
  | nil => exact absurd rfl hne
  | cons d ds => simp [elementsText, comma]

/-- The line of a member. -/
def Doc.member (col : Nat) (name : String) (d : Doc) (after : Text) : Member :=
  ⟨chr '\n' :: spaces col, txt name, txt name, [chr ' '], d.lead col, d.text col, d.value, after⟩

theorem member_render (col : Nat) (name : String) (d : Doc) (after : Text) :
    (d.member col name after).render =
      comma true ++ spaces col ++ quote (txt name) ++ txt " :" ++ d.lead col ++ d.text col ++ after := by
  have hcolon : txt " :" = [chr ' ', chr ':'] := by decide
  simp [Doc.member, Member.render, comma, hcolon]

theorem member_ok (col : Nat) {name : String} (hname : isName name = true) (d : Doc) {after : Text}
    (hafter : Spaces after) : (d.member col name after).Ok :=
  ⟨spaces_newline col, strText_name hname, spaces_space, spaces_lead col d, hafter⟩

mutual

/-- **The layout of a good document is a text of its value.** -/
theorem Doc.denotes : (d : Doc) → d.Named → d.Good → (col : Nat) → Denotes (d.text col) d.value
  | .num t dotLoc, _, hgood, col => by
      rw [Doc.text, Doc.value]
      rw [Doc.Good, Doc.All] at hgood
      exact .num hgood
  | .bool b, _, _, col => by
      rw [Doc.text, Doc.value]
      exact .bool b
  | .str t, _, hgood, col => by
      rw [Doc.text, Doc.value]
      rw [Doc.Good, Doc.All] at hgood
      exact .str hgood
  | .obj ms, hnamed, hgood, col => by
      rw [Doc.text, Doc.value]
      rw [Doc.Named] at hnamed
      rw [Doc.Good, Doc.All] at hgood
      cases ms with
      | nil => exact .objNil (spaces_newline col)
      | cons m ms =>
          obtain ⟨Ms, hMs, hok, hden, hvalue, htext⟩ :=
            membersText_denotes (m :: ms) (by simp) hnamed hgood (col + 2) (spaces_newline col) []
          have hobj := Denotes.obj hMs hok hden
          rw [hvalue, ← htext] at hobj
          simpa using hobj
  | .arr ds, hnamed, hgood, col => by
      rw [Doc.text, Doc.value]
      rw [Doc.Named] at hnamed
      rw [Doc.Good, Doc.All] at hgood
      cases ds with
      | nil => exact .arrNil (spaces_newline col)
      | cons d ds =>
          obtain ⟨Es, hEs, hok, hden, hvalue, htext⟩ :=
            elementsText_denotes (d :: ds) (by simp) hnamed hgood (col + 2) (spaces_newline col)
          have harr := Denotes.arr hEs hok hden
          rw [hvalue, ← htext] at harr
          simpa using harr

theorem membersText_denotes : (ms : List (String × Doc)) → ms ≠ [] → MembersNamed ms → MembersGood ms →
    (col : Nat) → {last : Text} → Spaces last → (acc : List (Text × Value)) →
    ∃ Ms : List Member, Ms ≠ [] ∧ (∀ M ∈ Ms, M.Ok) ∧ (∀ M ∈ Ms, Denotes M.text M.value) ∧
      insertAll Ms acc = membersValue acc ms ∧
      membersText col true ms ++ last = sepBy (Ms.map Member.render)
  | [], hne, _, _, _, _, _, _ => absurd rfl hne
  | (name, d) :: ms, _, hnamed, hgood, col, last, hlast, acc => by
      rw [MembersNamed] at hnamed
      rw [MembersGood, MembersAll] at hgood
      have hden := d.denotes hnamed.2.1 hgood.1 col
      cases ms with
      | nil =>
          refine ⟨[d.member col name last], by simp, ?_, ?_, ?_, ?_⟩
          · intro M hM
            rw [List.mem_singleton.1 hM]
            exact member_ok col hnamed.1 d hlast
          · intro M hM
            rw [List.mem_singleton.1 hM]
            exact hden
          · rw [membersValue, membersValue]
            rfl
          · rw [List.map_singleton, sepBy, member_render]
            simp [membersText]
      | cons m ms =>
          obtain ⟨Ms, hMs, hok, hdens, hvalue, htext⟩ := membersText_denotes (m :: ms) (by simp) hnamed.2.2
            hgood.2 col hlast (insertMember (txt name) d.value acc)
          refine ⟨d.member col name [] :: Ms, by simp, ?_, ?_, ?_, ?_⟩
          · intro M hM
            rcases List.mem_cons.1 hM with rfl | hM
            · exact member_ok col hnamed.1 d spaces_nil
            · exact hok M hM
          · intro M hM
            rcases List.mem_cons.1 hM with rfl | hM
            · exact hden
            · exact hdens M hM
          · rw [membersValue]
            exact hvalue
          · cases Ms with
            | nil => exact absurd rfl hMs
            | cons M Ms =>
                have hsep : sepBy ((d.member col name [] :: M :: Ms).map Member.render) =
                    (d.member col name []).render ++ chr ',' :: sepBy ((M :: Ms).map Member.render) := rfl
                rw [hsep, ← htext, member_render, membersText, membersText_comma col (by simp)]
                simp

theorem elementsText_denotes : (ds : List Doc) → ds ≠ [] → ElementsNamed ds → ElementsAll Closes IsNum ds →
    (col : Nat) → {last : Text} → Spaces last →
    ∃ Es : List Element, Es ≠ [] ∧ (∀ E ∈ Es, E.Ok) ∧ (∀ E ∈ Es, Denotes E.text E.value) ∧
      Es.map Element.value = elementsValue ds ∧
      elementsText col true ds ++ last = sepBy (Es.map Element.render)
  | [], hne, _, _, _, _, _ => absurd rfl hne
  | d :: ds, _, hnamed, hgood, col, last, hlast => by
      rw [ElementsNamed] at hnamed
      rw [ElementsAll] at hgood
      have hden := d.denotes hnamed.2.1 hgood.1 col
      cases ds with
      | nil =>
          refine ⟨[⟨chr '\n' :: spaces col, d.text col, d.value, last⟩], by simp, ?_, ?_, ?_, ?_⟩
          · intro E hE
            rw [List.mem_singleton.1 hE]
            exact ⟨spaces_newline col, hlast⟩
          · intro E hE
            rw [List.mem_singleton.1 hE]
            exact hden
          · rw [elementsValue, elementsValue]
            rfl
          · simp [elementsText, sepBy, Element.render, comma]
      | cons d' ds =>
          obtain ⟨Es, hEs, hok, hdens, hvalue, htext⟩ := elementsText_denotes (d' :: ds) (by simp) hnamed.2.2
            hgood.2 col hlast
          refine ⟨⟨chr '\n' :: spaces col, d.text col, d.value, []⟩ :: Es, by simp, ?_, ?_, ?_, ?_⟩
          · intro E hE
            rcases List.mem_cons.1 hE with rfl | hE
            · exact ⟨spaces_newline col, spaces_nil⟩
            · exact hok E hE
          · intro E hE
            rcases List.mem_cons.1 hE with rfl | hE
            · exact hden
            · exact hdens E hE
          · rw [elementsValue, List.map_cons, hvalue]
          · cases Es with
            | nil => exact absurd rfl hEs
            | cons E Es =>
                have hsep : sepBy ((⟨chr '\n' :: spaces col, d.text col, d.value, []⟩ :: E :: Es).map
                    Element.render) = Element.render ⟨chr '\n' :: spaces col, d.text col, d.value, []⟩ ++
                      chr ',' :: sepBy ((E :: Es).map Element.render) := rfl
                rw [hsep, ← htext, elementsText, elementsText_comma col (by simp)]
                simp [Element.render, comma]

end

end PtpMgmt.Json
