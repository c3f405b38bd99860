import PtpMgmt.Cfg.Scan
import PtpMgmt.Json.Access
import PtpMgmt.Message.Names

set_option autoImplicit false

/-! # Lines of configuration files (`cfg.cpp`)

A file is read in lines, each with a zero behind it in the buffer. The functions walk over the buffer by
positions and write zeros into it; what would leave the buffer gives nothing. Beside them it is told what
they make of a line: the key and the value of a setting, and the name of a section. -/

namespace PtpMgmt.Cfg

open Json

/-! ## Lines -/

/-- `lineSize`. -/
def lineSize : Nat := 512

/-- What `fgets` gives one after the other, while so many characters fit into the buffer. -/
def linesFrom (room : Nat) : Text → List Text
  | [] => []
  | c :: r =>
    if c = chr '\n' ∨ room ≤ 1 then [c] :: linesFrom (lineSize - 1) r
    else
      match linesFrom (room - 1) r with
      | [] => [[c]]
      | line :: lines => (c :: line) :: lines

def fileLines (file : Text) : List Text := linesFrom (lineSize - 1) file

theorem linesFrom_fgets {room : Nat} (hroom : 0 < room) {file : Text} (h : file ≠ []) :
    linesFrom room file = (fgets room file).1 :: fileLines (fgets room file).2 := by
  induction file generalizing room with
  | nil => exact absurd rfl h
  | cons c r ih =>
    obtain ⟨n, rfl⟩ : ∃ n, room = n + 1 := ⟨room - 1, by omega⟩
    unfold linesFrom fgets
    by_cases hc : c = chr '\n'
    · rw [if_pos (.inl hc), if_pos hc]
      rfl
    · rw [if_neg hc]
      cases n with
      | zero => rw [if_pos (.inr (by omega)), fgets]; rfl
      | succ n =>
        rw [if_neg (by rintro (h | h); exacts [hc h, by omega]), Nat.add_sub_cancel]
        cases r with
        | nil => rfl
        | cons d r => rw [ih (Nat.succ_pos n) (List.cons_ne_nil d r)]

/-- The lines are what `fgets` gives. -/
theorem fileLines_fgets {file : Text} (h : file ≠ []) :
    fileLines file = (fgets (lineSize - 1) file).1 :: fileLines (fgets (lineSize - 1) file).2 :=
  linesFrom_fgets (by decide) h

/-- A line with its end, that fits into the buffer. -/
def Terminated (line : Text) : Prop :=
  line.length < lineSize ∧ ∃ w, line = w ++ [chr '\n'] ∧ chr '\n' ∉ w

instance Terminated.decidable (line : Text) : Decidable (Terminated line) :=
  decidable_of_iff (line.length < lineSize ∧ line.getLast? = some (chr '\n') ∧ chr '\n' ∉ line.dropLast) (by
    refine and_congr_right fun _ => ?_
    constructor
    · rintro ⟨hlast, hw⟩
      obtain ⟨w, rfl⟩ := List.getLast?_eq_some_iff.1 hlast
      rw [List.dropLast_concat] at hw
      exact ⟨w, rfl, hw⟩
    · rintro ⟨w, rfl, hw⟩
      rw [List.getLast?_concat, List.dropLast_concat]
      exact ⟨rfl, hw⟩)

theorem fgets_line {room : Nat} {w : Text} (hw : chr '\n' ∉ w) (hroom : w.length < room) (r : Text) :
    fgets room (w ++ chr '\n' :: r) = (w ++ [chr '\n'], r) := by
  induction w generalizing room with
  | nil =>
    obtain ⟨n, rfl⟩ : ∃ n, room = n + 1 := ⟨room - 1, by omega⟩
    rw [List.nil_append, fgets, if_pos rfl]
    rfl
  | cons c w ih =>
    rw [List.mem_cons, not_or] at hw
    obtain ⟨n, rfl⟩ : ∃ n, room = n + 1 := ⟨room - 1, by omega⟩
    rw [List.length_cons] at hroom
    rw [List.cons_append, fgets, if_neg (Ne.symm hw.1), ih hw.2 (by omega)]
    rfl

theorem fileLines_flatten {lines : List Text} (h : ∀ line ∈ lines, Terminated line) :
    fileLines lines.flatten = lines := by
  induction lines with
  | nil => rfl
  | cons line lines ih =>
    obtain ⟨hlen, w, rfl, hw⟩ := h line List.mem_cons_self
    rw [List.length_append, List.length_singleton] at hlen
    have hroom : w.length < lineSize - 1 := by unfold lineSize at *; omega
    rw [List.flatten_cons, List.append_assoc, List.singleton_append, fileLines_fgets (by simp),
      fgets_line hw hroom, ih fun l hl => h l (List.mem_cons_of_mem _ hl)]

/-! ## The token functions -/

/-- `skip_spaces`. -/
def skipSpaces (buf : Text) (cur : Nat) : Option Nat := Scan.forward (fun c => !isCSpace c) buf cur

/-- `next_space_token`: the token ends with a zero, and what comes next is behind the white space. -/
def nextSpaceToken (buf : Text) (cur : Nat) : Option (Text × Nat) := do
  let cur ← Scan.forward isCSpace buf cur
  let buf ← Scan.store buf cur 0
  let val ← skipSpaces buf (cur + 1)
  return (buf, val)

/-- `strip_end_spaces`. -/
def stripEndSpaces (buf : Text) (fin : Nat) : Option Text := do
  let last ← Scan.backward (fun c => !isCSpace c) buf fin
  Scan.store buf (last + 1) 0

/-- The zero at the end of the string at `cur`: `cur + strlen(cur)`. -/
def strEnd (buf : Text) (cur : Nat) : Option Nat := Scan.forward (· == 0) buf cur

/-- The string at `cur`. -/
def str (buf : Text) (cur : Nat) : Option Text :=
  (strEnd buf cur).map fun fin => (buf.drop cur).take (fin - cur)

/-- `strchr`. -/
def strchr (buf : Text) (cur : Nat) (c : UInt8) : Option (Option Nat) :=
  (Scan.forward (fun d => d == c || d == 0) buf cur).map fun pos =>
    if buf[pos]? = some c then some pos else none

/-! ## What stands in a line -/

def strip (t : Text) : Text := t.rdropWhile isCSpace

/-- The key that a line starts with. -/
def key (t : Text) : Text := cStr (t.takeWhile fun c => !isCSpace c)

/-- What comes behind the key. -/
def value (t : Text) : Text := cStr ((t.dropWhile fun c => !isCSpace c).dropWhile isCSpace)

/-- What stands in front of a closing bracket. -/
def inBrackets (r : Text) : Text := r.takeWhile fun c => !(c == chr ']')

/-- The name behind an opening bracket. Brackets with white space alone have the name that stands behind
    it, from the closing one on. -/
def header (t : Text) : Option Text :=
  if inBrackets (cStr (t.dropWhile isCSpace)) = cStr (t.dropWhile isCSpace) then none
  else if inBrackets (cStr (t.dropWhile isCSpace)) = [] ∧ t.dropWhile isCSpace ≠ t then
    some (cStr (t.dropWhile isCSpace))
  else some (strip (inBrackets (cStr (t.dropWhile isCSpace))))

/-- White space behind the key. -/
def HasSpace (t : Text) : Prop := ∃ c ∈ t, isCSpace c = true

instance HasSpace.decidable (t : Text) : Decidable (HasSpace t) :=
  inferInstanceAs (Decidable (∃ c ∈ t, isCSpace c = true))

/-- The name between the brackets of a line: what `read_cfg` and `read_sa` both do with it. -/
def sectionName (buf : Text) (cur : Nat) : Option (Option Text) := do
  let cur ← skipSpaces buf (cur + 1)
  match ← strchr buf cur (chr ']') with
  | none => return none
  | some fin =>
    let buf ← stripEndSpaces buf fin
    let name ← str buf cur
    return some name

/-! ## What the token functions make of it -/

theorem isCSpace_zero : isCSpace 0 = false := by decide

theorem skipSpaces_append (pre t : Text) :
    skipSpaces (pre ++ (t ++ [0])) pre.length = some (pre.length + (t.takeWhile isCSpace).length) := by
  have hspaces : ∀ c ∈ t.takeWhile isCSpace, (!isCSpace c) = false := by
    intro c hc
    rw [List.mem_takeWhile_imp hc]
    rfl
  obtain ⟨c, r, hr, hc⟩ : ∃ c r, t.dropWhile isCSpace ++ [0] = c :: r ∧ (!isCSpace c) = true := by
    cases hdrop : t.dropWhile isCSpace with
    | nil => exact ⟨0, [], rfl, by rw [isCSpace_zero]; rfl⟩
    | cons c r =>
      refine ⟨c, r ++ [0], rfl, ?_⟩
      have hne : t.dropWhile isCSpace ≠ [] := by
        rw [hdrop]
        exact List.cons_ne_nil c r
      have hhead := List.head_dropWhile_not isCSpace hne
      simp only [hdrop, List.head_cons] at hhead
      rw [hhead]
      rfl
  have ht : t ++ [0] = t.takeWhile isCSpace ++ c :: r := by
    rw [← hr, ← List.append_assoc, List.takeWhile_append_dropWhile]
  rw [ht]
  exact Scan.forward_append hspaces hc pre r

/-- A string is what stands at its position, whatever is in front of it. -/
theorem str_append (pre l : Text) :
    str (pre ++ l) pre.length = (l.findIdx? (· == 0)).map fun n => l.take n := by
  unfold str strEnd Scan.forward
  rw [List.drop_left, Option.map_map]
  congr 1
  funext n
  show l.take (pre.length + n - pre.length) = l.take n
  rw [Nat.add_sub_cancel_left]

theorem cStr_split (l r : Text) : ∃ r', l ++ 0 :: r = cStr l ++ 0 :: r' := by
  unfold cStr
  induction l with
  | nil => exact ⟨r, rfl⟩
  | cons c l ih =>
    by_cases hc : c = 0
    · rw [hc]
      exact ⟨l ++ 0 :: r, rfl⟩
    · obtain ⟨r', hr⟩ := ih
      refine ⟨r', ?_⟩
      rw [List.takeWhile_cons_of_pos (p := fun x => decide (x ≠ 0)) (decide_eq_true hc), List.cons_append, hr,
        List.cons_append]

theorem cStr_ne_zero {l : Text} {c : UInt8} (hc : c ∈ cStr l) : c ≠ 0 := by
  have hpos := List.mem_takeWhile_imp (p := fun x => decide (x ≠ 0)) hc
  exact of_decide_eq_true hpos

theorem not_zero_of_cStr {l : Text} : ∀ c ∈ cStr l, (c == 0) = false := by
  intro c hc
  rw [beq_eq_false_iff_ne]
  exact cStr_ne_zero hc

theorem str_cStr (pre l r : Text) : str (pre ++ (l ++ 0 :: r)) pre.length = some (cStr l) := by
  obtain ⟨r', hr⟩ := cStr_split l r
  rw [str_append, hr, Scan.findIdx?_append_cons not_zero_of_cStr rfl, Option.map_some, List.take_left]

theorem strEnd_cStr (pre l r : Text) :
    strEnd (pre ++ (l ++ 0 :: r)) pre.length = some (pre.length + (cStr l).length) := by
  obtain ⟨r', hr⟩ := cStr_split l r
  rw [hr]
  exact Scan.forward_append not_zero_of_cStr rfl pre r'

/-- White space in front of a text that does not begin with white space stays only where the text is empty. -/
theorem stripEndSpaces_spec (pre : Text) {c₀ : UInt8} (hc₀ : isCSpace c₀ = false) {sp v : Text}
    (hsp : ∀ c ∈ sp, isCSpace c = true) (hv : ∀ c ∈ v.head?, isCSpace c = false) (hzero : ∀ c ∈ v, c ≠ 0)
    {rest : Text} (hrest : rest ≠ []) :
    ∃ buf', stripEndSpaces (pre ++ c₀ :: (sp ++ (v ++ rest))) (pre.length + 1 + sp.length + v.length)
        = some buf' ∧
      str buf' (pre.length + 1 + sp.length) =
        if v = [] ∧ sp ≠ [] then (rest.findIdx? (· == 0)).map fun n => rest.take n else some (strip v) := by
  obtain ⟨tr, htr, hspace, hlast⟩ := Scan.exists_strip isCSpace v
  have hnot : ∀ l : Text, (∀ c ∈ l, isCSpace c = true) → ∀ c ∈ l, (!isCSpace c) = false := by
    intro l hl c hc
    rw [hl c hc]
    rfl
  obtain hnil | ⟨b, c, hb, hc⟩ := hlast
  · -- nothing is left: the search goes back over the white space in front
    have hvnil : v = [] := by
      cases hcons : v with
      | nil => rfl
      | cons c r =>
        have hhead := hv c (by rw [hcons]; rfl)
        rw [hspace c (by rw [hnil, List.nil_append] at htr; rw [← htr, hcons]; exact List.mem_cons_self)] at hhead
        cases hhead
    obtain ⟨x, y, hxy⟩ := List.exists_cons_of_ne_nil (show sp ++ rest ≠ [] by simp [hrest])
    refine ⟨(pre ++ [c₀]) ++ 0 :: y, ?_, ?_⟩
    · unfold stripEndSpaces
      rw [hvnil, List.nil_append,
        Scan.backward_append (hnot sp hsp) (by rw [hc₀]; rfl) pre rest (by simp)]
      show Scan.store (pre ++ c₀ :: (sp ++ rest)) (pre.length + 1) 0 = _
      have hstore := Scan.store_append (pre ++ [c₀]) y x 0
      rw [List.length_append, List.length_singleton] at hstore
      rw [hxy, ← hstore, List.append_assoc, List.singleton_append]
    · cases hsp' : sp with
      | nil =>
        rw [if_neg (fun h => h.2 rfl), hvnil]
        have hstr := str_cStr (pre ++ [c₀]) [] y
        rw [List.length_append, List.length_singleton] at hstr
        exact hstr
      | cons s sp' =>
        rw [if_pos ⟨hvnil, List.cons_ne_nil s sp'⟩]
        rw [hsp', List.cons_append] at hxy
        obtain ⟨-, rfl⟩ := List.cons.inj hxy
        have hstr := str_append (pre ++ c₀ :: 0 :: sp') rest
        rw [← hstr, List.length_append, List.length_cons, List.length_cons, List.length_cons]
        congr 1
        · simp
        · omega
  -- the search stops at the last character of the text, which stays
  · have hvne : v ≠ [] := by
      rw [htr, hb]
      simp
    obtain ⟨x, y, hxy⟩ := List.exists_cons_of_ne_nil (show tr ++ rest ≠ [] by simp [hrest])
    refine ⟨(pre ++ c₀ :: (sp ++ (b ++ [c]))) ++ 0 :: y, ?_, ?_⟩
    · have hbuf : pre ++ c₀ :: (sp ++ (v ++ rest)) = (pre ++ c₀ :: (sp ++ b)) ++ c :: (tr ++ rest) := by
        rw [htr, hb]
        simp
      have hback := Scan.backward_append (p := fun c => !isCSpace c) (hnot tr hspace) (c := c)
        (by rw [hc]; rfl) (pre ++ c₀ :: (sp ++ b)) rest rfl
      have hfin : pre.length + 1 + sp.length + v.length = (pre ++ c₀ :: (sp ++ b)).length + 1 + tr.length := by
        rw [htr, hb]
        simp
        omega
      have hstore := Scan.store_append (pre ++ c₀ :: (sp ++ (b ++ [c]))) y x 0
      unfold stripEndSpaces
      rw [hbuf, hfin, hback]
      show Scan.store ((pre ++ c₀ :: (sp ++ b)) ++ c :: (tr ++ rest)) ((pre ++ c₀ :: (sp ++ b)).length + 1) 0 = _
      rw [hxy, ← hstore]
      congr 1
      · simp
      · simp
        omega
    · rw [if_neg (fun h => hvne h.1)]
      have hstr := str_cStr (pre ++ c₀ :: sp) (b ++ [c]) y
      have hcstr : cStr (b ++ [c]) = strip v := by
        unfold cStr strip
        rw [hb, List.takeWhile_eq_self_iff]
        intro d hd
        refine decide_eq_true (hzero d ?_)
        rw [htr, hb]
        exact List.mem_append_left tr hd
      rw [← hcstr, ← hstr]
      congr 1
      · simp
      · simp
        omega

/-- The token at the start of a text, and what stands behind it before and after the white space at its end
    is taken away. -/
structure Token (pre t buf : Text) (val : Nat) : Prop where
  key : str buf pre.length = some (key t)
  value : str buf val = some (value t)
  strip : ∃ fin buf', strEnd buf val = some fin ∧ stripEndSpaces buf fin = some buf' ∧
    str buf' val = some (strip (Cfg.value t))

theorem nextSpaceToken_none {t : Text} (h : ¬ HasSpace t) (pre : Text) :
    nextSpaceToken (pre ++ (t ++ [0])) pre.length = none := by
  have hnone : Scan.forward isCSpace (pre ++ (t ++ [0])) pre.length = none := by
    rw [Scan.forward_eq_none_iff]
    intro c hc
    obtain hc | hc := List.mem_append.1 hc
    · exact Bool.eq_false_iff.2 fun hspace => h ⟨c, hc, hspace⟩
    · rw [List.mem_singleton.1 hc]
      exact isCSpace_zero
  unfold nextSpaceToken
  rw [hnone]
  rfl

theorem head_dropWhile {t : Text} : ∀ c ∈ (t.dropWhile isCSpace).head?, isCSpace c = false := by
  intro c hc
  have hne : t.dropWhile isCSpace ≠ [] := by
    intro hnil
    rw [hnil] at hc
    cases hc
  have hhead := List.head_dropWhile_not isCSpace hne
  rw [List.head?_eq_some_head hne, Option.mem_some_iff] at hc
  rwa [hc] at hhead

theorem head_cStr {t : Text} : ∀ c ∈ (cStr t).head?, c ∈ t.head? := by
  intro c hc
  cases t with
  | nil => cases hc
  | cons d t =>
    unfold cStr at hc
    by_cases hd : d = 0
    · rw [List.takeWhile_cons_of_neg (p := fun x => decide (x ≠ 0)) (by simp [hd])] at hc
      cases hc
    · rwa [List.takeWhile_cons_of_pos (p := fun x => decide (x ≠ 0)) (decide_eq_true hd)] at hc

theorem nextSpaceToken_spec {t : Text} (h : HasSpace t) (pre : Text) :
    ∃ buf val, nextSpaceToken (pre ++ (t ++ [0])) pre.length = some (buf, val) ∧ Token pre t buf val := by
  obtain ⟨w, s, t₁, rfl, hw, hs⟩ := Scan.exists_cut h
  have hnot : ∀ c ∈ w, (!isCSpace c) = true := by
    intro c hc
    rw [hw c hc]
    rfl
  have hkey : key (w ++ s :: t₁) = cStr w := by
    unfold key
    rw [Scan.takeWhile_append_cons hnot (by rw [hs]; rfl)]
  have hvalue : value (w ++ s :: t₁) = cStr (t₁.dropWhile isCSpace) := by
    unfold value
    rw [Scan.dropWhile_append_cons hnot (by rw [hs]; rfl), List.dropWhile_cons_of_pos hs]
  rw [show pre ++ (w ++ s :: t₁ ++ [0]) = pre ++ (w ++ s :: (t₁ ++ [0])) by simp]
  -- the first white space becomes the end of the key
  obtain ⟨buf, hbuf⟩ : ∃ buf, buf = (pre ++ w) ++ 0 :: (t₁ ++ [0]) := ⟨_, rfl⟩
  have hsplit : buf = (pre ++ w ++ 0 :: t₁.takeWhile isCSpace) ++ (t₁.dropWhile isCSpace ++ [0]) := by
    rw [hbuf, List.append_assoc _ (0 :: _), List.cons_append, ← List.append_assoc (t₁.takeWhile isCSpace),
      List.takeWhile_append_dropWhile]
  have hlen : (pre ++ w ++ 0 :: t₁.takeWhile isCSpace).length
      = pre.length + w.length + 1 + (t₁.takeWhile isCSpace).length := by
    simp
    omega
  refine ⟨buf, pre.length + w.length + 1 + (t₁.takeWhile isCSpace).length, ?_, ?_, ?_, ?_⟩
  · have hstore := Scan.store_append (pre ++ w) (t₁ ++ [0]) s 0
    rw [List.length_append, List.append_assoc, ← hbuf] at hstore
    have hval := skipSpaces_append (pre ++ (w ++ [0])) t₁
    have hfront : pre ++ (w ++ [0]) ++ (t₁ ++ [0]) = buf := by
      rw [hbuf]
      simp
    have hpos : (pre ++ (w ++ [0])).length = pre.length + w.length + 1 := by
      simp
      omega
    rw [hfront, hpos] at hval
    unfold nextSpaceToken
    rw [Scan.forward_append hw hs]
    show (Scan.store (pre ++ (w ++ s :: (t₁ ++ [0]))) (pre.length + w.length) 0).bind _ = _
    rw [hstore]
    show (skipSpaces buf (pre.length + w.length + 1)).bind _ = _
    rw [hval]
    rfl
  · rw [hkey, hbuf, List.append_assoc]
    exact str_cStr pre w (t₁ ++ [0])
  · rw [hvalue, hsplit, ← hlen]
    exact str_cStr _ _ []
  · obtain ⟨rest, hrest⟩ := cStr_split (t₁.dropWhile isCSpace) []
    obtain ⟨buf', hstrip, hstr⟩ := @stripEndSpaces_spec (pre ++ w) _ isCSpace_zero
      (t₁.takeWhile isCSpace) (cStr (t₁.dropWhile isCSpace)) (fun c hc => List.mem_takeWhile_imp hc)
      (fun c hc => head_dropWhile c (head_cStr c hc)) (fun c hc => cStr_ne_zero hc)
      (0 :: rest) (List.cons_ne_nil 0 rest)
    rw [List.length_append] at hstrip hstr
    refine ⟨pre.length + w.length + 1 + (t₁.takeWhile isCSpace).length + (cStr (t₁.dropWhile isCSpace)).length,
      buf', ?_, ?_, ?_⟩
    · rw [hsplit, ← hlen]
      exact strEnd_cStr _ _ []
    · rw [hsplit, hrest, List.append_assoc _ (0 :: _), List.cons_append]
      exact hstrip
    · rw [hstr, hvalue]
      split_ifs with hif
      · rw [hif.1]
        rfl
      · rfl

theorem isCSpace_bracket : isCSpace (chr '[') = false ∧ isCSpace (chr ']') = false := by decide

theorem sectionName_eq (pre t : Text) :
    sectionName (pre ++ chr '[' :: (t ++ [0])) pre.length = some (header t) := by
  have hcur := skipSpaces_append (pre ++ [chr '[']) t
  have hlen : (pre ++ [chr '[']).length = pre.length + 1 := by simp
  rw [List.append_assoc, List.singleton_append, hlen] at hcur
  obtain ⟨rest, hrest⟩ := cStr_split (t.dropWhile isCSpace) []
  have hbuf : pre ++ chr '[' :: (t ++ [0])
      = (pre ++ chr '[' :: t.takeWhile isCSpace) ++ (cStr (t.dropWhile isCSpace) ++ 0 :: rest) := by
    rw [← hrest, List.append_assoc, List.cons_append, ← List.append_assoc (t.takeWhile isCSpace),
      List.takeWhile_append_dropWhile]
  have hlen' : (pre ++ chr '[' :: t.takeWhile isCSpace).length
      = pre.length + 1 + (t.takeWhile isCSpace).length := by
    simp
    omega
  have hzero : ∀ c ∈ cStr (t.dropWhile isCSpace), c ≠ 0 := fun c hc => cStr_ne_zero hc
  have hhead : ∀ c ∈ (cStr (t.dropWhile isCSpace)).head?, isCSpace c = false :=
    fun c hc => head_dropWhile c (head_cStr c hc)
  have hblank : t.takeWhile isCSpace ≠ [] ↔ t.dropWhile isCSpace ≠ t := by
    have hall := List.takeWhile_append_dropWhile (p := isCSpace) (l := t)
    constructor
    · intro hne heq
      rw [heq] at hall
      exact hne (by simpa using hall)
    · intro hne heq
      rw [heq, List.nil_append] at hall
      exact hne hall
  -- the buffer is cut at the name, which `strip_end_spaces` closes with a zero
  unfold sectionName header
  rw [hcur]
  show (strchr _ _ _).bind _ = _
  rw [hbuf, ← hlen']
  generalize cStr (t.dropWhile isCSpace) = v at *
  unfold strchr
  by_cases hclose : ∃ c ∈ v, (c == chr ']') = true
  · -- the name is what stands in front of the closing bracket
    obtain ⟨name, c, v', rfl, hname, hc⟩ := Scan.exists_cut hclose
    have hopen : ∀ d ∈ name, (d == chr ']' || d == 0) = false := by
      intro d hd
      rw [hname d hd, Bool.false_or, beq_eq_false_iff_ne]
      exact hzero d (List.mem_append_left _ hd)
    have hget : (pre ++ chr '[' :: t.takeWhile isCSpace ++ (name ++ c :: (v' ++ 0 :: rest)))[
        (pre ++ chr '[' :: t.takeWhile isCSpace).length + name.length]? = some (chr ']') := by
      rw [List.getElem?_append_right (Nat.le_add_right _ _), Nat.add_sub_cancel_left,
        List.getElem?_append_right (Nat.le_refl _), Nat.sub_self]
      exact congrArg some (eq_of_beq hc)
    have htake : inBrackets (name ++ c :: v') = name := by
      refine Scan.takeWhile_append_cons (fun d hd => ?_) (by rw [hc]; rfl) v'
      rw [hname d hd]
      rfl
    have hne : name ≠ name ++ c :: v' := by simp
    obtain ⟨buf', hstrip, hstr⟩ := @stripEndSpaces_spec pre _ isCSpace_bracket.1
      (t.takeWhile isCSpace) name (fun c hc => List.mem_takeWhile_imp hc)
      (fun d hd => hhead d (by
        cases name with
        | nil => cases hd
        | cons e name => exact hd))
      (fun d hd => hzero d (List.mem_append_left _ hd)) (c :: (v' ++ 0 :: rest)) (List.cons_ne_nil _ _)
    rw [List.append_assoc name, List.cons_append, Scan.forward_append hopen (by rw [hc]; rfl), Option.map_some, hget,
      if_pos rfl, htake, if_neg hne]
    show (stripEndSpaces _ _).bind _ = _
    rw [hlen', List.append_assoc, List.cons_append, hstrip]
    show (str buf' _).bind _ = _
    rw [hstr]
    by_cases hcase : name = [] ∧ t.takeWhile isCSpace ≠ []
    · rw [if_pos hcase, if_pos ⟨hcase.1, hblank.1 hcase.2⟩]
      obtain ⟨rfl, -⟩ := hcase
      have hstring : ∀ d ∈ c :: v', (d == 0) = false := by
        intro d hd
        rw [beq_eq_false_iff_ne]
        exact hzero d hd
      rw [← List.cons_append, Scan.findIdx?_append_cons hstring rfl, Option.map_some, List.take_left]
      rfl
    · rw [if_neg hcase, if_neg fun h => hcase ⟨h.1, hblank.2 h.2⟩]
      rfl
  · -- no bracket up to the end of the string
    have hopen : ∀ d ∈ v, (d == chr ']' || d == 0) = false := by
      intro d hd
      rw [Bool.or_eq_false_iff, beq_eq_false_iff_ne (b := 0)]
      exact ⟨Bool.eq_false_iff.2 fun h => hclose ⟨d, hd, h⟩, hzero d hd⟩
    have hget : (pre ++ chr '[' :: t.takeWhile isCSpace ++ (v ++ 0 :: rest))[
        (pre ++ chr '[' :: t.takeWhile isCSpace).length + v.length]? = some 0 := by
      rw [List.getElem?_append_right (Nat.le_add_right _ _), Nat.add_sub_cancel_left,
        List.getElem?_append_right (Nat.le_refl _), Nat.sub_self]
      rfl
    have htake : inBrackets v = v := by
      unfold inBrackets
      rw [List.takeWhile_eq_self_iff]
      intro d hd
      rw [Bool.not_eq_true', Bool.eq_false_iff]
      exact fun h => hclose ⟨d, hd, h⟩
    rw [Scan.forward_append hopen rfl, Option.map_some, hget, if_neg (by decide), htake, if_pos rfl]
    rfl

/-! ## Files -/

/-- What a line is, by its first character that is no white space. -/
inductive LineKind
  | blank
  | header (t : Text)
  | entry (t : Text)

def lineKind (line : Text) : LineKind :=
  match line.dropWhile isCSpace with
  | [] => .blank
  | c :: t =>
    if c = chr '[' then .header t else if c = 0 ∨ c = chr '#' then .blank else .entry (c :: t)

/-- The loop over the lines: whether all of them are right, and what they make of the state. -/
def readLines {σ : Type} (line : σ → Text → Option (Bool × σ)) : σ → List Text → Option (Bool × σ)
  | s, [] => some (true, s)
  | s, l :: ls =>
    match line s (l ++ [0]) with
    | some (true, s) => readLines line s ls
    | r => r

/-- What every line keeps is kept by the lines, also by those before one that is refused. -/
theorem readLines_keeps {σ : Type} {line : σ → Text → Option (Bool × σ)} {P : σ → Prop}
    (hline : ∀ s l ok s', P s → line s (l ++ [0]) = some (ok, s') → P s') {ls : List Text} {s s' : σ} {ok : Bool}
    (h : P s) (hread : readLines line s ls = some (ok, s')) : P s' := by
  induction ls generalizing s with
  | nil =>
    cases hread
    exact h
  | cons l ls ih =>
    rw [readLines] at hread
    split at hread
    next s₁ hfirst => exact ih (hline s l true s₁ h hfirst) hread
    next => exact hline s l ok s' h hread

/-- The position of the first character, and this character. -/
theorem lineKind_spec (line : Text) : ∃ pre t, line ++ [0] = pre ++ (t ++ [0]) ∧
    skipSpaces (line ++ [0]) 0 = some pre.length ∧ (line ++ [0])[pre.length]? = some (peek t) ∧
    lineKind line = match t with
      | [] => .blank
      | c :: r => if c = chr '[' then .header r else if c = 0 ∨ c = chr '#' then .blank else .entry t := by
  refine ⟨line.takeWhile isCSpace, line.dropWhile isCSpace, ?_, ?_, ?_, ?_⟩
  · rw [← List.append_assoc, List.takeWhile_append_dropWhile]
  · have hskip := skipSpaces_append [] line
    rwa [List.nil_append, List.length_nil, Nat.zero_add] at hskip
  · have hsplit : line ++ [0] = line.takeWhile isCSpace ++ (line.dropWhile isCSpace ++ [0]) := by
      rw [← List.append_assoc, List.takeWhile_append_dropWhile]
    rw [hsplit, List.getElem?_append_right (Nat.le_refl _), Nat.sub_self]
    cases line.dropWhile isCSpace <;> rfl
  · unfold lineKind
    cases line.dropWhile isCSpace <;> rfl

/-- A run over lines is a run over the first ones and one over the rest. -/
theorem readLines_append {σ : Type} {line : σ → Text → Option (Bool × σ)} {s s' : σ} {ls : List Text}
    (h : readLines line s ls = some (true, s')) (ls' : List Text) :
    readLines line s (ls ++ ls') = readLines line s' ls' := by
  induction ls generalizing s with
  | nil =>
    cases h
    rfl
  | cons l ls ih =>
    rw [readLines] at h
    rw [List.cons_append, readLines]
    split at h
    next hline => exact ih h
    next r hne =>
      exact absurd h (hne s')

/-- A run is defined if and only if every line that it reaches is. -/
theorem readLines_isSome_iff {σ : Type} {line : σ → Text → Option (Bool × σ)} {s : σ} {ls : List Text} :
    (readLines line s ls).isSome ↔ ∀ pre l post s', ls = pre ++ l :: post →
      readLines line s pre = some (true, s') → (line s' (l ++ [0])).isSome := by
  constructor
  · intro h pre l post s' hls hpre
    rw [hls, readLines_append hpre, readLines] at h
    cases hline : line s' (l ++ [0]) with
    | none =>
      rw [hline] at h
      exact h
    | some r => rfl
  · intro h
    induction ls generalizing s with
    | nil => rfl
    | cons l ls ih =>
      have hfirst := h [] l ls s rfl rfl
      obtain ⟨⟨ok, s'⟩, hline⟩ := Option.isSome_iff_exists.1 hfirst
      rw [readLines, hline]
      cases ok with
      | false => rfl
      | true =>
        refine ih fun pre l' post s'' hls hpre => ?_
        refine h (l :: pre) l' post s'' (by rw [hls, List.cons_append]) ?_
        rw [readLines, hline]
        exact hpre

end PtpMgmt.Cfg
