import PtpMgmt.Cfg.ReadSa
import PtpMgmt.Cfg.Sections

set_option autoImplicit false

/-! # Scanning inside of the line

`next_space_token` looks for white space only, so it does not stop at the zero behind the line. Every line
that ends with a line feed has some; the last line of a file, and a line that the buffer is too small for,
need not. All other loops stop at the zero or at what they have written. -/

namespace PtpMgmt.Cfg

open Json

/-- A line, as it is in the buffer, that has no white space behind the first character of its key. -/
def Unspaced (l : Text) : Prop :=
  match lineKind l with
  | .entry t => ¬ HasSpace t
  | _ => False

theorem Terminated.not_unspaced {l : Text} (h : Terminated l) : ¬ Unspaced l := by
  obtain ⟨-, w, rfl, -⟩ := h
  intro hun
  have hspace : isCSpace (chr '\n') = true := by decide
  unfold Unspaced lineKind at hun
  cases hdrop : (w ++ [chr '\n']).dropWhile isCSpace with
  | nil =>
    rw [hdrop] at hun
    exact hun
  | cons c r =>
    rw [hdrop] at hun
    dsimp only at hun
    -- the line feed is at the end of what is left
    have hmem : chr '\n' ∈ c :: r := by
      have hsuffix : c :: r <:+ w ++ [chr '\n'] := hdrop ▸ List.dropWhile_suffix _
      have hlast := hsuffix.getLast (List.cons_ne_nil c r)
      rw [List.getLast_concat] at hlast
      rw [← hlast]
      exact List.getLast_mem _
    split_ifs at hun
    · exact hun
    · exact hun
    · exact hun ⟨_, hmem, hspace⟩

theorem ConfigFile.line_isSome_iff (rd : ConfigFile.Reader) (l : Text) :
    (ConfigFile.line rd (l ++ [0])).isSome ↔ ¬ Unspaced l := by
  rw [ConfigFile.line_eq]
  unfold Unspaced
  cases lineKind l with
  | blank => exact iff_of_true rfl id
  | header t =>
    rw [ConfigFile.act]
    refine iff_of_true ?_ id
    cases header t <;> rfl
  | entry t =>
    rw [ConfigFile.act]
    dsimp only
    split_ifs with hspace
    · exact iff_of_true rfl fun h => h hspace
    · exact iff_of_false (fun h => by cases h) fun h => h hspace

theorem SaReader.line_isSome_iff (rd : SaReader) (l : Text) :
    (SaReader.line rd (l ++ [0])).isSome ↔ (rd.step ≠ .other → ¬ Unspaced l) := by
  rw [SaReader.line_eq]
  unfold Unspaced
  cases lineKind l with
  | blank => exact iff_of_true rfl fun _ => id
  | header t =>
    rw [SaReader.act]
    refine iff_of_true ?_ fun _ => id
    cases header t with
    | none => rfl
    | some name => dsimp only; cases rd.flush <;> rfl
  | entry t =>
    rw [SaReader.act]
    cases hstep : rd.step with
    | other => exact iff_of_true rfl fun h => absurd rfl h
    | association =>
      dsimp only
      split_ifs with hspace
      · exact iff_of_true rfl fun _ h => h hspace
      · exact iff_of_false (fun h => by cases h) fun h => h (by decide) hspace
    | keys =>
      dsimp only
      split_ifs with hspace
      · exact iff_of_true rfl fun _ h => h hspace
      · exact iff_of_false (fun h => by cases h) fun h => h (by decide) hspace

/-- A line that `read_cfg` reaches: those in front of it are right. -/
def ReachesCfg (file l : Text) : Prop :=
  ∃ pre post rd, fileLines file = pre ++ l :: post ∧
    readLines ConfigFile.line ⟨ConfigFile.clearSections, globalSection⟩ pre = some (true, rd)

/-- A line that `read_sa` reaches and takes for the spp or a key of an association. -/
def ReachesSa (file l : Text) : Prop :=
  ∃ pre post rd, fileLines file = pre ++ l :: post ∧
    readLines SaReader.line SaReader.init pre = some (true, rd) ∧ rd.step ≠ .other

/-- For every file the reading stays inside of the lines if and only if every line that is reached has white
    space behind its key. -/
theorem inside_iff (file : Text) :
    (∀ cfg : ConfigFile, (cfg.readCfg (some file)).isSome ↔ ∀ l, ReachesCfg file l → ¬ Unspaced l) ∧
    (∀ sa : SaTable, (readSa sa (some file)).isSome ↔ ∀ l, ReachesSa file l → ¬ Unspaced l) := by
  constructor
  · intro cfg
    unfold ConfigFile.readCfg
    rw [Option.isSome_map, readLines_isSome_iff]
    constructor
    · rintro h l ⟨pre, post, rd, hlines, hpre⟩
      exact (ConfigFile.line_isSome_iff rd l).1 (h pre l post rd hlines hpre)
    · intro h pre l post rd hlines hpre
      exact (ConfigFile.line_isSome_iff rd l).2 (h l ⟨pre, post, rd, hlines, hpre⟩)
  · intro sa
    unfold readSa
    rw [Option.isSome_map, readLines_isSome_iff]
    constructor
    · rintro h l ⟨pre, post, rd, hlines, hpre, hstep⟩
      exact (SaReader.line_isSome_iff rd l).1 (h pre l post rd hlines hpre) hstep
    · intro h pre l post rd hlines hpre
      refine (SaReader.line_isSome_iff rd l).2 fun hstep => ?_
      exact h l ⟨pre, post, rd, hlines, hpre, hstep⟩

/-- A last line that is a key without a value and without a line feed. -/
theorem inside_iff_end :
    ¬ (∀ (cfg : ConfigFile) (file : Text), (cfg.readCfg (some file)).isSome) ∧
    ¬ (∀ (sa : SaTable) (file : Text), (readSa sa (some file)).isSome) := by
  constructor
  · intro h
    exact absurd (h ConfigFile.clearSections (txt "[global]\ndomainNumber")) (by decide)
  · intro h
    exact absurd (h (fun _ => none) (txt "[security_association]\nspp")) (by decide)

end PtpMgmt.Cfg
