import Onboarding.Proofs.Histories

/-! The configured base. Validation looks for separators in the text, the router splits it; they accept
the same bases. -/
namespace Onboarding.Config

/-- In a text that begins with a separator, more than one byte means more than the separator. -/
theorem one_lt_utf8ByteSize {base : String} {rest : List Char} (h : base.toList = Path.separator :: rest) :
    1 < base.utf8ByteSize ↔ rest ≠ [] := by
  have parts : base = "/" ++ String.ofList rest := by
    apply String.ext
    simp [h, Path.separator]
  have slash : "/".utf8ByteSize = 1 := rfl
  have tail : (String.ofList rest).utf8ByteSize = 0 ↔ rest = [] := by
    rw [String.utf8ByteSize_eq_zero_iff, ← String.toList_eq_nil_iff, String.toList_ofList]
  rw [parts, String.utf8ByteSize_append, slash, Ne, ← tail]
  omega

theorem baseFault?_eq_none_iff {base : String} :
    baseFault? base = none ↔ History.IsLocation base := by
  by_cases absolute : Path.IsAbsolute base
  · obtain ⟨rest, begun⟩ := List.head?_eq_some_iff.mp absolute
    have top : base = History.root ↔ rest = [] := by
      rw [← String.toList_inj, begun]
      simp [History.root, Path.separator]
    rw [History.IsLocation, Path.exists_split_iff begun, Path.nil_mem_pieces_iff begun, top]
    simp only [baseFault?, absolute, not_true_eq_false, if_false, one_lt_utf8ByteSize begun]
    by_cases short : rest = [] <;> simp [short]
  · have below : base ≠ History.root := by
      rintro rfl
      exact absolute rfl
    simp [baseFault?, absolute, History.IsLocation, below, Path.split_relative absolute]

theorem validate_eq_ok_iff {config : Config} :
    config.validate = .ok () ↔
      History.IsLocation config.routerBase ∧ Text.trim config.logLevel.toList ≠ [] := by
  rw [← baseFault?_eq_none_iff, validate]
  cases baseFault? config.routerBase with
  | some fault => simp
  | none => by_cases blank : Text.trim config.logLevel.toList = [] <;> simp [blank]

theorem exists_start_iff {base : String} :
    (∃ h, History.start base = .ok h) ↔ History.IsLocation base := by
  simp [History.start_eq_ok_iff]

/-- Unless the filter is blank, a configuration is valid exactly when the router starts at its base. -/
theorem validate_iff_start (config : Config) :
    (Text.trim config.logLevel.toList ≠ [] →
      (config.validate = .ok () ↔ ∃ h, History.start config.routerBase = .ok h)) ∧
    (Text.trim config.logLevel.toList ≠ [] →
      (config.validate = .ok () ↔ ∃ h, History.ofConfig config = .ok h)) ∧
    (config.validate = .ok () → ∃ h, History.ofConfig config = .ok h) ∧
    ((∃ h, History.ofConfig config = .ok h) → baseFault? config.routerBase = none) := by
  have agree (filter : Text.trim config.logLevel.toList ≠ []) :
      config.validate = .ok () ↔ ∃ h, History.start config.routerBase = .ok h := by
    rw [validate_eq_ok_iff, exists_start_iff]
    exact and_iff_left filter
  refine ⟨agree, agree, ?_, ?_⟩
  · intro valid
    exact exists_start_iff.mpr (validate_eq_ok_iff.mp valid).1
  · intro started
    exact baseFault?_eq_none_iff.mpr (exists_start_iff.mp started)

/-- A base of several levels with a character of two bytes is accepted on both sides, and one that ends
with a separator on neither. -/
theorem validate_iff_start_setup :
    (Config.mk "/setup/é" " warn" false).validate = .ok () ∧
    ¬(Config.mk "/setup/" " warn" false).validate = .ok () := by
  have filter : Text.trim (" warn" : String).toList ≠ [] := by decide
  constructor
  · exact ((validate_iff_start ⟨"/setup/é", " warn", false⟩).1 filter).mpr ⟨⟨["/setup/é"]⟩, rfl⟩
  · intro valid
    obtain ⟨h, started⟩ := (validate_iff_start ⟨"/setup/", " warn", false⟩).2.2.1 valid
    contradiction

end Onboarding.Config
