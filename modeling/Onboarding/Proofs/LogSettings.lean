import Onboarding.Proofs.Outcomes
import Onboarding.Proofs.Settings

/-! What the settings of the log bear on. In two environments with the same base and no blank filter, a
run shows the same whatever the log filter and the log format are, unless one filter is cut within a
character and the other is not. What is logged may differ. -/
namespace Onboarding

/-- No filter is given, or one with a character that is not blank. -/
def Environment.Unblank (env : Environment) : Prop :=
  ∀ text, env.text? Config.filterVariable = some text → ∃ c ∈ text.toList, ¬Text.isBlank c

instance (env : Environment) : Decidable env.Unblank :=
  match given : env.text? Config.filterVariable with
  | none => .isTrue (by simp [Environment.Unblank, given])
  | some text =>
    decidable_of_iff (text.toList.any fun c => !Text.isBlank c) (by simp [Environment.Unblank, given])

namespace Config

theorem trim_logLevel_ofEnvironment {env : Environment} (unblank : env.Unblank) :
    Text.trim (ofEnvironment env).logLevel.toList ≠ [] := by
  rw [logLevel_ofEnvironment]
  cases given : env.text? filterVariable with
  | none => exact (validate_eq_ok_iff.mp validate_default).2
  | some text =>
    rw [Option.getD_some, Ne, Text.trim_eq_nil_iff]
    intro blank
    obtain ⟨c, member, shown⟩ := unblank text given
    exact shown (blank c member)

/-- The filter counts for nothing but not being blank. -/
theorem validate_congr {c d : Config} (base : c.routerBase = d.routerBase)
    (left : Text.trim c.logLevel.toList ≠ []) (right : Text.trim d.logLevel.toList ≠ []) :
    c.validate = d.validate := by
  rw [validate, validate, base, if_neg left, if_neg right]

end Config

namespace Program

theorem Due.congr {arguments : List String} {c d : Config} {ending : Ending}
    (base : c.routerBase = d.routerBase) (checked : c.validate = d.validate)
    (due : Due arguments (some c) ending) : Due arguments (some d) ending := by
  cases due with
  | usage wrong => exact .usage wrong
  | help asked => exact .help asked
  | misconfigured reading settings invalid =>
    obtain rfl := Option.some.inj settings
    exact .misconfigured reading rfl (checked ▸ invalid)
  | served reading settings valid leads =>
    obtain rfl := Option.some.inj settings
    exact .served reading rfl (checked ▸ valid) (base ▸ leads)

section

variable {a b : Environment} (base : a.value Config.baseVariable = b.value Config.baseVariable)
  (left : a.Unblank) (right : b.Unblank)
include base left right

theorem due_of_due {arguments : List String} {ending : Ending} (first second : Nat)
    (due : Due arguments (Application.start a none first).settings? ending) :
    Due arguments (Application.start b none second).settings? ending := by
  have based := Config.routerBase_ofEnvironment base
  have checked := Config.validate_congr based (Config.trim_logLevel_ofEnvironment left)
    (Config.trim_logLevel_ofEnvironment right)
  exact due.congr based checked

theorem shown_eq_of_not_crashes {arguments : List String} {first second : Nat}
    (whole : ¬Crashes arguments (.start a none first))
    (also : ¬Crashes arguments (.start b none second)) :
    (run arguments (.start a none first)).shown = (run arguments (.start b none second)).shown := by
  obtain ⟨ending, due, shown, _⟩ := run_of_not_crashes whole
  obtain ⟨other, otherDue, otherShown, _⟩ := run_of_not_crashes also
  have same : ending = other := (due_of_due base left right first second due).unique otherDue
  rw [shown, otherShown, same]

/-- Whatever the settings of the log are, a run shows the same, unless just one of two runs crashes. It
does so on a filter that is cut within a character, and on no other. -/
theorem run_regardless_of_log (arguments : List String) (first second : Nat) :
    (¬a.CutsFilter → ¬b.CutsFilter →
      (run arguments (.start a none first)).shown = (run arguments (.start b none second)).shown) ∧
    ((run arguments (.start a none first)).shown = (run arguments (.start b none second)).shown ↔
      (Crashes arguments (.start a none first) ↔ Crashes arguments (.start b none second))) := by
  refine ⟨fun whole also => ?_, fun same => ?_, fun alike => ?_⟩
  · exact shown_eq_of_not_crashes base left right (mt cutsFilter_of_crashes whole)
      (mt cutsFilter_of_crashes also)
  · have exits : (run arguments (.start a none first)).exit = (run arguments (.start b none second)).exit :=
      congrArg Prod.fst same
    rw [← exit_eq_iff_crashes, ← exit_eq_iff_crashes, exits]
  · by_cases crashes : Crashes arguments (.start a none first)
    · rw [run_of_crashes crashes, run_of_crashes (alike.mp crashes)]
    · exact shown_eq_of_not_crashes base left right crashes (mt alike.mpr crashes)

end

/-- A filter that is none and lines as JSON lead to the location that is led to without any settings. -/
theorem run_regardless_of_log_malformed :
    let settings := Environment.ofList [(Config.filterVariable, "a=b=c"), (Config.jsonVariable, "1")]
    (run ["connectLedger"] (.start settings none 0)).shown =
      (run ["connectLedger"] (.start .empty none 5)).shown := by
  intro settings
  have base : settings.value Config.baseVariable = Environment.empty.value Config.baseVariable := rfl
  have unblank : settings.Unblank := by decide +kernel
  have unset : Environment.empty.Unblank := by decide +kernel
  have whole : ¬settings.CutsFilter := by decide +kernel
  have standard : ¬Environment.empty.CutsFilter := by decide +kernel
  exact (run_regardless_of_log base unblank unset ["connectLedger"] 0 5).1 whole standard

/-- A filter that is cut ends a run that leads to a location when no filter is given. -/
theorem run_cutting_unlike_unset :
    cutting.value Config.baseVariable = Environment.empty.value Config.baseVariable ∧
    cutting.Unblank ∧ Environment.empty.Unblank ∧
    (run ["connectLedger"] (.start cutting none 0)).shown = (101, "", none) ∧
    (run ["connectLedger"] (.start .empty none 0)).shown = (0, "/ledger\n", none) := by
  refine ⟨rfl, by decide +kernel, by decide +kernel, ?_, ?_⟩
  · rw [run_of_crashes crashes_cutting]
    rfl
  · decide +kernel

end Program

end Onboarding
