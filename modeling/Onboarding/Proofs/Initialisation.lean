import Onboarding.Application
import Onboarding.Proofs.Bases

/-! The configuration of a process. It is the default one until the first initialisation that reads a
valid one, and that one from then on. What loading the file of variables does is left open: each
initialisation brings the environment that it reads. Runs of the application are runs of this kind. -/
namespace Onboarding

namespace Config

theorem validate_default : default.validate = .ok () :=
  validate_eq_ok_iff.mpr ⟨.inl rfl, by decide⟩

theorem start_of_validate {config : Config} (valid : config.validate = .ok ()) :
    History.ofConfig config = .ok ⟨[config.routerBase]⟩ :=
  History.start_eq_ok_iff.mpr ⟨(validate_eq_ok_iff.mp valid).1, rfl⟩

end Config

namespace Application

/-- What bears on the configuration of a process. -/
inductive Turn
  | read
  /-- An initialisation; once the file of variables is loaded, the environment is the given one. -/
  | initialise (environment : Environment)
  /-- Any other change of the environment. -/
  | change (environment : Environment)

def take (p : Application) : Turn → Reply Record Application Answer
  | .read => p.silently (.config p.currentConfig p.configSource)
  | .initialise environment => { p with environment }.adoptConfig.map .configured
  | .change environment => { p with environment }.silently .changed

/-- The configuration that a turn offers: the one that an initialisation reads, if it is valid. -/
def Turn.offer? : Turn → Option Config
  | .initialise environment =>
    match (Config.ofEnvironment environment).validate with
    | .ok () => some (Config.ofEnvironment environment)
    | .error _ => none
  | _ => none

/-- What an initialisation does: it fails on what it reads, or because a configuration is set, or it sets
what it reads. -/
theorem initialise_cases (p : Application) (environment : Environment) :
    (∃ fault, (Config.ofEnvironment environment).validate = .error fault ∧
      (Turn.initialise environment).offer? = none ∧
      p.take (.initialise environment) =
        { p with environment }.silently (.configured (.error fault.failure))) ∨
    ((Config.ofEnvironment environment).validate = .ok () ∧
      (Turn.initialise environment).offer? = some (Config.ofEnvironment environment) ∧
      ((∃ config, p.config = some config) ∧
        p.take (.initialise environment) =
          { p with environment }.silently (.configured (.error alreadyInitialized)) ∨
      p.config = none ∧
        p.take (.initialise environment) =
          { p with environment, config := some (Config.ofEnvironment environment) }.reporting
            [⟨.configured, p.trace.current⟩] (.configured (.ok (Config.ofEnvironment environment))))) := by
  cases checked : (Config.ofEnvironment environment).validate with
  | error fault =>
    refine .inl ⟨fault, rfl, by simp [Turn.offer?, checked], ?_⟩
    simp only [take, adoptConfig, checked]
    rfl
  | ok done =>
    refine .inr ⟨rfl, by simp [Turn.offer?, checked], ?_⟩
    cases present : p.config with
    | some config =>
      refine .inl ⟨⟨config, rfl⟩, ?_⟩
      simp only [take, adoptConfig, checked, present]
      rfl
    | none =>
      refine .inr ⟨rfl, ?_⟩
      simp only [take, adoptConfig, checked, present]
      rfl

theorem exists_of_map_ok {ε β γ : Type} {step : Except ε β} {f : β → γ} {c : γ}
    (mapped : step.map f = .ok c) : ∃ b, step = .ok b ∧ f b = c := by
  cases step with
  | error e => contradiction
  | ok b => exact ⟨b, rfl, Except.ok.inj mapped⟩

/-- A run that does not crash performs its first command and goes on. -/
theorem exists_of_run_cons {p : Application} {command : Command} {commands : List Command}
    {reply : Reply Record Application (List Answer)} (ran : p.run (command :: commands) = .ok reply) :
    ∃ first others, p.perform command = .ok first ∧ first.state.run commands = .ok others ∧
      reply = ⟨first.result :: others.result, others.state, first.reports ++ others.reports⟩ := by
  rw [run] at ran
  cases performed : p.perform command with
  | error crash =>
    rw [performed] at ran
    contradiction
  | ok first =>
    rw [performed] at ran
    obtain ⟨others, later, same⟩ := exists_of_map_ok ran
    exact ⟨first, others, rfl, later, same.symm⟩

def basedAt (base : String) : Environment := .ofList [(Config.baseVariable, base)]

end Application
end Onboarding
