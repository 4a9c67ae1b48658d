import Onboarding.Router

/-! Navigators: whatever carries a target out, with a state of its own and any rule for refusing. -/
namespace Onboarding

structure Navigator (σ : Type) where
  call : Option TraceId → String → σ → Reply Event σ (Except Refusal Unit)

namespace Navigator

def memory : Navigator History := ⟨fun _ goal h => h.navigate goal⟩

/-- The calls that a navigator was given, the latest first, and the state it is in. -/
structure Journal (σ : Type) where
  calls : List (Option TraceId × String)
  state : σ

def Journal.start {σ : Type} (state : σ) : Journal σ := ⟨[], state⟩

def Journal.targets {σ : Type} (j : Journal σ) : List String := (j.calls.map Prod.snd).reverse

/-- Notes each call, refused ones too, and hands it on. -/
def noting {σ : Type} (n : Navigator σ) : Navigator (Journal σ) :=
  ⟨fun id goal j =>
    let reply := n.call id goal j.state
    ⟨reply.result, ⟨(id, goal) :: j.calls, reply.state⟩, reply.reports⟩⟩

def scripted (refusal? : String → Option Refusal) : Navigator Unit :=
  ⟨fun _ goal _ =>
    match refusal? goal with
    | some refusal => ⟨.error refusal, (), []⟩
    | none => ⟨.ok (), (), []⟩⟩

end Navigator
end Onboarding
