import Mathlib.Data.List.Basic
import Mathlib.Data.List.Induction
import Onboarding.Proofs.Activations

/-! The bindings of a trigger are a map that keeps the order in which its actions were first bound. What
holds after any bindings follows from what a single one does to the actions and to the targets. -/
namespace Onboarding.Trigger

variable {α : Type} [BEq α]

def bindAll (t : Trigger α) (calls : List (Binding α)) : Trigger α :=
  calls.foldl (fun t b => t.bind b.action b.target) t

@[simp] theorem bindAll_nil (t : Trigger α) : t.bindAll [] = t := rfl

@[simp] theorem bindAll_cons (t : Trigger α) (b : Binding α) (calls : List (Binding α)) :
    t.bindAll (b :: calls) = (t.bind b.action b.target).bindAll calls := rfl

theorem bindAll_append (t : Trigger α) (before after : List (Binding α)) :
    t.bindAll (before ++ after) = (t.bindAll before).bindAll after := List.foldl_append

/-- The target of an action depends on the bindings of that action alone. -/
theorem target?_bindAll_filter [EquivBEq α] {t other : Trigger α} {action : α}
    (alike : t.target? action = other.target? action) (calls : List (Binding α)) :
    (t.bindAll calls).target? action =
      (other.bindAll (calls.filter fun b => b.action == action)).target? action := by
  -- The triggers may differ in all other actions, so both are kept general.
  induction calls generalizing t other with
  | nil => exact alike
  | cons b calls ih =>
    rw [List.filter_cons, bindAll_cons]
    by_cases same : b.action == action
    · rw [if_pos same, bindAll_cons]
      apply ih
      rw [target?_bind, target?_bind, if_pos same, if_pos same]
    · rw [if_neg same]
      apply ih
      rw [target?_bind, if_neg same, alike]

variable [LawfulBEq α]

theorem target?_bind_self (t : Trigger α) (action : α) (target : Target) :
    (t.bind action target).target? action = some target := by
  rw [target?_bind, if_pos (beq_self_eq_true action)]

theorem target?_bind_of_ne (t : Trigger α) {action other : α} (apart : other ≠ action)
    (target : Target) : (t.bind action target).target? other = t.target? other := by
  rw [target?_bind, if_neg fun same => apart (eq_of_beq same).symm]

/-- The latest binding of an action decides on its target. -/
theorem target?_bindAll_last (t : Trigger α) (before : List (Binding α)) (action : α) (target : Target)
    {after : List (Binding α)} (last : action ∉ after.map Binding.action) :
    (t.bindAll (before ++ ⟨action, target⟩ :: after)).target? action = some target := by
  have nothing : after.filter (fun b => b.action == action) = [] := by
    apply List.filter_eq_nil_iff.mpr
    intro b member same
    exact last (List.mem_map.mpr ⟨b, member, eq_of_beq same⟩)
  rw [bindAll_append, bindAll_cons, target?_bindAll_filter rfl, nothing, bindAll_nil, target?_bind_self]

theorem target?_eq_none_iff {t : Trigger α} {action : α} :
    t.target? action = none ↔ action ∉ t.actions := by
  simp [target?, actions]

/-- What a binding does to the actions: one that is bound keeps its place, and a new one comes last. -/
theorem actions_bind_cases (t : Trigger α) (action : α) (target : Target) :
    (action ∈ t.actions ∧ (t.bind action target).actions = t.actions) ∨
    (action ∉ t.actions ∧ (t.bind action target).actions = t.actions ++ [action]) := by
  obtain ⟨bindings⟩ := t
  simp only [bind, actions]
  induction bindings with
  | nil => exact .inr ⟨List.not_mem_nil, rfl⟩
  | cons b bindings ih =>
    by_cases same : b.action = action
    · exact .inl ⟨by simp [same], by simp [rebind, same]⟩
    · have apart : ¬action = b.action := Ne.symm same
      rcases ih with ⟨member, kept⟩ | ⟨new, added⟩
      · exact .inl ⟨by simp [member], by simp [rebind, same, kept]⟩
      · exact .inr ⟨by simp [apart, new], by simp [rebind, same, added]⟩

/-- A binding leaves the places of the other actions. -/
theorem getElem?_actions_bind (t : Trigger α) {action other : α} (apart : other ≠ action)
    (target : Target) (place : Nat) :
    (t.bind action target).actions[place]? = some other ↔ t.actions[place]? = some other := by
  rcases actions_bind_cases t action target with ⟨_, kept⟩ | ⟨_, added⟩
  · rw [kept]
  · rw [added]
    by_cases inside : place < t.actions.length
    · rw [List.getElem?_append_left inside]
    · have outside : t.actions.length ≤ place := Nat.le_of_not_lt inside
      rw [List.getElem?_append_right outside, List.getElem?_eq_none outside, List.getElem?_singleton]
      split <;> simp [Ne.symm apart]

structure InOrder (calls : List (Binding α)) (t : Trigger α) : Prop where
  members : ∀ action, action ∈ t.actions ↔ action ∈ calls.map Binding.action
  ordered : t.actions.Pairwise fun a b =>
    (calls.map Binding.action).idxOf a < (calls.map Binding.action).idxOf b

theorem InOrder.bind {calls : List (Binding α)} {t : Trigger α} (inOrder : InOrder calls t)
    (b : Binding α) : InOrder (calls ++ [b]) (t.bind b.action b.target) := by
  have early {action : α} (member : action ∈ t.actions) :
      ((calls ++ [b]).map Binding.action).idxOf action = (calls.map Binding.action).idxOf action := by
    rw [List.map_append, List.idxOf_append_of_mem ((inOrder.members action).mp member)]
  have still : t.actions.Pairwise fun a c => ((calls ++ [b]).map Binding.action).idxOf a <
      ((calls ++ [b]).map Binding.action).idxOf c := by
    apply inOrder.ordered.imp_of_mem
    intro a c first second less
    rw [early first, early second]
    exact less
  rcases actions_bind_cases t b.action b.target with ⟨member, kept⟩ | ⟨new, added⟩
  · rw [inOrder.members] at member
    constructor
    · intro action
      rw [kept, inOrder.members, List.map_append, List.mem_append, List.map_singleton,
        List.mem_singleton]
      exact ⟨.inl, fun either => either.elim id fun same => same ▸ member⟩
    · rw [kept]
      exact still
  · constructor
    · intro action
      rw [added, List.mem_append, inOrder.members, List.map_append, List.mem_append, List.map_singleton]
    · rw [added]
      refine List.pairwise_append.mpr ⟨still, List.pairwise_singleton .., ?_⟩
      intro a member c single
      obtain rfl := List.mem_singleton.mp single
      have unbound : b.action ∉ calls.map Binding.action := mt (inOrder.members _).mpr new
      have below := List.idxOf_lt_length_of_mem ((inOrder.members a).mp member)
      rw [early member, List.map_append, List.idxOf_append_of_notMem unbound]
      omega

theorem inOrder_bindAll (calls : List (Binding α)) : InOrder calls (empty.bindAll calls) := by
  -- From the last call down, since the places in `InOrder` are those in all calls made so far.
  induction calls using List.reverseRecOn with
  | nil => exact ⟨fun _ => Iff.rfl, List.Pairwise.nil⟩
  | append_singleton calls b ih =>
    rw [bindAll_append]
    exact ih.bind b

/-- However actions are bound, each is there once, in the order of the first bindings, and has the target
of its latest binding. One binding leaves the places and the targets of all other actions, and bindings
that agree on each action alone lead to the same targets. -/
theorem bindAll_keeps_order (calls : List (Binding α)) :
    let t := empty.bindAll calls
    let bound := calls.map Binding.action
    t.actions.Nodup ∧ (∀ action, action ∈ t.actions ↔ action ∈ bound) ∧
    t.actions.Pairwise (fun a b => bound.idxOf a < bound.idxOf b) ∧
    (∀ before action target after, calls = before ++ ⟨action, target⟩ :: after →
      action ∉ after.map Binding.action → t.target? action = some target) ∧
    (∀ action, t.target? action = none ↔ action ∉ bound) ∧
    (∀ action target other, other ≠ action →
      (t.bind action target).target? other = t.target? other ∧
      ∀ place : Nat, (t.bind action target).actions[place]? = some other ↔ t.actions[place]? = some other) ∧
    (∀ others, (∀ action, (others.filter fun b => b.action == action) =
        calls.filter fun b => b.action == action) →
      ∀ action, (empty.bindAll others).target? action = t.target? action) := by
  intro t bound
  have inOrder : InOrder calls t := inOrder_bindAll calls
  refine ⟨?_, inOrder.members, inOrder.ordered, ?_, ?_, ?_, ?_⟩
  · apply inOrder.ordered.imp
    rintro a b less rfl
    exact Nat.lt_irrefl _ less
  · rintro before action target after rfl last
    exact target?_bindAll_last empty before action target last
  · intro action
    rw [target?_eq_none_iff, inOrder.members]
  · intro action target other apart
    exact ⟨target?_bind_of_ne t apart target, getElem?_actions_bind t apart target⟩
  · intro others alike action
    rw [target?_bindAll_filter rfl others, alike, ← target?_bindAll_filter rfl calls]

/-- The first of two actions is bound again, before and after the other. -/
theorem bindAll_keeps_order_rebound :
    let create : Binding String := ⟨"create", .terminal .accountCreation⟩
    let ledger : Binding String := ⟨"ledger", .terminal .ledger⟩
    let again : Binding String := ⟨"create", .terminal .setup⟩
    let t := empty.bindAll [create, ledger, again]
    t.actions.Pairwise (fun a b =>
      ["create", "ledger", "create"].idxOf a < ["create", "ledger", "create"].idxOf b) ∧
    t.target? "create" = some (.terminal .setup) ∧ t.target? "import" = none ∧
    (t.bind "ledger" (.terminal .setup)).target? "create" = t.target? "create" ∧
    (empty.bindAll [create, again, ledger]).target? "create" = t.target? "create" := by
  intro create ledger again t
  obtain ⟨_, _, ordered, latest, missing, others, alike⟩ :=
    bindAll_keeps_order [create, ledger, again]
  refine ⟨ordered, latest [create, ledger] "create" _ [] rfl List.not_mem_nil,
    (missing "import").mpr (by decide), (others "ledger" _ "create" (by decide)).1, ?_⟩
  refine alike [create, again, ledger] (fun action => ?_) "create"
  by_cases first : "create" = action
  · subst first
    rfl
  · by_cases second : "ledger" = action <;> simp [create, ledger, again, first, second]

end Onboarding.Trigger
