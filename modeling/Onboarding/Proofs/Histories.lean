import Onboarding.Proofs.Paths
import Onboarding.Router.Store

/-! What holds of a router's history at any time: it begins with its base, and every entry is the root
or a path. Clones share the history, so this is a fact about the one history that all handles show. -/
namespace Onboarding

namespace History

/-- Where a router can stand. -/
def IsLocation (location : String) : Prop :=
  location = root ∨ ∃ segments, Path.split location = .ok segments

/-- The histories that navigations, refused ones too, and steps back lead to from a base. -/
inductive Reached (base : String) : History → Prop
  | start {h : History} : start base = .ok h → Reached base h
  | navigate {h : History} (goal : String) : Reached base h → Reached base (h.navigate goal).state
  | back {h : History} : Reached base h → Reached base h.back.2

structure Invariant (base : String) (h : History) : Prop where
  first : h.entries.head? = some base
  locations : ∀ entry ∈ h.entries, IsLocation entry

theorem start_eq_ok_iff {base : String} {h : History} :
    start base = .ok h ↔ IsLocation base ∧ h = ⟨[base]⟩ := by
  unfold start IsLocation
  by_cases top : base = root
  · simp [top, eq_comm]
  · cases Path.split base <;> simp [top, eq_comm]

/-- What a navigation does: it adds the place that its target leads to, or nothing. -/
theorem navigate_cases (h : History) (goal : String) :
    (∃ next, resolve h.location goal = .ok next ∧
      h.navigate goal = ⟨.ok (), ⟨h.entries ++ [next]⟩, [.transition h.location next]⟩) ∨
    (∃ fault, resolve h.location goal = .error fault ∧
      h.navigate goal = ⟨.error ⟨goal, fault.reason⟩, h, []⟩) := by
  unfold navigate
  cases resolve h.location goal with
  | error fault => exact .inr ⟨fault, rfl, rfl⟩
  | ok next => exact .inl ⟨next, rfl, rfl⟩

/-- What a step back does: it takes the latest entry away, unless that is the base. -/
theorem back_cases (h : History) :
    (h.depth ≤ 1 ∧ h.back = (none, h)) ∨
    (1 < h.depth ∧
      h.back = (some (location ⟨h.entries.dropLast⟩), ⟨h.entries.dropLast⟩)) := by
  unfold back
  by_cases atBase : h.depth ≤ 1
  · exact .inl ⟨atBase, if_pos atBase⟩
  · exact .inr ⟨Nat.lt_of_not_le atBase, if_neg atBase⟩

/-- A step back undoes what was added last. -/
theorem back_push {h : History} (nonempty : h.entries ≠ []) (next : String) :
    back ⟨h.entries ++ [next]⟩ = (some h.location, h) := by
  have positive : 0 < h.entries.length := List.length_pos_iff.mpr nonempty
  have above : ¬h.entries.length + 1 ≤ 1 := by omega
  simp [back, depth, above]

/-- Whatever a target leads to is a location, from wherever it is resolved. -/
theorem isLocation_of_resolve {location goal next : String}
    (h : resolve location goal = .ok next) : IsLocation next := by
  unfold resolve at h
  split at h
  · contradiction
  split at h
  next top =>
    obtain rfl := Except.ok.inj h
    exact .inl top
  split at h
  · split at h
    · contradiction
    next segments found =>
      obtain rfl := Except.ok.inj h
      exact .inr ⟨segments, found⟩
  · split at h
    · contradiction
    next path composed =>
      obtain rfl := Except.ok.inj h
      exact .inr ⟨_, Path.split_eq_ok_iff.mpr (Path.compose_eq_ok_iff.mp composed)⟩

theorem start_invariant {base : String} {h : History} (started : start base = .ok h) :
    Invariant base h := by
  obtain ⟨stands, rfl⟩ := start_eq_ok_iff.mp started
  exact ⟨rfl, by simpa using stands⟩

theorem navigate_invariant {base : String} {h : History} (valid : Invariant base h) (goal : String) :
    Invariant base (h.navigate goal).state := by
  rcases navigate_cases h goal with ⟨next, resolved, reply⟩ | ⟨fault, _, reply⟩
  · rw [reply]
    constructor
    · rw [List.head?_append, valid.first]
      rfl
    · intro entry member
      rcases List.mem_append.mp member with earlier | added
      · exact valid.locations entry earlier
      · obtain rfl := List.mem_singleton.mp added
        exact isLocation_of_resolve resolved
  · rw [reply]
    exact valid

theorem back_invariant {base : String} {h : History} (valid : Invariant base h) :
    Invariant base h.back.2 := by
  rcases back_cases h with ⟨_, stayed⟩ | ⟨deep, left⟩
  · rw [stayed]
    exact valid
  · have more : 1 < h.entries.length := deep
    rw [left]
    constructor
    · rw [List.head?_dropLast, if_pos more]
      exact valid.first
    · intro entry member
      exact valid.locations entry (List.dropLast_subset _ member)

theorem Reached.invariant {base : String} {h : History} (reached : Reached base h) :
    Invariant base h := by
  induction reached with
  | start started => exact start_invariant started
  | navigate goal _ ih => exact navigate_invariant ih goal
  | back _ ih => exact back_invariant ih

theorem Invariant.nonempty {base : String} {h : History} (valid : Invariant base h) :
    h.entries ≠ [] := by
  intro empty
  have first := valid.first
  simp [empty] at first

/-- There is always a latest entry, so the root never stands in for a missing one. -/
theorem Invariant.latest {base : String} {h : History} (valid : Invariant base h) :
    h.entries.getLast? = some h.location := by
  rw [location, List.getLast?_eq_some_getLast valid.nonempty]
  rfl

theorem Invariant.isLocation {base : String} {h : History} (valid : Invariant base h) :
    IsLocation h.location :=
  valid.locations _ (List.mem_of_getLast? valid.latest)

end History

namespace Store

theorem history?_eq_some_iff {s : Store} {handle : Nat} {h : History} :
    s.history? handle = some h ↔
      ∃ origin, s.origins[handle]? = some origin ∧ s.histories[origin]? = some h :=
  Option.bind_eq_some_iff

def ReachedAt (s : Store) (place : Nat) (base : String) : Prop :=
  ∃ h, s.histories[place]? = some h ∧ History.Reached base h

structure Shares (s : Store) (place : Nat) : Prop where
  handles : s.origins ≠ []
  origins : ∀ origin ∈ s.origins, origin = place

theorem create_eq_ok_iff {s t : Store} {base : String} :
    s.create base = .ok t ↔ ∃ h, History.start base = .ok h ∧ t = s.add h := by
  unfold create
  cases History.start base <;> simp [Except.map, eq_comm]

@[simp] theorem origins_put (s : Store) (handle : Nat) (h : History) :
    (s.put handle h).origins = s.origins := by
  unfold put
  split <;> rfl

/-- Only the history that the handle shows is replaced. -/
theorem put_reachedAt {s : Store} {handle place : Nat} {base : String} {h next : History}
    (shown : s.history? handle = some h)
    (kept : ∀ base, History.Reached base h → History.Reached base next)
    (reached : s.ReachedAt place base) : (s.put handle next).ReachedAt place base := by
  obtain ⟨origin, found, stored⟩ := history?_eq_some_iff.mp shown
  obtain ⟨old, present, valid⟩ := reached
  simp only [put, found]
  by_cases same : origin = place
  · subst same
    obtain rfl : h = old := Option.some.inj (stored.symm.trans present)
    have bound := (List.getElem?_eq_some_iff.mp present).1
    exact ⟨next, by simp [bound], kept base valid⟩
  · exact ⟨old, by rw [List.getElem?_set_ne same]; exact present, valid⟩

/-- Every command, through whatever handle, moves histories along or leaves them. -/
theorem perform_reachedAt {s : Store} {place : Nat} {base : String} (command : Command)
    (reached : s.ReachedAt place base) : (s.perform command).state.ReachedAt place base := by
  cases command with
  | create other =>
    simp only [perform]
    cases created : s.create other with
    | error fault => exact reached
    | ok t =>
      obtain ⟨fresh, _, rfl⟩ := create_eq_ok_iff.mp created
      obtain ⟨h, present, valid⟩ := reached
      have bound := (List.getElem?_eq_some_iff.mp present).1
      exact ⟨h, by simpa [add, List.getElem?_append_left bound] using present, valid⟩
  | clone handle =>
    simp only [perform]
    cases s.history? handle <;> exact reached
  | navigate handle goal =>
    simp only [perform]
    cases shown : s.history? handle with
    | none => exact reached
    | some h => exact put_reachedAt shown (fun _ => .navigate goal) reached
  | back handle =>
    simp only [perform]
    cases shown : s.history? handle with
    | none => exact reached
    | some h => exact put_reachedAt shown (fun _ => .back) reached

theorem put_shares {s : Store} {handle place : Nat} {h : History} (shared : s.Shares place) :
    (s.put handle h).Shares place :=
  ⟨by simpa using shared.handles, by simpa using shared.origins⟩

/-- Without a new router, new handles are clones, which show what the cloned one shows. -/
theorem perform_shares {s : Store} {place : Nat} (command : Command)
    (clones : ∀ base, command ≠ .create base) (shared : s.Shares place) :
    (s.perform command).state.Shares place := by
  cases command with
  | create base => exact absurd rfl (clones base)
  | clone handle =>
    simp only [perform]
    cases s.history? handle with
    | none => exact shared
    | some h =>
      constructor
      · simp [clone, shared.handles]
      · intro origin member
        rcases List.mem_append.mp member with earlier | added
        · exact shared.origins origin earlier
        · exact shared.origins origin (List.mem_of_getElem? (Option.mem_toList.mp added))
  | navigate handle goal =>
    simp only [perform]
    cases s.history? handle with
    | none => exact shared
    | some h => exact put_shares shared
  | back handle =>
    simp only [perform]
    cases s.history? handle with
    | none => exact shared
    | some h => exact put_shares shared

theorem run_reachedAt {s : Store} {place : Nat} {base : String} (commands : List Command)
    (reached : s.ReachedAt place base) : (s.run commands).state.ReachedAt place base := by
  apply Reply.run_preserves (ReachedAt · place base) (fun _ => True)
  · exact fun _ command _ => perform_reachedAt command
  · exact fun _ _ => trivial
  · exact reached

theorem run_shares {s : Store} {place : Nat} (commands : List Command)
    (clones : ∀ base, .create base ∉ commands) (shared : s.Shares place) :
    (s.run commands).state.Shares place := by
  apply Reply.run_preserves (Shares · place) (fun command => ∀ base, command ≠ .create base)
  · exact fun _ command => perform_shares command
  · rintro command member base rfl
    exact clones base member
  · exact shared

theorem Shares.history? {s : Store} {place handle : Nat} {h : History} (shared : s.Shares place)
    (present : s.histories[place]? = some h) (valid : handle < s.size) :
    s.history? handle = some h := by
  have found : s.origins[handle]? = some s.origins[handle] := List.getElem?_eq_getElem valid
  have origin := shared.origins _ (List.mem_of_getElem? found)
  exact history?_eq_some_iff.mpr ⟨place, by rw [found, origin], present⟩

/-- One router and its clones, after any navigations and steps back through any of the handles: the
history begins with the base, its latest entry is the location, and only the root is no path in it. -/
theorem run_shared_history {s : Store} {base : String} (created : empty.create base = .ok s)
    (commands : List Command) (clones : ∀ other, .create other ∉ commands) :
    0 < (s.run commands).state.size ∧
    ∃ h : History,
      (∀ handle < (s.run commands).state.size, (s.run commands).state.history? handle = some h) ∧
      h.entries ≠ [] ∧ h.entries.head? = some base ∧
      (∀ entry ∈ h.entries, entry = "/" ∨ ∃ segments, Path.split entry = .ok segments) ∧
      h.entries.getLast? = some h.location ∧
      ((∃ fault, Path.split h.location = .error fault) → h.location = "/") := by
  obtain ⟨fresh, started, rfl⟩ := create_eq_ok_iff.mp created
  have shared : ((empty.add fresh).run commands).state.Shares 0 :=
    run_shares commands clones ⟨by simp [add], by simp [add, empty]⟩
  obtain ⟨h, present, reached⟩ : ((empty.add fresh).run commands).state.ReachedAt 0 base :=
    run_reachedAt commands ⟨fresh, rfl, .start started⟩
  have valid := reached.invariant
  refine ⟨List.length_pos_iff.mpr shared.handles, h, ?_, valid.nonempty, valid.first,
    valid.locations, valid.latest, ?_⟩
  · exact fun handle inside => shared.history? present inside
  · rintro ⟨fault, refused⟩
    rcases valid.isLocation with top | ⟨segments, found⟩
    · exact top
    · rw [found] at refused
      contradiction

/-- A clone goes below the base, the router back, then past the base and to a target that is no path. -/
theorem run_shared_history_setup :
    ∃ h : History,
      (∀ handle < 2, (Store.run ⟨[⟨["/setup"]⟩], [0]⟩ [.clone 0, .navigate 1 "ledger", .back 0, .back 1,
        .navigate 0 "ledger//connect", .navigate 0 "/importAccount"]).state.history? handle = some h) ∧
      h.entries.head? = some "/setup" ∧ h.entries.getLast? = some h.location := by
  obtain ⟨_, h, shown, _, first, _, latest, _⟩ :=
    run_shared_history (show empty.create "/setup" = .ok ⟨[⟨["/setup"]⟩], [0]⟩ from rfl)
      [.clone 0, .navigate 1 "ledger", .back 0, .back 1, .navigate 0 "ledger//connect",
        .navigate 0 "/importAccount"] (by simp)
  exact ⟨h, shown, first, latest⟩

end Store
end Onboarding
