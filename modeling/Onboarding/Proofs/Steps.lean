import Onboarding.Proofs.Navigation

/-! Steps and their joint. Going to a target and from there to a relative one is going to the two with a
separator between them: nothing at the joint, or on either side of it, is accepted in one way and refused
in the other. -/
namespace Onboarding

/-- A separator between two texts separates their pieces. -/
theorem Path.pieces_append (before after : List Char) :
    pieces (before ++ separator :: after) = pieces before ++ pieces after := by
  induction before with
  | nil => exact pieces_separator after
  | cons c before ih =>
    by_cases here : c = separator
    · rw [here, List.cons_append, pieces_separator, pieces_separator, ih, List.cons_append]
    · obtain ⟨piece, others, found, split⟩ := pieces_cons here before
      obtain ⟨piece', others', found', split'⟩ := pieces_cons here (before ++ separator :: after)
      rw [ih, found, List.cons_append] at found'
      obtain ⟨rfl, rfl⟩ := List.cons.inj found'
      rw [List.cons_append, split', split, List.cons_append]

namespace History

/-- What a target adds below a location, or below the root if it is absolute. -/
def trail (goal : String) : List Char :=
  if Path.IsAbsolute goal then goal.toList.tail else goal.toList

theorem trail_of_relative {goal : String} (relative : ¬Path.IsAbsolute goal) : trail goal = goal.toList :=
  if_neg relative

/-- Apart from the root, a target is accepted unless it adds an empty level. -/
theorem isTarget_iff {goal : String} : IsTarget goal ↔ goal = root ∨ [] ∉ Path.pieces (trail goal) := by
  by_cases absolute : Path.IsAbsolute goal
  · obtain ⟨rest, begun⟩ := List.head?_eq_some_iff.mp absolute
    have added : trail goal = rest := by rw [trail, if_pos absolute, begun, List.tail_cons]
    simp only [IsTarget, absolute, not_true_eq_false, false_and, or_false, Path.exists_split_iff begun, added]
  · have below : goal ≠ root := by
      rintro rfl
      exact absolute rfl
    simp only [IsTarget, below, Path.split_relative absolute, reduceCtorEq, exists_false, false_or,
      absolute, not_false_eq_true, true_and, Path.exists_split_iff (toList_slash_append goal),
      trail_of_relative absolute]

theorem isTarget_iff_of_relative {goal : String} (relative : ¬Path.IsAbsolute goal) :
    IsTarget goal ↔ [] ∉ Path.pieces goal.toList := by
  have below : goal ≠ root := by
    rintro rfl
    exact relative rfl
  rw [isTarget_iff, trail_of_relative relative, or_iff_right below]

theorem joint_eq_root_iff {first second : String} :
    first ++ "/" ++ second = root ↔ first = "" ∧ second = "" := by
  have parts : (first ++ "/" ++ second).toList = first.toList ++ '/' :: second.toList := by simp
  rw [← String.toList_inj, ← String.toList_eq_nil_iff, ← String.toList_eq_nil_iff, parts]
  cases first.toList <;> simp [root]

theorem slash_append_eq_root_iff {goal : String} : "/" ++ goal = root ↔ goal = "" := by
  have joint := @joint_eq_root_iff "" goal
  rwa [String.empty_append, eq_self, true_and] at joint

theorem isAbsolute_slash_append (goal : String) : Path.IsAbsolute ("/" ++ goal) := by
  rw [Path.IsAbsolute, toList_slash_append, List.head?_cons]

section

variable {first : String} (nonempty : first ≠ "")
include nonempty

theorem isAbsolute_joint (second : String) : Path.IsAbsolute (first ++ "/" ++ second) ↔ Path.IsAbsolute first := by
  obtain ⟨c, rest, begun⟩ := List.exists_cons_of_ne_nil (mt String.toList_eq_nil_iff.mp nonempty)
  simp [Path.IsAbsolute, begun]

theorem trail_joint (second : String) :
    trail (first ++ "/" ++ second) = trail first ++ Path.separator :: second.toList := by
  obtain ⟨c, rest, begun⟩ := List.exists_cons_of_ne_nil (mt String.toList_eq_nil_iff.mp nonempty)
  have joint := isAbsolute_joint nonempty second
  by_cases absolute : Path.IsAbsolute first <;> simp [trail, joint, absolute, begun, Path.separator]

variable {second : String} (relative : ¬Path.IsAbsolute second)
include relative

/-- Two targets in one: the place that the second one leads to from the first. -/
theorem isTarget_destination (apart : first = root → second ≠ "") :
    IsTarget (destination first second) ↔ IsTarget first ∧ IsTarget second := by
  rw [isTarget_iff_of_relative relative, destination, if_neg relative]
  by_cases top : first = root
  · -- With nothing behind it the separator would be the root, which is accepted.
    have added : trail ("/" ++ second) = second.toList := by
      rw [trail, if_pos (isAbsolute_slash_append second), toList_slash_append, List.tail_cons]
    have stays : IsTarget first := .inl top
    rw [if_pos top, isTarget_iff, slash_append_eq_root_iff, or_iff_right (apart top), added,
      and_iff_right stays]
  · have below : first ++ "/" ++ second ≠ root := fun joint => nonempty (joint_eq_root_iff.mp joint).1
    rw [if_neg top, isTarget_iff, isTarget_iff, or_iff_right below, or_iff_right top,
      trail_joint nonempty, Path.pieces_append, List.mem_append, not_or]

/-- Leading somewhere is associative. -/
theorem destination_destination (location : String) :
    destination location (destination first second) = destination (destination location first) second := by
  have leads (place : String) : destination place second =
      if place = root then "/" ++ second else place ++ "/" ++ second := if_neg relative
  rw [leads, leads]
  by_cases top : first = root
  · have there : destination location first = root := by
      rw [top]
      rfl
    rw [if_pos top, if_pos there, destination, if_pos (isAbsolute_slash_append second)]
  rw [if_neg top]
  by_cases absolute : Path.IsAbsolute first
  · have joint := (isAbsolute_joint nonempty second).mpr absolute
    have there : destination location first = first := if_pos absolute
    rw [destination, if_pos joint, there, if_neg top]
  · have joint := mt (isAbsolute_joint nonempty second).mp absolute
    rw [destination, if_neg joint, destination, if_neg absolute]
    by_cases upper : location = root
    · rw [if_pos upper, if_pos upper, if_neg (mt slash_append_eq_root_iff.mp nonempty)]
      simp only [String.append_assoc]
    · have deeper : location ++ "/" ++ first ≠ root := fun joint => nonempty (joint_eq_root_iff.mp joint).2
      rw [if_neg upper, if_neg upper, if_neg deeper]
      simp only [String.append_assoc]

end

theorem result_navigate_iff {h : History} {goal : String} (stands : IsLocation h.location) :
    (h.navigate goal).result = .ok () ↔ IsTarget goal := by
  by_cases target : IsTarget goal
  · simp [navigate_of_isTarget stands target, target]
  · simp [navigate_of_not_isTarget stands target, target]

/-- What two steps come to, and the one step to both targets in one. -/
theorem navigate_joint {base : String} {h : History} (reached : Reached base h) {first second : String}
    (nonempty : first ≠ "") (relative : ¬Path.IsAbsolute second) (apart : first = root → second ≠ "") :
    let twice := (h.navigate first).state.navigate second
    let once := h.navigate (destination first second)
    ((h.navigate first).result = .ok () ∧ twice.result = .ok () ↔ once.result = .ok ()) ∧
    (once.result = .ok () →
      twice.state.location = once.state.location ∧ twice.state.depth = once.state.depth + 1) := by
  intro twice once
  have stands := reached.invariant.isLocation
  have further : IsLocation (h.navigate first).state.location := (reached.navigate first).invariant.isLocation
  have both := isTarget_destination nonempty relative apart
  refine ⟨?_, fun done => ?_⟩
  · rw [result_navigate_iff stands, result_navigate_iff further, result_navigate_iff stands, both]
  · obtain ⟨toFirst, toSecond⟩ := both.mp ((result_navigate_iff stands).mp done)
    have there := navigate_of_isTarget stands toFirst
    have moved := navigate_of_isTarget further toSecond
    have straight := navigate_of_isTarget stands (both.mpr ⟨toFirst, toSecond⟩)
    rw [there] at moved
    simp only [twice, once, there, moved, straight, location_push]
    simp [destination_destination nonempty relative, depth]

/-- Going to a target and then to a relative one is accepted exactly when going to the two with a separator
between them is, and leads to the same place with one more entry; so it is for the root and a relative
target behind a separator. -/
theorem navigate_stepwise {base : String} {h : History} (reached : Reached base h) (second : String)
    (relative : ¬Path.IsAbsolute second) :
    (∀ first, first ≠ "" → first ≠ "/" →
      let twice := (h.navigate first).state.navigate second
      let once := h.navigate (first ++ "/" ++ second)
      ((h.navigate first).result = .ok () ∧ twice.result = .ok () ↔ once.result = .ok ()) ∧
      (once.result = .ok () →
        twice.state.location = once.state.location ∧ twice.state.depth = once.state.depth + 1)) ∧
    (second ≠ "" →
      let twice := (h.navigate "/").state.navigate second
      let once := h.navigate ("/" ++ second)
      ((h.navigate "/").result = .ok () ∧ twice.result = .ok () ↔ once.result = .ok ()) ∧
      (once.result = .ok () →
        twice.state.location = once.state.location ∧ twice.state.depth = once.state.depth + 1)) := by
  refine ⟨fun first nonempty below => ?_, fun more => ?_⟩
  · have below : first ≠ root := below
    have joint : destination first second = first ++ "/" ++ second := by
      rw [destination, if_neg relative, if_neg below]
    rw [← joint]
    exact navigate_joint reached nonempty relative fun top => absurd top below
  · have joint : destination root second = "/" ++ second := by
      rw [destination, if_neg relative, if_pos rfl]
    rw [← joint]
    exact navigate_joint reached (by decide) relative fun _ => more

/-- From `/setup`: two relative targets, a target that ends with a separator, and the root. -/
theorem navigate_stepwise_setup :
    let h : History := ⟨["/setup"]⟩
    ((h.navigate "ledger").result = .ok () ∧
      ((h.navigate "ledger").state.navigate "connect").result = .ok ()) ∧
    (((h.navigate "ledger").state.navigate "connect").state.location =
      (h.navigate "ledger/connect").state.location) ∧
    ¬((h.navigate "ledger/").result = .ok () ∧
      ((h.navigate "ledger/").state.navigate "connect").result = .ok ()) ∧
    (((h.navigate "/").state.navigate "ledger").state.depth = (h.navigate "/ledger").state.depth + 1) := by
  intro h
  have reached : Reached "/setup" h := .start rfl
  obtain ⟨joins, _⟩ := navigate_stepwise reached "connect" (by decide)
  obtain ⟨_, below⟩ := navigate_stepwise reached "ledger" (by decide)
  have once : "ledger" ++ "/" ++ "connect" = "ledger/connect" := by decide
  have doubled : "ledger/" ++ "/" ++ "connect" = "ledger//connect" := by decide
  have upper : "/" ++ "ledger" = "/ledger" := by decide
  have accepted := joins "ledger" (by decide) (by decide)
  have refused := joins "ledger/" (by decide) (by decide)
  have top := below (by decide)
  rw [once] at accepted
  rw [doubled] at refused
  rw [upper] at top
  have goes : (h.navigate "ledger/connect").result = .ok () :=
    (result_navigate_iff reached.invariant.isLocation).mpr
      ((isTarget_iff_of_relative (by decide)).mpr (by decide))
  refine ⟨accepted.1.mpr goes, (accepted.2 goes).1, fun both => ?_, (top.2 rfl).2⟩
  have went := (result_navigate_iff reached.invariant.isLocation).mp (refused.1.mp both)
  exact (isTarget_iff_of_relative (by decide)).mp went (by decide)

end History
end Onboarding
