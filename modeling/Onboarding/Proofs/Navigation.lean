import Onboarding.Proofs.Histories

/-! Which targets a router accepts and where they lead. Whether a target is accepted, and why not, is a
matter of the target alone: every location that a router reaches is the root or a path, and what stands
before the levels of a relative target is never at fault. -/
namespace Onboarding.History

/-- The targets that lead somewhere: the root, paths, and paths without their first separator. -/
def IsTarget (goal : String) : Prop :=
  goal = root ∨ (∃ segments, Path.split goal = .ok segments) ∨
    (¬Path.IsAbsolute goal ∧ ∃ segments, Path.split ("/" ++ goal) = .ok segments)

/-- Where a target leads: an absolute one to itself, a relative one to a child of the location. -/
def destination (location goal : String) : String :=
  if Path.IsAbsolute goal then goal
  else if location = root then "/" ++ goal
  else location ++ "/" ++ goal

def targetFault (goal : String) : Fault :=
  if goal = "" then .emptyTarget
  else if Path.IsAbsolute goal then .path (.emptySegmentIn goal)
  else .path .emptySegment

/-- The root has no segments, so it is no path. -/
theorem ne_root_of_split {location : String} {segments : List String}
    (h : Path.split location = .ok segments) : location ≠ root := by
  rintro rfl
  have refused : Path.split root = .error (.emptySegmentIn root) := rfl
  rw [refused] at h
  contradiction

@[simp] theorem levels_root : levels root = [] := if_pos rfl

/-- The levels of a path are its segments. -/
theorem levels_of_split {location : String} {segments : List String}
    (h : Path.split location = .ok segments) : levels location = segments := by
  have below := ne_root_of_split h
  by_cases absolute : Path.IsAbsolute location
  · obtain ⟨rest, begun⟩ := List.head?_eq_some_iff.mp absolute
    rw [Path.split_absolute begun] at h
    split at h
    · contradiction
    · rw [levels, if_neg below, begun, Path.pieces_separator]
      exact Except.ok.inj h
  · rw [Path.split_relative absolute] at h
    contradiction

/-- The levels of a location are segments, and joined they are the location again, except at the root. -/
theorem levels_of_isLocation {location : String} (stands : IsLocation location) :
    (∀ level ∈ levels location, Path.IsSegment level) ∧
      Path.joined (levels location) = if location = root then "" else location := by
  rcases stands with rfl | ⟨segments, found⟩
  · simp
  · obtain ⟨_, good, path⟩ := Path.split_eq_ok_iff.mp found
    rw [levels_of_split found, if_neg (ne_root_of_split found)]
    exact ⟨good, path.symm⟩

theorem destination_relative {location goal : String} (stands : IsLocation location)
    (relative : ¬Path.IsAbsolute goal) :
    destination location goal = Path.joined (levels location) ++ "/" ++ goal := by
  rw [destination, if_neg relative, (levels_of_isLocation stands).2]
  by_cases top : location = root <;> simp [top]

theorem toList_slash_append (goal : String) :
    ("/" ++ goal).toList = Path.separator :: goal.toList := by
  simp [Path.separator]

/-- A relative target is composed behind the levels of the location, which are never at fault. -/
theorem resolve_relative {location goal : String} (stands : IsLocation location)
    (relative : ¬Path.IsAbsolute goal) (nonempty : goal ≠ "") :
    resolve location goal =
      if [] ∈ Path.pieces goal.toList then .error (.path .emptySegment)
      else .ok (destination location goal) := by
  have below : goal ≠ root := by
    rintro rfl
    exact relative rfl
  have behind : Path.joined (levels location) ++ String.ofList (Path.separator :: goal.toList) =
      destination location goal := by
    rw [destination_relative stands relative, ← toList_slash_append, String.ofList_toList,
      String.append_assoc]
  rw [resolve, if_neg nonempty, if_neg below, if_neg relative,
    Path.compose_append_pieces (levels_of_isLocation stands).1, behind]
  by_cases empty : [] ∈ Path.pieces goal.toList <;> simp [empty]

/-- A relative target is a path but for the first separator. -/
theorem IsTarget.exists_split {goal : String} (target : IsTarget goal)
    (relative : ¬Path.IsAbsolute goal) : ∃ below, Path.split ("/" ++ goal) = .ok below := by
  rcases target with rfl | ⟨segments, found⟩ | ⟨_, found⟩
  · exact absurd rfl relative
  · rw [Path.split_relative relative] at found
    contradiction
  · exact found

theorem resolve_of_isTarget {location goal : String} (stands : IsLocation location)
    (target : IsTarget goal) : resolve location goal = .ok (destination location goal) := by
  by_cases absolute : Path.IsAbsolute goal
  · have nonempty : goal ≠ "" := by
      rintro rfl
      contradiction
    rw [destination, if_pos absolute, resolve, if_neg nonempty]
    rcases target with top | ⟨segments, found⟩ | ⟨relative, _⟩
    · rw [if_pos top]
    · rw [if_pos absolute, found]
      exact ite_self _
    · contradiction
  · have full : [] ∉ Path.pieces goal.toList :=
      (Path.exists_split_iff (toList_slash_append goal)).mp (target.exists_split absolute)
    have nonempty : goal ≠ "" := by
      rintro rfl
      exact full (by decide)
    rw [resolve_relative stands absolute nonempty, if_neg full]

theorem resolve_of_not_isTarget {location goal : String} (stands : IsLocation location)
    (wrong : ¬IsTarget goal) : resolve location goal = .error (targetFault goal) := by
  obtain ⟨below, wrong⟩ := not_or.mp wrong
  obtain ⟨noPath, noChild⟩ := not_or.mp wrong
  unfold targetFault
  by_cases empty : goal = ""
  · rw [if_pos empty, resolve, if_pos empty]
  rw [if_neg empty]
  by_cases absolute : Path.IsAbsolute goal
  · obtain ⟨rest, begun⟩ := List.head?_eq_some_iff.mp absolute
    have hollow : [] ∈ Path.pieces rest := by
      rw [Path.exists_split_iff begun] at noPath
      exact Classical.not_not.mp noPath
    rw [if_pos absolute, resolve, if_neg empty, if_neg below, if_pos absolute,
      Path.split_absolute begun, if_pos hollow]
  · have hollow : [] ∈ Path.pieces goal.toList := by
      rw [Path.exists_split_iff (toList_slash_append goal)] at noChild
      exact Classical.not_not.mp fun full => noChild ⟨absolute, full⟩
    rw [if_neg absolute, resolve_relative stands absolute empty, if_pos hollow]

/-- A relative target ends at least one level below the location, whatever its pieces are. -/
theorem levels_destination {location goal : String} (stands : IsLocation location)
    (target : IsTarget goal) (relative : ¬Path.IsAbsolute goal) :
    ∃ below, below ≠ [] ∧ Path.split ("/" ++ goal) = .ok below ∧
      levels (destination location goal) = levels location ++ below := by
  obtain ⟨below, found⟩ := target.exists_split relative
  obtain ⟨nonempty, good, path⟩ := Path.split_eq_ok_iff.mp found
  have lands : destination location goal = Path.joined (levels location ++ below) := by
    rw [destination_relative stands relative, Path.joined_append, ← path, String.append_assoc]
  refine ⟨below, nonempty, found, ?_⟩
  rw [lands]
  apply levels_of_split
  apply Path.split_joined
  · exact List.append_ne_nil_of_right_ne_nil _ nonempty
  · exact List.forall_mem_append.mpr ⟨(levels_of_isLocation stands).1, good⟩

theorem navigate_of_isTarget {h : History} {goal : String} (stands : IsLocation h.location)
    (target : IsTarget goal) :
    h.navigate goal = ⟨.ok (), ⟨h.entries ++ [destination h.location goal]⟩,
      [.transition h.location (destination h.location goal)]⟩ := by
  simp only [navigate, resolve_of_isTarget stands target]

theorem navigate_of_not_isTarget {h : History} {goal : String} (stands : IsLocation h.location)
    (wrong : ¬IsTarget goal) :
    h.navigate goal = ⟨.error ⟨goal, (targetFault goal).reason⟩, h, []⟩ := by
  simp only [navigate, resolve_of_not_isTarget stands wrong]

theorem location_push (entries : List String) (next : String) :
    location ⟨entries ++ [next]⟩ = next := by
  simp [location]

/-- The targets that a router accepts, where they lead, and the refusals of all others. Only the place
where an accepted relative target leads depends on where the router stands. -/
theorem navigate_decides {base : String} {h : History} (reached : Reached base h) (goal : String) :
    ((h.navigate goal).result = .ok () ↔
      goal = "/" ∨ (∃ segments, Path.split goal = .ok segments) ∨
        (¬Path.IsAbsolute goal ∧ ∃ segments, Path.split ("/" ++ goal) = .ok segments)) ∧
    ((h.navigate goal).result = .ok () →
      (h.navigate goal).state.entries = h.entries ++
        [if Path.IsAbsolute goal then goal
          else if h.location = "/" then "/" ++ goal
          else h.location ++ "/" ++ goal] ∧
      (¬Path.IsAbsolute goal → ∃ below, below ≠ [] ∧ Path.split ("/" ++ goal) = .ok below ∧
        levels (h.navigate goal).state.location = levels h.location ++ below)) ∧
    (∀ refusal, (h.navigate goal).result = .error refusal →
      (h.navigate goal).state = h ∧ refusal.target = goal ∧
      refusal.reason =
        if goal = "" then "navigation target is empty"
        else if Path.IsAbsolute goal then
          "Invalid argument: path '" ++ goal ++ "' has an empty segment"
        else "Invalid argument: route segment cannot be empty") ∧
    (∀ otherBase other, Reached otherBase other →
      (other.navigate goal).result = (h.navigate goal).result) := by
  have stands := reached.invariant.isLocation
  by_cases target : IsTarget goal
  · rw [navigate_of_isTarget stands target]
    refine ⟨iff_of_true rfl target, fun _ => ⟨rfl, ?_⟩, ?_, ?_⟩
    · intro relative
      obtain ⟨below, nonempty, found, lands⟩ := levels_destination stands target relative
      exact ⟨below, nonempty, found, by rw [location_push, lands]⟩
    · intro refusal refused
      contradiction
    · intro otherBase other reachedOther
      rw [navigate_of_isTarget reachedOther.invariant.isLocation target]
  · rw [navigate_of_not_isTarget stands target]
    refine ⟨iff_of_false (by simp) target, fun accepted => ?_, ?_, ?_⟩
    · contradiction
    · rintro refusal refused
      obtain rfl := Except.error.inj refused
      refine ⟨rfl, rfl, ?_⟩
      unfold targetFault
      split
      · rfl
      split <;> rfl
    · intro otherBase other reachedOther
      rw [navigate_of_not_isTarget reachedOther.invariant.isLocation target]

/-- Two dots are a level like any other, and two separators side by side are refused below `/setup` as
they are at the root. -/
theorem navigate_decides_setup :
    ((History.mk ["/setup"]).navigate "..").state.entries = ["/setup", "/setup/.."] ∧
    ((History.mk ["/setup"]).navigate "ledger//connect").result =
      ((History.mk ["/"]).navigate "ledger//connect").result := by
  have setup : Reached "/setup" ⟨["/setup"]⟩ := .start rfl
  have top : Reached "/" ⟨["/"]⟩ := .start rfl
  obtain ⟨_, lands, _, _⟩ := navigate_decides setup ".."
  obtain ⟨_, _, _, alike⟩ := navigate_decides top "ledger//connect"
  exact ⟨(lands rfl).1, alike "/setup" ⟨["/setup"]⟩ setup⟩

end Onboarding.History
