import Onboarding.Proofs.Paths

/-! The faults of paths. Composing two parts composes each of them, and of several texts that are no
segments the first is reported, whatever follows it. Splitting reports the one cause that a text has for
being no path. -/
namespace Onboarding.Path

theorem checkSegment_eq_ok_iff {segment : String} :
    checkSegment segment = .ok () ↔ segmentFault? segment = none := by
  unfold checkSegment
  cases segmentFault? segment <;> simp

theorem checkSegment_eq_error_iff {segment : String} {fault : Fault} :
    checkSegment segment = .error fault ↔ segmentFault? segment = some fault := by
  unfold checkSegment
  cases segmentFault? segment <;> simp

/-- A path is extended by all segments or by none: the first fault among them is reported. -/
theorem extend_eq (path : String) (segments : List String) :
    extend path segments =
      (segments.findSome? segmentFault?).elim (.ok (path ++ joined segments)) .error := by
  induction segments generalizing path with
  | nil => simp [extend]
  | cons segment segments ih =>
    rw [extend, List.findSome?_cons]
    cases found : segmentFault? segment with
    | some fault => simp only [checkSegment_eq_error_iff.mpr found, Option.elim_some]
    | none => simp only [checkSegment_eq_ok_iff.mpr found, ih, push_joined]

/-- With a segment the path is not empty after the loop, so the faults of the segments are all there are. -/
theorem compose_of_ne_nil {segments : List String} (nonempty : segments ≠ []) :
    compose segments = (segments.findSome? segmentFault?).elim (.ok (joined segments)) .error := by
  rw [compose, extend_eq]
  cases segments.findSome? segmentFault? with
  | some fault => rfl
  | none => simp [joined_eq_empty_iff, nonempty]

theorem compose_eq_error_iff {segments : List String} {fault : Fault} :
    compose segments = .error fault ↔
      (segments = [] ∧ fault = .noSegments) ∨
        ∃ before segment after, segments = before ++ segment :: after ∧
          (∀ earlier ∈ before, checkSegment earlier = .ok ()) ∧ checkSegment segment = .error fault := by
  by_cases empty : segments = []
  · subst empty
    simp [compose, extend, eq_comm]
  · have first : compose segments = .error fault ↔ segments.findSome? segmentFault? = some fault := by
      rw [compose_of_ne_nil empty]
      cases segments.findSome? segmentFault? <;> simp
    rw [first, List.findSome?_eq_some_iff]
    simp only [checkSegment_eq_ok_iff, checkSegment_eq_error_iff, empty, false_and, false_or]
    constructor
    · rintro ⟨before, segment, after, parts, found, clean⟩
      exact ⟨before, segment, after, parts, clean, found⟩
    · rintro ⟨before, segment, after, parts, clean, found⟩
      exact ⟨before, segment, after, parts, found, clean⟩

/-- Composing keeps to the parts of a sequence, faults included. Any sequence fails as its first text that is
no segment does, or for want of segments. -/
theorem compose_append :
    (∀ xs ys : List String, xs ≠ [] → ys ≠ [] →
      (∀ path rest, compose xs = .ok path → compose ys = .ok rest →
        compose (xs ++ ys) = .ok (path ++ rest)) ∧
      (∀ fault, compose xs = .error fault → compose (xs ++ ys) = .error fault) ∧
      (∀ path fault, compose xs = .ok path → compose ys = .error fault →
        compose (xs ++ ys) = .error fault)) ∧
    (∀ (segments : List String) (fault : Fault),
      compose segments = .error fault ↔
        (segments = [] ∧ fault = .noSegments) ∨
          ∃ before segment after, segments = before ++ segment :: after ∧
            (∀ earlier ∈ before, checkSegment earlier = .ok ()) ∧ checkSegment segment = .error fault) := by
  refine ⟨fun xs ys left right => ?_, fun segments fault => compose_eq_error_iff⟩
  have whole : compose (xs ++ ys) =
      ((xs.findSome? segmentFault?).or (ys.findSome? segmentFault?)).elim
        (.ok (joined xs ++ joined ys)) .error := by
    rw [compose_of_ne_nil (by simp [left]), List.findSome?_append, joined_append]
  rw [whole, compose_of_ne_nil left, compose_of_ne_nil right]
  cases xs.findSome? segmentFault? with
  | some first => simp
  | none =>
    cases ys.findSome? segmentFault? with
    | some later => simp
    | none =>
      refine ⟨fun path rest composed others => ?_, by simp, by simp⟩
      obtain rfl := Except.ok.inj composed
      obtain rfl := Except.ok.inj others
      rfl

/-- The first of two bad texts is reported, though it stands in the second part. -/
theorem compose_append_fault :
    compose (["setup", "start"] ++ ["a/b", ""]) = .error (.separatorInside "a/b") ∧
    compose (["setup"] ++ ["ledger"]) = .ok "/setup/ledger" ∧
    compose ([""] ++ ["a/b"]) = .error .emptySegment := by
  obtain ⟨parts, first⟩ := compose_append
  refine ⟨?_, ?_, ?_⟩
  · have later : compose ["a/b", ""] = .error (.separatorInside "a/b") :=
      (first _ _).mpr (.inr ⟨[], "a/b", [""], rfl, by simp, rfl⟩)
    exact (parts ["setup", "start"] ["a/b", ""] (by simp) (by simp)).2.2 "/setup/start" _ rfl later
  · exact (parts ["setup"] ["ledger"] (by simp) (by simp)).1 "/setup" "/ledger" rfl rfl
  · exact (parts [""] ["a/b"] (by simp) (by simp)).2.1 _ rfl

theorem hasDoubled_iff {cs : List Char} :
    hasDoubled cs = true ↔ ∃ before after, cs = before ++ separator :: separator :: after := by
  induction cs with
  | nil => simp [hasDoubled]
  | cons c rest ih =>
    -- Two separators stand at the front, or further on.
    have front : (∃ before after, c :: rest = before ++ separator :: separator :: after) ↔
        (c = separator ∧ ∃ after, rest = separator :: after) ∨
          ∃ before after, rest = before ++ separator :: separator :: after := by
      constructor
      · rintro ⟨before, after, same⟩
        cases before with
        | nil => exact .inl ⟨(List.cons.inj same).1, after, (List.cons.inj same).2⟩
        | cons d before => exact .inr ⟨before, after, (List.cons.inj same).2⟩
      · rintro (⟨rfl, after, rfl⟩ | ⟨before, after, rfl⟩)
        · exact ⟨[], after, rfl⟩
        · exact ⟨c :: before, after, rfl⟩
    rw [front, ← ih]
    cases rest with
    | nil => simp [hasDoubled]
    | cons d rest => simp [hasDoubled]

/-- A text with nothing before, behind or between separators, where a level should be. -/
def LacksLevel (path : String) : Prop :=
  path = "/" ∨ (∃ before, path = before ++ "/") ∨ ∃ before after, path = before ++ "//" ++ after

theorem isAbsolute_iff {path : String} : IsAbsolute path ↔ ∃ rest, path = "/" ++ rest := by
  constructor
  · intro absolute
    obtain ⟨rest, begun⟩ := List.head?_eq_some_iff.mp absolute
    refine ⟨String.ofList rest, ?_⟩
    apply String.ext
    simp [begun, separator]
  · rintro ⟨rest, rfl⟩
    simp [IsAbsolute, separator]

theorem getLast?_eq_separator_iff {path : String} :
    path.toList.getLast? = some separator ↔ ∃ before, path = before ++ "/" := by
  rw [List.getLast?_eq_some_iff]
  constructor
  · rintro ⟨before, ends⟩
    refine ⟨String.ofList before, ?_⟩
    apply String.ext
    simp [ends, separator]
  · rintro ⟨before, rfl⟩
    exact ⟨before.toList, by simp [separator]⟩

theorem hasDoubled_toList_iff {path : String} :
    hasDoubled path.toList = true ↔ ∃ before after, path = before ++ "//" ++ after := by
  rw [hasDoubled_iff]
  constructor
  · rintro ⟨before, after, parts⟩
    refine ⟨String.ofList before, String.ofList after, ?_⟩
    apply String.ext
    simp [parts, separator]
  · rintro ⟨before, after, rfl⟩
    exact ⟨before.toList, after.toList, by simp [separator]⟩

theorem lacksLevel_iff {path : String} {rest : List Char} (begun : path.toList = separator :: rest) :
    LacksLevel path ↔ [] ∈ pieces rest := by
  rw [nil_mem_pieces_iff begun, getLast?_eq_separator_iff, hasDoubled_toList_iff, LacksLevel]
  constructor
  · rintro (rfl | others)
    · exact .inl ⟨"", rfl⟩
    · exact others
  · exact .inr

theorem split_cases (path : String) :
    (¬IsAbsolute path ∧ split path = .error (.notAbsolute path)) ∨
    (IsAbsolute path ∧ LacksLevel path ∧ split path = .error (.emptySegmentIn path)) ∨
    (IsAbsolute path ∧ ¬LacksLevel path ∧ ∃ segments, split path = .ok segments) := by
  by_cases absolute : IsAbsolute path
  · obtain ⟨rest, begun⟩ := List.head?_eq_some_iff.mp absolute
    rw [lacksLevel_iff begun, split_absolute begun]
    by_cases lacking : [] ∈ pieces rest <;> simp [absolute, lacking]
  · exact .inl ⟨absolute, split_relative absolute⟩

/-- What stands between separators can be empty, and nothing else is wrong with it. -/
theorem checkSegment_of_mem_pieces {rest : List Char} {level : String}
    (member : level ∈ (pieces rest).map String.ofList) :
    checkSegment level = .ok () ∨ level = "" ∧ checkSegment level = .error .emptySegment := by
  rw [checkSegment_of_not_mem (separator_not_mem_of_mem_levels member)]
  by_cases empty : level = "" <;> simp [empty]

/-- A text that is no path is refused for the one cause that it has, and the report quotes all of it. What
splitting takes for a level has no separator inside, so no level is refused for that. -/
theorem split_classifies (path : String) :
    (split path = .error (.notAbsolute path) ↔ ¬∃ rest, path = "/" ++ rest) ∧
    (split path = .error (.emptySegmentIn path) ↔ (∃ rest, path = "/" ++ rest) ∧ LacksLevel path) ∧
    ((∃ segments, split path = .ok segments) ↔ (∃ rest, path = "/" ++ rest) ∧ ¬LacksLevel path) ∧
    (∀ fault, split path = .error fault →
      (fault = .notAbsolute path ∧ fault.message = "path '" ++ path ++ "' must start with '/'") ∨
      (fault = .emptySegmentIn path ∧ fault.message = "path '" ++ path ++ "' has an empty segment")) ∧
    (∀ rest, path = "/" ++ rest → ∀ level ∈ (pieces rest.toList).map String.ofList,
      checkSegment level = .ok () ∨ level = "" ∧ checkSegment level = .error .emptySegment) := by
  rw [← isAbsolute_iff]
  have levels : ∀ rest : String, path = "/" ++ rest →
      ∀ level ∈ (pieces rest.toList).map String.ofList,
        checkSegment level = .ok () ∨ level = "" ∧ checkSegment level = .error .emptySegment :=
    fun _ _ _ member => checkSegment_of_mem_pieces member
  rcases split_cases path with ⟨relative, refused⟩ | ⟨absolute, lacking, refused⟩ |
    ⟨absolute, full, segments, found⟩
  · refine ⟨?_, ?_, ?_, fun fault again => .inl ?_, levels⟩
    · simp [refused, relative]
    · simp [refused, relative]
    · simp [refused, relative]
    · obtain rfl := Except.error.inj (refused.symm.trans again)
      exact ⟨rfl, rfl⟩
  · refine ⟨?_, ?_, ?_, fun fault again => .inr ?_, levels⟩
    · simp [refused, absolute]
    · simp [refused, absolute, lacking]
    · simp [refused, absolute, lacking]
    · obtain rfl := Except.error.inj (refused.symm.trans again)
      exact ⟨rfl, rfl⟩
  · refine ⟨?_, ?_, ?_, fun fault refused => ?_, levels⟩
    · simp [found, absolute]
    · simp [found, full]
    · simp [found, absolute, full]
    · simp [found] at refused

/-- Two separators side by side are found behind a good level, and the whole text is quoted. -/
theorem split_classifies_doubled :
    split "/setup//start" = .error (.emptySegmentIn "/setup//start") ∧
    (Fault.emptySegmentIn "/setup//start").message = "path '/setup//start' has an empty segment" ∧
    checkSegment "setup" = .ok () ∧
    split "" = .error (.notAbsolute "") := by
  obtain ⟨_, empty, _, texts, levels⟩ := split_classifies "/setup//start"
  have refused : split "/setup//start" = .error (.emptySegmentIn "/setup//start") :=
    empty.mpr ⟨⟨"setup//start", rfl⟩, .inr (.inr ⟨"/setup", "start", rfl⟩)⟩
  refine ⟨refused, ?_, ?_, ?_⟩
  · rcases texts _ refused with ⟨other, _⟩ | ⟨_, text⟩
    · contradiction
    · exact text
  · rcases levels "setup//start" rfl "setup" (by decide) with good | ⟨empty, _⟩
    · exact good
    · contradiction
  · refine (split_classifies "").1.mpr ?_
    rintro ⟨rest, same⟩
    have := congrArg String.toList same
    simp at this

end Onboarding.Path
