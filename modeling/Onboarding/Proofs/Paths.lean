import Onboarding.Path

/-! The path format. Composing and splitting are inverses of each other: a path is its segments with a
separator before each, and a text is a path exactly when none of its levels is empty. -/
namespace Onboarding.Path

def IsSegment (segment : String) : Prop := segment ≠ "" ∧ separator ∉ segment.toList

instance (segment : String) : Decidable (IsSegment segment) := inferInstanceAs (Decidable (_ ∧ _))

/-- The segments with a separator before each. -/
def joined : List String → String
  | [] => ""
  | segment :: segments => "/" ++ segment ++ joined segments

@[simp] theorem joined_nil : joined [] = "" := rfl

@[simp] theorem joined_cons (segment : String) (segments : List String) :
    joined (segment :: segments) = "/" ++ segment ++ joined segments := rfl

/-- One round of extending a path moves a segment from the segments to the path. -/
theorem push_joined (path segment : String) (segments : List String) :
    path.push separator ++ segment ++ joined segments = path ++ joined (segment :: segments) := by
  apply String.ext
  simp [separator]

theorem joined_append (xs ys : List String) : joined (xs ++ ys) = joined xs ++ joined ys := by
  induction xs with
  | nil => simp
  | cons segment segments ih => simp [ih, String.append_assoc]

theorem joined_eq_intercalate {segments : List String} (h : segments ≠ []) :
    joined segments = "/" ++ "/".intercalate segments := by
  induction segments with
  | nil => contradiction
  | cons segment segments ih =>
    by_cases hs : segments = []
    · simp [hs]
    · rw [joined_cons, ih hs, String.intercalate_cons_of_ne_nil hs]
      simp only [String.append_assoc]

theorem toList_joined (segments : List String) :
    (joined segments).toList = (segments.map String.toList).flatMap (separator :: ·) := by
  induction segments with
  | nil => rfl
  | cons segment segments ih => simp [ih, separator]

theorem joined_eq_empty_iff {segments : List String} : joined segments = "" ↔ segments = [] := by
  cases segments with
  | nil => simp
  | cons segment segments =>
    constructor
    · intro h
      have := congrArg String.toList h
      simp at this
    · simp

/-- Joining the levels of a text gives the text back, with a separator before it. -/
theorem joined_pieces (cs : List Char) :
    joined ((pieces cs).map String.ofList) = String.ofList (separator :: cs) := by
  apply String.ext
  rw [toList_joined, List.map_map, String.toList_ofList, ← flatMap_pieces cs]
  simp [Function.comp_def]

theorem separator_not_mem_of_mem_levels {cs : List Char} {level : String}
    (member : level ∈ (pieces cs).map String.ofList) : separator ∉ level.toList := by
  obtain ⟨piece, inside, rfl⟩ := List.mem_map.mp member
  rw [String.toList_ofList]
  exact separator_not_mem_of_mem_pieces inside

theorem checkSegment_cases (segment : String) :
    (IsSegment segment ∧ checkSegment segment = .ok ()) ∨
    (¬IsSegment segment ∧ ∃ fault, checkSegment segment = .error fault) := by
  unfold checkSegment segmentFault? IsSegment
  by_cases empty : segment = ""
  · simp [empty]
  · by_cases inside : separator ∈ segment.toList <;> simp [empty, inside]

/-- The only way in which a text without separators is no segment. -/
theorem checkSegment_of_not_mem {segment : String} (h : separator ∉ segment.toList) :
    checkSegment segment = if segment = "" then .error .emptySegment else .ok () := by
  unfold checkSegment segmentFault?
  by_cases empty : segment = "" <;> simp [empty, h]

theorem extend_append (path : String) (xs ys : List String) :
    extend path (xs ++ ys) =
      match extend path xs with
      | .error fault => .error fault
      | .ok longer => extend longer ys := by
  induction xs generalizing path with
  | nil => rfl
  | cons segment segments ih =>
    simp only [List.cons_append, extend]
    cases checkSegment segment with
    | error fault => rfl
    | ok _ => exact ih _

/-- A path is extended exactly by segments, and grows by them joined. -/
theorem extend_eq_ok_iff {path longer : String} {segments : List String} :
    extend path segments = .ok longer ↔
      (∀ segment ∈ segments, IsSegment segment) ∧ longer = path ++ joined segments := by
  induction segments generalizing path with
  | nil => simp [extend, eq_comm]
  | cons segment segments ih =>
    rcases checkSegment_cases segment with ⟨good, check⟩ | ⟨bad, fault, check⟩
    · simp only [extend, check, ih, push_joined, List.forall_mem_cons, good, true_and]
    · simp [extend, check, bad]

/-- Texts without separators fail only by being empty. -/
theorem extend_of_not_mem {path : String} {texts : List String}
    (free : ∀ text ∈ texts, separator ∉ text.toList) :
    extend path texts = if "" ∈ texts then .error .emptySegment else .ok (path ++ joined texts) := by
  induction texts generalizing path with
  | nil => simp [extend]
  | cons text texts ih =>
    obtain ⟨first, others⟩ := List.forall_mem_cons.mp free
    rw [extend, checkSegment_of_not_mem first]
    by_cases empty : text = ""
    · simp [empty]
    · simp only [if_neg empty, ih others, push_joined, List.mem_cons, Ne.symm empty, false_or]

theorem compose_eq_ok_iff {segments : List String} {path : String} :
    compose segments = .ok path ↔
      segments ≠ [] ∧ (∀ segment ∈ segments, IsSegment segment) ∧ path = joined segments := by
  unfold compose
  cases extended : extend "" segments with
  | error fault =>
    have bad : ¬∀ segment ∈ segments, IsSegment segment := by
      intro good
      rw [extend_eq_ok_iff.mpr ⟨good, rfl⟩] at extended
      contradiction
    simp [bad]
  | ok whole =>
    obtain ⟨good, rfl⟩ := extend_eq_ok_iff.mp extended
    simp only [String.empty_append, joined_eq_empty_iff]
    by_cases empty : segments = []
    · simp [empty]
    · simp only [if_neg empty, Except.ok.injEq]
      exact ⟨fun h => ⟨empty, good, h.symm⟩, fun h => h.2.2.symm⟩

theorem empty_mem_map_ofList {texts : List (List Char)} :
    "" ∈ texts.map String.ofList ↔ [] ∈ texts := by
  constructor
  · intro member
    obtain ⟨text, inside, empty⟩ := List.mem_map.mp member
    have : text = [] := by simpa using congrArg String.toList empty
    exact this ▸ inside
  · exact List.mem_map_of_mem

/-- The pieces of a text behind segments make a path unless one of them is empty. -/
theorem compose_append_pieces {segments : List String}
    (good : ∀ segment ∈ segments, IsSegment segment) (cs : List Char) :
    compose (segments ++ (pieces cs).map String.ofList) =
      if [] ∈ pieces cs then .error .emptySegment
      else .ok (joined segments ++ String.ofList (separator :: cs)) := by
  have begun : extend "" segments = .ok (joined segments) := by
    rw [extend_eq_ok_iff]
    exact ⟨good, by simp⟩
  simp only [compose, extend_append, begun,
    extend_of_not_mem fun _ => separator_not_mem_of_mem_levels, empty_mem_map_ofList]
  by_cases empty : [] ∈ pieces cs
  · simp only [if_pos empty]
  · have long : joined segments ++ String.ofList (separator :: cs) ≠ "" := by
      intro empty
      have := congrArg String.toList empty
      simp at this
    simp only [if_neg empty, joined_pieces, if_neg long]

theorem levelIn_eq (path level : String) :
    levelIn path level = if IsSegment level then .ok level else .error (.emptySegmentIn path) := by
  rcases checkSegment_cases level with ⟨good, check⟩ | ⟨bad, fault, check⟩
  · rw [levelIn, check, if_pos good]
  · rw [levelIn, check, if_neg bad]

/-- The levels of a path are taken together: one that is no segment makes the path refused. -/
theorem mapM_levelIn (path : String) (levels : List String) :
    levels.mapM (levelIn path) =
      if ∀ level ∈ levels, IsSegment level then .ok levels else .error (.emptySegmentIn path) := by
  induction levels with
  | nil => rfl
  | cons level levels ih =>
    rw [List.mapM_cons, ih, levelIn_eq]
    by_cases good : IsSegment level
    · rw [if_pos good]
      by_cases rest : ∀ level ∈ levels, IsSegment level
      · rw [if_pos rest, if_pos (List.forall_mem_cons.mpr ⟨good, rest⟩)]
        rfl
      · rw [if_neg rest, if_neg fun all => rest (List.forall_mem_cons.mp all).2]
        rfl
    · rw [if_neg good, if_neg fun all => good (List.forall_mem_cons.mp all).1]
      rfl

/-- No piece holds a separator, so an empty one is all that keeps the pieces from being segments. -/
theorem forall_isSegment_pieces (cs : List Char) :
    (∀ level ∈ (pieces cs).map String.ofList, IsSegment level) ↔ [] ∉ pieces cs := by
  rw [← empty_mem_map_ofList]
  constructor
  · intro good empty
    exact (good "" empty).1 rfl
  · intro full level member
    exact ⟨fun empty => full (empty ▸ member), separator_not_mem_of_mem_levels member⟩

/-- Behind the first piece, an empty piece comes from a separator at the end or from two side by side. -/
theorem nil_mem_tail_pieces (cs : List Char) :
    [] ∈ (pieces cs).tail ↔ cs.getLast? = some separator ∨ hasDoubled cs = true := by
  induction cs with
  | nil => simp [pieces, hasDoubled]
  | cons c rest ih =>
    -- Whether the first piece of the rest is empty shows in the rest's own first character.
    cases rest with
    | nil =>
      by_cases hc : c = separator
      · rw [hc, pieces_separator]
        simp [pieces]
      · obtain ⟨piece, others, hr, hs⟩ := pieces_cons hc []
        simp_all [pieces, hasDoubled]
    | cons d rest =>
      rw [List.getLast?_cons_cons]
      by_cases hc : c = separator
      · subst hc
        rw [pieces_separator, List.tail_cons]
        by_cases hd : d = separator
        · simp [hd, pieces_separator, hasDoubled]
        · obtain ⟨piece, others, _, hs⟩ := pieces_cons hd rest
          rw [hs] at ih ⊢
          simpa [hasDoubled, hd] using ih
      · obtain ⟨piece, others, hr, hs⟩ := pieces_cons hc (d :: rest)
        rw [hr] at ih
        rw [hs]
        simpa [hasDoubled, hc] using ih

/-- Seen from the whole text, an empty piece comes from a separator at the end or from two side by side. -/
theorem nil_mem_pieces_iff {text rest : List Char} (begun : text = separator :: rest) :
    [] ∈ pieces rest ↔ text.getLast? = some separator ∨ hasDoubled text = true := by
  rw [begun, ← nil_mem_tail_pieces, pieces_separator, List.tail_cons]

/-- A text that begins with a separator is split at the others. -/
theorem split_absolute {path : String} {rest : List Char} (h : path.toList = separator :: rest) :
    split path =
      if [] ∈ pieces rest then .error (.emptySegmentIn path)
      else .ok ((pieces rest).map String.ofList) := by
  simp only [split, h, if_true, mapM_levelIn, forall_isSegment_pieces, ite_not]

theorem exists_split_iff {path : String} {rest : List Char} (h : path.toList = separator :: rest) :
    (∃ segments, split path = .ok segments) ↔ [] ∉ pieces rest := by
  rw [split_absolute h]
  by_cases empty : [] ∈ pieces rest <;> simp [empty]

theorem split_relative {path : String} (h : ¬IsAbsolute path) :
    split path = .error (.notAbsolute path) := by
  unfold split
  cases cs : path.toList with
  | nil => rfl
  | cons c rest =>
    have other : c ≠ separator := by simpa [IsAbsolute, cs] using h
    simp only [if_neg other]

/-- Segments come back from the path that they are joined to. -/
theorem split_joined {segments : List String} (nonempty : segments ≠ [])
    (good : ∀ segment ∈ segments, IsSegment segment) : split (joined segments) = .ok segments := by
  obtain ⟨segment, segments, rfl⟩ := List.exists_cons_of_ne_nil nonempty
  have begun : (joined (segment :: segments)).toList =
      separator :: (segment ++ joined segments).toList := by
    simp [separator, String.append_assoc]
  have found : pieces (segment ++ joined segments).toList =
      (segment :: segments).map String.toList := by
    apply pieces_of_flatMap
    · rw [← toList_joined, begun]
    · intro text member
      obtain ⟨inside, listed, rfl⟩ := List.mem_map.mp member
      exact (good inside listed).2
  have back : (pieces (segment ++ joined segments).toList).map String.ofList =
      segment :: segments := by
    rw [found, List.map_map]
    simp [Function.comp_def]
  have full : [] ∉ pieces (segment ++ joined segments).toList := by
    rw [← forall_isSegment_pieces, back]
    exact good
  rw [split_absolute begun, if_neg full, back]

theorem split_eq_ok_iff {path : String} {segments : List String} :
    split path = .ok segments ↔
      segments ≠ [] ∧ (∀ segment ∈ segments, IsSegment segment) ∧ path = joined segments := by
  constructor
  · intro h
    by_cases absolute : IsAbsolute path
    · obtain ⟨rest, begun⟩ := List.head?_eq_some_iff.mp absolute
      rw [split_absolute begun] at h
      split at h
      next empty => contradiction
      next full =>
        obtain rfl := Except.ok.inj h
        refine ⟨by simp [pieces_ne_nil], (forall_isSegment_pieces rest).mpr full, ?_⟩
        rw [joined_pieces, ← begun, String.ofList_toList]
    · rw [split_relative absolute] at h
      contradiction
  · rintro ⟨nonempty, good, rfl⟩
    exact split_joined nonempty good

/-- A segment list and its path determine each other, and every path has a segment list. -/
theorem compose_iff_split (segments : List String) (path : String) :
    (compose segments = .ok path ↔ split path = .ok segments) ∧
    ((∃ composed, compose segments = .ok composed) ↔
      segments ≠ [] ∧ ∀ segment ∈ segments, segment ≠ "" ∧ '/' ∉ segment.toList) ∧
    (compose segments = .ok path → path = "/" ++ "/".intercalate segments) ∧
    ((∃ levels, split path = .ok levels) ↔ ∃ levels, compose levels = .ok path) ∧
    (∀ others, compose segments = .ok path → compose others = .ok path → others = segments) := by
  have inverse (levels : List String) : compose levels = .ok path ↔ split path = .ok levels :=
    compose_eq_ok_iff.trans split_eq_ok_iff.symm
  refine ⟨inverse segments, ?_, ?_, ?_, ?_⟩
  · constructor
    · rintro ⟨composed, h⟩
      obtain ⟨nonempty, good, _⟩ := compose_eq_ok_iff.mp h
      exact ⟨nonempty, good⟩
    · rintro ⟨nonempty, good⟩
      exact ⟨joined segments, compose_eq_ok_iff.mpr ⟨nonempty, good, rfl⟩⟩
  · intro h
    obtain ⟨nonempty, _, rfl⟩ := compose_eq_ok_iff.mp h
    exact joined_eq_intercalate nonempty
  · exact exists_congr fun levels => (inverse levels).symm
  · intro others h ho
    have same : split path = .ok others := (inverse others).mp ho
    rw [(inverse segments).mp h] at same
    exact (Except.ok.inj same).symm

theorem compose_iff_split_seedPhrase :
    split "/accountCreation/seedPhrase" = .ok ["accountCreation", "seedPhrase"] ∧
    "/accountCreation/seedPhrase" = "/" ++ "/".intercalate ["accountCreation", "seedPhrase"] ∧
    ["accountCreation", "seedPhrase"] ≠ [] ∧
    (∀ segment ∈ ["accountCreation", "seedPhrase"], segment ≠ "" ∧ '/' ∉ segment.toList) ∧
    ∀ others, compose others = .ok "/accountCreation/seedPhrase" →
      others = ["accountCreation", "seedPhrase"] := by
  have composed : compose ["accountCreation", "seedPhrase"] = .ok "/accountCreation/seedPhrase" := rfl
  obtain ⟨inverse, image, form, _, once⟩ :=
    compose_iff_split ["accountCreation", "seedPhrase"] "/accountCreation/seedPhrase"
  exact ⟨inverse.mp composed, form composed, (image.mp ⟨_, composed⟩).1, (image.mp ⟨_, composed⟩).2,
    fun others => once others composed⟩

end Onboarding.Path
