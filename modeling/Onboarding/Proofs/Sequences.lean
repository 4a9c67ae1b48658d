import Onboarding.Json.Read
import Onboarding.Proofs.Targets

/-! Typed sequences. Whatever a route stands for can be one level of a path, so a sequence always makes a
path, and its words come back from it. Segments that were not checked make a path exactly when they are
the texts of segments that were. -/
namespace Onboarding

namespace Path

theorem segmentFault?_eq_none_iff {segment : String} :
    segmentFault? segment = none ↔ IsSegment segment := by
  unfold segmentFault? IsSegment
  by_cases empty : segment = ""
  · simp [empty]
  · by_cases inside : separator ∈ segment.toList <;> simp [empty, inside]

/-- The separators of a path are those before its segments. -/
theorem count_joined {segments : List String} (good : ∀ segment ∈ segments, IsSegment segment) :
    (joined segments).toList.count separator = segments.length := by
  induction segments with
  | nil => rfl
  | cons segment segments ih =>
    obtain ⟨first, others⟩ := List.forall_mem_cons.mp good
    have free : segment.toList.count separator = 0 := List.count_eq_zero.mpr first.2
    have begun : (joined (segment :: segments)).toList =
        separator :: (segment.toList ++ (joined segments).toList) := by
      simp [separator]
    rw [begun, List.count_cons_self, List.count_append, free, ih others, List.length_cons, Nat.zero_add]

end Path

namespace Segment

theorem isSegment_text (segment : Segment) : Path.IsSegment segment.text :=
  Path.segmentFault?_eq_none_iff.mp segment.valid

theorem ofString_eq_ok_iff {text : String} {segment : Segment} :
    ofString text = .ok segment ↔ segment.text = text := by
  constructor
  · intro checked
    unfold ofString at checked
    split at checked
    · contradiction
    · rw [← Except.ok.inj checked]
  · rintro rfl
    unfold ofString
    split
    next fault wrong =>
      rw [segment.valid] at wrong
      contradiction
    next => rfl

theorem exists_ofString_iff {text : String} :
    (∃ segment, ofString text = .ok segment) ↔ Path.IsSegment text := by
  constructor
  · rintro ⟨segment, checked⟩
    rw [← ofString_eq_ok_iff.mp checked]
    exact segment.isSegment_text
  · intro good
    exact ⟨⟨text, Path.segmentFault?_eq_none_iff.mpr good⟩, ofString_eq_ok_iff.mpr rfl⟩

/-- Texts that can all be segments are the texts of segments. -/
theorem exists_map_text {texts : List String} (good : ∀ text ∈ texts, Path.IsSegment text) :
    ∃ segments : List Segment, segments.map text = texts := by
  induction texts with
  | nil => exact ⟨[], rfl⟩
  | cons first texts ih =>
    obtain ⟨here, others⟩ := List.forall_mem_cons.mp good
    obtain ⟨segments, same⟩ := ih others
    exact ⟨⟨first, Path.segmentFault?_eq_none_iff.mpr here⟩ :: segments, by rw [List.map_cons, same]⟩

end Segment

/-- Every word of the vocabularies can be a level of a path, and so can every checked segment. -/
theorem Route.isSegment_word (route : Route) : Path.IsSegment route.word := by
  cases route with
  | top w => exact w.isSegment_word
  | creation w => cases w <;> decide
  | importing w => cases w <;> decide
  | ledger w => cases w <;> decide
  | param segment => exact segment.isSegment_text

namespace Sequence

def words (s : Sequence) : List String := s.routes.map Route.word

theorem words_ne_nil (s : Sequence) : s.words ≠ [] := by simp [words, routes]

theorem isSegment_of_mem_words {s : Sequence} {word : String} (member : word ∈ s.words) :
    Path.IsSegment word := by
  obtain ⟨route, _, rfl⟩ := List.mem_map.mp member
  exact route.isSegment_word

theorem compose_eq (s : Sequence) : s.compose = .ok (Path.joined s.words) :=
  Path.compose_eq_ok_iff.mpr ⟨s.words_ne_nil, fun _ => isSegment_of_mem_words, rfl⟩

/-- Pushing routes one by one gives what building from the list of them gives. -/
theorem foldl_push (s : Sequence) (routes : List Route) :
    routes.foldl push s = ⟨s.outermost, s.inner ++ routes⟩ := by
  induction routes generalizing s with
  | nil => simp
  | cons route routes ih => simp [ih, push]

theorem ofRoutes_eq_error_iff {routes : List Route} {fault : Path.Fault} :
    ofRoutes routes = .error fault ↔ routes = [] ∧ fault = .noSegments := by
  cases routes with
  | nil => simp [ofRoutes, eq_comm]
  | cons route routes => simp [ofRoutes]

end Sequence

/-- Segments resolve as a sequence does only if they are its words. -/
theorem Target.resolve_segments_eq_iff {words : List String} {s : Sequence} :
    (segments words).resolve = (path s).resolve ↔ words = s.words := by
  have composed : (path s).resolve = .ok (Path.joined s.words) := s.compose_eq
  constructor
  · intro alike
    rw [composed] at alike
    have own := Path.split_eq_ok_iff.mpr (Path.compose_eq_ok_iff.mp s.compose_eq)
    have other := Path.split_eq_ok_iff.mpr (Path.compose_eq_ok_iff.mp alike)
    exact Except.ok.inj (other.symm.trans own)
  · rintro rfl
    rfl

theorem Target.exists_resolve_segments_iff {words : List String} :
    (∃ goal, (segments words).resolve = .ok goal) ↔
      words ≠ [] ∧ ∀ word ∈ words, Path.IsSegment word := by
  constructor
  · rintro ⟨goal, composed⟩
    obtain ⟨nonempty, good, _⟩ := Path.compose_eq_ok_iff.mp composed
    exact ⟨nonempty, good⟩
  · rintro ⟨nonempty, good⟩
    exact ⟨_, Path.compose_eq_ok_iff.mpr ⟨nonempty, good, rfl⟩⟩

/-- A sequence always makes a path, which has a separator for each route and splits into the words; raw
segments resolve to it exactly when they are these words, and to anything only when a sequence of
parameters resolves to the same. Sequences are the same whether they are built route by route or at once,
and only the empty list makes none. -/
theorem Sequence.resolves_as_words (s : Sequence) :
    (0 < s.length ∧ ∃ path, s.compose = .ok path ∧ (Target.path s).resolve = .ok path ∧
      Path.split path = .ok (s.routes.map Route.word) ∧ path.toList.count '/' = s.length) ∧
    (∀ words, (Target.segments words).resolve = (Target.path s).resolve ↔
      words = s.routes.map Route.word) ∧
    (∀ words, (∃ path, (Target.segments words).resolve = .ok path) ↔
      ∃ (params : List Segment) (typed : Sequence), ofRoutes (params.map Route.param) = .ok typed ∧
        (Target.path typed).resolve = (Target.segments words).resolve) ∧
    ofRoutes s.routes = .ok s ∧
    (∀ first others, ofRoutes (first :: others) = .ok (others.foldl push (start first)) ∧
      (others.foldl push (start first)).routes = first :: others) ∧
    (∀ routes, (∃ fault, ofRoutes routes = .error fault) ↔ routes = []) ∧
    (∀ text, (∃ segment, Segment.ofString text = .ok segment) ↔ text ≠ "" ∧ '/' ∉ text.toList) ∧
    (∀ text segment, Segment.ofString text = .ok segment ∨ Json.decode Json.readSegment text = .ok segment →
      segment.text ≠ "" ∧ '/' ∉ segment.text.toList) := by
  refine ⟨⟨Nat.succ_pos _, Path.joined s.words, s.compose_eq, s.compose_eq, ?_, ?_⟩,
    fun words => Target.resolve_segments_eq_iff, fun words => ⟨?_, ?_⟩, rfl, fun first others => ?_,
    fun routes => ?_, fun text => Segment.exists_ofString_iff, fun _ segment _ => segment.isSegment_text⟩
  · exact Path.split_joined s.words_ne_nil fun _ => isSegment_of_mem_words
  · have counted := Path.count_joined fun word (member : word ∈ s.words) => isSegment_of_mem_words member
    rw [words, List.length_map] at counted
    exact counted
  · intro resolves
    obtain ⟨nonempty, good⟩ := Target.exists_resolve_segments_iff.mp resolves
    obtain ⟨params, same⟩ := Segment.exists_map_text good
    cases params with
    | nil => exact absurd same.symm nonempty
    | cons first others =>
      refine ⟨first :: others, ⟨.param first, others.map .param⟩, rfl, ?_⟩
      refine (Target.resolve_segments_eq_iff.mpr ?_).symm
      rw [← same, Sequence.words, routes, List.map_cons, List.map_cons, List.map_map]
      rfl
  · rintro ⟨params, typed, _, alike⟩
    exact ⟨_, alike.symm.trans typed.compose_eq⟩
  · rw [foldl_push]
    exact ⟨rfl, rfl⟩
  · simp only [ofRoutes_eq_error_iff, exists_and_left, exists_eq, and_true]

/-- Two vocabularies and a parameter. -/
theorem Sequence.resolves_as_words_ledger :
    let s : Sequence := ⟨.top .ledger, [.ledger .importing, .param ⟨"acct-7", rfl⟩]⟩
    (∃ path, s.compose = .ok path ∧ path.toList.count '/' = 3) ∧
    (Target.segments ["ledger", "import", "acct-7"]).resolve = (Target.path s).resolve ∧
    (∃ (params : List Segment) (typed : Sequence), ofRoutes (params.map Route.param) = .ok typed ∧
      (Target.path typed).resolve = (Target.segments ["a", "b"]).resolve) ∧
    "acct-7" ≠ "" := by
  intro s
  obtain ⟨⟨_, path, composed, _, _, separators⟩, alike, typed, _, _, _, _, checked⟩ :=
    Sequence.resolves_as_words s
  refine ⟨⟨path, composed, separators⟩, (alike _).mpr rfl, (typed ["a", "b"]).mp ⟨"/a/b", rfl⟩, ?_⟩
  exact (checked "acct-7" ⟨"acct-7", rfl⟩ (.inl rfl)).1

end Onboarding
