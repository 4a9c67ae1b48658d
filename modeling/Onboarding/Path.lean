/-! Paths and their segments. A path has a separator before each segment. Main statements: a text is
its pieces with a separator between them, and no piece holds a separator. -/
namespace Onboarding.Path

def separator : Char := '/'

inductive Fault
  | emptySegment
  | separatorInside (segment : String)
  | noSegments
  | notAbsolute (path : String)
  | emptySegmentIn (path : String)
deriving DecidableEq, Repr

def Fault.message : Fault → String
  | .emptySegment => "route segment cannot be empty"
  | .separatorInside segment =>
    "route segment '" ++ segment ++ "' contains the path separator '/'"
  | .noSegments => "route sequence must contain at least one segment"
  | .notAbsolute path => "path '" ++ path ++ "' must start with '/'"
  | .emptySegmentIn path => "path '" ++ path ++ "' has an empty segment"

/-- What keeps a text from being one level of a path. -/
def segmentFault? (segment : String) : Option Fault :=
  if segment.toList = [] then some .emptySegment
  else if separator ∈ segment.toList then some (.separatorInside segment)
  else none

def checkSegment (segment : String) : Except Fault Unit :=
  match segmentFault? segment with
  | some fault => .error fault
  | none => .ok ()

/-- Puts segments behind a path, each after a separator. The first segment that cannot stand in a path
is reported. -/
def extend (path : String) : List String → Except Fault String
  | [] => .ok path
  | segment :: segments =>
    match checkSegment segment with
    | .error fault => .error fault
    | .ok () => extend (path.push separator ++ segment) segments

/-- The path of some segments; without any there is none. -/
def compose (segments : List String) : Except Fault String :=
  match extend "" segments with
  | .error fault => .error fault
  | .ok path => if path = "" then .error .noSegments else .ok path

/-- A text that begins with a separator. -/
def IsAbsolute (text : String) : Prop := text.toList.head? = some separator

instance (text : String) : Decidable (IsAbsolute text) := inferInstanceAs (Decidable (_ = _))

/-- The texts between separators, one more than there are separators. -/
def pieces (cs : List Char) : List (List Char) := cs.splitOn separator

def hasDoubled : List Char → Bool
  | a :: b :: rest => (a = separator && b = separator) || hasDoubled (b :: rest)
  | _ => false

/-- A text as a level of a path. Whatever is wrong with it is reported of the path. -/
def levelIn (path level : String) : Except Fault String :=
  match checkSegment level with
  | .error _ => .error (.emptySegmentIn path)
  | .ok () => .ok level

def split (path : String) : Except Fault (List String) :=
  match path.toList with
  | [] => .error (.notAbsolute path)
  | c :: rest =>
    if c = separator then ((pieces rest).map String.ofList).mapM (levelIn path)
    else .error (.notAbsolute path)

theorem pieces_ne_nil (cs : List Char) : pieces cs ≠ [] := List.splitOn_ne_nil separator cs

/-- A separator ends a piece. -/
theorem pieces_separator (rest : List Char) : pieces (separator :: rest) = [] :: pieces rest := by
  simp [pieces, List.splitOn_cons_eq_if_modifyHead]

/-- Any other character belongs to the first piece. -/
theorem pieces_cons {c : Char} (h : c ≠ separator) (rest : List Char) :
    ∃ piece others, pieces rest = piece :: others ∧ pieces (c :: rest) = (c :: piece) :: others := by
  obtain ⟨piece, others, hr⟩ := List.exists_cons_of_ne_nil (pieces_ne_nil rest)
  refine ⟨piece, others, hr, ?_⟩
  rw [pieces] at hr ⊢
  simp [List.splitOn_cons_eq_if_modifyHead, h, hr]

theorem flatMap_eq_intercalate {texts : List (List Char)} (h : texts ≠ []) :
    texts.flatMap (separator :: ·) = separator :: [separator].intercalate texts := by
  induction texts with
  | nil => contradiction
  | cons text texts ih =>
    by_cases ht : texts = []
    · simp [ht]
    · rw [List.flatMap_cons, ih ht, List.intercalate_cons_of_ne_nil ht]
      simp

/-- A text is its pieces with a separator between them. -/
theorem flatMap_pieces (cs : List Char) :
    (pieces cs).flatMap (separator :: ·) = separator :: cs := by
  rw [flatMap_eq_intercalate (pieces_ne_nil cs), pieces, List.intercalate_splitOn]

theorem separator_not_mem_of_mem_pieces {cs piece : List Char} (h : piece ∈ pieces cs) :
    separator ∉ piece := by
  induction cs generalizing piece with
  | nil => simp_all [pieces]
  | cons c rest ih =>
    by_cases hc : c = separator
    · subst hc
      rw [pieces_separator, List.mem_cons] at h
      rcases h with rfl | h
      · simp
      · exact ih h
    · obtain ⟨first, others, hr, hs⟩ := pieces_cons hc rest
      rw [hs, List.mem_cons] at h
      rcases h with rfl | h
      · rw [List.mem_cons, not_or]
        exact ⟨Ne.symm hc, ih (by simp [hr])⟩
      · exact ih (by simp [hr, h])

/-- Texts without separators are the pieces of what they make with a separator before each. -/
theorem pieces_of_flatMap {texts : List (List Char)} {rest : List Char}
    (h : texts.flatMap (separator :: ·) = separator :: rest)
    (free : ∀ text ∈ texts, separator ∉ text) : pieces rest = texts := by
  have nonempty : texts ≠ [] := by
    rintro rfl
    simp at h
  rw [flatMap_eq_intercalate nonempty, List.cons.injEq] at h
  rw [← h.2]
  exact List.splitOn_intercalate separator free nonempty

end Onboarding.Path
