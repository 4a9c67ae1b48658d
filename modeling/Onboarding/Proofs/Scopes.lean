import Mathlib.Data.List.Nodup
import Mathlib.Data.List.Perm.Subperm
import Onboarding.Trace

/-! Identities are lexically scoped. Nodes are told apart by where they stand in the forest that is
walked, and not by the order in which they are opened: a path gives the place of each node among its
siblings, from the outermost one inwards. The empty path stands for no node. -/
namespace Onboarding.Trace

namespace Node

def isRead : Node → Bool
  | .read => true
  | _ => false

def isPanic : Node → Bool
  | .panic _ => true
  | _ => false

def children : Node → List Node
  | .read => []
  | .scope children => children
  | .panic children => children

/-- Whether the identity is read directly within the node. -/
def isHeard (node : Node) : Bool := node.children.any isRead

end Node

/-- What a walk comes by: a read, with the path of its innermost node, or the end of a panic. -/
inductive Visit
  | read (innermost : List Nat)
  | caught
deriving DecidableEq, Repr

def Visit.below (place : Nat) : Visit → Visit
  | .read innermost => .read (place :: innermost)
  | .caught => .caught

structure Opening where
  path : List Nat
  node : Node

def Opening.below (place : Nat) (o : Opening) : Opening := { o with path := place :: o.path }

mutual

/-- What a walk comes by in a node at a place among its siblings. -/
def visits (place : Nat) : Node → List Visit
  | .read => [.read []]
  | .scope children => (visitsFrom 0 children).map (.below place)
  | .panic children => (visitsFrom 0 children).map (.below place) ++ [.caught]

def visitsFrom (place : Nat) : List Node → List Visit
  | [] => []
  | node :: nodes => visits place node ++ visitsFrom (place + 1) nodes

end

mutual

/-- The scopes and panics in a node, each before those inside it. -/
def openings (place : Nat) : Node → List Opening
  | .read => []
  | .scope children => ⟨[place], .scope children⟩ :: (openingsFrom 0 children).map (.below place)
  | .panic children => ⟨[place], .panic children⟩ :: (openingsFrom 0 children).map (.below place)

def openingsFrom (place : Nat) : List Node → List Opening
  | [] => []
  | node :: nodes => openings place node ++ openingsFrom (place + 1) nodes

end

/-- The trace in which the walk starts on what is inside the node at a path. -/
def inside (t : Trace) (forest : List Node) : List Nat → Trace
  | [] => t
  | place :: path =>
    inside (walkAll t (forest.take place)).2.enter ((forest[place]?.map Node.children).getD []) path

/-- What is noted of a visit when every read finds the identity of its innermost node. -/
def noted (t : Trace) (forest : List Node) : Visit → Note
  | .read innermost => .id (inside t forest innermost).current
  | .caught => .caught

@[simp] theorem walkAll_nil (t : Trace) : walkAll t [] = ([], t) := rfl

@[simp] theorem walkAll_cons (t : Trace) (node : Node) (nodes : List Node) :
    walkAll t (node :: nodes) =
      ((walk t node).1 ++ (walkAll (walk t node).2 nodes).1, (walkAll (walk t node).2 nodes).2) := rfl

@[simp] theorem inside_nil (t : Trace) (forest : List Node) : inside t forest [] = t := rfl

@[simp] theorem inside_cons (t : Trace) (before : List Node) (node : Node) (after : List Node)
    (path : List Nat) :
    inside t (before ++ node :: after) (before.length :: path) =
      inside (walkAll t before).2.enter node.children path := by
  simp [inside]

theorem current_walk (t : Trace) (node : Node) : (walk t node).2.current = t.current := by
  cases node <;> rfl

/-- A walk leaves the identity in force that it found. -/
theorem current_walkAll (t : Trace) (nodes : List Node) : (walkAll t nodes).2.current = t.current := by
  induction nodes generalizing t with
  | nil => rfl
  | cons node nodes ih => rw [walkAll_cons, ih, current_walk]

theorem walkAll_append (t : Trace) (before after : List Node) :
    walkAll t (before ++ after) =
      ((walkAll t before).1 ++ (walkAll (walkAll t before).2 after).1,
        (walkAll (walkAll t before).2 after).2) := by
  induction before generalizing t with
  | nil => rfl
  | cons node before ih => simp [ih]

theorem walkAll_concat (t : Trace) (before : List Node) (node : Node) :
    (walkAll t (before ++ [node])).2 = (walk (walkAll t before).2 node).2 := by
  simp [walkAll_append]

/-- What is noted of a visit inside a node does not depend on what surrounds the node. -/
theorem noted_below (t : Trace) (before : List Node) (node : Node) (after : List Node) (v : Visit) :
    noted t (before ++ node :: after) (v.below before.length) =
      noted (walkAll t before).2.enter node.children v := by
  cases v with
  | read innermost => simp only [Visit.below, noted, inside_cons]
  | caught => rfl

-- The nodes that come before the ones walked are kept, since they decide which identities are next.
mutual

theorem notes_walk (t : Trace) (before after : List Node) : (node : Node) →
    (walk (walkAll t before).2 node).1 =
      (visits before.length node).map (noted t (before ++ node :: after))
  | .read => by simp [walk, visits, noted, current_walkAll]
  | .scope children => by
    have inner := notes_walkAll (walkAll t before).2.enter [] children
    have outer := funext (noted_below t before (.scope children) after)
    rw [visits, List.map_map, Function.comp_def, outer]
    exact inner
  | .panic children => by
    have inner := notes_walkAll (walkAll t before).2.enter [] children
    have outer := funext (noted_below t before (.panic children) after)
    rw [visits, List.map_append, List.map_map, Function.comp_def, outer]
    exact congrArg (· ++ [.caught]) inner

theorem notes_walkAll (t : Trace) (before : List Node) : (nodes : List Node) →
    (walkAll (walkAll t before).2 nodes).1 =
      (visitsFrom before.length nodes).map (noted t (before ++ nodes))
  | [] => rfl
  | node :: nodes => by
    have first := notes_walk t before nodes node
    have others := notes_walkAll t (before ++ [node]) nodes
    rw [walkAll_concat, List.length_append, List.append_assoc] at others
    rw [walkAll_cons, visitsFrom, List.map_append, first]
    exact congrArg (_ ++ ·) others

end

/-- Openings that get the serial numbers from one on, one after the other, up to another. -/
structure InOrder (next : Nat) (opened : List Opening) (found : List Nat → Trace) (left : Nat) :
    Prop where
  given : opened.map (fun o => (found o.path).current) =
    (List.range' next opened.length).map fun serial => some ⟨serial⟩
  spent : left = next + opened.length

theorem InOrder.append {next middle left : Nat} {opened others : List Opening}
    {found : List Nat → Trace} (first : InOrder next opened found middle)
    (second : InOrder middle others found left) : InOrder next (opened ++ others) found left := by
  constructor
  · rw [List.map_append, first.given, second.given, first.spent, List.length_append,
      ← List.range'_append_1, List.map_append]
  · rw [second.spent, first.spent, List.length_append, Nat.add_assoc]

/-- A node that is opened gets its identity before all that is inside it. -/
theorem InOrder.opening {t : Trace} {before : List Node} (node : Node) {left : Nat}
    (inner : InOrder ((walkAll t before).2.supply + 1) (openingsFrom 0 node.children)
      (inside (walkAll t before).2.enter node.children) left) (after : List Node) :
    InOrder (walkAll t before).2.supply
      (⟨[before.length], node⟩ :: (openingsFrom 0 node.children).map (.below before.length))
      (inside t (before ++ node :: after)) left := by
  constructor
  · simp only [List.map_cons, List.map_map, Function.comp_def, Opening.below, inside_cons, inside_nil,
      inner.given, List.length_cons, List.length_map, List.range'_succ, current_enter]
  · rw [inner.spent, List.length_cons, List.length_map, Nat.add_assoc, Nat.add_comm 1]

mutual

/-- Scopes and panics get their identities in the order in which they are opened. -/
theorem inOrder_walk (t : Trace) (before after : List Node) : (node : Node) →
    InOrder (walkAll t before).2.supply (openings before.length node)
      (inside t (before ++ node :: after)) (walk (walkAll t before).2 node).2.supply
  | .read => ⟨rfl, rfl⟩
  | .scope children =>
    have inner := inOrder_walkAll (walkAll t before).2.enter [] children
    InOrder.opening (.scope children) inner after
  | .panic children =>
    have inner := inOrder_walkAll (walkAll t before).2.enter [] children
    InOrder.opening (.panic children) inner after

theorem inOrder_walkAll (t : Trace) (before : List Node) : (nodes : List Node) →
    InOrder (walkAll t before).2.supply (openingsFrom before.length nodes)
      (inside t (before ++ nodes)) (walkAll (walkAll t before).2 nodes).2.supply
  | [] => ⟨rfl, rfl⟩
  | node :: nodes => by
    have first := inOrder_walk t before nodes node
    have others := inOrder_walkAll t (before ++ [node]) nodes
    rw [walkAll_concat, List.length_append, List.append_assoc] at others
    exact first.append others

end

theorem identities_nodup (t : Trace) (forest : List Node) :
    ((openingsFrom 0 forest).map fun o => (inside t forest o.path).current).Nodup := by
  have given := (inOrder_walkAll t [] forest).given
  rw [List.length_nil, List.nil_append] at given
  rw [given]
  apply List.Nodup.map _ List.nodup_range'
  intro a b same
  exact congrArg TraceId.serial (Option.some.inj same)

/-- The identity of a node that is opened comes from the supply. -/
theorem exists_serial (t : Trace) {forest : List Node} {o : Opening}
    (opened : o ∈ openingsFrom 0 forest) :
    ∃ serial, t.supply ≤ serial ∧ (inside t forest o.path).current = some ⟨serial⟩ := by
  have given := (inOrder_walkAll t [] forest).given
  rw [List.length_nil, List.nil_append] at given
  have found := List.mem_map_of_mem (f := fun o => (inside t forest o.path).current) opened
  rw [given] at found
  obtain ⟨serial, within, same⟩ := List.mem_map.mp found
  exact ⟨serial, (List.mem_range'_1.mp within).1, same.symm⟩

theorem read_mem_below {place : Nat} {innermost : List Nat} {found : List Visit} :
    Visit.read innermost ∈ found.map (Visit.below place) ↔
      ∃ path, Visit.read path ∈ found ∧ place :: path = innermost := by
  rw [List.mem_map]
  constructor
  · rintro ⟨v, member, same⟩
    cases v with
    | read path => exact ⟨path, member, Visit.read.inj same⟩
    | caught => contradiction
  · rintro ⟨path, member, rfl⟩
    exact ⟨.read path, member, rfl⟩

/-- A read inside a node is directly in it, or directly in a node that is opened inside it. -/
theorem read_mem_opening (place : Nat) (node : Node) (innermost : List Nat)
    (inner : ∀ path, Visit.read path ∈ visitsFrom 0 node.children ↔
      (path = [] ∧ node.isHeard) ∨
        ∃ o ∈ openingsFrom 0 node.children, o.path = path ∧ o.node.isHeard) :
    Visit.read innermost ∈ (visitsFrom 0 node.children).map (Visit.below place) ↔
      ∃ o ∈ (⟨[place], node⟩ : Opening) :: (openingsFrom 0 node.children).map (Opening.below place),
        o.path = innermost ∧ o.node.isHeard := by
  rw [read_mem_below]
  constructor
  · rintro ⟨path, found, rfl⟩
    rcases (inner path).mp found with ⟨rfl, heard⟩ | ⟨o, opened, rfl, heard⟩
    · exact ⟨_, List.mem_cons_self, rfl, heard⟩
    · exact ⟨o.below place, List.mem_cons_of_mem _ (List.mem_map_of_mem opened), rfl, heard⟩
  · rintro ⟨o, opened, rfl, heard⟩
    rcases List.mem_cons.mp opened with rfl | opened
    · exact ⟨[], (inner []).mpr (.inl ⟨rfl, heard⟩), rfl⟩
    · obtain ⟨below, deeper, rfl⟩ := List.mem_map.mp opened
      exact ⟨below.path, (inner below.path).mpr (.inr ⟨below, deeper, rfl, heard⟩), rfl⟩

mutual

theorem read_mem_visits (place : Nat) (innermost : List Nat) : (node : Node) →
    (Visit.read innermost ∈ visits place node ↔ (innermost = [] ∧ node.isRead) ∨
      ∃ o ∈ openings place node, o.path = innermost ∧ o.node.isHeard)
  | .read => by simp [visits, openings, Node.isRead]
  | .scope children => by
    have found := read_mem_opening place (.scope children) innermost fun path =>
      read_mem_visitsFrom 0 path children
    rw [visits, or_iff_right fun read => Bool.noConfusion read.2]
    exact found
  | .panic children => by
    have found := read_mem_opening place (.panic children) innermost fun path =>
      read_mem_visitsFrom 0 path children
    rw [visits, List.mem_append, or_iff_left (by simp), or_iff_right fun read => Bool.noConfusion read.2]
    exact found

theorem read_mem_visitsFrom (place : Nat) (innermost : List Nat) : (nodes : List Node) →
    (Visit.read innermost ∈ visitsFrom place nodes ↔ (innermost = [] ∧ nodes.any Node.isRead) ∨
      ∃ o ∈ openingsFrom place nodes, o.path = innermost ∧ o.node.isHeard)
  | [] => by simp [visitsFrom, openingsFrom]
  | node :: nodes => by
    have first := read_mem_visits place innermost node
    have others := read_mem_visitsFrom (place + 1) innermost nodes
    simp only [visitsFrom, openingsFrom, List.mem_append, first, others, List.any_cons, Bool.or_eq_true,
      or_and_right, exists_or, and_or_left, or_or_or_comm]

end

/-- Nothing but the end of a panic counts as one under another name. -/
theorem count_map_caught {β : Type} [DecidableEq β] {name : Visit → β} {caught : β}
    (kept : ∀ v, name v = caught ↔ v = .caught) (found : List Visit) :
    (found.map name).count caught = found.count .caught := by
  rw [List.count_eq_countP, List.countP_map, List.count_eq_countP]
  apply List.countP_congr
  intro v _
  simpa using kept v

theorem count_caught_below (place : Nat) (found : List Visit) :
    (found.map (Visit.below place)).count .caught = found.count .caught := by
  apply count_map_caught
  intro v
  cases v <;> simp [Visit.below]

mutual

theorem count_caught_visits (place : Nat) : (node : Node) →
    (visits place node).count .caught = (openings place node).countP (·.node.isPanic)
  | .read => rfl
  | .scope children => by
    rw [visits, openings, count_caught_below, count_caught_visitsFrom 0 children, List.countP_cons,
      List.countP_map]
    rfl
  | .panic children => by
    rw [visits, openings, List.count_append, count_caught_below, count_caught_visitsFrom 0 children,
      List.countP_cons, List.countP_map]
    rfl

theorem count_caught_visitsFrom (place : Nat) : (nodes : List Node) →
    (visitsFrom place nodes).count .caught = (openingsFrom place nodes).countP (·.node.isPanic)
  | [] => rfl
  | node :: nodes => by
    rw [visitsFrom, openingsFrom, List.count_append, List.countP_append, count_caught_visits,
      count_caught_visitsFrom]

end

theorem nodup_eraseDups (ids : List TraceId) : ids.eraseDups.Nodup := by
  cases ids with
  | nil => simp
  | cons id ids =>
    rw [List.eraseDups_cons, List.nodup_cons, List.mem_eraseDups]
    exact ⟨by simp, nodup_eraseDups (ids.filter fun other => !other == id)⟩
termination_by ids.length
decreasing_by exact Nat.lt_succ_of_le (List.length_filter_le ..)

section

variable {t : Trace} {forest : List Node}

/-- The identity in force is none that the supply still holds. -/
def Fresh (t : Trace) : Prop := ∀ id, t.current = some id → id.serial < t.supply

theorem Fresh.identity_ne (fresh : t.Fresh) {o : Opening} (opened : o ∈ openingsFrom 0 forest) :
    (inside t forest o.path).current ≠ t.current := by
  obtain ⟨serial, later, given⟩ := exists_serial t opened
  intro same
  have earlier := fresh ⟨serial⟩ (same.symm.trans given)
  exact Nat.not_lt_of_le later earlier

theorem identity_inj {o other : Opening} (opened : o ∈ openingsFrom 0 forest)
    (otherOpened : other ∈ openingsFrom 0 forest)
    (same : (inside t forest o.path).current = (inside t forest other.path).current) : o = other :=
  List.inj_on_of_nodup_map (identities_nodup t forest) opened otherOpened same

/-- Reads find one identity exactly when they have one innermost node. -/
theorem Fresh.identity_eq_iff (fresh : t.Fresh) {path other : List Nat}
    (read : Visit.read path ∈ visitsFrom 0 forest) (otherRead : Visit.read other ∈ visitsFrom 0 forest) :
    (inside t forest path).current = (inside t forest other).current ↔ path = other := by
  refine ⟨fun same => ?_, fun same => by rw [same]⟩
  rcases (read_mem_visitsFrom 0 path forest).mp read with ⟨rfl, _⟩ | ⟨o, opened, rfl, _⟩ <;>
    rcases (read_mem_visitsFrom 0 other forest).mp otherRead with ⟨rfl, _⟩ | ⟨p, otherOpened, rfl, _⟩
  · rfl
  · exact absurd same.symm (fresh.identity_ne otherOpened)
  · exact absurd same (fresh.identity_ne opened)
  · rw [identity_inj opened otherOpened same]

theorem notes_eq (t : Trace) (forest : List Node) :
    (walkAll t forest).1 = (visitsFrom 0 forest).map (noted t forest) := notes_walkAll t [] forest

theorem mem_distinct {id : TraceId} :
    id ∈ distinct (walkAll t forest).1 ↔
      ∃ path, Visit.read path ∈ visitsFrom 0 forest ∧ (inside t forest path).current = some id := by
  rw [distinct, List.mem_eraseDups, List.mem_filterMap, notes_eq]
  constructor
  · rintro ⟨note, member, read⟩
    obtain ⟨v, met, rfl⟩ := List.mem_map.mp member
    cases v with
    | read path => exact ⟨path, met, read⟩
    | caught => contradiction
  · rintro ⟨path, met, found⟩
    exact ⟨_, List.mem_map_of_mem met, found⟩

/-- An identity that is read, and is not that in force outside, is one of a node in which it is read. -/
theorem Fresh.mem_distinct_iff (fresh : t.Fresh) {id : TraceId} :
    id ∈ distinct (walkAll t forest).1 ∧ some id ≠ t.current ↔
      ∃ o ∈ openingsFrom 0 forest, o.node.isHeard ∧ (inside t forest o.path).current = some id := by
  rw [mem_distinct]
  constructor
  · rintro ⟨⟨path, met, found⟩, other⟩
    rcases (read_mem_visitsFrom 0 path forest).mp met with ⟨rfl, _⟩ | ⟨o, opened, rfl, heard⟩
    · exact absurd found.symm other
    · exact ⟨o, opened, heard, found⟩
  · rintro ⟨o, opened, heard, found⟩
    refine ⟨⟨o.path, (read_mem_visitsFrom 0 o.path forest).mpr (.inr ⟨o, opened, rfl, heard⟩), found⟩, ?_⟩
    rw [← found]
    exact fresh.identity_ne opened

/-- As many identities are read, that in force outside aside, as there are nodes directly within which
one is read. -/
theorem Fresh.length_distinct (fresh : t.Fresh) :
    ((distinct (walkAll t forest).1).filter fun id => some id ≠ t.current).length =
      (openingsFrom 0 forest).countP (·.node.isHeard) := by
  have same : List.Perm
      (((distinct (walkAll t forest).1).filter fun id => some id ≠ t.current).map some)
      (((openingsFrom 0 forest).filter (·.node.isHeard)).map
        fun o => (inside t forest o.path).current) := by
    apply (List.perm_ext_iff_of_nodup ?_ ?_).mpr
    · intro found
      simp only [List.mem_map, List.mem_filter, decide_eq_true_eq, fresh.mem_distinct_iff]
      constructor
      · rintro ⟨id, ⟨o, opened, heard, given⟩, rfl⟩
        exact ⟨o, ⟨opened, heard⟩, given⟩
      · rintro ⟨o, ⟨opened, heard⟩, rfl⟩
        obtain ⟨serial, _, given⟩ := exists_serial t opened
        exact ⟨⟨serial⟩, ⟨o, opened, heard, given⟩, given.symm⟩
    · exact ((nodup_eraseDups _).filter _).map fun _ _ => Option.some.inj
    · exact (identities_nodup t forest).sublist (List.filter_sublist.map _)
  rw [List.countP_eq_length_filter]
  simpa using same.length_eq

theorem count_caught_walkAll (t : Trace) (forest : List Node) :
    (walkAll t forest).1.count .caught = (openingsFrom 0 forest).countP (·.node.isPanic) := by
  rw [← count_caught_visitsFrom, notes_eq]
  apply count_map_caught
  intro v
  cases v <;> simp [noted]

end

/-- Every read finds the identity that was generated for its innermost node, or that in force outside,
which is in force again after each node. As identities are never generated twice, they tell the nodes
apart. A panic is noted once, after all that happened inside it and before the walk goes on. -/
theorem walkAll_scoped (t : Trace) (forest : List Node) :
    let notes := (walkAll t forest).1
    let found := visitsFrom 0 forest
    let opened := openingsFrom 0 forest
    (notes = found.map (noted t forest) ∧
      opened.map (fun o => (inside t forest o.path).current) =
        (List.range' t.supply opened.length).map fun serial => some ⟨serial⟩) ∧
    ((walkAll t forest).2.current = t.current ∧ ∀ s node, (walk s node).2.current = s.current) ∧
    ((∀ id, t.current = some id → id.serial < t.supply) →
      (∀ (i j : Nat) (path other : List Nat),
        found[i]? = some (.read path) → found[j]? = some (.read other) →
        (notes[i]? = notes[j]? ↔ path = other)) ∧
      ((distinct notes).filter fun id => some id ≠ t.current).length =
        opened.countP (·.node.isHeard)) ∧
    notes.count .caught = opened.countP (·.node.isPanic) ∧
    ∀ s before children after,
      let outer := (walkAll s before).2
      (walkAll s (before ++ .panic children :: after)).1 =
        (walkAll s before).1 ++ ((walkAll outer.enter children).1 ++ [.caught]) ++
          (walkAll (walk outer (.panic children)).2 after).1 := by
  intro notes found opened
  have noting : notes = found.map (noted t forest) := notes_eq t forest
  refine ⟨⟨noting, (inOrder_walkAll t [] forest).given⟩, ⟨current_walkAll t forest, current_walk⟩, ?_,
    count_caught_walkAll t forest, ?_⟩
  · intro fresh
    refine ⟨?_, Fresh.length_distinct fresh⟩
    intro i j path other here there
    rw [noting, List.getElem?_map, List.getElem?_map, here, there,
      ← Fresh.identity_eq_iff fresh (List.mem_of_getElem? here) (List.mem_of_getElem? there)]
    simp [noted]
  · intro s before children after outer
    rw [walkAll_append, walkAll_cons, List.append_assoc]
    rfl

def nested : List Node := [.read, .scope [.read, .panic [.read], .read], .read]

theorem walkAll_scoped_nested :
    let t : Trace := ⟨some ⟨3⟩, 4⟩
    let notes := (walkAll t nested).1
    notes[1]? = notes[4]? ∧ notes[1]? ≠ notes[2]? ∧ notes[0]? = notes[5]? ∧
      ((distinct notes).filter fun id => some id ≠ t.current).length = 2 := by
  intro t notes
  obtain ⟨_, _, distinguished, _⟩ := walkAll_scoped t nested
  have fresh : ∀ id, t.current = some id → id.serial < t.supply := by
    rintro id same
    obtain rfl := Option.some.inj same
    decide
  obtain ⟨agree, counted⟩ := distinguished fresh
  exact ⟨(agree 1 4 [1] [1] rfl rfl).mpr rfl, mt (agree 1 2 [1] [1, 1] rfl rfl).mp (by decide),
    (agree 0 5 [] [] rfl rfl).mpr rfl, counted⟩

end Onboarding.Trace
