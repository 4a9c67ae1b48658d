import Onboarding.Proofs.Histories

/-! Routers and their clones against plain stacks. A family is a new router with everything cloned from
it. The families of a run, and what was done to each, are read off the commands and their answers; every
handle then shows the stack that its family's own moves drive. Main statement: `run_refines_stacks`. -/
namespace Onboarding

inductive Move
  | navigate (goal : String)
  | back

/-- Locations above a base that is never taken away, the latest first. -/
structure Stack where
  base : String
  above : List String

namespace Stack

def start (base : String) : Stack := ⟨base, []⟩

def top (s : Stack) : String := s.above.headD s.base

def entries (s : Stack) : List String := s.base :: s.above.reverse

def perform (s : Stack) : Move → Reply Event Stack Store.Answer
  | .navigate goal =>
    match History.resolve s.top goal with
    | .error fault => ⟨.navigated (.error ⟨goal, fault.reason⟩), s, []⟩
    | .ok next => ⟨.navigated (.ok ()), ⟨s.base, next :: s.above⟩, []⟩
  | .back =>
    match s.above with
    | [] => ⟨.wentBack none, s, []⟩
    | _ :: below => ⟨.wentBack (some (top ⟨s.base, below⟩)), ⟨s.base, below⟩, []⟩

def run (s : Stack) (moves : List Move) : Reply Event Stack (List Store.Answer) :=
  Reply.run perform s moves

theorem run_concat (s : Stack) (moves : List Move) (move : Move) :
    (s.run (moves ++ [move])).result =
      (s.run moves).result ++ [((s.run moves).state.perform move).result] ∧
    (s.run (moves ++ [move])).state = ((s.run moves).state.perform move).state := by
  simp only [run, Reply.run_append]
  exact ⟨rfl, rfl⟩

def history (s : Stack) : History := ⟨s.entries⟩

theorem entries_push (base latest : String) (below : List String) :
    (Stack.mk base (latest :: below)).entries = (Stack.mk base below).entries ++ [latest] := by
  simp [entries]

@[simp] theorem depth_history (s : Stack) : s.history.depth = s.above.length + 1 := by
  simp [history, entries, History.depth]

@[simp] theorem location_history (s : Stack) : s.history.location = s.top := by
  obtain ⟨base, above⟩ := s
  cases above with
  | nil => rfl
  | cons latest below => simp [history, entries_push, top, History.location]

theorem navigate_history (s : Stack) (goal : String) :
    (s.perform (.navigate goal)).result = .navigated (s.history.navigate goal).result ∧
    (s.perform (.navigate goal)).state.history = (s.history.navigate goal).state := by
  simp only [perform, History.navigate, location_history]
  cases History.resolve s.top goal with
  | error fault => exact ⟨rfl, rfl⟩
  | ok next => exact ⟨rfl, congrArg History.mk (entries_push s.base next s.above)⟩

theorem back_history (s : Stack) :
    (s.perform .back).result = .wentBack s.history.back.1 ∧
    (s.perform .back).state.history = s.history.back.2 := by
  obtain ⟨base, above⟩ := s
  cases above with
  | nil => exact ⟨rfl, rfl⟩
  | cons latest below =>
    have left : (⟨(Stack.mk base (latest :: below)).history.entries.dropLast⟩ : History) =
        (Stack.mk base below).history := by
      simp [history, entries_push]
    simp [History.back, left, perform]

end Stack

def Store.Answer.advanced : Store.Answer → Bool
  | .navigated (.ok _) => true
  | _ => false

def Store.Answer.retreated : Store.Answer → Bool
  | .wentBack (some _) => true
  | _ => false

namespace Stack

theorem perform_balance (s : Stack) (move : Move) :
    (s.perform move).state.above.length + [(s.perform move).result].countP Store.Answer.retreated =
      s.above.length + [(s.perform move).result].countP Store.Answer.advanced := by
  cases move with
  | navigate goal =>
    simp only [perform]
    cases History.resolve s.top goal <;> simp [Store.Answer.advanced, Store.Answer.retreated]
  | back =>
    simp only [perform]
    cases above : s.above <;> simp [above, Store.Answer.advanced, Store.Answer.retreated]

/-- A stack is as high as its accepted navigations outnumber its steps back. -/
theorem run_balance (s : Stack) (moves : List Move) :
    (s.run moves).state.above.length + (s.run moves).result.countP Store.Answer.retreated =
      s.above.length + (s.run moves).result.countP Store.Answer.advanced := by
  induction moves generalizing s with
  | nil => rfl
  | cons move moves ih =>
    have first := perform_balance s move
    have later := ih (s.perform move).state
    simp only [run, Reply.run, List.countP_cons, List.countP_nil] at first later ⊢
    omega

end Stack

namespace Store

/-- What the commands of a run and their answers tell about families. -/
structure Chronicle where
  /-- The base of each family. -/
  bases : List String
  /-- The family of each handle. -/
  families : List Nat
  /-- The moves, each with the family that it was made in and its answer. -/
  log : List (Nat × Move × Answer)

namespace Chronicle

/-- A move through a handle is a move in its family. -/
def note (c : Chronicle) (handle : Nat) (move : Move) (answer : Answer) : Chronicle :=
  { c with log := c.log ++ (c.families[handle]?.map fun family => (family, move, answer)).toList }

def record (c : Chronicle) : Command × Answer → Chronicle
  | (.create base, .created (.ok _)) =>
    { c with bases := c.bases ++ [base], families := c.families ++ [c.bases.length] }
  | (.create _, _) => c
  | (.clone handle, _) => { c with families := c.families ++ c.families[handle]?.toList }
  | (.navigate handle goal, answer) => c.note handle (.navigate goal) answer
  | (.back handle, answer) => c.note handle .back answer

/-- What was done in a family, in order. -/
def dealings (c : Chronicle) (family : Nat) : List (Move × Answer) :=
  (c.log.filter fun entry => entry.1 = family).map Prod.snd

def moves (c : Chronicle) (family : Nat) : List Move := (c.dealings family).map Prod.fst

def answers (c : Chronicle) (family : Nat) : List Answer := (c.dealings family).map Prod.snd

/-- The stack that the moves of a family drive. -/
def stack (c : Chronicle) (family : Nat) (base : String) : Stack :=
  ((Stack.start base).run (c.moves family)).state

end Chronicle

/-- The chronicle of a run that begins without handles. -/
def chronicle (commands : List Command) : Chronicle :=
  (commands.zip (empty.run commands).result).foldl Chronicle.record ⟨[], [], []⟩

theorem Chronicle.dealings_note {c : Chronicle} {handle family : Nat}
    (found : c.families[handle]? = some family) (move : Move) (answer : Answer) (other : Nat) :
    (c.note handle move answer).dealings other =
      c.dealings other ++ if family = other then [(move, answer)] else [] := by
  by_cases same : family = other <;> simp [note, dealings, found, List.filter_append, same]

/-- The store holds what the chronicle tells: each family has a history of its own, which is the stack
that the family's moves drive, and its handles show it. -/
structure Told (c : Chronicle) (s : Store) : Prop where
  families : s.origins = c.families
  histories : s.histories.length = c.bases.length
  members : ∀ family ∈ c.families, family < c.bases.length
  logged : ∀ entry ∈ c.log, entry.1 < c.bases.length
  answers : ∀ family base, c.bases[family]? = some base →
    ((Stack.start base).run (c.moves family)).result = c.answers family
  stacked : ∀ family base, c.bases[family]? = some base →
    s.histories[family]? = some (c.stack family base).history

theorem told_empty : Told ⟨[], [], []⟩ empty := by
  constructor <;> simp [empty]

/-- What a handle shows, by its family. -/
theorem Told.history? {c : Chronicle} {s : Store} (told : Told c s) (handle : Nat) :
    (c.families[handle]? = none ∧ s.history? handle = none) ∨
    ∃ family base, c.families[handle]? = some family ∧ c.bases[family]? = some base ∧
      s.history? handle = some (c.stack family base).history := by
  rw [Store.history?, told.families]
  cases found : c.families[handle]? with
  | none => exact .inl ⟨rfl, rfl⟩
  | some family =>
    have bound := told.members family (List.mem_of_getElem? found)
    refine .inr ⟨family, c.bases[family], rfl, List.getElem?_eq_getElem bound, ?_⟩
    exact told.stacked family _ (List.getElem?_eq_getElem bound)

theorem Told.dealings_eq_nil {c : Chronicle} {s : Store} (told : Told c s) {family : Nat}
    (fresh : c.bases.length ≤ family) : c.dealings family = [] := by
  have none_there : c.log.filter (fun entry => entry.1 = family) = [] := by
    apply List.filter_eq_nil_iff.mpr
    intro entry member
    have := told.logged entry member
    simp
    omega
  rw [Chronicle.dealings, none_there, List.map_nil]

/-- A new router founds a family, in which nothing was done yet. -/
theorem Told.found {c : Chronicle} {s : Store} (told : Told c s) (base : String) :
    Told { c with bases := c.bases ++ [base], families := c.families ++ [c.bases.length] }
      (s.add ⟨[base]⟩) := by
  have old {family : Nat} {other : String} (found : (c.bases ++ [base])[family]? = some other) :
      c.bases[family]? = some other ∨ family = c.bases.length ∧ other = base := by
    rcases Nat.lt_or_ge family c.bases.length with inside | outside
    · rw [List.getElem?_append_left inside] at found
      exact .inl found
    · rw [List.getElem?_append_right outside, List.getElem?_singleton] at found
      split at found
      · exact .inr ⟨by omega, (Option.some.inj found).symm⟩
      · contradiction
  constructor
  · simp [add, told.families, told.histories]
  · simp [add, told.histories]
  · intro family member
    simp only [List.length_append, List.length_singleton]
    rcases List.mem_append.mp member with earlier | added
    · have := told.members family earlier
      omega
    · have := List.mem_singleton.mp added
      omega
  · intro entry member
    have := told.logged entry member
    simp only [List.length_append, List.length_singleton]
    omega
  · intro family other found
    rcases old found with present | ⟨rfl, rfl⟩
    · exact told.answers family other present
    · have nothing := told.dealings_eq_nil (Nat.le_refl c.bases.length)
      simp only [Chronicle.moves, Chronicle.answers, Chronicle.dealings] at nothing ⊢
      rw [nothing]
      rfl
  · intro family other found
    rcases old found with present | ⟨rfl, rfl⟩
    · have inside : family < s.histories.length := by
        rw [told.histories]
        exact (List.getElem?_eq_some_iff.mp present).1
      rw [add, List.getElem?_append_left inside]
      exact told.stacked family other present
    · have nothing := told.dealings_eq_nil (Nat.le_refl c.bases.length)
      simp only [Chronicle.stack, Chronicle.moves, Chronicle.dealings] at nothing ⊢
      rw [nothing, add, ← told.histories, List.getElem?_concat_length]
      rfl

theorem Told.clone {c : Chronicle} {s : Store} (told : Told c s) (handle : Nat) :
    Told { c with families := c.families ++ c.families[handle]?.toList } (s.clone handle) := by
  refine ⟨?_, told.histories, ?_, told.logged, told.answers, told.stacked⟩
  · rw [Store.clone, told.families]
  · intro family member
    rcases List.mem_append.mp member with earlier | added
    · exact told.members family earlier
    · exact told.members family (List.mem_of_getElem? (Option.mem_toList.mp added))

/-- A move through a handle moves the stack of the handle's family, and no other. -/
theorem Told.move {c : Chronicle} {s : Store} (told : Told c s) {handle family : Nat} {base : String}
    (found : c.families[handle]? = some family) (founded : c.bases[family]? = some base) (move : Move) :
    Told (c.note handle move ((c.stack family base).perform move).result)
      (s.put handle ((c.stack family base).perform move).state.history) := by
  generalize answered : ((c.stack family base).perform move).result = answer
  have bound : family < c.bases.length := told.members family (List.mem_of_getElem? found)
  have shown : s.origins[handle]? = some family := by rw [told.families, found]
  have own : (c.note handle move answer).dealings family = c.dealings family ++ [(move, answer)] := by
    rw [Chronicle.dealings_note found, if_pos rfl]
  have foreign {other : Nat} (apart : family ≠ other) :
      (c.note handle move answer).dealings other = c.dealings other := by
    rw [Chronicle.dealings_note found, if_neg apart, List.append_nil]
  have driven := Stack.run_concat (Stack.start base) (c.moves family) move
  constructor
  · rw [origins_put]
    exact told.families
  · simp only [put, shown, List.length_set]
    exact told.histories
  · exact told.members
  · intro entry member
    simp only [Chronicle.note, found] at member
    rcases List.mem_append.mp member with earlier | added
    · exact told.logged entry earlier
    · simp only [Option.map_some, Option.toList_some, List.mem_singleton] at added
      rw [added]
      exact bound
  -- The family's own run goes on by one move; of the other families the log keeps what it had.
  · intro other otherBase present
    by_cases same : family = other
    · subst same
      obtain rfl := Option.some.inj (founded.symm.trans present)
      have before := told.answers family base founded
      simp only [Chronicle.moves, Chronicle.answers] at driven before ⊢
      rw [own, List.map_append, List.map_append, List.map_singleton, List.map_singleton, driven.1,
        before, ← answered]
      rfl
    · simp only [Chronicle.moves, Chronicle.answers, foreign same]
      exact told.answers other otherBase present
  · intro other otherBase present
    simp only [put, shown]
    by_cases same : family = other
    · subst same
      obtain rfl := Option.some.inj (founded.symm.trans present)
      rw [List.getElem?_set_self (told.histories ▸ bound)]
      simp only [Chronicle.stack, Chronicle.moves] at driven ⊢
      rw [own, List.map_append, List.map_singleton, driven.2]
    · rw [List.getElem?_set_ne same]
      simp only [Chronicle.stack, Chronicle.moves, foreign same]
      exact told.stacked other otherBase present

theorem Told.perform {c : Chronicle} {s : Store} (told : Told c s) (command : Command) :
    Told (c.record (command, (s.perform command).result)) (s.perform command).state := by
  cases command with
  | create base =>
    simp only [Store.perform]
    cases created : s.create base with
    | error fault => exact told
    | ok t =>
      obtain ⟨fresh, started, rfl⟩ := create_eq_ok_iff.mp created
      obtain ⟨_, rfl⟩ := History.start_eq_ok_iff.mp started
      exact told.found base
  | clone handle =>
    have cloned := told.clone handle
    simp only [Store.perform]
    cases shown : s.history? handle with
    | some h => exact cloned
    | none =>
      rcases told.history? handle with ⟨missing, _⟩ | ⟨family, base, _, _, present⟩
      · -- A number that is no handle has no family, so nothing is recorded either.
        simpa [Chronicle.record, missing] using told
      · rw [shown] at present
        contradiction
  | navigate handle goal =>
    simp only [Store.perform]
    rcases told.history? handle with ⟨missing, shown⟩ | ⟨family, base, found, founded, shown⟩
    · simpa [shown, Chronicle.record, Chronicle.note, missing] using told
    · obtain ⟨answered, moved⟩ := Stack.navigate_history (c.stack family base) goal
      have next := told.move found founded (.navigate goal)
      rw [answered, moved] at next
      simpa only [shown, Chronicle.record] using next
  | back handle =>
    simp only [Store.perform]
    rcases told.history? handle with ⟨missing, shown⟩ | ⟨family, base, found, founded, shown⟩
    · simpa [shown, Chronicle.record, Chronicle.note, missing] using told
    · obtain ⟨answered, moved⟩ := Stack.back_history (c.stack family base)
      have next := told.move found founded .back
      rw [answered, moved] at next
      simpa only [shown, Chronicle.record] using next

theorem Told.run {c : Chronicle} {s : Store} (told : Told c s) (commands : List Command) :
    Told ((commands.zip (s.run commands).result).foldl Chronicle.record c) (s.run commands).state := by
  induction commands generalizing c s with
  | nil => exact told
  | cons command commands ih => exact ih (told.perform command)

theorem history?_put_of_ne {s : Store} {handle other : Nat} (h : History)
    (apart : s.origins[handle]? ≠ s.origins[other]?) :
    (s.put handle h).history? other = s.history? other := by
  unfold put Store.history?
  cases held : s.origins[handle]? with
  | none => rfl
  | some origin =>
    cases shown : s.origins[other]? with
    | none => rfl
    | some place =>
      have different : origin ≠ place := by
        rintro rfl
        exact apart (held.trans shown.symm)
      simp only [Option.bind_some, List.getElem?_set_ne different]

theorem put_self {s : Store} {handle : Nat} {h : History} (shown : s.history? handle = some h) :
    s.put handle h = s := by
  obtain ⟨origin, found, stored⟩ := history?_eq_some_iff.mp shown
  obtain ⟨bound, rfl⟩ := List.getElem?_eq_some_iff.mp stored
  simp only [put, found, List.set_getElem_self]

/-- What one handle has put, another of its family finds and replaces. -/
theorem put_put {s : Store} {handle other : Nat} (same : s.origins[handle]? = s.origins[other]?)
    (h next : History) : (s.put handle h).put other next = s.put handle next := by
  cases found : s.origins[handle]? with
  | none => simp only [put, found, ← same]
  | some origin => simp only [put, found, ← same, List.set_set]

theorem history?_put {s : Store} {handle other : Nat} {old : History}
    (shown : s.history? handle = some old) (same : s.origins[handle]? = s.origins[other]?)
    (h : History) : (s.put handle h).history? other = some h := by
  obtain ⟨origin, found, stored⟩ := history?_eq_some_iff.mp shown
  have bound := (List.getElem?_eq_some_iff.mp stored).1
  rw [found] at same
  simp only [put, found, Store.history?, ← same, Option.bind_some, List.getElem?_set_self bound]

theorem told_chronicle (commands : List Command) :
    Told (chronicle commands) (empty.run commands).state :=
  told_empty.run commands

theorem Told.shown_eq {c : Chronicle} {s : Store} (told : Told c s) {handle other : Nat}
    (same : c.families[handle]? = c.families[other]?) : s.history? handle = s.history? other := by
  rw [Store.history?, Store.history?, told.families, same]

theorem Told.shown_stack {c : Chronicle} {s : Store} (told : Told c s) {handle : Nat} {h : History}
    (shown : s.history? handle = some h) : ∃ stack : Stack, h = stack.history := by
  rcases told.history? handle with ⟨_, missing⟩ | ⟨family, base, _, _, stacked⟩
  · rw [shown] at missing
    contradiction
  · exact ⟨_, Option.some.inj (shown.symm.trans stacked)⟩

theorem Told.depth {c : Chronicle} {s : Store} (told : Told c s) {handle family : Nat} {h : History}
    (found : c.families[handle]? = some family) (shown : s.history? handle = some h) :
    h.depth + (c.answers family).countP Answer.retreated =
      1 + (c.answers family).countP Answer.advanced := by
  rcases told.history? handle with ⟨missing, _⟩ | ⟨place, base, held, founded, stacked⟩
  · rw [found] at missing
    contradiction
  · obtain rfl := Option.some.inj (found.symm.trans held)
    obtain rfl := Option.some.inj (shown.symm.trans stacked)
    have balance := Stack.run_balance (Stack.start base) (c.moves family)
    rw [told.answers family base founded] at balance
    rw [Stack.depth_history, Chronicle.stack]
    simp only [Stack.start, List.length_nil] at balance ⊢
    omega

theorem perform_navigate {s : Store} {handle : Nat} {h : History} (shown : s.history? handle = some h)
    (goal : String) :
    s.perform (.navigate handle goal) =
      ⟨.navigated (h.navigate goal).result, s.put handle (h.navigate goal).state,
        (h.navigate goal).reports⟩ := by
  simp only [perform, shown]

theorem perform_back {s : Store} {handle : Nat} {h : History} (shown : s.history? handle = some h) :
    s.perform (.back handle) = ⟨.wentBack h.back.1, s.put handle h.back.2, []⟩ := by
  simp only [perform, shown]

theorem perform_of_no_handle {s : Store} {handle : Nat} (missing : s.history? handle = none) :
    (∀ goal, s.perform (.navigate handle goal) = ⟨.unknown, s, []⟩) ∧
    s.perform (.back handle) = ⟨.unknown, s, []⟩ := by
  simp only [perform, missing, implies_true, and_self]

/-- A move in one family leaves what the handles of the others show. -/
theorem perform_of_ne {s : Store} {handle other : Nat}
    (apart : s.origins[handle]? ≠ s.origins[other]?) :
    (∀ goal, (s.perform (.navigate handle goal)).state.history? other = s.history? other) ∧
    (s.perform (.back handle)).state.history? other = s.history? other := by
  cases shown : s.history? handle with
  | none =>
    rw [(perform_of_no_handle shown).2]
    exact ⟨fun goal => by rw [(perform_of_no_handle shown).1], rfl⟩
  | some h =>
    rw [perform_back shown]
    exact ⟨fun goal => by rw [perform_navigate shown, history?_put_of_ne _ apart],
      history?_put_of_ne _ apart⟩

/-- A new router and a clone leave what the handles before them show. -/
theorem Told.kept {c : Chronicle} {s : Store} (told : Told c s) {other : Nat} (old : other < s.size) :
    (∀ base, (s.perform (.create base)).state.history? other = s.history? other) ∧
    (∀ handle, (s.perform (.clone handle)).state.history? other = s.history? other) := by
  have held : ∀ origins, (s.origins ++ origins)[other]? = s.origins[other]? :=
    fun _ => List.getElem?_append_left old
  constructor
  · intro base
    simp only [Store.perform]
    cases created : s.create base with
    | error fault => rfl
    | ok t =>
      obtain ⟨h, _, rfl⟩ := create_eq_ok_iff.mp created
      simp only [add, Store.history?, held]
      cases found : s.origins[other]? with
      | none => rfl
      | some family =>
        have bound : family < s.histories.length := by
          rw [told.histories]
          exact told.members family (told.families ▸ List.mem_of_getElem? found)
        exact List.getElem?_append_left bound
  · intro handle
    simp only [Store.perform]
    cases s.history? handle with
    | none => rfl
    | some h => simp only [Store.clone, Store.history?, held]

/-- A step back changes nothing at depth one; above it, the latest location is gone. -/
theorem Told.back_decides {c : Chronicle} {s : Store} (told : Told c s) {handle : Nat} {h : History}
    (shown : s.history? handle = some h) :
    h.depth = 1 ∧ s.perform (.back handle) = ⟨.wentBack none, s, []⟩ ∨
    1 < h.depth ∧ ∃ next, (s.perform (.back handle)).result = .wentBack (some next.location) ∧
      (s.perform (.back handle)).state.history? handle = some next ∧
      next.entries = h.entries.dropLast := by
  rw [perform_back shown]
  rcases History.back_cases h with ⟨atBase, stayed⟩ | ⟨deep, left⟩
  · rw [stayed, put_self shown]
    obtain ⟨stack, rfl⟩ := told.shown_stack shown
    rw [Stack.depth_history] at atBase ⊢
    exact .inl ⟨by omega, rfl⟩
  · rw [left]
    exact .inr ⟨deep, _, rfl, history?_put shown rfl _, rfl⟩

theorem Told.back_undoes {c : Chronicle} {s : Store} (told : Told c s) {handle other : Nat}
    {goal : String} (same : c.families[handle]? = c.families[other]?)
    (went : (s.perform (.navigate handle goal)).result = .navigated (.ok ())) :
    ((s.perform (.navigate handle goal)).state.perform (.back other)).state = s := by
  cases shown : s.history? handle with
  | none =>
    rw [(perform_of_no_handle shown).1] at went
    contradiction
  | some h =>
    obtain ⟨stack, rfl⟩ := told.shown_stack shown
    have nonempty : stack.history.entries ≠ [] := List.cons_ne_nil _ _
    have shared : s.origins[handle]? = s.origins[other]? := by rw [told.families, same]
    rw [perform_navigate shown] at went ⊢
    rcases History.navigate_cases stack.history goal with ⟨next, _, reply⟩ | ⟨fault, _, reply⟩
    · rw [reply, perform_back (history?_put shown shared _), History.back_push nonempty,
        put_put shared, put_self shown]
    · rw [reply] at went
      have refused := Answer.navigated.inj went
      contradiction

/-- Every handle shows the stack of its family, driven by the moves made through any handle of the family
and by no others. -/
theorem run_refines_stacks (commands : List Command) :
    let s := (empty.run commands).state
    let c := chronicle commands
    c.families.length = s.size ∧
    (∀ handle family, c.families[handle]? = some family → ∃ base, c.bases[family]? = some base ∧
      s.history? handle = some ⟨(c.stack family base).entries⟩ ∧
      ((Stack.start base).run (c.moves family)).result = c.answers family) ∧
    (∀ handle other, c.families[handle]? = c.families[other]? →
      s.history? handle = s.history? other) ∧
    (∀ handle other, c.families[handle]? ≠ c.families[other]? →
      (∀ goal, (s.perform (.navigate handle goal)).state.history? other = s.history? other) ∧
      (s.perform (.back handle)).state.history? other = s.history? other) ∧
    (∀ other < s.size,
      (∀ base, (s.perform (.create base)).state.history? other = s.history? other) ∧
      ∀ handle, (s.perform (.clone handle)).state.history? other = s.history? other) ∧
    (∀ handle family h, c.families[handle]? = some family → s.history? handle = some h →
      h.depth + (c.answers family).countP Answer.retreated =
        1 + (c.answers family).countP Answer.advanced) ∧
    (∀ handle h, s.history? handle = some h →
      h.depth = 1 ∧ s.perform (.back handle) = ⟨.wentBack none, s, []⟩ ∨
      1 < h.depth ∧ ∃ next, (s.perform (.back handle)).result = .wentBack (some next.location) ∧
        (s.perform (.back handle)).state.history? handle = some next ∧
        next.entries = h.entries.dropLast) ∧
    (∀ handle other goal, c.families[handle]? = c.families[other]? →
      (s.perform (.navigate handle goal)).result = .navigated (.ok ()) →
      ((s.perform (.navigate handle goal)).state.perform (.back other)).state = s) := by
  intro s c
  have told : Told c s := told_chronicle commands
  have origins : s.origins = c.families := told.families
  refine ⟨congrArg List.length origins.symm, ?_, fun _ _ => told.shown_eq, ?_, fun _ => told.kept,
    fun _ _ _ => told.depth, fun _ _ => told.back_decides, fun _ _ _ => told.back_undoes⟩
  · intro handle family found
    rcases told.history? handle with ⟨missing, _⟩ | ⟨place, base, held, founded, shown⟩
    · rw [found] at missing
      contradiction
    · obtain rfl := Option.some.inj (found.symm.trans held)
      exact ⟨base, founded, shown, told.answers family base founded⟩
  · intro handle other apart
    exact perform_of_ne (origins ▸ apart)

def twoFamilies : List Command :=
  [.create "/", .create "/setup", .clone 0, .create "setup", .navigate 2 "ledger", .navigate 1 "",
    .back 1, .navigate 0 "/importAccount", .back 2]

/-- Two routers, and a clone of the first: the clone and the first show one history, with what either
of them did, and the second has gone nowhere. -/
theorem run_refines_stacks_clone :
    let s := (empty.run twoFamilies).state
    s.history? 0 = some ⟨["/", "/ledger"]⟩ ∧ s.history? 2 = some ⟨["/", "/ledger"]⟩ ∧
    ["/", "/ledger"].length + ((chronicle twoFamilies).answers 0).countP Answer.retreated =
      1 + ((chronicle twoFamilies).answers 0).countP Answer.advanced ∧
    s.history? 1 = some ⟨["/setup"]⟩ ∧ (s.perform (.back 1)).result = .wentBack none ∧
    (s.perform (.back 2)).state.history? 2 = some ⟨["/"]⟩ ∧
    (s.perform (.back 2)).state.history? 1 = some ⟨["/setup"]⟩ ∧
    (s.perform (.create "/ledger")).state.history? 0 = some ⟨["/", "/ledger"]⟩ ∧
    ((s.perform (.navigate 2 "connect")).state.perform (.back 0)).state = s := by
  intro s
  obtain ⟨_, shown, alike, foreign, kept, depth, backs, undone⟩ := run_refines_stacks twoFamilies
  obtain ⟨_, founded, first, _⟩ := shown 0 0 rfl
  obtain ⟨_, setup, second, _⟩ := shown 1 1 rfl
  obtain rfl := Option.some.inj founded
  obtain rfl := Option.some.inj setup
  have third := (alike 0 2 rfl).symm.trans first
  refine ⟨first, third, depth 2 0 _ rfl third, second, ?_, ?_, ?_, ?_, undone 2 0 "connect" rfl rfl⟩
  · rcases backs 1 _ second with ⟨_, stayed⟩ | ⟨deep, _⟩
    · exact congrArg Reply.result stayed
    · exact absurd deep (by decide)
  · obtain ⟨shallow, _⟩ | ⟨_, next, _, held, left⟩ := backs 2 _ third
    · exact absurd shallow (by decide)
    · obtain ⟨entries⟩ := next
      obtain rfl := left
      exact held
  · rw [(foreign 2 1 (by decide)).2]
    exact second
  · rw [(kept 0 (by decide)).1]
    exact first

end Store
end Onboarding
