import ChatFlow.Proofs.WalkRuns

/-!
# The visits of an execution

The visits that an execution makes, one after the other.  They are the visits with which its walk
ends, and no other visits are.  A visit that succeeds is followed by one of the node it leads to,
or it is the last one, and then the outcome says why.
-/

set_option autoImplicit false

namespace ChatFlow.Walk

variable {World : Type}

/-- The visit that is next, if the route leads to a node for which there is a processor. -/
def nextVisit? (plan : Plan) (registry : Registry World) (point : Point World) :
    Option (Visit World) :=
  match point.route with
  | .finish => none
  | .node id =>
    match plan.node? id with
    | none => none
    | some node =>
      (registry.get? node.kind).map fun processor =>
        ⟨id, node, processor.process node (point.state.record node.kind.tag) point.world⟩

/-- The visits from some point on, at most `left` of them. -/
def visitsFrom (plan : Plan) (registry : Registry World) :
    (left : Nat) → Point World → List (Visit World)
  | 0, _ => []
  | left + 1, point =>
    match nextVisit? plan registry point with
    | none => []
    | some visit =>
      match visit.processed.failure with
      | some _ => [visit]
      | none => visit :: visitsFrom plan registry left (visit.after plan)

section

variable {plan : Plan} {registry : Registry World} {start last : Point World}
  {visits : List (Visit World)}

theorem nextVisit?_eq_some (point : Point World) (visit : Visit World) :
    nextVisit? plan registry point = some visit ↔ visit.At plan registry point := by
  constructor
  · intro found
    rw [nextVisit?] at found
    cases route : point.route with
    | finish => simp [route] at found
    | node id =>
        cases known : plan.node? id with
        | none => simp [route, known] at found
        | some node =>
            simp only [route, known, Option.map_eq_some_iff] at found
            obtain ⟨processor, registered, rfl⟩ := found
            exact ⟨route, known, processor, registered, rfl⟩
  · intro here
    obtain ⟨processor, registered, same⟩ := here.work
    simp only [nextVisit?, here.route, here.node, registered, Option.map_some]
    rw [Visit.tag] at same
    rw [← same]

theorem visitsFrom_passes (passes : Passes plan registry start visits last) (left : Nat) :
    visitsFrom plan registry (visits.length + left) start =
      visits ++ visitsFrom plan registry left last := by
  induction passes with
  | done point => simp
  | @step point last visit rest here success _ ih =>
      have next := (nextVisit?_eq_some point visit).mpr here
      have count : (visit :: rest).length + left = rest.length + left + 1 := by
        rw [List.length_cons]
        omega
      rw [count, visitsFrom]
      simp only [next, success, ih, List.cons_append]

theorem visitsFrom_failing {visit : Visit World} {error : NodeError}
    (here : visit.At plan registry last) (failed : visit.processed.failure = some error)
    (left : Nat) : visitsFrom plan registry (left + 1) last = [visit] := by
  have next := (nextVisit?_eq_some last visit).mpr here
  rw [visitsFrom]
  simp only [next, failed]

theorem visitsFrom_eq_nil (stuck : nextVisit? plan registry last = none) (left : Nat) :
    visitsFrom plan registry left last = [] := by
  cases left with
  | zero => rfl
  | succ left => simp only [visitsFrom, stuck]

/-- A walk has no other visits to end with. -/
theorem visitsFrom_of_ends {budget : Nat} {outcome : Except WalkError State}
    (ends : Ends plan registry budget start visits outcome) :
    visitsFrom plan registry budget start = visits := by
  have stops : ∀ {last : Point World} (_ : Passes plan registry start visits last)
      (_ : visits.length ≤ budget) (_ : nextVisit? plan registry last = none),
      visitsFrom plan registry budget start = visits := by
    intro last passes within stuck
    obtain ⟨left, rfl⟩ := Nat.exists_eq_add_of_le within
    rw [visitsFrom_passes passes, visitsFrom_eq_nil stuck, List.append_nil]
  cases ends with
  | answered completes within =>
      cases completes with
      | finished passes ended => exact stops passes within (by simp only [nextVisit?, ended])
      | @recovered made last visit error passes here failed =>
          rw [List.length_append, List.length_singleton] at within
          obtain ⟨left, rfl⟩ := Nat.exists_eq_add_of_le within
          have count : made.length + 1 + left = made.length + (left + 1) := by omega
          rw [count, visitsFrom_passes passes, visitsFrom_failing here failed]
  | exhausted passes spent route known =>
      subst spent
      simpa [visitsFrom] using visitsFrom_passes passes 0
  | astray passes within route unknown =>
      exact stops passes within (by simp only [nextVisit?, route, unknown])
  | unmanned passes within route known missing =>
      exact stops passes (Nat.le_of_lt within)
        (by simp only [nextVisit?, route, known, missing, Option.map_none])

/-! ## What comes after a visit -/

/-- What comes after a visit that succeeds: the visit of the node that it leads to, or an outcome
that names this node, or the answer if it leads nowhere. -/
def Follows (plan : Plan) (registry : Registry World) (visit : Visit World)
    (outcome : Except WalkError State) : (after : List (Visit World)) → Prop
  | next :: _ => next.At plan registry (visit.after plan)
  | [] =>
    match (visit.after plan).route with
    | .finish => outcome = .ok visit.processed.state
    | .node id => ∃ error, outcome = .error error ∧ error.node = id

theorem Ends.all_pass_or_last_fails {budget : Nat} {outcome : Except WalkError State}
    (ends : Ends plan registry budget start visits outcome) :
    (∃ last, Passes plan registry start visits last ∧
      ((last.route = .finish ∧ outcome = .ok last.state) ∨
        ∃ id error, last.route = .node id ∧ outcome = .error error ∧ error.node = id)) ∨
    ∃ made visit last error, visits = made ++ [visit] ∧ Passes plan registry start made last ∧
      visit.At plan registry last ∧ visit.processed.failure = some error ∧
      outcome =
        .ok { visit.processed.state with response := failureText visit.id visit.node error } := by
  cases ends with
  | answered completes _ =>
      cases completes with
      | finished passes ended => exact .inl ⟨_, passes, .inl ⟨ended, rfl⟩⟩
      | recovered passes here failed => exact .inr ⟨_, _, _, _, rfl, passes, here, failed, rfl⟩
  | exhausted passes _ route _ => exact .inl ⟨_, passes, .inr ⟨_, _, route, rfl, rfl⟩⟩
  | astray passes _ route _ => exact .inl ⟨_, passes, .inr ⟨_, _, route, rfl, rfl⟩⟩
  | unmanned passes _ route _ _ => exact .inl ⟨_, passes, .inr ⟨_, _, route, rfl, rfl⟩⟩

theorem Passes.unique {other : Point World} (first : Passes plan registry start visits last)
    (second : Passes plan registry start visits other) : last = other := by
  induction first with
  | done point =>
      cases second
      rfl
  | step _ _ _ ih =>
      cases second with
      | step _ _ later => exact ih later

/-- A visit within a stretch of a walk, and what comes after it there. -/
theorem Passes.at_visit {before after : List (Visit World)} {visit : Visit World}
    (passes : Passes plan registry start (before ++ visit :: after) last) :
    ∃ point, Passes plan registry start before point ∧ visit.At plan registry point ∧
      visit.processed.failure = none ∧ Passes plan registry (visit.after plan) after last := by
  obtain ⟨point, first, onward⟩ := passes.split
  cases onward with
  | step here success later => exact ⟨point, first, here, success, later⟩

theorem Passes.succeeded (passes : Passes plan registry start visits last) :
    ∀ visit ∈ visits, visit.processed.failure = none := by
  intro visit member
  obtain ⟨before, after, rfl⟩ := List.append_of_mem member
  obtain ⟨_, _, _, success, _⟩ := passes.at_visit
  exact success

/-- Every visit of an execution is made where the visits before it have led.  If it fails, it is
the last one and answers the request; otherwise something follows it. -/
theorem Ends.at_visit {budget : Nat} {outcome : Except WalkError State}
    {before after : List (Visit World)} {visit : Visit World}
    (ends : Ends plan registry budget start (before ++ visit :: after) outcome) :
    ∃ point, Passes plan registry start before point ∧ visit.At plan registry point ∧
      ((∃ error, visit.processed.failure = some error ∧ after = [] ∧ outcome =
          .ok { visit.processed.state with response := failureText visit.id visit.node error }) ∨
        (visit.processed.failure = none ∧ Follows plan registry visit outcome after)) := by
  rcases ends.all_pass_or_last_fails with
    ⟨last, passes, why⟩ | ⟨made, failing, last, error, same, passes, there, failed, answer⟩
  · obtain ⟨point, first, here, success, later⟩ := passes.at_visit
    refine ⟨point, first, here, .inr ⟨success, ?_⟩⟩
    cases later with
    | step next _ _ => exact next
    | done =>
        rcases why with ⟨ended, rfl⟩ | ⟨id, error, route, rfl, same⟩
        · simp only [Follows, ended]
          rfl
        · simp only [Follows, route]
          exact ⟨error, rfl, same⟩
  · -- the failing visit is this one, or it is the last of those after it
    rcases List.eq_nil_or_concat after with rfl | ⟨rest, final, rfl⟩
    · obtain ⟨rfl, rfl⟩ := List.append_singleton_inj.mp same
      exact ⟨last, passes, there, .inl ⟨error, failed, rfl, answer⟩⟩
    · have parts : (before ++ visit :: rest) ++ [final] = made ++ [failing] := by
        simpa using same
      obtain ⟨rfl, rfl⟩ := List.append_singleton_inj.mp parts
      obtain ⟨point, first, here, success, later⟩ := passes.at_visit
      refine ⟨point, first, here, .inr ⟨success, ?_⟩⟩
      cases later with
      | step next _ _ => exact next
      | done => exact there

end

end ChatFlow.Walk

namespace ChatFlow.Executor

open Walk

variable {World : Type}

/-- The visits that an execution makes, in order. -/
def visits (executor : Executor World) (plan : Plan) (state : State) (world : World) :
    List (Visit World) :=
  visitsFrom plan executor.registry (executor.budget plan.size) (start plan state world)

theorem ends_visits (executor : Executor World) (plan : Plan) (state : State) (world : World) :
    Ends plan executor.registry (executor.budget plan.size) (start plan state world)
      (executor.visits plan state world) (executor.execute plan state world).outcome := by
  obtain ⟨made, ends⟩ := (executor.execute_iff_ends plan state world _).mp rfl
  have same : executor.visits plan state world = made := visitsFrom_of_ends ends
  rw [same]
  exact ends

end ChatFlow.Executor
