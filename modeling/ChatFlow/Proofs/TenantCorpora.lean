import ChatFlow.Processor.ContextLookup

/-!
# The corpora of users and their projects

A retrieval node that names a user and a project searches the corpus `user/project`.  Ids may hold
the slash themselves, so the name of a corpus does not tell where the user ends: two pairs of ids
share a corpus exactly if they are the same or one user id runs on, past a slash, into the project
id of the other pair.  Without slashes in the user ids, or in the project ids, every pair has its
own corpus.
-/

set_option autoImplicit false

namespace ChatFlow

/-- The node names a user and a project of this user. -/
structure Node.BelongsTo (node : Node) (user project : String) : Prop where
  user : node.optionText? "userId" = some user
  project : node.optionText? "projectId" = some project

namespace ContextLookup

/-- The second user id runs on into the first project id: `user/part` and `part/project'`. -/
def RunsInto (user project user' project' : String) : Prop :=
  ∃ part, user' = user ++ "/" ++ part ∧ project = part ++ "/" ++ project'

/-! ## Names with a separator -/

theorem separated_eq {α : Type} {separator : α} {before after before' after' : List α}
    (same : before ++ separator :: after = before' ++ separator :: after') :
    before = before' ∧ after = after' ∨
      ∃ part, before' = before ++ separator :: part ∧ after = part ++ separator :: after' ∨
        before = before' ++ separator :: part ∧ after' = part ++ separator :: after := by
  -- what is between the two ends of the starts is nothing, or it begins with the separator
  rcases List.append_eq_append_iff.mp same with ⟨between, rfl, rest⟩ | ⟨between, rfl, rest⟩
  · cases between with
    | nil => exact .inl ⟨(List.append_nil before).symm, (List.cons.inj rest).2⟩
    | cons first part =>
        obtain ⟨rfl, rfl⟩ := List.cons.inj rest
        exact .inr ⟨part, .inl ⟨rfl, rfl⟩⟩
  · cases between with
    | nil => exact .inl ⟨List.append_nil before', (List.cons.inj rest).2.symm⟩
    | cons first part =>
        obtain ⟨rfl, rfl⟩ := List.cons.inj rest
        exact .inr ⟨part, .inr ⟨rfl, rfl⟩⟩

theorem toList_corpus (user project : String) :
    (user ++ "/" ++ project).toList = user.toList ++ '/' :: project.toList := by
  simp

theorem corpus_eq_iff (user project user' project' : String) :
    user ++ "/" ++ project = user' ++ "/" ++ project' ↔
      user = user' ∧ project = project' ∨ RunsInto user project user' project' ∨
        RunsInto user' project' user project := by
  constructor
  · intro same
    have lists := congrArg String.toList same
    rw [toList_corpus, toList_corpus] at lists
    have text : ∀ {id : String} {before part : List Char}, id.toList = before ++ '/' :: part →
        id = String.ofList before ++ "/" ++ String.ofList part := by
      intro id before part spelled
      rw [← String.toList_inj, toList_corpus]
      simpa using spelled
    rcases separated_eq lists with ⟨users, projects⟩ | ⟨part, ⟨longer, rest⟩ | ⟨longer, rest⟩⟩
    · exact .inl ⟨String.toList_inj.mp users, String.toList_inj.mp projects⟩
    · exact .inr (.inl ⟨.ofList part, by simpa using text longer, by simpa using text rest⟩)
    · exact .inr (.inr ⟨.ofList part, by simpa using text longer, by simpa using text rest⟩)
  · rintro (⟨rfl, rfl⟩ | ⟨part, rfl, rfl⟩ | ⟨part, rfl, rfl⟩)
    · rfl
    · simp only [String.append_assoc]
    · simp only [String.append_assoc]

/-- If a user id runs into a project id, both hold a slash. -/
theorem RunsInto.slashes {user project user' project' : String}
    (runs : RunsInto user project user' project') : '/' ∈ user'.toList ∧ '/' ∈ project.toList := by
  obtain ⟨part, rfl, rfl⟩ := runs
  rw [toList_corpus, toList_corpus]
  exact ⟨by simp, by simp⟩

/-! ## The corpus of a node -/

theorem corpus_of_query {retrieval : Settings.Retrieval} {state : State} {node : Node}
    {asked : RetrievalQuery} (prepared : query retrieval state node = .ok asked) :
    asked.corpus = corpus node := by
  rw [query] at prepared
  cases counted : count retrieval node with
  | error error =>
      rw [counted] at prepared
      cases prepared
  | ok count =>
      rw [counted] at prepared
      cases prepared
      rfl

theorem corpus_of_belongsTo {node : Node} {user project : String}
    (belongs : node.BelongsTo user project) : corpus node = user ++ "/" ++ project := by
  rw [corpus, belongs.user, belongs.project]

/-- Without a user the corpus has the name of the project, or it is the shared one, whose name has
no slash. -/
theorem corpus_without_user {node : Node} (nobody : node.optionText? "userId" = none)
    (user project : String) :
    corpus node = user ++ "/" ++ project ↔
      node.optionText? "projectId" = some (user ++ "/" ++ project) := by
  cases named : node.optionText? "projectId" with
  | some name => rw [corpus, nobody, named, Option.some.injEq]
  | none =>
      rw [corpus, nobody, named]
      refine iff_of_false (fun same => ?_) (Option.some_ne_none _ ∘ Eq.symm)
      have spelled := congrArg String.toList same
      rw [toList_corpus] at spelled
      have slash : '/' ∈ sharedCorpus.toList := by
        rw [spelled]
        simp
      exact absurd slash (by decide)

/-- Two nodes that each name a user and a project search the same corpus exactly if they name the
same ones, or one user id runs on into the other project id, which takes a slash in both.  A node
that names no user searches such a corpus exactly if it names the whole of it as its project. -/
theorem corpus_shared_iff {mine theirs : Node} {user project user' project' : String}
    (belongs : mine.BelongsTo user project) (belongs' : theirs.BelongsTo user' project')
    {retrieval retrieval' : Settings.Retrieval} {state state' : State}
    {asked asked' : RetrievalQuery} (prepared : query retrieval state mine = .ok asked)
    (prepared' : query retrieval' state' theirs = .ok asked') :
    (asked.corpus = asked'.corpus ↔
      user = user' ∧ project = project' ∨ RunsInto user project user' project' ∨
        RunsInto user' project' user project) ∧
    (asked.corpus = asked'.corpus →
      '/' ∉ user.toList ∧ '/' ∉ user'.toList ∨ '/' ∉ project.toList ∧ '/' ∉ project'.toList →
      user = user' ∧ project = project') ∧
    ∀ (stranger : Node) (retrieval : Settings.Retrieval) (state : State) (other : RetrievalQuery),
      stranger.optionText? "userId" = none → query retrieval state stranger = .ok other →
      (other.corpus = asked.corpus ↔
        stranger.optionText? "projectId" = some (user ++ "/" ++ project)) := by
  have name : asked.corpus = user ++ "/" ++ project :=
    (corpus_of_query prepared).trans (corpus_of_belongsTo belongs)
  have name' : asked'.corpus = user' ++ "/" ++ project' :=
    (corpus_of_query prepared').trans (corpus_of_belongsTo belongs')
  rw [name, name']
  refine ⟨corpus_eq_iff user project user' project', fun same unslashed => ?_,
    fun stranger _ _ other nobody preparedToo => ?_⟩
  · rcases (corpus_eq_iff user project user' project').mp same with equal | runs | runs
    · exact equal
    · obtain ⟨inUser, inProject⟩ := runs.slashes
      rcases unslashed with ⟨_, without⟩ | ⟨without, _⟩
      · exact absurd inUser without
      · exact absurd inProject without
    · obtain ⟨inUser, inProject⟩ := runs.slashes
      rcases unslashed with ⟨without, _⟩ | ⟨_, without⟩
      · exact absurd inUser without
      · exact absurd inProject without
  · rw [corpus_of_query preparedToo]
    exact corpus_without_user nobody user project

/-- A retrieval node that searches the documents of a project. -/
def projectNode (user project : String) : Node :=
  ⟨"docs", .retrieval, [("userId", .string user), ("projectId", .string project)], [], []⟩

theorem ann_and_bob_search_apart :
    (projectNode "ann" "notes/old").BelongsTo "ann" "notes/old" ∧
      (projectNode "bob" "notes/old").BelongsTo "bob" "notes/old" ∧
      ∃ asked asked', query {} (State.start "hi" []) (projectNode "ann" "notes/old") = .ok asked ∧
        query {} (State.start "hi" []) (projectNode "bob" "notes/old") = .ok asked' ∧
        asked.corpus ≠ asked'.corpus := by
  have ann : (projectNode "ann" "notes/old").BelongsTo "ann" "notes/old" := ⟨rfl, rfl⟩
  have bob : (projectNode "bob" "notes/old").BelongsTo "bob" "notes/old" := ⟨rfl, rfl⟩
  obtain ⟨asked, prepared⟩ : ∃ asked,
      query {} (State.start "hi" []) (projectNode "ann" "notes/old") = .ok asked := ⟨_, rfl⟩
  obtain ⟨asked', prepared'⟩ : ∃ asked',
      query {} (State.start "hi" []) (projectNode "bob" "notes/old") = .ok asked' := ⟨_, rfl⟩
  refine ⟨ann, bob, asked, asked', prepared, prepared', fun same => ?_⟩
  obtain ⟨_, apart, _⟩ := corpus_shared_iff ann bob prepared prepared'
  exact absurd (apart same (.inl (by decide))).1 (by decide)

/-- Two users whose projects are one corpus, and a node without a user that searches it too. -/
theorem slash_in_ids_shares_corpus :
    (projectNode "a" "b/c").BelongsTo "a" "b/c" ∧ (projectNode "a/b" "c").BelongsTo "a/b" "c" ∧
      ("a", "b/c") ≠ ("a/b", "c") ∧ (projectNode "" "a/b/c").optionText? "userId" = none ∧
      ∃ asked asked' other, query {} (State.start "hi" []) (projectNode "a" "b/c") = .ok asked ∧
        query {} (State.start "hi" []) (projectNode "a/b" "c") = .ok asked' ∧
        query {} (State.start "hi" []) (projectNode "" "a/b/c") = .ok other ∧
        asked.corpus = asked'.corpus ∧ other.corpus = asked.corpus :=
  ⟨⟨rfl, rfl⟩, ⟨rfl, rfl⟩, by decide, rfl, _, _, _, rfl, rfl, rfl, by decide, by decide⟩

end ContextLookup

end ChatFlow
