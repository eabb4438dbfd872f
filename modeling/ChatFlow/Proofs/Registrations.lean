import ChatFlow.Processor.Registry
import ChatFlow.Proofs.ByteOrder
import Mathlib.Data.List.Nodup

/-!
# What a registry holds

No kind is registered twice, so a registry is known by the processor of each kind: the order in
which its entries are listed, and in which they are registered again, does not matter.  Its size and
its one-line text tell of the registered kinds and of nothing else.
-/

set_option autoImplicit false

namespace ChatFlow.Registry

variable {World : Type}

theorem get?_eq_some (registry : Registry World) (kind : NodeKind) (processor : Processor World) :
    registry.get? kind = some processor ↔ (kind, processor) ∈ registry.entries := by
  rw [get?, Option.map_eq_some_iff]
  constructor
  · rintro ⟨entry, found, rfl⟩
    have here : entry.1 = kind := by simpa using List.find?_some found
    rw [← here]
    exact List.mem_of_find?_eq_some found
  · intro member
    cases found : registry.entries.find? (fun entry => entry.1 = kind) with
    | none => simpa using List.find?_eq_none.mp found _ member
    | some entry =>
        have here : entry.1 = kind := by simpa using List.find?_some found
        have same : entry = (kind, processor) := List.inj_on_of_nodup_map registry.distinct
          (List.mem_of_find?_eq_some found) member here
        exact ⟨entry, rfl, congrArg Prod.snd same⟩

/-! ## Registering again -/

theorem entries_insert_of_absent (registry : Registry World) {kind : NodeKind}
    (absent : kind ∉ registry.entries.map Prod.fst) (processor : Processor World) :
    (registry.insert kind processor).entries = registry.entries ++ [(kind, processor)] := by
  have others : registry.entries.filter (fun entry => entry.1 ≠ kind) = registry.entries := by
    refine List.filter_eq_self.mpr fun entry member => decide_eq_true ?_
    intro same
    exact absent (same ▸ List.mem_map_of_mem member)
  exact congrArg (· ++ [(kind, processor)]) others

theorem entries_ofList {entries : List (NodeKind × Processor World)}
    (distinct : (entries.map Prod.fst).Nodup) : (ofList entries).entries = entries := by
  suffices after : ∀ registry : Registry World,
      (registry.entries.map Prod.fst ++ entries.map Prod.fst).Nodup →
      (entries.foldl (fun registry entry => registry.insert entry.1 entry.2) registry).entries =
        registry.entries ++ entries from after empty distinct
  induction entries with
  | nil => simp
  | cons entry rest ih =>
      intro registry fresh
      rw [List.map_cons, List.nodup_append] at fresh
      obtain ⟨_, later, apart⟩ := fresh
      have absent : entry.1 ∉ registry.entries.map Prod.fst := by
        intro present
        exact apart _ present _ List.mem_cons_self rfl
      have added := registry.entries_insert_of_absent absent entry.2
      rw [List.foldl_cons, ih (List.nodup_cons.mp later).2, added, List.append_assoc,
        List.singleton_append]
      rw [added, List.map_append, List.append_assoc]
      exact List.nodup_append.mpr ⟨registry.distinct, later, apart⟩

theorem ofList_toList (registry : Registry World) : ofList registry.toList = registry :=
  Registry.ext (entries_ofList registry.distinct)

/-- Whatever the order in which entries are taken out of a registry and registered again, every
kind has the processor that it had. -/
theorem get?_ofList_of_perm (registry : Registry World)
    {entries : List (NodeKind × Processor World)} (same : entries.Perm registry.toList) :
    (ofList entries).get? = registry.get? := by
  have distinct : (entries.map Prod.fst).Nodup :=
    (same.map Prod.fst).nodup_iff.mpr registry.distinct
  funext kind
  apply Option.ext
  intro processor
  rw [get?_eq_some, get?_eq_some, entries_ofList distinct]
  exact same.mem_iff

/-! ## Kinds -/

theorem contains_iff (registry : Registry World) (kind : NodeKind) :
    registry.contains kind = true ↔ kind ∈ registry.entries.map Prod.fst := by
  rw [contains, Option.isSome_iff_exists, List.mem_map]
  constructor
  · rintro ⟨processor, found⟩
    exact ⟨_, (registry.get?_eq_some kind processor).mp found, rfl⟩
  · rintro ⟨entry, member, rfl⟩
    exact ⟨entry.2, (registry.get?_eq_some _ _).mpr member⟩

theorem mem_kinds (registry : Registry World) (kind : NodeKind) :
    kind ∈ registry.kinds ↔ registry.get? kind ≠ none := by
  rw [kinds, List.mem_filter, contains, Option.isSome_iff_ne_none]
  exact and_iff_right (NodeKind.mem_all kind)

theorem perm_kinds (registry : Registry World) :
    (registry.entries.map Prod.fst).Perm registry.kinds := by
  have once : registry.kinds.Nodup := by
    have all : NodeKind.all.Nodup := by decide
    exact all.filter _
  refine (List.perm_ext_iff_of_nodup registry.distinct once).mpr fun kind => ?_
  rw [mem_kinds, ← contains_iff, contains, Option.isSome_iff_ne_none]

theorem size_eq (registry : Registry World) : registry.size = registry.kinds.length := by
  rw [size, ← List.length_map Prod.fst]
  exact registry.perm_kinds.length_eq

theorem isEmpty_iff (registry : Registry World) :
    registry.isEmpty = true ↔ registry.kinds = [] := by
  rw [← List.length_eq_zero_iff, ← size_eq, size, List.length_eq_zero_iff]
  exact List.isEmpty_iff

/-- A registration adds one to the size, unless it takes the place of another. -/
theorem size_insert (registry : Registry World) (kind : NodeKind) (processor : Processor World) :
    (registry.insert kind processor).size =
      if registry.contains kind then registry.size else registry.size + 1 := by
  by_cases present : kind ∈ registry.entries.map Prod.fst
  · have others : (registry.entries.filter fun entry => entry.1 ≠ kind).length + 1 =
        registry.entries.length := by
      have erased := List.length_erase_add_one present
      rw [registry.distinct.erase_eq_filter, List.filter_map, List.length_map,
        List.length_map] at erased
      rw [← erased]
      congr 2
      refine List.filter_congr fun entry _ => ?_
      simp [bne, Bool.beq_eq_decide_eq]
    rw [if_pos ((registry.contains_iff kind).mpr present), size, insert, List.length_append]
    exact others
  · rw [if_neg (mt (registry.contains_iff kind).mp present), size,
      registry.entries_insert_of_absent present, List.length_append]
    rfl

/-! ## The text -/

/-- The text tells how many kinds have a processor, and which. -/
theorem text_of_same_kinds {registry other : Registry World} (same : registry.kinds = other.kinds) :
    registry.text = other.text := by
  have kinds := registry.perm_kinds
  rw [same] at kinds
  have tags := (kinds.trans other.perm_kinds.symm).map NodeKind.tag
  rw [List.map_map, List.map_map] at tags
  have sorted := Text.mergeSort_of_perm tags
  simp only [Function.comp_def] at sorted
  unfold text
  rw [size_eq, size_eq, same, sorted]

end ChatFlow.Registry
