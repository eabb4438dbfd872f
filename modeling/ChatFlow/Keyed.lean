/-!
# Values under names

An association list from names to values.  `put` keeps the position of a name it replaces, so a
list keeps the order in which names were first put; `inByteOrder` is the order for listings.
-/

set_option autoImplicit false

namespace ChatFlow

/-- Entries with a name each; the first entry of a name is the one that counts. -/
abbrev Keyed (α : Type) := List (String × α)

namespace Keyed

variable {α : Type}

def get? (entries : Keyed α) (name : String) : Option α :=
  match entries with
  | [] => none
  | (key, value) :: rest => if key = name then some value else get? rest name

def has (entries : Keyed α) (name : String) : Bool := (get? entries name).isSome

/-- Replaces the value under a name, or adds the name at the end. -/
def put (entries : Keyed α) (name : String) (value : α) : Keyed α :=
  match entries with
  | [] => [(name, value)]
  | (key, old) :: rest =>
    if key = name then (key, value) :: rest else (key, old) :: put rest name value

def erase (entries : Keyed α) (name : String) : Keyed α :=
  entries.filter (fun entry => entry.1 ≠ name)

def names (entries : Keyed α) : List String := entries.map (·.1)

/-- The entries sorted by name; names compare by code point, which is also the order of their
UTF-8 bytes. -/
def inByteOrder (entries : Keyed α) : Keyed α :=
  entries.mergeSort (fun a b => decide (a.1 ≤ b.1))

/-- Puts entries one after the other, so the last value of a repeated name wins, and sorts. -/
def collect (entries : List (String × α)) : Keyed α :=
  inByteOrder (entries.foldl (fun kept entry => put kept entry.1 entry.2) [])

@[simp] theorem get?_nil (name : String) : get? ([] : Keyed α) name = none := rfl

theorem get?_put_self (entries : Keyed α) (name : String) (value : α) :
    get? (put entries name value) name = some value := by
  induction entries with
  | nil => simp [put, get?]
  | cons head rest ih =>
    obtain ⟨key, old⟩ := head
    by_cases same : key = name <;> simp [put, get?, same, ih]

theorem get?_put_other (entries : Keyed α) {name other : String} (value : α)
    (different : other ≠ name) : get? (put entries name value) other = get? entries other := by
  induction entries with
  | nil => simp [put, get?, Ne.symm different]
  | cons head rest ih =>
    obtain ⟨key, old⟩ := head
    by_cases same : key = name
    · subst same
      simp [put, get?, Ne.symm different]
    · simp only [put, if_neg same, get?, ih]

theorem put_of_get? (entries : Keyed α) {name : String} {value : α}
    (found : get? entries name = some value) : put entries name value = entries := by
  induction entries with
  | nil => cases found
  | cons head rest ih =>
    obtain ⟨key, old⟩ := head
    by_cases same : key = name
    · simp only [get?, if_pos same, Option.some.injEq] at found
      rw [put, if_pos same, found]
    · simp only [get?, if_neg same] at found
      rw [put, if_neg same, ih found]

theorem names_put (entries : Keyed α) (name : String) (value : α) :
    names (put entries name value) =
      if name ∈ names entries then names entries else names entries ++ [name] := by
  induction entries with
  | nil => simp [put, names]
  | cons head rest ih =>
    obtain ⟨key, old⟩ := head
    by_cases same : key = name
    · simp [put, names, same]
    · have later : name ∈ names ((key, old) :: rest) ↔ name ∈ names rest := by
        simp [names, Ne.symm same]
      simp only [put, if_neg same, later]
      by_cases known : name ∈ names rest
      · rw [if_pos known] at ih ⊢
        exact congrArg (key :: ·) ih
      · rw [if_neg known] at ih ⊢
        exact congrArg (key :: ·) ih

theorem get?_erase_self (entries : Keyed α) (name : String) :
    get? (erase entries name) name = none := by
  induction entries with
  | nil => rfl
  | cons head rest ih =>
    obtain ⟨key, old⟩ := head
    by_cases same : key = name
    · simpa [erase, same] using ih
    · simpa [erase, same, get?] using ih

theorem get?_erase_other (entries : Keyed α) {name other : String} (different : other ≠ name) :
    get? (erase entries name) other = get? entries other := by
  induction entries with
  | nil => rfl
  | cons head rest ih =>
    obtain ⟨key, old⟩ := head
    by_cases same : key = name
    · subst same
      simpa [erase, get?, Ne.symm different] using ih
    · by_cases found : key = other
      · simp [erase, get?, found, different]
      · simpa [erase, get?, same, found] using ih

theorem mem_of_get? (entries : Keyed α) {name : String} {value : α}
    (found : get? entries name = some value) : (name, value) ∈ entries := by
  induction entries with
  | nil => simp at found
  | cons head rest ih =>
    obtain ⟨key, old⟩ := head
    by_cases same : key = name
    · subst same
      simp only [get?, if_true, Option.some.injEq] at found
      simp [found]
    · simp only [get?, if_neg same] at found
      exact List.mem_cons_of_mem _ (ih found)

theorem get?_of_mem (entries : Keyed α) (distinct : (names entries).Nodup) {name : String}
    {value : α} (member : (name, value) ∈ entries) : get? entries name = some value := by
  induction entries with
  | nil => cases member
  | cons head rest ih =>
    obtain ⟨once, others⟩ := List.nodup_cons.mp distinct
    rcases List.mem_cons.mp member with rfl | later
    · simp [get?]
    · have different : head.1 ≠ name := by
        intro same
        exact once (List.mem_map.mpr ⟨_, later, same.symm⟩)
      rw [get?, if_neg different]
      exact ih others later

theorem has_iff (entries : Keyed α) (name : String) :
    has entries name = true ↔ name ∈ names entries := by
  induction entries with
  | nil => simp [has, names]
  | cons head rest ih =>
    by_cases same : head.1 = name
    · simp [has, get?, names, same]
    · rw [has, get?, if_neg same, names, List.map_cons, List.mem_cons, or_iff_right (Ne.symm same)]
      exact ih

theorem get?_map {β : Type} (items : List β) (key : β → String) (value : β → α) (name : String) :
    get? (items.map fun item => (key item, value item)) name =
      (items.find? (fun item => key item = name)).map value := by
  induction items with
  | nil => rfl
  | cons item rest ih =>
    by_cases same : key item = name
    · simp [get?, same]
    · simpa [get?, same] using ih

end Keyed

end ChatFlow
