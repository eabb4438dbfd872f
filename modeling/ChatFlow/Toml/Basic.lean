import ChatFlow.Keyed

/-!
# TOML tables

A table remembers how it came into being, because that decides who may add to it: a header may
follow for a table that only longer headers have named, a dotted name may go on in a table that
dotted names made, and an inline table is complete as it is written.
-/

set_option autoImplicit false

namespace ChatFlow

/-- How a table came into being: by its own header, as a step of a longer header, as a step of a
dotted name, or inline. -/
inductive Toml.Origin
  | header
  | implied
  | dotted
  | inline
  deriving DecidableEq, Repr

/-- A TOML value.  A date, a time or both is a moment; which one does not matter here.  `tables`
are the tables that a repeated header makes. -/
inductive Toml
  | string (text : String)
  | integer (value : Int)
  | float (value : Float)
  | truth (value : Bool)
  | moment
  | array (items : List Toml)
  | table (origin : Toml.Origin) (entries : List (String × Toml))
  | tables (members : List (List (String × Toml)))
  deriving Inhabited

namespace Toml

/-- The steps to a table or a value. -/
abbrev KeyPath := List String

/-- Changes the table to which a path leads from a table; `change` also learns how that table came
into being.  Missing tables come into being as `created`.  Of the tables of a repeated header the
last one is meant.  A dotted name may not lead through a table with a header of its own. -/
def changeAt (created : Origin) (change : Origin → Keyed Toml → Option (Keyed Toml)) :
    (path : KeyPath) → (origin : Origin) → (entries : Keyed Toml) → Option (Keyed Toml)
  | [], origin, entries => change origin entries
  | name :: path, _, entries =>
    match entries.get? name with
    | none =>
      (changeAt created change path created []).map fun inner =>
        entries.put name (.table created inner)
    | some (.table origin inner) =>
      if origin = .inline ∨ (created = .dotted ∧ origin = .header) then none
      else
        (changeAt created change path origin inner).map fun inner =>
          entries.put name (.table origin inner)
    | some (.tables members) =>
      match members.getLast? with
      | none => none
      | some last =>
        (changeAt created change path .header last).map fun last =>
          entries.put name (.tables (members.dropLast ++ [last]))
    | some _ => none

/-- Adds a value under a dotted name.  The name must be new, and its table must be the one at hand
or one that dotted names made. -/
def addAt (path : KeyPath) (name : String) (value : Toml) (origin : Origin)
    (entries : Keyed Toml) : Option (Keyed Toml) :=
  changeAt .dotted (fun origin entries =>
    if (origin ≠ .dotted ∧ path ≠ []) ∨ entries.has name then none
    else some (entries ++ [(name, value)])) path origin entries

/-- Opens the table of a header.  It must be new or known from longer headers only. -/
def openTable (path : KeyPath) (name : String) (root : Keyed Toml) : Option (Keyed Toml) :=
  changeAt .implied (fun _ entries =>
    match entries.get? name with
    | none => some (entries ++ [(name, .table .header [])])
    | some (.table .implied inner) => some (entries.put name (.table .header inner))
    | some _ => none) path .header root

/-- Opens a further table of a repeated header. -/
def openMember (path : KeyPath) (name : String) (root : Keyed Toml) : Option (Keyed Toml) :=
  changeAt .implied (fun _ entries =>
    match entries.get? name with
    | none => some (entries ++ [(name, .tables [[]])])
    | some (.tables members) => some (entries.put name (.tables (members ++ [[]])))
    | some _ => none) path .header root

/-- An inline table from the names and values in it. -/
def inlineTable (pairs : List (KeyPath × String × Toml)) : Option Toml :=
  (pairs.foldlM (fun entries (path, name, value) => addAt path name value .inline entries)
    ([] : Keyed Toml)).map (.table .inline)

end Toml

end ChatFlow
