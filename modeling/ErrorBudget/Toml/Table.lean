/-
  ErrorBudget.Toml.Table

  How tables come about. A table is made by a header, by a longer header, or by
  keys with points in them; who made it decides who may still add to it.
-/
import ErrorBudget.Toml.Value

namespace ErrorBudget.Toml

/-- Who made a table. -/
inductive Origin where
  | header
  | longerHeader
  | key
deriving DecidableEq, Repr

/-- A table that is being read, or a value in it. -/
inductive Item where
  | value (v : Value)
  | table (origin : Origin) (entries : List (String × Item))
  /-- Tables under one header, the latest first. -/
  | tables (all : List (List (String × Item)))

/-- The entries of a table. -/
abbrev Entries := List (String × Item)

namespace Entries

/-- The entries with one set. -/
def set (key : String) (item : Item) : Entries → Entries
  | [] => [(key, item)]
  | e :: es => if e.1 = key then (key, item) :: es else e :: set key item es

/-- Changes the table that a path leads to. Tables that are missing are made; `keyed`
    says whether by a key, which may not add to tables that have a header. -/
def change (keyed : Bool) (f : Origin → Entries → Option Entries) (origin : Origin)
    (es : Entries) : List String → Option Entries
  | [] => f origin es
  | k :: ks =>
    match es.lookup k with
    | none =>
      let origin : Origin := if keyed then .key else .longerHeader
      (change keyed f origin [] ks).map fun sub => es.set k (.table origin sub)
    | some (.value _) => none
    | some (.table origin sub) =>
      if keyed && origin = .header then none
      else (change keyed f origin sub ks).map fun sub => es.set k (.table origin sub)
    | some (.tables []) => none
    | some (.tables (last :: others)) =>
      (change keyed f .header last ks).map fun last => es.set k (.tables (last :: others))

/-- Sets a key with points, which are before its last part. What the points lead to
    is a table made by keys, and the table itself is not, unless there are none. -/
def assign (path : List String) (key : String) (v : Value) (origin : Origin) (es : Entries) :
    Option Entries :=
  change true
    (fun origin sub =>
      if (origin = .key) = path.isEmpty then none
      else if (sub.lookup key).isSome then none
      else some (sub.set key (.value v)))
    origin es path

/-- Makes the table of a header. -/
def openTable (path : List String) (key : String) (es : Entries) : Option Entries :=
  change false
    (fun _ sub => match sub.lookup key with
      | none => some (sub.set key (.table .header []))
      | some (.table .longerHeader t) => some (sub.set key (.table .header t))
      | some _ => none)
    .header es path

/-- Makes one more table of a header in double brackets. -/
def openNext (path : List String) (key : String) (es : Entries) : Option Entries :=
  change false
    (fun _ sub => match sub.lookup key with
      | none => some (sub.set key (.tables [[]]))
      | some (.tables all) => some (sub.set key (.tables ([] :: all)))
      | some _ => none)
    .header es path

/-- Sets a key in the table of the last header. -/
def assignAt (header path : List String) (key : String) (v : Value) (es : Entries) :
    Option Entries :=
  change false (assign path key v) .header es header

end Entries

mutual

/-- What an item is in the end. -/
def Item.finish : Item → Value
  | .value v => v
  | .table _ es => .table (finishEntries es)
  | .tables all => .list (finishTables all).reverse

/-- What the entries of a table are in the end. -/
def finishEntries : List (String × Item) → List (String × Value)
  | [] => []
  | (k, i) :: es => (k, i.finish) :: finishEntries es

/-- What tables are in the end. -/
def finishTables : List (List (String × Item)) → List Value
  | [] => []
  | t :: ts => .table (finishEntries t) :: finishTables ts

end

end ErrorBudget.Toml
