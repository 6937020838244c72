/-! # Tables of TOML

A document is a table that is put together line by line. A table may be defined once: under a header of its
own, by keys with points, or as an inline table. A header of a table further in makes the tables around it
without defining them. -/

namespace ClusterConsole.Toml

/-- How a table came to be. -/
inductive Origin where
  /-- Under a header of its own; also the document, and an element of an array of tables. -/
  | header
  /-- Around a table with a header. -/
  | around
  /-- By a key with points. -/
  | dotted
deriving DecidableEq, Repr

/-- What stands under a key. -/
inductive Item where
  | string (text : String)
  | integer (value : Int)
  | float (text : String)
  | boolean (value : Bool)
  | dateTime (text : String)
  | array (items : List Item)
  | inline (entries : List (String × Item))
  | table (origin : Origin) (entries : List (String × Item))
  | tables (elements : List (List (String × Item)))

/-- The entries of a table. -/
abbrev Entries := List (String × Item)

namespace Entries

/-- The entries with what stands under a key replaced, or added at the end. -/
def put (key : String) (item : Item) : Entries → Entries
  | [] => [(key, item)]
  | (k, i) :: rest => if k = key then (k, item) :: rest else (k, i) :: put key item rest

/-- Changes the table that a path leads to. `made` is the origin of the tables that are missing on the way,
    `enter` says through which tables the way may lead; of an array of tables it takes the last. -/
def change (made : Origin) (enter : Origin → Bool) (edit : Origin → Entries → Option Entries) :
    List String → Origin → Entries → Option Entries
  | [], origin, entries => edit origin entries
  | key :: path, _, entries =>
    match entries.lookup key with
    | none => do
      let inner ← change made enter edit path made []
      some (put key (.table made inner) entries)
    | some (.table origin inner) =>
      if enter origin then do
        let inner ← change made enter edit path origin inner
        some (put key (.table origin inner) entries)
      else none
    | some (.tables elements) => do
      let inner ← change made enter edit path .header (← elements.getLast?)
      some (put key (.tables (elements.dropLast ++ [inner])) entries)
    | some _ => none

/-- Sets a key. A key with points leads through tables that such keys or headers further in have made, and
    ends in one that such keys have made. -/
def set (path : List String) (key : String) (item : Item) (entries : Entries) : Option Entries :=
  change .dotted (· != .header) (fun origin inner =>
    if (origin == .dotted) == path.isEmpty then none
    else if (inner.lookup key).isSome then none
    else some (put key item inner)) path .header entries

/-- Defines a table by its header. -/
def define (path : List String) (key : String) (entries : Entries) : Option Entries :=
  change .around (fun _ => true) (fun _ inner =>
    match inner.lookup key with
    | none => some (put key (.table .header []) inner)
    | some (.table .around entries) => some (put key (.table .header entries) inner)
    | some _ => none) path .header entries

/-- Adds a table to an array of tables by its header. -/
def append (path : List String) (key : String) (entries : Entries) : Option Entries :=
  change .around (fun _ => true) (fun _ inner =>
    match inner.lookup key with
    | none => some (put key (.tables [[]]) inner)
    | some (.tables elements) => some (put key (.tables (elements ++ [[]])) inner)
    | some _ => none) path .header entries

/-- Sets a key of the table that a header has led to. -/
def setUnder (header path : List String) (key : String) (item : Item) (entries : Entries) : Option Entries :=
  change .around (fun _ => true) (fun _ inner => set path key item inner) header .header entries

end Entries

end ClusterConsole.Toml
