import Stencil.Text.Basic

namespace Stencil.Toml

/-- How a table came about, which decides what may still be added to it. -/
inductive TableKind
  /-- by a header of its own -/
  | header
  /-- on the way to a table with a header -/
  | implied
  /-- by a key with points in it -/
  | dotted
  /-- between braces; nothing can be added to it -/
  | inline
  deriving DecidableEq, Repr

/-- A value. Of numbers and truth values nothing is kept but whether they are in range. -/
inductive Value
  | string (text : Text)
  | scalar (inRange : Bool)
  | array (items : List Value)
  | table (kind : TableKind) (entries : List (Text × Value))
  /-- an array that is made of tables with headers, the latest last -/
  | tables (items : List (List (Text × Value)))

/-- The entries of a table. -/
abbrev Entries := List (Text × Value)

namespace Value

/-- The entries of a value that is a table. -/
def entries? : Value → Option Entries
  | table _ entries => some entries
  | _ => none

/-- The items of a value that is an array. -/
def items? : Value → Option (List Value)
  | array items => some items
  | tables items => some (items.map (table .header))
  | _ => none

/-- The text of a value that is a string. -/
def text? : Value → Option Text
  | string text => some text
  | _ => none

mutual

/-- Whether every number in a value is in range. -/
def isInRange : Value → Bool
  | string _ => true
  | scalar inRange => inRange
  | array items => areInRange items
  | table _ entries => haveInRange entries
  | tables items => allInRange items

/-- Whether every number in some values is in range. -/
def areInRange : List Value → Bool
  | [] => true
  | value :: rest => isInRange value && areInRange rest

/-- Whether every number in the values of some entries is in range. -/
def haveInRange : List (Text × Value) → Bool
  | [] => true
  | (_, value) :: rest => isInRange value && haveInRange rest

/-- Whether every number in some tables is in range. -/
def allInRange : List (List (Text × Value)) → Bool
  | [] => true
  | entries :: rest => haveInRange entries && allInRange rest

end

end Value

namespace Entries

/-- Replaces the value of a key that is present. -/
def replace (key : Text) (value : Value) : Entries → Entries
  | [] => []
  | (k, v) :: rest => if k = key then (k, value) :: rest else (k, v) :: replace key value rest

/-- Changes the table that a path of keys leads to. Tables that are missing on the way are made,
by a dotted key or on the way to a header. A dotted key leads into no table that has a header, and
a table that was made on the way to a header counts as made by the dotted key that leads into it.
Nothing leads into a value. -/
def descend (dotted : Bool) (change : TableKind → Entries → Option (TableKind × Entries)) :
    List Text → TableKind → Entries → Option (TableKind × Entries)
  | [], kind, entries => change kind entries
  | key :: path, kind, entries =>
    match entries.lookup key with
    | none =>
      (descend dotted change path (if dotted then .dotted else .implied) []).map
        fun (kind', inner) => (kind, entries ++ [(key, .table kind' inner)])
    | some (.table kind' inner) =>
      if kind' = .inline ∨ (dotted ∧ kind' = .header) then none
      else
        let kind' := if dotted ∧ kind' = .implied then .dotted else kind'
        (descend dotted change path kind' inner).map
          fun (kind', inner) => (kind, replace key (.table kind' inner) entries)
    | some (.tables items) =>
      match items.getLast? with
      | none => none
      | some inner =>
        (descend dotted change path .header inner).map
          fun (_, inner) => (kind, replace key (.tables (items.dropLast ++ [inner])) entries)
    | some _ => none

/-- Sets a key that has no value yet. -/
def put (key : Text) (value : Value) (entries : Entries) : Option Entries :=
  if (entries.lookup key).isSome then none else some (entries ++ [(key, value)])

/-- Sets the value of a key, given by the tables on the way to it and its last part. Between them
only tables that came about by dotted keys may lie. -/
def assign (path : List Text) (key : Text) (value : Value) (kind : TableKind) (entries : Entries) :
    Option (TableKind × Entries) :=
  descend true
    (fun kind entries =>
      if path ≠ [] ∧ kind ≠ .dotted then none
      else (put key value entries).map fun entries => (kind, entries))
    path kind entries

/-- Begins the table of a header. It must be new, or have come about on the way to another one. -/
def openTable (path : List Text) (key : Text) (entries : Entries) : Option Entries :=
  (descend false
    (fun kind entries =>
      match entries.lookup key with
      | none => some (kind, entries ++ [(key, .table .header [])])
      | some (.table .implied inner) => some (kind, replace key (.table .header inner) entries)
      | some _ => none)
    path .header entries).map Prod.snd

/-- Begins a further table in the array of tables of a header. -/
def openItem (path : List Text) (key : Text) (entries : Entries) : Option Entries :=
  (descend false
    (fun kind entries =>
      match entries.lookup key with
      | none => some (kind, entries ++ [(key, .tables [[]])])
      | some (.tables items) => some (kind, replace key (.tables (items ++ [[]])) entries)
      | some _ => none)
    path .header entries).map Prod.snd

/-- Sets the value of a key in the table whose header is given. -/
def assignUnder (header path : List Text) (key : Text) (value : Value) (entries : Entries) :
    Option Entries :=
  (descend false (assign path key value) header .header entries).map Prod.snd

end Entries

end Stencil.Toml
