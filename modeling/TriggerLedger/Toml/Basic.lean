/-!
# TOML values and growing tables

A document is a table of values.  While it is read its tables still grow, and how
a table came into being settles what may still be added to it: a table with a
header of its own is opened once, dotted keys extend only tables made by dotted
keys, and values between braces or brackets are complete.
-/

namespace TriggerLedger

/-- A TOML value.  Dates and times are only known to be there. -/
inductive Toml where
  | string (value : String)
  | integer (value : Int)
  | real
  | flag (value : Bool)
  | moment
  | array (items : List Toml)
  | table (members : List (String × Toml))

namespace Toml

/-- How a table came into being. -/
inductive Origin where
  /-- By a header of a table inside it. -/
  | implied
  /-- By a dotted key. -/
  | dotted
  /-- By its own header. -/
  | header
  deriving DecidableEq

/-- A member of a growing table. -/
inductive Entry where
  /-- A complete value. -/
  | value (value : Toml)
  /-- A table. -/
  | table (origin : Origin) (members : List (String × Entry))
  /-- An array with a header for each of its tables, the last one first. -/
  | tables (elements : List (List (String × Entry)))

/-- The members of a growing table: each key once. -/
abbrev Members := List (String × Entry)

/-- Put a member in place of any other of its key. -/
def put (key : String) (entry : Entry) : Members → Members
  | [] => [(key, entry)]
  | member :: members =>
    if member.1 = key then (key, entry) :: members else member :: put key entry members

/-- Whether a path made by `origin` may go through a table to a last table or further on. -/
def mayPass (origin found : Origin) (isLast : Bool) : Bool :=
  origin != .dotted || found == .dotted || (found == .implied && !isLast)

/-- Change the table at the end of a path; tables that are missing are made on the way. -/
def change (origin : Origin) (update : Members → Option Members) :
    List String → Members → Option Members
  | [], members => update members
  | key :: path, members =>
    match members.lookup key with
    | none => do
      let inner ← change origin update path []
      return put key (.table origin inner) members
    | some (.table found inner) =>
      if mayPass origin found path.isEmpty then do
        let inner ← change origin update path inner
        return put key (.table found inner) members
      else none
    | some (.tables (element :: elements)) =>
      if mayPass origin .implied path.isEmpty then do
        let element ← change origin update path element
        return put key (.tables (element :: elements)) members
      else none
    | some _ => none

/-- Add a member with a key that is not there yet. -/
def add (key : String) (value : Toml) (members : Members) : Option Members :=
  match members.lookup key with
  | none => some (put key (.value value) members)
  | some _ => none

/-- Add a value with a dotted key. -/
def assign (path : List String) (key : String) (value : Toml) (members : Members) :
    Option Members :=
  change .dotted (add key value) path members

/-- Open a table by its header. -/
def openTable (path : List String) (key : String) (members : Members) : Option Members :=
  change .implied
    (fun members =>
      match members.lookup key with
      | none => some (put key (.table .header []) members)
      | some (.table .implied inner) => some (put key (.table .header inner) members)
      | some _ => none)
    path members

/-- Open the next table of an array by its header. -/
def openElement (path : List String) (key : String) (members : Members) : Option Members :=
  change .implied
    (fun members =>
      match members.lookup key with
      | none => some (put key (.tables [[]]) members)
      | some (.tables elements) => some (put key (.tables ([] :: elements)) members)
      | some _ => none)
    path members

mutual

/-- The value of a member that has stopped growing. -/
def Entry.close : Entry → Toml
  | .value value => value
  | .table _ members => .table (closeAll members)
  | .tables elements => .array (closeElements elements).reverse

/-- The members of a table that has stopped growing. -/
def closeAll : List (String × Entry) → List (String × Toml)
  | [] => []
  | (key, entry) :: members => (key, entry.close) :: closeAll members

/-- The tables of an array that has stopped growing. -/
def closeElements : List (List (String × Entry)) → List Toml
  | [] => []
  | element :: elements => .table (closeAll element) :: closeElements elements

end

end Toml
end TriggerLedger
