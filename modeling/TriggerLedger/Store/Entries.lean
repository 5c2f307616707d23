/-!
# Keyed entries

The files of a directory and the logs of a store in memory are lists of entries
in which each key comes at most once.
-/

namespace TriggerLedger.Entries

variable {α : Type}

/-- Replace the value of a key in place, or add it at the end. -/
def replace (key : String) (value : α) : List (String × α) → List (String × α)
  | [] => [(key, value)]
  | entry :: entries =>
    if entry.1 = key then (key, value) :: entries else entry :: replace key value entries

/-- Drop the value of a key. -/
def erase (key : String) (entries : List (String × α)) : List (String × α) :=
  entries.filter fun entry => entry.1 != key

end TriggerLedger.Entries
