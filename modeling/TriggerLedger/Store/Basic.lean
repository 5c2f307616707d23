import TriggerLedger.Store.Log
/-!
# Stores of logs

A store keeps one log a session.  Any store can be read, replaced, listed and
deleted from log by log; how an event is recorded may differ.
-/

namespace TriggerLedger

/-- Why a file could not be used. -/
inductive FileFault where
  | notFound
  | invalidName
  deriving DecidableEq, Repr

/-- The name of a fault of a file. -/
def FileFault.name : FileFault → String
  | .notFound => "NotFound"
  | .invalidName => "InvalidFilename"

/-- Why a store could not do what it was asked for. -/
inductive StoreFault where
  | file (fault : FileFault)
  | undecodable (fault : Json.DecodeError)
  deriving DecidableEq

/-- The operations of a store.  An operation that fails still says what is left. -/
class Store (σ : Type) where
  /-- The log of a session. -/
  get : σ → String → Except StoreFault (Option Log)
  /-- Keep a log in place of any other of its session. -/
  put : σ → Log → σ × Except StoreFault Unit
  /-- The summaries of the newest logs. -/
  list : σ → Nat → Except StoreFault (List LogSummary)
  /-- Forget the log of a session. -/
  delete : σ → String → σ × Except StoreFault Unit
  /-- Append an event to the log of its session. -/
  record : σ → Stamp → Event → σ × Except StoreFault Unit

namespace Store

/-- Record an event by reading its log and putting it back with the event. -/
def recordByPut {σ : Type} (get : σ → String → Except StoreFault (Option Log))
    (put : σ → Log → σ × Except StoreFault Unit) (store : σ) (stamp : Stamp) (event : Event) :
    σ × Except StoreFault Unit :=
  match get store event.key with
  | .error fault => (store, .error fault)
  | .ok log => put store (Log.pushTo log stamp event)

end Store
end TriggerLedger
