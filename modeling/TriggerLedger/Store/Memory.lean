import TriggerLedger.Store.Basic
import TriggerLedger.Store.Entries
/-!
# Logs in memory
-/

namespace TriggerLedger

/-- A store in memory: each session has at most one log. -/
structure MemoryStore where
  /-- The logs with their sessions. -/
  logs : List (String × Log)
  deriving DecidableEq

namespace MemoryStore

def empty : MemoryStore := ⟨[]⟩

/-- The log of a session. -/
def get? (store : MemoryStore) (sessionId : String) : Option Log :=
  store.logs.lookup sessionId

/-- Keep a log for a session. -/
def insert (store : MemoryStore) (sessionId : String) (log : Log) : MemoryStore :=
  ⟨Entries.replace sessionId log store.logs⟩

/-- Forget the log of a session. -/
def erase (store : MemoryStore) (sessionId : String) : MemoryStore :=
  ⟨Entries.erase sessionId store.logs⟩

/-- Append an event to the log of its session. -/
def record (store : MemoryStore) (stamp : Stamp) (event : Event) : MemoryStore :=
  store.insert event.key (Log.pushTo (store.get? event.key) stamp event)

/-- The summaries of the newest logs. -/
def list (store : MemoryStore) (limit : Nat) : List LogSummary :=
  (LogSummary.newestFirst (store.logs.map fun entry => entry.2.summary)).take limit

/-- All events, session by session. -/
def allEvents (store : MemoryStore) : List Event :=
  store.logs.flatMap fun entry => entry.2.events.map (·.event)

instance : Store MemoryStore where
  get store sessionId := .ok (store.get? sessionId)
  put store log := (store.insert log.sessionId log, .ok ())
  list store limit := .ok (store.list limit)
  delete store sessionId := (store.erase sessionId, .ok ())
  record store stamp event := (store.record stamp event, .ok ())

end MemoryStore
end TriggerLedger
