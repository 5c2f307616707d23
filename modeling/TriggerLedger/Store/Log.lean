import TriggerLedger.Event.Codec
import TriggerLedger.Instant.Timestamp
/-!
# Session logs

The events of a session are kept in a log, in the order of arrival and each with
an id and a time.
-/

namespace TriggerLedger

/-- An event as it is kept. -/
structure RecordedEvent where
  id : String
  timestamp : Instant
  event : Event
  deriving DecidableEq

/-- The events of one session. -/
structure Log where
  sessionId : String
  /-- The events in the order of arrival. -/
  events : List RecordedEvent
  /-- When the log was opened. -/
  createdAt : Instant
  /-- When the last event arrived. -/
  updatedAt : Instant
  deriving DecidableEq

/-- What a log is listed with. -/
structure LogSummary where
  sessionId : String
  createdAt : Instant
  eventCount : Nat
  /-- The verdict on the last session closed. -/
  verdict : Option Verdict
  deriving DecidableEq

/-- What an event is stamped with when it arrives. -/
structure Stamp where
  eventId : String
  /-- The time at which a new log is opened. -/
  opened : Instant
  /-- The time at which the event is recorded. -/
  recorded : Instant
  deriving DecidableEq

namespace Log

def opened (sessionId : String) (now : Instant) : Log := ⟨sessionId, [], now, now⟩

def push (log : Log) (stamp : Stamp) (event : Event) : Log :=
  { log with
    events := log.events ++ [⟨stamp.eventId, stamp.recorded, event⟩]
    updatedAt := stamp.recorded }

/-- Append an event to a log that may still have to be opened. -/
def pushTo (log : Option Log) (stamp : Stamp) (event : Event) : Log :=
  (log.getD (opened event.key stamp.opened)).push stamp event

/-- The records of closed sessions in a log. -/
def rollups (log : Log) : List TriggerRecord :=
  log.events.filterMap (·.event.trigger?)

/-- The verdict on the last session closed. -/
def verdict? (log : Log) : Option Verdict :=
  log.rollups.getLast?.map (·.verdict)

/-- The summary of a log. -/
def summary (log : Log) : LogSummary :=
  ⟨log.sessionId, log.createdAt, log.events.length, log.verdict?⟩

end Log

/-- The newest logs first; logs of the same age keep their order. -/
def LogSummary.newestFirst (summaries : List LogSummary) : List LogSummary :=
  summaries.mergeSort fun first second => decide (second.createdAt ≤ first.createdAt)

open Json

def RecordedEvent.codec : Codec RecordedEvent :=
  .record "RecordedEvent" <|
    (Layout.empty RecordedEvent.mk)
      |>.also (.required "id" (·.id) .string)
      |>.also (.required "timestamp" (·.timestamp) Instant.codec)
      |>.also (.required "event" (·.event) Event.codec)

def Log.codec : Codec Log :=
  .record "SessionLog" <|
    (Layout.empty Log.mk)
      |>.also (.required "session_id" (·.sessionId) .string)
      |>.also (.required "events" (·.events) (.list RecordedEvent.codec))
      |>.also (.required "created_at" (·.createdAt) Instant.codec)
      |>.also (.required "updated_at" (·.updatedAt) Instant.codec)

/-- The text of a log. -/
def Log.render (log : Log) : String := (Log.codec.encode log).pretty

/-- Read the text of a log. -/
def Log.parse (text : String) : Except DecodeError Log := Log.codec.decode.run text

end TriggerLedger
