import TriggerLedger.Session.Ledger
import TriggerLedger.Store.Basic
/-!
# Work on a session

Work hands out events and requests while it goes on, and it is told how that went: what the
sink answers to an event, and whether there is anything that sends a request.
-/

namespace TriggerLedger

/-- Work that comes to a result. -/
inductive Work (α : Type) where
  | done (result : α)
  /-- Offer an event to the sink. -/
  | offer (event : Event) (next : Except StoreFault Unit → Work α)
  /-- Warn of an event that was refused. -/
  | warn (event : Event) (fault : StoreFault) (next : Work α)
  /-- Have a request sent in the background, if that is possible. -/
  | send (request : Remote.Request) (next : Bool → Work α)

namespace Work

def bind {α β : Type} : Work α → (α → Work β) → Work β
  | .done result, rest => rest result
  | .offer event next, rest => .offer event fun answer => (next answer).bind rest
  | .warn event fault next, rest => .warn event fault (next.bind rest)
  | .send request next, rest => .send request fun sent => (next sent).bind rest

instance : Monad Work where
  pure := done
  bind := bind

/-- Keep an event; if it is refused, that is all that comes of it. -/
def keep (event : Event) : Work Unit :=
  .offer event fun
    | .ok () => .done ()
    | .error fault => .warn event fault (.done ())

/-- Have a request sent, and tell whether that was possible. -/
def start (request : Remote.Request) : Work Bool :=
  .send request .done

def recordInvocation (settings : Settings) (report : InvocationReport) (session : Session) :
    Work Session := do
  let record := session.invocationRecord settings report
  let session := { session with sessionId := record.sessionId.or session.sessionId }
  keep (.invocation record)
  return { session with invocations := session.invocations ++ [record] }

/-- Close the session, if any request has been decided, and tell of the closed session and of
whether the endpoint is told. -/
def close (settings : Settings) (now : Instant) (sessionId acceptedContent : String)
    (session : Session) : Work (Session × Option (Rollup × Bool)) := do
  match session.decisions with
  | [] => return (session, none)
  | first :: _ =>
    let record := session.sessionRecord settings now first
    keep (.trigger record)
    let session := { session with prior := ⟨some record.verdict, some now⟩ }
    let latency := session.marks.endToEnd now
    let report := session.triggerReport now sessionId acceptedContent record latency
    let sent ← start (.trigger report)
    return (session.reset, some (⟨record, latency⟩, sent))

/-- Record what the user did with a batch of suggestions, and close the session if it is
complete. -/
def recordDecisions (settings : Settings) (now : Instant) (batch : DecisionBatch)
    (session : Session) : Work (Session × Option (Rollup × Bool)) := do
  (session.decisionRecords settings batch).forM fun record => keep (.decision record)
  let session := session.gather settings batch
  if session.isComplete batch.requestId then
    close settings now batch.sessionId (Session.acceptedContent batch) session
  else return (session, none)

def recordEmptyList (settings : Settings) (requestId sessionId : String) (page : Nat)
    (language : Option String) (session : Session) : Work Unit :=
  keep (.decision (session.emptyListRecord settings requestId sessionId page language))

def recordLatency (settings : Settings) (language : Option String) (session : Session) :
    Work (Option LatencyRecord) := do
  match session.latencyRecord? settings language with
  | none => return none
  | some record =>
    keep (.latency record)
    return some record

def reportScan (now : Instant) (language jobId : String) : Work Bool :=
  start (.scan (Session.scanReport now language jobId))

end Work
end TriggerLedger
