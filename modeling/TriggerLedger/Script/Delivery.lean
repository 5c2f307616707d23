import TriggerLedger.Remote.Client
import TriggerLedger.Script.Replay
import TriggerLedger.Session.Work
/-!
# Delivering what a replay hands out

Events go to a sink at once.  Requests are sent in the background, at any time, when there is
something to run them.  What a sink or a client fails to do is noted.
-/

namespace TriggerLedger.Script

/-- A receiver of events with a state. -/
structure Sink (σ : Type) where
  /-- Take an event, which may fail. -/
  record : σ → Event → σ × Except StoreFault Unit

/-- The sink that refuses every event. -/
def Sink.refusing : Sink Unit := ⟨fun _ _ => ((), .error (.file .notFound))⟩

/-- A store together with the number of events offered to it. -/
structure StampedStore (σ : Type) where
  store : σ
  /-- The number of events offered so far. -/
  offered : Nat

/-- The sink of a store, which stamps every event with the next stamp. -/
def Sink.ofStore {σ : Type} [Store σ] (stamps : Nat → Stamp) : Sink (StampedStore σ) :=
  ⟨fun state event =>
    let (store, outcome) := Store.record state.store (stamps state.offered) event
    (⟨store, state.offered + 1⟩, outcome)⟩

/-- Where a replay delivers to. -/
structure Outlets (σ γ : Type) where
  sink : Sink σ
  client : Remote.Client γ
  /-- Whether requests can be sent in the background; without it they are dropped. -/
  background : Bool

/-- The state of the outlets and what is on its way to them. -/
structure Delivery (σ γ : Type) where
  sink : σ
  client : γ
  /-- The requests that are still to be sent. -/
  pending : List Remote.Request
  /-- The events that were warned of. -/
  refused : List (Event × StoreFault) := []
  /-- The requests that could not be sent. -/
  failed : List (Remote.Request × Remote.ClientFault) := []

namespace Delivery

variable {σ γ α : Type}

/-- What an answer leaves to be noted of an item. -/
def noted {ι ε : Type} (item : ι) : Except ε Unit → List (ι × ε)
  | .ok () => []
  | .error fault => [(item, fault)]

/-- Let a request wait to be sent, if it can be sent in the background. -/
def start (outlets : Outlets σ γ) (delivery : Delivery σ γ) (request : Remote.Request) :
    Delivery σ γ :=
  if outlets.background then { delivery with pending := delivery.pending ++ [request] }
  else delivery

/-- Send a pending request. -/
def transmit (outlets : Outlets σ γ) (delivery : Delivery σ γ) (request : Remote.Request) :
    Delivery σ γ :=
  let (client, outcome) := outlets.client.send delivery.client request
  { delivery with
    client
    pending := delivery.pending.erase request
    failed := delivery.failed ++ noted request outcome }

/-- Do some work while nothing is sent.  Runs are taken apart by lemmas and not by unfolding. -/
@[irreducible]
def run (outlets : Outlets σ γ) : Work α → Delivery σ γ → α × Delivery σ γ
  | .done result, delivery => (result, delivery)
  | .offer event next, delivery =>
    let answered := outlets.sink.record delivery.sink event
    run outlets (next answered.2) { delivery with sink := answered.1 }
  | .warn event fault next, delivery =>
    run outlets next { delivery with refused := delivery.refused ++ [(event, fault)] }
  | .send request next, delivery =>
    run outlets (next outlets.background) (delivery.start outlets request)

/-- What some work may lead to.  In the background, pending requests may be sent before, during
and after it, in any order. -/
inductive Leads (outlets : Outlets σ γ) : Work α → Delivery σ γ → α → Delivery σ γ → Prop where
  | done (result : α) (delivery : Delivery σ γ) :
      Leads outlets (.done result) delivery result delivery
  | offer {event : Event} {next : Except StoreFault Unit → Work α} {result : α}
      {delivery final : Delivery σ γ} :
      Leads outlets (next (outlets.sink.record delivery.sink event).2)
        { delivery with sink := (outlets.sink.record delivery.sink event).1 } result final →
      Leads outlets (.offer event next) delivery result final
  | warn {event : Event} {fault : StoreFault} {next : Work α} {result : α}
      {delivery final : Delivery σ γ} :
      Leads outlets next { delivery with refused := delivery.refused ++ [(event, fault)] } result
        final →
      Leads outlets (.warn event fault next) delivery result final
  | send {request : Remote.Request} {next : Bool → Work α} {result : α}
      {delivery final : Delivery σ γ} :
      Leads outlets (next outlets.background) (delivery.start outlets request) result final →
      Leads outlets (.send request next) delivery result final
  | transmit {request : Remote.Request} {work : Work α} {result : α}
      {delivery final : Delivery σ γ} :
      request ∈ delivery.pending →
      Leads outlets work (delivery.transmit outlets request) result final →
      Leads outlets work delivery result final

/-- Offer an event, and warn of it if it is refused. -/
def offer (outlets : Outlets σ γ) (delivery : Delivery σ γ) (event : Event) : Delivery σ γ :=
  let (sink, answer) := outlets.sink.record delivery.sink event
  { delivery with
    sink
    refused := delivery.refused ++ noted event answer }

/-- Deliver what was handed out. -/
def deliver (outlets : Outlets σ γ) (emission : Emission) (delivery : Delivery σ γ) :
    Delivery σ γ :=
  emission.requests.foldl (start outlets) (emission.events.foldl (offer outlets) delivery)

end Delivery

namespace Replay

/-- Take over a session that may just have been closed. -/
def takeOver (replay : Replay) (worked : Session × Option (Rollup × Bool)) : Replay :=
  { replay with
    session := worked.1
    report :=
      { replay.report with
        rollups := replay.report.rollups ++ (worked.2.map (·.1.record)).toList } }

/-- The work of a step, apart from being counted.  Steps that hand nothing out only change the
replay. -/
def performing (settings : Settings) (step : Step) (replay : Replay) : Work Replay :=
  let now := replay.clock
  match step with
  | .invocation report => do
    let session ← Work.recordInvocation settings report replay.session
    return { replay with session }
  | .decisions batch => do
    let worked ← Work.recordDecisions settings now batch replay.session
    return replay.takeOver worked
  | .emptyList list => do
    Work.recordEmptyList settings list.requestId list.sessionId list.page list.language
      replay.session
    return replay
  | .rollup closing => do
    let worked ← Work.close settings now closing.sessionId closing.acceptedContent replay.session
    return replay.takeOver worked
  | .clientLatency language => do
    match ← Work.recordLatency settings language replay.session with
    | none => return replay
    | some latency =>
      return { replay with
        report := { replay.report with latencies := replay.report.latencies ++ [latency] } }
  | .codeScan scan => do
    let _ ← Work.reportScan now scan.language scan.jobId
    return replay
  | step => return (replay.perform settings step).1

def applying (settings : Settings) (step : Step) (replay : Replay) : Work Replay := do
  let performed ← replay.performing settings step
  return performed.countStep

end Replay

/-- A replay with the state of its outlets. -/
structure Run (σ γ : Type) extends Delivery σ γ where
  replay : Replay

namespace Run

/-- Offer events to a sink in order. -/
def offer {σ : Type} (sink : Sink σ) (state : σ) (events : List Event) : σ :=
  events.foldl (fun state event => (sink.record state event).1) state

def send {γ : Type} (client : Remote.Client γ) (state : γ) (requests : List Remote.Request) : γ :=
  requests.foldl (fun state request => (client.send state request).1) state

variable {σ γ : Type}

def start (clock : Instant) (sink : σ) (client : γ) : Run σ γ :=
  { replay := .start clock, sink, client, pending := [] }

def deliver (outlets : Outlets σ γ) (emission : Emission) (run : Run σ γ) : Run σ γ :=
  ⟨run.toDelivery.deliver outlets emission, run.replay⟩

def apply (outlets : Outlets σ γ) (settings : Settings) (step : Step) (run : Run σ γ) : Run σ γ :=
  let (replay, delivery) := run.toDelivery.run outlets (run.replay.applying settings step)
  ⟨delivery, replay⟩

/-- Wait until all pending requests are sent. -/
def settle (outlets : Outlets σ γ) (run : Run σ γ) : Run σ γ :=
  ⟨run.pending.foldl (Delivery.transmit outlets) run.toDelivery, run.replay⟩

def applyAll (outlets : Outlets σ γ) (settings : Settings) (steps : List Step) (run : Run σ γ) :
    Run σ γ :=
  steps.foldl (fun run step => run.apply outlets settings step) run

/-- Apply a whole script; nothing is applied if it is invalid. -/
def runScript (outlets : Outlets σ γ) (settings : Settings) (script : String) (run : Run σ γ) :
    Run σ γ × Except Fault Unit :=
  match parse script with
  | .error fault => (run, .error fault)
  | .ok steps => (run.applyAll outlets settings steps, .ok ())

/-- The runs that steps may lead to.  In the background, pending requests may be sent before,
during, between and after the steps, in any order. -/
inductive Reaches (outlets : Outlets σ γ) (settings : Settings) :
    Run σ γ → List Step → Run σ γ → Prop where
  | done (run : Run σ γ) : Reaches outlets settings run [] run
  | step {run final : Run σ γ} {step : Step} {steps : List Step} {replay : Replay}
      {delivery : Delivery σ γ} :
      Delivery.Leads outlets (run.replay.applying settings step) run.toDelivery replay delivery →
      Reaches outlets settings ⟨delivery, replay⟩ steps final →
      Reaches outlets settings run (step :: steps) final
  | send {run final : Run σ γ} {steps : List Step} {request : Remote.Request} :
      request ∈ run.pending →
      Reaches outlets settings ⟨run.transmit outlets request, run.replay⟩ steps final →
      Reaches outlets settings run steps final

end Run
end TriggerLedger.Script
