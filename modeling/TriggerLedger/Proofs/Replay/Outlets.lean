import Mathlib.Data.List.Perm.Basic
import TriggerLedger.Command.Replaying
import TriggerLedger.Proofs.Replay.Deliveries
import TriggerLedger.Store.Memory
/-!
# Outlets have no influence

A step works through a sink and a client, and is told in its midst what becomes of
its events and requests.  Whatever they do with what they are given, and whatever
they answer, a replay goes on in the same way: its state after any steps, the events
offered and the requests handed over are those of the replay by itself.  Pending
requests may be sent at any time, also within a step, and in any order.
-/

namespace TriggerLedger

def Remote.Client.listing {γ : Type} (client : Client γ) : Client (List Request × γ) :=
  ⟨fun state request =>
    let (inner, outcome) := client.send state.2 request
    ((state.1 ++ [request], inner), outcome)⟩

namespace Script

def Sink.listing {σ : Type} (sink : Sink σ) : Sink (List Event × σ) :=
  ⟨fun state event =>
    let (inner, outcome) := sink.record state.2 event
    ((state.1 ++ [event], inner), outcome)⟩

/-- Outlets that also list what they are given. -/
def Outlets.listing {σ γ : Type} (outlets : Outlets σ γ) :
    Outlets (List Event × σ) (List Remote.Request × γ) :=
  ⟨outlets.sink.listing, outlets.client.listing, outlets.background⟩

/-- The requests of an emission that are sent, if there is something to send them. -/
def Run.sentOf {σ γ : Type} (outlets : Outlets σ γ) (emission : Emission) : List Remote.Request :=
  if outlets.background then emission.requests else []

namespace Delivery

open Run (sentOf)

variable {σ γ α : Type}

theorem foldl_offer (outlets : Outlets σ γ) (events : List Event) (delivery : Delivery σ γ) :
    let offered := events.foldl (offer outlets) delivery
    offered.sink = Run.offer outlets.sink delivery.sink events ∧
      offered.client = delivery.client ∧ offered.pending = delivery.pending := by
  induction events generalizing delivery with
  | nil => exact ⟨rfl, rfl, rfl⟩
  | cons event events induction => exact induction (delivery.offer outlets event)

theorem foldl_start (outlets : Outlets σ γ) (requests : List Remote.Request)
    (delivery : Delivery σ γ) :
    requests.foldl (start outlets) delivery =
      { delivery with pending := delivery.pending ++ sentOf outlets ⟨[], requests⟩ } := by
  unfold sentOf
  induction requests generalizing delivery with
  | nil => simp
  | cons request requests induction =>
      rw [List.foldl_cons, induction, start]
      split <;> simp

theorem sink_deliver (outlets : Outlets σ γ) (emission : Emission) (delivery : Delivery σ γ) :
    (delivery.deliver outlets emission).sink =
      Run.offer outlets.sink delivery.sink emission.events := by
  rw [deliver, foldl_start]
  exact (foldl_offer outlets emission.events delivery).1

theorem client_deliver (outlets : Outlets σ γ) (emission : Emission) (delivery : Delivery σ γ) :
    (delivery.deliver outlets emission).client = delivery.client := by
  rw [deliver, foldl_start]
  exact (foldl_offer outlets emission.events delivery).2.1

theorem pending_deliver (outlets : Outlets σ γ) (emission : Emission) (delivery : Delivery σ γ) :
    (delivery.deliver outlets emission).pending =
      delivery.pending ++ sentOf outlets emission := by
  rw [deliver, foldl_start]
  exact congrArg (· ++ _) (foldl_offer outlets emission.events delivery).2.2

theorem foldl_transmit (outlets : Outlets σ γ) (requests : List Remote.Request)
    (delivery : Delivery σ γ) :
    let transmitted := requests.foldl (transmit outlets) delivery
    transmitted.sink = delivery.sink ∧
      transmitted.client = Run.send outlets.client delivery.client requests := by
  induction requests generalizing delivery with
  | nil => exact ⟨rfl, rfl⟩
  | cons request requests induction => exact induction (delivery.transmit outlets request)

/-- Requests that are sent during some work, and those still pending after it, are those that would
be pending if nothing had been sent. -/
theorem Leads.handed {outlets : Outlets σ γ}
    {delivery final : Delivery (List Event × σ) (List Remote.Request × γ)} {work : Work α}
    {result : α} (leads : Leads outlets.listing work delivery result final) :
    (final.client.1 ++ final.pending).Perm
      ((delivery.run outlets.listing work).2.client.1 ++
        (delivery.run outlets.listing work).2.pending) := by
  induction leads with
  | done result delivery => rw [run]
  | offer rest induction => rw [run]; exact induction
  | warn rest induction => rw [run]; exact induction
  | send rest induction => rw [run]; exact induction
  | @transmit request work result delivery final isPending rest induction =>
      refine induction.trans ?_
      obtain ⟨sink, client, pending, refused, failed⟩ := delivery
      obtain ⟨result, last, more, warned, runs⟩ := run_frame outlets.listing work sink refused
      have handed : (outlets.listing.client.send client request).1.1 = client.1 ++ [request] := rfl
      simp only [Delivery.transmit, runs, handed]
      -- The request has moved from the pending ones to those handed over.
      rw [← List.append_assoc, ← List.append_assoc, List.append_assoc client.1]
      exact ((List.perm_cons_erase isPending).symm.append_left _).append_right _

end Delivery

namespace Run

variable {σ γ : Type} {settings : Settings}

/-- A step that works through outlets does to the replay what it does by itself, and delivers what
it hands out by itself. -/
theorem apply_eq_deliver (outlets : Outlets σ γ) (settings : Settings) (step : Step)
    (run : Run σ γ) :
    run.apply outlets settings step =
      deliver outlets (run.replay.apply settings step).2
        ⟨run.toDelivery, (run.replay.apply settings step).1⟩ := by
  unfold apply
  rw [Delivery.run_applying]
  rfl

theorem pending_apply (outlets : Outlets σ γ) (settings : Settings) (step : Step)
    (run : Run σ γ) :
    (run.apply outlets settings step).pending =
      run.pending ++ sentOf outlets (run.replay.apply settings step).2 := by
  rw [apply_eq_deliver]
  exact Delivery.pending_deliver outlets _ run.toDelivery

theorem reaches_applyAll (outlets : Outlets σ γ) (settings : Settings) (steps : List Step)
    (run : Run σ γ) : Reaches outlets settings run steps (run.applyAll outlets settings steps) := by
  induction steps generalizing run with
  | nil => exact .done run
  | cons step steps induction =>
      exact .step (Delivery.run_leads _ _ _) (induction (run.apply outlets settings step))

theorem offer_append (sink : Sink σ) (state : σ) (events later : List Event) :
    offer sink state (events ++ later) = offer sink (offer sink state events) later := by
  simp [offer]

theorem offer_listing (sink : Sink σ) (listed events : List Event) (state : σ) :
    offer sink.listing (listed, state) events = (listed ++ events, offer sink state events) := by
  induction events generalizing listed state with
  | nil => simp [offer]
  | cons event events induction =>
      have first : (sink.listing.record (listed, state) event).1 =
          (listed ++ [event], (sink.record state event).1) := rfl
      rw [offer, List.foldl_cons, first]
      have rest := induction (listed ++ [event]) (sink.record state event).1
      rw [offer] at rest
      rw [rest, List.append_assoc]
      rfl

theorem send_listing (client : Remote.Client γ) (listed requests : List Remote.Request) (state : γ) :
    (send client.listing (listed, state) requests).1 = listed ++ requests := by
  induction requests generalizing listed state with
  | nil => simp [send]
  | cons request requests induction =>
      have first : (client.listing.send (listed, state) request).1 =
          (listed ++ [request], (client.send state request).1) := rfl
      rw [send, List.foldl_cons, first]
      have rest := induction (listed ++ [request]) (client.send state request).1
      rw [send] at rest
      rw [rest, List.append_assoc]
      rfl

theorem sentOf_append (outlets : Outlets σ γ) (first second : Emission) :
    sentOf outlets (first.append second) = sentOf outlets first ++ sentOf outlets second := by
  unfold sentOf Emission.append
  split <;> rfl

theorem sink_settle (outlets : Outlets σ γ) (run : Run σ γ) :
    (run.settle outlets).sink = run.sink :=
  (Delivery.foldl_transmit outlets run.pending run.toDelivery).1

theorem client_settle (outlets : Outlets σ γ) (run : Run σ γ) :
    (run.settle outlets).client = send outlets.client run.client run.pending :=
  (Delivery.foldl_transmit outlets run.pending run.toDelivery).2

variable {outlets : Outlets σ γ} {run final : Run σ γ} {steps : List Step}

theorem Reaches.replay (reaches : Reaches outlets settings run steps final) :
    final.replay = (run.replay.applyAll settings steps).1 := by
  induction reaches with
  | done run => rfl
  | step leads rest induction =>
      have stepped := leads.agrees.1
      rw [Delivery.run_applying] at stepped
      rw [induction, stepped]
      rfl
  | send pending rest induction => exact induction

theorem Reaches.sink (reaches : Reaches outlets settings run steps final) :
    final.sink = offer outlets.sink run.sink (run.replay.applyAll settings steps).2.events := by
  induction reaches with
  | done run => rfl
  | step leads rest induction =>
      obtain ⟨stepped, offered⟩ := leads.agrees
      rw [Delivery.run_applying] at stepped offered
      rw [Delivery.sink_deliver] at offered
      rw [induction, stepped, offered]
      exact (offer_append outlets.sink _ _ _).symm
  | send pending rest induction => exact induction

/-- What the client was handed and what is pending are the requests of the replay. -/
theorem Reaches.requests {outlets : Outlets σ γ}
    {run final : Run (List Event × σ) (List Remote.Request × γ)}
    (reaches : Reaches outlets.listing settings run steps final) :
    (final.client.1 ++ final.pending).Perm (run.client.1 ++ run.pending ++
      sentOf outlets.listing (run.replay.applyAll settings steps).2) := by
  induction reaches with
  | done run => simp [Replay.applyAll, sentOf, Emission.nothing]
  | @step run final step steps replay delivery leads rest induction =>
      have stepped := leads.agrees.1
      have handed := leads.handed
      rw [Delivery.run_applying] at stepped handed
      rw [Delivery.client_deliver, Delivery.pending_deliver, ← List.append_assoc] at handed
      have all : (run.replay.applyAll settings (step :: steps)).2 =
          (run.replay.apply settings step).2.append (replay.applyAll settings steps).2 := by
        rw [stepped]
        rfl
      rw [all, sentOf_append, ← List.append_assoc]
      exact induction.trans (handed.append_right _)
  | @send run final steps request isPending rest induction =>
      have client : (run.transmit outlets.listing request).client.1 = run.client.1 ++ [request] :=
        rfl
      -- A request that is sent moves from the pending ones to those handed over.
      have moved : (run.client.1 ++ [request] ++ run.pending.erase request).Perm
          (run.client.1 ++ run.pending) := by
        rw [List.append_assoc]
        exact (List.perm_cons_erase isPending).symm.append_left _
      rw [client] at induction
      exact induction.trans (moved.append_right _)

/-- Once everything is sent, the client was handed the requests of the replay. -/
theorem Reaches.settled {outlets : Outlets σ γ} {clock : Instant} {sink : σ} {client : γ}
    {final : Run (List Event × σ) (List Remote.Request × γ)}
    (reaches : Reaches outlets.listing settings (.start clock ([], sink) ([], client)) steps final) :
    (final.settle outlets.listing).client.1.Perm
      (sentOf outlets.listing ((Replay.start clock).applyAll settings steps).2) := by
  rw [client_settle]
  refine .trans (.of_eq ?_) reaches.requests
  exact send_listing outlets.client final.client.1 final.pending final.client.2

/-- Steps that nothing is sent between leave all requests pending, in order. -/
theorem pending_applyAll (outlets : Outlets σ γ) (settings : Settings) (steps : List Step)
    (run : Run σ γ) :
    (run.applyAll outlets settings steps).client = run.client ∧
      (run.applyAll outlets settings steps).pending =
        run.pending ++ sentOf outlets (run.replay.applyAll settings steps).2 := by
  induction steps generalizing run with
  | nil => simp [applyAll, Replay.applyAll, sentOf, Emission.nothing]
  | cons step steps induction =>
      obtain ⟨client, pending⟩ := induction (run.apply outlets settings step)
      have all : (run.replay.applyAll settings (step :: steps)).2 =
          (run.replay.apply settings step).2.append
            ((run.replay.apply settings step).1.applyAll settings steps).2 := rfl
      have stepped : (run.apply outlets settings step).replay =
          (run.replay.apply settings step).1 := by rw [apply_eq_deliver]; rfl
      have sameClient : (run.apply outlets settings step).client = run.client := by
        rw [apply_eq_deliver]
        exact Delivery.client_deliver outlets _ run.toDelivery
      refine ⟨client.trans sameClient, pending.trans ?_⟩
      rw [all, sentOf_append, ← List.append_assoc, pending_apply, stepped]

theorem settle_applyAll (outlets : Outlets σ γ) (steps : List Step) (clock : Instant) (sink : σ)
    (client : γ) :
    (((start clock ([], sink) ([], client)).applyAll outlets.listing settings steps).settle
        outlets.listing).client.1 =
      sentOf outlets.listing ((Replay.start clock).applyAll settings steps).2 := by
  obtain ⟨handed, pending⟩ := pending_applyAll outlets.listing settings steps
    (start clock ([], sink) ([], client))
  rw [client_settle, handed, pending]
  exact send_listing outlets.client [] _ client

/-- What a valid script leaves, if its requests are sent at its end. -/
theorem settle_runScript (outlets : Outlets σ γ) (settings : Settings) {script : String}
    (parsed : parse script = .ok steps) (clock : Instant) (sink : σ) (client : γ) :
    let final := ((start clock ([], sink) ([], client)).runScript outlets.listing settings
      script).1.settle outlets.listing
    let replayed := (Replay.start clock).applyAll settings steps
    final.replay = replayed.1 ∧ final.sink.1 = replayed.2.events ∧
      final.client.1 = sentOf outlets.listing replayed.2 := by
  intro final replayed
  have run : final = ((start clock ([], sink) ([], client)).applyAll outlets.listing settings
      steps).settle outlets.listing := by
    simp only [final, runScript, parsed]
  have reaches := reaches_applyAll outlets.listing settings steps
    (start clock ([], sink) ([], client))
  rw [run]
  refine ⟨reaches.replay, ?_, settle_applyAll outlets steps clock sink client⟩
  rw [sink_settle]
  exact (congrArg Prod.fst reaches.sink).trans
    (congrArg Prod.fst (offer_listing outlets.sink [] _ sink))

end Run
end Script

open Script

theorem Command.replay_eq_of_client {σ γ : Type} (sink : Sink σ) (client other : Remote.Client γ)
    (settings : Settings) (script : Option String) (run : Run σ γ) :
    let first := Command.replay ⟨sink, client, true⟩ settings script run
    let second := Command.replay ⟨sink, other, true⟩ settings script run
    first.2 = second.2 ∧ first.1.replay = second.1.replay ∧ first.1.sink = second.1.sink := by
  cases script with
  | none => exact ⟨rfl, rfl, rfl⟩
  | some script =>
      cases parsed : parse script with
      | error fault => simp [Command.replay, Run.runScript, parsed]
      | ok steps =>
          have first := Run.reaches_applyAll ⟨sink, client, true⟩ settings steps run
          have second := Run.reaches_applyAll ⟨sink, other, true⟩ settings steps run
          have replay := first.replay.trans second.replay.symm
          have offered := first.sink.trans second.sink.symm
          have settled {τ δ : Type} (outlets : Outlets τ δ) (run : Run τ δ) :
              (run.settle outlets).replay = run.replay := rfl
          simp [Command.replay, Run.runScript, parsed, settled, Run.sink_settle, replay, offered]

/-- Two replays of the same steps under any outlets, with their requests sent at any times, agree
in their state, in the events offered and, where requests can be sent, in the requests handed over
once all are sent; these come in the same order if each replay sends at its end.  So a dry run
leaves the same report and the same sink as a run that sends. -/
theorem outlets_have_no_influence {σ τ γ δ : Type} (settings : Settings) (clock : Instant)
    (steps : List Step) (first : Outlets σ γ) (second : Outlets τ δ) (firstSink : σ)
    (secondSink : τ) (firstClient : γ) (secondClient : δ) :
    let firstStart := Run.start clock ([], firstSink) ([], firstClient)
    let secondStart := Run.start clock ([], secondSink) ([], secondClient)
    (∀ firstFinal secondFinal,
      Run.Reaches first.listing settings firstStart steps firstFinal →
      Run.Reaches second.listing settings secondStart steps secondFinal →
      firstFinal.replay = secondFinal.replay ∧
      firstFinal.sink.1 = secondFinal.sink.1 ∧
      (first.background = true → second.background = true →
        (firstFinal.settle first.listing).client.1.Perm
          (secondFinal.settle second.listing).client.1)) ∧
    (first.background = true → second.background = true →
      ((firstStart.applyAll first.listing settings steps).settle first.listing).client.1 =
        ((secondStart.applyAll second.listing settings steps).settle second.listing).client.1) ∧
    ∀ (configuration : Configuration) (script : Option String),
      let replayed (dryRun : Bool) :=
        Command.replay ⟨first.sink, Command.clientOf configuration dryRun first.client, true⟩
          configuration.settings script (.start clock firstSink firstClient)
      (replayed true).2 = (replayed false).2 ∧
      (replayed true).1.replay.report = (replayed false).1.replay.report ∧
      (replayed true).1.sink = (replayed false).1.sink := by
  intro firstStart secondStart
  have sameSent (both : first.background = true ∧ second.background = true)
      (emission : Emission) :
      Run.sentOf first.listing emission = Run.sentOf second.listing emission := by
    simp [Run.sentOf, Outlets.listing, both.1, both.2]
  refine ⟨?_, ?_, ?_⟩
  · intro firstFinal secondFinal firstReaches secondReaches
    refine ⟨firstReaches.replay.trans secondReaches.replay.symm, ?_, ?_⟩
    · rw [firstReaches.sink, secondReaches.sink]
      exact (congrArg Prod.fst (Run.offer_listing first.sink [] _ firstSink)).trans
        (congrArg Prod.fst (Run.offer_listing second.sink [] _ secondSink)).symm
    · intro firstBackground secondBackground
      refine firstReaches.settled.trans ?_
      rw [sameSent ⟨firstBackground, secondBackground⟩]
      exact secondReaches.settled.symm
  · intro firstBackground secondBackground
    rw [Run.settle_applyAll, Run.settle_applyAll, sameSent ⟨firstBackground, secondBackground⟩]
  · intro configuration script replayed
    obtain ⟨outcome, replay, sink⟩ := Command.replay_eq_of_client first.sink
      (Command.clientOf configuration true first.client)
      (Command.clientOf configuration false first.client) configuration.settings script
      (.start clock firstSink firstClient)
    exact ⟨outcome, congrArg Replay.report replay, sink⟩

/-- A sink that refuses all, and a request that is sent and refused in the middle of a step, are
noted and leave no other trace in a replay: beside a store and a client that accepts all, the same
happens. -/
theorem refusals_leave_no_trace :
    let scan := Step.codeScan ⟨"go", "1"⟩
    let empty := Step.emptyList ⟨"r", "s", 0, none⟩
    let settings : Settings := ⟨"Control", true, .ofSeconds 120⟩
    let refusing : Outlets Unit (List Remote.Request) :=
      ⟨.refusing, .recording (some ⟨none, "unreachable"⟩), true⟩
    let storing : Outlets (StampedStore MemoryStore) Unit :=
      ⟨Sink.ofStore fun _ => ⟨"e", ⟨0⟩, ⟨0⟩⟩, .silent, true⟩
    let sent := Remote.Request.scan ⟨"go", "1", ⟨0⟩⟩
    let scanned := (Run.start ⟨0⟩ ([], ()) ([], [])).apply refusing.listing settings scan
    let refused := (Run.mk (scanned.transmit refusing.listing sent) scanned.replay).apply
      refusing.listing settings empty
    let stored := (Run.start ⟨0⟩ ([], ⟨.empty, 0⟩) ([], ())).applyAll storing.listing settings
      [scan, empty]
    refused.client.2 = [sent] ∧ stored.sink.2.offered = 1 ∧
      refused.refused.map Prod.snd = [.file .notFound] ∧
      refused.failed = [(sent, ⟨none, "unreachable"⟩)] ∧ stored.refused = [] ∧
      refused.replay = stored.replay ∧ refused.sink.1 = stored.sink.1 ∧
      (refused.settle refusing.listing).client.1.Perm (stored.settle storing.listing).client.1 := by
  intro scan empty settings refusing storing sent scanned refused stored
  obtain ⟨agree, -⟩ := outlets_have_no_influence settings ⟨0⟩ [scan, empty] refusing storing ()
    ⟨.empty, 0⟩ [] ()
  have scannedRun : scanned = Run.deliver refusing.listing ⟨[], [sent]⟩
      ⟨(Run.start ⟨0⟩ ([], ()) ([], [])).toDelivery,
        ((Replay.start ⟨0⟩).apply settings scan).1⟩ :=
    Run.apply_eq_deliver _ _ _ _
  have refusedRun := Run.apply_eq_deliver refusing.listing settings empty
    ⟨scanned.transmit refusing.listing sent, scanned.replay⟩
  -- The request is sent before the work of its step is done.
  have scanning : Delivery.Leads refusing.listing ((Replay.start ⟨0⟩).applying settings scan)
      (Run.start ⟨0⟩ ([], ()) ([], [])).toDelivery scanned.replay
      (scanned.transmit refusing.listing sent) := by
    rw [scannedRun]
    exact .send (.transmit List.mem_cons_self (.done _ _))
  have refusedReached : Run.Reaches refusing.listing settings (.start ⟨0⟩ ([], ()) ([], []))
      [scan, empty] refused :=
    .step scanning (.step (Delivery.run_leads _ _ _) (.done refused))
  have storedReached := Run.reaches_applyAll storing.listing settings [scan, empty]
    (.start ⟨0⟩ ([], ⟨.empty, 0⟩) ([], ()))
  obtain ⟨replay, offered, handed⟩ := agree refused stored refusedReached storedReached
  refine ⟨?_, by decide +kernel, ?_, ?_, by decide +kernel, replay, offered, handed rfl rfl⟩
  all_goals
    simp only [refused, refusedRun, scannedRun]
    rfl

end TriggerLedger
