import Mathlib.Data.List.Basic
import TriggerLedger.Script.Delivery
/-!
# Work and its outcome

An operation that works through outlets comes to the session of its outcome and delivers the
events and requests of its outcome, whatever it is told of them on its way.  When pending
requests are sent makes no difference to any work.
-/

namespace TriggerLedger.Script

namespace Delivery

variable {σ γ α β : Type} {outlets : Outlets σ γ} {delivery final : Delivery σ γ}

theorem run_pure (result : α) : delivery.run outlets (pure result) = (result, delivery) := by
  change delivery.run outlets (.done result) = _
  rw [run]

theorem run_bind (work : Work α) (rest : α → Work β) :
    delivery.run outlets (work >>= rest) =
      (delivery.run outlets work).2.run outlets (rest (delivery.run outlets work).1) := by
  change delivery.run outlets (work.bind rest) = _
  induction work generalizing delivery with
  | done result => rw [Work.bind, run]
  | offer event next induction => simp only [Work.bind, run, induction]
  | warn event fault next induction => simp only [Work.bind, run, induction]
  | send request next induction => simp only [Work.bind, run, induction]

/-- Work that keeps an event goes on in the same way whether or not it is refused. -/
theorem run_keep (event : Event) :
    delivery.run outlets (Work.keep event) = ((), delivery.offer outlets event) := by
  unfold Work.keep offer
  rw [run]
  rcases outlets.sink.record delivery.sink event with ⟨sink, fault | accepted⟩
  · simp only [run, noted]
  · simp [run, noted]

theorem run_forM_keep {ι : Type} (event : ι → Event) (items : List ι) :
    delivery.run outlets (items.forM fun item => Work.keep (event item)) =
      ((), (items.map event).foldl (offer outlets) delivery) := by
  induction items generalizing delivery with
  | nil => exact run_pure ()
  | cons item items induction =>
      change delivery.run outlets (Work.keep (event item) >>= fun _ =>
        items.forM fun item => Work.keep (event item)) = _
      rw [run_bind, run_keep, induction]
      rfl

theorem run_start (request : Remote.Request) :
    delivery.run outlets (Work.start request) =
      (outlets.background, delivery.start outlets request) := by
  simp only [Work.start, run]

section Operations

variable (settings : Settings) (now : Instant) (session : Session)

theorem run_recordInvocation (report : InvocationReport) :
    let outcome := session.recordInvocation settings report
    delivery.run outlets (Work.recordInvocation settings report session) =
      (outcome.session, delivery.deliver outlets ⟨outcome.events, outcome.requests⟩) := by
  unfold Work.recordInvocation
  rw [run_bind, run_keep, run_pure]
  rfl

theorem run_close (sessionId acceptedContent : String) :
    let outcome := session.close settings now sessionId acceptedContent
    delivery.run outlets (Work.close settings now sessionId acceptedContent session) =
      ((outcome.session, outcome.rollup.map (·, outlets.background)),
        delivery.deliver outlets ⟨outcome.events, outcome.requests⟩) := by
  unfold Work.close Session.close
  cases session.decisions with
  | nil => exact run_pure _
  | cons first others =>
      dsimp only
      rw [run_bind, run_keep, run_bind, run_start, run_pure]
      rfl

theorem run_recordDecisions (batch : DecisionBatch) :
    let outcome := session.recordDecisions settings now batch
    delivery.run outlets (Work.recordDecisions settings now batch session) =
      ((outcome.session, outcome.rollup.map (·, outlets.background)),
        delivery.deliver outlets ⟨outcome.events, outcome.requests⟩) := by
  unfold Work.recordDecisions Session.recordDecisions
  rw [run_bind, run_forM_keep]
  dsimp only
  split
  · rw [run_close]
    simp only [deliver, List.foldl_append]
  · exact run_pure _

theorem run_recordLatency (language : Option String) :
    delivery.run outlets (Work.recordLatency settings language session) =
      (session.latencyRecord? settings language,
        delivery.deliver outlets
          ⟨(session.latencyRecord? settings language).toList.map .latency, []⟩) := by
  unfold Work.recordLatency
  cases session.latencyRecord? settings language with
  | none => exact run_pure none
  | some latency =>
      dsimp only
      rw [run_bind, run_keep, run_pure]
      rfl

end Operations

theorem takeOver_eq_onOutcome (replay : Replay) (outcome : Outcome) (sent : Bool) :
    replay.takeOver (outcome.session, outcome.rollup.map (·, sent)) =
      (replay.onOutcome outcome).1 := by
  simp [Replay.takeOver, Replay.onOutcome, Function.comp_def]

/-- The work of a step comes to what the step does to the replay by itself, and delivers what the
step hands out. -/
theorem run_performing (settings : Settings) (step : Step) (replay : Replay) :
    delivery.run outlets (replay.performing settings step) =
      ((replay.perform settings step).1,
        delivery.deliver outlets (replay.perform settings step).2) := by
  unfold Replay.performing
  cases step with
  | invocation report =>
      dsimp only
      rw [run_bind, run_recordInvocation, run_pure]
      simp [Replay.perform, Replay.onOutcome, Session.recordInvocation]
  | decisions batch =>
      dsimp only
      rw [run_bind, run_recordDecisions, run_pure, takeOver_eq_onOutcome]
      rfl
  | rollup closing =>
      dsimp only
      rw [run_bind, run_close, run_pure, takeOver_eq_onOutcome]
      rfl
  | emptyList list =>
      dsimp only
      rw [run_bind, Work.recordEmptyList, run_keep, run_pure]
      rfl
  | clientLatency language =>
      dsimp only
      rw [run_bind, run_recordLatency]
      simp only [Replay.perform]
      cases replay.session.latencyRecord? settings language <;> exact run_pure _
  | codeScan scan =>
      dsimp only
      rw [run_bind, Work.reportScan, run_start, run_pure]
      rfl
  | _ => exact run_pure _

theorem run_applying (settings : Settings) (step : Step) (replay : Replay) :
    delivery.run outlets (replay.applying settings step) =
      ((replay.apply settings step).1,
        delivery.deliver outlets (replay.apply settings step).2) := by
  unfold Replay.applying
  rw [run_bind, run_performing, run_pure]
  rfl

/-- Work neither sees nor changes the client and what is pending, apart from more that it lets
wait. -/
theorem run_frame (outlets : Outlets σ γ) (work : Work α) (sink : σ)
    (refused : List (Event × StoreFault)) :
    ∃ result last more warned, ∀ client pending failed,
      run outlets work ⟨sink, client, pending, refused, failed⟩ =
        (result, ⟨last, client, pending ++ more, warned, failed⟩) := by
  induction work generalizing sink refused with
  | done result => exact ⟨result, sink, [], refused, by simp [run]⟩
  | offer event next induction =>
      obtain ⟨result, last, more, warned, runs⟩ := induction (outlets.sink.record sink event).2
        (outlets.sink.record sink event).1 refused
      exact ⟨result, last, more, warned, fun client pending failed => by rw [run]; exact runs ..⟩
  | warn event fault next induction =>
      obtain ⟨result, last, more, warned, runs⟩ := induction sink (refused ++ [(event, fault)])
      exact ⟨result, last, more, warned, fun client pending failed => by rw [run]; exact runs ..⟩
  | send request next induction =>
      obtain ⟨result, last, more, warned, runs⟩ := induction outlets.background sink refused
      by_cases background : outlets.background = true
      · refine ⟨result, last, request :: more, warned, fun client pending failed => ?_⟩
        rw [run, start, if_pos background, runs, List.append_assoc]
        rfl
      · refine ⟨result, last, more, warned, fun client pending failed => ?_⟩
        rw [run, start, if_neg background, runs]

/-- Sending requests that come first neither sees nor changes the sink and the requests after
them. -/
theorem transmit_frame (outlets : Outlets σ γ) (requests : List Remote.Request) (client : γ)
    (failed : List (Remote.Request × Remote.ClientFault)) :
    ∃ last unsent, ∀ sink rest refused,
      requests.foldl (transmit outlets) ⟨sink, client, requests ++ rest, refused, failed⟩ =
        ⟨sink, last, rest, refused, unsent⟩ := by
  induction requests generalizing client failed with
  | nil => exact ⟨client, failed, fun sink rest refused => rfl⟩
  | cons request requests induction =>
      obtain ⟨last, unsent, sends⟩ := induction (outlets.client.send client request).1
        (failed ++ noted request (outlets.client.send client request).2)
      refine ⟨last, unsent, fun sink rest refused => ?_⟩
      rw [List.foldl_cons, transmit, List.cons_append, List.erase_cons_head]
      exact sends sink rest refused

/-- Work that was begun before a request was sent comes to the same as work begun after it. -/
theorem run_transmit (outlets : Outlets σ γ) (work : Work α) (delivery : Delivery σ γ)
    (request : Remote.Request) :
    ((delivery.transmit outlets request).run outlets work).1 = (delivery.run outlets work).1 ∧
      ((delivery.transmit outlets request).run outlets work).2.sink =
        (delivery.run outlets work).2.sink := by
  obtain ⟨sink, client, pending, refused, failed⟩ := delivery
  obtain ⟨result, last, more, warned, runs⟩ := run_frame outlets work sink refused
  constructor <;> simp only [transmit, runs]

theorem run_leads (outlets : Outlets σ γ) (work : Work α) (delivery : Delivery σ γ) :
    Leads outlets work delivery (delivery.run outlets work).1 (delivery.run outlets work).2 := by
  induction work generalizing delivery with
  | done result =>
      rw [run]
      exact .done result delivery
  | offer event next induction =>
      rw [run]
      exact .offer (induction _ _)
  | warn event fault next induction =>
      rw [run]
      exact .warn (induction _)
  | send request next induction =>
      rw [run]
      exact .send (induction _ _)

/-- What is sent in the meantime makes no difference to the result and to the sink. -/
theorem Leads.agrees {work : Work α} {result : α}
    (leads : Leads outlets work delivery result final) :
    result = (delivery.run outlets work).1 ∧ final.sink = (delivery.run outlets work).2.sink := by
  induction leads with
  | done result delivery => rw [run]; exact ⟨rfl, rfl⟩
  | offer rest induction => rw [run]; exact induction
  | warn rest induction => rw [run]; exact induction
  | send rest induction => rw [run]; exact induction
  | transmit pending rest induction =>
      obtain ⟨sameResult, sameSink⟩ := run_transmit outlets _ _ _
      rw [sameResult, sameSink] at induction
      exact induction

end Delivery
end TriggerLedger.Script
