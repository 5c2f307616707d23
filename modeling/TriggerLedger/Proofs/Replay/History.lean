import Mathlib.Data.List.Induction
import TriggerLedger.Script.Replay
/-!
# Histories of replays

A history lists the steps of a replay together with what each of them handed
out.  A moment at which a session record is handed out closes a segment of the
history, and what comes after the last closed segment is the current one.
-/

namespace TriggerLedger.Script

/-- One step of a replay with what it handed out. -/
structure Moment where
  step : Step
  emission : Emission

namespace Moment

/-- The records of closed sessions that were handed out. -/
def rollups (moment : Moment) : List TriggerRecord :=
  moment.emission.events.filterMap Event.trigger?

/-- The records of suggestions that were handed out. -/
def decisions (moment : Moment) : List DecisionRecord :=
  moment.emission.events.filterMap Event.decision?

/-- Whether a session was closed. -/
def closes (moment : Moment) : Bool :=
  !moment.rollups.isEmpty

theorem closes_eq_true_iff {moment : Moment} :
    moment.closes = true ↔ moment.rollups ≠ [] := by
  simp [closes]

theorem closes_eq_false_iff {moment : Moment} :
    moment.closes = false ↔ moment.rollups = [] := by
  simp [closes]

end Moment

namespace Replay

/-- The moment of a step. -/
def moment (settings : Settings) (step : Step) (replay : Replay) : Moment :=
  ⟨step, (replay.apply settings step).2⟩

/-- The replay after a step. -/
def next (settings : Settings) (step : Step) (replay : Replay) : Replay :=
  (replay.apply settings step).1

/-- The replay after some steps. -/
def run (settings : Settings) (steps : List Step) (replay : Replay) : Replay :=
  (replay.applyAll settings steps).1

/-- The moments of some steps. -/
def history (settings : Settings) : List Step → Replay → List Moment
  | [], _ => []
  | step :: steps, replay =>
    replay.moment settings step :: history settings steps (replay.next settings step)

variable {settings : Settings} {clock : Instant}

theorem run_cons (settings : Settings) (step : Step) (steps : List Step) (replay : Replay) :
    replay.run settings (step :: steps) = (replay.next settings step).run settings steps :=
  rfl

theorem applyAll_concat (steps : List Step) (step : Step) (replay : Replay) :
    replay.applyAll settings (steps ++ [step]) =
      ((replay.run settings steps).next settings step,
        (replay.applyAll settings steps).2.append
          ((replay.run settings steps).moment settings step).emission) := by
  induction steps generalizing replay with
  | nil => simp [run, applyAll, next, moment, Emission.append, Emission.nothing]
  | cons first steps induction =>
      simp only [List.cons_append, applyAll, induction, run]
      simp [Emission.append]

theorem run_concat (steps : List Step) (step : Step) (replay : Replay) :
    replay.run settings (steps ++ [step]) = (replay.run settings steps).next settings step := by
  rw [run, applyAll_concat]

theorem run_append (steps later : List Step) (replay : Replay) :
    replay.run settings (steps ++ later) = (replay.run settings steps).run settings later := by
  induction steps generalizing replay with
  | nil => rfl
  | cons step steps induction => exact induction (replay.next settings step)

theorem history_concat (steps : List Step) (step : Step) (replay : Replay) :
    replay.history settings (steps ++ [step]) =
      replay.history settings steps ++ [(replay.run settings steps).moment settings step] := by
  induction steps generalizing replay with
  | nil => rfl
  | cons first steps induction =>
      rw [List.cons_append, history, history, induction, List.cons_append]
      rfl

/-- What holds at the start and is kept by every step holds after every run. -/
theorem run_induction {motive : List Moment → Replay → Prop}
    (start : motive [] (.start clock))
    (step : ∀ history replay step, motive history replay →
      motive (history ++ [replay.moment settings step]) (replay.next settings step))
    (steps : List Step) :
    motive ((Replay.start clock).history settings steps)
      ((Replay.start clock).run settings steps) := by
  induction steps using List.reverseRecOn with
  | nil => exact start
  | append_singleton steps last induction =>
      rw [history_concat, run_concat]
      exact step _ _ last induction

end Replay

/-- A history cut after every moment that closes a session. -/
structure Segments where
  /-- The closed segments, in order. -/
  closed : List (List Moment)
  /-- What has happened since. -/
  current : List Moment

namespace Segments

/-- Append a moment. -/
def add (segments : Segments) (moment : Moment) : Segments :=
  if moment.closes then ⟨segments.closed ++ [segments.current ++ [moment]], []⟩
  else ⟨segments.closed, segments.current ++ [moment]⟩

/-- The segments of a history. -/
def ofHistory (history : List Moment) : Segments :=
  history.foldl add ⟨[], []⟩

theorem ofHistory_concat (history : List Moment) (moment : Moment) :
    ofHistory (history ++ [moment]) = (ofHistory history).add moment := by
  simp [ofHistory]

theorem closed_add {segments : Segments} {moment : Moment} (closes : moment.closes = true) :
    segments.add moment = ⟨segments.closed ++ [segments.current ++ [moment]], []⟩ := by
  simp [add, closes]

theorem current_add {segments : Segments} {moment : Moment} (closes : moment.closes = false) :
    segments.add moment = ⟨segments.closed, segments.current ++ [moment]⟩ := by
  simp [add, closes]

theorem flatten_closed_append_current (history : List Moment) :
    (ofHistory history).closed.flatten ++ (ofHistory history).current = history := by
  induction history using List.reverseRecOn with
  | nil => rfl
  | append_singleton history moment induction =>
      rw [ofHistory_concat]
      cases closes : moment.closes with
      | true =>
          rw [closed_add closes, List.flatten_concat, List.append_nil, ← List.append_assoc,
            induction]
      | false => rw [current_add closes, ← List.append_assoc, induction]

/-- Nothing is closed within the current segment. -/
theorem ofHistory_current (history : List Moment) :
    ofHistory (ofHistory history).current = ⟨[], (ofHistory history).current⟩ := by
  induction history using List.reverseRecOn with
  | nil => rfl
  | append_singleton history moment induction =>
      rw [ofHistory_concat]
      cases closes : moment.closes with
      | true => simp only [closed_add closes]; rfl
      | false => simp only [current_add closes, ofHistory_concat, induction]

end Segments

/-! ## Plain steps

Settings, steps and batches that say only what they have to. -/

section Plain

def plainSettings : Settings := ⟨"Control", true, .ofSeconds 120⟩

/-- The step that sets the number of requests a session waits for. -/
def expecting (count : Nat) : Step :=
  .context ⟨some count, none, none, none, none, none, none, none⟩

/-- The step of a request of which nothing is known but that it succeeded. -/
def plainRequest (requestId : String) : Step :=
  .invocation ⟨requestId, "s", none, .onDemand, none, .succeeded, none, none, "go", "", none⟩

/-- A batch of one suggestion, which was shown. -/
def plainBatch (requestId content : String) (accepted : Option Nat) : DecisionBatch :=
  ⟨requestId, "s", [⟨content, [], []⟩], accepted, none, 0, .empty, none, none⟩

end Plain

end TriggerLedger.Script
