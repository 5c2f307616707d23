import TriggerLedger.Proofs.Replay.Rollups
import TriggerLedger.Settings.Configuration
/-!
# What a session knows of the one before

The outcome that a session remembers is that of the last rollup handed out, with
the time at which it was.  So every rollup tells of the one before it, and the
answers about the session before tell of the latest rollup while it is fresh.
-/

namespace TriggerLedger

/-- A span of seconds is cut to the longest span. -/
theorem Span.ofSeconds_nanoseconds (seconds : Nat) :
    (Span.ofSeconds seconds).nanoseconds =
      min (seconds * Instant.nanosPerSecond) Span.longest.nanoseconds := by
  have positive : 0 ≤ maxMillis := by decide
  simp only [ofSeconds, ofUnits?, longest, ofMillis, nanosPerMilli, Instant.nanosPerSecond]
  split
  case isTrue short =>
    simp only [Option.getD_some]
    omega
  case isFalse long =>
    simp only [Option.getD_none]
    omega

namespace Script

/-- The record of a closed session with the time at which it was handed out. -/
structure TimedRollup where
  time : Instant
  record : TriggerRecord

/-- A rollup tells of the one before it, if there was one. -/
structure TimedRollup.Follows (before : Option TimedRollup) (rollup : TimedRollup) : Prop where
  verdict : rollup.record.previousVerdict = before.map (·.record.verdict)
  time : rollup.record.sinceLastDecision = before.map fun earlier =>
    rollup.time.millisSince earlier.time

/-- The outcome that is remembered of the last rollup. -/
def TimedRollup.remembered (last : Option TimedRollup) : PriorOutcome :=
  ⟨last.map (·.record.verdict), last.map (·.time)⟩

namespace Replay

def rollupsOf (settings : Settings) (step : Step) (replay : Replay) : List TimedRollup :=
  (replay.moment settings step).rollups.map (⟨replay.clock, ·⟩)

def timedRollups (settings : Settings) : List Step → Replay → List TimedRollup
  | [], _ => []
  | step :: steps, replay =>
    replay.rollupsOf settings step ++ timedRollups settings steps (replay.next settings step)

variable {settings : Settings}

theorem timedRollups_concat (steps : List Step) (step : Step) (replay : Replay) :
    replay.timedRollups settings (steps ++ [step]) =
      replay.timedRollups settings steps ++ (replay.run settings steps).rollupsOf settings step := by
  induction steps generalizing replay with
  | nil => simp [timedRollups, run, applyAll]
  | cons first steps induction =>
      rw [List.cons_append, timedRollups, timedRollups, induction, List.append_assoc]
      rfl

theorem map_record_timedRollups (clock : Instant) (steps : List Step) :
    ((start clock).timedRollups settings steps).map (·.record) =
      ((start clock).run settings steps).report.rollups := by
  induction steps using List.reverseRecOn with
  | nil => rfl
  | append_singleton steps step induction =>
      rw [timedRollups_concat, run_concat, next_rollups, List.map_append, induction]
      simp [rollupsOf, Function.comp_def]

/-- A step that closes no session leaves the remembered outcome alone. -/
theorem gathered_prior (settings : Settings) (step : Step) (replay : Replay) :
    (replay.gathered settings step).prior = replay.session.prior := by
  cases step with
  | firstRecommendation => rw [gathered_firstRecommendation]
  | clientLatency language =>
      exact congrArg Session.prior (gathered_clientLatency settings language replay)
  | _ => rfl

theorem prior_of_rollup? {step : Step} {replay : Replay} {record : TriggerRecord}
    (found : replay.rollup? settings step = some record) :
    record.previousVerdict = replay.session.prior.verdict ∧
      record.sinceLastDecision = replay.session.prior.decidedAt.map replay.clock.millisSince := by
  obtain ⟨first, -, rfl⟩ := Option.map_eq_some_iff.mp (closingRecord?_of_rollup? found)
  rw [← gathered_prior settings step replay]
  exact ⟨rfl, rfl⟩

theorem rollupsOf_eq (step : Step) (replay : Replay) :
    replay.rollupsOf settings step =
      ((replay.rollup? settings step).map (TimedRollup.mk replay.clock)).toList := by
  rw [rollupsOf, moment_rollups]
  cases replay.rollup? settings step <;> rfl

/-- A session remembers the last rollup handed out. -/
theorem prior_run (clock : Instant) (steps : List Step) :
    ((start clock).run settings steps).session.prior =
      TimedRollup.remembered ((start clock).timedRollups settings steps).getLast? := by
  induction steps using List.reverseRecOn with
  | nil => rfl
  | append_singleton steps step induction =>
      rw [run_concat, timedRollups_concat, rollupsOf_eq, next_session]
      cases found : ((start clock).run settings steps).rollup? settings step with
      | none =>
          rw [Option.map_none, Option.toList_none, List.append_nil, ← induction]
          exact gathered_prior settings step _
      | some record =>
          rw [Option.map_some, Option.toList_some, List.getLast?_concat]
          rfl

theorem follows_of_timedRollups (clock : Instant) (steps : List Step)
    {before after : List TimedRollup} {rollup : TimedRollup}
    (split : (start clock).timedRollups settings steps = before ++ rollup :: after) :
    rollup.Follows before.getLast? := by
  induction steps using List.reverseRecOn generalizing after with
  | nil => simp [timedRollups] at split
  | append_singleton steps step induction =>
      rw [timedRollups_concat, rollupsOf_eq] at split
      cases found : ((start clock).run settings steps).rollup? settings step with
      | none =>
          rw [found, Option.map_none, Option.toList_none, List.append_nil] at split
          exact induction split
      | some record =>
          rw [found, Option.map_some, Option.toList_some] at split
          -- The new rollup is the one asked about, or it comes after that one.
          cases after using List.reverseRecOn with
          | nil =>
              obtain ⟨earlier, new⟩ := List.append_inj' split rfl
              obtain rfl := List.singleton_inj.mp new
              obtain ⟨verdict, time⟩ := prior_of_rollup? found
              rw [prior_run, earlier] at verdict time
              refine ⟨verdict, time.trans ?_⟩
              simp [TimedRollup.remembered, Function.comp_def]
          | append_singleton after last =>
              rw [← List.cons_append, ← List.append_assoc] at split
              exact induction (List.append_inj' split rfl).1

theorem next_priorVerdicts (settings : Settings) (step : Step) (replay : Replay) :
    (replay.next settings step).report.priorVerdicts =
      replay.report.priorVerdicts ++
        if step = .priorDecision then [replay.session.priorVerdict? settings replay.clock] else [] := by
  cases step with
  | clientLatency language =>
      simp only [next, apply, perform, countStep]
      split <;> simp
  | _ => simp [next, apply, perform, onSession, onMarks, onOutcome, countStep]

theorem priorVerdicts_run (settings : Settings) (steps : List Step) (replay : Replay) :
    ∃ answers, answers.length = steps.count .priorDecision ∧
      (replay.run settings steps).report.priorVerdicts =
        replay.report.priorVerdicts ++ answers := by
  induction steps using List.reverseRecOn with
  | nil => exact ⟨[], rfl, by simp [run, applyAll]⟩
  | append_singleton steps step induction =>
      obtain ⟨answers, count, report⟩ := induction
      refine ⟨answers ++ if step = .priorDecision then
        [(replay.run settings steps).session.priorVerdict? settings
          (replay.run settings steps).clock] else [], ?_, ?_⟩
      · rw [List.length_append, count, List.count_append, List.count_singleton]
        by_cases asks : step = .priorDecision <;> simp [asks]
      · rw [run_concat, next_priorVerdicts, report, List.append_assoc]

/-- A question after some steps gets the answer of the session as they leave it, after the answers
to the questions among them. -/
theorem priorVerdicts_getElem? (settings : Settings) (clock : Instant) (before after : List Step) :
    ((start clock).run settings (before ++ .priorDecision :: after)).report.priorVerdicts[
        before.count .priorDecision]? =
      some (((start clock).run settings before).session.priorVerdict? settings
        ((start clock).run settings before).clock) := by
  obtain ⟨earlier, count, answered⟩ := priorVerdicts_run settings before (start clock)
  obtain ⟨later, -, rest⟩ := priorVerdicts_run settings after
    (((start clock).run settings before).next settings .priorDecision)
  have here := next_priorVerdicts settings .priorDecision ((start clock).run settings before)
  have split : (start clock).run settings (before ++ .priorDecision :: after) =
      (((start clock).run settings before).next settings .priorDecision).run settings after :=
    run_append before (.priorDecision :: after) (start clock)
  have none : (start clock).report.priorVerdicts = [] := rfl
  rw [split, rest, here, answered, if_pos rfl, none, List.nil_append, ← count]
  simp

theorem priorVerdict?_eq_some_iff {session : Session} {now : Instant} {verdict : Verdict}
    {last : Option TimedRollup} (remembered : session.prior = TimedRollup.remembered last) :
    session.priorVerdict? settings now = some verdict ↔
      ∃ rollup, last = some rollup ∧ rollup.record.verdict = verdict ∧
        (now.since rollup.time).nanoseconds ≤ settings.freshness.nanoseconds := by
  rw [Session.priorVerdict?, remembered]
  cases last with
  | none => simp [TimedRollup.remembered, PriorOutcome.fresh?]
  | some rollup => simp [TimedRollup.remembered, PriorOutcome.fresh?, and_comm]

end Replay

/-- The rollups of a replay each tell of the one before, the first one of none.  Each question about
the session before is answered by the verdict of the latest rollup so far, if there is one and it
was handed out no longer ago than the configured seconds, cut to the longest span; else by none. -/
theorem prior_outcomes_tell_last_rollup (configuration : Configuration) (clock : Instant)
    (steps : List Step) :
    let settings := configuration.settings
    let replay := Replay.start clock
    let rollups := replay.timedRollups settings steps
    let report := (replay.run settings steps).report
    rollups.map (·.record) = report.rollups ∧
    (∀ before rollup after, rollups = before ++ rollup :: after →
      rollup.Follows before.getLast?) ∧
    report.priorVerdicts.length = steps.count .priorDecision ∧
    ∀ before after, steps = before ++ .priorDecision :: after →
      ∃ answer, report.priorVerdicts[before.count .priorDecision]? = some answer ∧
        ∀ verdict, answer = some verdict ↔
          ∃ last, (replay.timedRollups settings before).getLast? = some last ∧
            last.record.verdict = verdict ∧
            ((replay.run settings before).clock.since last.time).nanoseconds ≤
              min (configuration.freshnessSeconds * Instant.nanosPerSecond)
                Span.longest.nanoseconds := by
  intro settings replay rollups report
  refine ⟨Replay.map_record_timedRollups clock steps, ?_, ?_, ?_⟩
  · intro before rollup after split
    exact Replay.follows_of_timedRollups clock steps split
  · obtain ⟨answers, count, answered⟩ := Replay.priorVerdicts_run settings steps replay
    have all : report.priorVerdicts = answers := answered
    rw [all, count]
  · rintro before after rfl
    have window : settings.freshness.nanoseconds =
        min (configuration.freshnessSeconds * Instant.nanosPerSecond) Span.longest.nanoseconds :=
      Span.ofSeconds_nanoseconds configuration.freshnessSeconds
    refine ⟨_, Replay.priorVerdicts_getElem? settings clock before after, ?_⟩
    intro verdict
    rw [Replay.priorVerdict?_eq_some_iff (Replay.prior_run clock before), window]

/-- With the window of two minutes, a verdict is told two minutes after its session was closed, and
no millisecond later. -/
theorem verdict_told_for_two_minutes :
    let report : InvocationReport :=
      ⟨"r", "s", none, .onDemand, none, .succeeded, none, none, "go", "", none⟩
    let batch : DecisionBatch := ⟨"r", "s", [⟨"x", [], []⟩], some 0, none, 0, .empty,
      some (ByIndex.empty.insert 0 .showed), none⟩
    let closed : List Step := [.invocation report, .decisions batch, .rollup ⟨"s", "x"⟩]
    let waited := closed ++ [.advance 120000]
    let steps := waited ++ [.priorDecision, .advance 1, .priorDecision]
    ((Replay.start ⟨0⟩).run (Configuration.default "home").settings steps).report.priorVerdicts =
      [some .accept, none] := by
  intro report batch closed waited steps
  obtain ⟨-, -, count, answers⟩ :=
    prior_outcomes_tell_last_rollup (Configuration.default "home") ⟨0⟩ steps
  have last (later : List Step) (still : later = [] ∨ later = [.priorDecision, .advance 1]) :
      ∃ rollup, ((Replay.start ⟨0⟩).timedRollups (Configuration.default "home").settings
        (waited ++ later)).getLast? = some rollup ∧
        rollup.record.verdict = .accept ∧ rollup.time = ⟨0⟩ := by
    rcases still with rfl | rfl
    · exact ⟨_, rfl, by decide +kernel, rfl⟩
    · exact ⟨_, rfl, by decide +kernel, rfl⟩
  obtain ⟨first, isFirst, tellsFirst⟩ := answers waited _ rfl
  obtain ⟨second, isSecond, tellsSecond⟩ := answers (waited ++ [.priorDecision, .advance 1]) _ rfl
  have told : first = some .accept := by
    obtain ⟨rollup, isLast, verdict, time⟩ := last [] (.inl rfl)
    refine (tellsFirst .accept).mpr ⟨rollup, isLast, verdict, ?_⟩
    rw [time]
    decide +kernel
  have forgotten : second = none := by
    refine Option.eq_none_iff_forall_ne_some.mpr fun verdict answered => ?_
    obtain ⟨rollup, isLast, -, fresh⟩ := (tellsSecond verdict).mp answered
    obtain ⟨known, knownLast, -, time⟩ := last [.priorDecision, .advance 1] (.inr rfl)
    obtain rfl := Option.some.inj (isLast.symm.trans knownLast)
    rw [time] at fresh
    revert fresh
    decide +kernel
  obtain ⟨one, two, both⟩ := List.length_eq_two.mp (count.trans (by decide +kernel))
  rw [both] at isFirst isSecond ⊢
  have isOne : some one = some first := isFirst
  have isTwo : some two = some second := isSecond
  rw [Option.some.inj isOne, Option.some.inj isTwo, told, forgotten]

end Script
end TriggerLedger
