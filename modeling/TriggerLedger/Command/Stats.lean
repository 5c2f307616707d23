import TriggerLedger.Command.Listing
import TriggerLedger.Command.LookBack
/-!
# Acceptance by trigger

Closed sessions are counted by trigger and verdict.  The acceptance rate is the
share of accepted sessions among those that were accepted or rejected.
-/

namespace TriggerLedger.Command

/-- The numbers of closed sessions by verdict. -/
structure Tally where
  accept : Nat
  reject : Nat
  discard : Nat
  empty : Nat
  deriving DecidableEq

namespace Tally

def zero : Tally := ⟨0, 0, 0, 0⟩

/-- Count one session. -/
def count (tally : Tally) : Verdict → Tally
  | .accept => { tally with accept := tally.accept + 1 }
  | .reject => { tally with reject := tally.reject + 1 }
  | .discard => { tally with discard := tally.discard + 1 }
  | .empty => { tally with empty := tally.empty + 1 }

/-- The number of all sessions. -/
def total (tally : Tally) : Nat := tally.accept + tally.reject + tally.discard + tally.empty

/-- The share of accepted sessions in percent; zero when the user judged none. -/
def acceptanceRate (tally : Tally) : Binary64 :=
  let judged := tally.accept + tally.reject
  if judged = 0 then .zero false
  else
    let rate := do
      let accept ← Binary64.ofInt? tally.accept
      let judged ← Binary64.ofInt? judged
      let share ← accept.div? judged
      share.mul? (← Binary64.ofInt? 100)
    rate.getD (.zero false)

end Tally

/-- A non-negative value rounded to one decimal place, a tie going to the even digit. -/
def tenths (value : Binary64) : String :=
  let scaled := roundHalfEven (value.units * 10) Binary64.one
  s!"{scaled / 10}.{scaled % 10}"

/-- Count the closed sessions with a trigger. -/
def tallyFor (trigger : TriggerKind) (rollups : List TriggerRecord) : Tally :=
  (rollups.filter fun record => record.trigger == trigger).foldl
    (fun tally record => tally.count record.verdict) .zero

/-- The triggers that have any closed session, by label, with their counts. -/
def tallies (rollups : List TriggerRecord) : List (TriggerKind × Tally) :=
  [TriggerKind.automatic, .onDemand].filterMap fun trigger =>
    if rollups.any (fun record => record.trigger == trigger) then
      some (trigger, tallyFor trigger rollups)
    else none

/-- The columns of the table. -/
def statsRow (trigger : String) (counts : List String) (rate : String) : String :=
  Text.padRight 12 trigger ++
    String.join (counts.map fun count => " " ++ Text.padLeft 8 count) ++ " " ++ rate

/-- The row of a trigger. -/
def tallyRow (trigger : TriggerKind) (tally : Tally) : String :=
  statsRow trigger.label
    ([tally.total, tally.accept, tally.reject, tally.discard, tally.empty].map toString)
    (Text.padLeft 13 (tenths tally.acceptanceRate) ++ "%")

/-- The most logs that a command looks at. -/
def scanLimit : Nat := 10000

/-- What was found when looking back: the number of logs and the closed sessions in them. -/
structure Survey where
  sessions : Nat
  rollups : List TriggerRecord

/-- The closed sessions in the log of a summary; a log that cannot be read has none. -/
def rollupsOf {σ : Type} [Store σ] (store : σ) (summary : LogSummary) : List TriggerRecord :=
  match Store.get store summary.sessionId with
  | .ok (some log) => log.rollups
  | _ => []

/-- Look at the logs that were created at or after the cutoff. -/
def survey {σ : Type} [Store σ] (cutoff : Instant) (store : σ) : Except Failure Survey :=
  match Store.list store scanLimit with
  | .error fault => .error (.ofStore fault)
  | .ok summaries =>
    let recent := summaries.filter fun summary => decide (cutoff ≤ summary.createdAt)
    .ok ⟨recent.length, recent.flatMap (rollupsOf store)⟩

/-- The text of a survey. -/
def surveyText (days : Nat) (survey : Survey) : String :=
  let closing := line "" ++ line s!"Sessions analyzed: {survey.sessions}"
  match tallies survey.rollups with
  | [] => line s!"No trigger decisions recorded in the last {days} days." ++ closing
  | rows =>
    line s!"Trigger Decisions (last {days} days):" ++ line (rule 72) ++
      line (statsRow "Trigger" ["Total", "Accept", "Reject", "Discard", "Empty"]
        (Text.padLeft 14 "Accept Rate")) ++
      line (rule 72) ++
      String.join (rows.map fun (trigger, tally) => line (tallyRow trigger tally)) ++
      line (rule 72) ++ closing

/-- Count the closed sessions of the last days. -/
def stats {σ : Type} [Store σ] (now : Instant) (days : Nat) (store : σ) :
    Except Failure String := do
  let span ← daysSpan days
  let cutoff ← cutoffBefore now span
  let survey ← survey cutoff store
  return surveyText days survey

end TriggerLedger.Command
