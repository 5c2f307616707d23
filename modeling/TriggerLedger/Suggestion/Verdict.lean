import TriggerLedger.Event.Basic
/-!
# From decisions to verdicts

What became of a suggestion follows from its display and from the accepted
index; what became of several follows from the strongest of them: an accepted
one, then a rejected one, then anything that is not empty.
-/

namespace TriggerLedger

/-- What became of a suggestion, from the displays and the accepted index.  A display that
settles it counts first; otherwise only a suggestion that was shown can be decided. -/
def Disposition.ofReport (index : Nat) (accepted : Option Nat)
    (displays : Option (ByIndex Display)) : Disposition :=
  let decided : Disposition :=
    match accepted with
    | none => .reject
    | some chosen => if chosen = index then .accept else .ignore
  match displays with
  | none => decided
  | some displays =>
    match displays.get? index with
    | none => .unseen
    | some display =>
      match display.forced? with
      | some forced => forced
      | none => if display = .showed then decided else .unseen

/-- The shape at an index: a line unless another is known. -/
def Shape.atIndex (index : Nat) (shapes : ByIndex Shape) : Shape :=
  (shapes.get? index).getD .line

namespace Verdict

/-- What has been read of several dispositions. -/
structure Progress where
  accepted : Bool
  rejected : Bool
  /-- Whether all that was neither accepted nor rejected was empty. -/
  othersEmpty : Bool

namespace Progress

/-- Nothing has been read. -/
def start : Progress := ⟨false, false, true⟩

/-- Read one more disposition. -/
def read (progress : Progress) : Disposition → Progress
  | .accept => { progress with accepted := true }
  | .reject => { progress with rejected := true }
  | .empty => progress
  | .ignore | .unseen | .filter | .discard => { progress with othersEmpty := false }

/-- The verdict if there is nothing more to read. -/
def verdict (progress : Progress) : Verdict :=
  if progress.accepted then .accept
  else if progress.rejected then .reject
  else if progress.othersEmpty then .empty
  else .discard

/-- The verdict after reading up to the first accepted disposition. -/
def readUntilAccepted (progress : Progress) : List Disposition → Verdict
  | [] => progress.verdict
  | .accept :: _ => .accept
  | disposition :: dispositions => (progress.read disposition).readUntilAccepted dispositions

end Progress

/-- The verdict on several suggestions: none of them at all counts as empty. -/
def ofDispositions (dispositions : List Disposition) : Verdict :=
  Progress.start.readUntilAccepted dispositions

/-- The verdict on several verdicts. -/
def combine (verdicts : List Verdict) : Verdict :=
  .ofDispositions (verdicts.map toDisposition)

end Verdict

/-- The shape of several suggestions: a block if any is one. -/
def Shape.combine (shapes : List Shape) : Shape :=
  if shapes.any (· == .block) then .block else .line

/-- Whether any of the suggestions has a code reference. -/
def DecisionRecord.anyReferences (records : List DecisionRecord) : Bool :=
  records.any fun record => record.referenceCount != 0

end TriggerLedger
