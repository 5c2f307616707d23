import TriggerLedger.Script.Step
import TriggerLedger.Text.Blank
/-!
# Scripts

A script has one step a line.  White space around a line does not matter, and a
line is passed over when it is empty or a comment.  The first line that is no
step, or that moves the clock too far, makes the whole script invalid.
-/

namespace TriggerLedger.Script

/-- Why a line is no step. -/
inductive LineFault where
  | undecodable (fault : Json.DecodeError)
  | advanceOutOfRange (milliseconds : Int)
  deriving DecidableEq

/-- The first fault of a script. -/
structure Fault where
  /-- The number of the line, counted from one. -/
  line : Nat
  fault : LineFault
  deriving DecidableEq

/-- The most milliseconds that a step may move the clock: a day. -/
def maxAdvance : Int := 86400000

/-- The text of a fault in a line. -/
def LineFault.message : LineFault → String
  | .undecodable fault => fault.message
  | .advanceOutOfRange milliseconds =>
    s!"advance of {milliseconds} ms is outside 0..={maxAdvance}"

/-- The text of a fault in a script. -/
def Fault.message (fault : Fault) : String :=
  s!"Invalid replay step at line {fault.line}: " ++ fault.fault.message

/-- Refuse to move the clock back or too far. -/
def Step.check (step : Step) : Except LineFault Step :=
  match step with
  | .advance milliseconds =>
    if 0 ≤ milliseconds ∧ milliseconds ≤ maxAdvance then .ok step
    else .error (.advanceOutOfRange milliseconds)
  | _ => .ok step

/-- Whether a trimmed line counts. -/
def isSignificant : List Char → Bool
  | [] => false
  | '#' :: _ => false
  | _ => true

/-- Read a trimmed line as a step. -/
def parseLine (line : List Char) : Except LineFault Step :=
  match Step.codec.decode.run (String.ofList line) with
  | .error fault => .error (.undecodable fault)
  | .ok step => step.check

/-- Read lines of which the first one has the given number. -/
def parseLines (number : Nat) : List (List Char) → Except Fault (List Step)
  | [] => .ok []
  | line :: lines =>
    let trimmed := Text.trimChars line
    if isSignificant trimmed then
      match parseLine trimmed with
      | .error fault => .error ⟨number, fault⟩
      | .ok step =>
        match parseLines (number + 1) lines with
        | .error fault => .error fault
        | .ok steps => .ok (step :: steps)
    else parseLines (number + 1) lines

def parse (script : String) : Except Fault (List Step) :=
  parseLines 1 (Text.lines script.toList)

end TriggerLedger.Script
