import TriggerLedger.Json.Codec
/-!
# Kinds of triggers, requests and decisions

Every kind has a wire name in lower case; a verdict and a shape also have a
remote name in upper case.
-/

namespace TriggerLedger

/-- How a completion was asked for. -/
inductive TriggerKind where
  | onDemand
  | automatic
  deriving DecidableEq, Repr

/-- What caused an automatic trigger. -/
inductive AutomaticCause where
  | keyStrokeCount
  | specialCharacters
  | enter
  | intelliSenseAcceptance
  | idleTime
  | classifier
  deriving DecidableEq, Repr

/-- How a completion request ended. -/
inductive RequestOutcome where
  | succeeded
  | failed
  deriving DecidableEq, Repr

/-- The shape of a suggestion. -/
inductive Shape where
  | line
  | block
  deriving DecidableEq, Repr

/-- What became of one suggestion. -/
inductive Disposition where
  | accept
  | reject
  | ignore
  | unseen
  | empty
  | filter
  | discard
  deriving DecidableEq, Repr

/-- What became of several suggestions together. -/
inductive Verdict where
  | accept
  | reject
  | discard
  | empty
  deriving DecidableEq, Repr

/-- What the editor did with a suggestion. -/
inductive Display where
  | showed
  | empty
  | filter
  | discard
  | unseen
  deriving DecidableEq, Repr

namespace TriggerKind

def all : List TriggerKind := [.onDemand, .automatic]

def name : TriggerKind → String
  | .onDemand => "on_demand"
  | .automatic => "auto_trigger"

def label : TriggerKind → String
  | .onDemand => "OnDemand"
  | .automatic => "AutoTrigger"

/-- Kinds of triggers as JSON. -/
def codec : Json.Codec TriggerKind := .choice all name

end TriggerKind

namespace AutomaticCause

/-- All causes of automatic triggers. -/
def all : List AutomaticCause :=
  [.keyStrokeCount, .specialCharacters, .enter, .intelliSenseAcceptance, .idleTime, .classifier]

def name : AutomaticCause → String
  | .keyStrokeCount => "key_stroke_count"
  | .specialCharacters => "special_characters"
  | .enter => "enter"
  | .intelliSenseAcceptance => "intelli_sense_acceptance"
  | .idleTime => "idle_time"
  | .classifier => "classifier"

/-- Causes of automatic triggers as JSON. -/
def codec : Json.Codec AutomaticCause := .choice all name

end AutomaticCause

namespace RequestOutcome

def all : List RequestOutcome := [.succeeded, .failed]

def name : RequestOutcome → String
  | .succeeded => "succeeded"
  | .failed => "failed"

def label : RequestOutcome → String
  | .succeeded => "Succeeded"
  | .failed => "Failed"

/-- Outcomes of requests as JSON. -/
def codec : Json.Codec RequestOutcome := .choice all name

end RequestOutcome

namespace Shape

def all : List Shape := [.line, .block]

def name : Shape → String
  | .line => "line"
  | .block => "block"

/-- The name in remote requests. -/
def remoteName : Shape → String
  | .line => "LINE"
  | .block => "BLOCK"

def codec : Json.Codec Shape := .choice all name

end Shape

namespace Disposition

def all : List Disposition :=
  [.accept, .reject, .ignore, .unseen, .empty, .filter, .discard]

def name : Disposition → String
  | .accept => "accept"
  | .reject => "reject"
  | .ignore => "ignore"
  | .unseen => "unseen"
  | .empty => "empty"
  | .filter => "filter"
  | .discard => "discard"

def label : Disposition → String
  | .accept => "Accept"
  | .reject => "Reject"
  | .ignore => "Ignore"
  | .unseen => "Unseen"
  | .empty => "Empty"
  | .filter => "Filter"
  | .discard => "Discard"

def codec : Json.Codec Disposition := .choice all name

end Disposition

namespace Verdict

def all : List Verdict := [.accept, .reject, .discard, .empty]

def name : Verdict → String
  | .accept => "accept"
  | .reject => "reject"
  | .discard => "discard"
  | .empty => "empty"

/-- The name in remote requests and tables. -/
def remoteName : Verdict → String
  | .accept => "ACCEPT"
  | .reject => "REJECT"
  | .discard => "DISCARD"
  | .empty => "EMPTY"

/-- The disposition of the same meaning. -/
def toDisposition : Verdict → Disposition
  | .accept => .accept
  | .reject => .reject
  | .discard => .discard
  | .empty => .empty

def codec : Json.Codec Verdict := .choice all name

end Verdict

namespace Display

def all : List Display := [.showed, .empty, .filter, .discard, .unseen]

def name : Display → String
  | .showed => "showed"
  | .empty => "empty"
  | .filter => "filter"
  | .discard => "discard"
  | .unseen => "unseen"

/-- The disposition that a display settles by itself. -/
def forced? : Display → Option Disposition
  | .empty => some .empty
  | .filter => some .filter
  | .discard => some .discard
  | .showed | .unseen => none

def codec : Json.Codec Display := .choice all name

end Display
end TriggerLedger
