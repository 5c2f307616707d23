import TriggerLedger.Store.Digest
/-!
# Event ids

An event is identified by a random UUID.  All ids of a run come from one random
seed: the digest of the seed and the number of the event gives the digits, of
which two places say that the UUID is of the random kind.
-/

namespace TriggerLedger.EventId

/-- Put hyphens between the groups of a UUID. -/
def grouped (digits : List Char) : String :=
  let group (start length : Nat) : String := String.ofList ((digits.drop start).take length)
  group 0 8 ++ "-" ++ group 8 4 ++ "-" ++ group 12 4 ++ "-" ++ group 16 4 ++ "-" ++ group 20 12

/-- The digit that marks the variant of a UUID. -/
def variantDigit (digit : Char) : Char :=
  match digit.toNat % 4 with
  | 0 => '8'
  | 1 => '9'
  | 2 => 'a'
  | _ => 'b'

/-- The UUID of thirty-two hexadecimal digits, marked as random. -/
def ofDigits (digits : List Char) : String :=
  grouped ((digits.set 12 '4').modify 16 variantDigit)

/-- The id of the event with a number. -/
def derive (seed : String) (number : Nat) : String :=
  ofDigits (Digest.fingerprint 16 s!"{seed}:{number}").toList

end TriggerLedger.EventId
