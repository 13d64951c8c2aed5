import VoterSession.Config.Error
import VoterSession.Text.Blank
import VoterSession.Text.Character
import VoterSession.Text.Decimal
set_option autoImplicit false

/-!
Reading single settings: blank texts, flags, numbers in a range, and groups of paths that are set
together or not at all.
-/
namespace VoterSession.Config

/-- The longest timeout that can be configured, in milliseconds. -/
def maxTimeout : Nat := 60000

def nonBlank (value? : Option String) : Option String :=
  value?.filter fun value => !Text.allBlank value.toList

def shown (s : String) : String := "'" ++ s ++ "'"

/-- A flag: unset, blank, `0`, `false` and `no` are off, and `1`, `true` and `yes` are on. -/
def flag (setting : Variable) : Option String → Except ConfigError Bool
  | none => .ok false
  | some value =>
    let word := Text.lowered (Text.trimmed value)
    if word ∈ ["", "0", "false", "no"] then .ok false
    else if word ∈ ["1", "true", "yes"] then .ok true
    else .error (.invalidVar setting (shown value ++ " is not a boolean flag"))

def number (setting : Variable) (low high : Nat) (value : String) : Except ConfigError Nat :=
  match Text.Decimal.unsigned? Text.Decimal.maxWord64 (Text.trim value.toList) with
  | none => .error (.invalidVar setting (shown value ++ " is not an unsigned integer"))
  | some n =>
    if low ≤ n ∧ n ≤ high then .ok n
    else .error (.invalidVar setting
      (toString n ++ " is outside " ++ toString low ++ "..=" ++ toString high))

def numberOr (source : Source) (setting : Variable) (low high standard : Nat) : Except ConfigError Nat :=
  match source setting with
  | none => .ok standard
  | some value => number setting low high value

def number? (source : Source) (setting : Variable) (low high : Nat) : Except ConfigError (Option Nat) :=
  match source setting with
  | none => .ok none
  | some value => (number setting low high value).map some

/-- Three paths that are set together, or none of them. -/
def paths (group : String) : Option String → Option String → Option String →
    Except ConfigError (Option (String × String × String))
  | none, none, none => .ok none
  | some a, some b, some c => .ok (some (a, b, c))
  | _, _, _ => .error (.partialTls group)

end VoterSession.Config
