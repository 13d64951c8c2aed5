import VoterSession.Text.Blank
import VoterSession.Text.Decimal
import VoterSession.Violation
set_option autoImplicit false

/-!
Leases and their lifetimes. A lease identifier is a signed 64-bit number on the wire, where zero asks
for a new lease; a lifetime is 1 to 86400 seconds.
-/
namespace VoterSession

structure LeaseId where
  number : Int
deriving DecidableEq, Inhabited

namespace LeaseId

instance : Ord LeaseId := ⟨fun a b => compare a.number b.number⟩

instance : Std.TransOrd LeaseId where
  eq_swap {a b} := (inferInstance : Std.TransOrd Int).eq_swap (a := a.number) (b := b.number)
  isLE_trans {a b c} :=
    (inferInstance : Std.TransOrd Int).isLE_trans (a := a.number) (b := b.number) (c := c.number)

instance : Std.LawfulEqOrd LeaseId where
  compare_self {a} := (inferInstance : Std.LawfulEqOrd Int).compare_self (a := a.number)
  eq_of_compare {a b} h := by
    have : a.number = b.number := (inferInstance : Std.LawfulEqOrd Int).eq_of_compare h
    cases a; cases b; simp_all

/-- No lease: asks the store for a new one. -/
def none : LeaseId := ⟨0⟩

def isNone (lease : LeaseId) : Bool := lease.number == 0

def text (lease : LeaseId) : String := toString lease.number

/-- Reads decimal text with blanks at its ends; blank text is no lease. -/
def ofText (s : String) : Except Violation LeaseId :=
  let trimmed := Text.trim s.toList
  if trimmed.isEmpty then .ok none
  else match Text.Decimal.signed? Text.Decimal.minInt64 Text.Decimal.maxInt64 trimmed with
    | .none => .error (.invalidValue "lease" "must be decimal text")
    | some n => if n < 0 then .error (.invalidValue "lease" "must be >= 0") else .ok ⟨n⟩

end LeaseId

def Ttl.maxSeconds : Nat := 86400

structure Ttl where
  seconds : Nat
  positive : 1 ≤ seconds := by decide
  bounded : seconds ≤ Ttl.maxSeconds := by decide

namespace Ttl

instance : DecidableEq Ttl := fun a b =>
  decidable_of_iff (a.seconds = b.seconds) (by cases a; cases b; simp)

theorem ext {a b : Ttl} (h : a.seconds = b.seconds) : a = b := by
  cases a; cases b; simp_all

def ofSeconds (n : Nat) : Except Violation Ttl :=
  if h : 1 ≤ n ∧ n ≤ maxSeconds then .ok ⟨n, h.1, h.2⟩
  else .error (.invalidRange "ttl" 1 maxSeconds n)

theorem ofSeconds_seconds (ttl : Ttl) : ofSeconds ttl.seconds = .ok ttl := by
  simp only [ofSeconds]
  rw [dif_pos ⟨ttl.positive, ttl.bounded⟩]

def text (ttl : Ttl) : String := toString ttl.seconds

def label (ttl : Ttl) : String := ttl.text ++ "s"

def millis (ttl : Ttl) : Nat := ttl.seconds * 1000

theorem millis_pos (ttl : Ttl) : 0 < ttl.millis := by
  have := ttl.positive
  simp only [millis]
  omega

/-- Reads an unsigned 32-bit count of seconds with blanks at its ends. -/
def ofText (s : String) : Except Violation Ttl :=
  match Text.Decimal.unsigned? Text.Decimal.maxWord32 (Text.trim s.toList) with
  | none => .error (.invalidValue "ttl" "must be decimal seconds")
  | some n => ofSeconds n

end Ttl

end VoterSession
