set_option autoImplicit false

/-!
Whole numbers as decimal text. A number is one or more ASCII digits after at most one sign: `+` for
both kinds, `-` for the signed kind only, so `-0` is no unsigned number. Leading zeros are free, and a
value outside the range of the kind is refused. Main statement: reading what `toString` writes gives
the number back.
-/
namespace VoterSession.Text.Decimal

def digits? (s : List Char) : Option Nat :=
  if s ≠ [] ∧ s.all Char.isDigit then some (Nat.ofDigitChars 10 s 0) else none

def unsigned? (max : Nat) (s : List Char) : Option Nat :=
  let n? := match s with
    | '+' :: rest => digits? rest
    | _ => digits? s
  n?.filter (· ≤ max)

/-- The value of digits after at most one sign. -/
def integer? (s : List Char) : Option Int :=
  match s with
  | '+' :: rest => (digits? rest).map Int.ofNat
  | '-' :: rest => (digits? rest).map fun n => -(n : Int)
  | _ => (digits? s).map Int.ofNat

def signed? (low high : Int) (s : List Char) : Option Int :=
  (integer? s).filter fun n => low ≤ n && n ≤ high

def maxWord16 : Nat := 65535

def maxWord32 : Nat := 4294967295

def maxWord64 : Nat := 18446744073709551615

def minInt64 : Int := -9223372036854775808

def maxInt64 : Int := 9223372036854775807

theorem toList_toString (n : Nat) : (toString n).toList = Nat.toDigits 10 n := by
  simp [toString, Nat.repr]

theorem digits?_toDigits (n : Nat) : digits? (Nat.toDigits 10 n) = some n := by
  have all : (Nat.toDigits 10 n).all Char.isDigit = true :=
    List.all_eq_true.2 fun c hc => Nat.isDigit_of_mem_toDigits (by decide) (by decide) hc
  simp only [digits?]
  rw [if_pos ⟨Nat.toDigits_ne_nil, all⟩, Nat.ofDigitChars_toDigits (by decide) (by decide)]

end VoterSession.Text.Decimal
