import VoterSession.Proofs.Text.Blank
import VoterSession.Session.Lease
set_option autoImplicit false

/-!
Leases and lifetimes are read back from their decimal text. Main statements: `LeaseId.ofText_text` for
every lease that a signed 64-bit word holds, and `Ttl.ofText_text`.
-/
namespace VoterSession

namespace Text.Decimal

theorem isDigit_of_mem {n : Nat} {c : Char} (h : c ∈ Nat.toDigits 10 n) : c.isDigit = true :=
  Nat.isDigit_of_mem_toDigits (by decide) (by decide) h

theorem trim_toDigits (n : Nat) : trim (Nat.toDigits 10 n) = Nat.toDigits 10 n :=
  trim_of_no_blank fun _ hc => isBlank_of_isDigit (isDigit_of_mem hc)

theorem toDigits_eq_cons (n : Nat) : ∃ c s, Nat.toDigits 10 n = c :: s ∧ c ≠ '+' ∧ c ≠ '-' := by
  cases hs : Nat.toDigits 10 n with
  | nil => exact absurd hs Nat.toDigits_ne_nil
  | cons c s =>
    have digit : c.isDigit = true := isDigit_of_mem (hs ▸ List.mem_cons_self)
    refine ⟨c, s, rfl, ?_, ?_⟩ <;>
    · rintro rfl
      revert digit
      decide

theorem unsigned?_toDigits {max n : Nat} (h : n ≤ max) :
    unsigned? max (Nat.toDigits 10 n) = some n := by
  obtain ⟨c, s, hs, unsigned, _⟩ := toDigits_eq_cons n
  have value := digits?_toDigits n
  rw [hs] at value ⊢
  simp [unsigned?, unsigned, value, Option.filter, h]

theorem integer?_toDigits (n : Nat) : integer? (Nat.toDigits 10 n) = some (n : Int) := by
  obtain ⟨c, s, hs, no_plus, no_minus⟩ := toDigits_eq_cons n
  have value := digits?_toDigits n
  rw [hs] at value ⊢
  simp [integer?, no_plus, no_minus, value]

end Text.Decimal

open Text

theorem LeaseId.toList_text {n : Nat} : (LeaseId.text ⟨n⟩).toList = Nat.toDigits 10 n :=
  Decimal.toList_toString n

theorem LeaseId.ofText_text {lease : LeaseId} (counted : 0 ≤ lease.number)
    (bounded : lease.number ≤ Decimal.maxInt64) : ofText lease.text = .ok lease := by
  obtain ⟨number⟩ := lease
  obtain ⟨n, rfl⟩ := Int.eq_ofNat_of_zero_le counted
  have value : Decimal.signed? Decimal.minInt64 Decimal.maxInt64 (Nat.toDigits 10 n) = some (n : Int) := by
    have low : Decimal.minInt64 ≤ (n : Int) := Int.le_trans (by decide) counted
    simp [Decimal.signed?, Decimal.integer?_toDigits, Option.filter, low, bounded]
  have nonempty : (Nat.toDigits 10 n).isEmpty = false := by
    rw [List.isEmpty_eq_false_iff]
    exact Nat.toDigits_ne_nil
  have nonnegative : ¬ (n : Int) < 0 := by omega
  simp only [ofText, toList_text, Decimal.trim_toDigits, nonempty, value, nonnegative]
  rfl

theorem Ttl.ofText_text (ttl : Ttl) : ofText ttl.text = .ok ttl := by
  have bounded : ttl.seconds ≤ Decimal.maxWord32 := Nat.le_trans ttl.bounded (by decide)
  simp only [ofText, text, Decimal.toList_toString, Decimal.trim_toDigits,
    Decimal.unsigned?_toDigits bounded, ofSeconds_seconds]

end VoterSession
