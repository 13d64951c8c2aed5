import VoterSession.Proofs.Session.Lease
set_option autoImplicit false

/-!
Which texts are read as which numbers: any zeros before the digits that `toString` writes, after at most one
sign. Main statements: `unsigned?_eq_some_iff` and `signed?_eq_some_iff`.
-/
namespace VoterSession.Text.Decimal

/-! ### Numerals -/

/-- The digits of a number, with any zeros before them. -/
def Numeral (s : List Char) (n : Nat) : Prop :=
  ∃ zeros, s = List.replicate zeros '0' ++ Nat.toDigits 10 n

theorem digitChar_of_isDigit {c : Char} (h : c.isDigit = true) :
    c.toNat - '0'.toNat < 10 ∧ (c.toNat - '0'.toNat).digitChar = c := by
  simp only [Char.isDigit, ge_iff_le, Bool.and_eq_true, decide_eq_true_eq, UInt32.le_iff_toNat_le] at h
  change 48 ≤ c.toNat ∧ c.toNat ≤ 57 at h
  change c.toNat - 48 < 10 ∧ (c.toNat - 48).digitChar = c
  have small : c.toNat - 48 < 10 := by omega
  refine ⟨small, Char.toNat_inj.1 ?_⟩
  rw [Nat.toNat_digitChar_of_lt_ten small]
  omega

theorem toDigits_ofDigitChars {m : Nat} (pos : 0 < m) {s : List Char} (digits : ∀ c ∈ s, c.isDigit = true) :
    Nat.toDigits 10 (Nat.ofDigitChars 10 s m) = Nat.toDigits 10 m ++ s := by
  induction s generalizing m with
  | nil => simp
  | cons c s ih =>
    obtain ⟨small, same⟩ := digitChar_of_isDigit (digits c List.mem_cons_self)
    rw [Nat.ofDigitChars_cons, ih (by omega) fun d hd => digits d (List.mem_cons_of_mem c hd),
      ← Nat.toDigits_append_toDigits (by decide) pos small, Nat.toDigits_of_lt_base small, same,
      List.append_assoc, List.singleton_append]

theorem numeral_ofDigitChars {s : List Char} (nonempty : s ≠ []) (digits : ∀ c ∈ s, c.isDigit = true) :
    Numeral s (Nat.ofDigitChars 10 s 0) := by
  induction s with
  | nil => exact absurd rfl nonempty
  | cons c s ih =>
    obtain ⟨small, same⟩ := digitChar_of_isDigit (digits c List.mem_cons_self)
    have rest : ∀ d ∈ s, d.isDigit = true := fun d hd => digits d (List.mem_cons_of_mem c hd)
    rw [Nat.ofDigitChars_cons, Nat.mul_zero, Nat.zero_add]
    by_cases zero : c.toNat - '0'.toNat = 0
    · rw [zero] at same ⊢
      subst same
      by_cases last : s = []
      · subst last
        exact ⟨0, rfl⟩
      · obtain ⟨zeros, hs⟩ := ih last rest
        exact ⟨zeros + 1, congrArg ('0' :: ·) hs⟩
    · refine ⟨0, ?_⟩
      rw [toDigits_ofDigitChars (Nat.pos_of_ne_zero zero) rest, Nat.toDigits_of_lt_base small, same]
      rfl

namespace Numeral

variable {s : List Char} {n : Nat}

theorem toDigits (n : Nat) : Numeral (Nat.toDigits 10 n) n := ⟨0, rfl⟩

theorem isDigit (numeral : Numeral s n) : ∀ c ∈ s, c.isDigit = true := by
  obtain ⟨zeros, rfl⟩ := numeral
  intro c hc
  obtain zero | digit := List.mem_append.1 hc
  · rw [List.eq_of_mem_replicate zero]
    decide
  · exact isDigit_of_mem digit

theorem eq_cons (numeral : Numeral s n) : ∃ c rest, s = c :: rest ∧ c ≠ '+' ∧ c ≠ '-' := by
  have digits := numeral.isDigit
  obtain ⟨zeros, rfl⟩ := numeral
  cases hs : List.replicate zeros '0' ++ Nat.toDigits 10 n with
  | nil => exact absurd (List.append_eq_nil_iff.1 hs).2 Nat.toDigits_ne_nil
  | cons c rest =>
    have digit : c.isDigit = true := digits c (hs ▸ List.mem_cons_self)
    refine ⟨c, rest, rfl, ?_, ?_⟩ <;>
    · rintro rfl
      revert digit
      decide

end Numeral

theorem digits?_eq_some_iff {s : List Char} {n : Nat} : digits? s = some n ↔ Numeral s n := by
  constructor
  · intro h
    rw [digits?] at h
    split at h
    · rename_i accepted
      cases h
      exact numeral_ofDigitChars accepted.1 (List.all_eq_true.1 accepted.2)
    · cases h
  · intro numeral
    obtain ⟨c, rest, hs, _⟩ := numeral.eq_cons
    have nonempty : s ≠ [] := by simp [hs]
    rw [digits?, if_pos ⟨nonempty, List.all_eq_true.2 numeral.isDigit⟩]
    obtain ⟨zeros, rfl⟩ := numeral
    rw [Nat.ofDigitChars_append, Nat.ofDigitChars_replicate_zero, Nat.mul_zero, Nat.ofDigitChars_ten_toDigits]

/-! ### Signs -/

inductive Natural : List Char → Nat → Prop where
  | plain {s : List Char} {n : Nat} (numeral : Numeral s n) : Natural s n
  | plus {s : List Char} {n : Nat} (numeral : Numeral s n) : Natural ('+' :: s) n

inductive Integer : List Char → Int → Prop where
  | natural {s : List Char} {n : Nat} (natural : Natural s n) : Integer s n
  | minus {s : List Char} {n : Nat} (numeral : Numeral s n) : Integer ('-' :: s) (-n)

theorem Natural.isBlank_of_mem {s : List Char} {n : Nat} (natural : Natural s n) :
    ∀ c ∈ s, isBlank c = false := by
  intro c hc
  cases natural with
  | plain numeral => exact isBlank_of_isDigit (numeral.isDigit c hc)
  | plus numeral =>
    obtain rfl | digit := List.mem_cons.1 hc
    · decide
    · exact isBlank_of_isDigit (numeral.isDigit c digit)

theorem Natural.ne_nil {s : List Char} {n : Nat} (natural : Natural s n) : s ≠ [] := by
  cases natural with
  | plain numeral =>
    obtain ⟨c, rest, rfl, _⟩ := numeral.eq_cons
    simp
  | plus numeral => simp

theorem Integer.isBlank_of_mem {s : List Char} {n : Int} (integer : Integer s n) :
    ∀ c ∈ s, isBlank c = false := by
  cases integer with
  | natural natural => exact natural.isBlank_of_mem
  | minus numeral =>
    intro c hc
    obtain rfl | digit := List.mem_cons.1 hc
    · decide
    · exact isBlank_of_isDigit (numeral.isDigit c digit)

theorem Integer.ne_nil {s : List Char} {n : Int} (integer : Integer s n) : s ≠ [] := by
  cases integer with
  | natural natural => exact natural.ne_nil
  | minus numeral => simp

theorem unsigned?_eq_some_iff {max : Nat} {s : List Char} {n : Nat} :
    unsigned? max s = some n ↔ Natural s n ∧ n ≤ max := by
  unfold unsigned?
  rw [Option.filter_eq_some_iff, decide_eq_true_eq]
  refine and_congr_left fun _ => ?_
  constructor
  · intro h
    split at h
    · exact .plus (digits?_eq_some_iff.1 h)
    · exact .plain (digits?_eq_some_iff.1 h)
  · intro natural
    cases natural with
    | plus numeral => exact digits?_eq_some_iff.2 numeral
    | plain numeral =>
      have value := digits?_eq_some_iff.2 numeral
      obtain ⟨c, rest, rfl, no_plus, _⟩ := numeral.eq_cons
      simpa [no_plus] using value

theorem integer?_minus (s : List Char) :
    integer? ('-' :: s) = (digits? s).map fun n : Nat => -(n : Int) := by
  cases value : digits? s <;> simp [integer?, value]

theorem integer?_eq_some_iff {s : List Char} {n : Int} : integer? s = some n ↔ Integer s n := by
  constructor
  · intro h
    have value := h
    unfold integer? at value
    split at value
    · obtain ⟨n, hn, rfl⟩ := Option.map_eq_some_iff.1 value
      exact .natural (.plus (digits?_eq_some_iff.1 hn))
    · rw [integer?_minus] at h
      obtain ⟨n, hn, rfl⟩ := Option.map_eq_some_iff.1 h
      exact .minus (digits?_eq_some_iff.1 hn)
    · obtain ⟨n, hn, rfl⟩ := Option.map_eq_some_iff.1 value
      exact .natural (.plain (digits?_eq_some_iff.1 hn))
  · intro integer
    cases integer with
    | minus numeral =>
      rw [integer?_minus]
      exact Option.map_eq_some_iff.2 ⟨_, digits?_eq_some_iff.2 numeral, rfl⟩
    | natural natural =>
      cases natural with
      | plus numeral => exact Option.map_eq_some_iff.2 ⟨_, digits?_eq_some_iff.2 numeral, rfl⟩
      | plain numeral =>
        have value := digits?_eq_some_iff.2 numeral
        obtain ⟨c, rest, rfl, no_plus, no_minus⟩ := numeral.eq_cons
        simp [integer?, no_plus, no_minus, value]

theorem signed?_eq_some_iff {low high : Int} {s : List Char} {n : Int} :
    signed? low high s = some n ↔ Integer s n ∧ low ≤ n ∧ n ≤ high := by
  rw [signed?, Option.filter_eq_some_iff, integer?_eq_some_iff, Bool.and_eq_true, decide_eq_true_eq,
    decide_eq_true_eq]

end VoterSession.Text.Decimal
