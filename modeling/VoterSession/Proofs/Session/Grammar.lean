import VoterSession.Proofs.Session.Spelling
set_option autoImplicit false

/-!
The grammar of leases and lifetimes. Without the blanks at its ends a text is a lease when it is empty or a signed
number that is not negative and fits 63 bits, and a lifetime when it is a number of at most a day's seconds after at
most a plus. Which of its two refusals a text meets depends on the number alone. Main statement:
`lease_and_lifetime_texts_exact`.
-/
namespace VoterSession

namespace Text.Decimal

/-! ### Written numbers -/

/-- One or more of the digits `0` to `9`, the highest first, and the number that they stand for. -/
structure Digits (s : List Char) (n : Nat) : Prop where
  nonempty : s ≠ []
  digit : ∀ c ∈ s, '0' ≤ c ∧ c ≤ '9'
  value : s.foldl (fun n c => 10 * n + (c.toNat - '0'.toNat)) 0 = n

inductive Signed (signs : List Char) : List Char → Int → Prop where
  | bare {s : List Char} {n : Nat} (digits : Digits s n) : Signed signs s n
  | plus {s : List Char} {n : Nat} (sign : '+' ∈ signs) (digits : Digits s n) : Signed signs ('+' :: s) n
  | minus {s : List Char} {n : Nat} (sign : '-' ∈ signs) (digits : Digits s n) : Signed signs ('-' :: s) (-n)

theorem isDigit_iff {c : Char} : c.isDigit = true ↔ '0' ≤ c ∧ c ≤ '9' := by
  simp only [Char.isDigit, Bool.and_eq_true, decide_eq_true_eq, Char.le_def]

theorem digits_iff_numeral {s : List Char} {n : Nat} : Digits s n ↔ Numeral s n := by
  have all_digits : s.all Char.isDigit = true ↔ ∀ c ∈ s, '0' ≤ c ∧ c ≤ '9' := by
    simp only [List.all_eq_true, isDigit_iff]
  rw [← digits?_eq_some_iff, digits?]
  constructor
  · rintro ⟨nonempty, digit, value⟩
    rw [if_pos ⟨nonempty, all_digits.2 digit⟩]
    exact congrArg some value
  · intro read
    split at read
    · rename_i accepted
      exact ⟨accepted.1, all_digits.1 accepted.2, Option.some.inj read⟩
    · cases read

theorem signed_iff_integer {s : List Char} {n : Int} : Signed ['+', '-'] s n ↔ Integer s n := by
  constructor
  · rintro (digits | ⟨-, digits⟩ | ⟨-, digits⟩)
    · exact .natural (.plain (digits_iff_numeral.1 digits))
    · exact .natural (.plus (digits_iff_numeral.1 digits))
    · exact .minus (digits_iff_numeral.1 digits)
  · rintro ((numeral | numeral) | numeral)
    · exact .bare (digits_iff_numeral.2 numeral)
    · exact .plus (by decide) (digits_iff_numeral.2 numeral)
    · exact .minus (by decide) (digits_iff_numeral.2 numeral)

theorem signed_iff_natural {s : List Char} {n : Nat} : Signed ['+'] s n ↔ Natural s n := by
  constructor
  · generalize value : (n : Int) = m
    rintro (digits | ⟨-, digits⟩ | ⟨sign, -⟩)
    · obtain rfl := Int.ofNat_inj.1 value
      exact .plain (digits_iff_numeral.1 digits)
    · obtain rfl := Int.ofNat_inj.1 value
      exact .plus (digits_iff_numeral.1 digits)
    · simp at sign
  · rintro (numeral | numeral)
    · exact .bare (digits_iff_numeral.2 numeral)
    · exact .plus (by decide) (digits_iff_numeral.2 numeral)

end Text.Decimal

open Text Decimal

/-! ### Leases -/

namespace LeaseId

/-- What a text comes to as a lease, said of the text without the blanks at its ends. -/
inductive Reads (core : List Char) : Except Violation LeaseId → Prop where
  | blank (empty : core = []) : Reads core (.ok ⟨0⟩)
  | number {n : Int} (written : Signed ['+', '-'] core n) (range : 0 ≤ n ∧ n ≤ 9223372036854775807) :
      Reads core (.ok ⟨n⟩)
  | negative {n : Int} (written : Signed ['+', '-'] core n) (range : -9223372036854775808 ≤ n ∧ n ≤ -1) :
      Reads core (.error (.invalidValue "lease" "must be >= 0"))
  | other (nonempty : core ≠ [])
      (outside : ∀ n, Signed ['+', '-'] core n → ¬(-9223372036854775808 ≤ n ∧ n ≤ 9223372036854775807)) :
      Reads core (.error (.invalidValue "lease" "must be decimal text"))

theorem exists_reads (core : List Char) : ∃ outcome, Reads core outcome := by
  by_cases empty : core = []
  · exact ⟨_, .blank empty⟩
  by_cases word : ∃ n, Signed ['+', '-'] core n ∧ -9223372036854775808 ≤ n ∧ n ≤ 9223372036854775807
  · obtain ⟨n, written, low, high⟩ := word
    by_cases counted : 0 ≤ n
    · exact ⟨_, .number written ⟨counted, high⟩⟩
    · exact ⟨_, .negative written ⟨low, by omega⟩⟩
  · exact ⟨_, .other empty fun n written range => word ⟨n, written, range⟩⟩

theorem signed?_eq_some_of_signed {core : List Char} {n : Int} (written : Signed ['+', '-'] core n)
    (range : -9223372036854775808 ≤ n ∧ n ≤ 9223372036854775807) : signed? minInt64 maxInt64 core = some n :=
  signed?_eq_some_iff.2 ⟨signed_iff_integer.1 written, range⟩

theorem ofText_eq_of_reads {s : String} {outcome : Except Violation LeaseId}
    (reads : Reads (trim s.toList) outcome) : ofText s = outcome := by
  cases reads with
  | blank empty => exact ofText_blank empty
  | @number n written range =>
    rw [ofText_number (signed_iff_integer.1 written).ne_nil,
      signed?_eq_some_of_signed written ⟨by omega, range.2⟩]
    exact if_neg (by omega)
  | @negative n written range =>
    rw [ofText_number (signed_iff_integer.1 written).ne_nil,
      signed?_eq_some_of_signed written ⟨range.1, by omega⟩]
    exact if_pos (by omega)
  | other nonempty outside =>
    have unread : signed? minInt64 maxInt64 (trim s.toList) = .none := by
      refine Option.eq_none_iff_forall_ne_some.2 fun n read => ?_
      obtain ⟨integer, range⟩ := signed?_eq_some_iff.1 read
      exact outside n (signed_iff_integer.2 integer) range
    rw [ofText_number nonempty, unread]

theorem ofText_eq_iff {s : String} {outcome : Except Violation LeaseId} :
    ofText s = outcome ↔ Reads (trim s.toList) outcome := by
  constructor
  · rintro rfl
    obtain ⟨outcome, reads⟩ := exists_reads (trim s.toList)
    rwa [ofText_eq_of_reads reads]
  · exact ofText_eq_of_reads

end LeaseId

/-! ### Lifetimes -/

namespace Ttl

inductive Reads (core : List Char) : Except Violation Ttl → Prop where
  | number {n : Nat} (written : Signed ['+'] core n) (range : 1 ≤ n ∧ n ≤ 86400) :
      Reads core (.ok ⟨n, range.1, range.2⟩)
  | outside {n : Nat} (written : Signed ['+'] core n) (outside : n = 0 ∨ 86401 ≤ n ∧ n ≤ 4294967295) :
      Reads core (.error (.invalidRange "ttl" 1 86400 n))
  | other (outside : ∀ n : Nat, Signed ['+'] core n → ¬n ≤ 4294967295) :
      Reads core (.error (.invalidValue "ttl" "must be decimal seconds"))

theorem exists_reads (core : List Char) : ∃ outcome, Reads core outcome := by
  by_cases word : ∃ n : Nat, Signed ['+'] core n ∧ n ≤ 4294967295
  · obtain ⟨n, written, high⟩ := word
    by_cases range : 1 ≤ n ∧ n ≤ 86400
    · exact ⟨_, .number written range⟩
    · exact ⟨_, .outside written (by omega)⟩
  · exact ⟨_, .other fun n written high => word ⟨n, written, high⟩⟩

theorem ofText_of_signed {s : String} {n : Nat} (written : Signed ['+'] (trim s.toList) n) (high : n ≤ 4294967295) :
    ofText s = ofSeconds n := by
  have read : unsigned? maxWord32 (trim s.toList) = some n :=
    unsigned?_eq_some_iff.2 ⟨signed_iff_natural.1 written, high⟩
  rw [ofText, read]

theorem ofText_eq_of_reads {s : String} {outcome : Except Violation Ttl} (reads : Reads (trim s.toList) outcome) :
    ofText s = outcome := by
  cases reads with
  | @number n written range =>
    rw [ofText_of_signed written (by omega)]
    exact dif_pos range
  | @outside n written outside =>
    have refused : ¬(1 ≤ n ∧ n ≤ maxSeconds) := by
      rw [maxSeconds]
      omega
    rw [ofText_of_signed written (by omega)]
    exact dif_neg refused
  | other outside =>
    have unread : unsigned? maxWord32 (trim s.toList) = none := by
      refine Option.eq_none_iff_forall_ne_some.2 fun n read => ?_
      obtain ⟨natural, high⟩ := unsigned?_eq_some_iff.1 read
      exact outside n (signed_iff_natural.2 natural) high
    rw [ofText, unread]

theorem ofText_eq_iff {s : String} {outcome : Except Violation Ttl} :
    ofText s = outcome ↔ Reads (trim s.toList) outcome := by
  constructor
  · rintro rfl
    obtain ⟨outcome, reads⟩ := exists_reads (trim s.toList)
    rwa [ofText_eq_of_reads reads]
  · exact ofText_eq_of_reads

end Ttl

/-! ### Both -/

/-- Each text has one core, from which its reading follows either way; and what is written is read back. -/
theorem lease_and_lifetime_texts_exact :
    (∀ s : String, ∃ core, (∀ w, Stripped w s.toList ↔ w = core) ∧
      (∀ outcome, LeaseId.ofText s = outcome ↔ LeaseId.Reads core outcome) ∧
      ∀ outcome, Ttl.ofText s = outcome ↔ Ttl.Reads core outcome) ∧
    (∀ lease : LeaseId, 0 ≤ lease.number → lease.number ≤ 9223372036854775807 →
      LeaseId.ofText lease.text = .ok lease) ∧
    ∀ ttl : Ttl, Ttl.ofText ttl.text = .ok ttl := by
  refine ⟨fun s => ⟨trim s.toList, fun w => ?_, fun _ => LeaseId.ofText_eq_iff, fun _ => Ttl.ofText_eq_iff⟩, ?_, ?_⟩
  · rw [← trim_eq_iff_stripped, eq_comm]
  · exact fun lease counted bounded => LeaseId.ofText_text counted bounded
  · exact Ttl.ofText_text

/-- A minus before zero, a number one past the last lease, a second more than a day, and the last lease written. -/
theorem edge_texts_read :
    LeaseId.ofText "\u3000-00\t" = .ok .none ∧
    LeaseId.ofText " +9223372036854775808" = .error (.invalidValue "lease" "must be decimal text") ∧
    Ttl.ofText "\n0086401 " = .error (.invalidRange "ttl" 1 86400 86401) ∧
    LeaseId.ofText (LeaseId.text ⟨9223372036854775807⟩) = .ok ⟨9223372036854775807⟩ := by
  obtain ⟨read, written_leases, _⟩ := lease_and_lifetime_texts_exact
  refine ⟨?_, ?_, ?_, written_leases ⟨9223372036854775807⟩ (by decide) (by decide)⟩
  · obtain ⟨core, stripped, leases, _⟩ := read "\u3000-00\t"
    obtain rfl : "-00".toList = core := (stripped _).1 (trim_eq_iff_stripped.1 rfl)
    have zeros : Digits "00".toList 0 := digits_iff_numeral.2 (digits?_eq_some_iff.1 rfl)
    exact (leases _).2 (.number (.minus (by decide) zeros) (by decide))
  · obtain ⟨core, stripped, leases, _⟩ := read " +9223372036854775808"
    obtain rfl : "+9223372036854775808".toList = core := (stripped _).1 (trim_eq_iff_stripped.1 rfl)
    refine (leases _).2 (.other (by decide) fun n written range => ?_)
    have unread : signed? minInt64 maxInt64 "+9223372036854775808".toList = none := by decide
    cases unread.symm.trans (LeaseId.signed?_eq_some_of_signed written range)
  · obtain ⟨core, stripped, _, ttls⟩ := read "\n0086401 "
    obtain rfl : "0086401".toList = core := (stripped _).1 (trim_eq_iff_stripped.1 rfl)
    have digits : Digits "0086401".toList 86401 := digits_iff_numeral.2 (digits?_eq_some_iff.1 rfl)
    exact (ttls _).2 (.outside (.bare digits) (by decide))

end VoterSession
