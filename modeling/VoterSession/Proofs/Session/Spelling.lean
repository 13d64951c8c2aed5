import VoterSession.Proofs.Text.Decimal
set_option autoImplicit false

/-!
The texts that are read as a lease or as a lifetime. Main statements: `LeaseId.ofText_eq_ok_iff` and
`Ttl.ofText_eq_ok_iff`.
-/
namespace VoterSession

open Text Decimal

/-! ### Leases -/

namespace LeaseId

/-- The leases are signed 64-bit words. -/
def Word (lease : LeaseId) : Prop := minInt64 ≤ lease.number ∧ lease.number ≤ maxInt64

instance (lease : LeaseId) : Decidable lease.Word :=
  inferInstanceAs (Decidable (minInt64 ≤ lease.number ∧ lease.number ≤ maxInt64))

/-- The spellings of a lease: blanks alone for none, and the number of any lease between blanks. -/
inductive Spelled (text : String) : LeaseId → Prop where
  | blank (blank : ∀ c ∈ text.toList, isBlank c = true) : Spelled text none
  | number {core : List Char} {n : Int} (padded : Padded core text.toList) (integer : Integer core n)
    (counted : 0 ≤ n) (bounded : n ≤ maxInt64) : Spelled text ⟨n⟩

theorem ofText_blank {text : String} (blank : trim text.toList = []) : ofText text = .ok none := by
  unfold ofText
  rw [blank]
  rfl

theorem ofText_number {text : String} (number : trim text.toList ≠ []) :
    ofText text = match signed? minInt64 maxInt64 (trim text.toList) with
      | .none => .error (.invalidValue "lease" "must be decimal text")
      | some n => if n < 0 then .error (.invalidValue "lease" "must be >= 0") else .ok ⟨n⟩ := by
  have nonempty : (trim text.toList).isEmpty = false := List.isEmpty_eq_false_iff.2 number
  unfold ofText
  simp only [nonempty]
  rfl

theorem ofText_eq_ok_iff {text : String} {lease : LeaseId} : ofText text = .ok lease ↔ Spelled text lease := by
  constructor
  · intro h
    by_cases number : trim text.toList = []
    · rw [ofText_blank number] at h
      cases h
      exact .blank (trim_eq_nil_iff.1 number)
    · rw [ofText_number number] at h
      cases hn : signed? minInt64 maxInt64 (trim text.toList) with
      | none => simp [hn] at h
      | some n =>
        obtain ⟨integer, _, bounded⟩ := signed?_eq_some_iff.1 hn
        simp only [hn] at h
        split at h
        · cases h
        · cases h
          exact .number (padded_trim _) integer (by omega) bounded
  · intro spelled
    cases spelled with
    | blank blank => exact ofText_blank (trim_eq_nil_iff.2 blank)
    | @number core n padded integer counted bounded =>
      have trimmed := (trim_eq_iff integer.isBlank_of_mem).2 padded
      have low : minInt64 ≤ n := Int.le_trans (by decide) counted
      rw [ofText_number (trimmed ▸ integer.ne_nil), trimmed, signed?_eq_some_iff.2 ⟨integer, low, bounded⟩]
      simp only [if_neg (Int.not_lt.2 counted)]

theorem Spelled.counted {text : String} {lease : LeaseId} (spelled : Spelled text lease) : 0 ≤ lease.number := by
  cases spelled with
  | blank => exact Int.le_refl 0
  | number _ _ counted => exact counted

theorem Spelled.word {text : String} {lease : LeaseId} (spelled : Spelled text lease) : lease.Word := by
  refine ⟨Int.le_trans (by decide) spelled.counted, ?_⟩
  cases spelled with
  | blank => decide
  | number _ _ _ bounded => exact bounded

theorem integer_text (n : Nat) : Integer (text ⟨-n⟩).toList (-n) := by
  cases n with
  | zero => exact .natural (.plain (Numeral.toDigits 0))
  | succ n =>
    have signed : (text ⟨-(n + 1 : Nat)⟩).toList = '-' :: Nat.toDigits 10 (n + 1) := by
      change ("-" ++ Nat.repr (n + 1)).toList = _
      simp
    rw [signed]
    exact .minus (Numeral.toDigits (n + 1))

theorem ofText_text_of_neg {lease : LeaseId} (word : lease.Word) (negative : lease.number < 0) :
    ofText lease.text = .error (.invalidValue "lease" "must be >= 0") := by
  obtain ⟨number⟩ := lease
  obtain ⟨n, rfl⟩ := Int.exists_eq_neg_ofNat (Int.le_of_lt negative)
  have integer := integer_text n
  have untouched : trim (text ⟨-n⟩).toList = (text ⟨-n⟩).toList := trim_of_no_blank integer.isBlank_of_mem
  have number : trim (text ⟨-n⟩).toList ≠ [] := by
    rw [untouched]
    exact integer.ne_nil
  rw [ofText_number number, untouched, signed?_eq_some_iff.2 ⟨integer, word.1, word.2⟩]
  exact if_pos negative

end LeaseId

/-! ### Lifetimes -/

namespace Ttl

def Spelled (text : String) (ttl : Ttl) : Prop :=
  ∃ core, Padded core text.toList ∧ Natural core ttl.seconds

theorem ofSeconds_eq_ok_iff {n : Nat} {ttl : Ttl} : ofSeconds n = .ok ttl ↔ n = ttl.seconds := by
  constructor
  · intro h
    rw [ofSeconds] at h
    split at h <;> cases h
    rfl
  · rintro rfl
    exact ofSeconds_seconds ttl

theorem ofText_eq_ok_iff {text : String} {ttl : Ttl} : ofText text = .ok ttl ↔ Spelled text ttl := by
  constructor
  · intro h
    rw [ofText] at h
    cases hn : unsigned? maxWord32 (trim text.toList) with
    | none => simp [hn] at h
    | some n =>
      simp only [hn] at h
      obtain rfl := ofSeconds_eq_ok_iff.1 h
      exact ⟨_, padded_trim _, (unsigned?_eq_some_iff.1 hn).1⟩
  · rintro ⟨core, padded, natural⟩
    have bounded : ttl.seconds ≤ maxWord32 := Nat.le_trans ttl.bounded (by decide)
    have trimmed := (trim_eq_iff natural.isBlank_of_mem).2 padded
    simp only [ofText, trimmed, unsigned?_eq_some_iff.2 ⟨natural, bounded⟩, ofSeconds_seconds]

end Ttl

end VoterSession
