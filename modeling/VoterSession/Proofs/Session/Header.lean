import VoterSession.Proofs.Session.Request
set_option autoImplicit false

/-!
Which texts are session identifiers, and which headers pass their check. Main statements:
`SessionId.ofText_eq_ok_iff`, `SessionId.valid_iff` and `Header.validate_eq_ok_iff`.
-/
namespace VoterSession

theorem bind_eq_ok_iff {ε α β : Type} {first : Except ε α} {next : α → Except ε β} {b : β} :
    (first >>= next) = .ok b ↔ ∃ a, first = .ok a ∧ next a = .ok b := by
  cases first with
  | error failure => simp [bind, Except.bind]
  | ok a => simp [bind, Except.bind]

theorem then_eq_ok_iff {ε β : Type} {first : Except ε Unit} {rest : Except ε β} {b : β} :
    (first >>= fun _ => rest) = .ok b ↔ first = .ok () ∧ rest = .ok b := by
  rw [bind_eq_ok_iff]
  exact ⟨fun ⟨_, checked, h⟩ => ⟨checked, h⟩, fun ⟨checked, h⟩ => ⟨(), checked, h⟩⟩

/-! ### Session identifiers -/

namespace Text

theorem isTokenSafe_iff {c : Char} : isTokenSafe c = true ↔
    'A' ≤ c ∧ c ≤ 'Z' ∨ 'a' ≤ c ∧ c ≤ 'z' ∨ '0' ≤ c ∧ c ≤ '9' ∨ c = '-' ∨ c = '_' := by
  have classes : isTokenSafe c = ((decide ('A' ≤ c ∧ c ≤ 'Z') || 'a' ≤ c && c ≤ 'z' || '0' ≤ c && c ≤ '9') ||
    c = '-' || c = '_') := rfl
  simp only [classes, Bool.or_eq_true, Bool.and_eq_true, decide_eq_true_eq, or_assoc]

theorem toNat_le_of_isTokenSafe {c : Char} (h : isTokenSafe c = true) : c.val ≤ 127 := by
  obtain ⟨_, upper⟩ | ⟨_, lower⟩ | ⟨_, digit⟩ | rfl | rfl := isTokenSafe_iff.1 h
  · exact UInt32.le_trans upper (by decide)
  · exact UInt32.le_trans lower (by decide)
  · exact UInt32.le_trans digit (by decide)
  · decide
  · decide

theorem utf8ByteSize_of_ascii {s : List Char} (ascii : ∀ c ∈ s, c.val ≤ 127) :
    (String.ofList s).utf8ByteSize = s.length := by
  induction s with
  | nil => rfl
  | cons c s ih =>
    have first : (String.singleton c).utf8ByteSize = 1 := by
      rw [String.utf8ByteSize_singleton, Char.utf8Size_eq_one_iff]
      exact ascii c List.mem_cons_self
    have split : String.ofList (c :: s) = String.singleton c ++ String.ofList s := by
      rw [String.singleton_eq_ofList, ← String.ofList_append, List.singleton_append]
    rw [split, String.utf8ByteSize_append, first, ih fun d hd => ascii d (List.mem_cons_of_mem c hd),
      List.length_cons, Nat.add_comm]

end Text

namespace SessionId

theorem valid_iff {s : String} : Valid s ↔ (1 ≤ s.toList.length ∧ s.toList.length ≤ 128) ∧
    ∀ c ∈ s.toList, 'A' ≤ c ∧ c ≤ 'Z' ∨ 'a' ≤ c ∧ c ≤ 'z' ∨ '0' ≤ c ∧ c ≤ '9' ∨ c = '-' ∨ c = '_' := by
  have nonempty : s ≠ "" ↔ 1 ≤ s.toList.length := by
    rw [Nat.succ_le_iff, List.length_pos_iff]
    exact not_congr String.toList_eq_nil_iff.symm
  have size (safe : s.toList.all Text.isTokenSafe = true) : s.utf8ByteSize = s.toList.length := by
    have bytes := Text.utf8ByteSize_of_ascii fun c hc =>
      Text.toNat_le_of_isTokenSafe (List.all_eq_true.1 safe c hc)
    rwa [String.ofList_toList] at bytes
  constructor
  · rintro ⟨some, short, safe⟩
    rw [size safe] at short
    exact ⟨⟨nonempty.1 some, short⟩, fun c hc => Text.isTokenSafe_iff.1 (List.all_eq_true.1 safe c hc)⟩
  · rintro ⟨⟨some, short⟩, characters⟩
    have safe : s.toList.all Text.isTokenSafe = true :=
      List.all_eq_true.2 fun c hc => Text.isTokenSafe_iff.2 (characters c hc)
    exact ⟨nonempty.2 some, by rwa [size safe], safe⟩

theorem ofText_eq_ok_iff {s : String} {id : SessionId} : ofText s = .ok id ↔ s = id.text := by
  constructor
  · intro h
    rw [ofText] at h
    split at h
    · cases h
    · split at h
      · split at h <;> cases h
        rfl
      · cases h
  · rintro rfl
    exact ofText_text id

end SessionId

/-! ### Headers -/

namespace Header

def Legible (max : Nat) (text : String) : Prop :=
  text.utf8ByteSize ≤ max ∧ ∀ c ∈ text.toList, Text.isControl c = false

theorem checkText_eq_ok_iff {field text : String} {max : Nat} :
    checkText field text max = .ok () ↔ Legible max text := by
  rw [checkText, Legible]
  by_cases long : max < text.utf8ByteSize
  · simp [long, Nat.not_le.2 long]
  · by_cases control : text.toList.any Text.isControl = true
    · obtain ⟨c, hc, found⟩ := List.any_eq_true.1 control
      have illegible : ¬ ∀ c ∈ text.toList, Text.isControl c = false := fun all => by simp [all c hc] at found
      simp only [if_neg long, if_pos control, illegible, and_false, reduceCtorEq]
    · rw [if_neg long, if_neg control]
      rw [Bool.not_eq_true, List.any_eq_false] at control
      exact ⟨fun _ => ⟨Nat.not_lt.1 long, fun c hc => by simpa using control c hc⟩, fun _ => rfl⟩

theorem checkToken_eq_ok_iff {field : String} {token : Bytes} :
    checkToken field token = .ok () ↔ token.length ≤ maxToken := by
  rw [checkToken]
  split
  · rename_i long
    simp [Nat.not_le.2 long]
  · rename_i short
    simp [Nat.not_lt.1 short]

theorem validate_eq_ok_iff {header : Header} : header.validate = .ok () ↔
    Legible 256 header.os ∧ Legible 64 header.authMethod ∧ header.authToken.length ≤ 16384 ∧
      header.dataToken.length ≤ 16384 := by
  simp only [validate, then_eq_ok_iff, checkText_eq_ok_iff, checkToken_eq_ok_iff, maxOs, maxAuthMethod, maxToken]

end Header

end VoterSession
