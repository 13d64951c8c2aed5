import VoterSession.Text.Character
import VoterSession.Violation
set_option autoImplicit false

/-!
Session identifiers: one to 128 token-safe ASCII characters, chosen by the client.
-/
namespace VoterSession

def SessionId.maxLength : Nat := 128

structure SessionId.Valid (s : String) : Prop where
  nonempty : s ≠ ""
  short : s.utf8ByteSize ≤ SessionId.maxLength
  safe : s.toList.all Text.isTokenSafe = true

structure SessionId where
  text : String
  valid : SessionId.Valid text

namespace SessionId

instance : DecidableEq SessionId := fun a b =>
  decidable_of_iff (a.text = b.text) (by cases a; cases b; simp)

theorem ext {a b : SessionId} (h : a.text = b.text) : a = b := by
  cases a; cases b; simp_all

/-- The identifier with this text, or the first rule that the text breaks. -/
def ofText (s : String) : Except Violation SessionId :=
  if nonempty : s = "" then .error (.invalidValue "session_id" "must be non-empty")
  else if short : s.utf8ByteSize ≤ maxLength then
    if safe : s.toList.all Text.isTokenSafe then .ok ⟨s, nonempty, short, safe⟩
    else .error (.invalidValue "session_id" "must contain token-safe ASCII only")
  else .error (.invalidValue "session_id" "exceeds max length")

theorem ofText_text (id : SessionId) : ofText id.text = .ok id := by
  simp only [ofText]
  rw [dif_neg id.valid.nonempty, dif_pos id.valid.short, dif_pos id.valid.safe]

end SessionId

end VoterSession
