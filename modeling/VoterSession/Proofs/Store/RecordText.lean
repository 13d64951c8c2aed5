import VoterSession.Proofs.Text.Base64
import VoterSession.Proofs.Text.Separated
import VoterSession.Store.RecordText
set_option autoImplicit false

/-!
A stored record is read back as it was written, and nothing else is read as one. Main statement:
`record_text_exact`.
-/
namespace VoterSession.RecordText

theorem separator_notMem_caller (method : Option Method) :
    separator ∉ (Method.callerName method).toList := by
  cases method with
  | none => decide
  | some method => cases method <;> decide

theorem separator_notMem_auth (tag : AuthTag) : separator ∉ tag.name.toList := by
  cases tag <;> decide

theorem caller_callerName (method : Option Method) : caller (Method.callerName method) = .ok method := by
  cases method with
  | none => rfl
  | some method =>
    have named : Method.callerName (some method) ≠ "" := method.name_ne_empty
    have found : Method.ofName? (Method.callerName (some method)) = some method := method.ofName?_name
    rw [caller, if_neg named, found]

theorem auth_name (tag : AuthTag) : auth tag.name = .ok tag := by
  rw [auth, AuthTag.ofName?_name]

theorem decode_encode (method : Option Method) (tag : AuthTag) :
    decode (encode method tag) = .ok (method, tag) := by
  have fields : Text.Separated.split separator
      (Method.callerName method ++ (String.singleton separator ++ tag.name)).toList =
        [(Method.callerName method).toList, tag.name.toList] := by
    rw [String.toList_append, String.toList_append, String.toList_singleton, List.singleton_append,
      Text.Separated.split_append_separator _ _ _ (separator_notMem_caller method),
      Text.Separated.split_of_notMem _ _ (separator_notMem_auth tag)]
  simp only [decode, encode, Text.Base64.decode?_encode, Bytes.text?_ofText, ofText, fields,
    String.ofList_toList, caller_callerName, auth_name]
  rfl

theorem encode_injective {method method' : Option Method} {tag tag' : AuthTag}
    (h : encode method tag = encode method' tag') : method = method' ∧ tag = tag' := by
  have read := congrArg decode h
  rw [decode_encode, decode_encode] at read
  cases read
  exact ⟨rfl, rfl⟩

/-! ### What is refused -/

def stored (text : String) : Bytes := Text.Base64.encode (Bytes.ofText text)

def pair (first second : String) : String := first ++ (String.singleton separator ++ second)

theorem decode_stored (text : String) : decode (stored text) = ofText text := by
  simp only [decode, stored, Text.Base64.decode?_encode, Bytes.text?_ofText]

theorem toList_pair (first second : String) :
    (pair first second).toList = first.toList ++ separator :: second.toList := by
  rw [pair, String.toList_append, String.toList_append, String.toList_singleton, List.singleton_append]

theorem ofText_pair {first second : String} (clean : separator ∉ first.toList)
    (clean' : separator ∉ second.toList) :
    ofText (pair first second) = (caller first).bind fun method => (auth second).bind fun tag => .ok (method, tag) := by
  have fields := Text.Separated.split_eq_pair_iff.2 ⟨toList_pair first second, clean, clean'⟩
  simp only [ofText, fields, String.ofList_toList]
  rfl

theorem ofText_of_count {text : String} (other : text.toList.count separator ≠ 1) :
    ofText text = .error (.fieldCount (text.toList.count separator + 1)) := by
  have count := Text.Separated.length_split separator text.toList
  unfold ofText
  split
  · rename_i first second fields
    rw [fields] at count
    simp only [List.length_cons, List.length_nil] at count
    omega
  · rw [count]

theorem eq_pair_of_count {text : String} (one : text.toList.count separator = 1) :
    ∃ first second, text = pair first second ∧ separator ∉ first.toList ∧ separator ∉ second.toList := by
  obtain ⟨first, second, fields⟩ := Text.Separated.split_eq_pair_of_count one
  obtain ⟨whole, clean, clean'⟩ := Text.Separated.split_eq_pair_iff.1 fields
  refine ⟨.ofList first, .ofList second, ?_, by simpa using clean, by simpa using clean'⟩
  rw [← String.toList_inj, toList_pair, whole, String.toList_ofList, String.toList_ofList]

theorem caller_eq_ok_iff {name : String} {method : Option Method} :
    caller name = .ok method ↔ name = Method.callerName method := by
  constructor
  · intro h
    unfold caller at h
    split at h
    · cases h
      assumption
    · split at h
      · cases h
        exact Method.ofName?_eq_some_iff.1 ‹_›
      · cases h
  · rintro rfl
    exact caller_callerName method

theorem auth_eq_ok_iff {name : String} {tag : AuthTag} : auth name = .ok tag ↔ name = tag.name := by
  constructor
  · intro h
    unfold auth at h
    split at h
    · cases h
      exact AuthTag.ofName?_eq_some_iff.1 ‹_›
    · cases h
  · rintro rfl
    exact auth_name tag

theorem caller_eq_error {name : String} {reason : CorruptReason} (h : caller name = .error reason) :
    reason = .unknownCaller name := by
  unfold caller at h
  split at h
  · cases h
  · split at h <;> cases h
    rfl

theorem auth_eq_error {name : String} {reason : CorruptReason} (h : auth name = .error reason) :
    reason = .unknownAuth name := by
  unfold auth at h
  split at h <;> cases h
  rfl

/-- Why a byte string is no record. Each reason has those before it excluded. -/
inductive Refused (raw : Bytes) : CorruptReason → Prop
  | base64 (other : ¬ Text.Base64.Canonical raw) : Refused raw .invalidBase64
  | utf8 {bytes : Bytes} (written : raw = Text.Base64.encode bytes) (other : ∀ text, bytes ≠ Bytes.ofText text) :
    Refused raw .invalidUtf8
  | fields {text : String} {n : Nat} (written : raw = stored text) (divided : n = text.toList.count separator + 1)
    (other : n ≠ 2) : Refused raw (.fieldCount n)
  | caller {first second : String} (written : raw = stored (pair first second)) (clean : separator ∉ first.toList)
    (clean' : separator ∉ second.toList) (named : first ≠ "") (other : ∀ method : Method, first ≠ method.name) :
    Refused raw (.unknownCaller first)
  | auth {method : Option Method} {second : String} (written : raw = stored (pair (Method.callerName method) second))
    (clean : separator ∉ second.toList) (other : ∀ tag : AuthTag, second ≠ tag.name) : Refused raw (.unknownAuth second)

theorem Refused.decode_eq {raw : Bytes} {reason : CorruptReason} (refused : Refused raw reason) :
    decode raw = .error reason := by
  cases refused with
  | base64 other => simp only [decode, Text.Base64.decode?_eq_none_iff.2 other]
  | @utf8 bytes written other =>
    have unread : Bytes.text? bytes = none := by
      cases h : Bytes.text? bytes with
      | none => rfl
      | some text => exact absurd (Bytes.eq_ofText_of_text? h) (other text)
    simp only [decode, written, Text.Base64.decode?_encode, unread]
  | fields written divided other =>
    subst divided
    rw [written, decode_stored, ofText_of_count fun one => other (by rw [one])]
  | @caller first second written clean clean' named other =>
    have unknown : RecordText.caller first = .error (.unknownCaller first) := by
      cases h : RecordText.caller first with
      | error reason => rw [caller_eq_error h]
      | ok method =>
        have name := caller_eq_ok_iff.1 h
        cases method with
        | none => exact absurd name named
        | some method => exact absurd name (other method)
    rw [written, decode_stored, ofText_pair clean clean', unknown]
    rfl
  | @auth method second written clean other =>
    have unknown : RecordText.auth second = .error (.unknownAuth second) := by
      cases h : RecordText.auth second with
      | error reason => rw [auth_eq_error h]
      | ok tag => exact absurd (auth_eq_ok_iff.1 h) (other tag)
    rw [written, decode_stored, ofText_pair (separator_notMem_caller method) clean, caller_callerName, unknown]
    rfl

theorem encoded_or_refused (raw : Bytes) :
    (∃ method tag, raw = encode method tag) ∨ ∃ reason, Refused raw reason := by
  by_cases canonical : Text.Base64.Canonical raw
  · obtain ⟨bytes, written⟩ := canonical.eq_encode
    by_cases utf8 : ∃ text, bytes = Bytes.ofText text
    · obtain ⟨text, rfl⟩ := utf8
      by_cases one : text.toList.count separator = 1
      · obtain ⟨first, second, rfl, clean, clean'⟩ := eq_pair_of_count one
        cases hcaller : caller first with
        | error reason =>
          refine .inr ⟨_, .caller written clean clean' ?_ ?_⟩
          · rintro rfl
            cases hcaller
          · rintro method rfl
            have known : caller method.name = .ok (some method) := caller_callerName (some method)
            rw [known] at hcaller
            cases hcaller
        | ok method =>
          obtain rfl := caller_eq_ok_iff.1 hcaller
          cases hauth : auth second with
          | error reason =>
            refine .inr ⟨_, .auth written clean' ?_⟩
            rintro tag rfl
            rw [auth_name] at hauth
            cases hauth
          | ok tag =>
            obtain rfl := auth_eq_ok_iff.1 hauth
            exact .inl ⟨method, tag, written⟩
      · exact .inr ⟨_, .fields written rfl (by omega)⟩
    · exact .inr ⟨_, .utf8 written fun text same => utf8 ⟨text, same⟩⟩
  · exact .inr ⟨_, .base64 canonical⟩

theorem decode_eq_ok_iff {raw : Bytes} {method : Option Method} {tag : AuthTag} :
    decode raw = .ok (method, tag) ↔ raw = encode method tag := by
  constructor
  · intro read
    obtain ⟨method', tag', rfl⟩ | ⟨reason, refused⟩ := encoded_or_refused raw
    · rw [decode_encode] at read
      cases read
      rfl
    · rw [refused.decode_eq] at read
      cases read
  · rintro rfl
    exact decode_encode method tag

theorem decode_eq_error_iff {raw : Bytes} {reason : CorruptReason} :
    decode raw = .error reason ↔ Refused raw reason := by
  constructor
  · intro read
    obtain ⟨method, tag, rfl⟩ | ⟨reason', refused⟩ := encoded_or_refused raw
    · rw [decode_encode] at read
      cases read
    · rw [refused.decode_eq] at read
      cases read
      exact refused
  · exact Refused.decode_eq

/-- A byte string is read as a record if and only if it is the stored form of that record, so that no record has
two of them. Every other one is refused, for the first reason that applies. -/
theorem record_text_exact (raw : Bytes) :
    (∀ method tag, decode raw = .ok (method, tag) ↔ raw = encode method tag) ∧
    (∀ reason, decode raw = .error reason ↔ Refused raw reason) ∧
    ∀ other record, decode raw = .ok record → decode other = .ok record → other = raw := by
  refine ⟨fun _ _ => decode_eq_ok_iff, fun _ => decode_eq_error_iff, ?_⟩
  rintro other ⟨method, tag⟩ read read'
  rw [decode_eq_ok_iff.1 read, decode_eq_ok_iff.1 read']

theorem loose_bit_refused :
    Bytes.ofText "UlBDLlZvdGUfaWQ=" = encode (some .vote) .idCard ∧
    decode (Bytes.ofText "UlBDLlZvdGUfaWR=") = .error .invalidBase64 ∧
    ¬ Text.Base64.Canonical (Bytes.ofText "UlBDLlZvdGUfaWR=") := by
  have read : decode (Bytes.ofText "UlBDLlZvdGUfaWQ=") = .ok (some .vote, .idCard) := rfl
  have refused : decode (Bytes.ofText "UlBDLlZvdGUfaWR=") = .error .invalidBase64 := rfl
  refine ⟨((record_text_exact _).1 _ _).1 read, refused, ?_⟩
  cases ((record_text_exact _).2.1 _).1 refused with
  | base64 other => exact other

end VoterSession.RecordText
