set_option autoImplicit false

/-!
Fields divided by a separator character. Splitting gives one field more than there are separators, so
an empty text is one empty field. Main statement: fields without the separator come back from their
join.
-/
namespace VoterSession.Text.Separated

def split (separator : Char) : List Char → List (List Char)
  | [] => [[]]
  | c :: rest =>
    if c = separator then [] :: split separator rest
    else match split separator rest with
      | [] => [[c]]
      | field :: fields => (c :: field) :: fields

def join (separator : Char) : List (List Char) → List Char
  | [] => []
  | [field] => field
  | field :: fields => field ++ separator :: join separator fields

theorem split_ne_nil (separator : Char) (s : List Char) : split separator s ≠ [] := by
  cases s with
  | nil => simp [split]
  | cons c rest =>
    rw [split]
    split
    · simp
    · split <;> simp

theorem split_append_separator (separator : Char) (field rest : List Char) (clean : separator ∉ field) :
    split separator (field ++ separator :: rest) = field :: split separator rest := by
  induction field with
  | nil => simp [split]
  | cons c cs ih =>
    have hc : c ≠ separator := fun h => clean (by simp [h])
    have hcs : separator ∉ cs := fun h => clean (by simp [h])
    simp [split, hc, ih hcs]

theorem split_of_notMem (separator : Char) (field : List Char) (clean : separator ∉ field) :
    split separator field = [field] := by
  induction field with
  | nil => simp [split]
  | cons c cs ih =>
    have hc : c ≠ separator := fun h => clean (by simp [h])
    have hcs : separator ∉ cs := fun h => clean (by simp [h])
    simp [split, hc, ih hcs]

theorem split_join (separator : Char) (fields : List (List Char)) (some_field : fields ≠ [])
    (clean : ∀ field ∈ fields, separator ∉ field) : split separator (join separator fields) = fields := by
  induction fields with
  | nil => exact absurd rfl some_field
  | cons field fields ih =>
    cases fields with
    | nil => exact split_of_notMem separator field (clean field (by simp))
    | cons next more =>
      rw [join, split_append_separator separator field _ (clean field (by simp)),
        ih (by simp) fun f hf => clean f (by simp_all)]
      simp

end VoterSession.Text.Separated
