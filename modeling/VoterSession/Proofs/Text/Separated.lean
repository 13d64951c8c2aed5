import VoterSession.Text.Separated
set_option autoImplicit false

/-!
Splitting a text takes nothing from it. Main statements: `join_split`, `length_split` and `split_eq_pair_iff`.
-/
namespace VoterSession.Text.Separated

variable {separator : Char}

theorem split_cons_of_ne {c : Char} (other : c ≠ separator) (rest : List Char) :
    ∃ field fields, split separator rest = field :: fields ∧ split separator (c :: rest) = (c :: field) :: fields := by
  cases h : split separator rest with
  | nil => exact absurd h (split_ne_nil separator rest)
  | cons field fields => exact ⟨field, fields, rfl, by simp [split, other, h]⟩

theorem length_split (separator : Char) (s : List Char) :
    (split separator s).length = s.count separator + 1 := by
  induction s with
  | nil => rfl
  | cons c rest ih =>
    by_cases same : c = separator
    · simp [split, same, ih]
    · obtain ⟨field, fields, hrest, hsplit⟩ := split_cons_of_ne same rest
      rw [hsplit, List.count_cons_of_ne same, ← ih, hrest, List.length_cons, List.length_cons]

theorem notMem_of_mem_split {s field : List Char} (h : field ∈ split separator s) : separator ∉ field := by
  induction s generalizing field with
  | nil =>
    obtain rfl : field = [] := by simpa [split] using h
    exact List.not_mem_nil
  | cons c rest ih =>
    by_cases same : c = separator
    · obtain rfl | later : field = [] ∨ field ∈ split separator rest := by simpa [split, same] using h
      · exact List.not_mem_nil
      · exact ih later
    · obtain ⟨first, fields, hrest, hsplit⟩ := split_cons_of_ne same rest
      rw [hrest] at ih
      rw [hsplit] at h
      obtain rfl | later := List.mem_cons.1 h
      · have clean := ih List.mem_cons_self
        simp [clean, Ne.symm same]
      · exact ih (List.mem_cons_of_mem _ later)

theorem join_cons_cons (c : Char) (field : List Char) (fields : List (List Char)) :
    join separator ((c :: field) :: fields) = c :: join separator (field :: fields) := by
  cases fields <;> rfl

theorem join_split (s : List Char) : join separator (split separator s) = s := by
  induction s with
  | nil => rfl
  | cons c rest ih =>
    by_cases same : c = separator
    · rw [split, if_pos same, same]
      cases h : split separator rest with
      | nil => exact absurd h (split_ne_nil separator rest)
      | cons field fields =>
        rw [join, ← h, ih, List.nil_append]
        exact List.cons_ne_nil field fields
    · obtain ⟨first, fields, hrest, hsplit⟩ := split_cons_of_ne same rest
      rw [hsplit, join_cons_cons, ← hrest, ih]

theorem split_eq_pair_of_count {s : List Char} (one : s.count separator = 1) :
    ∃ first second, split separator s = [first, second] := by
  have count := length_split separator s
  rw [one] at count
  rcases fields : split separator s with _ | ⟨first, _ | ⟨second, _ | ⟨third, more⟩⟩⟩
  all_goals rw [fields] at count
  · cases count
  · cases count
  · exact ⟨first, second, rfl⟩
  · cases count

theorem split_eq_pair_iff {s first second : List Char} : split separator s = [first, second] ↔
    s = first ++ separator :: second ∧ separator ∉ first ∧ separator ∉ second := by
  constructor
  · intro h
    refine ⟨?_, notMem_of_mem_split (s := s) (by simp [h]), notMem_of_mem_split (s := s) (by simp [h])⟩
    rw [← join_split s, h]
    rfl
  · rintro ⟨rfl, clean, clean'⟩
    rw [split_append_separator separator first second clean, split_of_notMem separator second clean']

end VoterSession.Text.Separated
