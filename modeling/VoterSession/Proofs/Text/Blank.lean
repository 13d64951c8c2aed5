import VoterSession.Text.Blank
set_option autoImplicit false

/-!
Blanks at the ends of a text. Trimming takes all of them and nothing else, and does not depend on letter case. Main
statements: `trim_eq_iff_stripped`, `trim_eq_iff` and `trim_map_toLower`.
-/
namespace VoterSession.Text

/-! ### One end -/

theorem trimStart_append {before : List Char} (blank : ∀ c ∈ before, isBlank c = true) (s : List Char) :
    trimStart (before ++ s) = trimStart s := by
  induction before with
  | nil => rfl
  | cons c before ih =>
    rw [trimStart, List.cons_append, List.dropWhile_cons_of_pos (blank c List.mem_cons_self)]
    exact ih fun d hd => blank d (List.mem_cons_of_mem c hd)

theorem trimEnd_append {after : List Char} (blank : ∀ c ∈ after, isBlank c = true) (s : List Char) :
    trimEnd (s ++ after) = trimEnd s := by
  have reversed : ∀ c ∈ after.reverse, isBlank c = true := fun c hc => blank c (List.mem_reverse.1 hc)
  rw [trimEnd, trimEnd, List.reverse_append]
  exact congrArg List.reverse (trimStart_append reversed s.reverse)

theorem exists_trimStart (s : List Char) :
    ∃ before, s = before ++ trimStart s ∧ ∀ c ∈ before, isBlank c = true :=
  ⟨s.takeWhile isBlank, List.takeWhile_append_dropWhile.symm, List.all_eq_true.1 List.all_takeWhile⟩

theorem exists_trimEnd (s : List Char) :
    ∃ after, s = trimEnd s ++ after ∧ ∀ c ∈ after, isBlank c = true := by
  obtain ⟨before, hs, blank⟩ := exists_trimStart s.reverse
  refine ⟨before.reverse, ?_, fun c hc => blank c (List.mem_reverse.1 hc)⟩
  have whole := congrArg List.reverse hs
  rwa [List.reverse_reverse, List.reverse_append] at whole

theorem trimStart_eq_self {s : List Char} (front : ∀ c ∈ s.head?, isBlank c = false) : trimStart s = s := by
  cases s with
  | nil => rfl
  | cons c rest => exact List.dropWhile_cons_of_neg (by simp [front c rfl])

theorem trimEnd_eq_self {s : List Char} (back : ∀ c ∈ s.getLast?, isBlank c = false) : trimEnd s = s := by
  have reversed : trimStart s.reverse = s.reverse := trimStart_eq_self (by rwa [List.head?_reverse])
  exact (congrArg List.reverse reversed).trans s.reverse_reverse

theorem head?_trimStart (s : List Char) : ∀ c ∈ (trimStart s).head?, isBlank c = false := by
  intro c hc
  have stopped := List.head?_dropWhile_not isBlank s
  rw [trimStart] at hc
  rw [hc] at stopped
  exact stopped

/-! ### Both ends -/

def Padded (core s : List Char) : Prop :=
  ∃ before after, s = before ++ core ++ after ∧ (∀ c ∈ before, isBlank c = true) ∧ ∀ c ∈ after, isBlank c = true

theorem padded_trim (s : List Char) : Padded (trim s) s := by
  obtain ⟨before, hs, front⟩ := exists_trimStart s
  obtain ⟨after, hrest, back⟩ := exists_trimEnd (trimStart s)
  refine ⟨before, after, ?_, front, back⟩
  rw [List.append_assoc, trim, ← hrest]
  exact hs

/-- `core` is `s` without the blanks at its ends: those are gone from both, and what stands inside does not matter. -/
structure Stripped (core s : List Char) : Prop where
  padded : Padded core s
  front : ∀ c ∈ core.head?, isBlank c = false
  back : ∀ c ∈ core.getLast?, isBlank c = false

theorem stripped_trim (s : List Char) : Stripped (trim s) s where
  padded := padded_trim s
  front := by
    intro c hc
    obtain ⟨after, hs, _⟩ := exists_trimEnd (trimStart s)
    refine head?_trimStart s c ?_
    rw [hs, List.head?_append]
    exact Option.mem_def.2 (Option.or_eq_some_iff.2 (.inl hc))
  back := by
    intro c hc
    rw [trim, trimEnd, List.getLast?_reverse] at hc
    exact head?_trimStart _ c hc

theorem trim_eq_iff_stripped {core s : List Char} : trim s = core ↔ Stripped core s := by
  constructor
  · rintro rfl
    exact stripped_trim s
  · rintro ⟨⟨before, after, rfl, leading, trailing⟩, front, back⟩
    rw [trim, List.append_assoc, trimStart_append leading]
    cases core with
    | nil =>
      have blank : trimStart after = [] := by
        have dropped := trimStart_append trailing []
        rwa [List.append_nil] at dropped
      rw [List.nil_append, blank]
      rfl
    | cons c core =>
      have kept : trimStart (c :: core ++ after) = c :: core ++ after := trimStart_eq_self front
      rw [kept, trimEnd_append trailing, trimEnd_eq_self back]

theorem trim_eq_iff {core s : List Char} (unblank : ∀ c ∈ core, isBlank c = false) :
    trim s = core ↔ Padded core s := by
  rw [trim_eq_iff_stripped]
  refine ⟨Stripped.padded, fun padded => ⟨padded, fun c hc => ?_, fun c hc => ?_⟩⟩
  · exact unblank c (List.mem_of_mem_head? hc)
  · exact unblank c (List.mem_of_mem_getLast? hc)

theorem trim_of_no_blank {s : List Char} (unblank : ∀ c ∈ s, isBlank c = false) : trim s = s :=
  (trim_eq_iff unblank).2 ⟨[], [], by simp, by simp, by simp⟩

theorem trim_eq_nil_iff {s : List Char} : trim s = [] ↔ ∀ c ∈ s, isBlank c = true := by
  rw [trim_eq_iff (by simp)]
  constructor
  · rintro ⟨before, after, rfl, front, back⟩ c hc
    rw [List.append_nil] at hc
    obtain early | late := List.mem_append.1 hc
    · exact front c early
    · exact back c late
  · intro blank
    exact ⟨s, [], by simp, blank, by simp⟩

/-! ### Digits and letters -/

theorem isBlank_eq_false_of_code {c : Char} (code : 48 ≤ c.toNat ∧ c.toNat ≤ 122) : isBlank c = false := by
  simp only [isBlank, Bool.or_eq_false_iff, Bool.and_eq_false_iff, decide_eq_false_iff_not, beq_eq_false_iff_ne]
  omega

theorem isBlank_of_isDigit {c : Char} (h : c.isDigit = true) : isBlank c = false := by
  simp only [Char.isDigit, ge_iff_le, Bool.and_eq_true, decide_eq_true_eq, UInt32.le_iff_toNat_le] at h
  change 48 ≤ c.toNat ∧ c.toNat ≤ 57 at h
  exact isBlank_eq_false_of_code (by omega)

theorem isBlank_toLower (c : Char) : isBlank c.toLower = isBlank c := by
  unfold Char.toLower
  split
  · -- neither a capital nor its small letter is a blank; every other character stays
    rename_i upper
    have code : 65 ≤ c.toNat ∧ c.toNat ≤ 90 := upper
    have lower : (c.val + ('a'.val - 'A'.val)).toNat = c.toNat + 32 := by
      rw [UInt32.toNat_add]
      change (c.toNat + 32) % 4294967296 = c.toNat + 32
      omega
    rw [isBlank_eq_false_of_code (by omega : 48 ≤ c.toNat ∧ c.toNat ≤ 122)]
    refine isBlank_eq_false_of_code ?_
    change 48 ≤ (c.val + ('a'.val - 'A'.val)).toNat ∧ (c.val + ('a'.val - 'A'.val)).toNat ≤ 122
    omega
  · rfl

theorem trimStart_map_toLower (s : List Char) : trimStart (s.map Char.toLower) = (trimStart s).map Char.toLower := by
  have same : isBlank ∘ Char.toLower = isBlank := funext isBlank_toLower
  rw [trimStart, List.dropWhile_map, same, trimStart]

theorem trim_map_toLower (s : List Char) : trim (s.map Char.toLower) = (trim s).map Char.toLower := by
  have reversed := trimStart_map_toLower (trimStart s).reverse
  rw [trim, trimStart_map_toLower, trimEnd, ← List.map_reverse]
  exact (congrArg List.reverse reversed).trans List.map_reverse.symm

end VoterSession.Text
