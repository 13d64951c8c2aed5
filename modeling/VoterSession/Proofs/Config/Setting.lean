import VoterSession.Config.Setting
import VoterSession.Proofs.Session.Header
import VoterSession.Proofs.Text.Decimal
set_option autoImplicit false

/-!
What the reader of a single setting accepts, said of the text of the setting, and what it refuses with. Main
statements: `flag_eq_ok_iff`, `paths_eq_ok_iff`, `numberOr_eq_ok_iff` and `number?_eq_ok_iff`.
-/
namespace VoterSession

theorem bind_eq_error_iff {ε α β : Type} {first : Except ε α} {next : α → Except ε β} {failure : ε} :
    (first >>= next) = .error failure ↔
      first = .error failure ∨ ∃ a, first = .ok a ∧ next a = .error failure := by
  cases first with
  | error why => simp [bind, Except.bind]
  | ok a => simp [bind, Except.bind]

namespace Config

/-! ### Blank settings -/

/-- The setting is not set, or its text has nothing but blanks. -/
def Blank (value? : Option String) : Prop := ∀ value, value? = some value → ∀ c ∈ value.toList, Text.isBlank c = true

def Given (value? : Option String) (value : String) : Prop :=
  value? = some value ∧ ∃ c ∈ value.toList, Text.isBlank c = false

theorem allBlank_eq_false_iff {value : String} :
    Text.allBlank value.toList = false ↔ ∃ c ∈ value.toList, Text.isBlank c = false := by
  simp [Text.allBlank]

theorem nonBlank_eq_none_iff {value? : Option String} : nonBlank value? = none ↔ Blank value? := by
  cases value? with
  | none => simp [nonBlank, Blank]
  | some value => simp [nonBlank, Blank, Text.allBlank, Option.filter]

theorem nonBlank_eq_some_iff {value? : Option String} {value : String} :
    nonBlank value? = some value ↔ Given value? value := by
  rw [nonBlank, Option.filter_eq_some_iff, Bool.not_eq_true', allBlank_eq_false_iff]
  rfl

/-! ### Flags -/

/-- The word of a flag, in any letter case and with blanks at its ends. -/
def word (value : String) : String := Text.lowered (Text.trimmed value)

def SwitchedOn (value? : Option String) : Prop := ∃ value, value? = some value ∧ word value ∈ ["1", "true", "yes"]

def SwitchedOff (value? : Option String) : Prop :=
  ∀ value, value? = some value → word value ∈ ["", "0", "false", "no"]

theorem not_on_of_off {text : String} (off : text ∈ ["", "0", "false", "no"]) : text ∉ ["1", "true", "yes"] := by
  intro on
  simp only [List.mem_cons, List.not_mem_nil, or_false] at on
  obtain rfl | rfl | rfl := on <;> revert off <;> decide

theorem SwitchedOn.not_off {value? : Option String} (on : SwitchedOn value?) : ¬SwitchedOff value? := by
  obtain ⟨value, rfl, set⟩ := on
  exact fun off => not_on_of_off (off value rfl) set

theorem flag_eq_ok_iff {setting : Variable} {value? : Option String} {on : Bool} :
    flag setting value? = .ok on ↔ if on then SwitchedOn value? else SwitchedOff value? := by
  cases value? with
  | none => cases on <;> simp [flag, SwitchedOn, SwitchedOff]
  | some value =>
    have cases_of_word : flag setting (some value) =
        if word value ∈ ["", "0", "false", "no"] then .ok false
        else if word value ∈ ["1", "true", "yes"] then .ok true
        else .error (.invalidVar setting (shown value ++ " is not a boolean flag")) := rfl
    have given_on : SwitchedOn (some value) ↔ word value ∈ ["1", "true", "yes"] := by simp [SwitchedOn]
    have given_off : SwitchedOff (some value) ↔ word value ∈ ["", "0", "false", "no"] := by simp [SwitchedOff]
    rw [cases_of_word, given_on, given_off]
    by_cases off : word value ∈ ["", "0", "false", "no"]
    · have unset := not_on_of_off off
      cases on <;> simp only [off, unset, if_true, Except.ok.injEq, if_false, Bool.false_eq_true]
    · by_cases set : word value ∈ ["1", "true", "yes"] <;> cases on <;>
        simp only [off, set, if_true, if_false, reduceCtorEq, Except.ok.injEq, Bool.false_eq_true, Bool.true_eq_false]

/-! ### Paths -/

theorem paths_eq_ok_iff {group : String} {a? b? c? : Option String} {files : Option (String × String × String)} :
    paths group (nonBlank a?) (nonBlank b?) (nonBlank c?) = .ok files ↔
      match files with
      | none => Blank a? ∧ Blank b? ∧ Blank c?
      | some (a, b, c) => Given a? a ∧ Given b? b ∧ Given c? c := by
  simp only [← nonBlank_eq_none_iff, ← nonBlank_eq_some_iff]
  cases nonBlank a? <;> cases nonBlank b? <;> cases nonBlank c? <;> cases files <;> simp [paths, Prod.ext_iff]

/-! ### Numbers -/

/-- The text is this number, with blanks at its ends: digits, with or without a plus. -/
def Spells (value : String) (n : Nat) : Prop := Text.Decimal.Natural (Text.trim value.toList) n

/-- What a setting comes to that has a value of its own when it is not set. -/
structure Taken (source : Source) (setting : Variable) (low high standard n : Nat) : Prop where
  given : ∀ value, source setting = some value → Spells value n
  unset : source setting = none → n = standard
  range : low ≤ n ∧ n ≤ high

def TakenIfSet (source : Source) (setting : Variable) (low high : Nat) : Option Nat → Prop
  | none => source setting = none
  | some n => ∃ value, source setting = some value ∧ Spells value n ∧ low ≤ n ∧ n ≤ high

variable {source : Source} {setting : Variable} {low high n : Nat}

theorem number_eq_ok_iff (bounded : high ≤ Text.Decimal.maxWord64) {value : String} :
    number setting low high value = .ok n ↔ Spells value n ∧ low ≤ n ∧ n ≤ high := by
  have reads (m : Nat) : Text.Decimal.unsigned? Text.Decimal.maxWord64 (Text.trim value.toList) = some m ↔
      Spells value m ∧ m ≤ Text.Decimal.maxWord64 := Text.Decimal.unsigned?_eq_some_iff
  unfold number
  cases hread : Text.Decimal.unsigned? Text.Decimal.maxWord64 (Text.trim value.toList) with
  | none =>
    simp only [reduceCtorEq, false_iff]
    rintro ⟨spells, _, below⟩
    have read := (reads n).2 ⟨spells, Nat.le_trans below bounded⟩
    cases hread.symm.trans read
  | some m =>
    have spelled := ((reads m).1 hread).1
    constructor
    · intro h
      dsimp only at h
      split at h <;> cases h
      exact ⟨spelled, ‹_›⟩
    · rintro ⟨spells, range⟩
      have read := (reads n).2 ⟨spells, Nat.le_trans range.2 bounded⟩
      obtain rfl : m = n := Option.some.inj (hread.symm.trans read)
      exact if_pos range

theorem numberOr_eq_ok_iff (bounded : high ≤ Text.Decimal.maxWord64) {standard : Nat}
    (standing : low ≤ standard ∧ standard ≤ high) :
    numberOr source setting low high standard = .ok n ↔ Taken source setting low high standard n := by
  unfold numberOr
  cases hsource : source setting with
  | none =>
    constructor
    · intro h
      cases h
      exact ⟨by simp [hsource], fun _ => rfl, standing⟩
    · intro taken
      rw [taken.unset hsource]
  | some value =>
    refine (number_eq_ok_iff bounded).trans ⟨fun ⟨spells, range⟩ => ⟨?_, ?_, range⟩, fun taken => ?_⟩
    · rintro _ same
      cases hsource.symm.trans same
      exact spells
    · simp [hsource]
    · exact ⟨taken.given value hsource, taken.range⟩

theorem number?_eq_ok_iff (bounded : high ≤ Text.Decimal.maxWord64) {n? : Option Nat} :
    number? source setting low high = .ok n? ↔ TakenIfSet source setting low high n? := by
  cases hsource : source setting with
  | none => cases n? <;> simp [number?, TakenIfSet, hsource]
  | some value =>
    have reading : number? source setting low high = (number setting low high value).map some := by
      simp only [number?, hsource]
    rw [reading]
    cases n? with
    | none => cases number setting low high value <;> simp [TakenIfSet, hsource, Except.map]
    | some n =>
      have found := @number_eq_ok_iff setting low high n bounded value
      simp only [TakenIfSet, hsource, Option.some.injEq, exists_eq_left', ← found]
      cases number setting low high value <;> simp [Except.map]

/-! ### Refusals -/

theorem bind_ne_error {ε α β : Type} {first : Except ε α} {next : α → Except ε β} {failure : ε}
    (first_not : first ≠ .error failure) (rest_not : ∀ a, first = .ok a → next a ≠ .error failure) :
    (first >>= next) ≠ .error failure := by
  intro h
  obtain refused | ⟨a, accepted, refused⟩ := bind_eq_error_iff.1 h
  · exact first_not refused
  · exact rest_not a accepted refused

/-- Whatever the reading is refused for, the refusal names this setting. -/
def Blames {α : Type} (setting : Variable) (reading : Except ConfigError α) : Prop :=
  ∀ failure, reading = .error failure → ∃ reason, failure = .invalidVar setting reason

theorem flag_blames (setting : Variable) (value? : Option String) : Blames setting (flag setting value?) := by
  intro failure h
  cases value? with
  | none => cases h
  | some value =>
    dsimp only [flag] at h
    split at h
    · cases h
    · split at h <;> cases h
      exact ⟨_, rfl⟩

theorem number_blames (setting : Variable) (low high : Nat) (value : String) :
    Blames setting (number setting low high value) := by
  intro failure h
  unfold number at h
  split at h
  · cases h
    exact ⟨_, rfl⟩
  · split at h <;> cases h
    exact ⟨_, rfl⟩

theorem numberOr_blames (source : Source) (setting : Variable) (low high standard : Nat) :
    Blames setting (numberOr source setting low high standard) := by
  unfold numberOr
  split
  · nofun
  · exact number_blames setting low high _

theorem number?_blames (source : Source) (setting : Variable) (low high : Nat) :
    Blames setting (number? source setting low high) := by
  intro failure h
  unfold number? at h
  split at h
  · cases h
  · rename_i value _
    cases hnumber : number setting low high value with
    | ok n =>
      rw [hnumber] at h
      cases h
    | error refusal =>
      rw [hnumber] at h
      cases h
      exact number_blames setting low high value failure hnumber

theorem paths_eq_error {group : String} {a? b? c? : Option String} {failure : ConfigError}
    (h : paths group a? b? c? = .error failure) : failure = .partialTls group := by
  cases a? <;> cases b? <;> cases c? <;> cases h <;> rfl

/-- The reading is not refused for a broken contract, whatever else it may be refused for. -/
def KeepsContract {α : Type} (reading : Except ConfigError α) : Prop :=
  ∀ violation, reading ≠ .error (.contract violation)

theorem KeepsContract.bind {α β : Type} {first : Except ConfigError α} {next : α → Except ConfigError β}
    (keeps : KeepsContract first) (rest : ∀ a, first = .ok a → KeepsContract (next a)) :
    KeepsContract (first >>= next) :=
  fun violation => bind_ne_error (keeps violation) fun a accepted => rest a accepted violation

theorem KeepsContract.map {α β : Type} {reading : Except ConfigError α} (keeps : KeepsContract reading) (f : α → β) :
    KeepsContract (reading.map f) := by
  intro violation h
  cases reading with
  | ok a => cases h
  | error failure =>
    cases h
    exact keeps violation rfl

theorem KeepsContract.ok {α : Type} (a : α) : KeepsContract (.ok a) := nofun

theorem Blames.keepsContract {α : Type} {reading : Except ConfigError α} (blames : Blames setting reading) :
    KeepsContract reading := by
  intro violation h
  obtain ⟨reason, other⟩ := blames _ h
  cases other

theorem flag_keeps (setting : Variable) (value? : Option String) : KeepsContract (flag setting value?) :=
  (flag_blames setting value?).keepsContract

theorem numberOr_keeps (source : Source) (setting : Variable) (low high standard : Nat) :
    KeepsContract (numberOr source setting low high standard) :=
  (numberOr_blames source setting low high standard).keepsContract

theorem number?_keeps (source : Source) (setting : Variable) (low high : Nat) :
    KeepsContract (number? source setting low high) :=
  (number?_blames source setting low high).keepsContract

theorem paths_keeps (group : String) (a? b? c? : Option String) : KeepsContract (paths group a? b? c?) :=
  fun _ h => nomatch paths_eq_error h

def Acquits {α : Type} (setting : Variable) (reading : Except ConfigError α) : Prop :=
  ∀ reason, reading ≠ .error (.invalidVar setting reason)

theorem Acquits.bind {α β : Type} {first : Except ConfigError α} {next : α → Except ConfigError β}
    (acquits : Acquits setting first) (rest : ∀ a, Acquits setting (next a)) : Acquits setting (first >>= next) :=
  fun reason => bind_ne_error (acquits reason) fun a _ => rest a reason

theorem Acquits.contract {α : Type} (setting : Variable) (check : Except Violation α) :
    Acquits setting (check.mapError .contract) := by
  intro reason h
  cases check <;> cases h

theorem Blames.acquits {α : Type} {other : Variable} {reading : Except ConfigError α} (blames : Blames other reading)
    (apart : other ≠ setting) : Acquits setting reading := by
  intro reason h
  obtain ⟨_, same⟩ := blames _ h
  cases same
  exact apart rfl

theorem paths_acquits (setting : Variable) (group : String) (a? b? c? : Option String) :
    Acquits setting (paths group a? b? c?) :=
  fun _ h => nomatch paths_eq_error h

end Config

end VoterSession
