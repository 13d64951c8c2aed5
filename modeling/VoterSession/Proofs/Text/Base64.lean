import VoterSession.Text.Base64
set_option autoImplicit false

/-!
Base64 is read back as it was written, and nothing is read that is not written so. Main statements:
`decode?_eq_some_iff`, and `decode?_eq_none_iff` in terms of the grammar of written text.
-/
namespace VoterSession.Text.Base64

theorem value?_symbol {n : Nat} (h : n < 64) : value? (symbol n) = some n := by
  have all : ∀ m : Fin 64, value? (symbol m) = some m.val := by decide +kernel
  exact all ⟨n, h⟩

theorem symbol_ne_pad {n : Nat} (h : n < 64) : symbol n ≠ pad := by
  have all : ∀ m : Fin 64, symbol m ≠ pad := by decide +kernel
  exact all ⟨n, h⟩

theorem fullGroup?_encode (a b c : UInt8) :
    fullGroup? (symbol (a.toNat / 4)) (symbol (a.toNat % 4 * 16 + b.toNat / 16))
      (symbol (b.toNat % 16 * 4 + c.toNat / 64)) (symbol (c.toNat % 64)) = some [a, b, c] := by
  have ha := a.toNat_lt
  have hb := b.toNat_lt
  have hc := c.toNat_lt
  have first : a.toNat / 4 * 4 + (a.toNat % 4 * 16 + b.toNat / 16) / 16 = a.toNat := by omega
  have second : (a.toNat % 4 * 16 + b.toNat / 16) % 16 * 16 +
      (b.toNat % 16 * 4 + c.toNat / 64) / 4 = b.toNat := by omega
  have third : (b.toNat % 16 * 4 + c.toNat / 64) % 4 * 64 + c.toNat % 64 = c.toNat := by omega
  unfold fullGroup?
  rw [value?_symbol (by omega), value?_symbol (by omega), value?_symbol (by omega),
    value?_symbol (by omega)]
  simp only [Option.bind_eq_bind, Option.bind_some, first, second, third, UInt8.ofNat_toNat]

theorem lastGroup?_two (a b : UInt8) :
    lastGroup? (symbol (a.toNat / 4)) (symbol (a.toNat % 4 * 16 + b.toNat / 16))
      (symbol (b.toNat % 16 * 4)) pad = some [a, b] := by
  have ha := a.toNat_lt
  have hb := b.toNat_lt
  have first : a.toNat / 4 * 4 + (a.toNat % 4 * 16 + b.toNat / 16) / 16 = a.toNat := by omega
  have second : (a.toNat % 4 * 16 + b.toNat / 16) % 16 * 16 + b.toNat % 16 * 4 / 4 = b.toNat := by
    omega
  have rest : b.toNat % 16 * 4 % 4 = 0 := by omega
  unfold lastGroup?
  rw [if_neg (fun h => h rfl), if_pos (symbol_ne_pad (by omega)), value?_symbol (by omega),
    value?_symbol (by omega), value?_symbol (by omega)]
  simp only [Option.bind_eq_bind, Option.bind_some, first, second, rest, if_true, UInt8.ofNat_toNat]

theorem lastGroup?_one (a : UInt8) :
    lastGroup? (symbol (a.toNat / 4)) (symbol (a.toNat % 4 * 16)) pad pad = some [a] := by
  have ha := a.toNat_lt
  have first : a.toNat / 4 * 4 + a.toNat % 4 * 16 / 16 = a.toNat := by omega
  have rest : a.toNat % 4 * 16 % 16 = 0 := by omega
  unfold lastGroup?
  rw [if_neg (fun h => h rfl), if_neg (fun h => h rfl), value?_symbol (by omega),
    value?_symbol (by omega)]
  simp only [Option.bind_eq_bind, Option.bind_some, first, rest, if_true, UInt8.ofNat_toNat]

theorem decode?_encode (bytes : Bytes) : decode? (encode bytes) = some bytes := by
  induction bytes using encode.induct with
  | case1 => rfl
  | case2 a => exact lastGroup?_one a
  | case3 a b => exact lastGroup?_two a b
  | case4 a b c rest ih =>
    rw [encode]
    cases hrest : encode rest with
    | nil =>
      rw [hrest, decode?] at ih
      cases ih
      have := c.toNat_lt
      simp only [decode?, lastGroup?]
      rw [if_pos (symbol_ne_pad (by omega)), fullGroup?_encode]
    | cons d more =>
      rw [decode?, fullGroup?_encode, ← hrest, ih]
      · rfl
      · simp

/-! ### Canonical text -/

theorem value?_eq_some_iff {b : UInt8} {n : Nat} : value? b = some n ↔ n < 64 ∧ b = symbol n := by
  constructor
  · intro found
    obtain ⟨inside, same, _⟩ := List.findIdx?_eq_some_iff_getElem.1 found
    have size : alphabet.length = 64 := by decide +kernel
    refine ⟨size ▸ inside, ?_⟩
    rw [symbol, List.getD_eq_getElem?_getD, List.getElem?_eq_getElem inside, Option.getD_some]
    exact (beq_iff_eq.1 same).symm
  · rintro ⟨small, rfl⟩
    exact value?_symbol small

theorem encode_values {v w x y : Nat} (hv : v < 64) (hw : w < 64) (hx : x < 64) (hy : y < 64) (rest : Bytes) :
    encode (.ofNat (v * 4 + w / 16) :: .ofNat (w % 16 * 16 + x / 4) :: .ofNat (x % 4 * 64 + y) :: rest) =
      symbol v :: symbol w :: symbol x :: symbol y :: encode rest := by
  have first : (v * 4 + w / 16) % 256 = v * 4 + w / 16 := by omega
  have second : (w % 16 * 16 + x / 4) % 256 = w % 16 * 16 + x / 4 := by omega
  have third : (x % 4 * 64 + y) % 256 = x % 4 * 64 + y := by omega
  have hv' : (v * 4 + w / 16) / 4 = v := by omega
  have hw' : (v * 4 + w / 16) % 4 * 16 + (w % 16 * 16 + x / 4) / 16 = w := by omega
  have hx' : (w % 16 * 16 + x / 4) % 16 * 4 + (x % 4 * 64 + y) / 64 = x := by omega
  have hy' : (x % 4 * 64 + y) % 64 = y := by omega
  simp only [encode, UInt8.toNat_ofNat', first, second, third, hv', hw', hx', hy']

theorem encode_values_two {v w x : Nat} (hv : v < 64) (hw : w < 64) (hx : x < 64) (rest : x % 4 = 0) :
    encode [.ofNat (v * 4 + w / 16), .ofNat (w % 16 * 16 + x / 4)] = [symbol v, symbol w, symbol x, pad] := by
  have first : (v * 4 + w / 16) % 256 = v * 4 + w / 16 := by omega
  have second : (w % 16 * 16 + x / 4) % 256 = w % 16 * 16 + x / 4 := by omega
  have hv' : (v * 4 + w / 16) / 4 = v := by omega
  have hw' : (v * 4 + w / 16) % 4 * 16 + (w % 16 * 16 + x / 4) / 16 = w := by omega
  have hx' : (w % 16 * 16 + x / 4) % 16 * 4 = x := by omega
  simp only [encode, UInt8.toNat_ofNat', first, second, hv', hw', hx']

theorem encode_values_one {v w : Nat} (hv : v < 64) (hw : w < 64) (rest : w % 16 = 0) :
    encode [.ofNat (v * 4 + w / 16)] = [symbol v, symbol w, pad, pad] := by
  have first : (v * 4 + w / 16) % 256 = v * 4 + w / 16 := by omega
  have hv' : (v * 4 + w / 16) / 4 = v := by omega
  have hw' : (v * 4 + w / 16) % 4 * 16 = w := by omega
  simp only [encode, UInt8.toNat_ofNat', first, hv', hw']

theorem encode_of_fullGroup? {a b c d : UInt8} {group : Bytes} (h : fullGroup? a b c d = some group) (rest : Bytes) :
    encode (group ++ rest) = a :: b :: c :: d :: encode rest := by
  simp only [fullGroup?, Option.bind_eq_bind, Option.bind_eq_some_iff, value?_eq_some_iff, Option.some.injEq] at h
  obtain ⟨v, ⟨hv, rfl⟩, w, ⟨hw, rfl⟩, x, ⟨hx, rfl⟩, y, ⟨hy, rfl⟩, rfl⟩ := h
  exact encode_values hv hw hx hy rest

theorem encode_of_lastGroup? {a b c d : UInt8} {group : Bytes} (h : lastGroup? a b c d = some group) :
    encode group = [a, b, c, d] := by
  unfold lastGroup? at h
  split at h
  · have full := encode_of_fullGroup? h []
    rwa [List.append_nil] at full
  · rename_i padded
    obtain rfl : d = pad := Decidable.not_not.1 padded
    split at h
    · simp only [Option.bind_eq_bind, Option.bind_eq_some_iff, value?_eq_some_iff] at h
      obtain ⟨v, ⟨hv, rfl⟩, w, ⟨hw, rfl⟩, x, ⟨hx, rfl⟩, h⟩ := h
      obtain ⟨rest, ⟨⟩⟩ := Option.ite_none_right_eq_some.1 h
      exact encode_values_two hv hw hx rest
    · rename_i padded
      obtain rfl : c = pad := Decidable.not_not.1 padded
      simp only [Option.bind_eq_bind, Option.bind_eq_some_iff, value?_eq_some_iff] at h
      obtain ⟨v, ⟨hv, rfl⟩, w, ⟨hw, rfl⟩, h⟩ := h
      obtain ⟨rest, ⟨⟩⟩ := Option.ite_none_right_eq_some.1 h
      exact encode_values_one hv hw rest

theorem encode_of_decode? {raw bytes : Bytes} (h : decode? raw = some bytes) : encode bytes = raw := by
  induction raw using decode?.induct generalizing bytes with
  | case1 =>
    cases h
    rfl
  | case2 a b c d => exact encode_of_lastGroup? h
  | case3 a b c d rest more ih =>
    rw [decode?] at h
    · simp only [Option.bind_eq_bind, Option.bind_eq_some_iff, Option.some.injEq] at h
      obtain ⟨group, hgroup, tail, htail, rfl⟩ := h
      rw [encode_of_fullGroup? hgroup, ih htail]
    · exact more
  | case4 raw nonempty single longer =>
    rw [decode?] at h
    · cases h
    · exact nonempty
    · exact single
    · exact longer

theorem decode?_eq_some_iff {raw bytes : Bytes} : decode? raw = some bytes ↔ raw = encode bytes :=
  ⟨fun h => (encode_of_decode? h).symm, fun h => h ▸ decode?_encode bytes⟩

/-- Groups of four symbols, of which the last one may end in one or two pads. The bits of its last symbol that no
byte takes are zero then. -/
inductive Canonical : Bytes → Prop
  | empty : Canonical []
  | one {v w : Nat} (hv : v < 64) (hw : w < 64) (rest : w % 16 = 0) : Canonical [symbol v, symbol w, pad, pad]
  | two {v w x : Nat} (hv : v < 64) (hw : w < 64) (hx : x < 64) (rest : x % 4 = 0) :
    Canonical [symbol v, symbol w, symbol x, pad]
  | full {v w x y : Nat} {more : Bytes} (hv : v < 64) (hw : w < 64) (hx : x < 64) (hy : y < 64)
    (next : Canonical more) : Canonical (symbol v :: symbol w :: symbol x :: symbol y :: more)

theorem canonical_encode (bytes : Bytes) : Canonical (encode bytes) := by
  induction bytes using encode.induct with
  | case1 => exact .empty
  | case2 a =>
    have ha := a.toNat_lt
    exact .one (by omega) (by omega) (by omega)
  | case3 a b =>
    have ha := a.toNat_lt
    have hb := b.toNat_lt
    exact .two (by omega) (by omega) (by omega) (by omega)
  | case4 a b c rest ih =>
    have ha := a.toNat_lt
    have hb := b.toNat_lt
    have hc := c.toNat_lt
    exact .full (by omega) (by omega) (by omega) (by omega) ih

theorem Canonical.eq_encode {raw : Bytes} (canonical : Canonical raw) : ∃ bytes, raw = encode bytes := by
  induction canonical with
  | empty => exact ⟨[], rfl⟩
  | one hv hw rest => exact ⟨_, (encode_values_one hv hw rest).symm⟩
  | two hv hw hx rest => exact ⟨_, (encode_values_two hv hw hx rest).symm⟩
  | full hv hw hx hy _ ih =>
    obtain ⟨bytes, rfl⟩ := ih
    exact ⟨_, (encode_values hv hw hx hy bytes).symm⟩

theorem decode?_eq_none_iff {raw : Bytes} : decode? raw = none ↔ ¬ Canonical raw := by
  constructor
  · intro refused canonical
    obtain ⟨bytes, rfl⟩ := canonical.eq_encode
    rw [decode?_encode] at refused
    cases refused
  · intro other
    cases read : decode? raw with
    | none => rfl
    | some bytes =>
      rw [decode?_eq_some_iff.1 read] at other
      exact absurd (canonical_encode bytes) other

end VoterSession.Text.Base64
