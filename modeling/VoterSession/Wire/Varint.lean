import VoterSession.Bytes
set_option autoImplicit false

/-!
Variable-length numbers: seven bits to a byte, the lowest first, with the high bit set on every byte
but the last. A number is below 2^64 and takes at most ten bytes; longer spellings with zero bits on
top are read too.
-/
namespace VoterSession.Wire.Varint

def encode (n : Nat) : Bytes :=
  if n < 128 then [.ofNat n] else .ofNat (n % 128 + 128) :: encode (n / 128)
termination_by n

/-- A number in at most `left` bytes and the bytes after it. The last byte that may follow holds the
one bit that is left of 64. -/
def read? (left : Nat) (bytes : Bytes) : Option (Nat × Bytes) :=
  match left, bytes with
  | 0, _ => none
  | _ + 1, [] => none
  | left + 1, b :: rest =>
    if b.toNat < 128 then
      if left = 0 ∧ 2 ≤ b.toNat then none else some (b.toNat, rest)
    else (read? left rest).map fun (high, rest) => (b.toNat % 128 + 128 * high, rest)

def decode? (bytes : Bytes) : Option (Nat × Bytes) := read? 10 bytes

end VoterSession.Wire.Varint
