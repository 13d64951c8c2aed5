import VoterSession.Bytes
set_option autoImplicit false

/-!
Base64 with the standard alphabet, `=` for padding, and one written form for each byte string: the
length is a multiple of four, padding is required and stands only in the last group, and the bits that
a padded group leaves over are zero.
-/
namespace VoterSession.Text.Base64

def pad : UInt8 := 0x3D

def alphabet : Bytes :=
  Bytes.ofText "ABCDEFGHIJKLMNOPQRSTUVWXYZabcdefghijklmnopqrstuvwxyz0123456789+/"

def symbol (n : Nat) : UInt8 := alphabet.getD n pad

def value? (b : UInt8) : Option Nat := alphabet.findIdx? (· == b)

def encode : Bytes → Bytes
  | [] => []
  | [a] => [symbol (a.toNat / 4), symbol (a.toNat % 4 * 16), pad, pad]
  | [a, b] =>
    [symbol (a.toNat / 4), symbol (a.toNat % 4 * 16 + b.toNat / 16), symbol (b.toNat % 16 * 4), pad]
  | a :: b :: c :: rest =>
    symbol (a.toNat / 4) :: symbol (a.toNat % 4 * 16 + b.toNat / 16) ::
      symbol (b.toNat % 16 * 4 + c.toNat / 64) :: symbol (c.toNat % 64) :: encode rest

def fullGroup? (a b c d : UInt8) : Option Bytes := do
  let w ← value? a
  let x ← value? b
  let y ← value? c
  let z ← value? d
  some [.ofNat (w * 4 + x / 16), .ofNat (x % 16 * 16 + y / 4), .ofNat (y % 4 * 64 + z)]

/-- The bytes of a group that may be padded: one, two or three. -/
def lastGroup? (a b c d : UInt8) : Option Bytes :=
  if d ≠ pad then fullGroup? a b c d
  else if c ≠ pad then do
    let w ← value? a
    let x ← value? b
    let y ← value? c
    if y % 4 = 0 then some [.ofNat (w * 4 + x / 16), .ofNat (x % 16 * 16 + y / 4)] else none
  else do
    let w ← value? a
    let x ← value? b
    if x % 16 = 0 then some [.ofNat (w * 4 + x / 16)] else none

def decode? : Bytes → Option Bytes
  | [] => some []
  | [a, b, c, d] => lastGroup? a b c d
  | a :: b :: c :: d :: rest => do
    let group ← fullGroup? a b c d
    let bytes ← decode? rest
    some (group ++ bytes)
  | _ => none

end VoterSession.Text.Base64
