import VoterSession.Text.Decimal
set_option autoImplicit false

/-!
Internet addresses and socket addresses: their written forms, and which of them reach no further than
the local host. Four octets are decimal without leading zeros. Eight groups are hexadecimal with at
most four digits; one run of zero groups may be left out, and the last two groups may be written as
four octets. Addresses are written in their canonical short form.
-/
namespace VoterSession.Network

def digit? (radix : Nat) (c : Char) : Option Nat :=
  let n := c.toNat
  let value? :=
    if 0x30 ≤ n ∧ n ≤ 0x39 then some (n - 0x30)
    else if 0x61 ≤ n ∧ n ≤ 0x7A then some (n - 0x61 + 10)
    else if 0x41 ≤ n ∧ n ≤ 0x5A then some (n - 0x41 + 10)
    else none
  value?.filter (· < radix)

structure NumberFormat where
  radix : Nat
  /-- The most digits; without a bound there may be any number of them. -/
  maxDigits : Option Nat
  /-- Whether a number may start with a zero that is not its only digit. -/
  leadingZero : Bool
  max : Nat

/-- A number and the characters after it. -/
def NumberFormat.read? (format : NumberFormat) (s : List Char) : Option (Nat × List Char) :=
  let digits := s.takeWhile fun c => (digit? format.radix c).isSome
  let value := (digits.filterMap (digit? format.radix)).foldl (fun n d => n * format.radix + d) 0
  if digits = [] then none
  else if format.maxDigits.any (· < digits.length) then none
  else if !format.leadingZero && digits.head? = some '0' && 1 < digits.length then none
  else if value ≤ format.max then some (value, s.drop digits.length)
  else none

def octetFormat : NumberFormat := ⟨10, some 3, false, 255⟩

def groupFormat : NumberFormat := ⟨16, some 4, true, 65535⟩

def portFormat : NumberFormat := ⟨10, none, true, Text.Decimal.maxWord16⟩

def scopeFormat : NumberFormat := ⟨10, none, true, Text.Decimal.maxWord32⟩

def expect? (c : Char) : List Char → Option (List Char)
  | d :: rest => if d = c then some rest else none
  | [] => none

structure Ipv4 where
  a : Nat
  b : Nat
  c : Nat
  d : Nat
deriving DecidableEq

structure Ipv6 where
  groups : List Nat
  length_eq : groups.length = 8

instance : DecidableEq Ipv6 := fun x y =>
  decidable_of_iff (x.groups = y.groups) (by cases x; cases y; simp)

namespace Ipv4

def read? (s : List Char) : Option (Ipv4 × List Char) := do
  let (a, s) ← octetFormat.read? s
  let (b, s) ← octetFormat.read? (← expect? '.' s)
  let (c, s) ← octetFormat.read? (← expect? '.' s)
  let (d, s) ← octetFormat.read? (← expect? '.' s)
  some (⟨a, b, c, d⟩, s)

def isLoopback (address : Ipv4) : Bool := address.a == 127

def text (address : Ipv4) : String :=
  toString address.a ++ "." ++ toString address.b ++ "." ++ toString address.c ++ "." ++ toString address.d

end Ipv4

namespace Ipv6

def afterColon? (first : Bool) (s : List Char) : Option (List Char) :=
  if first then some s else expect? ':' s

/-- At most `room` groups, whether the last two of them were written as octets, and the characters
after them. -/
def readGroups : (room : Nat) → (first : Bool) → List Char → List Nat × Bool × List Char
  | 0, _, s => ([], false, s)
  | room + 1, first, s =>
    let octets? := if room = 0 then none else (afterColon? first s).bind Ipv4.read?
    match octets? with
    | some (v4, rest) => ([v4.a * 256 + v4.b, v4.c * 256 + v4.d], true, rest)
    | none =>
      match (afterColon? first s).bind groupFormat.read? with
      | some (group, rest) =>
        let (groups, octets, rest) := readGroups room false rest
        (group :: groups, octets, rest)
      | none => ([], false, s)

def ofGroups? (groups : List Nat) : Option Ipv6 :=
  if h : groups.length = 8 then some ⟨groups, h⟩ else none

/-- Eight groups, or fewer with a gap that stands for at least one zero group, and the characters
after them. -/
def read? (s : List Char) : Option (Ipv6 × List Char) :=
  let (head, octets, rest) := readGroups 8 true s
  if head.length = 8 then (ofGroups? head).map fun address => (address, rest)
  else if octets then none
  else do
    let rest ← expect? ':' (← expect? ':' rest)
    let (tail, _, rest) := readGroups (7 - head.length) true rest
    let zeros := List.replicate (8 - head.length - tail.length) 0
    let address ← ofGroups? (head ++ zeros ++ tail)
    some (address, rest)

def isLoopback (address : Ipv6) : Bool := address.groups == [0, 0, 0, 0, 0, 0, 0, 1]

def groupText (group : Nat) : String := String.ofList (Nat.toDigits 16 group)

def groupsText (groups : List Nat) : String := String.intercalate ":" (groups.map groupText)

/-- Where the first of the longest runs of zero groups starts, and how long it is. -/
def zeroRun (groups : List Nat) : Nat × Nat :=
  let runs := (List.range groups.length).map fun i => (i, ((groups.drop i).takeWhile (· == 0)).length)
  runs.foldl (fun best run => if best.2 < run.2 then run else best) (0, 0)

/-- The canonical form: octets behind a mapped address, and otherwise a gap for the longest run of at
least two zero groups. -/
def text (address : Ipv6) : String :=
  match address.groups with
  | [0, 0, 0, 0, 0, 0xFFFF, high, low] =>
    "::ffff:" ++ Ipv4.text ⟨high / 256, high % 256, low / 256, low % 256⟩
  | groups =>
    let (start, length) := zeroRun groups
    if 1 < length then groupsText (groups.take start) ++ "::" ++ groupsText (groups.drop (start + length))
    else groupsText groups

end Ipv6

inductive IpAddress where
  | v4 (address : Ipv4)
  | v6 (address : Ipv6)
deriving DecidableEq

namespace IpAddress

def ofChars? (s : List Char) : Option IpAddress :=
  match Ipv4.read? s with
  | some (address, rest) => if rest = [] then some (v4 address) else none
  | none =>
    match Ipv6.read? s with
    | some (address, rest) => if rest = [] then some (v6 address) else none
    | none => none

def isLoopback : IpAddress → Bool
  | v4 address => address.isLoopback
  | v6 address => address.isLoopback

end IpAddress

/-- An address with a port; an address of eight groups may name an interface, and zero names none. -/
inductive SocketAddress where
  | v4 (address : Ipv4) (port : Nat)
  | v6 (address : Ipv6) (scope port : Nat)
deriving DecidableEq

namespace SocketAddress

def readPort? (s : List Char) : Option (Nat × List Char) := do
  portFormat.read? (← expect? ':' s)

def readScope (s : List Char) : Nat × List Char :=
  ((expect? '%' s).bind scopeFormat.read?).getD (0, s)

def readV4? (s : List Char) : Option (SocketAddress × List Char) := do
  let (address, s) ← Ipv4.read? s
  let (port, s) ← readPort? s
  some (v4 address port, s)

def readV6? (s : List Char) : Option (SocketAddress × List Char) := do
  let (address, s) ← Ipv6.read? (← expect? '[' s)
  let (scope, s) := readScope s
  let (port, s) ← readPort? (← expect? ']' s)
  some (v6 address scope port, s)

def ofChars? (s : List Char) : Option SocketAddress := do
  let (address, rest) ← (readV4? s <|> readV6? s)
  if rest = [] then some address else none

def isLoopback : SocketAddress → Bool
  | v4 address _ => address.isLoopback
  | v6 address _ _ => address.isLoopback

def port : SocketAddress → Nat
  | v4 _ port => port
  | v6 _ _ port => port

def text : SocketAddress → String
  | v4 address port => address.text ++ ":" ++ toString port
  | v6 address scope port =>
    let interface := if scope = 0 then "" else "%" ++ toString scope
    "[" ++ address.text ++ interface ++ "]:" ++ toString port

end SocketAddress

end VoterSession.Network
