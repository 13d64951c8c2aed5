set_option autoImplicit false

/-!
Reading JSON text. Of the numbers only those without sign, fraction and exponent keep their value,
since no setting takes another one. An object keeps its members in order, repeated names included.
-/
namespace VoterSession.Text

inductive Json where
  | null
  | bool (b : Bool)
  | natural (n : Nat)
  /-- A number with a sign, a fraction or an exponent. -/
  | number
  | text (s : String)
  | array (items : List Json)
  | object (members : List (String × Json))

namespace Json

/-- Drops the four characters that may stand between tokens. -/
def skip (s : List Char) : List Char :=
  s.dropWhile fun c => c == ' ' || c == '\t' || c == '\n' || c == '\r'

def hexDigit? (c : Char) : Option Nat :=
  let n := c.toNat
  if c.isDigit then some (n - 0x30)
  else if 0x61 ≤ n ∧ n ≤ 0x66 then some (n - 0x61 + 10)
  else if 0x41 ≤ n ∧ n ≤ 0x46 then some (n - 0x41 + 10)
  else none

/-- A unit of a string: a character, or a sixteen-bit unit written by its number. -/
inductive StringUnit where
  | char (c : Char)
  | code (n : Nat)

def escaped? : Char → Option Char
  | '"' => some '"'
  | '\\' => some '\\'
  | '/' => some '/'
  | 'b' => some '\x08'
  | 'f' => some '\x0c'
  | 'n' => some '\n'
  | 'r' => some '\r'
  | 't' => some '\t'
  | _ => none

def units? : List Char → Option (List StringUnit × List Char)
  | '"' :: rest => some ([], rest)
  | '\\' :: 'u' :: a :: b :: c :: d :: rest => do
    let n := (← hexDigit? a) * 4096 + (← hexDigit? b) * 256 + (← hexDigit? c) * 16 + (← hexDigit? d)
    let (units, rest) ← units? rest
    some (.code n :: units, rest)
  | '\\' :: c :: rest => do
    let c ← escaped? c
    let (units, rest) ← units? rest
    some (.char c :: units, rest)
  | c :: rest =>
    if c.toNat < 0x20 then none
    else do
      let (units, rest) ← units? rest
      some (.char c :: units, rest)
  | [] => none

/-- The characters of some units. Two units that make up a pair are one character; half a pair is
refused. -/
def characters? : List StringUnit → Option (List Char)
  | [] => some []
  | .char c :: rest => (characters? rest).map (c :: ·)
  | .code n :: rest =>
    if n < 0xD800 ∨ 0xE000 ≤ n then (characters? rest).map (Char.ofNat n :: ·)
    else if n < 0xDC00 then
      match rest with
      | .code low :: rest =>
        if 0xDC00 ≤ low ∧ low < 0xE000 then
          (characters? rest).map (Char.ofNat (0x10000 + (n - 0xD800) * 1024 + (low - 0xDC00)) :: ·)
        else none
      | _ => none
    else none

def string? (s : List Char) : Option (String × List Char) := do
  let (units, rest) ← units? s
  some (String.ofList (← characters? units), rest)

def digits? (s : List Char) : Option (List Char × List Char) :=
  let digits := s.takeWhile Char.isDigit
  if digits = [] then none else some (digits, s.drop digits.length)

def whole? : List Char → Option (Nat × List Char)
  | '0' :: rest => some (0, rest)
  | s => (digits? s).map fun (digits, rest) => (Nat.ofDigitChars 10 digits 0, rest)

def afterFraction? : List Char → Option (List Char)
  | '.' :: rest => (digits? rest).map Prod.snd
  | s => some s

def afterExponent? : List Char → Option (List Char)
  | c :: rest =>
    if c = 'e' ∨ c = 'E' then
      match rest with
      | '+' :: rest => (digits? rest).map Prod.snd
      | '-' :: rest => (digits? rest).map Prod.snd
      | rest => (digits? rest).map Prod.snd
    else some (c :: rest)
  | [] => some []

def number? (s : List Char) : Option (Json × List Char) := do
  let (negative, s) := match s with
    | '-' :: rest => (true, rest)
    | s => (false, s)
  let (n, afterWhole) ← whole? s
  let rest ← afterExponent? (← afterFraction? afterWhole)
  some (if negative || rest.length != afterWhole.length then number else natural n, rest)

mutual

/-- A value and the characters after it, with at most `steps` values inside each other or in a row. -/
def value? : (steps : Nat) → List Char → Option (Json × List Char)
  | 0, _ => none
  | steps + 1, s =>
    match skip s with
    | 'n' :: 'u' :: 'l' :: 'l' :: rest => some (null, rest)
    | 't' :: 'r' :: 'u' :: 'e' :: rest => some (bool true, rest)
    | 'f' :: 'a' :: 'l' :: 's' :: 'e' :: rest => some (bool false, rest)
    | '"' :: rest => (string? rest).map fun (s, rest) => (text s, rest)
    | '[' :: rest =>
      match skip rest with
      | ']' :: rest => some (array [], rest)
      | rest => (items? steps rest).map fun (items, rest) => (array items, rest)
    | '\x7b' :: rest =>
      match skip rest with
      | '\x7d' :: rest => some (object [], rest)
      | rest => (members? steps rest).map fun (members, rest) => (object members, rest)
    | rest => number? rest

def items? : (steps : Nat) → List Char → Option (List Json × List Char)
  | 0, _ => none
  | steps + 1, s => do
    let (item, rest) ← value? steps s
    match skip rest with
    | ',' :: rest => (items? steps rest).map fun (items, rest) => (item :: items, rest)
    | ']' :: rest => some ([item], rest)
    | _ => none

def members? : (steps : Nat) → List Char → Option (List (String × Json) × List Char)
  | 0, _ => none
  | steps + 1, s =>
    match skip s with
    | '"' :: rest => do
      let (name, rest) ← string? rest
      match skip rest with
      | ':' :: rest => do
        let (member, rest) ← value? steps rest
        match skip rest with
        | ',' :: rest => (members? steps rest).map fun (members, rest) => ((name, member) :: members, rest)
        | '\x7d' :: rest => some ([(name, member)], rest)
        | _ => none
      | _ => none
    | _ => none

end

/-- The value that is the whole text. Each step of the reader takes a character or goes one level down
after taking one, so twice as many steps as there are characters are enough. -/
def ofText? (s : String) : Option Json := do
  let (json, rest) ← value? (2 * s.length + 1) s.toList
  if skip rest = [] then some json else none

end Json

end VoterSession.Text
