import VoterSession.Wire.Varint
set_option autoImplicit false

/-!
Tagged fields: the shape that every message has on the wire. A field is a key, which holds the number
of the field and the kind of its payload, and the payload. Fields that a message does not know are
read and dropped, so a payload that no message holds keeps no content.
-/
namespace VoterSession.Wire

inductive WireType where
  | varint
  | fixed64
  | delimited
  | startGroup
  | endGroup
  | fixed32
deriving DecidableEq

def WireType.ofCode? : Nat → Option WireType
  | 0 => some varint
  | 1 => some fixed64
  | 2 => some delimited
  | 3 => some startGroup
  | 4 => some endGroup
  | 5 => some fixed32
  | _ => none

inductive Payload where
  | varint (n : Nat)
  | delimited (bytes : Bytes)
  | fixed64
  | fixed32
  | group
deriving DecidableEq

structure Field where
  number : Nat
  payload : Payload
deriving DecidableEq

namespace Field

/-- How many messages and groups may stand in each other. -/
def depthLimit : Nat := 100

/-- A key: the number of a field, from 1 on, and the kind of its payload. -/
def key? (bytes : Bytes) : Option (Nat × WireType × Bytes) := do
  let (key, rest) ← Varint.decode? bytes
  if UInt32.size ≤ key then none
  else
    let type ← WireType.ofCode? (key % 8)
    if key / 8 = 0 then none else some (key / 8, type, rest)

def take? (n : Nat) (bytes : Bytes) : Option (Bytes × Bytes) :=
  if n ≤ bytes.length then some (bytes.take n, bytes.drop n) else none

def scalar? (type : WireType) (bytes : Bytes) : Option (Payload × Bytes) :=
  match type with
  | .varint => (Varint.decode? bytes).map fun (n, rest) => (.varint n, rest)
  | .fixed64 => (take? 8 bytes).map fun (_, rest) => (.fixed64, rest)
  | .delimited => do
    let (length, rest) ← Varint.decode? bytes
    let (content, rest) ← take? length rest
    some (.delimited content, rest)
  | .fixed32 => (take? 4 bytes).map fun (_, rest) => (.fixed32, rest)
  | .startGroup => none
  | .endGroup => none

/-- The bytes after the innermost to outermost of the open groups have ended. Each round reads a key,
so as many rounds as there are bytes are enough. -/
def skipGroups (limit : Nat) : (rounds : Nat) → (outer : List Nat) → (innermost : Nat) → Bytes → Option Bytes
  | 0, _, _, _ => none
  | rounds + 1, outer, innermost, bytes => do
    let (number, type, rest) ← key? bytes
    match type with
    | .endGroup =>
      if number = innermost then
        match outer with
        | [] => some rest
        | enclosing :: outer => skipGroups limit rounds outer enclosing rest
      else none
    | .startGroup =>
      if limit ≤ outer.length + 1 then none else skipGroups limit rounds (innermost :: outer) number rest
    | type =>
      if limit ≤ outer.length + 1 then none
      else do
        let (_, rest) ← scalar? type rest
        skipGroups limit rounds outer innermost rest

def read? (limit : Nat) (bytes : Bytes) : Option (Field × Bytes) := do
  let (number, type, rest) ← key? bytes
  match type with
  | .startGroup => do
    let rest ← skipGroups limit rest.length [] number rest
    some (⟨number, .group⟩, rest)
  | type => do
    let (payload, rest) ← scalar? type rest
    some (⟨number, payload⟩, rest)

def readAll? (limit : Nat) : (rounds : Nat) → Bytes → Option (List Field)
  | _, [] => some []
  | 0, _ => none
  | rounds + 1, bytes => do
    let (field, rest) ← read? limit bytes
    let fields ← readAll? limit rounds rest
    some (field :: fields)

def decodeAll? (limit : Nat) (bytes : Bytes) : Option (List Field) := readAll? limit bytes.length bytes

/-- The bytes of a field with a number or a byte string; the other payloads are never written. -/
def encode (field : Field) : Bytes :=
  match field.payload with
  | .varint n => Varint.encode (field.number * 8) ++ Varint.encode n
  | .delimited content =>
    Varint.encode (field.number * 8 + 2) ++ Varint.encode content.length ++ content
  | _ => []

def encodeAll (fields : List Field) : Bytes := fields.flatMap encode

/-- The field for a text; an empty text is left out. -/
def ofText (number : Nat) (s : String) : List Field :=
  if s = "" then [] else [⟨number, .delimited (Bytes.ofText s)⟩]

def ofBytes (number : Nat) (bytes : Bytes) : List Field :=
  if bytes = [] then [] else [⟨number, .delimited bytes⟩]

def ofBool (number : Nat) (b : Bool) : List Field :=
  if b then [⟨number, .varint 1⟩] else []

def bytes? : Payload → Option Bytes
  | .delimited content => some content
  | _ => none

def text? (payload : Payload) : Option String := do Bytes.text? (← bytes? payload)

/-- The truth value in a payload: every number but zero is true. -/
def bool? : Payload → Option Bool
  | .varint n => some (n != 0)
  | _ => none

end Field

end VoterSession.Wire
