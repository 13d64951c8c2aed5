import VoterSession.Network.Address
import VoterSession.Text.Character
set_option autoImplicit false

/-!
Absolute `http` and `https` addresses, and the host that one names. Only the form is checked: a port
need not be a number, and percent signs may stand in the user part alone.
-/
namespace VoterSession.Network

structure HttpUri where
  /-- What stands before the first slash, question mark or number sign. -/
  authority : List Char
  /-- The path and the query, without a fragment. -/
  path : List Char
deriving DecidableEq

namespace HttpUri

def maxLength : Nat := 65534

/-- The characters that may stand in an authority, percent signs apart. -/
def isUriChar (c : Char) : Bool := c.isAlphanum || "!$&'()*+,-.:;=@[]_~".toList.contains c

/-- What has been seen of an authority so far. A bracketed host and a user part have colons and
percent signs of their own, which are forgotten at their end. -/
structure Scan where
  colons : Nat := 0
  opened : Bool := false
  closed : Bool := false
  percent : Bool := false
  endsInAt : Bool := false
deriving DecidableEq

def Scan.next? (scan : Scan) (c : Char) : Option Scan :=
  let scan := { scan with endsInAt := c == '@' }
  if c = ':' then if 8 ≤ scan.colons then none else some { scan with colons := scan.colons + 1 }
  else if c = '[' then if scan.percent || scan.opened then none else some { scan with opened := true }
  else if c = ']' then
    if !scan.opened || scan.closed then none
    else some { scan with closed := true, colons := 0, percent := false }
  else if c = '@' then some { scan with colons := 0, percent := false }
  else if c = '%' then some { scan with percent := true }
  else if isUriChar c then some scan
  else none

/-- Whether the scan may end here: brackets come in pairs, one colon leads to the port, something
follows the user part, and no percent sign is left. -/
def Scan.complete (scan : Scan) : Bool :=
  scan.opened == scan.closed && scan.colons ≤ 1 && !scan.endsInAt && !scan.percent

def isAuthority (s : List Char) : Bool :=
  !s.isEmpty && (s.foldlM Scan.next? {}).any Scan.complete

def isPathChar (c : Char) : Bool :=
  let n := c.toNat
  n == 0x21 || (0x24 ≤ n && n ≤ 0x3B) || n == 0x3D || (0x40 ≤ n && n ≤ 0x5F) || (0x61 ≤ n && n ≤ 0x7A) ||
    n == 0x7C || n == 0x7E || 0x80 ≤ n || c == '"' || c == '\x7b' || c == '\x7d'

def isQueryChar (c : Char) : Bool :=
  let n := c.toNat
  n == 0x21 || (0x24 ≤ n && n ≤ 0x3B) || n == 0x3D || (0x3F ≤ n && n != 0x7F)

def isPath (s : List Char) : Bool :=
  (s.takeWhile (· != '?')).all isPathChar && ((s.dropWhile (· != '?')).drop 1).all isQueryChar

/-- What follows the scheme, which may be in any letter case. -/
def afterScheme? (s : List Char) : Option (List Char) :=
  ["http://", "https://"].findSome? fun scheme =>
    let n := scheme.length
    if (s.take n).map Char.toLower = scheme.toList then some (s.drop n) else none

def ofText? (s : String) : Option HttpUri :=
  if maxLength < s.utf8ByteSize then none
  else do
    let rest ← afterScheme? s.toList
    let isEnd (c : Char) : Bool := c == '/' || c == '?' || c == '#'
    let authority := rest.takeWhile fun c => !isEnd c
    let path := (rest.drop authority.length).takeWhile (· != '#')
    if isAuthority authority && isPath path then some ⟨authority, path⟩ else none

def afterUser (s : List Char) : List Char := (s.reverse.takeWhile (· != '@')).reverse

/-- The host: with its brackets, or up to the port. -/
def host (uri : HttpUri) : List Char :=
  match afterUser uri.authority with
  | '[' :: rest => '[' :: rest.takeWhile (· != ']') ++ [']']
  | s => s.takeWhile (· != ':')

def bare (host : List Char) : List Char :=
  ((host.dropWhile (· == '[')).reverse.dropWhile (· == ']')).reverse

def isLoopback (uri : HttpUri) : Bool :=
  let host := bare uri.host
  host.map Char.toLower == "localhost".toList || (IpAddress.ofChars? host).any IpAddress.isLoopback

end HttpUri

end VoterSession.Network
