set_option autoImplicit false

/-!
Character classes and the case map of the ASCII rules: the control characters (general category Cc),
the characters that are safe in a token, and lower case for the letters `A` to `Z` only.
-/
namespace VoterSession.Text

/-- The control characters U+0000 to U+001F and U+007F to U+009F. -/
def isControl (c : Char) : Bool :=
  c.toNat ≤ 0x1F || (0x7F ≤ c.toNat && c.toNat ≤ 0x9F)

def isTokenSafe (c : Char) : Bool := c.isAlphanum || c = '-' || c = '_'

/-- Lower case for ASCII letters; every other character stays. -/
def lowered (s : String) : String := String.ofList (s.toList.map Char.toLower)

def contains (s part : List Char) : Bool :=
  match s with
  | [] => part.isEmpty
  | c :: rest => part.isPrefixOf (c :: rest) || contains rest part

end VoterSession.Text
