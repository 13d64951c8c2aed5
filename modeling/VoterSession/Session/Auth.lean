set_option autoImplicit false

/-!
How a voter is authenticated: the tag a session is bound to, and how the connection of one call was
authenticated. Main statement: a tag is named by exactly one text.
-/
namespace VoterSession

inductive AuthTag where
  | unresolved
  | idCard
  | mobileId
  | smartId
  | webEid
deriving DecidableEq, Inhabited

namespace AuthTag

def name : AuthTag → String
  | unresolved => ""
  | idCard => "id"
  | mobileId => "mid"
  | smartId => "sid"
  | webEid => "wid"

def resolved : List AuthTag := [idCard, mobileId, smartId, webEid]

def all : List AuthTag := unresolved :: resolved

def ofName? (s : String) : Option AuthTag := all.find? fun tag => tag.name == s

def isResolved (tag : AuthTag) : Bool := tag != unresolved

def label (tag : AuthTag) : String := if tag.isResolved then tag.name else "<none>"

theorem ofName?_name (tag : AuthTag) : ofName? tag.name = some tag := by
  cases tag <;> decide

theorem ofName?_eq_some_iff {s : String} {tag : AuthTag} : ofName? s = some tag ↔ s = tag.name := by
  constructor
  · intro h
    have := List.find?_some h
    exact (beq_iff_eq.1 this).symm
  · rintro rfl
    exact ofName?_name tag

end AuthTag

inductive Transport where
  /-- A client certificate: the ID card. -/
  | tls
  /-- A ticket from an earlier Mobile-ID, Smart-ID or Web eID authentication. -/
  | ticket
deriving DecidableEq

namespace Transport

def name : Transport → String
  | tls => "tls"
  | ticket => "ticket"

def all : List Transport := [tls, ticket]

def ofName? (s : String) : Option Transport := all.find? fun t => t.name == s

end Transport

end VoterSession
