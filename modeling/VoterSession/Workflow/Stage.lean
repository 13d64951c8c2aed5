import VoterSession.Session.Auth
import VoterSession.Session.Lease
set_option autoImplicit false

/-!
The stages of a session, the lifetime of each in a deployment, and what a vote does to the session.
-/
namespace VoterSession

/-- A stretch of a session whose steps share one lifetime. -/
inductive Stage where
  | auth
  | choice
  | vote
  | verify
deriving DecidableEq

def Stage.name : Stage → String
  | auth => "auth"
  | choice => "choice"
  | vote => "vote"
  | verify => "verify"

structure StageTtls where
  auth : Ttl := ⟨300, by decide, by decide⟩
  choice : Ttl := ⟨900, by decide, by decide⟩
  vote : Ttl := ⟨900, by decide, by decide⟩
  verify : Ttl := ⟨1800, by decide, by decide⟩
deriving DecidableEq

namespace StageTtls

def standard : StageTtls := {}

/-- The lifetimes of this many seconds; the first stage out of range is reported. -/
def ofSeconds (auth choice vote verify : Nat) : Except Violation StageTtls := do
  let auth ← Ttl.ofSeconds auth
  let choice ← Ttl.ofSeconds choice
  let vote ← Ttl.ofSeconds vote
  let verify ← Ttl.ofSeconds verify
  return { auth, choice, vote, verify }

def ttl (ttls : StageTtls) : Stage → Ttl
  | .auth => ttls.auth
  | .choice => ttls.choice
  | .vote => ttls.vote
  | .verify => ttls.verify

end StageTtls

inductive VoteCompletion where
  /-- Removes it, so that the session is over. -/
  | delete
  /-- Keeps it for the verification service. -/
  | handoff
deriving DecidableEq

namespace VoteCompletion

def name : VoteCompletion → String
  | delete => "delete"
  | handoff => "handoff"

def all : List VoteCompletion := [delete, handoff]

/-- The completion with this name, blanks at its ends apart. -/
def ofText? (s : String) : Option VoteCompletion :=
  all.find? fun completion => completion.name.toList == Text.trim s.toList

end VoteCompletion

end VoterSession
