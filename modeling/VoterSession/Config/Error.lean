import VoterSession.Config.Disk
import VoterSession.Config.Variable
import VoterSession.Store.Basic
set_option autoImplicit false

/-!
What can be wrong with a configuration.
-/
namespace VoterSession.Config

inductive ConfigError where
  | invalidVar (setting : Variable) (reason : String)
  | partialTls (group : String)
  | tlsRequired (group : String)
  | contract (violation : Violation)
  | read (path : String) (fault : FileFault)
  | parse (path : String)
  | endpoint
  | store (source : StoreError)
deriving DecidableEq

/-- The sentence shown for a refusal. The two refusals that come from reading a file's grammar and
from setting up a connection are shown in words of their own elsewhere. -/
def ConfigError.message? : ConfigError → Option String
  | invalidVar setting reason => some (setting.name ++ ": " ++ reason)
  | partialTls group => some (group ++ " must all be set or all be unset")
  | tlsRequired group =>
    some ("mutual TLS is required: set " ++ group ++
      ", or set COLLECTOR_SESSIONSTATUS_INSECURE_PLAINTEXT=1 for a loopback-only plaintext listener")
  | contract violation => some ("invalid configuration: " ++ violation.message)
  | read path fault => some ("cannot read " ++ path ++ ": " ++ fault.message)
  | parse _ => none
  | endpoint => none
  | store source => some ("cannot open lease store: " ++ source.message)

end VoterSession.Config
