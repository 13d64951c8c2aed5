set_option autoImplicit false

/-!
Broken contracts: what is wrong with a value that came from outside, and the sentence that says so.
-/
namespace VoterSession

/-- A field whose value breaks a rule, or lies outside the range it must be in. -/
inductive Violation where
  | invalidValue (field reason : String)
  | invalidRange (field : String) (min max got : Int)
deriving DecidableEq

def Violation.message : Violation → String
  | .invalidValue field reason => field ++ ": " ++ reason
  | .invalidRange field min max got =>
    field ++ ": must be within " ++ toString min ++ "..=" ++ toString max ++ ", got " ++ toString got

end VoterSession
