import Mathlib.Data.List.Basic
import Mathlib.Tactic.Common

namespace P3Portal.Foundation

/-- A function declares the keyword arguments that it needs and those with a default. -/
structure Signature where
  required : List String
  optional : List String := []

namespace Signature

/-- A call binds when it gives every required keyword and no undeclared one. -/
def Binds (signature : Signature) (names : List String) : Prop :=
  (∀ name ∈ names, name ∈ signature.required ++ signature.optional) ∧ ∀ name ∈ signature.required, name ∈ names

instance (signature : Signature) (names : List String) : Decidable (signature.Binds names) :=
  inferInstanceAs (Decidable (_ ∧ _))

/-- One undeclared keyword makes the call fail before the body runs. -/
theorem not_binds_of_undeclared {signature : Signature} {names : List String} {name : String}
    (given : name ∈ names) (undeclared : name ∉ signature.required ++ signature.optional) :
    ¬ signature.Binds names := by
  intro binds
  exact undeclared (binds.1 name given)

end Signature
end P3Portal.Foundation
