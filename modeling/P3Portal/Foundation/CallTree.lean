import Mathlib.Data.List.Basic
import Mathlib.Tactic.Common

namespace P3Portal.Foundation

/-- A call waits for the calls that it depends on. -/
inductive CallTree (Call : Type) where
  | node (call : Option Call) (dependencies : List (CallTree Call))

namespace CallTree
variable {Call Failure : Type}

mutual
/-- The calls at any depth of a tree; a call comes behind its dependencies. -/
def calls : CallTree Call → List Call
  | .node call dependencies => callsAll dependencies ++ call.toList

def callsAll : List (CallTree Call) → List Call
  | [] => []
  | tree :: rest => calls tree ++ callsAll rest
end

@[simp] theorem calls_node (call : Option Call) (dependencies : List (CallTree Call)) :
    (CallTree.node call dependencies).calls = callsAll dependencies ++ call.toList := by
  rw [calls]

@[simp] theorem callsAll_nil : callsAll ([] : List (CallTree Call)) = [] := by
  rw [callsAll]

@[simp] theorem callsAll_cons (tree : CallTree Call) (rest : List (CallTree Call)) :
    callsAll (tree :: rest) = tree.calls ++ callsAll rest := by
  rw [callsAll]

mutual
/-- A test of one call finds a tree with a call at any depth that passes it. -/
def anyCall (test : Call → Bool) : CallTree Call → Bool
  | .node call dependencies => call.any test || anyCallOf test dependencies

def anyCallOf (test : Call → Bool) : List (CallTree Call) → Bool
  | [] => false
  | tree :: rest => anyCall test tree || anyCallOf test rest
end

mutual
theorem anyCall_eq (test : Call → Bool) : ∀ tree : CallTree Call, tree.anyCall test = tree.calls.any test
  | .node call dependencies => by
      rw [anyCall, calls, List.any_append, anyCallOf_eq test dependencies, Bool.or_comm]
      cases call <;> simp

theorem anyCallOf_eq (test : Call → Bool) :
    ∀ trees : List (CallTree Call), anyCallOf test trees = (callsAll trees).any test
  | [] => by simp [anyCallOf]
  | tree :: rest => by
      rw [anyCallOf, callsAll, List.any_append, anyCall_eq test tree, anyCallOf_eq test rest]
end

mutual
/-- The first failing call ends the resolution. -/
def resolve (run : Call → Except Failure Unit) : CallTree Call → Except Failure Unit
  | .node call dependencies =>
      match resolveAll run dependencies with
      | .error failure => .error failure
      | .ok () => call.elim (.ok ()) run

def resolveAll (run : Call → Except Failure Unit) : List (CallTree Call) → Except Failure Unit
  | [] => .ok ()
  | tree :: rest =>
      match resolve run tree with
      | .error failure => .error failure
      | .ok () => resolveAll run rest
end

mutual
theorem resolve_eq_ok_iff (run : Call → Except Failure Unit) :
    ∀ tree : CallTree Call, tree.resolve run = .ok () ↔ ∀ call ∈ tree.calls, run call = .ok ()
  | .node call dependencies => by
      have below := resolveAll_eq_ok_iff run dependencies
      simp only [resolve, calls]
      cases outcome : resolveAll run dependencies with
      | error failure =>
          rw [outcome] at below
          simp only [reduceCtorEq, false_iff] at below ⊢
          intro passes
          exact below fun call member => passes call (List.mem_append_left _ member)
      | ok _ =>
          have passes := below.mp outcome
          cases call with
          | none => simpa using passes
          | some call =>
              simp only [Option.toList_some, List.mem_append, List.mem_singleton]
              constructor
              · rintro succeeds other (deep | rfl)
                · exact passes other deep
                · exact succeeds
              · intro all
                exact all call (.inr rfl)

/-- The dependencies are resolved exactly when every call at any depth succeeds. -/
theorem resolveAll_eq_ok_iff (run : Call → Except Failure Unit) :
    ∀ trees : List (CallTree Call), resolveAll run trees = .ok () ↔ ∀ call ∈ callsAll trees, run call = .ok ()
  | [] => by simp [resolveAll]
  | tree :: rest => by
      have first := resolve_eq_ok_iff run tree
      have others := resolveAll_eq_ok_iff run rest
      rw [resolveAll, callsAll]
      cases outcome : resolve run tree with
      | error failure =>
          rw [outcome] at first
          simp only [reduceCtorEq, false_iff] at first ⊢
          intro passes
          exact first fun call member => passes call (List.mem_append_left _ member)
      | ok _ =>
          have passes := first.mp outcome
          simp only [others, List.mem_append]
          constructor
          · rintro all call (here | there)
            · exact passes call here
            · exact all call there
          · intro all call there
            exact all call (.inr there)
end

/-- A framework may resolve dependencies in any order and reuse results, as long as a request gets through exactly
when every call succeeds. -/
structure Framework (Call Failure : Type) where
  resolveAll : (Call → Except Failure Unit) → List (CallTree Call) → Except Failure Unit
  resolveAll_eq_ok_iff : ∀ run trees, resolveAll run trees = .ok () ↔ ∀ call ∈ callsAll trees, run call = .ok ()

def depthFirst : Framework Call Failure := ⟨resolveAll, resolveAll_eq_ok_iff⟩

/-- A call that fails less often lets more requests through. -/
theorem Framework.mono (framework : Framework Call Failure) {before after : Call → Except Failure Unit}
    {trees : List (CallTree Call)} (weaker : ∀ call, before call = .ok () → after call = .ok ())
    (through : framework.resolveAll before trees = .ok ()) : framework.resolveAll after trees = .ok () := by
  rw [framework.resolveAll_eq_ok_iff] at through ⊢
  intro call member
  exact weaker call (through call member)

end CallTree
end P3Portal.Foundation
