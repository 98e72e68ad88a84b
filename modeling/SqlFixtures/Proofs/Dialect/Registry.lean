import SqlFixtures.Dialect.Registry
import SqlFixtures.Proofs.Keyed
import SqlFixtures.Proofs.Results
import Mathlib.Tactic

/-!
# Looking names up in a registry

A name is known if it was declared, and then stands for one member.  A list of names is resolved to
what its names stand for, in order, unless one of them is unknown; the first of these is reported
with the members of the registry.
-/

namespace SqlFixtures.Registry

/-- The name was declared, for a member of its own or as an alias. -/
def Knows (registry : Registry) (name : String) : Prop := name ∈ registry.entries.map (·.1)

instance (registry : Registry) (name : String) : Decidable (registry.Knows name) :=
  inferInstanceAs (Decidable (name ∈ registry.entries.map (·.1)))

variable {registry : Registry} {owner : Value}

theorem member?_eq_none_iff {name : String} :
    registry.member? name = none ↔ ¬ registry.Knows name :=
  Keyed.lookup_eq_none_iff_not_mem

theorem exists_member?_iff {name : String} :
    (∃ member, registry.member? name = some member) ↔ registry.Knows name := by
  rw [← Option.ne_none_iff_exists', ne_eq, member?_eq_none_iff, not_not]

/-- What a known name stands for: the member itself, or the member that it is an alias of. -/
def memberOf (registry : Registry) (name : String) : String := (registry.member? name).getD name

theorem resolve_eq_ok_iff {name member : String} :
    registry.resolve owner name = .ok member ↔
      registry.Knows name ∧ member = registry.memberOf name := by
  rw [← exists_member?_iff]
  unfold resolve memberOf
  cases registry.member? name with
  | none => simp
  | some found => simp [eq_comm]

theorem resolve_eq_error_iff {name : String} {failure : Failure} :
    registry.resolve owner name = .error failure ↔
      ¬ registry.Knows name ∧ failure = registry.unknown owner name := by
  rw [← member?_eq_none_iff]
  unfold resolve
  cases registry.member? name with
  | none => simp [eq_comm]
  | some found => simp

theorem exists_resolve_iff {name : String} :
    (∃ member, registry.resolve owner name = .ok member) ↔ registry.Knows name := by
  simp [resolve_eq_ok_iff]

theorem resolveAll_eq_ok_iff {names members : List String} :
    registry.resolveAll owner names = .ok members ↔
      (∀ name ∈ names, registry.Knows name) ∧ members = names.map registry.memberOf :=
  Results.mapM_eq_ok_iff_map fun _ _ => resolve_eq_ok_iff

theorem resolveAll_eq_error_iff {names : List String} {failure : Failure} :
    registry.resolveAll owner names = .error failure ↔
      ∃ first name rest, names = first ++ name :: rest ∧ (∀ n ∈ first, registry.Knows n) ∧
        ¬ registry.Knows name ∧ failure = registry.unknown owner name := by
  simp only [resolveAll, Results.mapM_eq_error_iff, exists_resolve_iff, resolve_eq_error_iff]

end SqlFixtures.Registry
