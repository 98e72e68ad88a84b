import SqlFixtures.Xml.Namespace
import SqlFixtures.Proofs.Results
import Mathlib.Tactic

/-!
# Elements without namespaces

A name without a colon that is not the name of a binding has no prefix and binds none.  Where no
namespace is bound to the absence of a prefix, an element with such names only is what it was before
its namespaces were looked up, if its children are.
-/

namespace SqlFixtures.Xml.Namespace

def IsPlainName (name : String) : Prop := boundBy name = none ∧ splitName name = ("", name)

instance (name : String) : Decidable (IsPlainName name) :=
  inferInstanceAs (Decidable (boundBy name = none ∧ splitName name = ("", name)))

variable {scope : Scope}

theorem enter_eq_self {attributes : List (String × String)}
    (hplain : ∀ a ∈ attributes, IsPlainName a.1) : enter scope attributes = some scope := by
  induction attributes with
  | nil => rfl
  | cons a attributes ih =>
      obtain ⟨ha, hplain⟩ := List.forall_mem_cons.mp hplain
      rw [enter, ha.1]
      exact ih hplain

theorem tagName_eq_self (hscope : scope.lookup "" = none) {name : String}
    (hname : IsPlainName name) : tagName scope name = some name := by
  rw [tagName, hname.2, hscope]
  rfl

theorem attributeName_eq_self {name : String} (hname : IsPlainName name) :
    attributeName scope name = some name := by
  rw [attributeName, hname.2]
  rfl

theorem attributesIn_eq_self {attributes : List (String × String)}
    (hplain : ∀ a ∈ attributes, IsPlainName a.1) (hnodup : (attributes.map (·.1)).Nodup) :
    attributesIn scope attributes = some attributes := by
  have hfree : attributes.filter (fun a => (boundBy a.1).isNone) = attributes := by
    rw [List.filter_eq_self]
    intro a ha
    rw [(hplain a ha).1]
    rfl
  have hnamed : attributes.mapM (fun a =>
      (attributeName scope a.1).map fun name => (name, a.2)) = some (attributes.map id) := by
    apply Results.mapM_eq_some_map
    intro a ha
    rw [attributeName_eq_self (hplain a ha)]
    rfl
  rw [List.map_id] at hnamed
  rw [attributesIn, hfree, hnamed]
  simp [hnodup]

theorem resolveAll_eq_self {es : List Element} (hes : ∀ e ∈ es, resolveIn scope e = some e) :
    resolveAll scope es = some es := by
  induction es with
  | nil => rfl
  | cons e es ih =>
      obtain ⟨he, hes⟩ := List.forall_mem_cons.mp hes
      rw [resolveAll, he, ih hes]
      rfl

theorem resolveIn_eq_self (hscope : scope.lookup "" = none) {e : Element}
    (htag : IsPlainName e.tag) (hplain : ∀ a ∈ e.attributes, IsPlainName a.1)
    (hnodup : (e.attributes.map (·.1)).Nodup)
    (hchildren : ∀ child ∈ e.children, resolveIn scope child = some child) :
    resolveIn scope e = some e := by
  obtain ⟨tag, attributes, text, children⟩ := e
  rw [resolveIn, enter_eq_self hplain, Option.bind_eq_bind, Option.bind_some,
    tagName_eq_self hscope htag, Option.bind_eq_bind, Option.bind_some,
    attributesIn_eq_self hplain hnodup, Option.bind_eq_bind, Option.bind_some,
    resolveAll_eq_self hchildren]
  rfl

end SqlFixtures.Xml.Namespace
