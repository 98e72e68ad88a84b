import SqlFixtures.Proofs.Document.AssertFormat
import SqlFixtures.Proofs.Text.Trimming
import Mathlib.Tactic

/-!
# Elements and their nodes

An element and the node that is made of it are compared place by place.  A place is a path: the
positions of the children to go to, one after another, from the root.  Both have something at the
same paths, so that no child is lost, added or moved, and what they have there agrees in tag,
attributes and stripped text.  No other node agrees with the element in this way.

A node is written back as an element with the same children.  Its text needs no more stripping, and
an element without text gives a node without text again, so reading what was written changes nothing
at any depth.
-/

namespace SqlFixtures

open Record (Node)
open Xml (Element)

/-- What is reached from a root by going to the child at each position of a path in turn. -/
def descendant? {α : Type} (children : α → List α) (root : α) : List Nat → Option α
  | [] => some root
  | position :: path =>
    (children root)[position]?.bind fun child => descendant? children child path

/-- What holds of an element whenever it holds of its children holds of every element. -/
theorem Xml.Element.induct {motive : Element → Prop}
    (step : ∀ e : Element, (∀ child ∈ e.children, motive child) → motive e) (e : Element) :
    motive e := by
  refine @Element.rec motive (fun es => ∀ child ∈ es, motive child) ?_ ?_ ?_ e
  · intro tag attributes text children hchildren
    exact step ⟨tag, attributes, text, children⟩ hchildren
  · simp
  · intro child children hchild hchildren
    exact List.forall_mem_cons.mpr ⟨hchild, hchildren⟩

namespace Record.Node

mutual

/-- Writes a node as an element. -/
def toElement : Node → Element
  | ⟨tag, attributes, text, children⟩ => ⟨tag, attributes, text.getD "", toElements children⟩

def toElements : List Node → List Element
  | [] => []
  | node :: nodes => toElement node :: toElements nodes

end

/-- What a node keeps of an element, their children aside. -/
structure Keeps (e : Element) (node : Node) : Prop where
  tag : node.tag = e.tag
  attributes : node.attributes = e.attributes
  text : ∀ s, node.text = some s ↔
    s ≠ "" ∧ Text.TrimsTo Text.isBlank e.text.toList s.toList
  noText : node.text = none ↔ ∀ c ∈ e.text.toList, Text.isBlank c

/-- The element and the node have something at the same paths, where the node keeps the element. -/
def KeepsWhole (e : Element) (node : Node) : Prop :=
  ∀ path, Option.Rel Keeps (descendant? Element.children e path) (descendant? children node path)

/-! ## Text -/

theorem textOf_of_blank {text : String} (hblank : Text.strip text = "") : textOf text = none := by
  rw [textOf, hblank]
  rfl

theorem textOf_of_not_blank {text : String} (hblank : Text.strip text ≠ "") :
    textOf text = some (Text.strip text) := by
  have hempty : (Text.strip text).isEmpty = false := by simpa using hblank
  simp only [textOf, hempty, Bool.false_eq_true, if_false]

theorem textOf_eq_none_iff {text : String} :
    textOf text = none ↔ ∀ c ∈ text.toList, Text.isBlank c := by
  rw [← Text.strip_eq_empty_iff]
  constructor
  · intro hnone
    by_contra hblank
    rw [textOf_of_not_blank hblank] at hnone
    cases hnone
  · exact textOf_of_blank

theorem textOf_eq_some_iff {text s : String} :
    textOf text = some s ↔ s ≠ "" ∧ Text.TrimsTo Text.isBlank text.toList s.toList := by
  rw [← Text.strip_eq_iff]
  constructor
  · intro hsome
    by_cases hblank : Text.strip text = ""
    · rw [textOf_of_blank hblank] at hsome
      cases hsome
    · rw [textOf_of_not_blank hblank, Option.some_inj] at hsome
      rw [← hsome]
      exact ⟨hblank, rfl⟩
  · rintro ⟨hblank, rfl⟩
    exact textOf_of_not_blank hblank

theorem textOf_getD_textOf (text : String) : textOf ((textOf text).getD "") = textOf text := by
  by_cases hblank : Text.strip text = ""
  · rw [textOf_of_blank hblank]
    rfl
  · rw [textOf_of_not_blank hblank, Option.getD_some, textOf, Text.strip_strip, ← textOf,
      textOf_of_not_blank hblank]

/-! ## Structure -/

theorem ofElement_eq (e : Element) :
    ofElement e = ⟨e.tag, e.attributes, textOf e.text, e.children.map ofElement⟩ := by
  obtain ⟨tag, attributes, text, children⟩ := e
  rw [ofElement, Document.ofElements_eq_map]

theorem toElements_eq_map (nodes : List Node) : toElements nodes = nodes.map toElement := by
  induction nodes with
  | nil => rfl
  | cons node nodes ih => rw [toElements, ih, List.map_cons]

theorem toElement_eq (node : Node) :
    node.toElement =
      ⟨node.tag, node.attributes, node.text.getD "", node.children.map toElement⟩ := by
  obtain ⟨tag, attributes, text, children⟩ := node
  rw [toElement, toElements_eq_map]

@[simp] theorem tag_ofElement (e : Element) : (ofElement e).tag = e.tag := by rw [ofElement_eq]

@[simp] theorem attributes_ofElement (e : Element) : (ofElement e).attributes = e.attributes := by
  rw [ofElement_eq]

@[simp] theorem text_ofElement (e : Element) : (ofElement e).text = textOf e.text := by
  rw [ofElement_eq]

@[simp] theorem children_ofElement (e : Element) :
    (ofElement e).children = e.children.map ofElement := by
  rw [ofElement_eq]

theorem keeps_ofElement (e : Element) : Keeps e (ofElement e) where
  tag := tag_ofElement e
  attributes := attributes_ofElement e
  text s := by rw [text_ofElement, textOf_eq_some_iff]
  noText := by rw [text_ofElement, textOf_eq_none_iff]

theorem Keeps.text_eq {e : Element} {node : Node} (hkeeps : Keeps e node) :
    node.text = textOf e.text := by
  apply Option.ext
  intro s
  rw [hkeeps.text, textOf_eq_some_iff]

theorem descendant?_ofElement (e : Element) (path : List Nat) :
    descendant? children (ofElement e) path =
      (descendant? Element.children e path).map ofElement := by
  induction path generalizing e with
  | nil => rfl
  | cons position path ih =>
      rw [descendant?, descendant?, children_ofElement, List.getElem?_map]
      cases e.children[position]? with
      | none => rfl
      | some child => exact ih child

theorem keepsWhole_ofElement (e : Element) : KeepsWhole e (ofElement e) := by
  intro path
  rw [descendant?_ofElement]
  cases descendant? Element.children e path with
  | none => exact .none
  | some inner => exact .some (keeps_ofElement inner)

theorem KeepsWhole.root {e : Element} {node : Node} (hkeeps : KeepsWhole e node) :
    Keeps e node := by
  cases hkeeps [] with
  | some hroot => exact hroot

/-- At each position there is a child on both sides, which is kept whole, or on neither. -/
theorem KeepsWhole.child {e : Element} {node : Node} (hkeeps : KeepsWhole e node)
    (position : Nat) :
    Option.Rel KeepsWhole e.children[position]? node.children[position]? := by
  have hbelow (path : List Nat) := hkeeps (position :: path)
  simp only [descendant?] at hbelow
  generalize e.children[position]? = child at hbelow ⊢
  generalize node.children[position]? = inner at hbelow ⊢
  cases child with
  | none =>
      cases inner with
      | none => exact .none
      | some inner => cases hbelow []
  | some child =>
      cases inner with
      | none => cases hbelow []
      | some inner => exact .some hbelow

theorem eq_map_of_rel {α β : Type} {r : α → β → Prop} {f : α → β} {a : Option α} {b : Option β}
    (hrel : Option.Rel r a b) (heq : ∀ x ∈ a, ∀ y, r x y → y = f x) : b = a.map f := by
  cases hrel with
  | none => rfl
  | some hxy => exact congrArg some (heq _ rfl _ hxy)

theorem eq_ofElement_of_keepsWhole {e : Element} {node : Node} (hkeeps : KeepsWhole e node) :
    node = ofElement e := by
  induction e using Element.induct generalizing node with
  | step e ih =>
      have hchildren : node.children = e.children.map ofElement := by
        apply List.ext_getElem?
        intro position
        rw [List.getElem?_map]
        apply eq_map_of_rel (hkeeps.child position)
        intro child hmem inner hinner
        exact ih child (List.mem_of_getElem? hmem) hinner
      have hroot := hkeeps.root
      calc
        node = ⟨node.tag, node.attributes, node.text, node.children⟩ := by
          cases node
          rfl
        _ = ofElement e := by
          rw [ofElement_eq, hroot.tag, hroot.attributes, hroot.text_eq, hchildren]

/-! ## Writing nodes back -/

theorem ofElement_toElement_ofElement (e : Element) :
    ofElement (ofElement e).toElement = ofElement e := by
  induction e using Element.induct with
  | step e ih =>
      have hchildren : ((e.children.map ofElement).map toElement).map ofElement =
          e.children.map ofElement := by
        rw [List.map_map, List.map_map]
        exact List.map_congr_left ih
      rw [ofElement_eq e, toElement_eq, ofElement_eq, hchildren, textOf_getD_textOf]

/-- The node of an element is the one node that keeps it whole, and reading what the node is written
as gives the node again. -/
theorem nodes_keep_whole_elements (e : Element) :
    (∀ node, node = ofElement e ↔ KeepsWhole e node) ∧
    ofElement (ofElement e).toElement = ofElement e := by
  refine ⟨fun node => ⟨?_, eq_ofElement_of_keepsWhole⟩, ofElement_toElement_ofElement e⟩
  rintro rfl
  exact keepsWhole_ofElement e

/-- Every blank character is stripped, at each depth, and attribute values are left alone. -/
example :
    ofElement ⟨"a", [("n", " 1 ")], "\n\u001c x y\u3000", [⟨"b", [], "\t", []⟩, ⟨"c", [], "", []⟩]⟩ =
      ⟨"a", [("n", " 1 ")], some "x y", [⟨"b", [], none, []⟩, ⟨"c", [], none, []⟩]⟩ := rfl

end Record.Node

end SqlFixtures
