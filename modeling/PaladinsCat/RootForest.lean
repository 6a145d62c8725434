import Mathlib.Logic.Relation
import Mathlib.Data.Option.Basic
import Mathlib.Logic.Function.Basic

/-!
Nodes that may point to a parent. Where every node reaches one that points nowhere, no
node ever comes back to itself, and pointing such a root to another one keeps it so.
-/

namespace RootForest

variable {Node : Type} {parent : Node → Option Node} {node root child up : Node}

def Points (parent : Node → Option Node) (child up : Node) : Prop := parent child = some up

/-- Parents of parents of `node` end at `root`. -/
def Ends (parent : Node → Option Node) (node root : Node) : Prop :=
  Relation.ReflTransGen (Points parent) node root ∧ parent root = none

def Forest (parent : Node → Option Node) : Prop := ∀ node, ∃ root, Ends parent node root

theorem forest_of_roots (nowhere : ∀ node, parent node = none) : Forest parent :=
  fun node => ⟨node, .refl, nowhere node⟩

/-- Whatever holds of a node and goes over to parents holds of its root. -/
theorem Ends.invariant (holds : Node → Prop) (ends : Ends parent node root)
    (closed : ∀ child up, parent child = some up → holds child → holds up) (here : holds node) : holds root := by
  obtain ⟨path, -⟩ := ends
  induction path with
  | refl => exact here
  | tail earlier points ih => exact closed _ _ points ih

theorem Ends.acyclic (ends : Ends parent node root) : ¬ Relation.TransGen (Points parent) node node := by
  obtain ⟨path, last⟩ := ends
  induction path using Relation.ReflTransGen.head_induction_on with
  | refl =>
      intro cycle
      obtain ⟨next, points, -⟩ := Relation.TransGen.head'_iff.mp cycle
      rw [Points, last] at points
      cases points
  | head points later ih =>
      intro cycle
      obtain ⟨next, same, back⟩ := Relation.TransGen.head'_iff.mp cycle
      obtain rfl := Option.some.inj (same.symm.trans points)
      exact ih (Relation.TransGen.tail' back points)

/-- A root may be pointed to another root. -/
theorem Forest.link [DecidableEq Node] (forest : Forest parent) (apart : child ≠ up) (free : parent child = none)
    (stands : parent up = none) : Forest (Function.update parent child (some up)) := by
  intro node
  obtain ⟨root, path, last⟩ := forest node
  induction path using Relation.ReflTransGen.head_induction_on with
  | refl =>
      by_cases moved : root = child
      · subst moved
        have points : Points (Function.update parent root (some up)) root up := Function.update_self _ _ _
        exact ⟨up, .single points, by rw [Function.update_of_ne apart.symm, stands]⟩
      · exact ⟨root, .refl, by rw [Function.update_of_ne moved, last]⟩
  | @head node next points later ih =>
      obtain ⟨final, rest, ended⟩ := ih
      have other : node ≠ child := by
        rintro rfl
        rw [Points, free] at points
        cases points
      have same : Points (Function.update parent child (some up)) node next :=
        (Function.update_of_ne other _ _).trans points
      exact ⟨final, .head same rest, ended⟩

end RootForest
