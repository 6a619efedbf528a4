import Mathlib.Data.List.Basic
import TelemetryGate.Filesystem.Tree

/-!
# What operations on a file tree leave alone

Writing at one place leaves every other place alone. So what stands somewhere stays there when a place
is filled that is free.
-/

namespace TelemetryGate.Filesystem.Tree

/-- Setting what stands at one place leaves every other place alone. -/
theorem get?_set_of_ne (t : Tree) {loc other : Location} (h : other ≠ loc) (node : Node) :
    (t.set loc node).get? other = t.get? other := by
  have hfind : ∀ nodes : List (Location × Node),
      ((nodes.map fun e => if e.1 = loc then (loc, node) else e).find? (·.1 = other)).map (·.2) =
        (nodes.find? (·.1 = other)).map (·.2) := by
    intro nodes
    induction nodes with
    | nil => rfl
    | cons e rest ih =>
      rw [List.map_cons, List.find?_cons, List.find?_cons]
      by_cases hloc : e.1 = loc
      · have hnew : loc ≠ other := Ne.symm h
        have hold : e.1 ≠ other := hloc ▸ hnew
        simpa [hloc, hnew, hold] using ih
      · by_cases hother : e.1 = other
        · simp [hother, h]
        · simpa [hloc, hother] using ih
  rw [get?, get?, set]
  split
  · rfl
  · split
    · exact hfind t.nodes
    · simp [List.find?_append, Ne.symm h]

/-- Appending to the file at one place leaves every other place alone. -/
theorem get?_append_of_ne (t : Tree) {loc other : Location} (h : other ≠ loc) (text : String) :
    (t.append loc text).get? other = t.get? other := by
  rw [append]
  split
  · exact t.get?_set_of_ne h _
  · rfl

/-- What is set at a place stands there, unless it is the root. -/
theorem get?_set_self (t : Tree) {loc : Location} (h : loc ≠ []) (node : Node) :
    (t.set loc node).get? loc = some node := by
  have hfind : ∀ nodes : List (Location × Node), nodes.any (·.1 = loc) = true →
      ((nodes.map fun e => if e.1 = loc then (loc, node) else e).find? (·.1 = loc)).map (·.2) =
        some node := by
    intro nodes hany
    induction nodes with
    | nil => cases hany
    | cons e rest ih =>
      rw [List.map_cons, List.find?_cons]
      by_cases hloc : e.1 = loc
      · simp [hloc]
      · have hrest : rest.any (·.1 = loc) = true := by simpa [hloc] using hany
        simpa [hloc] using ih hrest
  rw [get?, if_neg h, set]
  split
  · rename_i hany
    exact hfind t.nodes hany
  · rename_i hany
    have hnone : t.nodes.find? (·.1 = loc) = none := by
      rw [List.find?_eq_none]
      exact fun e he heq => hany (List.any_eq_true.mpr ⟨e, he, heq⟩)
    rw [List.find?_append, hnone]
    simp

/-- What stands somewhere in a tree stands there in another one. -/
def Keeps (t t' : Tree) : Prop := ∀ loc node, t.get? loc = some node → t'.get? loc = some node

theorem Keeps.refl (t : Tree) : t.Keeps t := fun _ _ h => h

theorem Keeps.trans {t t' t'' : Tree} (h : t.Keeps t') (h' : t'.Keeps t'') : t.Keeps t'' :=
  fun loc node hnode => h' loc node (h loc node hnode)

/-- Filling a free place keeps the tree. -/
theorem keeps_set {t : Tree} {loc : Location} (hfree : t.get? loc = none) (node : Node) :
    t.Keeps (t.set loc node) := by
  intro other found hfound
  have hother : other ≠ loc := by
    rintro rfl
    rw [hfree] at hfound
    cases hfound
  rw [t.get?_set_of_ne hother, hfound]

end TelemetryGate.Filesystem.Tree
