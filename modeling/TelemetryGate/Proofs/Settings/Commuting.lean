import Mathlib.Data.List.Perm.Basic
import TelemetryGate.Proofs.Settings.Repeating
import TelemetryGate.Settings.Walk

/-!
# Layers that give each setting once

Edits that go different ways at some point can be carried out in either order. So a layer none of
whose edits meets another does the same in whatever order its tables are walked. A layer that gives
a setting twice need not, but walked in another order it still carries out the same edits.
-/

namespace TelemetryGate

namespace Edit

/-- Two edits go different ways at some point, or one of them only asks for a table. -/
def apart : Edit → Edit → Bool
  | .keep, _ => true
  | _, .keep => true
  | .key name inner, .key name' inner' => name ≠ name' || inner.apart inner'
  | .item index inner, .item index' inner' => index ≠ index' || inner.apart inner'
  | _, _ => false

/-- Edits that are apart can be carried out in either order. -/
theorem run_comm {a b : Edit} (h : a.apart b) (target : Option Setting) :
    a.run (some (b.run target)) = b.run (some (a.run target)) := by
  induction a generalizing b target with
  | write value =>
    cases b with
    | keep => rfl
    | _ => cases h
  | keep => exact (run_keep b target).symm
  | key name inner ih =>
    cases b with
    | keep => exact run_keep (key name inner) target
    | write value => cases h
    | item index edit => cases h
    | key name' edit =>
      simp only [run_key, Option.getD_some, Setting.entries, Setting.tableOrigin]
      by_cases hname : name = name'
      · subst hname
        have hinner : inner.apart edit := by simpa [apart] using h
        simp only [Entries.get?_put_self, Entries.put_put, ih hinner]
      · simp only [Entries.get?_put_of_ne hname, Entries.get?_put_of_ne (Ne.symm hname),
          Entries.put_comm hname]
  | item index inner ih =>
    cases b with
    | keep => exact run_keep (item index inner) target
    | write value => cases h
    | key name edit => cases h
    | item index' edit =>
      simp only [run_item, Option.getD_some, Setting.items, Setting.listOrigin, itemAt_setItem]
      by_cases hindex : index = index'
      · subst hindex
        have hinner : inner.apart edit := by simpa [apart] using h
        simp only [if_true, setItem_setItem, ih hinner]
      · simp only [if_neg hindex, if_neg (Ne.symm hindex), setItem_comm hindex]

/-- Edits that are apart from one another do the same in any order. -/
theorem runAll_perm {edits edits' : List Edit} (hperm : edits.Perm edits')
    (hapart : edits.Pairwise fun a b => a.apart b) (target : Option Setting) :
    runAll edits target = runAll edits' target := by
  have hcomm := List.Pairwise.forall_of_forall_of_flip
    (R := fun a b : Edit => ∀ target, a.run (some (b.run target)) = b.run (some (a.run target)))
    (fun _ _ _ => rfl) (hapart.imp run_comm) (hapart.imp fun h target => (run_comm h target).symm)
  exact hperm.foldl_eq' (fun a ha b hb target => congrArg some (hcomm hb ha target)) target

end Edit

/-! ## Edits in another order -/

namespace Setting

theorem putAllEdits_eq (entries : List (String × Setting)) :
    putAllEdits entries = entries.flatMap fun e => putEdits e.1 e.2 := by
  induction entries with
  | nil => rfl
  | cons e rest ih => rw [putAllEdits, ih, List.flatMap_cons]

/-- A value whose tables are walked in another order is put somewhere by the same edits. -/
theorem Swap.putEdits_perm {s s' : Setting} (h : Swap false s s') (key : String) :
    (putEdits key s').Perm (putEdits key s) := by
  induction h generalizing key with
  | here origin before after hne =>
    simp only [putEdits, putAllEdits_eq]
    refine .cons _ (.map _ (.flatMap_right _ ?_))
    exact (List.Perm.swap _ _ after).append_left before
  | entry origin before after name h ih =>
    simp only [putEdits, putAllEdits_eq, List.flatMap_append, List.flatMap_cons]
    refine .cons _ (.map _ ?_)
    exact ((ih name).append_right _).append_left _
  | item origin before after hlists h ih => cases hlists

/-- It is set at the end of some steps by the same edits, unless it becomes the item of a list. -/
theorem Swap.belowEdits_perm {s s' : Setting} (h : Swap false s s') {path : List Access}
    (hpath : path.getLast?.any Access.isName) : (belowEdits s' path).Perm (belowEdits s path) := by
  induction path with
  | nil => cases hpath
  | cons access rest ih =>
    cases rest with
    | nil =>
      cases access with
      | key name => exact h.putEdits_perm name
      | item i => cases hpath
    | cons next steps =>
      have hrest := ih (by rwa [List.getLast?_cons_cons] at hpath)
      cases access with
      | key name =>
        simp only [belowEdits]
        exact hrest.map _
      | item i =>
        simp only [belowEdits]
        exact hrest.map _

end Setting

namespace Layer

variable {layer layer' : Layer}

theorem Swap.edits_perm (h : Layer.Swap layer layer') : layer'.edits.Perm layer.edits := by
  cases h with
  | here before after hne =>
    exact .flatMap_right _ ((List.Perm.swap _ _ after).append_left before)
  | @entry before after key s s' hwalked h =>
    have hlast : (Access.key (KeyPath.ofKey key).top :: (KeyPath.ofKey key).below).getLast?.any
        Access.isName := by
      rw [List.getLast?_cons]
      exact hwalked
    simp only [edits, List.flatMap_append, List.flatMap_cons]
    exact ((h.belowEdits_perm hlast).append_right _).append_left _

theorem Swap.keys_perm (h : Layer.Swap layer layer') :
    (layer'.map (·.1)).Perm (layer.map (·.1)) := by
  cases h with
  | here before after hne => exact .map _ ((List.Perm.swap _ _ after).append_left before)
  | entry before after hwalked h => simp

/-- A layer that is walked in another order carries out the same edits. -/
theorem Reordered.edits_perm (h : layer.Reordered layer') : layer'.edits.Perm layer.edits := by
  induction h with
  | refl => exact .refl _
  | tail _ hswap ih => exact hswap.edits_perm.trans ih

theorem Reordered.keys_perm (h : layer.Reordered layer') :
    (layer'.map (·.1)).Perm (layer.map (·.1)) := by
  induction h with
  | refl => exact .refl _
  | tail _ hswap ih => exact hswap.keys_perm.trans ih

/-- From whatever end the keys of a layer count, they do so in any order. -/
theorem CountsForward.reordered (hforward : layer.CountsForward) (h : layer.Reordered layer') :
    layer'.CountsForward := by
  have hkeys : ∀ key ∈ layer.map (·.1), ∀ access ∈ (KeyPath.ofKey key).below,
      access.countsForward = true := List.forall_mem_map.mpr hforward
  exact List.forall_mem_map.mp fun key hkey => hkeys key (h.keys_perm.mem_iff.mp hkey)

/-- A layer that is put on top of itself, walked in two orders, does what it does once in the
second. -/
theorem CountsForward.onto_reordered {layer₁ layer₂ : Layer} (hforward : layer.CountsForward)
    (h₁ : layer.Reordered layer₁) (h₂ : layer.Reordered layer₂) (root : Setting) :
    layer₂.onto (layer₁.onto root) = layer₂.onto root :=
  (hforward.reordered h₁).onto_onto (hforward.reordered h₂)
    (h₁.edits_perm.trans h₂.edits_perm.symm).subset root

/-- A layer gives no setting twice: no key counts the items of a list from its end, and all that the
layer sets is apart. -/
structure GivesOnce (layer : Layer) : Prop where
  /-- No key counts the items of a list from its end. -/
  forward : layer.CountsForward
  /-- All edits are apart from one another. -/
  apart : layer.edits.Pairwise fun a b => a.apart b

instance (layer : Layer) : Decidable layer.GivesOnce :=
  decidable_of_iff (layer.CountsForward ∧ layer.edits.Pairwise fun a b => a.apart b)
    ⟨fun h => ⟨h.1, h.2⟩, fun h => ⟨h.forward, h.apart⟩⟩

/-- A layer that gives no setting twice does the same in whatever order it is walked. -/
theorem GivesOnce.onto_eq (honce : layer.GivesOnce) (h : layer.Reordered layer')
    (root : Setting) : layer'.onto root = layer.onto root := by
  have hrun := Edit.runAll_perm h.edits_perm.symm honce.apart (some root)
  rw [honce.forward.runAll_edits, (honce.forward.reordered h).runAll_edits] at hrun
  exact (Option.some.inj hrun).symm

/-- Layers that give no setting twice are merged to the same in whatever order they are walked. -/
theorem merge_reordered {layers walked : List Layer} (honce : ∀ layer ∈ layers, layer.GivesOnce)
    (h : List.Forall₂ Layer.Reordered layers walked) : merge walked = merge layers := by
  suffices hfold : ∀ root, walked.foldl (fun root layer => onto layer root) root =
      layers.foldl (fun root layer => onto layer root) root from hfold .emptyTable
  induction h with
  | nil => exact fun root => rfl
  | cons hlayer _ ih =>
    obtain ⟨hfirst, hrest⟩ := List.forall_mem_cons.mp honce
    intro root
    rw [List.foldl_cons, List.foldl_cons, hfirst.onto_eq hlayer, ih hrest]

end Layer

/-- Two keys that differ only in case do not give a setting once, a table and an entry of it do. -/
example :
    let value : Setting := .scalar none (.bool true)
    ¬ Layer.GivesOnce [("Enabled", value), ("enabled", value)] ∧
      Layer.GivesOnce [("logging", .table none [("level", value)]), ("logging.color", value)] := by
  decide +kernel

end TelemetryGate
