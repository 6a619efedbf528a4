import Mathlib.Data.List.Forall2
import Mathlib.Logic.Relation
import TelemetryGate.Settings.Loader

/-!
# Loading in any order

A table is walked in an order of its own, which nothing fixes. Loading walks the tables of a layer
when it puts the layer on top of others, the merged tables when it reads them, and the modules when
it checks their levels. What a loading may give is what it gives in some of these orders; the order
in which entries stand is one of them.
-/

namespace TelemetryGate

namespace Setting

/-- Two neighbours in a table change places. The table may stand in other tables and, if lists are
walked, in lists. -/
inductive Swap (lists : Bool) : Setting → Setting → Prop where
  /-- The neighbours stand in the table itself, which holds a key once. -/
  | here (origin : Option String) (before after : List (String × Setting))
      {a b : String × Setting} (hne : a.1 ≠ b.1) :
      Swap lists (.table origin (before ++ a :: b :: after))
        (.table origin (before ++ b :: a :: after))
  /-- They stand below an entry. -/
  | entry (origin : Option String) (before after : List (String × Setting)) (key : String)
      {s s' : Setting} (h : Swap lists s s') :
      Swap lists (.table origin (before ++ (key, s) :: after))
        (.table origin (before ++ (key, s') :: after))
  /-- They stand below an item. -/
  | item (origin : Option String) (before after : List Setting) {s s' : Setting}
      (hlists : lists = true) (h : Swap lists s s') :
      Swap lists (.list origin (before ++ s :: after)) (.list origin (before ++ s' :: after))

/-- A setting whose tables are walked in other orders, at any depth. -/
def Reordered : Setting → Setting → Prop := Relation.ReflTransGen (Swap true)

end Setting

/-- A step into a table. -/
def Access.isName : Access → Bool
  | .key _ => true
  | .item _ => false

/-- The last step of a path is one into a table. -/
def KeyPath.endsInName (path : KeyPath) : Bool :=
  (path.below.getLast?.getD (.key path.top)).isName

/-- Two neighbours at the top of a layer change places, or two in a table below. Lists are taken
over as they are, and so is what becomes the item of a list. -/
inductive Layer.Swap : Layer → Layer → Prop where
  /-- The neighbours stand at the top. -/
  | here (before after : Layer) {a b : String × Setting} (hne : a.1 ≠ b.1) :
      Swap (before ++ a :: b :: after) (before ++ b :: a :: after)
  /-- They stand below a key. -/
  | entry (before after : Layer) {key : String} {s s' : Setting}
      (hwalked : (KeyPath.ofKey key).endsInName) (h : Setting.Swap false s s') :
      Swap (before ++ (key, s) :: after) (before ++ (key, s') :: after)

/-- A layer whose tables are walked in other orders. -/
def Layer.Reordered : Layer → Layer → Prop := Relation.ReflTransGen Layer.Swap

namespace Settings

/-- What merged layers may give. -/
inductive MayRead (v : Variables) (merged : Setting) : Except Fault Settings → Prop where
  /-- The first entry that cannot be read is at fault. -/
  | fault {walked : Setting} {fault : Setting.Fault} (hwalked : merged.Reordered walked)
      (hread : layout v Setting.Decoder.format walked = .error fault) :
      MayRead v merged (.error (.undecodable fault))
  /-- All entries are read, and the modules are looked at in some order. -/
  | read {walked : Setting} {s : Settings} {modules : Entries String}
      (hwalked : merged.Reordered walked)
      (hread : layout v Setting.Decoder.format walked = .ok s)
      (hmodules : s.logging.modules.Perm modules) : MayRead v merged (checked s modules)

/-- What some files may give between the defaults and the environment. -/
inductive MayGive (w : World) (files : List (String × Demand)) :
    Except Fault Settings → Prop where
  /-- The first file that gives no layer is at fault. -/
  | fault {fault : Fault} (hfiles : fileLayers w files = .error fault) :
      MayGive w files (.error fault)
  /-- The layers are merged and read. -/
  | merged {layers walked : List Layer} {r : Except Fault Settings}
      (hfiles : fileLayers w files = .ok layers)
      (hwalked : List.Forall₂ Layer.Reordered
        (defaultLayer :: layers ++ [Override.layer w.environment]) walked)
      (hread : MayRead w.environment (Layer.merge walked) r) : MayGive w files r

/-- What loading the settings of a workspace may give. -/
def MayLoad (w : World) (root : String) : Except Fault Settings → Prop :=
  MayGive w ((globalSource w).1 ++ (workspaceSource w root).1)

/-- What loading settings from one file may give. -/
def MayLoadFile (w : World) (path : String) : Except Fault Settings → Prop :=
  MayGive w [(path, .required)]

/-- What the entries give in the order in which they stand they may give. -/
theorem mayRead_ofMerged (v : Variables) (merged : Setting) :
    MayRead v merged (ofMerged v merged) := by
  rw [ofMerged]
  split
  · rename_i fault hread
    exact .fault .refl hread
  · rename_i s hread
    exact .read .refl hread (.refl _)

theorem mayGive_ofFiles (w : World) (files : List (String × Demand)) :
    MayGive w files (ofFiles w files) := by
  rw [ofFiles]
  cases hfiles : fileLayers w files with
  | error fault => exact .fault hfiles
  | ok layers =>
    exact .merged hfiles (List.forall₂_same.mpr fun _ _ => .refl) (mayRead_ofMerged _ _)

end Settings

end TelemetryGate
