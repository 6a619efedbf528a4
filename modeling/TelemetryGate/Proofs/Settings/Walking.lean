import TelemetryGate.Proofs.Settings.Commuting
import TelemetryGate.Proofs.Settings.Loading
import TelemetryGate.Proofs.Settings.Reordering

/-!
# What loading may give

Sources that give no setting twice give one configuration, in whatever order their tables are
walked. Where a source gives a setting twice the orders of its entries decide which configurations
are possible, and those do not depend on the place that the source has.
-/

namespace TelemetryGate

/-- Variables give no setting twice: no two of them override the same key, and all that they
override is apart. -/
structure Override.GivesOnce (v : Variables) : Prop where
  /-- No two variables override the same key. -/
  keys : ((entries v).map (·.1)).Nodup
  /-- All that they override is apart. -/
  layer : (layer v).GivesOnce

instance (v : Variables) : Decidable (Override.GivesOnce v) :=
  decidable_of_iff (((Override.entries v).map (·.1)).Nodup ∧ (Override.layer v).GivesOnce)
    ⟨fun h => ⟨h.1, h.2⟩, fun h => ⟨h.keys, h.layer⟩⟩

/-! ## Places -/

namespace Setting

/-- Entries that differ in their places only are split at the same entry. -/
theorem exists_split_of_unplaced {entries before after : List (String × Setting)}
    {e : String × Setting} (h : Entries.mapValues unplaced entries =
      Entries.mapValues unplaced (before ++ e :: after)) :
    ∃ before' s after', entries = before' ++ (e.1, s) :: after' ∧
      Entries.mapValues unplaced before' = Entries.mapValues unplaced before ∧
      s.unplaced = e.2.unplaced ∧
      Entries.mapValues unplaced after' = Entries.mapValues unplaced after := by
  rw [Entries.mapValues, Entries.mapValues, List.map_append, List.map_cons] at h
  obtain ⟨before', rest, rfl, hbefore, hrest⟩ := List.map_eq_append_iff.mp h
  obtain ⟨⟨key, s⟩, after', rfl, he, hafter⟩ := List.map_eq_cons_iff.mp hrest
  obtain ⟨rfl, hs⟩ := Prod.mk.inj he
  exact ⟨before', s, after', rfl, hbefore, hs, hafter⟩

/-- Neighbours that differ in their places only are neighbours, too. -/
theorem exists_neighbours_of_unplaced {entries before after : List (String × Setting)}
    {a b : String × Setting} (h : Entries.mapValues unplaced entries =
      Entries.mapValues unplaced (before ++ a :: b :: after)) :
    ∃ before' s t after', entries = before' ++ (a.1, s) :: (b.1, t) :: after' ∧
      Entries.mapValues unplaced (before' ++ (b.1, t) :: (a.1, s) :: after') =
        Entries.mapValues unplaced (before ++ b :: a :: after) := by
  obtain ⟨before', s, rest, rfl, hbefore, hs, hrest⟩ := exists_split_of_unplaced h
  obtain ⟨none', t, after', rfl, hnone, ht, hafter⟩ :=
    @exists_split_of_unplaced _ [] _ _ hrest
  obtain rfl : none' = [] := List.map_eq_nil_iff.mp hnone
  refine ⟨before', s, t, after', rfl, ?_⟩
  simp only [Entries.mapValues, List.map_append, List.map_cons] at hbefore hafter ⊢
  rw [hbefore, hafter, hs, ht]

/-- What differs in its places only can be walked in the same orders. -/
theorem Swap.exists_of_unplaced {s s' t : Setting} (h : Swap false s s')
    (ht : t.unplaced = s.unplaced) : ∃ t', Swap false t t' ∧ t'.unplaced = s'.unplaced := by
  induction h generalizing t with
  | here origin before after hne =>
    cases t with
    | table place entries =>
      simp only [unplaced, unplacedEntries_eq, Setting.table.injEq, true_and] at ht ⊢
      obtain ⟨before', x, y, after', rfl, hswapped⟩ := exists_neighbours_of_unplaced ht
      exact ⟨_, .here place before' after' hne, by
        simp only [unplaced, unplacedEntries_eq, hswapped]⟩
    | _ => simp [unplaced] at ht
  | entry origin before after key h ih =>
    cases t with
    | table place entries =>
      simp only [unplaced, unplacedEntries_eq, Setting.table.injEq, true_and] at ht ⊢
      obtain ⟨before', x, after', rfl, hbefore, hx, hafter⟩ := exists_split_of_unplaced ht
      obtain ⟨x', hswap, hx'⟩ := ih hx
      refine ⟨_, .entry place before' after' key hswap, ?_⟩
      simp only [Entries.mapValues] at hbefore hafter
      simp only [unplaced, unplacedEntries_eq, Entries.mapValues, List.map_append, List.map_cons,
        hbefore, hx', hafter]
    | _ => simp [unplaced] at ht
  | item origin before after hlists h ih => cases hlists

end Setting

namespace Layer

/-- A layer that differs in its places only can be walked in the same orders. -/
theorem Swap.exists_of_unplaced {layer layer' other : Layer} (h : Layer.Swap layer layer')
    (hother : Entries.mapValues Setting.unplaced other =
      Entries.mapValues Setting.unplaced layer) :
    ∃ other', Layer.Swap other other' ∧ Entries.mapValues Setting.unplaced other' =
      Entries.mapValues Setting.unplaced layer' := by
  cases h with
  | here before after hne =>
    obtain ⟨before', s, t, after', rfl, hswapped⟩ := Setting.exists_neighbours_of_unplaced hother
    exact ⟨_, .here before' after' hne, hswapped⟩
  | entry before after hwalked h =>
    obtain ⟨before', s, after', rfl, hbefore, hs, hafter⟩ :=
      Setting.exists_split_of_unplaced hother
    obtain ⟨s', hswap, hs'⟩ := h.exists_of_unplaced hs
    refine ⟨_, .entry before' after' hwalked hswap, ?_⟩
    simp only [Entries.mapValues, List.map_append, List.map_cons] at hbefore hafter ⊢
    rw [hbefore, hs', hafter]

theorem Reordered.exists_of_unplaced {layer walked other : Layer} (h : layer.Reordered walked)
    (hother : Entries.mapValues Setting.unplaced other =
      Entries.mapValues Setting.unplaced layer) :
    ∃ other', other.Reordered other' ∧ Entries.mapValues Setting.unplaced other' =
      Entries.mapValues Setting.unplaced walked := by
  induction h with
  | refl => exact ⟨other, .refl, hother⟩
  | tail _ hswap ih =>
    obtain ⟨middle, hmiddle, hplaces⟩ := ih
    obtain ⟨other', hswap', hplaces'⟩ := hswap.exists_of_unplaced hplaces
    exact ⟨other', hmiddle.tail hswap', hplaces'⟩

theorem exists_reordered_of_unplaced {layers walked others : List Layer}
    (h : List.Forall₂ Layer.Reordered layers walked)
    (hothers : others.map (Entries.mapValues Setting.unplaced) =
      layers.map (Entries.mapValues Setting.unplaced)) :
    ∃ walked', List.Forall₂ Layer.Reordered others walked' ∧
      walked'.map (Entries.mapValues Setting.unplaced) =
        walked.map (Entries.mapValues Setting.unplaced) := by
  induction h generalizing others with
  | nil =>
    obtain rfl := List.map_eq_nil_iff.mp hothers
    exact ⟨[], .nil, rfl⟩
  | cons hlayer _ ih =>
    obtain ⟨other, rest, rfl, hother, hrest⟩ := List.map_eq_cons_iff.mp hothers
    obtain ⟨other', hreordered, hplaces⟩ := hlayer.exists_of_unplaced hother
    obtain ⟨rest', hwalked, hmore⟩ := ih hrest
    exact ⟨other' :: rest', .cons hreordered hwalked, by
      rw [List.map_cons, List.map_cons, hplaces, hmore]⟩

end Layer

namespace Settings

/-! ## Configurations -/

/-- A configuration, or none, that layers may give, the first one below. -/
def MayYield (v : Variables) (layers : List Layer) (told : Option Settings) : Prop :=
  ∃ walked, List.Forall₂ Layer.Reordered layers walked ∧
    (ofMerged v (Layer.merge walked)).toOption = told

variable {v : Variables} {told : Option Settings}

/-- What layers may give does not depend on their places. -/
theorem MayYield.of_unplaced {layers others : List Layer} (h : MayYield v layers told)
    (hothers : others.map (Entries.mapValues Setting.unplaced) =
      layers.map (Entries.mapValues Setting.unplaced)) : MayYield v others told := by
  obtain ⟨walked, hwalked, rfl⟩ := h
  obtain ⟨walked', hwalked', hplaces⟩ := Layer.exists_reordered_of_unplaced hwalked hothers
  refine ⟨walked', hwalked', toOption_ofMerged_congr v ?_⟩
  rw [Layer.unplaced_merge, Layer.unplaced_merge, hplaces]

/-- A layer may give what it may give on top of itself, if none of its keys counts the items of a
list from its end: the orders of the upper one decide. -/
theorem mayYield_twice_iff {below layer above : Layer} (hforward : layer.CountsForward) :
    MayYield v [below, layer, layer, above] told ↔ MayYield v [below, layer, above] told := by
  have hmerge {below' lower upper above' : Layer} (hlower : layer.Reordered lower)
      (hupper : layer.Reordered upper) : Layer.merge [below', lower, upper, above'] =
        Layer.merge [below', upper, above'] :=
    congrArg (Layer.onto above') (hforward.onto_reordered hlower hupper _)
  constructor
  · rintro ⟨_, _ | ⟨hbelow, _ | ⟨hlower, _ | ⟨hupper, _ | ⟨habove, _ | _⟩⟩⟩⟩, rfl⟩
    exact ⟨_, .cons hbelow (.cons hupper (.cons habove .nil)), by rw [hmerge hlower hupper]⟩
  · rintro ⟨_, _ | ⟨hbelow, _ | ⟨hlayer, _ | ⟨habove, _ | _⟩⟩⟩, rfl⟩
    exact ⟨_, .cons hbelow (.cons hlayer (.cons hlayer (.cons habove .nil))), by
      rw [hmerge hlayer hlayer]⟩

variable {w : World} {files : List (String × Demand)} {r : Except Fault Settings}

/-- Files may give the configurations that their layers may give between the defaults and the
environment. -/
theorem exists_mayGive_iff {layers : List Layer} (hfiles : fileLayers w files = .ok layers) :
    (∃ r, MayGive w files r ∧ r.toOption = told) ↔
      MayYield w.environment (defaultLayer :: layers ++ [Override.layer w.environment]) told := by
  constructor
  · rintro ⟨r, hr, rfl⟩
    cases hr with
    | fault hfault => cases hfiles.symm.trans hfault
    | merged hfound hwalked hread =>
      cases hfiles.symm.trans hfound
      exact ⟨_, hwalked, hread.toOption_eq.symm⟩
  · rintro ⟨walked, hwalked, rfl⟩
    exact ⟨_, .merged hfiles hwalked (mayRead_ofMerged _ _), rfl⟩

/-- Files that give no layers give no configuration. -/
theorem exists_mayGive_iff_of_error {fault : Fault} (hfiles : fileLayers w files = .error fault) :
    (∃ r, MayGive w files r ∧ r.toOption = told) ↔ told = none := by
  constructor
  · rintro ⟨r, hr, rfl⟩
    cases hr with
    | fault _ => rfl
    | merged hfound _ _ => cases hfiles.symm.trans hfound
  · rintro rfl
    exact ⟨_, .fault hfiles, rfl⟩

/-- What loading may give. -/
def Loading.MayGive (w : World) : Loading → Except Fault Settings → Prop
  | .workspace root => MayLoad w root
  | .file path => MayLoadFile w path

theorem Loading.mayGive_eq (w : World) (loading : Loading) :
    loading.MayGive w = Settings.MayGive w (loading.files w) := by
  cases loading <;> rfl

/-! ## Settings given once -/

/-- Neither a file nor the variables give a setting twice. -/
structure GivesOnce (w : World) (files : List (String × Demand)) : Prop where
  /-- No file gives a setting twice. -/
  files : ∀ layers ∈ (fileLayers w files).toOption, ∀ layer ∈ layers, Layer.GivesOnce layer
  /-- The variables give no setting twice. -/
  overrides : Override.GivesOnce w.environment

instance (w : World) (files : List (String × Demand)) : Decidable (GivesOnce w files) :=
  decidable_of_iff ((∀ layers ∈ (fileLayers w files).toOption, ∀ layer ∈ layers,
      Layer.GivesOnce layer) ∧ Override.GivesOnce w.environment)
    ⟨fun h => ⟨h.1, h.2⟩, fun h => ⟨h.files, h.overrides⟩⟩

theorem givesOnce_defaultLayer : Layer.GivesOnce defaultLayer := by decide +kernel

/-- Sources that give no setting twice may give one configuration only, or none. -/
theorem MayGive.toOption_eq (honce : GivesOnce w files) (h : MayGive w files r) :
    r.toOption = (ofFiles w files).toOption := by
  cases h with
  | fault hfault =>
    rw [ofFiles, hfault]
    rfl
  | @merged layers walked _ hfiles hwalked hread =>
    have hlayers : ∀ layer ∈ defaultLayer :: layers ++ [Override.layer w.environment],
        Layer.GivesOnce layer := by
      refine List.forall_mem_append.mpr ⟨List.forall_mem_cons.mpr ⟨givesOnce_defaultLayer, ?_⟩,
        List.forall_mem_singleton.mpr honce.overrides.layer⟩
      exact honce.files layers (by rw [hfiles]; rfl)
    rw [hread.toOption_eq, Layer.merge_reordered hlayers hwalked, ofFiles, hfiles]
    rfl

end Settings

end TelemetryGate
