import TelemetryGate.Proofs.Settings.Places
import TelemetryGate.Proofs.Text.Casing
import Mathlib.Data.List.TakeWhile

/-!
# The places that keys stand for

A key that is a plain name stands for the entry of that name. Any other key either is a path of
plain names and indices, or stands for an entry of its own. The names of a path are in lower case
already.
-/

namespace TelemetryGate

namespace KeyPath

/-- The names of a path are in lower case. -/
theorem lower_of_name? {cs rest : List Char} {name : String} (h : name? cs = some (name, rest)) :
    Text.lower name = name := by
  rw [name?] at h
  split at h
  · cases h
  · cases h
    exact Text.lower_lower _

theorem lower_of_steps? {fuel : Nat} {cs : List Char} {steps : List Access}
    (h : steps? fuel cs = some steps) : ∀ name, .key name ∈ steps → Text.lower name = name := by
  fun_induction steps? fuel cs generalizing steps with
  | case1 =>
    cases h
    simp
  | case2 => cases h
  | case3 fuel rest ih =>
    -- A name and further steps.
    simp only [Option.bind_eq_bind, Option.bind_eq_some_iff] at h
    obtain ⟨⟨first, rest⟩, hfirst, more, hmore, hsteps⟩ := h
    cases hsteps
    intro name hname
    rcases List.mem_cons.mp hname with heq | hname
    · cases heq
      exact lower_of_name? hfirst
    · exact ih rest hmore name hname
  | case4 fuel rest ih =>
    -- An index and further steps.
    simp only [Option.bind_eq_bind, Option.bind_eq_some_iff] at h
    obtain ⟨⟨i, rest⟩, -, more, hmore, hsteps⟩ := h
    cases hsteps
    intro name hname
    rcases List.mem_cons.mp hname with heq | hname
    · cases heq
    · exact ih rest hmore name hname
  | case5 => cases h

/-- The steps of a path, with the last name as it is used. -/
def steps (path : KeyPath) : List Access := Setting.lowered (.key path.top :: path.below)

/-- The names of the place of a key are in lower case. -/
theorem lower_ofKey (key name : String)
    (h : .key name ∈ Access.key (ofKey key).top :: (ofKey key).below) : Text.lower name = name := by
  rw [ofKey] at h
  cases hparse : parse? key with
  | none =>
    rw [hparse] at h
    obtain rfl := Access.key.inj (List.mem_singleton.mp h)
    exact Text.lower_lower key
  | some path =>
    rw [hparse, Option.getD_some] at h
    simp only [parse?, Option.bind_eq_bind, Option.bind_eq_some_iff] at hparse
    obtain ⟨⟨top, rest⟩, htop, below, hbelow, hpath⟩ := hparse
    cases hpath
    rcases List.mem_cons.mp h with heq | h
    · cases heq
      exact lower_of_name? htop
    · exact lower_of_steps? hbelow name h

/-- So are all of them but the last one. -/
theorem lowerBefore_ofKey (key : String) :
    Setting.LowerBefore (.key (ofKey key).top :: (ofKey key).below) := fun name hname =>
  lower_ofKey key name (List.dropLast_subset _ hname)

/-- The steps of the place of a key are those that are taken. -/
theorem steps_ofKey (key : String) :
    (ofKey key).steps = .key (ofKey key).top :: (ofKey key).below := by
  rw [steps, Setting.lowered]
  refine (List.map_congr_left fun access haccess => ?_).trans (List.map_id _)
  cases access with
  | item i => rfl
  | key name => exact congrArg Access.key (lower_ofKey key name haccess)

/-- A plain name stands for the entry of that name. -/
theorem ofKey_of_plain {key : String} (h : key.toList.all isNameChar) :
    ofKey key = ⟨Text.lower key, []⟩ := by
  have hall : ∀ c ∈ key.toList, isNameChar c := List.all_eq_true.mp h
  have htake : key.toList.takeWhile isNameChar = key.toList := List.takeWhile_eq_self_iff.mpr hall
  have hdrop : key.toList.dropWhile isNameChar = [] := List.dropWhile_eq_nil_iff.mpr hall
  rw [ofKey, parse?, name?, htake, hdrop]
  cases hcs : key.toList with
  | nil => rfl
  | cons c rest =>
    have hkey : String.ofList (c :: rest) = key := by rw [← hcs, String.ofList_toList]
    simp [hkey, steps?]

end KeyPath

end TelemetryGate
