import Mathlib.Tactic.SplitIfs
import TelemetryGate.Text.Casing

/-!
# Texts in lower case

Lowering a text twice is lowering it once: no character that lowering gives has another lower case.
The table is checked for this run by run, and point by point where a run gives characters that stand
among those of another one.
-/

namespace TelemetryGate.Text

namespace CaseRun

/-- What a run gives for a code point. -/
def image (r : CaseRun) (n : Nat) : Nat := (n + r.delta).toNat

/-- What a run gives for its code points. -/
def images (r : CaseRun) : List Nat :=
  (List.range ((r.last - r.first) / r.stride + 1)).map fun i => r.image (r.first + i * r.stride)

/-- A run lowers none of some code points that lie between two bounds. -/
def passesOver (low high : Nat) (points : List Nat) (r : CaseRun) : Bool :=
  Nat.blt high r.first || Nat.blt r.last low || points.all fun n => !r.covers n

/-- What a run gives are characters without a lower case of their own, none of them dotted. -/
def settles (r : CaseRun) : Bool :=
  r.images.all (fun n => n != 0x130 && (Nat.blt n 0xD800 || (Nat.blt 0xDFFF n && Nat.blt n 0x110000))) &&
    lowering.all (passesOver (r.image r.first) (r.image r.last) r.images)

/-- What a run gives for a code point that it lowers lies between its bounds. -/
theorem mem_images {r : CaseRun} {n : Nat} (h : r.covers n = true) :
    r.image n ∈ r.images ∧ r.image r.first ≤ r.image n ∧ r.image n ≤ r.image r.last := by
  simp only [covers, Bool.and_eq_true, decide_eq_true_eq, beq_iff_eq] at h
  obtain ⟨⟨hfirst, hlast⟩, hgrid⟩ := h
  refine ⟨List.mem_map.mpr ⟨(n - r.first) / r.stride, ?_, ?_⟩, ?_, ?_⟩
  · rw [List.mem_range, Nat.lt_succ_iff]
    exact Nat.div_le_div_right (Nat.sub_le_sub_right hlast _)
  · have hsteps : (n - r.first) / r.stride * r.stride = n - r.first :=
      Nat.div_mul_cancel (Nat.dvd_of_mod_eq_zero hgrid)
    rw [hsteps, Nat.add_sub_cancel' hfirst]
  · simp only [image]
    omega
  · simp only [image]
    omega

/-- A run that passes over code points between two bounds lowers none of them. -/
theorem covers_of_passesOver {r : CaseRun} {low high : Nat} {points : List Nat}
    (h : passesOver low high points r = true) {n : Nat} (hn : n ∈ points) (hlow : low ≤ n)
    (hhigh : n ≤ high) : r.covers n = false := by
  simp only [passesOver, Bool.or_eq_true, Nat.blt_eq, List.all_eq_true, Bool.not_eq_true'] at h
  rcases h with (hbelow | habove) | hpoints
  · simp only [covers, Bool.and_eq_false_iff, decide_eq_false_iff_not]
    omega
  · simp only [covers, Bool.and_eq_false_iff, decide_eq_false_iff_not]
    omega
  · exact hpoints n hn

/-- The check of the table. -/
theorem settles_of_mem : ∀ r ∈ lowering, r.settles = true := by
  have hall : lowering.all settles = true := by decide +kernel
  exact List.all_eq_true.mp hall

end CaseRun

/-- A character that lowering leaves as it is. -/
structure Settled (c : Char) : Prop where
  /-- It is not the capital sigma. -/
  sigma : c ≠ 'Σ'
  /-- It is not the dotted capital I. -/
  dotted : c.toNat ≠ 0x130
  /-- It is its own lower case. -/
  lowered : lowerChar c = c

/-- What lowering a character gives is left as it is. -/
theorem settled_lowerChar {c : Char} (h : c.toNat ≠ 0x130) : Settled (lowerChar c) := by
  have hsigma : (lowering.find? (·.covers 'Σ'.toNat)).isSome = true := by decide +kernel
  cases hfind : lowering.find? (·.covers c.toNat) with
  | none =>
    have hsame : lowerChar c = c := by rw [lowerChar, hfind]
    rw [hsame]
    refine ⟨?_, h, hsame⟩
    rintro rfl
    rw [hfind] at hsigma
    cases hsigma
  | some r =>
    have hlower : lowerChar c = Char.ofNat (r.image c.toNat) := by
      rw [lowerChar, hfind]
      rfl
    have hr := CaseRun.settles_of_mem r (List.mem_of_find?_eq_some hfind)
    have hcovers := List.find?_some hfind
    obtain ⟨hmem, hlow, hhigh⟩ := CaseRun.mem_images hcovers
    rw [CaseRun.settles, Bool.and_eq_true, List.all_eq_true, List.all_eq_true] at hr
    obtain ⟨himages, hothers⟩ := hr
    have hpoint := himages _ hmem
    generalize r.image c.toNat = n at *
    simp only [Bool.and_eq_true, bne_iff_ne, Bool.or_eq_true, Nat.blt_eq] at hpoint
    obtain ⟨hdotted, hvalid⟩ := hpoint
    have hcode : (Char.ofNat n).toNat = n := by
      rw [Char.ofNat, dif_pos hvalid]
      rfl
    have hnone : lowering.find? (·.covers n) = none := by
      rw [List.find?_eq_none]
      intro other hother
      rw [CaseRun.covers_of_passesOver (hothers other hother) hmem hlow hhigh]
      exact Bool.false_ne_true
    rw [hlower]
    refine ⟨?_, hcode.symm ▸ hdotted, ?_⟩
    · intro heq
      rw [← heq, hcode, hnone] at hsigma
      cases hsigma
    · rw [lowerChar, hcode, hnone]

/-- All characters that lowering gives are left as they are. -/
theorem settled_of_mem_lowerFrom {c : Char} {cs before : List Char}
    (h : c ∈ lowerFrom before cs) : Settled c := by
  induction cs generalizing before with
  | nil => cases h
  | cons d rest ih =>
    rw [lowerFrom] at h
    rcases List.mem_append.mp h with h | h
    · split_ifs at h with hsigma hfinal hdotted
      · obtain rfl := List.mem_singleton.mp h
        exact ⟨by decide, by decide, by decide +kernel⟩
      · obtain rfl := List.mem_singleton.mp h
        exact ⟨by decide, by decide, by decide +kernel⟩
      · simp only [List.mem_cons, List.not_mem_nil, or_false] at h
        rcases h with rfl | rfl
        · exact ⟨by decide, by decide, by decide +kernel⟩
        · exact ⟨by decide, by decide, by decide +kernel⟩
      · obtain rfl := List.mem_singleton.mp h
        exact settled_lowerChar hdotted
    · exact ih h

/-- Characters that lowering leaves as they are stay together. -/
theorem lowerFrom_of_settled {cs : List Char} (h : ∀ c ∈ cs, Settled c) (before : List Char) :
    lowerFrom before cs = cs := by
  induction cs generalizing before with
  | nil => rfl
  | cons c rest ih =>
    have hc := h c List.mem_cons_self
    rw [lowerFrom, if_neg hc.sigma, if_neg hc.dotted, hc.lowered,
      ih fun d hd => h d (List.mem_cons_of_mem _ hd)]
    rfl

/-- Lowering a text twice is lowering it once. -/
theorem lower_lower (s : String) : lower (lower s) = lower s := by
  rw [lower, lower, String.toList_ofList, lowerFrom_of_settled fun c => settled_of_mem_lowerFrom]

/-! ## ASCII characters -/

/-- Of all runs only the first one holds ASCII characters: the capital letters. -/
theorem find?_lowering_ascii {n : Nat} (h : n < 128) :
    lowering.find? (·.covers n) = if 65 ≤ n ∧ n ≤ 90 then some ⟨65, 90, 1, 32⟩ else none := by
  have hsplit : lowering = ⟨65, 90, 1, 32⟩ :: lowering.tail := rfl
  have hbeyond : ∀ r ∈ lowering.tail, 128 ≤ r.first := by decide +kernel
  have hrest : lowering.tail.find? (·.covers n) = none := by
    rw [List.find?_eq_none]
    intro r hr hcovers
    have hfirst := hbeyond r hr
    simp only [CaseRun.covers, Bool.and_eq_true, decide_eq_true_eq] at hcovers
    omega
  have hcovers : CaseRun.covers ⟨65, 90, 1, 32⟩ n = decide (65 ≤ n ∧ n ≤ 90) := by
    simp [CaseRun.covers, Nat.mod_one]
  rw [hsplit, List.find?_cons, hrest, hcovers]
  by_cases hcapital : 65 ≤ n ∧ n ≤ 90
  · rw [if_pos hcapital, decide_eq_true hcapital]
  · rw [if_neg hcapital, decide_eq_false hcapital]

/-- The lower case of an ASCII character. -/
theorem lowerChar_ascii {c : Char} (h : c.toNat < 128) :
    lowerChar c = if 65 ≤ c.toNat ∧ c.toNat ≤ 90 then Char.ofNat (c.toNat + 32) else c := by
  rw [lowerChar, find?_lowering_ascii h]
  by_cases hcapital : 65 ≤ c.toNat ∧ c.toNat ≤ 90
  · rw [if_pos hcapital, if_pos hcapital]
    rfl
  · rw [if_neg hcapital, if_neg hcapital]

/-- ASCII characters without the capital letters. -/
def isSmall (c : Char) : Bool := c.toNat < 128 && !(65 ≤ c.toNat && c.toNat ≤ 90)

/-- Such a character is left as it is. -/
theorem settled_of_isSmall {c : Char} (h : isSmall c = true) : Settled c := by
  simp only [isSmall, Bool.and_eq_true, Bool.not_eq_true', decide_eq_true_eq] at h
  obtain ⟨hascii, hsmall⟩ := h
  have hcapital : ¬ (65 ≤ c.toNat ∧ c.toNat ≤ 90) := by simpa using hsmall
  refine ⟨?_, by omega, by rw [lowerChar_ascii hascii, if_neg hcapital]⟩
  rintro rfl
  exact absurd hascii (by decide)

/-- A text of such characters is in lower case. -/
theorem lower_of_isSmall {s : String} (h : s.toList.all isSmall = true) : lower s = s := by
  have hsettled : ∀ c ∈ s.toList, Settled c := fun c hc =>
    settled_of_isSmall (List.all_eq_true.mp h c hc)
  rw [lower, lowerFrom_of_settled hsettled, String.ofList_toList]

end TelemetryGate.Text
