import Mathlib.Data.List.Basic
import Mathlib.Data.Char

/-!
# The order of encoded texts

Texts are compared by the code points of their characters. Their encodings are compared by bytes,
and that gives the same order: a character with a greater code point has an encoding that is greater
at some byte, and is no continuation of the other one.
-/

namespace TelemetryGate.Text

/-- The bytes of a text. -/
def bytes (s : String) : List UInt8 := s.toList.flatMap String.utf8EncodeChar

/-- Some bytes are less than others at a place that both have. -/
def Below (xs ys : List UInt8) : Prop :=
  ∃ common x y xs' ys', xs = common ++ x :: xs' ∧ ys = common ++ y :: ys' ∧ x < y

/-- Whatever follows does not count then. -/
theorem Below.append_lt {xs ys : List UInt8} (h : Below xs ys) (more more' : List UInt8) :
    xs ++ more < ys ++ more' := by
  obtain ⟨common, x, y, xs', ys', rfl, rfl, hlt⟩ := h
  simp only [List.append_assoc, List.cons_append]
  exact List.append_left_lt (List.cons_lt_cons_iff.mpr (.inl hlt))

theorem ofNat_lt_ofNat {a b : Nat} (h : a < b) (hb : b < 256) : UInt8.ofNat a < UInt8.ofNat b := by
  rw [UInt8.lt_iff_toNat_lt, UInt8.toNat_ofNat_of_lt' hb,
    UInt8.toNat_ofNat_of_lt' (lt_trans h hb)]
  exact h

/-- Bytes are less than others if the first one is less. -/
theorem below_of_lt {a b : Nat} {xs ys : List UInt8} (h : a < b) (hb : b < 256) :
    Below (.ofNat a :: xs) (.ofNat b :: ys) :=
  ⟨[], _, _, xs, ys, rfl, rfl, ofNat_lt_ofNat h hb⟩

/-- Or if the first one is the same and the others are less. -/
theorem below_of_le {a b : Nat} {xs ys : List UInt8} (h : a ≤ b) (hb : b < 256)
    (hrest : a = b → Below xs ys) : Below (.ofNat a :: xs) (.ofNat b :: ys) := by
  rcases Nat.lt_or_eq_of_le h with hlt | rfl
  · exact below_of_lt hlt hb
  · obtain ⟨common, x, y, xs', ys', rfl, rfl, hlt⟩ := hrest rfl
    exact ⟨_ :: common, x, y, xs', ys', rfl, rfl, hlt⟩

/-- Encodings of characters are in the order of their code points. -/
theorem below_utf8EncodeChar {c d : Char} (h : c < d) :
    Below (String.utf8EncodeChar c) (String.utf8EncodeChar d) := by
  have hlt : c.val.toNat < d.val.toNat := h
  have hbound : d.val.toNat < 1114112 := by
    have := d.valid
    rcases this with hd | hd <;> omega
  simp only [String.utf8EncodeChar]
  generalize c.val.toNat = v at hlt
  generalize d.val.toNat = w at hlt hbound
  -- The length of an encoding shows in its first byte, and encodings of one length are the code
  -- points in base 64.
  by_cases hone : v ≤ 127
  · rw [if_pos hone]
    split
    · exact below_of_lt hlt (by omega)
    · split
      · exact below_of_lt (by omega) (by omega)
      · split <;> exact below_of_lt (by omega) (by omega)
  rw [if_neg hone, if_neg (show ¬ w ≤ 127 by omega)]
  by_cases htwo : v ≤ 2047
  · rw [if_pos htwo]
    split
    · exact below_of_le (by omega) (by omega) fun _ => below_of_lt (by omega) (by omega)
    · split <;> exact below_of_lt (by omega) (by omega)
  rw [if_neg htwo, if_neg (show ¬ w ≤ 2047 by omega)]
  by_cases hthree : v ≤ 65535
  · rw [if_pos hthree]
    split
    · exact below_of_le (by omega) (by omega) fun _ =>
        below_of_le (by omega) (by omega) fun _ => below_of_lt (by omega) (by omega)
    · exact below_of_lt (by omega) (by omega)
  rw [if_neg hthree, if_neg (show ¬ w ≤ 65535 by omega)]
  exact below_of_le (by omega) (by omega) fun _ => below_of_le (by omega) (by omega) fun _ =>
    below_of_le (by omega) (by omega) fun _ => below_of_lt (by omega) (by omega)

/-- Texts in order have bytes in order. -/
theorem bytes_lt_of_lt {s t : String} (h : s < t) : bytes s < bytes t := by
  have hlex : List.Lex (· < ·) s.toList t.toList := h
  rw [bytes, bytes]
  generalize s.toList = cs at hlex
  generalize t.toList = ds at hlex
  induction hlex with
  | @nil d ds =>
    obtain ⟨b, bs, hbytes⟩ := List.exists_cons_of_ne_nil (String.utf8EncodeChar_ne_nil (c := d))
    rw [List.flatMap_cons, hbytes]
    exact List.nil_lt_cons _ _
  | rel hrel => exact (below_utf8EncodeChar hrel).append_lt _ _
  | cons _ ih => exact List.append_left_lt ih

/-- Texts are in the order of their bytes. -/
theorem bytes_lt_iff {s t : String} : bytes s < bytes t ↔ s < t := by
  constructor
  · intro h
    by_contra hnot
    by_cases heq : s = t
    · exact List.lt_irrefl _ (heq ▸ h)
    · have hgt : t < s := by grind
      exact List.lt_asymm h (bytes_lt_of_lt hgt)
  · exact bytes_lt_of_lt

end TelemetryGate.Text
