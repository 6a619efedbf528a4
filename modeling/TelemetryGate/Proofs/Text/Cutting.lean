import TelemetryGate.Text.Slice
import TelemetryGate.Text.Split

/-!
# Cut texts

What is cut out of a text, when the place of the cut is known.
-/

namespace TelemetryGate.Text

/-- The number of bytes of some characters. -/
def byteLength : List Char → Nat
  | [] => 0
  | c :: rest => c.utf8Size + byteLength rest

@[simp]
theorem byteLength_cons (c : Char) (cs : List Char) :
    byteLength (c :: cs) = c.utf8Size + byteLength cs := rfl

@[simp]
theorem byteLength_append (cs rest : List Char) :
    byteLength (cs ++ rest) = byteLength cs + byteLength rest := by
  induction cs with
  | nil => rw [List.nil_append, byteLength, Nat.zero_add]
  | cons c cs ih => rw [List.cons_append, byteLength_cons, byteLength_cons, ih, Nat.add_assoc]

/-- A character of one byte moves the end of a text on by one. -/
theorem byteLength_concat {c : Char} (hc : c.utf8Size = 1) (cs : List Char) :
    byteLength (cs ++ [c]) = byteLength cs + 1 := by
  rw [byteLength_append, byteLength_cons, byteLength, hc]

/-- The bytes of some characters are those of the first one and those of the rest. -/
theorem byteLength_cons_eq_succ (c : Char) (cs : List Char) : ∃ n,
    byteLength (c :: cs) = n + 1 ∧ c.utf8Size ≤ n + 1 ∧ n + 1 - c.utf8Size = byteLength cs := by
  have hpos := c.utf8Size_pos
  refine ⟨c.utf8Size + byteLength cs - 1, ?_, ?_, ?_⟩
  · rw [byteLength_cons]
    omega
  · omega
  · omega

/-- Behind the bytes of a front there is the rest. -/
theorem dropBytes_append (front rest : List Char) :
    dropBytes (byteLength front) (front ++ rest) = some rest := by
  induction front with
  | nil => rw [List.nil_append, byteLength, dropBytes]
  | cons c front ih =>
    obtain ⟨n, hn, hle, hrest⟩ := byteLength_cons_eq_succ c front
    rw [hn, List.cons_append, dropBytes, if_pos hle, hrest, ih]

/-- The bytes of a front are the front. -/
theorem takeBytes_append (front rest : List Char) :
    takeBytes (byteLength front) (front ++ rest) = some front := by
  induction front with
  | nil => rw [List.nil_append, byteLength, takeBytes]
  | cons c front ih =>
    obtain ⟨n, hn, hle, hrest⟩ := byteLength_cons_eq_succ c front
    rw [hn, List.cons_append, takeBytes, if_pos hle, hrest, ih, Option.map_some]

/-- The bytes of a first part can be cut out. -/
theorem slice_append (s t : String) : slice (s ++ t) 0 (byteLength s.toList) = some s := by
  rw [slice, String.toList_append, dropBytes, Option.bind_some, Nat.sub_zero, takeBytes_append,
    Option.map_some, String.ofList_toList]

/-- What comes behind a first part can be cut out. -/
theorem sliceFrom_append (s t : String) : sliceFrom (s ++ t) (byteLength s.toList) = some t := by
  rw [sliceFrom, String.toList_append, dropBytes_append, Option.map_some, String.ofList_toList]

/-- A part of a text can be cut out between the bytes before it and those up to its end. -/
theorem slice_between {s : String} (front part : List Char) {back : List Char}
    (h : s.toList = front ++ part ++ back) :
    slice s (byteLength front) (byteLength (front ++ part)) = some (String.ofList part) := by
  rw [slice, h, List.append_assoc, dropBytes_append, Option.bind_some, byteLength_append,
    Nat.add_sub_cancel_left, takeBytes_append, Option.map_some]

/-- What is left behind some bytes is the rest of the text behind characters of so many bytes. -/
theorem exists_of_dropBytes {n : Nat} {cs rest : List Char} (h : dropBytes n cs = some rest) :
    ∃ front, cs = front ++ rest ∧ byteLength front = n := by
  induction cs generalizing n with
  | nil =>
    cases n with
    | zero =>
      cases h
      exact ⟨[], rfl, rfl⟩
    | succ n => cases h
  | cons c cs ih =>
    cases n with
    | zero =>
      cases h
      exact ⟨[], rfl, rfl⟩
    | succ n =>
      rw [dropBytes] at h
      split at h
      · rename_i hsize
        obtain ⟨front, rfl, hfront⟩ := ih h
        refine ⟨c :: front, rfl, ?_⟩
        rw [byteLength_cons, hfront]
        omega
      · cases h

/-- Dropping a start works for exactly the lists that have it. -/
theorem dropStart?_isSome_iff {start cs : List Char} :
    (dropStart? start cs).isSome ↔ start <+: cs := by
  induction start generalizing cs with
  | nil => simp [dropStart?]
  | cons p start ih =>
    cases cs with
    | nil => simp [dropStart?]
    | cons c rest =>
      rw [dropStart?, List.cons_prefix_cons]
      split
      · rename_i heq
        rw [ih]
        exact (and_iff_right heq).symm
      · rename_i hne
        simp [hne]

/-- A text starts with another one if its characters do. -/
theorem startsWith_iff {s start : String} :
    startsWith s start = true ↔ start.toList <+: s.toList := dropStart?_isSome_iff

end TelemetryGate.Text
