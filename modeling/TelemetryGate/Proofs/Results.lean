import Mathlib.Data.List.Basic

/-!
# Results that may be faults

A chain of steps each of which may fail is taken apart step by step: it succeeds if all its steps
do, and its fault is that of the first step that fails.
-/

namespace TelemetryGate

variable {ε α β : Type}

/-- Two steps succeed if the first one does, and the second one with what it gives. -/
theorem bind_eq_ok_iff {x : Except ε α} {f : α → Except ε β} {b : β} :
    (x >>= f) = .ok b ↔ ∃ a, x = .ok a ∧ f a = .ok b := by
  cases x with
  | error fault =>
    constructor
    · intro h
      cases h
    · rintro ⟨a, ha, -⟩
      cases ha
  | ok a =>
    constructor
    · intro h
      exact ⟨a, rfl, h⟩
    · rintro ⟨other, ha, h⟩
      cases ha
      exact h

/-- Two steps fail with the fault of the first one, or with that of the second one. -/
theorem bind_eq_error_iff {x : Except ε α} {f : α → Except ε β} {fault : ε} :
    (x >>= f) = .error fault ↔ x = .error fault ∨ ∃ a, x = .ok a ∧ f a = .error fault := by
  cases x with
  | error other =>
    constructor
    · intro h
      cases h
      exact .inl rfl
    · rintro (h | ⟨a, ha, -⟩)
      · cases h
        rfl
      · cases ha
  | ok a =>
    constructor
    · intro h
      exact .inr ⟨a, rfl, h⟩
    · rintro (h | ⟨other, ha, h⟩)
      · cases h
      · cases ha
        exact h

theorem map_eq_ok_iff {x : Except ε α} {f : α → β} {b : β} :
    x.map f = .ok b ↔ ∃ a, x = .ok a ∧ f a = b := by
  cases x <;> simp [Except.map]

theorem map_eq_error_iff {x : Except ε α} {f : α → β} {fault : ε} :
    x.map f = .error fault ↔ x = .error fault := by
  cases x <;> simp [Except.map]

section Traversal

variable {f : α → Except ε β} {l : List α}

theorem mapM_cons_eq_ok_iff {a : α} {values : List β} : (a :: l).mapM f = .ok values ↔
    ∃ v rest, f a = .ok v ∧ l.mapM f = .ok rest ∧ values = v :: rest := by
  rw [List.mapM_cons, bind_eq_ok_iff]
  constructor
  · rintro ⟨v, hv, h⟩
    obtain ⟨rest, hrest, h⟩ := bind_eq_ok_iff.mp h
    cases h
    exact ⟨v, rest, hv, hrest, rfl⟩
  · rintro ⟨v, rest, hv, hrest, rfl⟩
    exact ⟨v, hv, bind_eq_ok_iff.mpr ⟨rest, hrest, rfl⟩⟩

theorem mapM_cons_eq_error_iff {a : α} {fault : ε} : (a :: l).mapM f = .error fault ↔
    f a = .error fault ∨ (∃ v, f a = .ok v) ∧ l.mapM f = .error fault := by
  rw [List.mapM_cons, bind_eq_error_iff]
  refine or_congr_right ?_
  rw [exists_and_right.symm]
  refine exists_congr fun v => and_congr_right fun _ => ?_
  rw [bind_eq_error_iff]
  constructor
  · rintro (h | ⟨rest, -, h⟩)
    · exact h
    · cases h
  · exact .inl

theorem mapM_concat_eq_ok_iff {a : α} {values : List β} : (l ++ [a]).mapM f = .ok values ↔
    ∃ front v, l.mapM f = .ok front ∧ f a = .ok v ∧ values = front ++ [v] := by
  rw [List.mapM_append, bind_eq_ok_iff]
  constructor
  · rintro ⟨front, hfront, h⟩
    obtain ⟨last, hlast, h⟩ := bind_eq_ok_iff.mp h
    obtain ⟨v, _, hv, hnil, rfl⟩ := mapM_cons_eq_ok_iff.mp hlast
    cases hnil
    cases h
    exact ⟨front, v, hfront, hv, rfl⟩
  · rintro ⟨front, v, hfront, hv, rfl⟩
    refine ⟨front, hfront, bind_eq_ok_iff.mpr ⟨[v], ?_, rfl⟩⟩
    exact mapM_cons_eq_ok_iff.mpr ⟨v, [], hv, rfl, rfl⟩

/-- A traversal gives the results of its steps, place by place. -/
theorem mapM_eq_ok_iff {values : List β} : l.mapM f = .ok values ↔
    values.length = l.length ∧
      ∀ (i : Nat) a v, l[i]? = some a → values[i]? = some v → f a = .ok v := by
  induction l generalizing values with
  | nil =>
    constructor
    · intro h
      cases h
      exact ⟨rfl, fun i a v h => absurd h (by simp)⟩
    · rintro ⟨hlength, -⟩
      rw [List.eq_nil_of_length_eq_zero hlength]
      rfl
  | cons a l ih =>
    rw [mapM_cons_eq_ok_iff]
    constructor
    · rintro ⟨v, rest, hv, hrest, rfl⟩
      obtain ⟨hlength, heach⟩ := ih.mp hrest
      refine ⟨congrArg (· + 1) hlength, fun i b w hb hw => ?_⟩
      cases i with
      | zero =>
        cases hb
        cases hw
        exact hv
      | succ i => exact heach i b w hb hw
    · rintro ⟨hlength, heach⟩
      cases values with
      | nil => cases hlength
      | cons v rest =>
        refine ⟨v, rest, heach 0 a v rfl rfl, ih.mpr ⟨Nat.succ.inj hlength, ?_⟩, rfl⟩
        exact fun i b w hb hw => heach (i + 1) b w hb hw

/-- A traversal succeeds if all its steps do. -/
theorem exists_mapM_iff : (∃ values, l.mapM f = .ok values) ↔ ∀ a ∈ l, ∃ v, f a = .ok v := by
  induction l with
  | nil => exact iff_of_true ⟨[], rfl⟩ (List.forall_mem_nil _)
  | cons a l ih =>
    rw [List.forall_mem_cons, ← ih]
    simp only [mapM_cons_eq_ok_iff]
    constructor
    · rintro ⟨_, v, rest, hv, hrest, -⟩
      exact ⟨⟨v, hv⟩, rest, hrest⟩
    · rintro ⟨⟨v, hv⟩, rest, hrest⟩
      exact ⟨_, v, rest, hv, hrest, rfl⟩

/-- The fault of a traversal is that of the first step that fails. -/
theorem mapM_eq_error_iff {fault : ε} : l.mapM f = .error fault ↔
    ∃ before a after, l = before ++ a :: after ∧ (∀ b ∈ before, ∃ v, f b = .ok v) ∧
      f a = .error fault := by
  induction l with
  | nil =>
    constructor
    · intro h
      cases h
    · rintro ⟨before, a, after, h, -⟩
      exact absurd h.symm (List.append_ne_nil_of_right_ne_nil _ (List.cons_ne_nil _ _))
  | cons a l ih =>
    rw [mapM_cons_eq_error_iff, ih]
    constructor
    · rintro (h | ⟨hv, before, b, after, rfl, hbefore, hb⟩)
      · exact ⟨[], a, l, rfl, List.forall_mem_nil _, h⟩
      · exact ⟨a :: before, b, after, rfl, List.forall_mem_cons.mpr ⟨hv, hbefore⟩, hb⟩
    · rintro ⟨before, b, after, hsplit, hbefore, hb⟩
      cases before with
      | nil =>
        cases hsplit
        exact .inl hb
      | cons c before =>
        cases hsplit
        obtain ⟨hv, hbefore⟩ := List.forall_mem_cons.mp hbefore
        exact .inr ⟨hv, before, b, after, rfl, hbefore, hb⟩

end Traversal

end TelemetryGate
