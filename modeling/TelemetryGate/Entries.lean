/-!
# Entries in key order

A list of entries under text keys, kept in rising order of the keys by `put`. Keys are compared by
code points, which is also the order of their encoded bytes.
-/

namespace TelemetryGate

/-- Values under text keys. Every list built by `put` is in rising order and holds a key once. -/
abbrev Entries (α : Type) := List (String × α)

namespace Entries

variable {α β : Type}

/-- The value under a key. -/
def get? (key : String) : Entries α → Option α
  | [] => none
  | (k, v) :: rest => if k = key then some v else get? key rest

/-- The entries with one more: a value that was there under the key is replaced. -/
def put (key : String) (value : α) : Entries α → Entries α
  | [] => [(key, value)]
  | (k, v) :: rest =>
    if key < k then (key, value) :: (k, v) :: rest
    else if key = k then (key, value) :: rest
    else (k, v) :: put key value rest

/-- The entries of a list in which a later value replaces an earlier one under the same key. -/
def ofList (entries : List (String × α)) : Entries α :=
  entries.foldl (fun acc e => put e.1 e.2 acc) []

/-- The keys in their order. -/
def keys (es : Entries α) : List String := es.map (·.1)

/-- The same keys with changed values. -/
def mapValues (f : α → β) (es : Entries α) : Entries β := es.map fun e => (e.1, f e.2)

/-- Reading after writing: the written key has the written value. -/
@[simp]
theorem get?_put_self (key : String) (value : α) (es : Entries α) :
    (put key value es).get? key = some value := by
  induction es with
  | nil => simp [put, get?]
  | cons e rest ih =>
    obtain ⟨k, v⟩ := e
    simp only [put]
    split
    · simp [get?]
    · split
      · simp [get?]
      · rename_i hne
        simp only [get?]
        rw [if_neg (fun h => hne h.symm)]
        exact ih

/-- Writing one key leaves the others as they are. -/
theorem get?_put_of_ne {key other : String} (h : other ≠ key) (value : α) (es : Entries α) :
    (put key value es).get? other = es.get? other := by
  induction es with
  | nil => simp [put, get?, h.symm]
  | cons e rest ih =>
    obtain ⟨k, v⟩ := e
    simp only [put]
    split
    · simp [get?, h.symm]
    · split
      · rename_i hk
        subst hk
        simp [get?, h.symm]
      · simp only [get?]
        split
        · rfl
        · exact ih

end Entries

end TelemetryGate
