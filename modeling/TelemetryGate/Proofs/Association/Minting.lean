import Mathlib.Data.List.Induction
import Mathlib.Data.List.Nodup
import Mathlib.Data.List.Perm.Subperm
import TelemetryGate.Mint
import TelemetryGate.Proofs.Association.Texts

/-!
# Ids made by many threads are different

In whatever order the steps of the threads come, the ids that took a running number are a series, as
if one thread had made them all. Each of them is returned once or is still held by its thread. A
series has no running number twice as long as the counter has not gone round, whatever the clock
showed, so the texts that are returned are different.
-/

namespace TelemetryGate

namespace AssociationId

/-- A series goes on with the next running number. -/
theorem series_concat (process : UInt32) (sequence : UInt64) (readings : List Int) (reading : Int) :
    series process sequence (readings ++ [reading]) = series process sequence readings ++
      [⟨clockMillis reading, process, sequence + .ofNat readings.length⟩] := by
  induction readings generalizing sequence with
  | nil => simp [series]
  | cons first rest ih =>
    have hnext : sequence + 1 + .ofNat rest.length = sequence + .ofNat (rest.length + 1) := by
      rw [UInt64.add_assoc, UInt64.ofNat_add, UInt64.add_comm 1]
      rfl
    rw [List.cons_append, series, ih, series, List.length_cons, hnext, List.cons_append]

/-- The running numbers of a series follow each other. -/
theorem map_sequence_series (process : UInt32) (sequence : UInt64) (readings : List Int) :
    (series process sequence readings).map (·.sequence) =
      (List.range readings.length).map (sequence + .ofNat ·) := by
  induction readings using List.reverseRecOn with
  | nil => rfl
  | append_singleton readings reading ih =>
    rw [series_concat, List.map_append, ih, List.length_append, List.length_singleton,
      List.range_succ, List.map_append]
    rfl

/-- As long as the counter has not gone round, no id of a series comes twice. -/
theorem nodup_series (process : UInt32) (sequence : UInt64) {readings : List Int}
    (h : readings.length ≤ UInt64.size) : (series process sequence readings).Nodup := by
  refine List.Nodup.of_map (·.sequence) ?_
  rw [map_sequence_series]
  refine List.nodup_range.map_on fun i hi j hj heq => ?_
  have hi : i < UInt64.size := Nat.lt_of_lt_of_le (List.mem_range.mp hi) h
  have hj : j < UInt64.size := Nat.lt_of_lt_of_le (List.mem_range.mp hj) h
  have hsame := congrArg UInt64.toNat ((UInt64.add_right_inj sequence).mp heq)
  rwa [UInt64.toNat_ofNat_of_lt' hi, UInt64.toNat_ofNat_of_lt' hj] at hsame

/-- The times of a series are those that the clock showed. -/
theorem map_time_series (process : UInt32) (sequence : UInt64) (readings : List Int) :
    (series process sequence readings).map (·.time) = readings.map clockMillis := by
  induction readings generalizing sequence with
  | nil => rfl
  | cons reading rest ih => rw [series, List.map_cons, ih, List.map_cons]

/-- The ids of a series are those of its process. -/
theorem process_of_mem_series {process : UInt32} {sequence : UInt64} {readings : List Int}
    {id : AssociationId} (h : id ∈ series process sequence readings) : id.process = process := by
  induction readings generalizing sequence with
  | nil => exact absurd h List.not_mem_nil
  | cons reading rest ih =>
    rcases List.mem_cons.mp h with rfl | hrest
    · rfl
    · exact ih hrest

end AssociationId

/-! ## What threads hold -/

/-- Threads relay entries from one list to another: each entry of the first list is in the second
one, or its thread still holds it. -/
def Relays {α : Type} [DecidableEq α] (held : Nat → Option α)
    (taken handed : List (Nat × α)) : Prop :=
  ∀ t x, taken.count (t, x) = handed.count (t, x) + if held t = some x then 1 else 0

namespace Relays

variable {α : Type} [DecidableEq α] {held held' : Nat → Option α} {taken handed : List (Nat × α)}

theorem count_concat_self (entries : List (Nat × α)) (t : Nat) (x y : α) :
    (entries ++ [(t, x)]).count (t, y) = entries.count (t, y) + if x = y then 1 else 0 := by
  rw [List.count_append, List.count_singleton]
  simp only [beq_iff_eq, Prod.mk.injEq, true_and]

theorem count_concat_of_ne (entries : List (Nat × α)) {t u : Nat} (h : u ≠ t) (x y : α) :
    (entries ++ [(t, x)]).count (u, y) = entries.count (u, y) := by
  have hne : ((t, x) == (u, y)) = false := beq_false_of_ne fun heq => h (congrArg (·.1) heq).symm
  rw [List.count_append, List.count_singleton, hne]
  rfl

/-- A thread that holds nothing takes an entry. -/
theorem take (h : Relays held taken handed) {t : Nat} {x : α} (hnone : held t = none)
    (hself : held' t = some x) (hother : ∀ u, u ≠ t → held' u = held u) :
    Relays held' (taken ++ [(t, x)]) handed := by
  intro u y
  by_cases hu : u = t
  · subst hu
    rw [count_concat_self, h u y, hnone, hself]
    simp only [Option.some.injEq, reduceCtorEq, if_false, Nat.add_zero]
  · rw [count_concat_of_ne taken hu, hother u hu]
    exact h u y

/-- A thread hands on the entry that it holds. -/
theorem hand (h : Relays held taken handed) {t : Nat} {x : α} (hsome : held t = some x)
    (hself : held' t = none) (hother : ∀ u, u ≠ t → held' u = held u) :
    Relays held' taken (handed ++ [(t, x)]) := by
  intro u y
  by_cases hu : u = t
  · subst hu
    rw [count_concat_self, h u y, hsome, hself]
    simp only [Option.some.injEq, reduceCtorEq, if_false, Nat.add_zero]
  · rw [count_concat_of_ne handed hu, hother u hu]
    exact h u y

/-- What was handed on was taken, and no entry was handed on more often. -/
theorem subperm (h : Relays held taken handed) : handed.Subperm taken :=
  List.subperm_ext_iff.mpr <| by
    rintro ⟨t, x⟩ -
    rw [h t x]
    exact Nat.le_add_right _ _

/-- If no thread holds anything, all that was taken was handed on. -/
theorem perm (h : Relays held taken handed) (hnone : ∀ t, held t = none) : handed.Perm taken :=
  List.perm_iff_count.mpr <| by
    rintro ⟨t, x⟩
    rw [h t x, hnone, if_neg (Option.some_ne_none x).symm, Nat.add_zero]

end Relays

/-- The time that a thread holds before it takes a running number. -/
def Minting.time? : Minting → Option UInt64
  | .timed time => some time
  | _ => none

/-- The id that a thread holds before it returns it. -/
def Minting.id? : Minting → Option AssociationId
  | .numbered id => some id
  | _ => none

namespace Mint

open AssociationId (series firstSequence)

/-- The threads of a process and what they did fit together. -/
structure Orderly (process : UInt32) (m : Mint) : Prop where
  /-- A call that was begun took its running number, or its thread is right before that. -/
  begun : Relays (fun t => (m.position t).time?) m.begun (m.numbered.map fun r => (r.1, r.2.time))
  /-- An id that took its running number was returned, or its thread is right before that. -/
  returned : Relays (fun t => (m.position t).id?) m.numbered m.returned
  /-- The ids are a series, in the order in which they took their running numbers. -/
  isSeries : ∃ readings, m.numbered.map (·.2) = series process firstSequence readings
  /-- The next running number is the one after theirs. -/
  next : m.next = firstSequence + .ofNat m.numbered.length

theorem position_move_self (m : Mint) (t : Nat) (p : Minting) : (m.move t p).position t = p :=
  if_pos rfl

theorem position_move_of_ne (m : Mint) {t u : Nat} (p : Minting) (h : u ≠ t) :
    (m.move t p).position u = m.position u := if_neg h

/-- What threads hold stays as it is if that of the thread that moves does. -/
theorem held_move {α : Type} (held : Minting → Option α) {m : Mint} {t : Nat} {p : Minting}
    (h : held p = held (m.position t)) :
    (fun u => held ((m.move t p).position u)) = fun u => held (m.position u) := by
  funext u
  by_cases hu : u = t
  · subst hu
    rw [position_move_self, h]
  · rw [position_move_of_ne m p hu]

/-- The threads have not begun. -/
theorem orderly_start (process : UInt32) : ({} : Mint).Orderly process where
  begun _ _ := rfl
  returned _ _ := rfl
  isSeries := ⟨[], rfl⟩
  next := rfl

section Orderly

variable {process : UInt32} {m : Mint} {t : Nat}

/-- A thread reads the clock. -/
theorem Orderly.begin (h : m.Orderly process) (hready : m.position t = .ready) (time : UInt64) :
    Orderly process { m.move t (.timed time) with begun := m.begun ++ [(t, time)] } where
  begun := h.begun.take (congrArg Minting.time? hready)
    (congrArg Minting.time? (m.position_move_self t _))
    fun _ hu => congrArg Minting.time? (m.position_move_of_ne _ hu)
  returned := by
    have hstill := held_move Minting.id? (p := .timed time) (congrArg Minting.id? hready).symm
    exact hstill ▸ h.returned
  isSeries := h.isSeries
  next := h.next

/-- A thread takes the next running number. -/
theorem Orderly.number (h : m.Orderly process) {time : UInt64}
    (htimed : m.position t = .timed time) :
    Orderly process { m.move t (.numbered ⟨time, process, m.next⟩) with
      next := m.next + 1
      numbered := m.numbered ++ [(t, ⟨time, process, m.next⟩)] } where
  begun := by
    have hbegun := h.begun.hand (congrArg Minting.time? htimed)
      (congrArg Minting.time? (m.position_move_self t (.numbered ⟨time, process, m.next⟩)))
      fun _ hu => congrArg Minting.time? (m.position_move_of_ne _ hu)
    rw [List.map_append]
    exact hbegun
  returned := h.returned.take (congrArg Minting.id? htimed)
    (congrArg Minting.id? (m.position_move_self t _))
    fun _ hu => congrArg Minting.id? (m.position_move_of_ne _ hu)
  isSeries := by
    obtain ⟨readings, hseries⟩ := h.isSeries
    have hlength : m.numbered.length = readings.length := by
      rw [← List.length_map (·.2), hseries, AssociationId.length_series]
    have htime : clockMillis time.toNat = time := by
      rw [clockMillis, Int.toNat_natCast, UInt64.ofNat_toNat]
    refine ⟨readings ++ [(time.toNat : Int)], ?_⟩
    rw [AssociationId.series_concat, htime, ← hlength, ← h.next, List.map_append, hseries]
    rfl
  next := by
    rw [List.length_append, List.length_singleton, UInt64.ofNat_add, ← UInt64.add_assoc, ← h.next]
    rfl

/-- A thread returns its id. -/
theorem Orderly.finish (h : m.Orderly process) {id : AssociationId}
    (hnumbered : m.position t = .numbered id) :
    Orderly process { m.move t .ready with returned := m.returned ++ [(t, id)] } where
  begun := by
    have hstill := held_move Minting.time? (p := .ready) (congrArg Minting.time? hnumbered).symm
    exact hstill ▸ h.begun
  returned := h.returned.hand (congrArg Minting.id? hnumbered)
    (congrArg Minting.id? (m.position_move_self t _))
    fun _ hu => congrArg Minting.id? (m.position_move_of_ne _ hu)
  isSeries := h.isSeries
  next := h.next

/-- Every step keeps threads and deeds together. -/
theorem Orderly.step (h : m.Orderly process) (reading : Int) (t : Nat) :
    (m.step process reading t).Orderly process := by
  unfold Mint.step
  cases hposition : m.position t with
  | ready => exact h.begin hposition _
  | timed time => exact h.number hposition
  | numbered id => exact h.finish hposition

/-- A run keeps threads and deeds together. -/
theorem Orderly.run (h : m.Orderly process) (schedule : List (Int × Nat)) :
    (m.run process schedule).Orderly process := by
  induction schedule generalizing m with
  | nil => exact h
  | cons s rest ih => exact ih (h.step s.1 s.2)

/-- There are no more ids than calls. -/
theorem Orderly.length_le (h : m.Orderly process) : m.numbered.length ≤ m.calls := by
  have hle := h.begun.subperm.length_le
  rwa [List.length_map] at hle

/-- A text that was returned is that of an id of the process. -/
theorem Orderly.exists_of_mem (h : m.Orderly process) {s : String} (hs : s ∈ m.texts) :
    ∃ id : AssociationId, id.text = s ∧ id.process = process := by
  obtain ⟨r, hr, rfl⟩ := List.mem_map.mp hs
  obtain ⟨readings, hseries⟩ := h.isSeries
  have hid : r.2 ∈ m.numbered.map (·.2) := List.mem_map_of_mem (h.returned.subperm.subset hr)
  rw [hseries] at hid
  exact ⟨r.2, rfl, AssociationId.process_of_mem_series hid⟩

/-- No text is returned twice as long as the counter has not gone round. -/
theorem Orderly.nodup_texts (h : m.Orderly process) (hcalls : m.calls ≤ UInt64.size) :
    m.texts.Nodup := by
  obtain ⟨readings, hseries⟩ := h.isSeries
  have hlength : readings.length ≤ UInt64.size := by
    rw [← AssociationId.length_series process firstSequence, ← hseries, List.length_map]
    exact Nat.le_trans h.length_le hcalls
  -- threads only tell the entries apart: the ids alone are already different
  have hnumbered : (m.numbered.map (·.2)).Nodup :=
    hseries ▸ AssociationId.nodup_series process firstSequence hlength
  obtain ⟨entries, hperm, hsub⟩ := h.returned.subperm
  have hreturned : (m.returned.map (·.2)).Nodup :=
    (hperm.map _).nodup_iff.mp (hnumbered.sublist (hsub.map _))
  rw [texts, ← Function.comp_def, ← List.map_map]
  exact hreturned.map AssociationId.text_injective

/-- Texts that processes with different numbers return are different. -/
theorem Orderly.disjoint_texts (h : m.Orderly process) {other : UInt32} {m' : Mint}
    (h' : m'.Orderly other) (hother : other ≠ process) : m.texts.Disjoint m'.texts := by
  intro s hs hs'
  obtain ⟨id, hid, hprocess⟩ := h.exists_of_mem hs
  obtain ⟨id', hid', hprocess'⟩ := h'.exists_of_mem hs'
  have hsame : id' = id := AssociationId.text_injective (hid'.trans hid.symm)
  exact hother (by rw [← hprocess', hsame, hprocess])

/-- When no thread is within a call, what was returned is, but for its order, a series with the times
that the calls read. -/
theorem Orderly.texts_perm (h : m.Orderly process) (hready : ∀ t, m.position t = .ready) :
    ∃ readings, (readings.map clockMillis).Perm (m.begun.map (·.2)) ∧
      m.texts.Perm ((series process firstSequence readings).map AssociationId.text) := by
  obtain ⟨readings, hseries⟩ := h.isSeries
  have hbegun := h.begun.perm fun t => congrArg Minting.time? (hready t)
  have hreturned := h.returned.perm fun t => congrArg Minting.id? (hready t)
  refine ⟨readings, ?_, ?_⟩
  · have htimes := hbegun.map (·.2)
    rw [List.map_map] at htimes
    rw [← AssociationId.map_time_series process firstSequence, ← hseries, List.map_map]
    exact htimes
  · rw [← hseries, List.map_map]
    exact hreturned.map _

end Orderly

/-- What the threads of a process return when they take steps in the order of a schedule. -/
structure KeepsApart (process : UInt32) (schedule : List (Int × Nat)) : Prop where
  /-- Calls never return the same text, if there are at most `2 ^ 64` of them. -/
  distinct : (({} : Mint).run process schedule).calls ≤ UInt64.size →
    (({} : Mint).run process schedule).texts.Nodup
  /-- A process with another number returns other texts. -/
  foreign : ∀ other, other ≠ process → ∀ schedule',
    (({} : Mint).run process schedule).texts.Disjoint (({} : Mint).run other schedule').texts
  /-- When no thread is within a call, each call returned an id with the time that it read. But for
  their order the ids are a series, as if one thread had made them all. -/
  complete : (∀ t, (({} : Mint).run process schedule).position t = .ready) →
    ∃ readings, (readings.map clockMillis).Perm
        ((({} : Mint).run process schedule).begun.map (·.2)) ∧
      (({} : Mint).run process schedule).texts.Perm
        ((series process firstSequence readings).map AssociationId.text)

end Mint

namespace AssociationId

/-- What the text of an id tells. -/
structure Tells (id : AssociationId) : Prop where
  /-- The hyphens cut it into the word and the three numbers. -/
  pieces : Text.pieces '-' id.text =
    [word, toString id.time.toNat, toString id.process.toNat, toString id.sequence.toNat]
  /-- The three numbers are read back from the pieces. -/
  read : ofText? id.text = some id
  /-- An id with the same text has the same three numbers. -/
  unique : ∀ other : AssociationId, other.text = id.text →
    other.time = id.time ∧ other.process = id.process ∧ other.sequence = id.sequence

/-- Ids are kept apart whatever the clock shows and in whatever order the threads take their steps,
and their texts tell what they are made of. -/
theorem kept_apart :
    (∀ process schedule, Mint.KeepsApart process schedule) ∧ ∀ id : AssociationId, id.Tells := by
  constructor
  · intro process schedule
    have horderly := (Mint.orderly_start process).run schedule
    constructor
    case distinct => exact horderly.nodup_texts
    case foreign =>
      intro other hother schedule'
      exact horderly.disjoint_texts ((Mint.orderly_start other).run schedule') hother
    case complete => exact horderly.texts_perm
  · intro id
    refine ⟨pieces_text id, ofText?_text id, fun other htext => ?_⟩
    obtain rfl := text_injective htext
    exact ⟨rfl, rfl, rfl⟩

/-- Two threads whose steps alternate while the clock goes back, at one of them to a time before the
epoch. -/
def alternatingSteps : List (Int × Nat) :=
  [(5, 0), (-3, 1), (9, 1), (5, 0), (2, 1), (2, 0), (5, 0), (5, 0), (5, 0)]

/-- They return three different ids, one with the time of the epoch, and none of another process. -/
theorem kept_apart_alternatingSteps :
    (({} : Mint).run 7 alternatingSteps).calls ≤ UInt64.size ∧ (8 : UInt32) ≠ 7 ∧
      (({} : Mint).run 7 alternatingSteps).texts = ["assoc-0-7-1", "assoc-5-7-2", "assoc-5-7-3"] ∧
      (({} : Mint).run 7 alternatingSteps).texts.Nodup ∧
      (({} : Mint).run 7 alternatingSteps).texts.Disjoint
        (({} : Mint).run 8 alternatingSteps).texts := by
  have hcalls : (({} : Mint).run 7 alternatingSteps).calls ≤ UInt64.size := by decide
  have hother : (8 : UInt32) ≠ 7 := by decide
  have hapart := kept_apart.1 7 alternatingSteps
  refine ⟨hcalls, hother, ?_, hapart.distinct hcalls, hapart.foreign 8 hother _⟩
  decide +kernel

end AssociationId

end TelemetryGate
