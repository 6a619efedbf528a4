import TelemetryGate.Dispatch.Race
import TelemetryGate.Proofs.Dispatch.Binding

/-!
# Moves of threads

What a step of a thread can do is said once, as a relation with a case for each kind of step, and so
is what can be read from a history: the dispatcher that was published, what was sent to reporters,
and the deeds of a single call.
-/

namespace TelemetryGate

variable {ρ : Type}

/-- The deeds of a call of a thread. -/
def transcript (history : List (Moment ρ)) (thread call : Nat) : List (Deed ρ) :=
  (history.filter fun x => x.thread = thread ∧ x.call = call).map (·.deed)

/-- The dispatcher that is published. -/
def Deed.published? : Deed ρ → Option (Dispatcher ρ)
  | .published d => some d
  | _ => none

/-- What is sent, and to which reporter. -/
def Deed.sent? : Deed ρ → Option (ρ × WireEvent)
  | .effect (.delivered r event) => some (r, event)
  | _ => none

/-- A call returns because it filled the slot. -/
def Deed.isInstallation : Deed ρ → Bool
  | .returned (.ok _) => true
  | _ => false

/-- The dispatcher that was published. -/
def publishedIn (history : List (Moment ρ)) : Option (Dispatcher ρ) :=
  history.findSome? (·.deed.published?)

/-- The dispatcher that can be read after a history. -/
def shownBy (history : List (Moment ρ)) : Dispatcher ρ := (publishedIn history).getD .uninitialized

/-- What was sent, and to which reporters. -/
def sentIn (history : List (Moment ρ)) : List (ρ × WireEvent) :=
  history.filterMap (·.deed.sent?)

/-- Deeds in a call of a thread. -/
def moments (thread call : Nat) (deeds : List (Deed ρ)) : List (Moment ρ) :=
  deeds.map (⟨thread, call, ·⟩)

theorem transcript_append (history more : List (Moment ρ)) (thread call : Nat) :
    transcript (history ++ more) thread call =
      transcript history thread call ++ transcript more thread call := by
  simp [transcript]

theorem mem_transcript {history : List (Moment ρ)} {thread call : Nat} {deed : Deed ρ} :
    deed ∈ transcript history thread call ↔ ⟨thread, call, deed⟩ ∈ history := by
  simp only [transcript, List.mem_map, List.mem_filter, decide_eq_true_eq]
  constructor
  · rintro ⟨x, ⟨hx, rfl, rfl⟩, rfl⟩
    exact hx
  · exact fun h => ⟨_, ⟨h, rfl, rfl⟩, rfl⟩

/-- Deeds belong to the call in which they are done. -/
theorem transcript_moments (thread call t n : Nat) (deeds : List (Deed ρ)) :
    transcript (moments thread call deeds) t n =
      if t = thread ∧ n = call then deeds else [] := by
  unfold transcript moments
  split
  · rename_i h
    obtain ⟨rfl, rfl⟩ := h
    rw [List.filter_eq_self.mpr, List.map_map]
    · exact List.map_id _
    · rintro x hx
      obtain ⟨d, -, rfl⟩ := List.mem_map.mp hx
      simp
  · rename_i h
    rw [List.map_eq_nil_iff, List.filter_eq_nil_iff]
    rintro x hx
    obtain ⟨d, -, rfl⟩ := List.mem_map.mp hx
    rw [decide_eq_true_eq]
    exact fun ⟨hthread, hcall⟩ => h ⟨hthread.symm, hcall.symm⟩

theorem publishedIn_append (history more : List (Moment ρ)) :
    publishedIn (history ++ more) = (publishedIn history).or (publishedIn more) :=
  List.findSome?_append

theorem sentIn_append (history more : List (Moment ρ)) :
    sentIn (history ++ more) = sentIn history ++ sentIn more := List.filterMap_append

theorem publishedIn_moments (thread call : Nat) (deeds : List (Deed ρ)) :
    publishedIn (moments thread call deeds) = deeds.findSome? Deed.published? := by
  simp only [publishedIn, moments, List.findSome?_map]
  rfl

theorem sentIn_moments (thread call : Nat) (deeds : List (Deed ρ)) :
    sentIn (moments thread call deeds) = deeds.filterMap Deed.sent? := by
  simp only [sentIn, moments, List.filterMap_map]
  rfl

theorem moments_append (thread call : Nat) (deeds more : List (Deed ρ)) :
    moments thread call (deeds ++ more) = moments thread call deeds ++ moments thread call more :=
  List.map_append

/-- Effects publish nothing. -/
theorem publishedIn_effects (thread call : Nat) (effects : List (Effect ρ)) :
    publishedIn (moments thread call (effects.map .effect)) = none := by
  simp [publishedIn_moments, List.findSome?_eq_none_iff, Deed.published?]

/-- What is sent by effects. -/
theorem sentIn_effects (thread call : Nat) (effects : List (Effect ρ)) :
    sentIn (moments thread call (effects.map .effect)) = Effect.deliveries effects := by
  rw [sentIn_moments, List.filterMap_map, Effect.deliveries]
  refine congrArg (List.filterMap · effects) (funext fun x => ?_)
  cases x <;> rfl

namespace Race

section Advance

variable (m : Race ρ) (t : Nat) (p : Position ρ) (deeds : List (Deed ρ))

@[simp]
theorem slot_advance : (m.advance t p deeds).slot = m.slot := rfl

@[simp]
theorem slot_finish : (m.finish t deeds).slot = m.slot := rfl

@[simp]
theorem position_advance_self : (m.advance t p deeds).position t = p := if_pos rfl

@[simp]
theorem position_finish_self : (m.finish t deeds).position t = .ready := if_pos rfl

@[simp]
theorem history_advance :
    (m.advance t p deeds).history = m.history ++ moments t (m.done t) deeds := rfl

@[simp]
theorem history_finish :
    (m.finish t deeds).history = m.history ++ moments t (m.done t) deeds := rfl

end Advance

/-- The steps that a thread can take. -/
inductive Moves (program : Program ρ) (m : Race ρ) (w : World) (t : Nat) : Race ρ → Prop where
  /-- All calls have returned. -/
  | quit (hready : m.position t = .ready) (hcall : (program t)[m.done t]? = none) :
      Moves program m w t m
  /-- Another thread fills the slot. -/
  | wait {setup connect} (u : Nat) (hready : m.position t = .ready)
      (hcall : (program t)[m.done t]? = some (.fill setup connect)) (hslot : m.slot = .taken u) :
      Moves program m w t m
  /-- The empty slot is taken. -/
  | take {setup connect} (hready : m.position t = .ready)
      (hcall : (program t)[m.done t]? = some (.fill setup connect)) (hslot : m.slot = .empty) :
      Moves program m w t { m.advance t (.binding setup connect) [] with slot := .taken t }
  /-- The slot was filled before. -/
  | refuse {setup connect d} (hready : m.position t = .ready)
      (hcall : (program t)[m.done t]? = some (.fill setup connect)) (hslot : m.slot = .filled d) :
      Moves program m w t (m.finish t [.returned (.error .alreadyFilled)])
  /-- The slot is read for an emission. -/
  | read {e} (hready : m.position t = .ready)
      (hcall : (program t)[m.done t]? = some (.emit e)) :
      Moves program m w t (m.advance t (.sending m.slot.dispatcher e) [.saw m.slot.dispatcher])
  /-- The state of the slot is looked at. -/
  | look (hready : m.position t = .ready) (hcall : (program t)[m.done t]? = some .look) :
      Moves program m w t (m.finish t [.looked m.slot.dispatcher.state])
  /-- A dispatcher is bound. -/
  | bind {setup connect} (hposition : m.position t = .binding setup connect) :
      Moves program m w t (m.advance t (.announcing (Dispatcher.bindSetup w setup connect).2)
        ((Dispatcher.bindSetup w setup connect).1.map .effect))
  /-- A dispatcher is announced. -/
  | announce {d} (hposition : m.position t = .announcing d) :
      Moves program m w t (m.advance t (.publishing d) (d.announce.map .effect))
  /-- A dispatcher is published. -/
  | publish {d} (hposition : m.position t = .publishing d) :
      Moves program m w t
        { m.finish t [.published d, .returned (.ok d.state)] with slot := .filled d }
  /-- An emission is sent. -/
  | send {d e} (hposition : m.position t = .sending d e) :
      Moves program m w t (m.finish t ((d.emit e).map .effect ++ [.emitted]))

/-- A step is one of the moves. -/
theorem step_moves (program : Program ρ) (m : Race ρ) (w : World) (t : Nat) :
    Moves program m w t (m.step program w t) := by
  cases hposition : m.position t with
  | ready =>
    cases hcall : (program t)[m.done t]? with
    | none =>
      simp only [step, hposition, hcall]
      exact .quit hposition hcall
    | some call =>
      simp only [step, hposition, hcall]
      cases call with
      | fill setup connect =>
        cases hslot : m.slot with
        | empty =>
          simp only [begin, hslot]
          exact .take hposition hcall hslot
        | taken u =>
          simp only [begin, hslot]
          exact .wait u hposition hcall hslot
        | filled d =>
          simp only [begin, hslot]
          exact .refuse hposition hcall hslot
      | emit e => exact .read hposition hcall
      | look => exact .look hposition hcall
  | binding setup connect =>
    simp only [step, hposition]
    exact .bind hposition
  | announcing d =>
    simp only [step, hposition]
    exact .announce hposition
  | publishing d =>
    simp only [step, hposition]
    exact .publish hposition
  | sending d e =>
    simp only [step, hposition]
    exact .send hposition

/-- A move leaves the positions of other threads. -/
theorem Moves.position_of_ne {program : Program ρ} {m m' : Race ρ} {w : World} {t u : Nat}
    (h : Moves program m w t m') (hu : u ≠ t) : m'.position u = m.position u := by
  cases h with
  | quit | wait => rfl
  | _ => exact if_neg hu

/-- The history of a move is that before it with deeds in the present call. -/
theorem Moves.history {program : Program ρ} {m m' : Race ρ} {w : World} {t : Nat}
    (h : Moves program m w t m') :
    ∃ deeds, m'.history = m.history ++ moments t (m.done t) deeds := by
  cases h with
  | quit | wait => exact ⟨[], (List.append_nil _).symm⟩
  | _ => exact ⟨_, rfl⟩

end Race

end TelemetryGate
