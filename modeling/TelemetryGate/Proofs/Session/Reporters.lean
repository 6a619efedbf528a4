import TelemetryGate.Proofs.Dispatch.Binding
import TelemetryGate.Proofs.Entries
import TelemetryGate.Session

/-!
# Reporters in memory during a session

Effects change a session only in its log, its posts and the events of its reporters in memory, each
of which gets what is sent to it. Asking for a reporter adds at most one reporter in memory without
events. No step forgets a reporter or one of its events.
-/

namespace TelemetryGate

open Effect (deliveries requests)

/-- The number of the reporter in memory that gets what is sent, if it is one in memory. -/
def Reporter.memory? (r : Reporter) : Option Nat :=
  match r.receiver with
  | .memory number => some number
  | _ => none

/-- The number of the reporter in memory that a dispatcher is bound to. -/
def Dispatcher.memory? (d : Dispatcher Reporter) : Option Nat := d.reporter?.bind Reporter.memory?

/-- The name of the reporter in memory that a connection makes or shares. -/
def Connection.name? : Connection → Option String
  | .shared name | .keyed name => some name
  | .held _ inner => inner.name?
  | .http _ | .failing _ => none

/-- A handle changes nothing of what is sent to a reporter in memory. -/
@[simp]
theorem Reporter.memory?_held (handle : Handle) (inner : Reporter) :
    (Reporter.held handle inner).memory? = inner.memory? := rfl

namespace Session

/-- The events that the reporter in memory of a number was sent. -/
def eventsOf (s : Session) (number : Nat) : List WireEvent :=
  (s.memories[number]?.map (·.events)).getD []

/-- What reporters in memory are sent, by what is sent at all. -/
theorem receivedOf_eq (effects : List (Effect Reporter)) :
    receivedOf effects = (deliveries effects).filterMap fun r => r.1.memory?.map (·, r.2) := by
  induction effects with
  | nil => rfl
  | cons effect rest ih =>
    simp only [receivedOf, sentOf, deliveries, List.filterMap_filterMap] at ih ⊢
    cases effect with
    | delivered r event => cases h : r.receiver <;> simp [Reporter.memory?, h, ih]
    | _ => simpa using ih

/-- What is asked for first is all that is asked for, if at most one reporter is asked for. -/
theorem askedOf_eq (effects : List (Effect Reporter)) :
    askedOf effects = (requests effects).head? := by
  rw [requests, List.head?_filterMap, askedOf]
  congr 1
  funext effect
  cases effect <;> rfl

/-- Reporters in memory after one of them was sent an event. -/
def store (memories : List MemoryReporter) (r : Nat × WireEvent) : List MemoryReporter :=
  memories.modify r.1 (·.send r.2)

theorem foldl_receive (received : List (Nat × WireEvent)) (s : Session) :
    received.foldl receive s = { s with memories := received.foldl store s.memories } := by
  induction received generalizing s with
  | nil => rfl
  | cons r rest ih => exact ih _

/-- Effects change the log, what was posted, and the reporters in memory. -/
theorem perform_fst (s : Session) (c : Circumstances) (effects : List (Effect Reporter))
    (answer : Answer) : ∃ host posted, (s.perform c effects answer).1 =
      { s with host, posted, memories := (receivedOf effects).foldl store s.memories } := by
  simp only [perform, foldl_receive, report]
  split
  · exact ⟨_, _, rfl⟩
  · exact ⟨_, _, rfl⟩

theorem length_store (received : List (Nat × WireEvent)) (memories : List MemoryReporter) :
    (received.foldl store memories).length = memories.length := by
  induction received generalizing memories with
  | nil => rfl
  | cons r rest ih => simp [ih, store]

/-- A reporter in memory keeps its events and gets those that are sent to its number. -/
theorem events_store {received : List (Nat × WireEvent)} {memories : List MemoryReporter}
    (h : ∀ r ∈ received, r.1 < memories.length) (number : Nat) :
    ((received.foldl store memories)[number]?.map (·.events)).getD [] =
      (memories[number]?.map (·.events)).getD [] ++
        (received.filter (·.1 = number)).map (·.2) := by
  induction received generalizing memories with
  | nil => simp
  | cons r rest ih =>
    have hlength : (store memories r).length = memories.length := length_store [r] memories
    have hr : r.1 < memories.length := h r List.mem_cons_self
    rw [List.foldl_cons, ih fun a ha => hlength ▸ h a (List.mem_cons_of_mem _ ha)]
    by_cases hnumber : r.1 = number
    · subst hnumber
      simp [store, List.getElem?_eq_getElem hr]
    · simp [store, hnumber]

/-- A new reporter in memory has no events and its own number. -/
theorem eventsOf_addMemory (s : Session) (name : String) (key : Option String) (number : Nat) :
    (s.addMemory name key).eventsOf number = s.eventsOf number := by
  simp only [eventsOf, addMemory, List.getElem?_append]
  split
  · rfl
  · rename_i hnot
    rw [List.getElem?_eq_none (Nat.not_lt.mp hnot), List.getElem?_singleton]
    split <;> rfl

/-- What asking for a reporter leaves as it is, and that it forgets no reporter. -/
structure Grows (s s' : Session) : Prop where
  /-- The dispatchers stay. -/
  dispatchers : s'.dispatchers = s.dispatchers
  /-- The slot stays. -/
  slot : s'.slot = s.slot
  /-- The events of every reporter in memory stay. -/
  events : ∀ number, s'.eventsOf number = s.eventsOf number
  /-- No reporter in memory is forgotten. -/
  length : s.memories.length ≤ s'.memories.length
  /-- Names stand for reporters in memory if they did before. -/
  names : (∀ name number, s.names.get? name = some number → number < s.memories.length) →
    ∀ name number, s'.names.get? name = some number → number < s'.memories.length

theorem Grows.refl (s : Session) : s.Grows s := ⟨rfl, rfl, fun _ => rfl, Nat.le_refl _, id⟩

theorem grows_addMemory (s : Session) (name : String) (key : Option String) :
    s.Grows (s.addMemory name key) where
  dispatchers := rfl
  slot := rfl
  events := s.eventsOf_addMemory name key
  length := by simp [addMemory]
  names h other number hother := by
    simp only [addMemory, Entries.get?_put, List.length_append, List.length_singleton] at hother ⊢
    split at hother
    · have := Option.some.inj hother
      omega
    · have := h other number hother
      omega

theorem grows_withMemory (s : Session) (name : String) : s.Grows (s.withMemory name) := by
  unfold withMemory
  split
  · exact .refl s
  · exact s.grows_addMemory name none

/-- A session in which nothing was asked for stays as it is. -/
theorem afterAsked_none (s : Session) (connection : Connection) :
    s.afterAsked connection none = s := by
  cases connection <;> rfl

/-- Asking for a reporter adds at most one reporter in memory. -/
theorem grows_afterAsked (s : Session) (connection : Connection) (asked : Asked) :
    s.Grows (s.afterAsked connection asked) := by
  cases asked with
  | none =>
    rw [afterAsked_none]
    exact .refl s
  | some a =>
    induction connection with
    | shared name => exact s.grows_withMemory name
    | keyed name => exact s.grows_addMemory name _
    | http endpoint => exact .refl s
    | failing fault => exact .refl s
    | held handle inner ih => exact ih

/-- The name of a reporter in memory stands for its number once it is there. -/
theorem get?_withMemory (s : Session) (name : String) :
    (s.withMemory name).names.get? name = some (s.numberOf name) := by
  unfold withMemory numberOf
  cases h : s.names.get? name <;> simp [h, addMemory]

theorem exists_of_map_ok {ε α β : Type} {f : α → β} {x : Except ε α} {b : β}
    (h : x.map f = .ok b) : ∃ a, x = .ok a ∧ f a = b := by
  cases x with
  | error fault => exact nomatch h
  | ok a => exact ⟨a, rfl, Except.ok.inj h⟩

/-- A reporter that is connected gets what is sent to the reporter in memory which the name of the
connection stands for afterwards. Without a name it is no reporter in memory. -/
theorem memory?_of_connector {s : Session} {c : Circumstances} {connection : Connection}
    {key : String} {endpoint : Option String} {r : Reporter}
    (h : s.connector c connection key endpoint = .ok r) :
    r.memory? = connection.name?.bind
      (s.afterAsked connection (some (key, endpoint))).names.get? := by
  induction connection generalizing r with
  | shared name =>
    obtain rfl := Except.ok.inj h
    exact (s.get?_withMemory name).symm
  | keyed name =>
    obtain rfl := Except.ok.inj h
    exact (Entries.get?_put_self name s.memories.length s.names).symm
  | http other =>
    obtain ⟨r', -, rfl⟩ := exists_of_map_ok h
    rfl
  | failing fault => exact nomatch h
  | held handle inner ih =>
    obtain ⟨r', hr', rfl⟩ := exists_of_map_ok h
    exact (Reporter.memory?_held handle r').trans (ih hr')

end Session

end TelemetryGate
