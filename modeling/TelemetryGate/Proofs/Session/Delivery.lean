import TelemetryGate.Proofs.Session.Reporters

/-!
# Delivery during a session

A program takes any steps in any order, with any number of dispatchers that may share reporters. A
dispatcher stays as it was built, and a reporter in memory gets just what is sent to it: the startup
event when a dispatcher is bound to it, then each emission through such a dispatcher, in the order of
the steps. Nothing is lost, doubled, moved, or kept for later.
-/

namespace TelemetryGate.Session

open Effect (deliveries requests)

/-- The session with a dispatcher at a place. -/
def install (s : Session) (d : Dispatcher Reporter) : Place → Session
  | .slot => { s with slot := ⟨some d⟩ }
  | .named name => { s with dispatchers := s.dispatchers.put name d }

/-- Whether a step puts a new dispatcher at a place. The slot takes only the first one. -/
def builds (s : Session) (place : Place) : Step → Bool
  | .reset name => place = .named name
  | .setUp target _ _ => place = target && (place ≠ .slot || s.slot.held.isNone)
  | _ => false

/-- What a step sends to the reporter in memory of a number: the startup event if it builds a
dispatcher that is bound to the reporter, the flat form of an emission through such a dispatcher, and
an event that is sent directly. -/
def sends (s : Session) (c : Circumstances) (number : Nat) : Step → List WireEvent
  | .setUp place setup connection =>
    let d := (s.setUp c place setup connection).1.dispatcherAt place
    if s.builds place (.setUp place setup connection) ∧ d.memory? = some number then [.startup]
    else []
  | .emit place e => if (s.dispatcherAt place).memory? = some number then [e.flat] else []
  | .send name event => if s.numberOf name = number then [event] else []
  | _ => []

/-- The steps of a run, each with the session that it is taken in. -/
def history (s : Session) (c : Circumstances) : List Step → List (Session × Step)
  | [] => []
  | st :: rest => (s, st) :: (s.step c st).1.history c rest

/-- Every number in use is that of a reporter in memory. -/
structure Sound (s : Session) : Prop where
  /-- Names stand for reporters in memory. -/
  names : ∀ name number, s.names.get? name = some number → number < s.memories.length
  /-- Dispatchers are bound to reporters in memory. -/
  bound : ∀ place number, (s.dispatcherAt place).memory? = some number →
    number < s.memories.length

/-- A place reads as the dispatcher that was put there last. -/
theorem dispatcherAt_install (s : Session) (d : Dispatcher Reporter) (place other : Place) :
    (s.install d place).dispatcherAt other = if other = place then d else s.dispatcherAt other := by
  cases place with
  | slot => cases other <;> simp [install, dispatcherAt, dispatcherOf, Slot.dispatcher]
  | named name =>
    cases other with
    | slot => simp [install, dispatcherAt]
    | named other =>
      simp only [install, dispatcherAt, dispatcherOf, Entries.get?_put, Place.named.injEq]
      split <;> rfl

@[simp]
theorem memories_install (s : Session) (d : Dispatcher Reporter) (place : Place) :
    (s.install d place).memories = s.memories := by
  cases place <;> rfl

@[simp]
theorem names_install (s : Session) (d : Dispatcher Reporter) (place : Place) :
    (s.install d place).names = s.names := by
  cases place <;> rfl

@[simp]
theorem eventsOf_install (s : Session) (d : Dispatcher Reporter) (place : Place) (number : Nat) :
    (s.install d place).eventsOf number = s.eventsOf number := by
  rw [eventsOf, memories_install, eventsOf]

theorem Grows.dispatcherAt {s s' : Session} (h : s.Grows s') (place : Place) :
    s'.dispatcherAt place = s.dispatcherAt place := by
  cases place with
  | slot => simp [Session.dispatcherAt, h.slot]
  | named name => simp [Session.dispatcherAt, dispatcherOf, h.dispatchers]

/-- A session that grows stays sound. -/
theorem Grows.sound {s s' : Session} (h : s.Grows s') (hs : s.Sound) : s'.Sound where
  names := h.names hs.names
  bound place number hnumber := by
    rw [h.dispatcherAt] at hnumber
    exact Nat.lt_of_lt_of_le (hs.bound place number hnumber) h.length

/-- A dispatcher that is bound to a reporter in memory of the session may be put anywhere. -/
theorem Sound.install {s : Session} (h : s.Sound) {d : Dispatcher Reporter}
    (hd : ∀ number, d.memory? = some number → number < s.memories.length) (place : Place) :
    (s.install d place).Sound where
  names := by simpa using h.names
  bound other number hnumber := by
    rw [dispatcherAt_install] at hnumber
    rw [memories_install]
    split at hnumber
    · exact hd number hnumber
    · exact h.bound other number hnumber

/-- What one dispatcher sends to one reporter in memory. -/
theorem received_toList (target : Option Nat) (event : WireEvent) (number : Nat) :
    ((target.toList.map (·, event)).filter (·.1 = number)).map (·.2) =
      if target = some number then [event] else [] := by
  cases target with
  | none => rfl
  | some k => by_cases h : k = number <;> simp [h]

theorem receivedOf_emit (d : Dispatcher Reporter) (e : Emission) :
    receivedOf (d.emit e) = d.memory?.toList.map (·, e.flat) := by
  rw [receivedOf_eq, Dispatcher.deliveries_emit]
  cases d with
  | active r => cases h : r.memory? <;> simp [Dispatcher.reporter?, Dispatcher.memory?, h]
  | _ => rfl

theorem receivedOf_setUp (w : World) (setup : Setup) (connect : Connector Reporter) :
    receivedOf (Dispatcher.setUp w setup connect).1 =
      (Dispatcher.outcome w setup connect).memory?.toList.map (·, .startup) := by
  rw [receivedOf_eq, Dispatcher.deliveries_setUp]
  cases Dispatcher.outcome w setup connect with
  | active r => cases h : r.memory? <;> simp [Dispatcher.reporter?, Dispatcher.memory?, h]
  | _ => rfl

theorem askedOf_setUp (w : World) (setup : Setup) (connect : Connector Reporter) :
    askedOf (Dispatcher.setUp w setup connect).1 =
      (setup.key? w).map (·, setup.endpoint?) := by
  rw [askedOf_eq, Dispatcher.requests_setUp]
  cases setup.key? w <;> rfl

section Perform

variable (s : Session) (c : Circumstances) (effects : List (Effect Reporter)) (answer : Answer)

/-- Effects leave every dispatcher where it is. -/
theorem dispatcherAt_perform (place : Place) :
    (s.perform c effects answer).1.dispatcherAt place = s.dispatcherAt place := by
  obtain ⟨host, posted, heq⟩ := s.perform_fst c effects answer
  rw [heq]
  cases place <;> rfl

/-- Effects rename no reporter. -/
theorem names_perform : (s.perform c effects answer).1.names = s.names := by
  obtain ⟨host, posted, heq⟩ := s.perform_fst c effects answer
  rw [heq]

/-- Effects keep a session sound. -/
theorem Sound.perform {s : Session} (h : s.Sound) : (s.perform c effects answer).1.Sound := by
  have hlength : (s.perform c effects answer).1.memories.length = s.memories.length := by
    obtain ⟨host, posted, heq⟩ := s.perform_fst c effects answer
    rw [heq]
    exact length_store _ _
  constructor
  · simpa only [names_perform, hlength] using h.names
  · simpa only [dispatcherAt_perform, hlength] using h.bound

/-- Effects append what is sent to a reporter in memory to its events. -/
theorem eventsOf_perform {s : Session} {effects : List (Effect Reporter)}
    (h : ∀ r ∈ receivedOf effects, r.1 < s.memories.length) (number : Nat) :
    (s.perform c effects answer).1.eventsOf number =
      s.eventsOf number ++ ((receivedOf effects).filter (·.1 = number)).map (·.2) := by
  obtain ⟨host, posted, heq⟩ := s.perform_fst c effects answer
  rw [heq]
  exact events_store h number

end Perform

/-- A filled slot is not set up again, and a setup that is refused does nothing. -/
theorem perform_nothing (s : Session) (c : Circumstances) (answer : Answer) :
    (s.perform c [] answer).1 = s := by
  have hreport : s.report c [] = s := by
    unfold report
    split <;> rfl
  simp only [perform, receivedOf, sentOf, postsOf, recordsOf, deliver, List.filterMap_nil,
    List.foldl_nil, List.append_nil, List.length_nil, Nat.add_zero, hreport]

/-- What a filled slot shows when it is set up. -/
def refusal : Row := { answer := .refused .alreadyFilled none }

/-- A filled slot refuses a setup, and nothing changes. -/
theorem setUp_of_held {s : Session} {d : Dispatcher Reporter} (h : s.slot.held = some d)
    (c : Circumstances) (setup : Setup) (connection : Connection) :
    s.setUp c .slot setup connection = (s, refusal) := by
  have hstays : (s.perform c [] (.refused .alreadyFilled none)).1 = s := perform_nothing s c _
  have hasked : askedOf ([] : List (Effect Reporter)) = none := rfl
  simp only [setUp, Slot.fill_of_held h, hasked, afterAsked_none]
  exact Prod.ext hstays rfl

/-- A setup that builds puts its outcome at the place, performs its effects, and tells the state. -/
theorem setUp_eq {s : Session} {place : Place} {setup : Setup} {connection : Connection}
    (c : Circumstances) (h : s.builds place (.setUp place setup connection) = true) :
    s.setUp c place setup connection =
      ((s.afterAsked connection ((setup.key? s.host.world).map (·, setup.endpoint?))).install
        (Dispatcher.outcome s.host.world setup (s.connector c connection)) place).perform c
          (Dispatcher.setUp s.host.world setup (s.connector c connection)).1
          (.started (Dispatcher.outcome s.host.world setup (s.connector c connection)).state
            ((setup.key? s.host.world).map (·, setup.endpoint?))) := by
  have hasked := askedOf_setUp s.host.world setup (s.connector c connection)
  have hd := Dispatcher.setUp_snd s.host.world setup (s.connector c connection)
  cases place with
  | named name =>
    rw [← hasked, ← hd]
    rfl
  | slot =>
    have hempty : s.slot.held = none := by simpa [builds] using h
    rw [← hasked, ← hd, setUp, Slot.fill_of_empty hempty]
    rfl

theorem setUp_fst {s : Session} {place : Place} {setup : Setup} {connection : Connection}
    (c : Circumstances) (h : s.builds place (.setUp place setup connection) = true) :
    ∃ answer, (s.setUp c place setup connection).1 =
      (((s.afterAsked connection ((setup.key? s.host.world).map (·, setup.endpoint?))).install
        (Dispatcher.outcome s.host.world setup (s.connector c connection)) place).perform c
          (Dispatcher.setUp s.host.world setup (s.connector c connection)).1 answer).1 :=
  ⟨_, congrArg Prod.fst (setUp_eq c h)⟩

/-- The dispatcher of a setup that builds. -/
theorem dispatcherAt_setUp {s : Session} {place : Place} {setup : Setup} {connection : Connection}
    (c : Circumstances) (h : s.builds place (.setUp place setup connection) = true) :
    (s.setUp c place setup connection).1.dispatcherAt place =
      Dispatcher.outcome s.host.world setup (s.connector c connection) := by
  obtain ⟨answer, heq⟩ := setUp_fst c h
  rw [heq, dispatcherAt_perform, dispatcherAt_install, if_pos rfl]

/-- The names after a setup that builds. -/
theorem names_setUp {s : Session} {place : Place} {setup : Setup} {connection : Connection}
    (c : Circumstances) (h : s.builds place (.setUp place setup connection) = true) :
    (s.setUp c place setup connection).1.names = (s.afterAsked connection
      ((setup.key? s.host.world).map (·, setup.endpoint?))).names := by
  obtain ⟨answer, heq⟩ := setUp_fst c h
  rw [heq, names_perform, names_install]

/-- A setup that does not build is refused by the slot and changes nothing. -/
theorem setUp_of_not_builds {s : Session} {place : Place} {setup : Setup}
    {connection : Connection} (c : Circumstances)
    (h : s.builds place (.setUp place setup connection) = false) :
    s.setUp c place setup connection = (s, refusal) := by
  cases place with
  | named name => simp [builds] at h
  | slot =>
    obtain ⟨d, hd⟩ : ∃ d, s.slot.held = some d := by
      cases hheld : s.slot.held with
      | none => simp [builds, hheld] at h
      | some d => exact ⟨d, rfl⟩
    exact setUp_of_held hd c setup connection

/-- The dispatcher of a setup is bound to the reporter in memory which the name of the connection
stands for afterwards. -/
theorem memory?_outcome {s : Session} {c : Circumstances} {setup : Setup}
    {connection : Connection} {r : Reporter}
    (h : Dispatcher.outcome s.host.world setup (s.connector c connection) = .active r) :
    r.memory? = connection.name?.bind (s.afterAsked connection
      ((setup.key? s.host.world).map (·, setup.endpoint?))).names.get? := by
  obtain ⟨key, hkey, hconnect⟩ := Dispatcher.outcome_active_iff.mp h
  rw [hkey]
  exact memory?_of_connector hconnect

/-- What a step does to a sound session: it stays sound, places keep their dispatchers unless the
step builds there, and each reporter in memory gets what the step sends to it. -/
structure Advances (s : Session) (c : Circumstances) (st : Step) (s' : Session) : Prop where
  /-- The session is sound. -/
  sound : s'.Sound
  /-- Where nothing is built the dispatcher stays. -/
  kept : ∀ place, s.builds place st = false → s'.dispatcherAt place = s.dispatcherAt place
  /-- What the step sends is appended. -/
  events : ∀ number, s'.eventsOf number = s.eventsOf number ++ s.sends c number st

theorem advances_setUp {s : Session} (h : s.Sound) (c : Circumstances) (place : Place)
    (setup : Setup) (connection : Connection) :
    s.Advances c (.setUp place setup connection) (s.setUp c place setup connection).1 := by
  cases hbuilds : s.builds place (.setUp place setup connection) with
  | false =>
    rw [setUp_of_not_builds c hbuilds]
    exact ⟨h, fun _ _ => rfl, fun number => by simp [sends, hbuilds]⟩
  | true =>
    obtain ⟨answer, heq⟩ := setUp_fst c hbuilds
    let asked : Asked := (setup.key? s.host.world).map (·, setup.endpoint?)
    let d := Dispatcher.outcome s.host.world setup (s.connector c connection)
    have hgrows := s.grows_afterAsked connection asked
    have hnames := hgrows.names h.names
    have hd : ∀ number, d.memory? = some number →
        number < (s.afterAsked connection asked).memories.length := by
      intro number hnumber
      rcases Dispatcher.outcome_cases s.host.world setup (s.connector c connection) with
        hdisabled | ⟨r, hactive⟩
      · simp [d, hdisabled, Dispatcher.memory?, Dispatcher.reporter?] at hnumber
      · have hr : d.memory? = r.memory? := by
          simp [d, hactive, Dispatcher.memory?, Dispatcher.reporter?]
        rw [hr, memory?_outcome hactive, Option.bind_eq_some_iff] at hnumber
        obtain ⟨name, -, hname⟩ := hnumber
        exact hnames name number hname
    have hreceived : ∀ r ∈ receivedOf
        (Dispatcher.setUp s.host.world setup (s.connector c connection)).1,
        r.1 < ((s.afterAsked connection asked).install d place).memories.length := by
      intro r hr
      rw [receivedOf_setUp, List.mem_map] at hr
      obtain ⟨number, hnumber, rfl⟩ := hr
      rw [memories_install]
      exact hd number (Option.mem_toList.mp hnumber)
    refine ⟨?_, fun other hother => ?_, fun number => ?_⟩
    · rw [heq]
      exact ((hgrows.sound h).install hd place).perform c _ answer
    · have hne : other ≠ place := by
        rintro rfl
        exact Bool.false_ne_true (hother.symm.trans hbuilds)
      rw [heq, dispatcherAt_perform, dispatcherAt_install, if_neg hne, hgrows.dispatcherAt]
    · simp only [sends, hbuilds, dispatcherAt_setUp c hbuilds, true_and]
      rw [heq, eventsOf_perform c answer hreceived, eventsOf_install, hgrows.events,
        receivedOf_setUp, received_toList]

theorem advances_emit {s : Session} (h : s.Sound) (c : Circumstances) (place : Place)
    (e : Emission) : s.Advances c (.emit place e) (s.step c (.emit place e)).1 := by
  have hreceived : ∀ r ∈ receivedOf ((s.dispatcherAt place).emit e), r.1 < s.memories.length := by
    intro r hr
    rw [receivedOf_emit, List.mem_map] at hr
    obtain ⟨number, hnumber, rfl⟩ := hr
    exact h.bound place number (Option.mem_toList.mp hnumber)
  rw [step_emit]
  refine ⟨h.perform c _ .done, fun other _ => s.dispatcherAt_perform c _ .done other,
    fun number => ?_⟩
  rw [eventsOf_perform c .done hreceived, receivedOf_emit, received_toList]
  rfl

theorem advances_send {s : Session} (h : s.Sound) (c : Circumstances) (name : String)
    (event : WireEvent) : s.Advances c (.send name event) (s.step c (.send name event)).1 := by
  have hgrows := s.grows_withMemory name
  have hsound := hgrows.sound h
  have hnumber : (s.withMemory name).numberOf name = s.numberOf name := by
    rw [numberOf, get?_withMemory, Option.getD_some]
  have hreceived : receivedOf [.delivered (.memory (s.numberOf name)) event] =
      [(s.numberOf name, event)] := rfl
  have hrange : ∀ r ∈ receivedOf [.delivered (.memory (s.numberOf name)) event],
      r.1 < (s.withMemory name).memories.length := by
    rw [hreceived]
    rintro r hr
    rw [List.mem_singleton.mp hr]
    exact hsound.names name _ (s.get?_withMemory name)
  simp only [step, hnumber]
  refine ⟨hsound.perform c _ .done, fun other _ => ?_, fun number => ?_⟩
  · rw [dispatcherAt_perform, hgrows.dispatcherAt]
  · rw [eventsOf_perform c .done hrange, hgrows.events, hreceived]
    by_cases heq : s.numberOf name = number <;> simp [sends, heq]

/-- Every step of a sound session does what it says. -/
theorem advances_step {s : Session} (h : s.Sound) (c : Circumstances) (st : Step) :
    s.Advances c st (s.step c st).1 := by
  cases st with
  | reset name =>
    have hstep : (s.step c (.reset name)).1 = s.install .uninitialized (.named name) := rfl
    rw [hstep]
    have hunbound : ∀ number, (Dispatcher.uninitialized : Dispatcher Reporter).memory? =
        some number → number < s.memories.length := by
      intro number hnumber
      cases hnumber
    refine ⟨h.install hunbound _, fun other hother => ?_, fun number => ?_⟩
    · have hne : other ≠ .named name := by simpa [builds] using hother
      rw [dispatcherAt_install, if_neg hne]
    · rw [eventsOf_install]
      exact (List.append_nil _).symm
  | setUp place setup connection => exact advances_setUp h c place setup connection
  | emit place e => exact advances_emit h c place e
  | send name event => exact advances_send h c name event
  | report records =>
    have hreceived : receivedOf (records.map .logged) = [] := by
      simp [receivedOf, sentOf, List.filterMap_map]
    have hrange : ∀ r ∈ receivedOf (records.map .logged), r.1 < s.memories.length := by
      simp [hreceived]
    refine ⟨h.perform c _ .done, fun other _ => s.dispatcherAt_perform c _ .done other,
      fun number => ?_⟩
    rw [step, eventsOf_perform c .done hrange, hreceived]
    rfl
  | look place => exact ⟨h, fun _ _ => rfl, fun _ => (List.append_nil _).symm⟩
  | inspect name => exact ⟨h, fun _ _ => rfl, fun _ => (List.append_nil _).symm⟩
  | setUpLog settings =>
    exact ⟨⟨h.names, h.bound⟩, fun _ _ => rfl, fun _ => (List.append_nil _).symm⟩

end TelemetryGate.Session
