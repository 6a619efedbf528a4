import TelemetryGate.Proofs.Session.Delivery

/-!
# Whole runs

What single steps do adds up over a run: from the first step to the last one every place has the
dispatcher that was built there last, and the events of a reporter in memory are what the steps sent
to it, in the order of the steps.
-/

namespace TelemetryGate.Session

/-- A run in two parts. -/
theorem run_append (s : Session) (c : Circumstances) (before after : List Step) :
    (s.run c (before ++ after)).1 = ((s.run c before).1.run c after).1 := by
  induction before generalizing s with
  | nil => rfl
  | cons st rest ih => exact ih _

/-- A run keeps a session sound. -/
theorem Sound.run {s : Session} (h : s.Sound) (c : Circumstances) (steps : List Step) :
    (s.run c steps).1.Sound := by
  induction steps generalizing s with
  | nil => exact h
  | cons st rest ih => exact ih (advances_step h c st).sound

/-- A place keeps its dispatcher as long as nothing is built there. -/
theorem dispatcherAt_run {s : Session} (h : s.Sound) {c : Circumstances} {steps : List Step}
    {place : Place} (hsteps : ∀ x ∈ s.history c steps, x.1.builds place x.2 = false) :
    (s.run c steps).1.dispatcherAt place = s.dispatcherAt place := by
  induction steps generalizing s with
  | nil => rfl
  | cons st rest ih =>
    have hstep := advances_step h c st
    have hrest := ih hstep.sound fun x hx => hsteps x (List.mem_cons_of_mem _ hx)
    exact hrest.trans (hstep.kept place (hsteps _ List.mem_cons_self))

/-- The events of a reporter in memory are those that it had and those that the steps send to it. -/
theorem eventsOf_run {s : Session} (h : s.Sound) (c : Circumstances) (steps : List Step)
    (number : Nat) : (s.run c steps).1.eventsOf number =
      s.eventsOf number ++ (s.history c steps).flatMap fun x => x.1.sends c number x.2 := by
  induction steps generalizing s with
  | nil => exact (List.append_nil _).symm
  | cons st rest ih =>
    have hstep := advances_step h c st
    have hrest := ih hstep.sound
    rw [hstep.events, List.append_assoc] at hrest
    exact hrest

/-- An emission before anything is set up is dropped, and two dispatchers that share a reporter each
announce themselves to it. -/
example :
    let setUp (name : String) (connection : Connection) : Step :=
      .setUp (.named name) (.key (.text " key ")) connection
    let emit (name : String) : Step := .emit (.named name) ⟨.launch, .association name, .empty⟩
    let start : Session := { host := { world := ⟨.empty, [], []⟩ } }
    let c : Circumstances := ⟨false, .unreachable "", true, "", none⟩
    (start.run c [emit "a", setUp "a" (.held .counted (.shared "r")), setUp "b" (.shared "r"),
      emit "a"]).1.eventsOf 0 =
        [.startup, .startup, ⟨.launch, [("associationId", "a")], []⟩] := by
  decide +kernel

/-- A program starts without dispatchers and reporters. -/
theorem sound_start (host : Log.Host) : ({ host } : Session).Sound where
  names _ _ h := nomatch h
  bound place _ h := by cases place <;> cases h

/-- What is at a place after a setup that built there. -/
structure BuiltAs (s : Session) (c : Circumstances) (place : Place) (setup : Setup)
    (connection : Connection) (s' : Session) : Prop where
  /-- The dispatcher is bound exactly if the setup leads to a key and a reporter is connected. -/
  active_iff : (s'.dispatcherAt place).state = .active ↔
    ∃ key r, setup.key? s.host.world = some key ∧
      s.connector c connection key setup.endpoint? = .ok r
  /-- Otherwise it is disabled. -/
  disabled : (s'.dispatcherAt place).state ≠ .active → (s'.dispatcherAt place).state = .disabled
  /-- If it is bound then to the reporter in memory that the connection names. -/
  memory : (s'.dispatcherAt place).state = .active →
    (s'.dispatcherAt place).memory? = connection.name?.bind s'.names.get?

theorem builtAs_setUp {s : Session} {c : Circumstances} {place : Place} {setup : Setup}
    {connection : Connection} (h : s.builds place (.setUp place setup connection) = true) :
    s.BuiltAs c place setup connection (s.step c (.setUp place setup connection)).1 := by
  have hd : (s.step c (.setUp place setup connection)).1.dispatcherAt place =
      Dispatcher.outcome s.host.world setup (s.connector c connection) := dispatcherAt_setUp c h
  have hnames : (s.step c (.setUp place setup connection)).1.names = _ := names_setUp c h
  rcases Dispatcher.outcome_cases s.host.world setup (s.connector c connection) with
    hdisabled | ⟨r, hactive⟩
  · have hnot : ¬∃ key r, setup.key? s.host.world = some key ∧
        s.connector c connection key setup.endpoint? = .ok r := by
      rintro ⟨key, r, hr⟩
      exact nomatch hdisabled.symm.trans (Dispatcher.outcome_active_iff.mpr ⟨key, hr⟩)
    rw [hdisabled] at hd
    exact ⟨by simpa [hd, Dispatcher.state] using hnot, fun _ => by rw [hd]; rfl,
      fun hactive => by simp [hd, Dispatcher.state] at hactive⟩
  · obtain ⟨key, hkey⟩ := Dispatcher.outcome_active_iff.mp hactive
    have hmemory := memory?_outcome hactive
    rw [hactive] at hd
    rw [← hnames] at hmemory
    exact ⟨by simpa [hd, Dispatcher.state] using ⟨key, hkey.1, r, hkey.2⟩,
      fun h => absurd (by rw [hd]; rfl) h, fun _ => by rw [hd]; exact hmemory⟩

/-- What a run from a start does, whatever its steps are. -/
structure Delivers (start : Session) (c : Circumstances) (steps : List Step) : Prop where
  /-- At first no place has a dispatcher that is set up. -/
  fresh : ∀ place, start.dispatcherAt place = .uninitialized
  /-- A setup that builds puts its dispatcher at the place. -/
  built : ∀ before place setup connection after,
    steps = before ++ .setUp place setup connection :: after →
    (start.run c before).1.builds place (.setUp place setup connection) = true →
    (start.run c before).1.BuiltAs c place setup connection
      ((start.run c before).1.step c (.setUp place setup connection)).1
  /-- A dispatcher that is not set up can be put anywhere but in the slot. -/
  reset : ∀ before name after, steps = before ++ .reset name :: after →
    ((start.run c before).1.step c (.reset name)).1.dispatcherAt (.named name) = .uninitialized
  /-- A dispatcher stays as it was built until another one is built at its place. -/
  kept : ∀ before middle after place, steps = before ++ middle ++ after →
    (∀ x ∈ (start.run c before).1.history c middle, x.1.builds place x.2 = false) →
    (start.run c (before ++ middle)).1.dispatcherAt place =
      (start.run c before).1.dispatcherAt place
  /-- Every emission has a flat form to be sent. -/
  converted : ∀ e : Emission, e.wire = .ok e.flat
  /-- The events of a reporter in memory are what the steps send to it, one step after the other. -/
  events : ∀ number, (start.run c steps).1.eventsOf number =
    (start.history c steps).flatMap fun x => x.1.sends c number x.2

/-- Whatever a program does, in any order, with any number of dispatchers that may share reporters:
its dispatchers stay as they were built, and each reporter in memory gets just what is sent to it. -/
theorem delivers_of_start (host : Log.Host) (c : Circumstances) (steps : List Step) :
    Delivers { host } c steps where
  fresh place := by cases place <;> rfl
  built _ _ _ _ _ _ hbuilds := builtAs_setUp hbuilds
  reset before name _ _ :=
    (dispatcherAt_install _ .uninitialized (.named name) (.named name)).trans (if_pos rfl)
  kept before middle _ place _ hbuilds := by
    rw [run_append]
    exact dispatcherAt_run ((sound_start host).run c before) hbuilds
  converted e := e.wire_eq_flat
  events number := eventsOf_run (sound_start host) c steps number

end TelemetryGate.Session
