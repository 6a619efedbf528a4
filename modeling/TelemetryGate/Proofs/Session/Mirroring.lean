import TelemetryGate.Proofs.Session.Delivery

/-!
# The slot and a variable

A program that uses the slot of its process can use a variable of its own instead, which holds a
dispatcher that is not set up until the first setup replaces it. Call by call both show the same,
and leave the same behind. The slot differs in one thing: it answers every later setup, which the
variable is not asked for, with a refusal that has no other effect.
-/

namespace TelemetryGate.Session

/-- A call of a program that uses one dispatcher. -/
inductive Call where
  /-- Set up the dispatcher. -/
  | setUp (setup : Setup) (connection : Connection)
  /-- Emit through it. -/
  | emit (emission : Emission)
  /-- Look at it. -/
  | look

namespace Call

/-- The step that makes a call at a place. -/
def step (place : Place) : Call → Step
  | .setUp setup connection => .setUp place setup connection
  | .emit emission => .emit place emission
  | .look => .look place

/-- A call is a setup. -/
def isSetUp : Call → Bool
  | .setUp _ _ => true
  | _ => false

end Call

/-- Make a call on the variable of a name. Once the variable was replaced a setup is left out, and
nothing is shown. -/
def callLocal (s : Session) (c : Circumstances) (name : String) (replaced : Bool) (call : Call) :
    Session × Option Row :=
  if call.isSetUp && replaced then (s, none)
  else (s.step c (call.step (.named name))).map id some

/-- Make some calls on the variable of a name, one after the other. -/
def runLocal (s : Session) (c : Circumstances) (name : String) :
    Bool → List Call → Session × List (Option Row)
  | _, [] => (s, [])
  | replaced, call :: rest =>
    let (s, row) := s.callLocal c name replaced call
    let (s, rows) := s.runLocal c name (call.isSetUp || replaced) rest
    (s, row :: rows)

/-! ## What does not depend on dispatchers -/

/-- The session without its dispatchers. -/
def bare (s : Session) : Session := { s with dispatchers := [], slot := {} }

theorem bare_install (s : Session) (d : Dispatcher Reporter) (place : Place) :
    (s.install d place).bare = s.bare := by
  cases place <;> rfl

/-- Effects happen, and are shown, without regard to dispatchers. -/
theorem perform_bare (s : Session) (c : Circumstances) (effects : List (Effect Reporter))
    (answer : Answer) : s.bare.perform c effects answer =
      (s.perform c effects answer).map bare id := by
  simp only [perform, foldl_receive, report]
  split <;> rfl

theorem connector_bare (s : Session) (c : Circumstances) (connection : Connection) :
    s.bare.connector c connection = s.connector c connection := by
  induction connection with
  | held handle inner ih =>
    funext key endpoint
    rw [connector, ih, connector]
  | _ => rfl

theorem afterAsked_bare (s : Session) (connection : Connection) (asked : Asked) :
    s.bare.afterAsked connection asked = (s.afterAsked connection asked).bare := by
  cases asked with
  | none => rw [afterAsked_none, afterAsked_none]
  | some a =>
    induction connection with
    | shared name =>
      have hnames : s.bare.names = s.names := rfl
      simp only [afterAsked, withMemory, hnames]
      split <;> rfl
    | held handle inner ih => exact ih
    | _ => rfl

section SameBare

variable {s s' : Session} (h : s.bare = s'.bare)
include h

theorem perform_congr (c : Circumstances) (effects : List (Effect Reporter)) (answer : Answer) :
    (s.perform c effects answer).2 = (s'.perform c effects answer).2 ∧
      (s.perform c effects answer).1.bare = (s'.perform c effects answer).1.bare := by
  have hsame : (s.perform c effects answer).map bare id =
      (s'.perform c effects answer).map bare id := by
    rw [← perform_bare, ← perform_bare, h]
  exact ⟨(Prod.ext_iff.mp hsame).2, (Prod.ext_iff.mp hsame).1⟩

/-- A setup that builds does the same at any place. -/
theorem setUp_congr {place place' : Place} {setup : Setup} {connection : Connection}
    (c : Circumstances) (hbuilds : s.builds place (.setUp place setup connection) = true)
    (hbuilds' : s'.builds place' (.setUp place' setup connection) = true) :
    (s.setUp c place setup connection).2 = (s'.setUp c place' setup connection).2 ∧
      (s.setUp c place setup connection).1.bare = (s'.setUp c place' setup connection).1.bare ∧
      (s.setUp c place setup connection).1.dispatcherAt place =
        (s'.setUp c place' setup connection).1.dispatcherAt place' := by
  have hhost : s.host = s'.host := by
    change s.bare.host = s'.bare.host
    rw [h]
  have hconnector : s.connector c connection = s'.connector c connection := by
    rw [← connector_bare, h, connector_bare]
  have hinstall (asked : Asked) (d : Dispatcher Reporter) :
      ((s.afterAsked connection asked).install d place).bare =
        ((s'.afterAsked connection asked).install d place').bare := by
    rw [bare_install, bare_install, ← afterAsked_bare, h, afterAsked_bare]
  have hperform := perform_congr (hinstall ((setup.key? s.host.world).map (·, setup.endpoint?))
    (Dispatcher.outcome s.host.world setup (s.connector c connection))) c
  rw [dispatcherAt_setUp c hbuilds, dispatcherAt_setUp c hbuilds', setUp_eq c hbuilds,
    setUp_eq c hbuilds', ← hhost, ← hconnector]
  exact ⟨(hperform _ _).1, (hperform _ _).2, rfl⟩

end SameBare

/-! ## The simulation -/

/-- A session in which the slot is used mirrors one in which the variable of a name is used. -/
structure Mirrors (name : String) (s s' : Session) : Prop where
  /-- They have the same machine, log, reporters and posted requests. -/
  bare : s.bare = s'.bare
  /-- The slot shows the dispatcher of the variable. -/
  dispatcher : s.dispatcherAt .slot = s'.dispatcherAt (.named name)

theorem slot_perform (s : Session) (c : Circumstances) (effects : List (Effect Reporter))
    (answer : Answer) : (s.perform c effects answer).1.slot = s.slot := by
  obtain ⟨host, posted, heq⟩ := s.perform_fst c effects answer
  rw [heq]

/-- An empty slot is filled by a setup. -/
theorem held_setUp {s : Session} {setup : Setup} {connection : Connection} (c : Circumstances)
    (h : s.builds .slot (.setUp .slot setup connection) = true) :
    (s.setUp c .slot setup connection).1.slot.held.isSome := by
  obtain ⟨answer, heq⟩ := setUp_fst c h
  rw [heq, slot_perform]
  rfl

variable {name : String} {replaced : Bool} {s s' : Session}

/-- One call does the same at the slot and on the variable. A setup leaves the slot filled. -/
theorem Mirrors.call (h : Mirrors name s s') (hheld : s.slot.held.isSome = replaced)
    (c : Circumstances) (call : Call) :
    (s.step c (call.step .slot)).2 = (s'.callLocal c name replaced call).2.getD refusal ∧
      Mirrors name (s.step c (call.step .slot)).1 (s'.callLocal c name replaced call).1 ∧
      (s.step c (call.step .slot)).1.slot.held.isSome = (call.isSetUp || replaced) := by
  cases call with
  | setUp setup connection =>
    cases replaced with
    | false =>
      have hbuilds : s.builds .slot (.setUp .slot setup connection) = true := by
        simpa [builds] using hheld
      have hbuilds' : s'.builds (.named name) (.setUp (.named name) setup connection) = true := by
        simp [builds]
      obtain ⟨hrow, hbare, hdispatcher⟩ := setUp_congr h.bare c hbuilds hbuilds'
      exact ⟨hrow, ⟨hbare, hdispatcher⟩, held_setUp c hbuilds⟩
    | true =>
      obtain ⟨d, hd⟩ := Option.isSome_iff_exists.mp hheld
      have hrefused := setUp_of_held hd c setup connection
      simp only [step, Call.step, hrefused]
      exact ⟨rfl, h, hheld⟩
  | emit emission =>
    have hemit : s'.callLocal c name replaced (.emit emission) =
        (s'.perform c ((s.dispatcherAt .slot).emit emission) .done).map id some := by
      rw [h.dispatcher]
      rfl
    have hstep : s.step c (Call.step .slot (.emit emission)) =
        s.perform c ((s.dispatcherAt .slot).emit emission) .done := s.step_emit c .slot emission
    obtain ⟨hrow, hbare⟩ :=
      perform_congr h.bare c ((s.dispatcherAt .slot).emit emission) .done
    rw [hemit, hstep]
    refine ⟨hrow, ⟨hbare, ?_⟩, ?_⟩
    · exact (dispatcherAt_perform ..).trans
        (h.dispatcher.trans (s'.dispatcherAt_perform c _ .done _).symm)
    · exact (congrArg (·.held.isSome) (slot_perform ..)).trans hheld
  | look =>
    refine ⟨?_, h, hheld⟩
    simp only [Call.step, step_look, h.dispatcher]
    rfl

/-- Calls do the same at the slot and on the variable, one after the other. The slot is filled once
one of them is a setup. -/
theorem Mirrors.run (h : Mirrors name s s') (hheld : s.slot.held.isSome = replaced)
    (c : Circumstances) (calls : List Call) :
    (s.run c (calls.map (·.step .slot))).2 =
        (s'.runLocal c name replaced calls).2.map (·.getD refusal) ∧
      Mirrors name (s.run c (calls.map (·.step .slot))).1 (s'.runLocal c name replaced calls).1 ∧
      (s.run c (calls.map (·.step .slot))).1.slot.held.isSome =
        (calls.any Call.isSetUp || replaced) := by
  induction calls generalizing s s' replaced with
  | nil => exact ⟨rfl, h, hheld⟩
  | cons call rest ih =>
    obtain ⟨hrow, hnext, hfilled⟩ := h.call hheld c call
    obtain ⟨hrows, hlast, hheldLast⟩ := ih hnext hfilled
    refine ⟨List.cons_eq_cons.mpr ⟨hrow, hrows⟩, hlast, hheldLast.trans ?_⟩
    rw [List.any_cons, ← Bool.or_assoc, Bool.or_comm (rest.any _)]

/-- A variable that is not set up mirrors an empty slot. -/
theorem mirrors_reset (hslot : s.slot.held = none) (c : Circumstances) (name : String) :
    Mirrors name s (s.step c (.reset name)).1 where
  bare := rfl
  dispatcher := by
    have hvariable : (s.step c (.reset name)).1.dispatcherAt (.named name) = .uninitialized :=
      (dispatcherAt_install s .uninitialized (.named name) (.named name)).trans (if_pos rfl)
    rw [hvariable, dispatcherAt, Slot.dispatcher, hslot]
    rfl

/-- A program does at the slot what it does on the variable of a name, which is not set up at
first. -/
structure MirrorsVariable (s : Session) (c : Circumstances) (name : String) (calls : List Call) :
    Prop where
  /-- Call by call the same is shown. Where the variable is not asked the slot refuses. -/
  rows : (s.run c (calls.map (·.step .slot))).2 =
    ((s.step c (.reset name)).1.runLocal c name false calls).2.map (·.getD refusal)
  /-- The same is left behind. -/
  after : Mirrors name (s.run c (calls.map (·.step .slot))).1
    ((s.step c (.reset name)).1.runLocal c name false calls).1
  /-- After the first setup, whatever came of it, another one changes nothing. -/
  refused : calls.any Call.isSetUp → ∀ setup connection,
    (s.run c (calls.map (·.step .slot))).1.step c (.setUp .slot setup connection) =
      ((s.run c (calls.map (·.step .slot))).1, refusal)

/-- Whatever a program does, it does the same at an empty slot as on a variable of its own that the
first setup replaces. -/
theorem slot_mirrors_variable {s : Session} (hslot : s.slot.held = none) (c : Circumstances)
    (name : String) (calls : List Call) : MirrorsVariable s c name calls := by
  have hempty : s.slot.held.isSome = false := by rw [hslot]; rfl
  obtain ⟨hrows, hafter, hheld⟩ := (mirrors_reset hslot c name).run hempty c calls
  refine ⟨hrows, hafter, fun hsetUp setup connection => ?_⟩
  rw [Bool.or_false, hsetUp] at hheld
  obtain ⟨d, hd⟩ := Option.isSome_iff_exists.mp hheld
  exact setUp_of_held hd c setup connection

/-- A program that emits before anything is set up, is disabled by a blank key, and is refused when
it comes with another key. -/
def blankCalls : List Call :=
  [.emit ⟨.launch, .association "first", .empty⟩, .setUp (.key (.text " ")) (.keyed "r"),
    .setUp (.key (.text "key")) (.shared "r"), .emit ⟨.launch, .association "last", .empty⟩, .look]

/-- The program is carried out on a machine that has nothing on it. -/
theorem blankCalls_mirror_variable :
    let start : Session := { host := { world := ⟨.empty, [], []⟩ } }
    start.slot.held = none ∧
      MirrorsVariable start ⟨false, .unreachable "", false, "", none⟩ "own" blankCalls :=
  ⟨rfl, slot_mirrors_variable rfl _ _ _⟩

end TelemetryGate.Session
