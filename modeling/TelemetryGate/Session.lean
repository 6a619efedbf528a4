import TelemetryGate.Dispatch.Slot
import TelemetryGate.Log.Host
import TelemetryGate.Reporting.Http
import TelemetryGate.Reporting.Memory

/-!
# Sessions

A program that uses the library, step by step: it sets up dispatchers by name and the slot of its
process, emits through them, looks at reporters in memory, and installs its log. Each step gives an
answer, and shows what was reported, what the reporters in memory received and what was posted.

Reporters in memory have numbers; a name stands for the number of the latest reporter that took it.
Whoever holds a reporter goes on using it when its name is taken by another one.
-/

namespace TelemetryGate

/-- How a reporter is held. -/
inductive Handle where
  /-- By one owner. -/
  | owned
  /-- By any number of owners. -/
  | counted
  deriving DecidableEq, Repr

/-- A reporter that a dispatcher is bound to. -/
inductive Reporter where
  /-- The reporter in memory of a number. -/
  | memory (number : Nat)
  /-- A reporter over HTTP. -/
  | http (reporter : HttpReporter)
  /-- A reporter behind a handle. -/
  | held (handle : Handle) (inner : Reporter)
  deriving DecidableEq, Repr

/-- The reporter that gets what is sent: a handle passes it on to what it holds. -/
def Reporter.receiver : Reporter → Reporter
  | .held _ inner => inner.receiver
  | r => r

/-- How the reporter of a dispatcher is connected. -/
inductive Connection where
  /-- The reporter in memory of a name is shared; a new one has no key. -/
  | shared (name : String)
  /-- A new reporter in memory with the key takes a name. -/
  | keyed (name : String)
  /-- A reporter over HTTP, for an endpoint if none comes with the key. -/
  | http (endpoint : String)
  /-- There is none. -/
  | failing (fault : SetupFault)
  /-- The reporter of a connection is put behind a handle. -/
  | held (handle : Handle) (inner : Connection)
  deriving DecidableEq, Repr

/-- Which dispatcher a step uses. -/
inductive Place where
  /-- The slot of the process. -/
  | slot
  /-- The dispatcher of a name. -/
  | named (name : String)
  deriving DecidableEq, Repr

/-- A step of a program. -/
inductive Step where
  /-- Put a dispatcher that is not set up under a name. -/
  | reset (name : String)
  /-- Set up a dispatcher. -/
  | setUp (place : Place) (setup : Setup) (connection : Connection)
  /-- Look at a dispatcher. -/
  | look (place : Place)
  /-- Emit through a dispatcher. -/
  | emit (place : Place) (emission : Emission)
  /-- Send an event to a reporter in memory; a new one has no key. -/
  | send (name : String) (event : WireEvent)
  /-- Look at a reporter in memory. -/
  | inspect (name : String)
  /-- Report something to the log. -/
  | report (records : List Log.Record)
  /-- Set up the log. -/
  | setUpLog (settings : Option LogSettings)

/-- What a dispatcher's connector was asked for: a key, and an endpoint if there is one. -/
abbrev Asked := Option (String × Option String)

/-- The answer to a step. -/
inductive Answer where
  /-- The step is done. -/
  | done
  /-- A dispatcher was set up. -/
  | started (state : DispatcherState) (asked : Asked)
  /-- The slot was not filled. -/
  | refused (fault : SetupFault) (asked : Asked)
  /-- What is seen of a dispatcher. -/
  | dispatcher (seen : Look)
  /-- A reporter in memory, if there is one. -/
  | reporter (r : Option MemoryReporter)
  /-- The log was set up or not. -/
  | log (result : Except SetupFault Unit)

/-- What a step shows. -/
structure Row where
  /-- The answer. -/
  answer : Answer
  /-- What was reported. -/
  records : List Log.Record := []
  /-- What reporters in memory received, by their numbers. -/
  received : List (Nat × WireEvent) := []
  /-- What was posted. -/
  requests : List Request := []

/-- The circumstances of a session. -/
structure Circumstances where
  /-- Something runs that can post events. -/
  runtime : Bool
  /-- What answers the requests. -/
  network : Network
  /-- Someone takes the records before they come to the log. -/
  captured : Bool
  /-- The text of the time. -/
  time : String
  /-- What keeps clients from being built, if anything does. -/
  unbuilt : Option String := none

/-- The state of a program. -/
structure Session where
  /-- The machine and the log. -/
  host : Log.Host
  /-- The dispatchers by their names. -/
  dispatchers : Entries (Dispatcher Reporter) := []
  /-- The slot of the process. -/
  slot : Slot Reporter := {}
  /-- The reporters in memory by their numbers. -/
  memories : List MemoryReporter := []
  /-- The numbers of the reporters in memory by their names. -/
  names : Entries Nat := []
  /-- How many requests were posted. -/
  posted : Nat := 0

namespace Session

/-- The dispatcher of a name. -/
def dispatcherOf (s : Session) (name : String) : Dispatcher Reporter :=
  (s.dispatchers.get? name).getD .uninitialized

/-- What an emission at a place does. -/
def emitAt (s : Session) (place : Place) (e : Emission) : List (Effect Reporter) :=
  match place with
  | .slot => s.slot.emit e
  | .named name => (s.dispatcherOf name).emit e

/-- What is seen at a place. The slot shows its state only. -/
def lookAt (s : Session) : Place → Look
  | .slot => ⟨s.slot.state⟩
  | .named name => (s.dispatcherOf name).look

/-- The dispatcher that a place stands for. -/
def dispatcherAt (s : Session) : Place → Dispatcher Reporter
  | .slot => s.slot.dispatcher
  | .named name => s.dispatcherOf name

/-- Emissions at a place do what its dispatcher does. -/
theorem emitAt_eq (s : Session) (place : Place) (e : Emission) :
    s.emitAt place e = (s.dispatcherAt place).emit e := by
  cases place with
  | slot => exact s.slot.emit_eq e
  | named name => rfl

/-- A place shows what its dispatcher shows. -/
theorem lookAt_eq (s : Session) (place : Place) : s.lookAt place = (s.dispatcherAt place).look := by
  cases place with
  | slot => exact congrArg Look.mk s.slot.state_eq
  | named name => rfl

/-- The number of a name; a new name gets the next number. -/
def numberOf (s : Session) (name : String) : Nat := (s.names.get? name).getD s.memories.length

/-- The reporter in memory of a name. -/
def memory? (s : Session) (name : String) : Option MemoryReporter :=
  (s.names.get? name).bind fun number => s.memories[number]?

/-- The session with a new reporter in memory that takes a name. -/
def addMemory (s : Session) (name : String) (key : Option String) : Session :=
  { s with memories := s.memories ++ [{ key }], names := s.names.put name s.memories.length }

/-- The session with a reporter in memory of a name. -/
def withMemory (s : Session) (name : String) : Session :=
  if (s.names.get? name).isSome then s else s.addMemory name none

/-- What makes the reporter of a connection. -/
def connector (s : Session) (c : Circumstances) : Connection → Connector Reporter
  | .shared name => fun _ _ => .ok (.memory (s.numberOf name))
  | .keyed _ => fun _ _ => .ok (.memory s.memories.length)
  | .http other => fun key endpoint =>
    (HttpReporter.connect c.runtime key (endpoint.getD other) c.unbuilt).map .http
  | .failing fault => fun _ _ => .error fault
  | .held handle inner => fun key endpoint => (s.connector c inner key endpoint).map (.held handle)

/-- The session after a connection was asked for a reporter. -/
def afterAsked (s : Session) : Connection → Asked → Session
  | _, none => s
  | .shared name, some _ => s.withMemory name
  | .keyed name, some (key, _) => s.addMemory name (some key)
  | .http _, some _ | .failing _, some _ => s
  | .held _ inner, asked => s.afterAsked inner asked

/-- What a connector was asked for. -/
def askedOf (effects : List (Effect Reporter)) : Asked :=
  effects.findSome? fun
    | .connected key endpoint => some (key, endpoint)
    | _ => none

/-- What was reported. -/
def recordsOf (effects : List (Effect Reporter)) : List Log.Record :=
  effects.filterMap fun
    | .logged record => some record
    | _ => none

/-- What was sent, and to which reporters. -/
def sentOf (effects : List (Effect Reporter)) : List (Reporter × WireEvent) :=
  effects.filterMap fun
    | .delivered r event => some (r.receiver, event)
    | _ => none

/-- What was sent to reporters in memory. -/
def receivedOf (effects : List (Effect Reporter)) : List (Nat × WireEvent) :=
  (sentOf effects).filterMap fun
    | (.memory number, event) => some (number, event)
    | _ => none

/-- What was sent to reporters over HTTP. -/
def postsOf (effects : List (Effect Reporter)) : List (HttpReporter × WireEvent) :=
  (sentOf effects).filterMap fun
    | (.http r, event) => some (r, event)
    | _ => none

/-- Deliver events over HTTP one after the other, when some requests were issued before. -/
def deliver (c : Circumstances) (before : Nat) :
    List (HttpReporter × WireEvent) → List Request × List Log.Record
  | [] => ([], [])
  | (r, event) :: rest =>
    let (request, record) := r.deliver c.network before c.time event
    let (requests, records) := deliver c (before + request.toList.length) rest
    (request.toList ++ requests, record.toList ++ records)

/-- The session after a reporter in memory received an event. -/
def receive (s : Session) (r : Nat × WireEvent) : Session :=
  { s with memories := s.memories.modify r.1 (·.send r.2) }

/-- The session after records were reported. -/
def report (s : Session) (c : Circumstances) (records : List Log.Record) : Session :=
  if c.captured then s else { s with host := records.foldl (·.write c.time) s.host }

/-- Let effects happen, and show them beside an answer. -/
def perform (s : Session) (c : Circumstances) (effects : List (Effect Reporter))
    (answer : Answer) : Session × Row :=
  let received := receivedOf effects
  let (requests, outcomes) := deliver c s.posted (postsOf effects)
  let records := recordsOf effects ++ outcomes
  let s := (received.foldl receive s).report c records
  ({ s with posted := s.posted + requests.length }, ⟨answer, records, received, requests⟩)

/-- Set up the dispatcher at a place. -/
def setUp (s : Session) (c : Circumstances) (place : Place) (setup : Setup)
    (connection : Connection) : Session × Row :=
  let connect := s.connector c connection
  match place with
  | .named name =>
    let (effects, d) := Dispatcher.setUp s.host.world setup connect
    let asked := askedOf effects
    let s := s.afterAsked connection asked
    { s with dispatchers := s.dispatchers.put name d }.perform c effects (.started d.state asked)
  | .slot =>
    let (effects, slot, result) := s.slot.fill s.host.world setup connect
    let asked := askedOf effects
    let s := s.afterAsked connection asked
    { s with slot }.perform c effects <|
      match result with
      | .ok state => .started state asked
      | .error fault => .refused fault asked

/-- Take a step. -/
def step (s : Session) (c : Circumstances) : Step → Session × Row
  | .reset name =>
    ({ s with dispatchers := s.dispatchers.put name .uninitialized }, { answer := .done })
  | .setUp place setup connection => s.setUp c place setup connection
  | .look place => (s, { answer := .dispatcher (s.lookAt place) })
  | .emit place emission => s.perform c (s.emitAt place emission) .done
  | .send name event =>
    let s := s.withMemory name
    s.perform c [.delivered (.memory (s.numberOf name)) event] .done
  | .inspect name => (s, { answer := .reporter (s.memory? name) })
  | .report records => s.perform c (records.map .logged) .done
  | .setUpLog settings =>
    let (host, result) := s.host.setUpLog settings
    ({ s with host }, { answer := .log (result.mapError fun f => .logging f.message) })

/-- To emit at a place is to emit through its dispatcher. -/
theorem step_emit (s : Session) (c : Circumstances) (place : Place) (e : Emission) :
    s.step c (.emit place e) = s.perform c ((s.dispatcherAt place).emit e) .done := by
  rw [step, emitAt_eq]

/-- To look at a place is to look at its dispatcher. -/
theorem step_look (s : Session) (c : Circumstances) (place : Place) :
    s.step c (.look place) = (s, { answer := .dispatcher (s.dispatcherAt place).look }) := by
  rw [step, lookAt_eq]

/-- Take some steps one after the other. -/
def run (s : Session) (c : Circumstances) : List Step → Session × List Row
  | [] => (s, [])
  | st :: rest =>
    let (s, row) := s.step c st
    let (s, rows) := s.run c rest
    (s, row :: rows)

end Session

end TelemetryGate
