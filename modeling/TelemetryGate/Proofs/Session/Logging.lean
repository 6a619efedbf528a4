import TelemetryGate.Proofs.Log.Growing
import TelemetryGate.Proofs.Session.Posting
import TelemetryGate.Proofs.Session.Runs

/-!
# One line for each emission

Once the log of a program is installed it stays so, and its sink stays open, whatever the program
does. Each emission that posts nothing then adds one line to what the sink holds, and no text of a
payload can break the line or make up another one.
-/

namespace TelemetryGate

open Effect (deliveries records)
open Log (Logger)

/-- A dispatcher is not bound, or bound to a reporter in memory. -/
def Dispatcher.IsLocal (d : Dispatcher Reporter) : Prop := d.isActive → d.memory?.isSome

/-- The record of an emission has no line breaks, whatever the emission carries. -/
theorem Dispatcher.unbroken_told (d : Dispatcher Reporter) (e : Emission) :
    (d.told e).Unbroken := by
  cases d with
  | active r => exact unbroken_sent e.flat
  | _ => exact unbroken_dropped e.event

namespace Session

/-! ## The log stays installed -/

/-- What effects leave of the host: the records are written one after the other. -/
theorem host_perform (s : Session) (c : Circumstances) (effects : List (Effect Reporter))
    (answer : Answer) : (s.perform c effects answer).1.host =
      if c.captured then s.host
      else (recordsOf effects ++ (deliver c s.posted (postsOf effects)).2).foldl
        (fun host record => host.write c.time record) s.host := by
  simp only [perform, foldl_receive, report]
  split <;> rfl

theorem logs_perform {s : Session} {logger : Logger} (h : s.host.Logs logger) (c : Circumstances)
    (effects : List (Effect Reporter)) (answer : Answer) :
    (s.perform c effects answer).1.host.Logs logger := by
  have hwritten : ∀ (written : List Log.Record) (host : Log.Host), host.Logs logger →
      (written.foldl (fun host record => host.write c.time record) host).Logs logger := by
    intro written
    induction written with
    | nil => exact fun host hhost => hhost
    | cons record rest ih => exact fun host hhost => ih _ (hhost.write c.time record)
  rw [host_perform]
  split
  · exact h
  · exact hwritten _ _ h

theorem host_withMemory (s : Session) (name : String) : (s.withMemory name).host = s.host := by
  unfold withMemory
  split <;> rfl

/-- Asking for a reporter leaves the host as it is. -/
theorem host_afterAsked (s : Session) (connection : Connection) (asked : Asked) :
    (s.afterAsked connection asked).host = s.host := by
  cases asked with
  | none => rw [afterAsked_none]
  | some a =>
    induction connection with
    | shared name => exact s.host_withMemory name
    | keyed name => rfl
    | http endpoint => rfl
    | failing fault => rfl
    | held handle inner ih => exact ih

theorem logs_setUp {s : Session} {logger : Logger} (h : s.host.Logs logger) (c : Circumstances)
    (place : Place) (setup : Setup) (connection : Connection) :
    (s.setUp c place setup connection).1.host.Logs logger := by
  cases place with
  | named name =>
    apply logs_perform
    change (s.afterAsked connection _).host.Logs logger
    rw [host_afterAsked]
    exact h
  | slot =>
    apply logs_perform
    change (s.afterAsked connection _).host.Logs logger
    rw [host_afterAsked]
    exact h

/-- No step removes the log or closes its sink. -/
theorem logs_step {s : Session} {logger : Logger} (h : s.host.Logs logger) (c : Circumstances)
    (st : Step) : (s.step c st).1.host.Logs logger := by
  cases st with
  | reset name => exact h
  | setUp place setup connection => exact logs_setUp h c place setup connection
  | look place => exact h
  | emit place emission => exact logs_perform h c _ _
  | send name event =>
    apply logs_perform
    rw [host_withMemory]
    exact h
  | inspect name => exact h
  | report records => exact logs_perform h c _ _
  | setUpLog settings => exact h.setUpLog settings

theorem logs_run {s : Session} {logger : Logger} (h : s.host.Logs logger) (c : Circumstances)
    (steps : List Step) : (s.run c steps).1.host.Logs logger := by
  induction steps generalizing s with
  | nil => exact h
  | cons st rest ih => exact ih (logs_step h c st)

/-! ## Emissions -/

/-- An emission that posts nothing writes its record to the log, and nothing else. -/
theorem host_emit {s : Session} {c : Circumstances} (hcaptured : c.captured = false)
    {place : Place} (hlocal : (s.dispatcherAt place).IsLocal) (e : Emission) :
    (s.step c (.emit place e)).1.host = s.host.write c.time ((s.dispatcherAt place).told e) := by
  have hposts : postsOf ((s.dispatcherAt place).emit e) = [] := by
    rw [postsOf_eq, Dispatcher.deliveries_emit]
    cases hd : s.dispatcherAt place with
    | active r =>
      have hmemory : r.memory? ≠ none := by
        rw [hd] at hlocal
        exact Option.isSome_iff_ne_none.mp (hlocal rfl)
      have hhttp : r.http? = none :=
        Option.not_isSome_iff_eq_none.mp fun h => hmemory (r.memory?_eq_none_iff.mpr h)
      simp [Dispatcher.reporter?, hhttp]
    | _ => rfl
  rw [step_emit, host_perform, hcaptured, hposts, recordsOf_eq, Dispatcher.records_emit]
  rfl

/-- Emissions that post nothing write their records to the log one after the other, each as one
line. -/
theorem held?_run_emits {s : Session} {c : Circumstances} {logger : Logger}
    (hlogs : s.host.Logs logger) (hcaptured : c.captured = false)
    {emissions : List (Place × Emission)}
    (hlocal : ∀ m ∈ emissions, (s.dispatcherAt m.1).IsLocal)
    (hadmits : ∀ m ∈ emissions, logger.filter.admits ((s.dispatcherAt m.1).told m.2) = true)
    {content : ByteArray} (hheld : s.host.held? logger.sink = some content) :
    (s.run c (emissions.map fun m => .emit m.1 m.2)).1.host.held? logger.sink =
      some (content ++ (String.join ((emissions.map fun m =>
        logger.layout.body c.time ((s.dispatcherAt m.1).told m.2)).map (· ++ "\n"))).toUTF8) := by
  induction emissions generalizing s content with
  | nil => simpa [run] using hheld
  | cons m rest ih =>
    obtain ⟨place, e⟩ := m
    have hhost := host_emit hcaptured (hlocal _ List.mem_cons_self) e
    have hkept : ∀ other, (s.step c (.emit place e)).1.dispatcherAt other = s.dispatcherAt other := by
      rw [step_emit]
      exact dispatcherAt_perform s c _ _
    have hwritten := hlogs.held?_write (hadmits _ List.mem_cons_self) hheld c.time
    rw [← hhost] at hwritten
    have hrest := ih (logs_step hlogs c (.emit place e))
      (fun m hm => by rw [hkept]; exact hlocal m (List.mem_cons_of_mem _ hm))
      (fun m hm => by rw [hkept]; exact hadmits m (List.mem_cons_of_mem _ hm)) hwritten
    simp only [hkept] at hrest
    have hbytes (line rest : String) : (line ++ rest).toUTF8 = line.toUTF8 ++ rest.toUTF8 :=
      String.toByteArray_append
    rw [List.map_cons, List.map_cons, List.map_cons, String.join_cons, hbytes,
      ← ByteArray.append_assoc]
    exact hrest

/-- Once its log is set up, whatever the program does then, each emission that posts nothing and is
not filtered out adds one line to what the log holds, whatever texts it carries. -/
theorem emissions_add_lines {start : Session} {settings : Option LogSettings}
    (henabled : (start.host.inForce settings).enabled = true)
    (hsucceeds : (start.host.setUpLog settings).2 = .ok ()) {c : Circumstances}
    (hcaptured : c.captured = false) (htime : Text.Unbroken c.time.toList) (between : List Step)
    {emissions : List (Place × Emission)}
    (hlocal : ∀ m ∈ emissions,
      ((start.run c (.setUpLog settings :: between)).1.dispatcherAt m.1).IsLocal) :
    let s := (start.run c (.setUpLog settings :: between)).1
    ∃ logger, s.host.logger = some logger ∧
      ((∀ m ∈ emissions, logger.filter.admits ((s.dispatcherAt m.1).told m.2) = true) →
        ∃ lines, lines.length = emissions.length ∧
          s.host.GrowsByLines (s.run c (emissions.map fun m => .emit m.1 m.2)).1.host logger.sink
            lines) := by
  intro s
  obtain ⟨logger, hstart⟩ := (start.host.setUpLog_leaves settings).2 henabled hsucceeds
  have hlogs : s.host.Logs logger := logs_run (s := (start.step c (.setUpLog settings)).1) hstart c
    between
  refine ⟨logger, hlogs.installed, fun hadmits => ⟨emissions.map fun m =>
    logger.layout.body c.time ((s.dispatcherAt m.1).told m.2), List.length_map _, ?_⟩⟩
  obtain ⟨content, hcontent⟩ := Option.isSome_iff_exists.mp hlogs.opened
  refine ⟨⟨content, hcontent, held?_run_emits hlogs hcaptured hlocal hadmits hcontent⟩, ?_⟩
  intro line hline
  obtain ⟨m, -, rfl⟩ := List.mem_map.mp hline
  exact (Dispatcher.unbroken_told _ _).body htime logger.layout

/-- A log of everything in a file. -/
def tracedLog : LogSettings where
  enabled := true
  level := "trace"
  format := "text"
  output := "file"
  file := "/logs/telemetry.log"
  color := false
  modules := []

/-- A program whose network cannot be reached. -/
def offline : Circumstances := ⟨false, .unreachable "", false, "1970-01-01T00:00:00Z", none⟩

/-- What the program does: it sets up its log, and a dispatcher for a reporter in memory. -/
def tracedSteps : List Step :=
  [.setUpLog (some tracedLog), .setUp (.named "a") (.key (.text "key")) (.shared "r")]

/-- The program before it does anything. -/
def emptySession : Session := { host := { world := ⟨.empty, [], []⟩ } }

/-- The program after its steps. -/
def tracedSession : Session := (emptySession.run offline tracedSteps).1

/-- Emissions through the dispatcher and through one that is not set up, under the id of a flow that
looks like the end of a line and another line of the log. -/
def forgedEmissions : List (Place × Emission) :=
  let id := "a\n1970-01-01T00:00:00Z  INFO qsharp_telemetry: forged\r\n"
  [(.named "a", ⟨.launch, .association id, .empty⟩),
    (.named "b", ⟨.launch, .association id, .empty⟩)]

/-- They add two lines to the file. -/
theorem forgedEmissions_add_lines : ∃ lines, lines.length = 2 ∧
    tracedSession.host.GrowsByLines
      (tracedSession.run offline (forgedEmissions.map fun m => .emit m.1 m.2)).1.host
      (.file ["logs", "telemetry.log"]) lines := by
  have henabled : (emptySession.host.inForce (some tracedLog)).enabled = true := rfl
  have hsucceeds : (emptySession.host.setUpLog (some tracedLog)).2 = .ok () := by decide +kernel
  have hlocal : ∀ m ∈ forgedEmissions, (tracedSession.dispatcherAt m.1).IsLocal := by
    have ha : tracedSession.dispatcherAt (.named "a") = .active (.memory 0) := by decide +kernel
    have hb : tracedSession.dispatcherAt (.named "b") = .uninitialized := by decide +kernel
    simp only [forgedEmissions, List.forall_mem_cons, ha, hb]
    exact ⟨fun _ => rfl, nofun, nofun⟩
  have hinstalled : tracedSession.host.logger =
      some ⟨⟨[⟨none, [], .atLeast .trace⟩]⟩, .text false, .file ["logs", "telemetry.log"]⟩ := by
    decide +kernel
  obtain ⟨logger, hlogger, hgrows⟩ := emissions_add_lines henabled hsucceeds (c := offline) rfl
    (by decide) [.setUp (.named "a") (.key (.text "key")) (.shared "r")] hlocal
  obtain rfl := Option.some.inj (hinstalled.symm.trans hlogger)
  exact hgrows (by decide +kernel)

end Session

end TelemetryGate
