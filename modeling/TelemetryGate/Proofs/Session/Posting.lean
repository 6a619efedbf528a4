import TelemetryGate.Proofs.Dispatch.Telling
import TelemetryGate.Proofs.Session.Delivery
import Mathlib.Data.List.Basic

/-!
# Posting during a session

A dispatcher that is bound to a reporter over HTTP posts the startup event and then each emission,
once and in order. What the server answers is seen in the reports on deliveries only: no request, no
dispatcher and no other record depends on it.
-/

namespace TelemetryGate

open Effect (deliveries records)

/-- The reporter over HTTP that gets what is sent, if it is one over HTTP. -/
def Reporter.http? (r : Reporter) : Option HttpReporter :=
  match r.receiver with
  | .http h => some h
  | _ => none

/-- A reporter is in memory or over HTTP. -/
theorem Reporter.memory?_eq_none_iff (r : Reporter) : r.memory? = none ↔ r.http?.isSome := by
  induction r with
  | memory number => simp [memory?, http?, receiver]
  | http h => simp [memory?, http?, receiver]
  | held handle inner ih => exact ih

/-- The endpoint of a connection over HTTP, which counts if none comes with the key. -/
def Connection.endpoint? : Connection → Option String
  | .http endpoint => some endpoint
  | .held _ inner => inner.endpoint?
  | .shared _ | .keyed _ | .failing _ => none

/-- Circumstances that differ in what is answered to requests, in what is said of events that could
not be delivered, and in the time. -/
def Circumstances.answering (c : Circumstances) (answer : Nat → Option Status)
    (failure time : String) : Circumstances :=
  { c with network := { c.network with answer, failure }, time }

/-- Reporters over HTTP can be made: something runs that can post events, and clients are built. -/
structure Circumstances.Connects (c : Circumstances) : Prop where
  /-- Something runs that can post events. -/
  runtime : c.runtime = true
  /-- Nothing keeps clients from being built. -/
  built : c.unbuilt = none

/-- A record reports what became of a request. -/
def Log.Record.isDelivery (r : Log.Record) : Bool := r.target = HttpReporter.target

/-- What is reported of the answer to the request for an event. -/
def HttpReporter.reports (network : Network) (before : Nat) (event : WireEvent) : List Log.Record :=
  match network.answer before with
  | none => [undelivered event network.failure]
  | some status => if status.isSuccess then [] else [rejected event status]

namespace Session

/-- What is sent to reporters over HTTP, by what is sent at all. -/
theorem postsOf_eq (effects : List (Effect Reporter)) :
    postsOf effects = (deliveries effects).filterMap fun r => r.1.http?.map (·, r.2) := by
  induction effects with
  | nil => rfl
  | cons effect rest ih =>
    simp only [postsOf, sentOf, deliveries, List.filterMap_filterMap] at ih ⊢
    cases effect with
    | delivered r event => cases h : r.receiver <;> simp [Reporter.http?, h, ih]
    | _ => simpa using ih

/-- What is reported is reported to the log. -/
theorem recordsOf_eq (effects : List (Effect Reporter)) : recordsOf effects = records effects := by
  unfold recordsOf records
  congr 1
  funext effect
  cases effect <;> rfl

/-- What is shown of an event that is posted when some requests were posted before. -/
def postedRow (c : Circumstances) (r : HttpReporter) (before : Nat) (answer : Answer)
    (event : WireEvent) : Row where
  answer := answer
  records := Dispatcher.sent event :: HttpReporter.reports c.network before event
  requests := [.post r.endpoint (r.envelope c.time event)]

/-- What is reported of an answer are reports on deliveries, for debugging. -/
theorem isDelivery_of_mem_reports {network : Network} {before : Nat} {event : WireEvent}
    {record : Log.Record} (h : record ∈ HttpReporter.reports network before event) :
    record.isDelivery = true ∧ record.level = .debug := by
  rw [HttpReporter.reports] at h
  split at h
  · rw [List.mem_singleton.mp h]
    exact ⟨rfl, rfl⟩
  · split at h
    · cases h
    · rw [List.mem_singleton.mp h]
      exact ⟨rfl, rfl⟩

/-- Of the records of a posted event all but the first one report on its delivery. -/
theorem filter_records_postedRow (c : Circumstances) (r : HttpReporter) (before : Nat)
    (answer : Answer) (event : WireEvent) :
    (postedRow c r before answer event).records.filter (·.isDelivery) =
        HttpReporter.reports c.network before event ∧
      (postedRow c r before answer event).records.filter (!·.isDelivery) =
        [Dispatcher.sent event] := by
  have htarget : Dispatcher.target ≠ HttpReporter.target := by decide
  have hsent : (Dispatcher.sent event).isDelivery = false := decide_eq_false htarget
  have hreports : ∀ record ∈ HttpReporter.reports c.network before event,
      record.isDelivery = true := fun record hrecord => (isDelivery_of_mem_reports hrecord).1
  have hothers : ∀ record ∈ HttpReporter.reports c.network before event,
      ¬(!record.isDelivery) = true := by
    intro record hrecord
    simp [hreports record hrecord]
  constructor
  · rw [postedRow, List.filter_cons_of_neg (by simp [hsent]), List.filter_eq_self.mpr hreports]
  · rw [postedRow, List.filter_cons_of_pos (by simp [hsent]), List.filter_eq_nil_iff.mpr hothers]

/-- What is shown of some events that are posted one after the other, each with the answer to its
step. -/
def postedRows (c : Circumstances) (r : HttpReporter) : Nat → List (Answer × WireEvent) → List Row
  | _, [] => []
  | before, a :: rest => postedRow c r before a.1 a.2 :: postedRows c r (before + 1) rest

section Rows

variable {c : Circumstances} {r : HttpReporter} {before : Nat} {acts : List (Answer × WireEvent)}

/-- What does not depend on the number of requests before is the same for each event. -/
theorem map_postedRows {α : Type} {view : Row → α} {of : Answer × WireEvent → α}
    (h : ∀ n a, view (postedRow c r n a.1 a.2) = of a) :
    (postedRows c r before acts).map view = acts.map of := by
  induction acts generalizing before with
  | nil => rfl
  | cons a rest ih => rw [postedRows, List.map_cons, List.map_cons, h, ih]

/-- Each row is that of the event at its place. -/
theorem getElem?_postedRows {i : Nat} {row : Row}
    (h : (postedRows c r before acts)[i]? = some row) :
    ∃ answer event, (acts.map (·.2))[i]? = some event ∧
      row = postedRow c r (before + i) answer event := by
  induction acts generalizing before i with
  | nil => cases h
  | cons a rest ih =>
    cases i with
    | zero =>
      cases h
      exact ⟨a.1, a.2, rfl, rfl⟩
    | succ i =>
      obtain ⟨answer, event, hevent, rfl⟩ := ih h
      exact ⟨answer, event, hevent, by rw [Nat.add_assoc, Nat.add_comm 1 i]⟩

end Rows

section Perform

variable {s : Session} {c : Circumstances} {effects : List (Effect Reporter)}
  {d : Dispatcher Reporter}
  {r : Reporter} {h : HttpReporter} {event : WireEvent}

/-- Effects that send one event to a reporter over HTTP, and report that, show what comes of its
delivery. -/
theorem perform_sends (hr : r.http? = some h) (hdeliveries : deliveries effects = [(r, event)])
    (hrecords : records effects = [Dispatcher.sent event]) (answer : Answer)
    {requests : List Request} {outcomes : List Log.Record}
    (hdeliver : deliver c s.posted [(h, event)] = (requests, outcomes)) :
    (s.perform c effects answer).2 = ⟨answer, Dispatcher.sent event :: outcomes, [], requests⟩ ∧
      (s.perform c effects answer).1.posted = s.posted + requests.length := by
  have hposts : postsOf effects = [(h, event)] := by rw [postsOf_eq, hdeliveries]; simp [hr]
  have hmemory : r.memory? = none := r.memory?_eq_none_iff.mpr (by rw [hr]; rfl)
  have hreceived : receivedOf effects = [] := by rw [receivedOf_eq, hdeliveries]; simp [hmemory]
  have hrecordsOf : recordsOf effects = [Dispatcher.sent event] := by rw [recordsOf_eq, hrecords]
  simp only [perform, hposts, hdeliver, hreceived, hrecordsOf]
  refine ⟨rfl, ?_⟩
  rw [report]
  split <;> rfl

/-- If requests can be issued, they post the event. -/
theorem perform_post (hr : r.http? = some h) (hreaches : c.network.reaches h.endpoint = true)
    (hdeliveries : deliveries effects = [(r, event)])
    (hrecords : records effects = [Dispatcher.sent event]) (answer : Answer) :
    (s.perform c effects answer).2 = postedRow c h s.posted answer event ∧
      (s.perform c effects answer).1.posted = s.posted + 1 := by
  have hdeliver : deliver c s.posted [(h, event)] =
      ([.post h.endpoint (h.envelope c.time event)],
        HttpReporter.reports c.network s.posted event) := by
    simp only [deliver, HttpReporter.deliver, if_pos hreaches, HttpReporter.reports]
    cases c.network.answer s.posted with
    | none => rfl
    | some status => cases hsuccess : status.isSuccess <;> simp [hsuccess]
  exact perform_sends hr hdeliveries hrecords answer hdeliver

end Perform

section Run

variable {c : Circumstances} {r : Reporter} {h : HttpReporter} {place : Place}

/-- An emission through a bound dispatcher is sent in its flat form, and reported. -/
theorem emit_sends {s : Session} (hplace : s.dispatcherAt place = .active r) (e : Emission) :
    deliveries ((s.dispatcherAt place).emit e) = [(r, e.flat)] ∧
      records ((s.dispatcherAt place).emit e) = [Dispatcher.sent e.flat] := by
  rw [hplace, Dispatcher.emit_active]
  exact ⟨rfl, rfl⟩

/-- Emissions through a dispatcher that is bound to a reporter over HTTP are posted one after the
other, and no dispatcher changes. -/
theorem run_emits (hr : r.http? = some h) (hreaches : c.network.reaches h.endpoint = true)
    {s : Session} (hplace : s.dispatcherAt place = .active r) (emissions : List Emission) :
    (s.run c (emissions.map (.emit place))).2 =
        postedRows c h s.posted (emissions.map fun e => (.done, e.flat)) ∧
      ∀ other, (s.run c (emissions.map (.emit place))).1.dispatcherAt other =
        s.dispatcherAt other := by
  induction emissions generalizing s with
  | nil => exact ⟨rfl, fun _ => rfl⟩
  | cons e rest ih =>
    obtain ⟨hdeliveries, hrecords⟩ := emit_sends hplace e
    obtain ⟨hrow, hposted⟩ := perform_post hr hreaches hdeliveries hrecords .done
    have hkept := s.dispatcherAt_perform c ((s.dispatcherAt place).emit e) .done
    obtain ⟨hrows, hrest⟩ := ih ((hkept place).trans hplace)
    rw [hposted] at hrows
    simp only [List.map_cons, run, step_emit]
    refine ⟨?_, fun other => (hrest other).trans (hkept other)⟩
    rw [hrow, hrows]
    rfl

/-- A connection over HTTP makes no reporter in memory. -/
theorem afterAsked_of_endpoint? {connection : Connection} {endpoint : String}
    (h : connection.endpoint? = some endpoint) (s : Session) (asked : Asked) :
    s.afterAsked connection asked = s := by
  cases asked with
  | none => exact s.afterAsked_none connection
  | some a =>
    induction connection with
    | http _ => rfl
    | held handle inner ih => exact ih h
    | _ => exact nomatch h

/-- A connection over HTTP makes a reporter with the key where reporters can be made. -/
theorem connector_of_endpoint? (hconnects : c.Connects) {connection : Connection}
    {other : String} (h : connection.endpoint? = some other) (s : Session) (key : String)
    (endpoint : Option String) : ∃ r, s.connector c connection key endpoint = .ok r ∧
      r.http? = some ⟨key, endpoint.getD other⟩ := by
  induction connection with
  | http _ =>
    cases h
    refine ⟨.http ⟨key, endpoint.getD other⟩, ?_, rfl⟩
    have hmade := (HttpReporter.connect_eq_ok_iff (r := ⟨key, endpoint.getD other⟩)).mpr
      ⟨hconnects.runtime, hconnects.built, rfl⟩
    simp only [connector, hmade]
    rfl
  | held handle inner ih =>
    obtain ⟨r, hr, hhttp⟩ := ih h
    refine ⟨.held handle r, ?_, hhttp⟩
    simp only [connector, hr]
    rfl
  | _ => exact nomatch h

/-- Setting up a dispatcher over HTTP sends the startup event, and reports that. -/
theorem setUp_sends {s : Session} {setup : Setup} {connection : Connection}
    (hbuilds : s.builds place (.setUp place setup connection) = true) {key : String}
    (hkey : setup.key? s.host.world = some key) {other : String}
    (hconnection : connection.endpoint? = some other)
    (hconnect : s.connector c connection key setup.endpoint? = .ok r) : ∃ effects,
    deliveries effects = [(r, .startup)] ∧ records effects = [Dispatcher.sent .startup] ∧
      s.setUp c place setup connection = (s.install (.active r) place).perform c effects
        (.started .active (some (key, setup.endpoint?))) := by
  have hactive : Dispatcher.outcome s.host.world setup (s.connector c connection) = .active r :=
    Dispatcher.outcome_active_iff.mpr ⟨key, hkey, hconnect⟩
  refine ⟨(Dispatcher.setUp s.host.world setup (s.connector c connection)).1, ?_, ?_, ?_⟩
  · rw [Dispatcher.deliveries_setUp, hactive]
    rfl
  · rw [Dispatcher.records_setUp hkey, Dispatcher.ofKey]
    simp only [hconnect]
    rfl
  · rw [setUp_eq c hbuilds, afterAsked_of_endpoint? hconnection, hactive, hkey]
    rfl

theorem posted_install (s : Session) (d : Dispatcher Reporter) (place : Place) :
    (s.install d place).posted = s.posted := by
  cases place <;> rfl

/-- Setting up a dispatcher over HTTP posts the startup event. -/
theorem setUp_posts {s : Session} {setup : Setup} {connection : Connection}
    (hbuilds : s.builds place (.setUp place setup connection) = true) {key : String}
    (hkey : setup.key? s.host.world = some key) {other : String}
    (hconnection : connection.endpoint? = some other)
    (hconnect : s.connector c connection key setup.endpoint? = .ok r) (hr : r.http? = some h)
    (hreaches : c.network.reaches h.endpoint = true) :
    (s.setUp c place setup connection).2 =
        postedRow c h s.posted (.started .active (some (key, setup.endpoint?))) .startup ∧
      (s.setUp c place setup connection).1.posted = s.posted + 1 ∧
      (s.setUp c place setup connection).1.dispatcherAt place = .active r := by
  obtain ⟨effects, hdeliveries, hrecords, hsetUp⟩ := setUp_sends hbuilds hkey hconnection hconnect
  have hpost := perform_post (s := s.install (.active r) place) hr hreaches hdeliveries hrecords
    (.started .active (some (key, setup.endpoint?)))
  rw [posted_install] at hpost
  rw [hsetUp]
  refine ⟨hpost.1, hpost.2, ?_⟩
  rw [dispatcherAt_perform, dispatcherAt_install, if_pos rfl]

end Run

/-! ## Whole runs -/

/-- A request without the time that is written in its document. -/
def untimed (request : Request) : Request :=
  match request.body with
  | .object members => { request with body := .object (members.filter (·.1 ≠ "time")) }
  | _ => request

/-- Some steps of a session post some events through a reporter over HTTP. -/
structure Posts (s : Session) (c : Circumstances) (steps : List Step) (r : HttpReporter)
    (events : List WireEvent) : Prop where
  /-- Every step posts one event, one after the other, in an envelope under the key. -/
  requests : (s.run c steps).2.map (·.requests) =
    events.map fun event => [⟨"POST", r.endpoint, "application/json", r.envelope c.time event⟩]
  /-- The text of each document is read as a value that holds the event and the key. -/
  contents : ∀ (i : Nat) (row : Row) (event : WireEvent), (s.run c steps).2[i]? = some row →
    events[i]? = some event → ∃ (request : Request) (v data : Json.Value),
      row.requests = [request] ∧ Json.readNearest request.body.render = some v ∧
        v.at? ["data", "baseData"] = some data ∧ event.HeldBy data ∧
          (v.at? ["iKey"]).bind Json.Value.text? = some r.key
  /-- Nothing is reported of an event that the server accepts. -/
  accepted : ∀ i row status, (s.run c steps).2[i]? = some row →
    c.network.answer (s.posted + i) = some status → 200 ≤ status.code ∧ status.code ≤ 299 →
      row.records.filter (·.isDelivery) = []
  /-- One record reports an event that the server does not accept. -/
  rejected : ∀ i row event status, (s.run c steps).2[i]? = some row → events[i]? = some event →
    c.network.answer (s.posted + i) = some status → ¬(200 ≤ status.code ∧ status.code ≤ 299) →
      row.records.filter (·.isDelivery) = [HttpReporter.rejected event status]
  /-- One record reports an event that the server does not answer. -/
  unanswered : ∀ i row event, (s.run c steps).2[i]? = some row → events[i]? = some event →
    c.network.answer (s.posted + i) = none →
      row.records.filter (·.isDelivery) = [HttpReporter.undelivered event c.network.failure]
  /-- These records are of the level for debugging. -/
  level : ∀ row ∈ (s.run c steps).2, ∀ record ∈ row.records, record.isDelivery →
    record.level = .debug

/-- Some steps of a session show the same in two circumstances, but for the reports on deliveries
and the time. -/
structure Alike (s : Session) (c c' : Circumstances) (steps : List Step) : Prop where
  /-- The requests are the same without their time. -/
  requests : (s.run c steps).2.map (·.requests.map untimed) =
    (s.run c' steps).2.map (·.requests.map untimed)
  /-- All other records are the same. -/
  records : (s.run c steps).2.map (·.records.filter (!·.isDelivery)) =
    (s.run c' steps).2.map (·.records.filter (!·.isDelivery))
  /-- The answers to the steps are the same. -/
  answers : (s.run c steps).2.map (·.answer) = (s.run c' steps).2.map (·.answer)
  /-- The dispatchers are the same. -/
  dispatchers : ∀ place, (s.run c steps).1.dispatcherAt place = (s.run c' steps).1.dispatcherAt place

/-- Steps that show posted events post them. -/
theorem posts_of_rows {s : Session} {c : Circumstances} {steps : List Step} {r : HttpReporter}
    {acts : List (Answer × WireEvent)} (hproper : ∀ a ∈ acts, a.2.Proper)
    (h : (s.run c steps).2 = postedRows c r s.posted acts) :
    s.Posts c steps r (acts.map (·.2)) := by
  have hrow : ∀ i row, (s.run c steps).2[i]? = some row → ∃ event,
      (acts.map (·.2))[i]? = some event ∧
        row.records.filter (·.isDelivery) =
          HttpReporter.reports c.network (s.posted + i) event := by
    intro i row hi
    rw [h] at hi
    obtain ⟨answer, event, hevent, rfl⟩ := getElem?_postedRows hi
    exact ⟨event, hevent, (filter_records_postedRow c r (s.posted + i) answer event).1⟩
  have hsuccess (status : Status) :
      status.isSuccess = true ↔ 200 ≤ status.code ∧ status.code ≤ 299 := by
    simp [Status.isSuccess]
  constructor
  case requests =>
    rw [h, map_postedRows fun _ _ => rfl, List.map_map]
    rfl
  case contents =>
    intro i row event hi hevent
    rw [h] at hi
    obtain ⟨answer, event', hevent', rfl⟩ := getElem?_postedRows hi
    obtain rfl := Option.some.inj (hevent.symm.trans hevent')
    obtain ⟨a, ha, rfl⟩ := List.mem_map.mp (List.mem_of_getElem? hevent)
    have hmade : HttpReporter.connect true r.key r.endpoint = .ok r :=
      HttpReporter.connect_eq_ok_iff.mpr ⟨rfl, rfl, rfl⟩
    obtain ⟨v, data, hread⟩ := (hproper a ha).readsBack.envelope _ _ _ _ _ hmade c.time
    exact ⟨_, v, data, rfl, hread⟩
  case accepted =>
    intro i row status hi hanswer hcode
    obtain ⟨event, -, hreports⟩ := hrow i row hi
    simp only [hreports, HttpReporter.reports, hanswer, (hsuccess status).mpr hcode, if_true]
  case rejected =>
    intro i row event status hi hevent hanswer hcode
    obtain ⟨event', hevent', hreports⟩ := hrow i row hi
    obtain rfl := Option.some.inj (hevent.symm.trans hevent')
    simp only [hreports, HttpReporter.reports, hanswer, if_neg (mt (hsuccess status).mp hcode)]
  case unanswered =>
    intro i row event hi hevent hanswer
    obtain ⟨event', hevent', hreports⟩ := hrow i row hi
    obtain rfl := Option.some.inj (hevent.symm.trans hevent')
    simp only [hreports, HttpReporter.reports, hanswer]
  case level =>
    intro row hmem record hrecord hdelivery
    obtain ⟨i, hi⟩ := List.getElem?_of_mem hmem
    obtain ⟨event, -, hreports⟩ := hrow i row hi
    have hreported : record ∈ HttpReporter.reports c.network (s.posted + i) event :=
      hreports ▸ List.mem_filter.mpr ⟨hrecord, hdelivery⟩
    exact (isDelivery_of_mem_reports hreported).2

/-- Steps that show the same posted events in two circumstances show the same. -/
theorem alike_of_rows {s : Session} {c : Circumstances} {answer : Nat → Option Status}
    {failure time : String} {steps : List Step} {r : HttpReporter}
    {acts : List (Answer × WireEvent)}
    (h : (s.run c steps).2 = postedRows c r s.posted acts)
    (h' : (s.run (c.answering answer failure time) steps).2 =
      postedRows (c.answering answer failure time) r s.posted acts)
    (hdispatchers : ∀ place, (s.run c steps).1.dispatcherAt place =
      (s.run (c.answering answer failure time) steps).1.dispatcherAt place) :
    s.Alike c (c.answering answer failure time) steps := by
  have hsame {α : Type} (view : Row → α) (of : Answer × WireEvent → α)
      (hview : ∀ (c : Circumstances) n a, view (postedRow c r n a.1 a.2) = of a) :
      (s.run c steps).2.map view =
        (s.run (c.answering answer failure time) steps).2.map view := by
    rw [h, h', map_postedRows (hview c), map_postedRows (hview _)]
  constructor
  case requests =>
    exact hsame _ (fun a => [untimed (.post r.endpoint (r.envelope "" a.2))]) fun _ _ _ => rfl
  case records =>
    exact hsame _ (fun a => [Dispatcher.sent a.2]) fun c n a =>
      (filter_records_postedRow c r n a.1 a.2).2
  case answers => exact hsame _ (fun a => a.1) fun _ _ _ => rfl
  case dispatchers => exact hdispatchers

theorem connector_answering (s : Session) (c : Circumstances) (answer : Nat → Option Status)
    (failure time : String) (connection : Connection) :
    s.connector (c.answering answer failure time) connection = s.connector c connection := by
  induction connection with
  | held handle inner ih => simp only [connector, ih]
  | _ => rfl

/-- A setup over HTTP and the emissions after it. -/
def postingSteps (place : Place) (setup : Setup) (connection : Connection)
    (emissions : List Emission) : List Step :=
  .setUp place setup connection :: emissions.map (.emit place)

/-- What a setup over HTTP and the emissions after it show, and the dispatchers that they leave. -/
theorem run_postingSteps {s : Session} {c : Circumstances} {place : Place} {setup : Setup}
    {connection : Connection}
    (hbuilds : s.builds place (.setUp place setup connection) = true) {key : String}
    (hkey : setup.key? s.host.world = some key) {other : String}
    (hconnection : connection.endpoint? = some other) {r : Reporter} {h : HttpReporter}
    (hconnect : s.connector c connection key setup.endpoint? = .ok r) (hr : r.http? = some h)
    (hreaches : c.network.reaches h.endpoint = true) (emissions : List Emission) :
    (s.run c (postingSteps place setup connection emissions)).2 =
        postedRows c h s.posted ((.started .active (some (key, setup.endpoint?)), .startup) ::
          emissions.map fun e => (.done, e.flat)) ∧
      ∀ at', (s.run c (postingSteps place setup connection emissions)).1.dispatcherAt at' =
        if at' = place then .active r else s.dispatcherAt at' := by
  obtain ⟨hrow, hposted, hplace⟩ := setUp_posts hbuilds hkey hconnection hconnect hr hreaches
  obtain ⟨hrows, hkept⟩ := run_emits hr hreaches hplace emissions
  rw [hposted] at hrows
  have hdispatchers (at' : Place) : (s.setUp c place setup connection).1.dispatcherAt at' =
      if at' = place then .active r else s.dispatcherAt at' := by
    rw [setUp_eq c hbuilds, dispatcherAt_perform, dispatcherAt_install,
      afterAsked_of_endpoint? hconnection, Dispatcher.outcome_active_iff.mpr ⟨key, hkey, hconnect⟩]
  refine ⟨?_, fun at' => (hkept at').trans (hdispatchers at')⟩
  simp only [postingSteps, run, step, hrow, hrows, postedRows]

/-- The startup event and the events of emissions can be read back. -/
theorem proper_postingActs (answer : Answer) (emissions : List Emission) :
    ∀ a ∈ (answer, .startup) :: emissions.map (fun e => (Answer.done, e.flat)), a.2.Proper := by
  refine List.forall_mem_cons.mpr ⟨Emission.startup.proper_flat, fun a ha => ?_⟩
  obtain ⟨e, -, rfl⟩ := List.mem_map.mp ha
  exact e.proper_flat

/-- A dispatcher that is set up over HTTP where requests can be issued posts the startup event and
then each emission, once and in order, and reports each answer that is no success. Whatever is
answered, the requests, the dispatchers and all other records are the same. -/
theorem posts_once {s : Session} {c : Circumstances} (connects : c.Connects) {place : Place}
    {setup : Setup} {connection : Connection} {key other : String}
    (builds : s.builds place (.setUp place setup connection) = true)
    (key? : setup.key? s.host.world = some key) (http : connection.endpoint? = some other)
    (reaches : c.network.reaches (setup.endpoint?.getD other) = true) (emissions : List Emission) :
    s.Posts c (postingSteps place setup connection emissions) ⟨key, setup.endpoint?.getD other⟩
        (.startup :: emissions.map (·.flat)) ∧
      ((s.run c (postingSteps place setup connection emissions)).1.dispatcherAt place).state =
        .active ∧
      ∀ answer failure time, s.Alike c (c.answering answer failure time)
        (postingSteps place setup connection emissions) := by
  obtain ⟨r, hconnect, hr⟩ := connector_of_endpoint? connects http s key setup.endpoint?
  obtain ⟨hrows, hdispatchers⟩ := run_postingSteps builds key? http hconnect hr reaches emissions
  have hposts := posts_of_rows (proper_postingActs _ _) hrows
  simp only [List.map_cons, List.map_map] at hposts
  refine ⟨hposts, ?_, fun answer failure time => ?_⟩
  · rw [hdispatchers, if_pos rfl]
    rfl
  · have hconnect' := hconnect
    rw [← connector_answering s c answer failure time] at hconnect'
    obtain ⟨hrows', hdispatchers'⟩ :=
      run_postingSteps (c := c.answering answer failure time) builds key? http hconnect' hr reaches
        emissions
    exact alike_of_rows hrows hrows' fun at' =>
      (hdispatchers at').trans (hdispatchers' at').symm

/-- A server on the machine itself that accepts the first event, leaves the second one without
answer, and does not find what the third one is sent to. -/
def loopback : Circumstances where
  runtime := true
  network := {
    reaches := (· = "http://127.0.0.1:8080/track")
    answer := fun n => [some ⟨204⟩, none, some ⟨404⟩].getD n none
    failure := "connection closed" }
  captured := true
  time := "now"

/-- The startup event and two emissions are posted to that server, whatever it answers. -/
theorem loopback_posts_once :
    let start : Session := { host := { world := ⟨.empty, [], []⟩ } }
    let steps := postingSteps (.named "t") (.key (.text " key "))
      (.held .counted (.http "http://127.0.0.1:8080/track"))
      [⟨.launch, .association "a", .empty⟩, ⟨.launch, .association "b", .empty⟩]
    start.Posts loopback steps ⟨"key", "http://127.0.0.1:8080/track"⟩
        [.startup, ⟨.launch, [("associationId", "a")], []⟩,
          ⟨.launch, [("associationId", "b")], []⟩] ∧
      ((start.run loopback steps).1.dispatcherAt (.named "t")).state = .active ∧
      ∀ answer failure time,
        start.Alike loopback (loopback.answering answer failure time) steps := by
  intro start steps
  have hkey : Setup.key? start.host.world (.key (.text " key ")) = some "key" := by decide +kernel
  have hreaches : loopback.network.reaches "http://127.0.0.1:8080/track" = true := by
    simp [loopback]
  exact posts_once ⟨rfl, rfl⟩ (by decide) hkey rfl hreaches _

end Session

end TelemetryGate
