import TelemetryGate.Proofs.Session.Posting
import TelemetryGate.Proofs.Settings.Addresses

/-!
# Endpoints that cannot be posted to

A reporter over HTTP can be made for every endpoint. Whether requests can be issued to it is seen at
each event only: a record for debugging tells of an event that could not be delivered. Settings
without issue may have such an endpoint, since the server in it is not checked.
-/

namespace TelemetryGate

open Effect (deliveries records)

namespace Session

/-- What is shown of an event for which no request can be issued. -/
def unsentRow (c : Circumstances) (answer : Answer) (event : WireEvent) : Row where
  answer := answer
  records := [Dispatcher.sent event, HttpReporter.undelivered event c.network.failure]

section Run

variable {c : Circumstances} {r : Reporter} {h : HttpReporter} {place : Place}

/-- Effects that send one event to a reporter over HTTP, and report that, issue no request if none
can be issued. -/
theorem perform_unsent {s : Session} {effects : List (Effect Reporter)} {event : WireEvent}
    (hr : r.http? = some h) (hlost : c.network.reaches h.endpoint = false)
    (hdeliveries : deliveries effects = [(r, event)])
    (hrecords : records effects = [Dispatcher.sent event]) (answer : Answer) :
    (s.perform c effects answer).2 = unsentRow c answer event := by
  have hdeliver : deliver c s.posted [(h, event)] =
      ([], [HttpReporter.undelivered event c.network.failure]) := by
    simp [deliver, HttpReporter.deliver, hlost]
  exact (perform_sends hr hdeliveries hrecords answer hdeliver).1

/-- Emissions through a dispatcher that is bound to such a reporter issue no request. -/
theorem run_emits_unsent (hr : r.http? = some h) (hlost : c.network.reaches h.endpoint = false)
    {s : Session} (hplace : s.dispatcherAt place = .active r) (emissions : List Emission) :
    (s.run c (emissions.map (.emit place))).2 =
        emissions.map (fun e => unsentRow c .done e.flat) ∧
      (s.run c (emissions.map (.emit place))).1.dispatcherAt place = .active r := by
  induction emissions generalizing s with
  | nil => exact ⟨rfl, hplace⟩
  | cons e rest ih =>
    obtain ⟨hdeliveries, hrecords⟩ := emit_sends hplace e
    have hrow := perform_unsent (s := s) hr hlost hdeliveries hrecords .done
    have hkept := s.dispatcherAt_perform c ((s.dispatcherAt place).emit e) .done place
    obtain ⟨hrows, hrest⟩ := ih (hkept.trans hplace)
    simp only [List.map_cons, run, step_emit]
    exact ⟨by rw [hrow, hrows], hrest⟩

/-- Setting up a dispatcher with such a reporter issues no request either. -/
theorem run_postingSteps_unsent {s : Session} {setup : Setup} {connection : Connection}
    (hbuilds : s.builds place (.setUp place setup connection) = true) {key : String}
    (hkey : setup.key? s.host.world = some key) {other : String}
    (hconnection : connection.endpoint? = some other)
    (hconnect : s.connector c connection key setup.endpoint? = .ok r) (hr : r.http? = some h)
    (hlost : c.network.reaches h.endpoint = false) (emissions : List Emission) :
    (s.run c (postingSteps place setup connection emissions)).2 =
        unsentRow c (.started .active (some (key, setup.endpoint?))) .startup ::
          emissions.map (fun e => unsentRow c .done e.flat) ∧
      (s.run c (postingSteps place setup connection emissions)).1.dispatcherAt place =
        .active r := by
  obtain ⟨effects, hdeliveries, hrecords, hsetUp⟩ := setUp_sends hbuilds hkey hconnection hconnect
  have hrow := perform_unsent (s := s.install (.active r) place) hr hlost hdeliveries hrecords
    (.started .active (some (key, setup.endpoint?)))
  have hplace : (s.setUp c place setup connection).1.dispatcherAt place = .active r := by
    rw [hsetUp, dispatcherAt_perform, dispatcherAt_install, if_pos rfl]
  rw [← hsetUp] at hrow
  obtain ⟨hrows, hkept⟩ := run_emits_unsent hr hlost hplace emissions
  refine ⟨?_, hkept⟩
  simp only [postingSteps, run, step, hrow, hrows]

end Run

/-- Some steps of a session send some events, but no request is issued for any of them. -/
structure Loses (s : Session) (c : Circumstances) (steps : List Step) (events : List WireEvent) :
    Prop where
  /-- No step issues a request. -/
  requests : (s.run c steps).2.map (·.requests) = events.map fun _ => []
  /-- Each event is reported as sent, and then as one that could not be delivered. -/
  records : (s.run c steps).2.map (·.records) = events.map fun event =>
    [Dispatcher.sent event, HttpReporter.undelivered event c.network.failure]

/-- What it takes to post to the endpoint of settings: settings without issue, a key, something that
runs, a connection over HTTP to the endpoint, and a client that issues requests to addresses. -/
structure Configured (s : Session) (c : Circumstances) (hosts : String → Bool) (settings : Settings)
    (place : Place) (setup : Setup) (connection : Connection) (key : String) : Prop where
  /-- The settings have no issue. -/
  valid : settings.issues = []
  /-- Reporters over HTTP can be made. -/
  connects : c.Connects
  /-- Requests can be issued to the addresses on the web. -/
  reads : ∀ endpoint, c.network.reaches endpoint = isAddress hosts endpoint
  /-- The setup puts a dispatcher at its place. -/
  builds : s.builds place (.setUp place setup connection) = true
  /-- It has a key. -/
  key? : setup.key? s.host.world = some key
  /-- The reporter is one over HTTP, for the endpoint of the settings. -/
  endpoint : ∃ other, connection.endpoint? = some other ∧
    setup.endpoint?.getD other = settings.endpoint

/-- Settings without issue have an endpoint that starts as an address does. -/
theorem hasUrl_of_issues {s : Settings} (h : s.issues = []) : s.hasUrl = true := by
  by_contra hnot
  rw [Settings.issues, if_neg hnot] at h
  cases h

section Configured

variable {s : Session} {c : Circumstances} {hosts : String → Bool} {settings : Settings}
  {place : Place} {setup : Setup} {connection : Connection} {key : String}

/-- If the endpoint is no address, every event is lost. -/
theorem Configured.loses (h : s.Configured c hosts settings place setup connection key)
    (hlost : isAddress hosts settings.endpoint = false) (emissions : List Emission) :
    s.Loses c (postingSteps place setup connection emissions)
        (.startup :: emissions.map (·.flat)) ∧
      ((s.run c (postingSteps place setup connection emissions)).1.dispatcherAt place).state =
        .active := by
  obtain ⟨other, hconnection, hendpoint⟩ := h.endpoint
  obtain ⟨r, hconnect, hr⟩ := connector_of_endpoint? h.connects hconnection s key setup.endpoint?
  have hreaches : c.network.reaches (setup.endpoint?.getD other) = false := by
    rw [hendpoint, h.reads, hlost]
  obtain ⟨hrows, hplace⟩ :=
    run_postingSteps_unsent h.builds h.key? hconnection hconnect hr hreaches emissions
  refine ⟨⟨?_, ?_⟩, by rw [hplace]; rfl⟩
  · rw [hrows]
    simp [unsentRow]
  · rw [hrows]
    simp [unsentRow]

/-- If the endpoint is an address, every event is posted to it. -/
theorem Configured.posts (h : s.Configured c hosts settings place setup connection key)
    (haddress : isAddress hosts settings.endpoint = true) (emissions : List Emission) :
    s.Posts c (postingSteps place setup connection emissions) ⟨key, settings.endpoint⟩
        (.startup :: emissions.map (·.flat)) ∧
      ((s.run c (postingSteps place setup connection emissions)).1.dispatcherAt place).state =
        .active := by
  obtain ⟨other, hconnection, hendpoint⟩ := h.endpoint
  have hreaches : c.network.reaches (setup.endpoint?.getD other) = true := by
    rw [hendpoint, h.reads, haddress]
  obtain ⟨r, hconnect, hr⟩ := connector_of_endpoint? h.connects hconnection s key setup.endpoint?
  obtain ⟨hrows, hplace⟩ :=
    run_postingSteps h.builds h.key? hconnection hconnect hr hreaches emissions
  have hposts := posts_of_rows (proper_postingActs _ _) hrows
  simp only [List.map_cons, List.map_map] at hposts
  rw [hendpoint] at hposts
  refine ⟨hposts, ?_⟩
  rw [hplace, if_pos rfl]
  rfl

end Configured

/-- A dispatcher for the endpoint of settings without issue is bound whatever the endpoint is. If
the endpoint names a server, the startup event and every emission are posted to it; if it does not,
no request is ever issued, and a record for debugging tells of each event that it could not be
delivered. -/
theorem posts_or_loses {s : Session} {c : Circumstances} {hosts : String → Bool}
    {settings : Settings} {place : Place} {setup : Setup} {connection : Connection} {key : String}
    (configured : s.Configured c hosts settings place setup connection key)
    (emissions : List Emission) :
    ((s.run c (postingSteps place setup connection emissions)).1.dispatcherAt place).state =
        .active ∧
      if Address.namesServer hosts (Address.server (Address.bare settings.endpoint.toList)) then
        s.Posts c (postingSteps place setup connection emissions) ⟨key, settings.endpoint⟩
          (.startup :: emissions.map (·.flat))
      else
        s.Loses c (postingSteps place setup connection emissions)
          (.startup :: emissions.map (·.flat)) := by
  rw [← settings.isAddress_of_hasUrl (hasUrl_of_issues configured.valid)]
  cases haddress : isAddress hosts settings.endpoint with
  | true =>
    obtain ⟨hposts, hactive⟩ := configured.posts haddress emissions
    exact ⟨hactive, hposts⟩
  | false =>
    obtain ⟨hloses, hactive⟩ := configured.loses haddress emissions
    exact ⟨hactive, hloses⟩

/-! ## Two endpoints without issue -/

/-- Hosts that are named by domains. -/
def isDomain (host : String) : Bool := host.toList.all fun c => c.isAlphanum || c = '-' || c = '.'

/-- A server at each address that accepts everything. -/
def web : Circumstances where
  runtime := true
  network := {
    reaches := isAddress isDomain
    answer := fun _ => some ⟨200⟩
    failure := "builder error: empty host" }
  captured := true
  time := "now"

/-- Settings with a key for an endpoint. -/
def settingsFor (endpoint : String) : Settings :=
  { Settings.default [] with instrumentationKey := some " key ", endpoint }

/-- A session that has not begun. -/
def blank : Session := { host := { world := ⟨.empty, [], []⟩ } }

theorem configured_settingsFor (endpoint : String) (h : (settingsFor endpoint).hasUrl = true) :
    blank.Configured web isDomain (settingsFor endpoint) (.named "t")
      (.settings (settingsFor endpoint)) (.http "") "key" where
  valid := by
    have hlog : (LogSettings.default []).issue? = none := by decide
    rw [Settings.issues, if_pos h]
    exact congrArg (fun issue => issue.toList.map Issue.logging) hlog
  connects := ⟨rfl, rfl⟩
  reads _ := rfl
  builds := rfl
  key? := by
    have hkey : (KeySource.settings (settingsFor endpoint)).usableKey = some "key" := by
      change ((some " key ").map Text.trim).filter (· ≠ "") = some "key"
      decide +kernel
    have henabled : (settingsFor endpoint).enabled = true := rfl
    rw [Setup.key?, if_pos henabled, hkey, Option.some_or]
  endpoint := ⟨"", rfl, rfl⟩

/-- Two events are posted to a server that is named with a port. -/
theorem posts_to_port :
    let endpoint := "https://me@ingest.local:8443/v2/track"
    let steps := postingSteps (.named "t") (.settings (settingsFor endpoint)) (.http "")
      [⟨.launch, .association "a", .empty⟩]
    blank.Configured web isDomain (settingsFor endpoint) (.named "t")
        (.settings (settingsFor endpoint)) (.http "") "key" ∧
      ((blank.run web steps).1.dispatcherAt (.named "t")).state = .active ∧
      blank.Posts web steps ⟨"key", endpoint⟩
        [.startup, ⟨.launch, [("associationId", "a")], []⟩] := by
  intro endpoint steps
  have hconfigured := configured_settingsFor endpoint (by decide +kernel)
  have hposts := posts_or_loses hconfigured [⟨.launch, .association "a", .empty⟩]
  rw [if_pos (by decide +kernel)] at hposts
  exact ⟨hconfigured, hposts⟩

/-- An endpoint without issue need not be one that can be posted to: it may lack a server. -/
theorem not_posts_of_valid : ¬ ∀ (s : Session) (c : Circumstances) (hosts : String → Bool)
    (settings : Settings) (place : Place) (setup : Setup) (connection : Connection) (key : String),
    s.Configured c hosts settings place setup connection key → ∀ emissions,
      s.Posts c (postingSteps place setup connection emissions) ⟨key, settings.endpoint⟩
        (.startup :: emissions.map (·.flat)) := by
  intro hall
  have hconfigured := configured_settingsFor "http://" (by decide +kernel)
  have hposts := hall _ _ _ _ _ _ _ _ hconfigured []
  obtain ⟨hloses, -⟩ := hconfigured.loses (by decide +kernel) []
  have hsame := hposts.requests.symm.trans hloses.requests
  cases hsame

end Session

end TelemetryGate
