import TelemetryGate.Proofs.Filesystem.Making
import TelemetryGate.Proofs.Log.Growing
import TelemetryGate.Proofs.Results

/-!
# What a failed attempt leaves

An attempt to set up a log opens the log file before it takes the place of the log, and that place
before it takes the one of the `log` interface. If it fails, the file tree keeps all that it had,
but directories on the way to the log file may be new. If it is refused because a place is not free,
the log file may be new as well, and if only the second place is not free, the log stays installed.
Faults of the settings and of the filter come before all this, and where the log file stands already
nothing is made.
-/

namespace TelemetryGate.Log

/-- A place that a log takes is not free. -/
def Fault.IsRefusal (fault : Fault) : Prop := fault = .taken ∨ fault = .forwarded

namespace Host

open Filesystem (Location)
open Filesystem.Tree (origin wayTo)

/-- The file tree of a host after its log file was opened, or could not be opened. -/
structure Opening (h h' : Host) (path : String) (result : Except Fault Location) : Prop where
  /-- Nothing but the file tree changes. -/
  rest : h' = { h with world := { h.world with files := h'.world.files } }
  /-- What stood somewhere stands there still. -/
  keeps : h.world.files.Keeps h'.world.files
  /-- All that is new are directories on the way to the file, and the file once it is opened. -/
  made : ∀ loc node, h'.world.files.get? loc = some node → h.world.files.get? loc = none →
    (node = .directory ∧
        h'.world.files.OnTheWay (origin h.world.cwd path) (wayTo path) loc) ∨
      (result = .ok loc ∧ node = .file .empty)
  /-- What is opened is the file that the path leads to. -/
  opened : ∀ place, result = .ok place → h'.world.files.LeadsTo h.world.cwd path place ∧
    ∃ content, h'.world.files.get? place = some (.file content)
  /-- Where the file stands already nothing is made. -/
  present : h.world.files.isFile h.world.cwd path = true → h' = h
  /-- A fault says that a directory cannot be made, or the file not be opened. -/
  fault : ∀ fault, result = .error fault →
    (∃ f, fault = .directory f) ∨ ∃ f, fault = .file path f

/-- Opening a file makes the directories around it, and the file itself. -/
theorem openFile_opening (h : Host) (path : String) :
    h.Opening (h.openFile path).1 path (h.openFile path).2 := by
  have hmade := h.world.files.makeParents_made h.world.cwd path
  have hpresent (hfile : h.world.files.isFile h.world.cwd path = true) :=
    Filesystem.Tree.makeParents_of_isFile hfile
  rw [openFile]
  split
  · rename_i files fault hparents
    rw [hparents] at hmade hpresent
    dsimp only at hmade hpresent
    refine ⟨rfl, hmade.keeps, fun loc node hnode hfree => .inl (hmade.made loc node hnode hfree),
      ?_, fun hfile => ?_, ?_⟩
    · rintro place ⟨⟩
    · rw [hpresent hfile]
    · rintro other ⟨⟩
      exact .inl ⟨fault, rfl⟩
  · rename_i files hparents
    rw [hparents] at hmade hpresent
    dsimp only at hmade hpresent
    split
    · rename_i fault hopen
      refine ⟨rfl, hmade.keeps, fun loc node hnode hfree => .inl (hmade.made loc node hnode hfree),
        ?_, fun hfile => ?_, ?_⟩
      · rintro place ⟨⟩
      · rw [hpresent hfile]
      · rintro other ⟨⟩
        exact .inr ⟨fault, rfl⟩
    · rename_i opened place hopen
      obtain ⟨hkeeps, hcontent⟩ := Filesystem.Tree.openAppend_keeps hopen
      obtain ⟨hleads, hcases⟩ := Filesystem.Tree.openAppend_cases hopen
      refine ⟨rfl, hmade.keeps.trans hkeeps, fun loc node hnode hfree => ?_, ?_,
        fun hfile => ?_, ?_⟩
      · by_cases hplace : loc = place
        · subst hplace
          rcases hcases with ⟨rfl, -⟩ | ⟨hnone, rfl⟩
          · exact .inl (hmade.made loc node hnode hfree)
          · have hroot : loc ≠ [] := by
              rintro rfl
              cases hfree
            rw [Filesystem.Tree.get?_set_self files hroot] at hnode
            exact .inr ⟨rfl, (Option.some.inj hnode).symm⟩
        · have hbefore : files.get? loc = some node := by
            rcases hcases with ⟨rfl, -⟩ | ⟨-, rfl⟩
            · exact hnode
            · rwa [Filesystem.Tree.get?_set_of_ne files hplace] at hnode
          obtain ⟨hdirectory, way, hway, hwalk⟩ := hmade.made loc node hbefore hfree
          exact .inl ⟨hdirectory, way, hway, hkeeps.walk hwalk⟩
      · rintro other ⟨⟩
        exact ⟨hkeeps.walk hleads, hcontent⟩
      · have hsame : files = h.world.files := hpresent hfile
        subst hsame
        rw [Filesystem.Tree.openAppend_of_isFile hfile hopen]
      · rintro other ⟨⟩

/-- What a failed attempt to set up a log leaves of the world. -/
structure Remains (w w' : World) (s : LogSettings) (fault : Fault) : Prop where
  /-- Nothing but the file tree changes. -/
  rest : w' = { w with files := w'.files }
  /-- What stood somewhere stands there still. -/
  keeps : w.files.Keeps w'.files
  /-- All that is new are directories on the way to the log file. If a place of the log is not free,
  it may be the log file as well, without content. -/
  made : ∀ loc node, w'.files.get? loc = some node → w.files.get? loc = none →
    (node = .directory ∧ w'.files.OnTheWay (origin w.cwd s.file) (wayTo s.file) loc) ∨
      (fault.IsRefusal ∧ node = .file .empty ∧ w'.files.LeadsTo w.cwd s.file loc)
  /-- If a place of the log is not free, the log file stands there. -/
  refused : fault.IsRefusal → s.output = "file" → ∃ place content,
    w'.files.LeadsTo w.cwd s.file place ∧ w'.files.get? place = some (.file content)
  /-- A fault of the settings leaves everything as it was. -/
  settings : ∀ issue, fault = .issue issue → w' = w
  /-- A fault of the filter leaves everything as it was. -/
  filter : ∀ f, fault = .directive f → w' = w
  /-- If the lines do not go to a file, everything is left as it was. -/
  output : s.output ≠ "file" → w' = w
  /-- If the log file stood there before, everything is left as it was. -/
  present : w.files.isFile w.cwd s.file = true → w' = w

theorem Remains.refl (w : World) (s : LogSettings) {fault : Fault}
    (hfault : ¬ fault.IsRefusal ∨ s.output ≠ "file") : Remains w w s fault where
  rest := rfl
  keeps := .refl _
  made loc node hnode hfree := by
    rw [hnode] at hfree
    cases hfree
  refused hrefusal houtput := by
    rcases hfault with hfault | hother
    · exact absurd hrefusal hfault
    · exact absurd houtput hother
  settings _ _ := rfl
  filter _ _ := rfl
  output _ := rfl
  present _ := rfl

/-- A fault that is found when the log file is opened, or behind that. -/
theorem Opening.late {h h' : Host} {path : String} {result : Except Fault Location}
    (hopening : h.Opening h' path result) {fault : Fault}
    (hfault : fault.IsRefusal ∧ (∃ place, result = .ok place) ∨ result = .error fault) :
    fault.IsRefusal ∨ (∃ f, fault = .directory f) ∨ ∃ f, fault = .file path f :=
  hfault.imp And.left (hopening.fault fault)

/-- What remains of a log file that is opened for nothing, or cannot be opened. -/
theorem Opening.remains {h h' : Host} {s : LogSettings} {result : Except Fault Location}
    (hopening : h.Opening h' s.file result) (houtput : s.output = "file") {fault : Fault}
    (hfault : fault.IsRefusal ∧ (∃ place, result = .ok place) ∨ result = .error fault) :
    Remains h.world h'.world s fault where
  rest := congrArg Host.world hopening.rest
  keeps := hopening.keeps
  made loc node hnode hfree := by
    rcases hopening.made loc node hnode hfree with hdirectory | ⟨rfl, hfile⟩
    · exact .inl hdirectory
    · rcases hfault with ⟨hrefusal, -⟩ | ⟨⟨⟩⟩
      exact .inr ⟨hrefusal, hfile, (hopening.opened loc rfl).1⟩
  refused hrefusal _ := by
    rcases hfault with ⟨-, place, hplace⟩ | hunopened
    · obtain ⟨hleads, content, hcontent⟩ := hopening.opened place hplace
      exact ⟨place, content, hleads, hcontent⟩
    · rcases hopening.fault fault hunopened with ⟨f, rfl⟩ | ⟨f, rfl⟩ <;>
        rcases hrefusal with ⟨⟨⟩⟩ | ⟨⟨⟩⟩
  settings issue hissue := by
    subst hissue
    rcases hopening.late hfault with (⟨⟨⟩⟩ | ⟨⟨⟩⟩) | ⟨f, ⟨⟩⟩ | ⟨f, ⟨⟩⟩
  filter f hfilter := by
    subst hfilter
    rcases hopening.late hfault with (⟨⟨⟩⟩ | ⟨⟨⟩⟩) | ⟨f, ⟨⟩⟩ | ⟨f, ⟨⟩⟩
  output hother := absurd houtput hother
  present hfile := congrArg Host.world (hopening.present hfile)

/-- What a failed attempt to set up a log leaves of a host. -/
structure Aftermath (h h' : Host) (s : LogSettings) (fault : Fault) : Prop where
  /-- What remains of the world. -/
  world : Remains h.world h'.world s fault
  /-- Nothing else changes, unless the log is in place. -/
  rest : fault ≠ .forwarded → h' = { h with world := h'.world }
  /-- If it is, its place was free, and the records of the `log` interface went somewhere else
  already. The log is the one that the settings describe, and nothing else changes. -/
  installed : fault = .forwarded → h.logger = none ∧ h.forwarded = true ∧
    ∃ logger, h.Ready s logger ∧ h' = { h with world := h'.world, logger := some logger }

theorem Aftermath.refl (h : Host) (s : LogSettings) {fault : Fault}
    (hfault : ¬ fault.IsRefusal) : h.Aftermath h s fault where
  world := .refl h.world s (.inl hfault)
  rest _ := rfl
  installed hforwarded := absurd (.inr hforwarded) hfault

/-- Opening the sink of settings without issue opens the log file, or changes nothing. -/
theorem openSink_opening (h : Host) {s : LogSettings} (hvalid : s.issue? = none) :
    (s.output ≠ "file" ∧ (h.openSink s).1 = h ∧ ∃ sink, (h.openSink s).2 = .ok sink) ∨
      s.output = "file" ∧ h.Opening (h.openSink s).1 s.file (h.openFile s.file).2 ∧
        (h.openSink s).2 = (h.openFile s.file).2.map .file := by
  have houtput := (LogSettings.issue?_eq_none_iff.mp hvalid).2.2.1
  rw [openSink]
  split
  · rename_i hstdout
    exact .inl ⟨by rw [hstdout]; decide, rfl, _, rfl⟩
  · rename_i hstdout
    split
    · rename_i hstderr
      exact .inl ⟨by rw [hstderr]; decide, rfl, _, rfl⟩
    · rename_i hstderr
      have hfile : s.output = "file" := by simpa [outputWords, hstdout, hstderr] using houtput
      have hopening := h.openFile_opening s.file
      refine .inr ⟨hfile, ?_⟩
      split
      · rename_i opened place hopen
        rw [hopen] at hopening ⊢
        exact ⟨hopening, rfl⟩
      · rename_i opened fault hopen
        rw [hopen] at hopening ⊢
        exact ⟨hopening, rfl⟩

/-- A log is refused where there is one already, and then nothing changes. If the records of the
`log` interface go somewhere else already, the log is in place nevertheless. -/
theorem install_of_error {h : Host} {logger : Logger} {fault : Fault}
    (hrefused : (h.install logger).2 = .error fault) :
    (fault = .taken ∧ (h.install logger).1 = h) ∨
      (fault = .forwarded ∧ h.logger = none ∧ h.forwarded = true ∧
        (h.install logger).1 = { h with logger := some logger }) := by
  obtain ⟨hresult, hhost⟩ := h.install_eq logger
  rw [hresult, verdict] at hrefused
  rw [hhost]
  obtain ⟨world, installed, stdout, stderr, forwarded, against⟩ := h
  cases installed with
  | some other =>
    cases hrefused
    exact .inl ⟨rfl, by simp⟩
  | none =>
    cases forwarded with
    | false => cases hrefused
    | true =>
      cases hrefused
      exact .inr ⟨rfl, rfl, rfl, rfl⟩

/-- The aftermath of a log file that cannot be opened. -/
theorem aftermath_of_unopened {h : Host} {s : LogSettings} (hvalid : s.issue? = none)
    {fault : Fault} (hunopened : (h.openSink s).2 = .error fault) :
    h.Aftermath (h.openSink s).1 s fault := by
  rcases h.openSink_opening hvalid with ⟨-, -, sink, hsink⟩ | ⟨hfile, hopening, hresult⟩
  · cases hunopened.symm.trans hsink
  · rw [hunopened, eq_comm, map_eq_error_iff] at hresult
    have hremains := hopening.remains hfile (.inr hresult)
    refine ⟨hremains, fun _ => ?_, ?_⟩
    · exact hopening.rest.trans (by rw [← hremains.rest])
    · rintro rfl
      rcases hopening.fault _ hresult with ⟨f, ⟨⟩⟩ | ⟨f, ⟨⟩⟩

/-- What remains of the world when a log is refused. -/
theorem remains_of_refused {h : Host} {s : LogSettings} (hvalid : s.issue? = none) {sink : Sink}
    (hopened : (h.openSink s).2 = .ok sink) {fault : Fault} (hrefusal : fault.IsRefusal) :
    Remains h.world (h.openSink s).1.world s fault := by
  rcases h.openSink_opening hvalid with ⟨hother, hkept, -⟩ | ⟨hfile, hopening, hresult⟩
  · rw [hkept]
    exact .refl h.world s (.inr hother)
  · rw [hopened, eq_comm, map_eq_ok_iff] at hresult
    obtain ⟨place, hplace, -⟩ := hresult
    exact hopening.remains hfile (.inl ⟨hrefusal, place, hplace⟩)

/-- The aftermath of a log that is refused. -/
theorem aftermath_of_refused {h : Host} {s : LogSettings} {logger : Logger}
    (hready : h.Ready s logger) (hopened : (h.openSink s).2 = .ok logger.sink) {fault : Fault}
    (hrefused : ((h.openSink s).1.install logger).2 = .error fault) :
    h.Aftermath ((h.openSink s).1.install logger).1 s fault := by
  have hremains := @remains_of_refused h s hready.valid logger.sink hopened fault
  obtain ⟨files, hfiles⟩ := h.openSink_fst s
  generalize (h.openSink s).1 = opened at *
  subst hfiles
  rcases install_of_error hrefused with ⟨rfl, hhost⟩ | ⟨rfl, hfree, hforwarded, hhost⟩
  · rw [hhost]
    refine ⟨hremains (.inl rfl), fun _ => rfl, ?_⟩
    rintro ⟨⟩
  · rw [hhost]
    exact ⟨hremains (.inr rfl), fun hne => absurd rfl hne,
      fun _ => ⟨hfree, hforwarded, logger, hready, rfl⟩⟩

/-- A failed attempt to set up a log leaves all that there was. What it leaves besides are
directories on the way to the log file, the empty log file if it was refused after the file was
opened, and the log itself if only the records of the `log` interface go somewhere else. -/
theorem aftermath_of_fails {h : Host} {settings : Option LogSettings} {fault : Fault}
    (fails : (h.setUpLog settings).2 = .error fault) :
    h.Aftermath (h.setUpLog settings).1 (h.inForce settings) fault := by
  have hs : settings.getD (.default h.world.environment) = h.inForce settings := rfl
  generalize h.inForce settings = s at *
  simp only [setUpLog, hs] at fails ⊢
  cases henabled : s.enabled with
  | false =>
    rw [henabled] at fails
    cases fails
  | true =>
    simp only [henabled, Bool.not_true, Bool.false_eq_true, if_false] at fails ⊢
    cases hissue : s.issue? with
    | some issue =>
      rw [hissue] at fails
      cases fails
      exact .refl h s (by simp [Fault.IsRefusal])
    | none =>
      simp only [hissue] at fails ⊢
      cases hfilter : Filter.choose h.against h.world.environment s with
      | error unbuilt =>
        rw [hfilter] at fails
        cases fails
        exact .refl h s (by simp [Fault.IsRefusal])
      | ok filter =>
        simp only [hfilter] at fails ⊢
        have hunopened := @aftermath_of_unopened h s hissue fault
        have hrefused (sink : Sink) (hready : h.Ready s ⟨filter, layoutOf s, sink⟩) :=
          @aftermath_of_refused h s ⟨filter, layoutOf s, sink⟩ hready
        have hopens := h.openSink_cases hissue
        generalize h.openSink s = opening at *
        obtain ⟨opened, unopened | sink⟩ := opening
        · cases fails
          exact hunopened rfl
        · rcases hopens with ⟨_, ⟨⟩, hsink⟩ | ⟨_, ⟨⟩, -⟩
          exact hrefused sink ⟨hissue, hfilter, hsink, rfl⟩ rfl fails

/-! ## Attempts that leave something -/

/-- A log for errors on the standard error is installed, and nothing but a home is there. -/
def loggingHome : Host where
  world := ⟨⟨[(["home"], .directory)]⟩, ["home"], []⟩
  logger := some ⟨⟨[⟨none, [], .atLeast .error⟩]⟩, .text false, .stderr⟩

/-- Settings for a log that goes to a file in a directory of its own. -/
def fileSettings : LogSettings :=
  { LogSettings.default [] with output := "file", file := "logs/../logs/app.log" }

/-- The second attempt is refused, and leaves the directory and the log file without content. -/
theorem aftermath_loggingHome :
    (loggingHome.setUpLog (some fileSettings)).2 = .error .taken ∧
      loggingHome.Aftermath (loggingHome.setUpLog (some fileSettings)).1 fileSettings .taken := by
  have hrefused : (loggingHome.setUpLog (some fileSettings)).2 = .error .taken := by
    decide +kernel
  exact ⟨hrefused, aftermath_of_fails hrefused⟩

/-- Where only the records of the `log` interface go somewhere else, the attempt fails as well, but
its log is in place. -/
example :
    let h : Host := { world := loggingHome.world, forwarded := true }
    (h.setUpLog (some fileSettings)).2 = .error .forwarded ∧
      (h.setUpLog (some fileSettings)).1.logger.isSome = true := by
  decide +kernel

/-- Not every failed attempt leaves the file tree as it was: a second one that is refused makes the
log file and the directory that it stands in. -/
theorem not_untouched_of_fails : ¬ ∀ (h : Host) (settings : Option LogSettings) (fault : Fault),
    (h.setUpLog settings).2 = .error fault →
      ∀ place, (h.setUpLog settings).1.world.files.get? place = h.world.files.get? place := by
  intro huntouched
  have hsame := huntouched loggingHome (some fileSettings) .taken (by decide +kernel)
    ["home", "logs"]
  have hfree : (loggingHome.world.files.get? ["home", "logs"]).isSome = false := by decide +kernel
  have hmade : ((loggingHome.setUpLog (some fileSettings)).1.world.files.get?
      ["home", "logs"]).isSome = true := by decide +kernel
  rw [hsame, hfree] at hmade
  cases hmade

end Host

end TelemetryGate.Log
