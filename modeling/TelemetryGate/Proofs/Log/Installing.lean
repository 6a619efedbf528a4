import TelemetryGate.Log.Host
import TelemetryGate.Proofs.Filesystem.Keeping
import TelemetryGate.Reporting.SetupFault

/-!
# One log for a host

A host may try to set up its log any number of times, while its surroundings change and records are
reported. The first attempt that passes all stages puts its log into place. Attempts before fail in
the first stage that they do not pass, attempts after are refused, and every record from then on
goes to that one log.
-/

namespace TelemetryGate

namespace Log

open Filesystem (Location)

/-- What happens to a host, as far as its log is concerned. -/
inductive Happening where
  /-- Its log is to be set up; no settings stand for the defaults. -/
  | setUp (settings : Option LogSettings)
  /-- A record is reported at a time. -/
  | report (time : String) (record : Record)
  /-- Its surroundings change: variables, files, or the working directory. -/
  | change (world : World)

namespace Host

/-- The host after something happened. -/
def after (h : Host) : Happening → Host
  | .setUp settings => (h.setUpLog settings).1
  | .report time record => h.write time record
  | .change world => { h with world }

/-- The host after some things happened, one after the other. -/
def run (h : Host) (history : List Happening) : Host := history.foldl after h

/-- The settings that an attempt to set up the log goes by. -/
def inForce (h : Host) (settings : Option LogSettings) : LogSettings :=
  settings.getD (.default h.world.environment)

/-- What a program is told of an attempt to set up the log. -/
def told (h : Host) (settings : Option LogSettings) : Except SetupFault Unit :=
  (h.setUpLog settings).2.mapError fun fault => SetupFault.logging fault.message

/-! ## The stages of an attempt -/

/-- The output of log settings is opened as a sink. -/
inductive Opens (h : Host) (s : LogSettings) : Sink → Prop where
  /-- The standard output. -/
  | stdout (output : s.output = "stdout") : h.Opens s .stdout
  /-- The standard error. -/
  | stderr (output : s.output = "stderr") : h.Opens s .stderr
  /-- The log file, which can be opened. -/
  | file {place : Location} (output : s.output = "file")
    (opened : (h.openFile s.file).2 = .ok place) : h.Opens s (.file place)

/-- Log settings pass all stages, and the log that they describe comes out. -/
structure Ready (h : Host) (s : LogSettings) (logger : Logger) : Prop where
  /-- The settings have no issue. -/
  valid : s.issue? = none
  /-- The filter is built. -/
  filter : Filter.choose h.against h.world.environment s = .ok logger.filter
  /-- The output is opened. -/
  sink : h.Opens s logger.sink
  /-- The lines are laid out as the settings say. -/
  layout : logger.layout = layoutOf s

/-- The fault of the first stage that log settings do not pass. -/
inductive FirstFault (h : Host) (s : LogSettings) : Fault → Prop where
  /-- The settings have an issue. -/
  | issue {issue : LogIssue} (found : s.issue? = some issue) : h.FirstFault s (.issue issue)
  /-- The filter cannot be built. -/
  | filter {fault : Directive.Fault} (valid : s.issue? = none)
    (unbuilt : Filter.choose h.against h.world.environment s = .error fault) :
    h.FirstFault s (.directive fault)
  /-- The log file cannot be opened. -/
  | file {filter : Filter} {fault : Fault} (valid : s.issue? = none)
    (built : Filter.choose h.against h.world.environment s = .ok filter)
    (output : s.output = "file") (unopened : (h.openFile s.file).2 = .error fault) :
    h.FirstFault s fault

/-- Both places that an attempt takes are free: that of the log, and that of the `log` interface. -/
structure Free (h : Host) : Prop where
  /-- There is no log. -/
  logger : h.logger = none
  /-- The records of the `log` interface go nowhere. -/
  forwarded : h.forwarded = false

/-- What an attempt is told that passes all stages. It depends on the places that are free. -/
def verdict (h : Host) : Except Fault Unit :=
  if h.logger.isSome then .error .taken else if h.forwarded then .error .forwarded else .ok ()

/-- An attempt is made with settings that are switched on, and passes all stages. -/
def Passes (h : Host) (settings : Option LogSettings) (logger : Logger) : Prop :=
  (h.inForce settings).enabled = true ∧ h.Ready (h.inForce settings) logger

/-- At most one sink is opened. -/
theorem Opens.unique {h : Host} {s : LogSettings} {sink sink' : Sink} (hsink : h.Opens s sink)
    (hsink' : h.Opens s sink') : sink = sink' := by
  cases hsink with
  | stdout output => cases hsink' <;> simp_all
  | stderr output => cases hsink' <;> simp_all
  | file output opened => cases hsink' <;> simp_all

/-- At most one log comes out. -/
theorem Ready.unique {h : Host} {s : LogSettings} {logger logger' : Logger}
    (hready : h.Ready s logger) (hready' : h.Ready s logger') : logger = logger' := by
  have hfilter := Except.ok.inj (hready.filter.symm.trans hready'.filter)
  have hlayout := hready.layout.trans hready'.layout.symm
  have hsink := hready.sink.unique hready'.sink
  cases logger
  cases logger'
  simp_all

/-- Settings that fail in a stage do not pass all stages. -/
theorem FirstFault.not_ready {h : Host} {s : LogSettings} {fault : Fault}
    (hfault : h.FirstFault s fault) (logger : Logger) : ¬ h.Ready s logger := by
  intro hready
  cases hfault with
  | issue found => exact nomatch found.symm.trans hready.valid
  | filter _ unbuilt => exact nomatch unbuilt.symm.trans hready.filter
  | file _ _ output unopened =>
    have hsink := hready.sink
    generalize logger.sink = sink at hsink
    cases hsink with
    | stdout other => exact absurd (output.symm.trans other) (by decide)
    | stderr other => exact absurd (output.symm.trans other) (by decide)
    | file _ opened => exact nomatch unopened.symm.trans opened

/-- Opening a file changes the file tree only. -/
theorem openFile_fst (h : Host) (path : String) : ∃ files,
    (h.openFile path).1 = { h with world := { h.world with files } } := by
  rw [openFile]
  split
  · exact ⟨_, rfl⟩
  · split
    · exact ⟨_, rfl⟩
    · exact ⟨_, rfl⟩

/-- Opening a sink changes the file tree only. -/
theorem openSink_fst (h : Host) (s : LogSettings) : ∃ files,
    (h.openSink s).1 = { h with world := { h.world with files } } := by
  rw [openSink]
  split
  · exact ⟨_, rfl⟩
  · split
    · exact ⟨_, rfl⟩
    · have hfile := h.openFile_fst s.file
      split <;> rename_i hopen <;> rwa [hopen] at hfile

/-- The output of settings without issue is opened as a sink, unless it is a file that cannot be
opened. -/
theorem openSink_cases (h : Host) {s : LogSettings} (hvalid : s.issue? = none) :
    (∃ sink, (h.openSink s).2 = .ok sink ∧ h.Opens s sink) ∨
      ∃ fault, (h.openSink s).2 = .error fault ∧ s.output = "file" ∧
        (h.openFile s.file).2 = .error fault := by
  have houtput : s.output ∈ outputWords := by
    by_contra hnot
    rw [LogSettings.issue?] at hvalid
    split_ifs at hvalid
  rw [openSink]
  split
  · rename_i hstdout
    exact .inl ⟨_, rfl, .stdout hstdout⟩
  · rename_i hstdout
    split
    · rename_i hstderr
      exact .inl ⟨_, rfl, .stderr hstderr⟩
    · rename_i hstderr
      have hfile : s.output = "file" := by simpa [outputWords, hstdout, hstderr] using houtput
      cases hopen : h.openFile s.file with
      | mk opened result =>
        cases result with
        | ok place => exact .inl ⟨.file place, rfl, .file hfile (by rw [hopen])⟩
        | error fault => exact .inr ⟨fault, rfl, hfile, rfl⟩

/-- An attempt with settings that are switched off does nothing. -/
theorem setUpLog_of_disabled {h : Host} {settings : Option LogSettings}
    (hdisabled : (h.inForce settings).enabled = false) :
    h.setUpLog settings = (h, .ok ()) := by
  rw [inForce] at hdisabled
  simp [setUpLog, hdisabled]

/-- A log that is installed takes the place if that is still free. -/
theorem install_eq (h : Host) (logger : Logger) : (h.install logger).2 = h.verdict ∧
    (h.install logger).1 = { h with
      logger := some (h.logger.getD logger), forwarded := h.forwarded || h.logger.isNone } := by
  obtain ⟨world, installed, stdout, stderr, forwarded, against⟩ := h
  cases installed with
  | some other => simp [install, verdict]
  | none => cases forwarded <;> simp [install, verdict]

/-- An attempt that passes all stages and succeeds found the place of the log free. -/
theorem logger_of_verdict {h : Host} (hsucceeds : h.verdict = .ok ()) : h.logger = none := by
  rw [verdict] at hsucceeds
  cases hlogger : h.logger with
  | none => rfl
  | some installed =>
    rw [hlogger] at hsucceeds
    cases hsucceeds

/-- An attempt with settings that are switched on either fails in the first stage that they do not
pass, and changes the file tree only, or passes all stages; then its log takes the place if that is
still free. -/
theorem setUpLog_cases {h : Host} {settings : Option LogSettings}
    (henabled : (h.inForce settings).enabled = true) :
    (∃ fault, h.FirstFault (h.inForce settings) fault ∧ (h.setUpLog settings).2 = .error fault ∧
        ∃ files, (h.setUpLog settings).1 = { h with world := { h.world with files } }) ∨
      ∃ logger, h.Ready (h.inForce settings) logger ∧ (h.setUpLog settings).2 = h.verdict ∧
        (h.setUpLog settings).1.logger = some (h.logger.getD logger) := by
  have hs : settings.getD (.default h.world.environment) = h.inForce settings := rfl
  generalize h.inForce settings = s at *
  simp only [setUpLog, hs, henabled, Bool.not_true, Bool.false_eq_true, if_false]
  cases hissue : s.issue? with
  | some issue => exact .inl ⟨_, .issue hissue, rfl, _, rfl⟩
  | none =>
    cases hfilter : Filter.choose h.against h.world.environment s with
    | error fault => exact .inl ⟨_, .filter hissue hfilter, rfl, _, rfl⟩
    | ok filter =>
      have hsink := h.openSink_cases hissue
      obtain ⟨files, hfiles⟩ := h.openSink_fst s
      cases hopen : h.openSink s with
      | mk opened result =>
        rw [hopen] at hfiles hsink
        subst hfiles
        rcases hsink with ⟨sink, rfl, hopens⟩ | ⟨fault, rfl, houtput, hunopened⟩
        · obtain ⟨hresult, hhost⟩ := install_eq { h with world := { h.world with files } }
            ⟨filter, layoutOf s, sink⟩
          refine .inr ⟨⟨filter, layoutOf s, sink⟩, ⟨hissue, hfilter, hopens, rfl⟩, hresult, ?_⟩
          exact congrArg Host.logger hhost
        · exact .inl ⟨fault, .file hissue hfilter houtput hunopened, rfl, files, rfl⟩

/-! ## Histories -/

/-- The first attempt of a history that passes all stages, and the log that it puts into place. -/
inductive FirstPass : Host → List Happening → Logger → Prop where
  /-- It is the first thing that happens. -/
  | here {h : Host} {settings : Option LogSettings} {logger : Logger} {rest : List Happening}
    (passes : h.Passes settings logger) : FirstPass h (.setUp settings :: rest) logger
  /-- It happens later: the first thing that happens is no attempt, or one that does not pass. -/
  | later {h : Host} {happening : Happening} {rest : List Happening} {logger : Logger}
    (fails : ∀ settings other, happening = .setUp settings → ¬ h.Passes settings other)
    (pass : FirstPass (h.after happening) rest logger) : FirstPass h (happening :: rest) logger

/-- Reporting a record changes no log. -/
theorem logger_write (h : Host) (time : String) (r : Record) :
    (h.write time r).logger = h.logger := by
  rw [write]
  split
  · rfl
  · split
    · rename_i logger _ _
      cases logger.sink <;> rfl
    · rfl

/-- A log that is in its place stays there, whatever happens next. -/
theorem logger_after {h : Host} {logger : Logger} (hlogger : h.logger = some logger)
    (happening : Happening) : (h.after happening).logger = some logger := by
  cases happening with
  | setUp settings =>
    rw [after]
    cases henabled : (h.inForce settings).enabled with
    | false => rw [setUpLog_of_disabled henabled, hlogger]
    | true =>
      rcases setUpLog_cases henabled with ⟨-, -, -, files, hkept⟩ | ⟨other, -, -, hkept⟩
      · rw [hkept]
        exact hlogger
      · rw [hkept, hlogger, Option.getD_some]
  | report time record => exact (h.logger_write time record).trans hlogger
  | change world => exact hlogger

/-- So it stays there for good. -/
theorem logger_run_of_installed {h : Host} {logger : Logger} (hlogger : h.logger = some logger)
    (history : List Happening) : (h.run history).logger = some logger := by
  induction history generalizing h with
  | nil => exact hlogger
  | cons happening rest ih => exact ih (logger_after hlogger happening)

/-- An attempt that passes all stages puts its log into a free place. -/
theorem setUpLog_of_passes {h : Host} (hfree : h.Free) {settings : Option LogSettings}
    {logger : Logger} (hpasses : h.Passes settings logger) :
    (h.setUpLog settings).2 = .ok () ∧ (h.setUpLog settings).1.logger = some logger := by
  obtain ⟨henabled, hready⟩ := hpasses
  rcases setUpLog_cases henabled with ⟨fault, hfault, -, -⟩ | ⟨other, hother, hresult, hlogger⟩
  · exact absurd hready (hfault.not_ready logger)
  · rw [hresult, hlogger, verdict, hfree.logger, hfree.forwarded, hready.unique hother]
    exact ⟨rfl, rfl⟩

/-- What happens leaves the places free, unless it is an attempt that passes all stages. -/
theorem Free.after {h : Host} (hfree : h.Free) {happening : Happening}
    (hfails : ∀ settings logger, happening = .setUp settings → ¬ h.Passes settings logger) :
    (h.after happening).Free := by
  cases happening with
  | setUp settings =>
    rw [Host.after]
    cases henabled : (h.inForce settings).enabled with
    | false =>
      rw [setUpLog_of_disabled henabled]
      exact hfree
    | true =>
      rcases setUpLog_cases henabled with ⟨-, -, -, files, hkept⟩ | ⟨logger, hready, -, -⟩
      · rw [hkept]
        exact ⟨hfree.logger, hfree.forwarded⟩
      · exact absurd ⟨henabled, hready⟩ (hfails settings logger rfl)
  | report time record =>
    have hkept : h.after (.report time record) = h := by
      simp only [Host.after, write, hfree.logger]
    rw [hkept]
    exact hfree
  | change world => exact ⟨hfree.logger, hfree.forwarded⟩

/-- The places stay free as long as no attempt passes all stages. -/
theorem Free.run {h : Host} (hfree : h.Free) {history : List Happening}
    (hnone : ∀ logger, ¬ FirstPass h history logger) : (h.run history).Free := by
  induction history generalizing h with
  | nil => exact hfree
  | cons happening rest ih =>
    have hfails : ∀ settings logger, happening = .setUp settings → ¬ h.Passes settings logger := by
      rintro settings logger rfl hpasses
      exact hnone logger (.here hpasses)
    exact ih (hfree.after hfails) fun logger hpass => hnone logger (.later hfails hpass)

/-- From free places on, the first attempt that passes all stages puts its log into place for
good. -/
theorem FirstPass.logger_run {h : Host} (hfree : h.Free) {history : List Happening}
    {logger : Logger} (hpass : FirstPass h history logger) :
    (h.run history).logger = some logger := by
  induction hpass with
  | here passes => exact logger_run_of_installed (setUpLog_of_passes hfree passes).2 _
  | later fails _ ih => exact ih (hfree.after fails)

/-- From free places on, the log is the one of the first attempt that passes all stages. -/
theorem logger_run_iff {h : Host} (hfree : h.Free) {history : List Happening}
    {logger : Logger} : (h.run history).logger = some logger ↔ FirstPass h history logger := by
  constructor
  · intro hlogger
    have hpass : ∃ first, FirstPass h history first := by
      by_contra hnone
      rw [(hfree.run (not_exists.mp hnone)).logger] at hlogger
      cases hlogger
    obtain ⟨first, hfirst⟩ := hpass
    obtain rfl := Option.some.inj (hlogger.symm.trans (hfirst.logger_run hfree))
    exact hfirst
  · exact fun hpass => hpass.logger_run hfree

/-! ## What becomes of attempts and records -/

/-- Two hosts differ at most in what one sink holds. -/
structure SameBut (sink : Sink) (h h' : Host) : Prop where
  /-- The log is the same. -/
  logger : h'.logger = h.logger
  /-- The records of the `log` interface go where they went. -/
  forwarded : h'.forwarded = h.forwarded
  /-- The same speaks against values. -/
  against : h'.against = h.against
  /-- The standard output is the same, unless it is the sink. -/
  stdout : sink ≠ .stdout → h'.stdout = h.stdout
  /-- The standard error is the same, unless it is the sink. -/
  stderr : sink ≠ .stderr → h'.stderr = h.stderr
  /-- All files are the same, unless one is the sink. -/
  files : ∀ place, sink ≠ .file place →
    h'.world.files.get? place = h.world.files.get? place
  /-- The rest of the surroundings is the same. -/
  surroundings : h'.world.cwd = h.world.cwd ∧ h'.world.environment = h.world.environment

theorem SameBut.refl (sink : Sink) (h : Host) : h.SameBut sink h :=
  ⟨rfl, rfl, rfl, fun _ => rfl, fun _ => rfl, fun _ _ => rfl, rfl, rfl⟩

/-- Writing to a sink changes that sink only. -/
theorem sameBut_put (h : Host) (sink : Sink) (text : String) :
    h.SameBut sink (h.put sink text) := by
  cases sink with
  | stdout =>
    exact ⟨rfl, rfl, rfl, fun hne => absurd rfl hne, fun _ => rfl, fun _ _ => rfl, rfl, rfl⟩
  | stderr =>
    exact ⟨rfl, rfl, rfl, fun _ => rfl, fun hne => absurd rfl hne, fun _ _ => rfl, rfl, rfl⟩
  | file place =>
    refine ⟨rfl, rfl, rfl, fun _ => rfl, fun _ => rfl, fun other hne => ?_, rfl, rfl⟩
    have hother : other ≠ place := fun heq => hne (heq ▸ rfl)
    exact h.world.files.get?_append_of_ne hother text

/-- What becomes of attempts to set up the log, and of records, after some history. -/
structure InstallsOnce (start : Host) (history : List Happening) : Prop where
  /-- An attempt with settings that are switched off is told nothing, and does nothing. -/
  disabled : ∀ settings, ((start.run history).inForce settings).enabled = false →
    (start.run history).told settings = .ok () ∧
      (start.run history).after (.setUp settings) = start.run history
  /-- The first attempt that passes all stages is told that the log is set up. -/
  first : (∀ logger, ¬ start.FirstPass history logger) → ∀ settings logger,
    (start.run history).Passes settings logger → (start.run history).told settings = .ok ()
  /-- An attempt before it is told the fault of the first stage that it does not pass. -/
  fails : (∀ logger, ¬ start.FirstPass history logger) → ∀ settings,
    ((start.run history).inForce settings).enabled = true →
      (∀ logger, ¬ (start.run history).Passes settings logger) →
        ∃ fault, (start.run history).FirstFault ((start.run history).inForce settings) fault ∧
          (start.run history).told settings = .error (.logging fault.message)
  /-- An attempt after it is refused. -/
  refuses : ∀ logger, start.FirstPass history logger → ∀ settings,
    ((start.run history).inForce settings).enabled = true →
      ∃ reason, (start.run history).told settings = .error (.logging reason)
  /-- Before it no record is written. -/
  silent : (∀ logger, ¬ start.FirstPass history logger) → ∀ time r,
    (start.run history).after (.report time r) = start.run history
  /-- After it a record that its filter lets pass is written in its layout to its sink, and nothing
  else is changed. -/
  written : ∀ logger, start.FirstPass history logger → ∀ time r,
    (start.run history).after (.report time r) =
        (if logger.filter.admits r then
          (start.run history).put logger.sink (logger.layout.line time r)
        else start.run history) ∧
      (start.run history).SameBut logger.sink ((start.run history).after (.report time r))

/-- Whatever happens to a host that starts without a log, and without another place for the records
of the `log` interface, its log is set up at most once. -/
theorem installsOnce (world : World) (stdout stderr : String) (against : Objections)
    (history : List Happening) : InstallsOnce { world, stdout, stderr, against } history := by
  have hstart : Free { world, stdout, stderr, against } := ⟨rfl, rfl⟩
  generalize ({ world, stdout, stderr, against } : Host) = start at *
  have hrun (logger : Logger) :
      (start.run history).logger = some logger ↔ FirstPass start history logger :=
    logger_run_iff hstart
  have hfree (hnone : ∀ logger, ¬ start.FirstPass history logger) : (start.run history).Free :=
    hstart.run hnone
  constructor
  case disabled =>
    intro settings hdisabled
    rw [told, after, setUpLog_of_disabled hdisabled]
    exact ⟨rfl, rfl⟩
  case first =>
    intro hnone settings logger hpasses
    rw [told, (setUpLog_of_passes (hfree hnone) hpasses).1]
    rfl
  case fails =>
    intro _ settings henabled hnot
    rcases setUpLog_cases henabled with ⟨fault, hfault, hresult, -⟩ | ⟨logger, hready, -⟩
    · refine ⟨fault, hfault, ?_⟩
      rw [told, hresult]
      rfl
    · exact absurd ⟨henabled, hready⟩ (hnot logger)
  case refuses =>
    intro logger hfirst settings henabled
    have hinstalled := (hrun logger).mpr hfirst
    rcases setUpLog_cases henabled with ⟨fault, -, hresult, -⟩ | ⟨other, -, hresult, -⟩
    · refine ⟨fault.message, ?_⟩
      rw [told, hresult]
      rfl
    · refine ⟨Fault.taken.message, ?_⟩
      rw [told, hresult, verdict, hinstalled]
      rfl
  case silent =>
    intro hnone time r
    simp only [after, write, (hfree hnone).logger]
  case written =>
    intro logger hfirst time r
    have hwrite : (start.run history).after (.report time r) =
        if logger.filter.admits r then
          (start.run history).put logger.sink (logger.layout.line time r)
        else start.run history := by
      simp only [after, write, (hrun logger).mpr hfirst]
    refine ⟨hwrite, ?_⟩
    rw [hwrite]
    split
    · exact sameBut_put _ _ _
    · exact .refl _ _

end Host

end Log

end TelemetryGate
