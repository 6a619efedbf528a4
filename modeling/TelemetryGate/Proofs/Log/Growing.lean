import TelemetryGate.Proofs.Filesystem.Making
import TelemetryGate.Proofs.Log.Installing
import TelemetryGate.Proofs.Log.Lines

/-!
# What a log holds

Setting up a log opens its sink. From then on the sink stays open, whatever else is tried, and what
it holds only grows: by the line of each record that the filter lets pass.
-/

namespace TelemetryGate.Log.Host

/-- What a sink holds, if it is open. -/
def held? (h : Host) : Sink → Option ByteArray
  | .stdout => some h.stdout.toUTF8
  | .stderr => some h.stderr.toUTF8
  | .file place =>
    match h.world.files.get? place with
    | some (.file content) => some content
    | _ => none

/-- A log is installed, and its sink is open. -/
structure Logs (h : Host) (logger : Logger) : Prop where
  /-- The log is in its place. -/
  installed : h.logger = some logger
  /-- The sink holds something. -/
  opened : (h.held? logger.sink).isSome

/-- One host is left with all that the sinks of another one hold. -/
structure Leaves (h h' : Host) : Prop where
  /-- The standard output is the same. -/
  stdout : h'.stdout = h.stdout
  /-- The standard error is the same. -/
  stderr : h'.stderr = h.stderr
  /-- Every file is there. -/
  files : h.world.files.Keeps h'.world.files

theorem Leaves.refl (h : Host) : h.Leaves h := ⟨rfl, rfl, .refl _⟩

theorem Leaves.held? {h h' : Host} (hleaves : h.Leaves h') {sink : Sink} {content : ByteArray}
    (hheld : h.held? sink = some content) : h'.held? sink = some content := by
  cases sink with
  | stdout =>
    rw [Host.held?, hleaves.stdout]
    exact hheld
  | stderr =>
    rw [Host.held?, hleaves.stderr]
    exact hheld
  | file place =>
    rw [Host.held?] at hheld ⊢
    split at hheld
    · rename_i found hfound
      rw [hleaves.files place _ hfound]
      exact hheld
    · cases hheld

/-- Opening a file leaves what sinks hold, and the file is open. -/
theorem openFile_leaves (h : Host) (path : String) : h.Leaves (h.openFile path).1 ∧
    ∀ place, (h.openFile path).2 = .ok place →
      ((h.openFile path).1.held? (.file place)).isSome := by
  have hparents := (h.world.files.makeParents_made h.world.cwd path).keeps
  rw [openFile]
  split
  · rename_i files fault hmade
    rw [hmade] at hparents
    refine ⟨⟨rfl, rfl, hparents⟩, ?_⟩
    rintro place ⟨⟩
  · rename_i files hmade
    rw [hmade] at hparents
    split
    · refine ⟨⟨rfl, rfl, hparents⟩, ?_⟩
      rintro place ⟨⟩
    · rename_i opened place hopened
      obtain ⟨hkeeps, content, hcontent⟩ := Filesystem.Tree.openAppend_keeps hopened
      refine ⟨⟨rfl, rfl, hparents.trans hkeeps⟩, ?_⟩
      rintro other ⟨⟩
      simp only [held?, hcontent]
      rfl

/-- Opening a sink leaves what sinks hold, and the sink is open. -/
theorem openSink_leaves (h : Host) (s : LogSettings) : h.Leaves (h.openSink s).1 ∧
    ∀ sink, (h.openSink s).2 = .ok sink → ((h.openSink s).1.held? sink).isSome := by
  have hfile := h.openFile_leaves s.file
  rw [openSink]
  split
  · refine ⟨.refl h, ?_⟩
    rintro sink ⟨⟩
    rfl
  · split
    · refine ⟨.refl h, ?_⟩
      rintro sink ⟨⟩
      rfl
    · split
      · rename_i opened place hopened
        rw [hopened] at hfile
        refine ⟨hfile.1, ?_⟩
        rintro sink ⟨⟩
        exact hfile.2 place rfl
      · rename_i opened fault hopened
        rw [hopened] at hfile
        refine ⟨hfile.1, ?_⟩
        rintro sink ⟨⟩

/-- An attempt to set up the log leaves what sinks hold. If it is told that the log is set up, and
the settings are switched on, then a log is installed and its sink is open. -/
theorem setUpLog_leaves (h : Host) (settings : Option LogSettings) :
    h.Leaves (h.setUpLog settings).1 ∧
      ((h.inForce settings).enabled = true → (h.setUpLog settings).2 = .ok () →
        ∃ logger, (h.setUpLog settings).1.Logs logger) := by
  have hs : settings.getD (.default h.world.environment) = h.inForce settings := rfl
  generalize h.inForce settings = s at *
  obtain ⟨hleaves, hopen⟩ := h.openSink_leaves s
  simp only [setUpLog, hs]
  cases henabled : s.enabled with
  | false => exact ⟨.refl h, fun hoff => by cases hoff⟩
  | true =>
    simp only [Bool.not_true, Bool.false_eq_true, if_false]
    cases s.issue? with
    | some issue => exact ⟨.refl h, fun _ hfault => by cases hfault⟩
    | none =>
      cases Filter.choose h.against h.world.environment s with
      | error fault => exact ⟨.refl h, fun _ hfault => by cases hfault⟩
      | ok filter =>
        cases hsink : h.openSink s with
        | mk opened result =>
          rw [hsink] at hleaves hopen
          cases result with
          | error fault => exact ⟨hleaves, fun _ hfault => by cases hfault⟩
          | ok sink =>
            obtain ⟨hresult, hhost⟩ := opened.install_eq ⟨filter, layoutOf s, sink⟩
            change h.Leaves (opened.install _).1 ∧ (_ → (opened.install _).2 = _ → _)
            rw [hresult, hhost]
            refine ⟨⟨hleaves.stdout, hleaves.stderr, hleaves.files⟩, fun _ hsucceeds => ?_⟩
            have hfree := logger_of_verdict hsucceeds
            rw [hfree]
            exact ⟨⟨filter, layoutOf s, sink⟩, rfl, hopen sink rfl⟩

/-- A text that is written to an open sink is appended to what it holds. -/
theorem held?_put {h : Host} {sink : Sink} {content : ByteArray}
    (hheld : h.held? sink = some content) (text : String) :
    (h.put sink text).held? sink = some (content ++ text.toUTF8) := by
  cases sink with
  | stdout =>
    cases hheld
    exact congrArg some String.toByteArray_append
  | stderr =>
    cases hheld
    exact congrArg some String.toByteArray_append
  | file place =>
    rw [held?] at hheld
    split at hheld
    · rename_i found hfound
      cases hheld
      have hroot : place ≠ [] := by
        rintro rfl
        cases hfound
      have happend : (h.world.files.append place text).get? place =
          some (.file (content ++ text.toUTF8)) := by
        rw [Filesystem.Tree.append, hfound]
        exact h.world.files.get?_set_self hroot _
      simp only [put, held?, happend]
    · cases hheld

/-- A log whose sink is open stays so, whatever is tried and reported. -/
theorem Logs.setUpLog {h : Host} {logger : Logger} (hlogs : h.Logs logger)
    (settings : Option LogSettings) : (h.setUpLog settings).1.Logs logger := by
  obtain ⟨content, hcontent⟩ := Option.isSome_iff_exists.mp hlogs.opened
  refine ⟨logger_after hlogs.installed (.setUp settings), ?_⟩
  rw [(h.setUpLog_leaves settings).1.held? hcontent]
  rfl

/-- A record that the filter lets pass is written to the sink as one line. -/
theorem Logs.held?_write {h : Host} {logger : Logger} (hlogs : h.Logs logger) {r : Record}
    (hadmits : logger.filter.admits r = true) {content : ByteArray}
    (hheld : h.held? logger.sink = some content) (time : String) :
    (h.write time r).held? logger.sink = some (content ++ (logger.layout.line time r).toUTF8) := by
  simp only [Host.write, hlogs.installed, if_pos hadmits]
  exact held?_put hheld _

theorem Logs.write {h : Host} {logger : Logger} (hlogs : h.Logs logger) (time : String)
    (r : Record) : (h.write time r).Logs logger := by
  refine ⟨(h.logger_write time r).trans hlogs.installed, ?_⟩
  cases hadmits : logger.filter.admits r with
  | true =>
    obtain ⟨content, hcontent⟩ := Option.isSome_iff_exists.mp hlogs.opened
    rw [hlogs.held?_write hadmits hcontent time]
    rfl
  | false =>
    simp only [Host.write, hlogs.installed, hadmits, Bool.false_eq_true, if_false]
    exact hlogs.opened

/-- What a sink holds grows by some lines, each of which is one text without line breaks and a line
feed. -/
structure GrowsByLines (h h' : Host) (sink : Sink) (lines : List String) : Prop where
  /-- The lines come behind what the sink holds. -/
  appended : ∃ content, h.held? sink = some content ∧
    h'.held? sink = some (content ++ (String.join (lines.map (· ++ "\n"))).toUTF8)
  /-- No line has a line break of its own. -/
  unbroken : ∀ line ∈ lines, Text.Unbroken line.toList

end TelemetryGate.Log.Host
