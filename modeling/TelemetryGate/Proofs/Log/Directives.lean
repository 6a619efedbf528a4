import TelemetryGate.Log.Filter
import TelemetryGate.Proofs.Text.Cutting
import TelemetryGate.Proofs.Text.Trimming
import TelemetryGate.Settings.Validation

/-!
# Directives of settings

The settings of a log name levels by words, and modules by names. A word alone is read as a
threshold for all records, and a plain module name with a word as a directive for that module.
-/

namespace TelemetryGate

namespace Log

/-! ## The words for levels -/

/-- The word for a level in settings. -/
def Level.word : Level → String
  | .trace => "trace"
  | .debug => "debug"
  | .info => "info"
  | .warn => "warn"
  | .error => "error"

/-- The word for a threshold in settings. -/
def Threshold.word : Threshold → String
  | .off => "off"
  | .atLeast least => least.word

/-- A word lets a level pass: it names a level that is at most as severe. -/
def LetsPass (word : String) (level : Level) : Prop :=
  ∃ least : Level, least.word = word ∧ least.rank ≤ level.rank

/-- The words that settings may use are those for thresholds. -/
theorem exists_word_eq {word : String} (h : word ∈ levelWords) :
    ∃ t : Threshold, t.word = word := by
  simp only [levelWords, List.mem_cons, List.not_mem_nil, or_false] at h
  rcases h with rfl | rfl | rfl | rfl | rfl | rfl
  · exact ⟨.atLeast .trace, rfl⟩
  · exact ⟨.atLeast .debug, rfl⟩
  · exact ⟨.atLeast .info, rfl⟩
  · exact ⟨.atLeast .warn, rfl⟩
  · exact ⟨.atLeast .error, rfl⟩
  · exact ⟨.off, rfl⟩

theorem Level.word_ne_off (l : Level) : l.word ≠ "off" := by
  cases l <;> decide

/-- The word for a threshold is read as that threshold. -/
@[simp]
theorem Threshold.ofText?_word (t : Threshold) : Threshold.ofText? t.word = some t := by
  rcases t with _ | (_ | _ | _ | _ | _) <;> decide

/-- Thresholds are told apart by their words. -/
theorem Threshold.word_injective {t t' : Threshold} (h : t.word = t'.word) : t = t' := by
  have hread := t.ofText?_word
  rw [h, t'.ofText?_word] at hread
  exact (Option.some.inj hread).symm

/-- A threshold admits the levels that its word lets pass. -/
theorem letsPass_word_iff {t : Threshold} {level : Level} :
    LetsPass t.word level ↔ t.admits level = true := by
  cases t with
  | off =>
    constructor
    · rintro ⟨least, hword, -⟩
      exact absurd hword least.word_ne_off
    · exact nofun
  | atLeast other =>
    rw [Threshold.admits, decide_eq_true_eq]
    constructor
    · rintro ⟨least, hword, hle⟩
      have hsame : Threshold.atLeast least = .atLeast other := Threshold.word_injective hword
      rwa [← Threshold.atLeast.inj hsame]
    · exact fun hle => ⟨other, rfl, hle⟩

theorem Threshold.word_ne_empty (t : Threshold) : t.word ≠ "" := by
  rcases t with _ | (_ | _ | _ | _ | _) <;> decide

/-- A lone word makes a filter with one rule, which covers every record. -/
theorem Filter.ofText_word (against : Objections) (t : Threshold) :
    Filter.ofText against t.word = .ok ⟨[⟨none, [], t⟩]⟩ := by
  rcases t with _ | (_ | _ | _ | _ | _) <;> rfl

/-! ## Plain names -/

/-- A letter or digit of ASCII, an underscore or a colon. -/
def isPlain (c : Char) : Bool := c.isAlphanum || c = '_' || c = ':'

/-- A module name of plain characters. -/
structure PlainName (name : String) : Prop where
  /-- There is a character. -/
  nonempty : name ≠ ""
  /-- All characters are plain. -/
  plain : ∀ c ∈ name.toList, isPlain c = true

/-- Where the letters and digits of ASCII stand. -/
theorem toNat_of_isAlphanum {c : Char} (h : c.isAlphanum = true) :
    48 ≤ c.toNat ∧ c.toNat ≤ 57 ∨ 65 ≤ c.toNat ∧ c.toNat ≤ 90 ∨ 97 ≤ c.toNat ∧ c.toNat ≤ 122 := by
  rcases Bool.or_eq_true_iff.mp h with halpha | hdigit
  · rcases Bool.or_eq_true_iff.mp halpha with hupper | hlower
    · exact .inr (.inl (of_decide_eq_true hupper))
    · obtain ⟨hlow, hhigh⟩ := Bool.and_eq_true_iff.mp hlower
      exact .inr (.inr ⟨of_decide_eq_true hlow, of_decide_eq_true hhigh⟩)
  · obtain ⟨hlow, hhigh⟩ := Bool.and_eq_true_iff.mp hdigit
    exact .inl ⟨of_decide_eq_true hlow, of_decide_eq_true hhigh⟩

/-- A plain character is not blank. -/
theorem isBlank_of_isPlain {c : Char} (h : isPlain c = true) : Text.isBlank c = false := by
  simp only [isPlain, Bool.or_eq_true, decide_eq_true_eq] at h
  rcases h with (halnum | rfl) | rfl
  · have hplace := toNat_of_isAlphanum halnum
    simp only [Text.isBlank, Text.blankRanges, Text.inRanges, Text.CharRange.contains]
    grind
  · decide
  · decide

/-- A plain character can start a target. -/
theorem startsTarget_of_isPlain {c : Char} (h : isPlain c = true) :
    Directive.startsTarget c = true := by
  simp only [isPlain, Bool.or_eq_true, decide_eq_true_eq] at h
  rcases h with (halnum | rfl) | rfl
  · have hplace := toNat_of_isAlphanum halnum
    -- The table of letters and digits begins with those of ASCII.
    have htable : Text.alphanumeric =
        ⟨0x30, 0x39⟩ :: ⟨0x41, 0x5A⟩ :: ⟨0x61, 0x7A⟩ :: Text.alphanumeric.drop 3 := rfl
    have hletter : Text.isAlphanumeric c = true := by
      rw [Text.isAlphanumeric, htable]
      simp only [Text.inRanges, Text.CharRange.contains]
      generalize Text.inRanges c _ = rest
      grind
    rw [Directive.startsTarget, hletter, Bool.or_true]
  · rfl
  · rfl

/-- A plain character is none of those that end a target. -/
theorem ne_of_isPlain {c : Char} (h : isPlain c = true) : c ≠ '=' ∧ c ≠ '[' ∧ c ≠ ',' := by
  refine ⟨?_, ?_, ?_⟩ <;> rintro rfl <;> exact absurd h (by decide)

/-- The words for thresholds are plain. -/
theorem Threshold.plainName_word (t : Threshold) : PlainName t.word := by
  refine ⟨t.word_ne_empty, List.all_eq_true.mp ?_⟩
  rcases t with _ | (_ | _ | _ | _ | _) <;> decide

/-! ## Reading the directive of a module -/

namespace Directive

variable {against : Objections}

/-- Scanning goes over characters that change nothing. -/
theorem run_of_stays {source : String} {s : Scan} {cs : List Char}
    (hstays : ∀ c ∈ cs, ∀ place, Scan.step against source s place c = .ok s) (place : Nat)
    (rest : List Char) :
    Scan.run against source s place (cs ++ rest) =
      Scan.run against source s (place + Text.byteLength cs) rest := by
  induction cs generalizing place with
  | nil => rfl
  | cons c cs ih =>
    rw [List.cons_append, Scan.run, hstays c List.mem_cons_self, Text.byteLength_cons,
      ← Nat.add_assoc]
    exact ih (fun c hc => hstays c (List.mem_cons_of_mem _ hc)) _

/-- If it goes over all characters, it ends as it began. -/
theorem run_eq_of_stays {source : String} {s : Scan} {cs : List Char}
    (hstays : ∀ c ∈ cs, ∀ place, Scan.step against source s place c = .ok s) (place : Nat) :
    Scan.run against source s place cs = .ok s := by
  rw [← List.append_nil cs, run_of_stays hstays]
  rfl

/-- Plain characters go on with a target. -/
theorem step_word (source : String) (start : Nat) (d : Directive) {c : Char}
    (hc : isPlain c = true) (place : Nat) :
    Scan.step against source ⟨.word start, d⟩ place c = .ok ⟨.word start, d⟩ := by
  obtain ⟨hequals, hbracket, hcomma⟩ := ne_of_isPlain hc
  simp only [Scan.step, if_neg hequals, if_neg hbracket, if_neg hcomma]

/-- Plain characters go on with a threshold. -/
theorem step_threshold (source : String) (start : Nat) (d : Directive) {c : Char}
    (hc : isPlain c = true) (place : Nat) :
    Scan.step against source ⟨.threshold start, d⟩ place c = .ok ⟨.threshold start, d⟩ := by
  obtain ⟨-, -, hcomma⟩ := ne_of_isPlain hc
  simp only [Scan.step, if_neg hcomma]

/-- What stands behind an equals sign can be cut out. -/
theorem sliceFrom_equals (name word : String) :
    Text.sliceFrom (name ++ "=" ++ word) (Text.byteLength name.toList + 1) = some word := by
  have hplace : Text.byteLength (name ++ "=").toList = Text.byteLength name.toList + 1 := by
    rw [String.toList_append]
    exact Text.byteLength_concat rfl _
  rw [← hplace]
  exact Text.sliceFrom_append _ _

/-- A scan of a plain name, an equals sign and a plain word ends in the word, with the name as the
target. -/
theorem run_plain (against : Objections) {source name word : String} (hname : PlainName name)
    (hword : PlainName word)
    (htext : source.toList = name.toList ++ '=' :: word.toList)
    (htarget : Text.slice source 0 (Text.byteLength name.toList) = some name) :
    Scan.run against source {} 0 source.toList =
      .ok ⟨.threshold (Text.byteLength name.toList + 1), { target := some name }⟩ := by
  have hplain := hname.plain
  rw [htext]
  cases hchars : name.toList with
  | nil => exact absurd (String.toList_eq_nil_iff.mp hchars) hname.nonempty
  | cons c cs =>
    rw [hchars] at hplain htarget
    have hcs : ∀ c ∈ cs, isPlain c = true := fun c hc => hplain c (List.mem_cons_of_mem _ hc)
    have hc := hplain c List.mem_cons_self
    have hfirst : Scan.step against source {} 0 c = .ok ⟨.word 0, {}⟩ := by
      simp only [Scan.step, if_neg (ne_of_isPlain hc).2.1, if_pos (startsTarget_of_isPlain hc)]
    have hequals : Scan.step against source ⟨.word 0, {}⟩ (Text.byteLength (c :: cs)) '=' =
        .ok ⟨.threshold (Text.byteLength (c :: cs) + 1), { target := some name }⟩ := by
      simp only [Scan.step, if_pos, htarget]
      rfl
    calc Scan.run against source {} 0 (c :: cs ++ '=' :: word.toList)
        = Scan.run against source ⟨.word 0, {}⟩ (0 + c.utf8Size) (cs ++ '=' :: word.toList) := by
          rw [List.cons_append, Scan.run, hfirst]
          rfl
      _ = Scan.run against source ⟨.word 0, {}⟩ (Text.byteLength (c :: cs))
            ('=' :: word.toList) := by
          rw [run_of_stays fun c hc => step_word source 0 {} (hcs c hc), Text.byteLength_cons,
            Nat.zero_add]
      _ = Scan.run against source
            ⟨.threshold (Text.byteLength (c :: cs) + 1), { target := some name }⟩
            (Text.byteLength (c :: cs) + Char.utf8Size '=') word.toList := by
          rw [Scan.run, hequals]
          rfl
      _ = _ := run_eq_of_stays (fun c hc => step_threshold source _ _ (hword.plain c hc)) _

end Directive

/-- The directive of a plain module name and the word for a threshold. -/
theorem Filter.moduleDirective_of_plain (against : Objections) {name : String}
    (h : PlainName name) (t : Threshold) :
    Filter.moduleDirective against name t.word = .ok ⟨some name, none, [], t⟩ := by
  have hword := t.plainName_word
  have htext : (name ++ "=" ++ t.word).toList = name.toList ++ '=' :: t.word.toList := by
    simp
  have htrim : Text.trim (name ++ "=" ++ t.word) = name ++ "=" ++ t.word := by
    apply Text.trim_eq_self
    rw [htext]
    intro c hc
    rcases List.mem_append.mp hc with hc | hc
    · exact isBlank_of_isPlain (h.plain c hc)
    · rcases List.mem_cons.mp hc with rfl | hc
      · decide
      · exact isBlank_of_isPlain (hword.plain c hc)
  have htarget : Text.slice (name ++ "=" ++ t.word) 0 (Text.byteLength name.toList) =
      some name := by
    rw [String.append_assoc]
    exact Text.slice_append _ _
  have hlevel := Directive.sliceFrom_equals name t.word
  rw [Filter.moduleDirective]
  generalize name ++ "=" ++ t.word = source at *
  have hrun := Directive.run_plain against h hword htext htarget
  have hfinish : Directive.Scan.finish source
      ⟨.threshold (Text.byteLength name.toList + 1), { target := some name }⟩ =
        .ok ⟨some name, none, [], t⟩ := by
    simp only [Directive.Scan.finish, hlevel]
    change Directive.withThreshold _ t.word = _
    rw [Directive.withThreshold, if_neg t.word_ne_empty, t.ofText?_word]
  rw [Directive.ofText, htrim, hrun]
  exact hfinish

end Log

end TelemetryGate
