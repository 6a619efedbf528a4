import TelemetryGate.Proofs.Log.Scanning

/-!
# Names of modules

The directive for a module is made of its name and the word for its level. It is made only if the
name is that of a module as a scan spells it: the threshold has to begin right behind the name, and
the phase before it tells what the name is. In the other direction the scan is followed along a name
part by part.
-/

namespace TelemetryGate
namespace Log

open Text (byteLength byteLength_cons byteLength_append)

/-- A number has no equals sign. -/
theorem Threshold.not_mem_of_number? {cs : List Char} {n : Nat}
    (h : Threshold.number? cs = some n) : '=' ∉ cs := by
  have hdigits {digits : List Char}
      (h : (if digits ≠ [] ∧ digits.all Char.isDigit then some (Text.decimal digits) else none) =
        some n) : '=' ∉ digits := by
    split at h
    · rename_i hall
      exact fun hmem => absurd (List.all_eq_true.mp hall.2 _ hmem) (by decide)
    · cases h
  by_cases hplus : ∃ rest, cs = '+' :: rest
  · obtain ⟨rest, rfl⟩ := hplus
    rw [List.mem_cons, not_or]
    exact ⟨by decide, hdigits h⟩
  · rw [not_exists] at hplus
    rw [Threshold.number?] at h
    · exact hdigits h
    · exact hplus

namespace Directive

variable {against : Objections}

/-- Of the text for a directive, blank characters before the name are dropped. -/
theorem toList_trim_equals (name : String) {word : String}
    (hword : ∀ c ∈ word.toList, isPlain c = true) :
    (Text.trim (name ++ "=" ++ word)).toList =
      Text.dropBlank name.toList ++ '=' :: word.toList := by
  refine Text.toList_trim (by simp) (List.cons_ne_nil _ _) fun c hc => ?_
  rcases List.mem_cons.mp hc with rfl | hc
  · decide
  · exact isBlank_of_isPlain (hword c hc)

/-! ## Which names come through -/

/-- Behind the start, plain characters change no phase. -/
theorem Moves.eq_of_isPlain {source : String} {place : Nat} {c : Char} {p p' : Phase}
    (hmoves : Moves against source place c p p') (hplain : isPlain c = true) (hp : p ≠ .start) :
    p' = p := by
  cases hmoves with
  | spanFirst => exact absurd rfl hp
  | wordStarts => exact absurd rfl hp
  | word => rfl
  | span => rfl
  | field => rfl
  | threshold => rfl
  | _ => subst c; exact absurd hplain (by decide)

/-- So they do not in a scan. -/
theorem phase_run_of_isPlain {source : String} {place : Nat} {word : List Char} {s s' : Scan}
    (hplain : ∀ c ∈ word, isPlain c = true) (hs : s.phase ≠ .start)
    (hrun : Scan.run against source s place word = .ok s') : s'.phase = s.phase := by
  induction word generalizing s place with
  | nil =>
    cases hrun
    rfl
  | cons c word ih =>
    obtain ⟨next, hnext, hrun⟩ := bind_eq_ok_iff.mp hrun
    have hsame := (moves_of_step hnext).eq_of_isPlain (hplain c List.mem_cons_self) hs
    rw [← hsame] at hs ⊢
    exact ih (fun d hd => hplain d (List.mem_cons_of_mem _ hd)) hs hrun

/-- A threshold begins in what was scanned. -/
theorem threshold_begun {source : String} {cs : List Char} {s : Scan}
    (hrun : Scan.run against source {} 0 cs = .ok s) {n : Nat} (hphase : s.phase = .threshold n) :
    n ≤ byteLength cs := by
  have hkept :=
    keeps_of_run (P := fun front p => ∀ n, p = .threshold n → n ≤ byteLength front) ?_ ?_ hrun
  · exact hkept n hphase
  · rintro front c back p p' - hfront hmoves n rfl
    have hpos := c.utf8Size_pos
    rw [byteLength_append, byteLength_cons, byteLength]
    cases hmoves with
    | wordLevel => omega
    | tailLevel => omega
    | threshold => exact (hfront n rfl).trans (by omega)
  · rintro n ⟨⟩

/-- No text of a threshold has an equals sign. -/
theorem not_mem_of_withThreshold {d d' : Directive} {s : String}
    (h : d.withThreshold s = .ok d') : '=' ∉ s.toList := by
  intro hmem
  rw [withThreshold] at h
  split at h
  · subst s
    cases hmem
  · split at h
    · rename_i t ht
      rw [Threshold.ofText?] at ht
      split at ht
      · rename_i n hn
        exact Threshold.not_mem_of_number? hn hmem
      · have hname := List.find?_some ht
        rw [decide_eq_true_eq] at hname
        have hmapped : '=' ∈ t.name.toList := by
          rw [hname, String.toList_ofList]
          exact List.mem_map.mpr ⟨'=', hmem, rfl⟩
        rcases t with _ | (_ | _ | _ | _ | _) <;> exact absurd hmapped (by decide)
    · cases h

/-- Behind a cut that leaves no equals sign there is none of a text. -/
theorem lt_of_not_mem {source rest : String} {n : Nat} {front back : List Char}
    (hcut : Text.sliceFrom source n = some rest) (hsource : source.toList = front ++ '=' :: back)
    (hnot : '=' ∉ rest.toList) : byteLength front < n := by
  rw [Text.sliceFrom, Option.map_eq_some_iff] at hcut
  obtain ⟨cs, hcs, rfl⟩ := hcut
  rw [String.toList_ofList] at hnot
  obtain ⟨before, hbefore, hn⟩ := Text.exists_of_dropBytes hcs
  rcases List.append_eq_append_iff.mp (hsource.symm.trans hbefore) with
    ⟨middle, rfl, hmiddle⟩ | ⟨middle, rfl, rfl⟩
  · cases middle with
    | nil =>
      rw [List.nil_append] at hmiddle
      exact absurd (hmiddle ▸ List.mem_cons_self) hnot
    | cons c middle =>
      have hpos := c.utf8Size_pos
      rw [byteLength_append, byteLength_cons] at hn
      omega
  · exact absurd (List.mem_append_right _ List.mem_cons_self) hnot

/-- A scan that ends in an equals sign and a plain word can be finished only in a threshold. -/
theorem threshold_of_finish {source : String} {core word : List Char} {s : Scan} {d : Directive}
    (hword : ∀ c ∈ word, isPlain c = true)
    (hrun : Scan.run against source {} 0 (core ++ '=' :: word) = .ok s)
    (hfinish : s.finish source = .ok d) :
    ∃ s' n rest, Scan.run against source {} 0 core = .ok s' ∧
      Moves against source (byteLength core) '=' s'.phase (.threshold n) ∧
      Text.sliceFrom source n = some rest ∧ '=' ∉ rest.toList := by
  rw [run_append, Nat.zero_add] at hrun
  obtain ⟨s', hcore, hrun⟩ := bind_eq_ok_iff.mp hrun
  obtain ⟨⟨phase, found⟩, hequals, hrun⟩ := bind_eq_ok_iff.mp hrun
  have hmoves := moves_of_step hequals
  have hphase : s.phase = phase := by
    refine phase_run_of_isPlain hword ?_ hrun
    rintro rfl
    generalize s'.phase = before at hmoves
    cases hmoves
  rw [← hphase] at hmoves
  generalize hbefore : s'.phase = before at hmoves
  rw [Scan.finish] at hfinish
  generalize hlast : s.phase = last at hmoves hfinish
  -- An equals sign leads to a threshold, or it stands in a span that is never closed.
  have hthreshold : ∃ n, last = .threshold n := by
    cases hmoves with
    | wordStarts hc => exact absurd hc (by decide +kernel)
    | wordLevel => exact ⟨_, rfl⟩
    | tailLevel => exact ⟨_, rfl⟩
    | threshold => exact ⟨_, rfl⟩
    | span => cases hfinish
    | field => cases hfinish
    | word hne => exact absurd rfl hne
    | _ hc => exact absurd hc (by decide)
  obtain ⟨n, rfl⟩ := hthreshold
  obtain ⟨rest, hrest, hlevel⟩ := bind_eq_ok_iff.mp hfinish
  rw [part_eq_ok_iff] at hrest
  exact ⟨s', n, rest, hcore, hbefore ▸ hmoves, hrest, not_mem_of_withThreshold hlevel⟩

/-- A directive for a name and a plain word is made only if the name is that of a module whose
fields are accepted. -/
theorem moduleName_of_ofText {name word : String} {d : Directive}
    (hword : ∀ c ∈ word.toList, isPlain c = true)
    (h : ofText against (name ++ "=" ++ word) = .ok d) :
    ModuleName (Accepts against) name.toList := by
  have hsource : (name ++ "=" ++ word).toList = name.toList ++ '=' :: word.toList := by simp
  have htrim := toList_trim_equals name hword
  generalize name ++ "=" ++ word = source at *
  generalize name.toList = core at *
  obtain ⟨s, hrun, hfinish⟩ := bind_eq_ok_iff.mp h
  rw [htrim] at hrun
  obtain ⟨s', n, rest, hcore, hmoves, hrest, hnot⟩ := threshold_of_finish hword hrun hfinish
  have hbehind := lt_of_not_mem hrest hsource hnot
  -- The threshold begins behind the name, so that there were no blank characters before it.
  have hspells (hn : n = byteLength (Text.dropBlank core) + 1) :
      Spells against core s'.phase := by
    have hcut := (Text.byteLength_dropBlank core).resolve_right (by omega)
    rw [hcut] at hcore
    exact spells_of_run hsource hcore
  generalize hphase : s'.phase = phase at hmoves hspells
  generalize hnext : Phase.threshold n = next at hmoves
  cases hmoves with
  | wordLevel =>
    cases hnext
    cases hspells rfl with
    | word target => exact .target target
  | tailLevel =>
    cases hnext
    cases hspells rfl with
    | tail name => exact name
  | threshold =>
    cases hnext
    have hbegun := threshold_begun hcore hphase
    rcases Text.byteLength_dropBlank core with hcut | hcut
    · rw [hcut] at hbegun
      omega
    · omega
  | _ => cases hnext

/-! ## Every name of a module comes through -/

/-- A scan of a text comes to a phase. -/
def Reaches (against : Objections) (source : String) (front : List Char) (p : Phase) : Prop :=
  ∃ d, Scan.run against source {} 0 front = .ok ⟨p, d⟩

/-- A scan begins at the start. -/
theorem Reaches.start (against : Objections) (source : String) :
    Reaches against source [] .start := ⟨{}, rfl⟩

/-- A step goes on with what was scanned. -/
theorem Reaches.step {source : String} {front : List Char} {p p' : Phase} {c : Char}
    (h : Reaches against source front p)
    (hstep : ∀ d, ∃ d', Scan.step against source ⟨p, d⟩ (byteLength front) c = .ok ⟨p', d'⟩) :
    Reaches against source (front ++ [c]) p' := by
  obtain ⟨d, hd⟩ := h
  obtain ⟨d', hd'⟩ := hstep d
  refine ⟨d', ?_⟩
  rw [run_append, Nat.zero_add]
  exact bind_eq_ok_iff.mpr ⟨_, hd, bind_eq_ok_iff.mpr ⟨_, hd', rfl⟩⟩

/-- Characters that change nothing go on with what was scanned. -/
theorem Reaches.stays {source : String} {front : List Char} {p : Phase}
    (h : Reaches against source front p) (cs : List Char)
    (hstays : ∀ c ∈ cs, ∀ d place, Scan.step against source ⟨p, d⟩ place c = .ok ⟨p, d⟩) :
    Reaches against source (front ++ cs) p := by
  obtain ⟨d, hd⟩ := h
  refine ⟨d, ?_⟩
  rw [run_append, Nat.zero_add]
  exact bind_eq_ok_iff.mpr ⟨_, hd, run_eq_of_stays (fun c hc => hstays c hc d) _⟩

/-- A part of the text is cut out when the scan is at its end. -/
theorem part_slice {source : String} (front cs : List Char) {back : List Char}
    (hsource : source.toList = front ++ cs ++ back) :
    part (Text.slice source (byteLength front) (byteLength (front ++ cs))) =
      .ok (String.ofList cs) :=
  part_eq_ok_iff.mpr (Text.slice_between front cs hsource)

/-- A scan goes over a target. -/
theorem reaches_target (against : Objections) (source : String) {t : List Char} (h : IsTarget t) :
    Reaches against source t (.word 0) := by
  obtain ⟨c, rest, rfl, hc⟩ := h.first
  have hstart : Reaches against source [c] (.word 0) := by
    refine (Reaches.start against source).step fun d => ⟨d, ?_⟩
    simp only [Scan.step, if_neg (h.plain c List.mem_cons_self).2.1, if_pos hc]
    rfl
  refine hstart.stays rest fun d hd _ _ => ?_
  obtain ⟨hequals, hspan, hcomma⟩ := h.plain d (List.mem_cons_of_mem _ hd)
  simp only [Scan.step, if_neg hequals, if_neg hspan, if_neg hcomma]

/-- A scan goes over the name of a span, alone or behind a target, which can be cut out then. -/
theorem reaches_span {source : String} {t s back : List Char} (ht : t = [] ∨ IsTarget t)
    (hs : IsSpanName s) (hsource : source.toList = t ++ '[' :: (s ++ back)) :
    Reaches against source (t ++ '[' :: s) (.span (byteLength (t ++ ['[']))) ∧
      part (Text.slice source (byteLength (t ++ ['['])) (byteLength (t ++ '[' :: s))) =
        .ok (.ofList s) := by
  have hopen : Reaches against source (t ++ ['[']) (.span (byteLength (t ++ ['[']))) := by
    rw [Text.byteLength_concat rfl]
    rcases ht with rfl | ht
    · exact (Reaches.start against source).step fun d => ⟨d, rfl⟩
    · refine (reaches_target against source ht).step fun d =>
        ⟨{ d with target := some (.ofList t) }, ?_⟩
      have hcut := part_slice [] t hsource
      exact bind_eq_ok_iff.mpr ⟨_, hcut, rfl⟩
  have hspan := hopen.stays s fun c hc _ _ => by
    obtain ⟨hend, hfields⟩ := hs c hc
    simp only [Scan.step, if_neg hend, if_neg hfields]
  have happend : t ++ '[' :: s = t ++ ['['] ++ s := by simp
  rw [happend]
  exact ⟨hspan, part_slice _ s (by simpa using hsource)⟩

/-- A scan goes over a field to the sign behind it. -/
theorem reaches_field {source : String} {front f : List Char} (hf : IsField f)
    (h : Reaches against source front (.field (byteLength front))) :
    Reaches against source (front ++ f) (.field (byteLength front)) := by
  refine h.stays f fun c hc _ _ => ?_
  obtain ⟨hcomma, hend⟩ := hf.plain c hc
  simp only [Scan.step, if_neg hcomma, if_neg hend]

/-- A field that is accepted is added to a directive. -/
theorem IsField.exists_withField {f : List Char} (hf : IsField f) (haccepts : Accepts against f)
    (d : Directive) : ∃ d', d.withField against (.ofList f) = .ok d' := by
  have hne : String.ofList f ≠ "" := fun h => hf.nonempty (String.ofList_eq_empty_iff.mp h)
  rw [← String.toList_ofList (l := f)] at haccepts
  exact withField_isOk_iff.mpr ⟨hne, haccepts⟩

/-- A scan goes over fields. -/
theorem reaches_fields {source : String} {front x back : List Char}
    (hx : AreFields (Accepts against) x)
    (h : Reaches against source front (.field (byteLength front)))
    (hsource : source.toList = front ++ x ++ '\x7d' :: back) :
    Reaches against source (front ++ x ++ ['\x7d']) .fields := by
  induction hx generalizing front with
  | @last f field meets =>
    refine (reaches_field field h).step fun d => ?_
    obtain ⟨d', hd'⟩ := field.exists_withField meets d
    have hcut := part_slice front f hsource
    exact ⟨d', bind_eq_ok_iff.mpr ⟨_, hcut, bind_eq_ok_iff.mpr ⟨_, hd', rfl⟩⟩⟩
  | @more f rest field meets _ ih =>
    rw [← List.append_assoc, List.append_assoc] at hsource
    have hcut := part_slice front f hsource
    have hnext : Reaches against source (front ++ f ++ [','])
        (.field (byteLength (front ++ f ++ [',']))) := by
      rw [Text.byteLength_concat rfl]
      refine (reaches_field field h).step fun d => ?_
      obtain ⟨d', hd'⟩ := field.exists_withField meets d
      exact ⟨d', bind_eq_ok_iff.mpr ⟨_, hcut, bind_eq_ok_iff.mpr ⟨_, hd', rfl⟩⟩⟩
    have hrest := ih hnext (by simpa using hsource)
    simpa using hrest

/-- A scan goes over the name of a module and the equals sign behind it. -/
theorem reaches_threshold {source : String} {m back : List Char}
    (hm : ModuleName (Accepts against) m) (hsource : source.toList = m ++ '=' :: back) :
    Reaches against source (m ++ ['=']) (.threshold (byteLength m + 1)) := by
  cases hm with
  | target target =>
    refine (reaches_target against source target).step fun d =>
      ⟨{ d with target := some (.ofList m) }, ?_⟩
    have hcut := part_slice [] m hsource
    exact bind_eq_ok_iff.mpr ⟨_, hcut, rfl⟩
  | @span t s target span =>
    rw [List.append_assoc, List.cons_append, List.append_assoc] at hsource
    obtain ⟨hspan, hcut⟩ := reaches_span target span hsource
    have hclosed : Reaches against source (t ++ '[' :: s ++ [']']) .tail :=
      hspan.step fun d =>
        ⟨{ d with span := some (.ofList s) }, bind_eq_ok_iff.mpr ⟨_, hcut, rfl⟩⟩
    have hlevel := hclosed.step (c := '=') fun d => ⟨d, rfl⟩
    simpa using hlevel
  | @fields t s x target span fields =>
    rw [List.append_assoc, List.cons_append, List.append_assoc] at hsource
    obtain ⟨hspan, hcut⟩ := reaches_span target span hsource
    have hopen : Reaches against source (t ++ '[' :: s ++ ['\x7b'])
        (.field (byteLength (t ++ '[' :: s ++ ['\x7b']))) := by
      rw [Text.byteLength_concat rfl]
      exact hspan.step fun d => ⟨_, bind_eq_ok_iff.mpr ⟨_, hcut, rfl⟩⟩
    have hfields := reaches_fields fields hopen (by
      simpa using hsource)
    have hclosed :
        Reaches against source (t ++ '[' :: s ++ ['\x7b'] ++ x ++ ['\x7d'] ++ [']']) .tail :=
      hfields.step fun d => ⟨d, rfl⟩
    have hlevel := hclosed.step (c := '=') fun d => ⟨d, rfl⟩
    simpa using hlevel

/-- A character that can start a target is not blank. -/
theorem isBlank_of_startsTarget {c : Char} (h : startsTarget c = true) :
    Text.isBlank c = false := by
  simp only [startsTarget, Bool.or_eq_true, decide_eq_true_eq] at h
  rcases h with ((rfl | rfl) | rfl) | h
  · decide
  · decide
  · decide
  · exact Text.isBlank_of_isAlphanumeric h

/-- The name of a module starts with no blank character. -/
theorem ModuleName.dropBlank_eq {Demand : List Char → Prop} {m : List Char}
    (hm : ModuleName Demand m) : Text.dropBlank m = m := by
  have htarget {t rest : List Char} (ht : IsTarget t) : Text.dropBlank (t ++ rest) = t ++ rest := by
    obtain ⟨c, cs, rfl, hc⟩ := ht.first
    refine Text.dropBlank_eq_self fun d hd => ?_
    cases hd
    exact isBlank_of_startsTarget hc
  have hspan {t rest : List Char} (ht : t = [] ∨ IsTarget t) :
      Text.dropBlank (t ++ '[' :: rest) = t ++ '[' :: rest := by
    rcases ht with rfl | ht
    · rfl
    · exact htarget ht
  cases hm with
  | target target =>
    rw [← List.append_nil m]
    exact htarget target
  | span target _ => exact hspan target
  | fields target _ _ => exact hspan target

/-- The directive of a name of a module whose fields are accepted and the word for a threshold is
made. -/
theorem exists_moduleDirective {name : String} (hname : ModuleName (Accepts against) name.toList)
    (t : Threshold) : ∃ d, Filter.moduleDirective against name t.word = .ok d := by
  have hword := t.plainName_word.plain
  have hsource : (name ++ "=" ++ t.word).toList = name.toList ++ '=' :: t.word.toList := by simp
  have htrim := toList_trim_equals name hword
  rw [hname.dropBlank_eq] at htrim
  have hlevel := sliceFrom_equals name t.word
  rw [Filter.moduleDirective]
  generalize name ++ "=" ++ t.word = source at *
  have hequals := reaches_threshold hname hsource
  have hall : Reaches against source (name.toList ++ ['='] ++ t.word.toList)
      (.threshold (byteLength name.toList + 1)) := by
    exact hequals.stays _ fun c hc d => step_threshold source _ d (hword c hc)
  obtain ⟨d, hd⟩ := hall
  rw [List.append_assoc, List.cons_append, List.nil_append, ← htrim] at hd
  refine ⟨{ d with threshold := t }, bind_eq_ok_iff.mpr ⟨_, hd, ?_⟩⟩
  refine bind_eq_ok_iff.mpr ⟨t.word, ?_, ?_⟩
  · exact part_eq_ok_iff.mpr hlevel
  · rw [withThreshold, if_neg t.word_ne_empty, t.ofText?_word]

end Directive

/-- Directives with the words for thresholds are made for exactly the names of modules whose
fields are accepted. -/
theorem Filter.moduleDirective_isOk_iff {against : Objections} {name : String} {t : Threshold} :
    (∃ d, Filter.moduleDirective against name t.word = .ok d) ↔
      Directive.ModuleName (Directive.Accepts against) name.toList := by
  constructor
  · rintro ⟨d, hd⟩
    exact Directive.moduleName_of_ofText t.plainName_word.plain hd
  · intro hname
    exact Directive.exists_moduleDirective hname t

end Log
end TelemetryGate
