import TelemetryGate.Proofs.Log.Directives
import TelemetryGate.Proofs.Results

/-!
# Scanning a directive

What one step of a scan can do is said once, without what the scan has found and almost without the
places at which the text is cut. From that it follows, by what every step keeps, what was scanned
when the scan is in a phase.
-/

namespace TelemetryGate

namespace Log

open Text (byteLength byteLength_cons byteLength_append)

namespace Directive

variable {against : Objections}

/-! ## What one step does -/

/-- Nothing speaks against the value of a field, if it has one. -/
def Accepts (against : Objections) (field : List Char) : Prop :=
  ∀ value, (FieldDemand.ofText (.ofList field)).value = some value → against value = none

/-- A text can be added to a directive as a field. -/
structure Addable (against : Objections) (s : String) : Prop where
  /-- There is a character. -/
  nonempty : s ≠ ""
  /-- Nothing speaks against its value. -/
  accepted : Accepts against s.toList

/-- The phases that a character leads to at a place. -/
inductive Moves (against : Objections) (source : String) (place : Nat) (c : Char) :
    Phase → Phase → Prop where
  /-- A span opens at the start. -/
  | spanFirst (hc : c = '[') : Moves against source place c .start (.span (place + 1))
  /-- A target starts. -/
  | wordStarts (hc : startsTarget c = true) (hspan : c ≠ '[') :
    Moves against source place c .start (.word place)
  /-- A target goes on. -/
  | word {n : Nat} (hequals : c ≠ '=') (hspan : c ≠ '[') (hcomma : c ≠ ',') :
    Moves against source place c (.word n) (.word n)
  /-- A threshold opens behind a target. -/
  | wordLevel {n : Nat} (hc : c = '=') :
    Moves against source place c (.word n) (.threshold (place + 1))
  /-- A span opens behind a target. -/
  | wordSpan {n : Nat} (hc : c = '[') : Moves against source place c (.word n) (.span (place + 1))
  /-- A lone word ends. -/
  | wordEnds {n : Nat} (hc : c = ',') : Moves against source place c (.word n) .done
  /-- The name of a span goes on. -/
  | span {n : Nat} (hend : c ≠ ']') (hfields : c ≠ '\x7b') :
    Moves against source place c (.span n) (.span n)
  /-- A span closes. -/
  | spanEnds {n : Nat} (hc : c = ']') : Moves against source place c (.span n) .tail
  /-- The fields of a span open. -/
  | spanFields {n : Nat} (hc : c = '\x7b') :
    Moves against source place c (.span n) (.field (place + 1))
  /-- A field goes on. -/
  | field {n : Nat} (hcomma : c ≠ ',') (hend : c ≠ '\x7d') :
    Moves against source place c (.field n) (.field n)
  /-- A field that can be added is followed by another one. -/
  | fieldMore {n : Nat} {s : String} (hc : c = ',') (hcut : Text.slice source n place = some s)
    (hfield : Addable against s) : Moves against source place c (.field n) (.field (place + 1))
  /-- The fields close behind a field that can be added. -/
  | fieldEnds {n : Nat} {s : String} (hc : c = '\x7d')
    (hcut : Text.slice source n place = some s) (hfield : Addable against s) :
    Moves against source place c (.field n) .fields
  /-- A span closes behind its fields. -/
  | fieldsEnd (hc : c = ']') : Moves against source place c .fields .tail
  /-- A threshold opens behind a span. -/
  | tailLevel (hc : c = '=') : Moves against source place c .tail (.threshold (place + 1))
  /-- A threshold goes on. -/
  | threshold {n : Nat} (hcomma : c ≠ ',') :
    Moves against source place c (.threshold n) (.threshold n)
  /-- A threshold ends. -/
  | thresholdEnds {n : Nat} (hc : c = ',') : Moves against source place c (.threshold n) .done

/-- A part that was cut out is the cut. -/
theorem part_eq_ok_iff {cut : Option String} {s : String} : part cut = .ok s ↔ cut = some s := by
  cases cut <;> simp [part]

/-- A text is added to a directive as a field if it can be. -/
theorem withField_isOk_iff {d : Directive} {s : String} :
    (∃ d', d.withField against s = .ok d') ↔ Addable against s := by
  rw [withField]
  split
  · rename_i hempty
    exact iff_of_false (by simp) fun h => h.nonempty hempty
  · rename_i hne
    have haccepts : Accepts against s.toList ↔
        (FieldDemand.ofText s).value.bind against = none := by
      rw [Accepts, String.ofList_toList, Option.bind_eq_none_iff]
    split
    · rename_i objection hobjection
      refine iff_of_false (by simp) fun h => ?_
      rw [haccepts.mp h.accepted] at hobjection
      cases hobjection
    · rename_i hnone
      exact iff_of_true ⟨_, rfl⟩ ⟨hne, haccepts.mpr hnone⟩

/-- Every step moves the scan on to a phase. -/
theorem moves_of_step {source : String} {s s' : Scan} {place : Nat} {c : Char}
    (h : s.step against source place c = .ok s') :
    Moves against source place c s.phase s'.phase := by
  obtain ⟨phase, found⟩ := s
  cases phase with
  | start =>
    simp only [Scan.step] at h
    split at h
    · cases h
      exact .spanFirst ‹_›
    · split at h
      · cases h
        exact .wordStarts ‹_› ‹_›
      · cases h
  | word n =>
    simp only [Scan.step] at h
    split at h
    · obtain ⟨_, -, h⟩ := bind_eq_ok_iff.mp h
      cases h
      exact .wordLevel ‹_›
    · split at h
      · obtain ⟨_, -, h⟩ := bind_eq_ok_iff.mp h
        cases h
        exact .wordSpan ‹_›
      · split at h
        · obtain ⟨_, -, h⟩ := bind_eq_ok_iff.mp h
          cases h
          exact .wordEnds ‹_›
        · cases h
          exact .word ‹_› ‹_› ‹_›
  | span n =>
    simp only [Scan.step] at h
    split at h
    · obtain ⟨_, -, h⟩ := bind_eq_ok_iff.mp h
      cases h
      exact .spanEnds ‹_›
    · split at h
      · obtain ⟨_, -, h⟩ := bind_eq_ok_iff.mp h
        cases h
        exact .spanFields ‹_›
      · cases h
        exact .span ‹_› ‹_›
  | field n =>
    simp only [Scan.step] at h
    split at h
    · obtain ⟨cut, hcut, h⟩ := bind_eq_ok_iff.mp h
      obtain ⟨_, hfield, h⟩ := bind_eq_ok_iff.mp h
      cases h
      exact .fieldEnds ‹_› (part_eq_ok_iff.mp hcut) (withField_isOk_iff.mp ⟨_, hfield⟩)
    · split at h
      · obtain ⟨cut, hcut, h⟩ := bind_eq_ok_iff.mp h
        obtain ⟨_, hfield, h⟩ := bind_eq_ok_iff.mp h
        cases h
        exact .fieldMore ‹_› (part_eq_ok_iff.mp hcut) (withField_isOk_iff.mp ⟨_, hfield⟩)
      · cases h
        exact .field ‹_› ‹_›
  | fields =>
    simp only [Scan.step] at h
    split at h
    · cases h
      exact .fieldsEnd ‹_›
    · cases h
  | tail =>
    simp only [Scan.step] at h
    split at h
    · cases h
      exact .tailLevel ‹_›
    · cases h
  | threshold n =>
    simp only [Scan.step] at h
    split at h
    · obtain ⟨_, -, h⟩ := bind_eq_ok_iff.mp h
      obtain ⟨_, -, h⟩ := bind_eq_ok_iff.mp h
      cases h
      exact .thresholdEnds ‹_›
    · cases h
      exact .threshold ‹_›
  | done => cases h

/-- A scan goes over a text part by part. -/
theorem run_append {source : String} {s : Scan} {place : Nat} (front back : List Char) :
    Scan.run against source s place (front ++ back) =
      Scan.run against source s place front >>= fun s' =>
        Scan.run against source s' (place + byteLength front) back := by
  induction front generalizing s place with
  | nil => rfl
  | cons c front ih =>
    rw [List.cons_append, Scan.run, Scan.run, byteLength_cons, ← Nat.add_assoc]
    cases Scan.step against source s place c with
    | error fault => rfl
    | ok s' => exact ih

/-- What every move keeps, a scan keeps. The invariant is about the characters that were scanned. -/
theorem run_keeps {source : String} {P : List Char → Phase → Prop} {pre cs : List Char}
    {s s' : Scan}
    (hmoves : ∀ front c back p p', pre ++ cs = front ++ c :: back → P front p →
      Moves against source (byteLength front) c p p' → P (front ++ [c]) p')
    (hstart : P pre s.phase) (hrun : Scan.run against source s (byteLength pre) cs = .ok s') :
    P (pre ++ cs) s'.phase := by
  induction cs generalizing pre s with
  | nil =>
    cases hrun
    rwa [List.append_nil]
  | cons c rest ih =>
    obtain ⟨next, hnext, hrest⟩ := bind_eq_ok_iff.mp hrun
    have happend : pre ++ c :: rest = pre ++ [c] ++ rest := by simp
    have hplace : byteLength (pre ++ [c]) = byteLength pre + c.utf8Size := by
      simp [byteLength]
    rw [happend] at hmoves ⊢
    rw [← hplace] at hrest
    refine ih hmoves ?_ hrest
    exact hmoves pre c rest _ _ happend.symm hstart (moves_of_step hnext)

/-- What holds at the start and is kept by every move holds of all that a scan goes over. -/
theorem keeps_of_run {source : String} {P : List Char → Phase → Prop} {cs : List Char} {s : Scan}
    (hmoves : ∀ front c back p p', cs = front ++ c :: back → P front p →
      Moves against source (byteLength front) c p p' → P (front ++ [c]) p')
    (hstart : P [] .start) (hrun : Scan.run against source {} 0 cs = .ok s) : P cs s.phase := by
  have hkept : P ([] ++ cs) s.phase := run_keeps hmoves hstart hrun
  exact hkept

/-! ## Which texts lead to which phase -/

/-- A target: it starts with a letter, a digit, or one of three signs, and ends where a threshold, a
span, or another directive begins. -/
structure IsTarget (cs : List Char) : Prop where
  /-- The first character can start a target. -/
  first : ∃ c rest, cs = c :: rest ∧ startsTarget c = true
  /-- No character ends it. -/
  plain : ∀ c ∈ cs, c ≠ '=' ∧ c ≠ '[' ∧ c ≠ ','

/-- The name of a span, which may be empty. -/
def IsSpanName (cs : List Char) : Prop := ∀ c ∈ cs, c ≠ ']' ∧ c ≠ '\x7b'

theorem isSpanName_nil : IsSpanName [] := List.forall_mem_nil _

/-- A field of a span. -/
structure IsField (cs : List Char) : Prop where
  /-- There is a character. -/
  nonempty : cs ≠ []
  /-- No character ends it. -/
  plain : ∀ c ∈ cs, c ≠ ',' ∧ c ≠ '\x7d'

variable {Demand : List Char → Prop}

/-- Fields between commas, at least one, each of which meets a demand. -/
inductive AreFields (Demand : List Char → Prop) : List Char → Prop where
  /-- The last field. -/
  | last {f : List Char} (field : IsField f) (meets : Demand f) : AreFields Demand f
  /-- A field before others. -/
  | more {f rest : List Char} (field : IsField f) (meets : Demand f)
    (others : AreFields Demand rest) : AreFields Demand (f ++ ',' :: rest)

/-- The name of a module for which a directive can be made, with fields that meet a demand. -/
inductive ModuleName (Demand : List Char → Prop) : List Char → Prop where
  /-- A target. -/
  | target {t : List Char} (target : IsTarget t) : ModuleName Demand t
  /-- A span, alone or behind a target. -/
  | span {t s : List Char} (target : t = [] ∨ IsTarget t) (span : IsSpanName s) :
    ModuleName Demand (t ++ '[' :: (s ++ [']']))
  /-- A span with fields, alone or behind a target. -/
  | fields {t s x : List Char} (target : t = [] ∨ IsTarget t) (span : IsSpanName s)
    (fields : AreFields Demand x) :
    ModuleName Demand (t ++ '[' :: (s ++ '\x7b' :: (x ++ ['\x7d', ']'])))

/-- Fields with a comma behind each of them, each of which meets a demand. -/
inductive EndedFields (Demand : List Char → Prop) : List Char → Prop where
  /-- No field. -/
  | none : EndedFields Demand []
  /-- One more field. -/
  | more {done f : List Char} (before : EndedFields Demand done) (field : IsField f)
    (meets : Demand f) : EndedFields Demand (done ++ f ++ [','])

/-- Fields go on behind fields with commas. -/
theorem EndedFields.append {done x : List Char} (h : EndedFields Demand done)
    (hx : AreFields Demand x) : AreFields Demand (done ++ x) := by
  induction h generalizing x with
  | none => exact hx
  | more _ field meets ih =>
    have hmore := ih (.more field meets hx)
    simpa using hmore

/-- What was scanned when a scan is in a phase. Once a threshold has begun it is only known that it
begins in what was scanned, and behind the end of a directive nothing. -/
inductive Spells (against : Objections) : List Char → Phase → Prop where
  /-- Nothing was scanned. -/
  | start : Spells against [] .start
  /-- A target. -/
  | word {t : List Char} {n : Nat} (target : IsTarget t) : Spells against t (.word n)
  /-- The start of a span. -/
  | span {t s : List Char} {n : Nat} (target : t = [] ∨ IsTarget t) (span : IsSpanName s) :
    Spells against (t ++ '[' :: s) (.span n)
  /-- Some fields, and a part of the next one. -/
  | field {t s done y : List Char} (target : t = [] ∨ IsTarget t) (span : IsSpanName s)
    (before : EndedFields (Accepts against) done) (plain : ∀ c ∈ y, c ≠ ',' ∧ c ≠ '\x7d') :
    Spells against (t ++ '[' :: (s ++ '\x7b' :: (done ++ y)))
      (.field (byteLength (t ++ '[' :: (s ++ '\x7b' :: done))))
  /-- A span with fields that is not closed. -/
  | fields {t s x : List Char} (target : t = [] ∨ IsTarget t) (span : IsSpanName s)
    (fields : AreFields (Accepts against) x) :
    Spells against (t ++ '[' :: (s ++ '\x7b' :: (x ++ ['\x7d']))) .fields
  /-- The name of a module that ends in a span. -/
  | tail {m : List Char} (name : ModuleName (Accepts against) m) : Spells against m .tail
  /-- A threshold that has begun. -/
  | threshold {pre : List Char} {n : Nat} (begun : n ≤ byteLength pre) :
    Spells against pre (.threshold n)
  /-- The end of a directive. -/
  | done {pre : List Char} : Spells against pre .done

/-- What holds of some characters and of one more holds of all of them. -/
theorem forall_mem_concat {P : Char → Prop} {cs : List Char} {c : Char} (hcs : ∀ d ∈ cs, P d)
    (hc : P c) : ∀ d ∈ cs ++ [c], P d :=
  List.forall_mem_append.mpr ⟨hcs, List.forall_mem_singleton.mpr hc⟩

/-- A target goes on with a character that does not end it. -/
theorem IsTarget.append {t : List Char} (h : IsTarget t) {c : Char}
    (hc : c ≠ '=' ∧ c ≠ '[' ∧ c ≠ ',') : IsTarget (t ++ [c]) := by
  obtain ⟨first, rest, rfl, hfirst⟩ := h.first
  exact ⟨⟨first, rest ++ [c], rfl, hfirst⟩, forall_mem_concat h.plain hc⟩

/-- Fields that were scanned end in one that is not empty, if that one can be cut out. -/
theorem Spells.exists_field {source : String} {pre back : List Char} {n : Nat}
    (h : Spells against pre (.field n)) (hsource : source.toList = pre ++ back) {f : String}
    (hcut : Text.slice source n (byteLength pre) = some f) (hfield : Addable against f) :
    ∃ t s done y, pre = t ++ '[' :: (s ++ '\x7b' :: (done ++ y)) ∧ (t = [] ∨ IsTarget t) ∧
      IsSpanName s ∧ EndedFields (Accepts against) done ∧ IsField y ∧ Accepts against y := by
  cases h with
  | @field t s done y target span before plain =>
    have hparts : source.toList = t ++ '[' :: (s ++ '\x7b' :: done) ++ y ++ back := by
      simpa using hsource
    have hy := Text.slice_between _ y hparts
    have happend : t ++ '[' :: (s ++ '\x7b' :: done) ++ y =
        t ++ '[' :: (s ++ '\x7b' :: (done ++ y)) := by
      simp
    rw [happend, hcut] at hy
    obtain rfl : f = .ofList y := Option.some.inj hy
    have hne : y ≠ [] := fun hnil => hfield.nonempty (String.ofList_eq_empty_iff.mpr hnil)
    have haccepted := hfield.accepted
    rw [String.toList_ofList] at haccepted
    exact ⟨t, s, done, y, rfl, target, span, before, ⟨hne, plain⟩, haccepted⟩

/-- A move goes on with what was scanned. The text is cut at places that are counted from its
start. -/
theorem Spells.moves {source : String} {pre back : List Char} {c : Char} {p p' : Phase}
    (h : Spells against pre p) (hsource : source.toList = pre ++ c :: back)
    (hmoves : Moves against source (byteLength pre) c p p') : Spells against (pre ++ [c]) p' := by
  have hone : byteLength (pre ++ [c]) = byteLength pre + c.utf8Size := by simp [byteLength]
  have hpos := c.utf8Size_pos
  cases hmoves with
  | spanFirst hc =>
    cases h
    subst hc
    exact .span (t := []) (s := []) (.inl rfl) isSpanName_nil
  | wordStarts hc hspan =>
    cases h
    refine .word ⟨⟨c, [], rfl, hc⟩, fun d hd => ?_⟩
    obtain rfl := List.mem_singleton.mp hd
    refine ⟨?_, hspan, ?_⟩
    · rintro rfl
      exact absurd hc (by decide +kernel)
    · rintro rfl
      exact absurd hc (by decide +kernel)
  | word hequals hspan hcomma =>
    cases h with
    | word target => exact .word (target.append ⟨hequals, hspan, hcomma⟩)
  | wordLevel hc =>
    exact .threshold (by omega)
  | wordSpan hc =>
    cases h with
    | word target =>
      subst hc
      exact .span (.inr target) isSpanName_nil
  | wordEnds hc => exact .done
  | span hend hfields =>
    cases h with
    | span target span =>
      rw [List.append_assoc]
      exact .span target (forall_mem_concat span ⟨hend, hfields⟩)
  | spanEnds hc =>
    cases h with
    | span target span =>
      subst hc
      rw [List.append_assoc]
      exact .tail (.span target span)
  | spanFields hc =>
    cases h with
    | @span t s n target span =>
      subst hc
      have hfield : Spells against _ _ := .field target span .none (List.forall_mem_nil _)
      have hplace := Text.byteLength_concat (c := '\x7b') rfl (t ++ '[' :: s)
      rw [List.append_assoc, List.cons_append] at hplace
      rw [hplace] at hfield
      simpa using hfield
  | field hcomma hend =>
    cases h with
    | field target span before plain =>
      have hfield := Spells.field target span before (forall_mem_concat plain ⟨hcomma, hend⟩)
      simpa using hfield
  | fieldMore hc hcut hfield =>
    subst hc
    obtain ⟨t, s, done, y, rfl, target, span, before, isField, accepted⟩ :=
      h.exists_field hsource hcut hfield
    have hnext := Spells.field target span (before.more isField accepted) (List.forall_mem_nil _)
    have hplace := Text.byteLength_concat (c := ',') rfl (t ++ '[' :: (s ++ '\x7b' :: (done ++ y)))
    rw [← hplace]
    simpa using hnext
  | fieldEnds hc hcut hfield =>
    subst hc
    obtain ⟨t, s, done, y, rfl, target, span, before, isField, accepted⟩ :=
      h.exists_field hsource hcut hfield
    have hfields := Spells.fields target span (before.append (.last isField accepted))
    simpa using hfields
  | fieldsEnd hc =>
    cases h with
    | fields target span fields =>
      subst hc
      have hname := Spells.tail (.fields target span fields)
      simpa using hname
  | tailLevel hc => exact .threshold (by omega)
  | threshold hcomma =>
    cases h with
    | threshold begun => exact .threshold (by omega)
  | thresholdEnds hc => exact .done

/-- What was scanned of a text spells the phase of the scan. -/
theorem spells_of_run {source : String} {core back : List Char} {s : Scan}
    (hsource : source.toList = core ++ back) (hrun : Scan.run against source {} 0 core = .ok s) :
    Spells against core s.phase := by
  refine keeps_of_run (P := Spells against) ?_ .start hrun
  rintro front c rest p p' rfl hfront hmoves
  rw [List.append_assoc] at hsource
  exact hfront.moves hsource hmoves

end Directive
end Log
end TelemetryGate
