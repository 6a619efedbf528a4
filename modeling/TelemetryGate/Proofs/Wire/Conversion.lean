import TelemetryGate.Proofs.Binary64.Nearest
import TelemetryGate.Proofs.Text.Bytes
import TelemetryGate.Proofs.Wire.Encoding
import TelemetryGate.Proofs.Wire.Flattening

/-!
# The conversion of free data

What two payloads of free data are converted to is told by what they mean. The checks have an order:
that the properties have a JSON value, that it is an object, the same for the measurements, and that
every measurement is a number or absent. Payloads that give the same last values are converted to
the same.
-/

namespace TelemetryGate.Wire

/-! ## The result by the meaning of the payloads -/

/-- The flat form of two objects under the name of an event. -/
structure Flat (event : EventName) (texts numbers : Entries Json.Value) (w : WireEvent) : Prop where
  /-- The event has the name. -/
  event : w.event = event
  /-- The properties are in the order of their names. -/
  properties_rising : w.properties.Rising
  /-- Texts are properties as they are, and other values but `null` by their JSON text. -/
  property : ∀ key s, w.properties.get? key = some s ↔ texts.get? key = some (.text s) ∨
    ∃ v, texts.get? key = some v ∧ v ≠ .null ∧ (∀ t, v ≠ .text t) ∧ s = v.render
  /-- The measurements are in the order of their names. -/
  measurements_rising : w.measurements.Rising
  /-- Doubles are measurements as they are, and whole numbers by the doubles nearest to them. -/
  measurement : ∀ key x, w.measurements.get? key = some x ↔ numbers.get? key = some (.float x) ∨
    ∃ i : Int, numbers.get? key = some (.int i) ∧ x = .ofInt i ∧ x.IsNearest i

/-- What two payloads, of properties and of measurements, are converted to. -/
inductive Converts (event : EventName) (p m : Data) : Except Fault WireEvent → Prop where
  /-- The properties have no JSON value. -/
  | noTexts {fault : EncodingFault} (fails : p.Fails fault) :
    Converts event p m (.error (.encoding fault))
  /-- The properties are no object. -/
  | otherTexts {v : Json.Value} (means : p.Means v) (other : ∀ texts, v ≠ .object texts) :
    Converts event p m (.error (.notARecord event))
  /-- The measurements have no JSON value. -/
  | noNumbers {texts : Entries Json.Value} {fault : EncodingFault}
    (properties : p.Means (.object texts)) (fails : m.Fails fault) :
    Converts event p m (.error (.encoding fault))
  /-- The measurements are no object. -/
  | otherNumbers {texts : Entries Json.Value} {v : Json.Value}
    (properties : p.Means (.object texts)) (means : m.Means v)
    (other : ∀ numbers, v ≠ .object numbers) :
    Converts event p m (.error (.notARecord event))
  /-- Some measurements are no numbers. The first of them in the order of bytes counts. -/
  | notNumeric {texts numbers : Entries Json.Value} {key : String} {v : Json.Value}
    (properties : p.Means (.object texts)) (measurements : m.Means (.object numbers))
    (given : numbers.get? key = some v) (wrong : ¬ Measurable v)
    (least : ∀ other w, numbers.get? other = some w → ¬ Measurable w →
      other = key ∨ Text.bytes key < Text.bytes other) :
    Converts event p m (.error (.notNumeric event key))
  /-- All is well. -/
  | flat {texts numbers : Entries Json.Value} {w : WireEvent} (properties : p.Means (.object texts))
    (measurements : m.Means (.object numbers))
    (numeric : ∀ key v, numbers.get? key = some v → Measurable v)
    (flat : Flat event texts numbers w) : Converts event p m (.ok w)

/-! ## Members, properties and measurements -/

section Parts

variable {event : EventName}

theorem members_eq_ok_iff {d : Data} {ms : Entries Json.Value} :
    members event d = .ok ms ↔ d.Means (.object ms) := by
  rw [← Data.json_eq_ok_iff, members]
  cases d.json with
  | error fault => simp
  | ok v => cases v <;> simp

theorem members_eq_error_iff {d : Data} {fault : Fault} :
    members event d = .error fault ↔ (∃ f, d.Fails f ∧ fault = .encoding f) ∨
      ∃ v, d.Means v ∧ (∀ ms, v ≠ .object ms) ∧ fault = .notARecord event := by
  simp only [← Data.json_eq_ok_iff, ← Data.json_eq_error_iff, members]
  cases d.json with
  | error fault => simp [eq_comm]
  | ok v => cases v <;> simp [eq_comm]

theorem measurements_eq_ok_iff {es : Entries Json.Value} {flat : Entries Binary64} :
    measurements event es = .ok flat ↔
      (∀ m ∈ es, Measurable m.2) ∧ flat = es.filterMap fun m => (number? m.2).map (m.1, ·) := by
  induction es generalizing flat with
  | nil => simp [measurements, eq_comm]
  | cons m rest ih =>
    obtain ⟨key, v⟩ := m
    rw [List.forall_mem_cons]
    by_cases hv : Measurable v
    · have hcons : ((key, v) :: rest).filterMap (fun m => (number? m.2).map (m.1, ·)) =
          ((number? v).map (key, ·)).toList ++
            rest.filterMap fun m => (number? m.2).map (m.1, ·) := by
        rw [List.filterMap_cons]
        cases number? v <;> rfl
      rw [measurements_cons_of_measurable event key hv, and_iff_right hv, hcons, map_eq_ok_iff]
      constructor
      · rintro ⟨more, hmore, rfl⟩
        obtain ⟨hall, rfl⟩ := ih.mp hmore
        exact ⟨hall, rfl⟩
      · rintro ⟨hall, rfl⟩
        exact ⟨_, ih.mpr ⟨hall, rfl⟩, rfl⟩
    · rw [measurements_cons_of_not_measurable event key hv]
      exact iff_of_false (by simp) fun h => hv h.1.1

theorem measurements_eq_error_iff {es : Entries Json.Value} {fault : Fault} :
    measurements event es = .error fault ↔ ∃ before key v after,
      es = before ++ (key, v) :: after ∧ (∀ m ∈ before, Measurable m.2) ∧ ¬ Measurable v ∧
        fault = .notNumeric event key := by
  induction es with
  | nil => simp [measurements]
  | cons m rest ih =>
    obtain ⟨key, v⟩ := m
    by_cases hv : Measurable v
    · rw [measurements_cons_of_measurable event key hv, map_eq_error_iff, ih]
      constructor
      · rintro ⟨before, k, w, after, rfl, hbefore, hw, hfault⟩
        exact ⟨(key, v) :: before, k, w, after, rfl, List.forall_mem_cons.mpr ⟨hv, hbefore⟩, hw,
          hfault⟩
      · rintro ⟨before, k, w, after, hsplit, hbefore, hw, hfault⟩
        cases before with
        | nil =>
          cases hsplit
          exact absurd hv hw
        | cons b before =>
          cases hsplit
          exact ⟨before, k, w, after, rfl, (List.forall_mem_cons.mp hbefore).2, hw, hfault⟩
    · rw [measurements_cons_of_not_measurable event key hv]
      constructor
      · rintro ⟨⟩
        exact ⟨[], key, v, rest, rfl, List.forall_mem_nil _, hv, rfl⟩
      · rintro ⟨before, k, w, after, hsplit, hbefore, hw, rfl⟩
        cases before with
        | nil =>
          cases hsplit
          rfl
        | cons b before =>
          cases hsplit
          exact absurd (List.forall_mem_cons.mp hbefore).1 hv

theorem propertyText_eq_some_iff {v : Json.Value} {s : String} : propertyText v = some s ↔
    v = .text s ∨ v ≠ .null ∧ (∀ t, v ≠ .text t) ∧ s = v.render := by
  cases v <;> simp [propertyText, eq_comm]

theorem number?_eq_some_iff {v : Json.Value} {x : Binary64} :
    number? v = some x ↔ v = .float x ∨ ∃ i, v = .int i ∧ x = .ofInt i := by
  cases v <;> simp [number?, eq_comm]

/-- The members of an object that data means are in order. -/
theorem rising_of_means {d : Data} {ms : Entries Json.Value} (h : d.Means (.object ms)) :
    ms.Rising := by
  cases h with
  | record _ rising _ _ => exact rising

/-- A whole number that fits has no more than 64 bits. -/
theorem Data.Fits.natAbs_lt {i : Int} (h : Data.Fits i) : i.natAbs < 2 ^ 64 := by
  obtain ⟨hlow, hhigh⟩ := h
  have hlt : twoPow 63 < twoPow 64 := by decide
  have hword : twoPow 64 = 2 ^ 64 := by decide
  omega

/-- Whole numbers among them fit. -/
theorem fits_of_means {d : Data} {ms : Entries Json.Value} (h : d.Means (.object ms)) {key : String}
    {i : Int} (hi : ms.get? key = some (.int i)) : Data.Fits i := by
  cases h with
  | record _ _ keys each =>
    obtain ⟨v, hv⟩ := Data.exists_of_isSome_eq (keys key) hi
    have hmeans := each key v _ hv hi
    cases hmeans with
    | int fits => exact fits

/-- Members that mean payloads, all measurements being measurable, have a flat form. -/
theorem flat_of_means {p m : Data} {texts numbers : Entries Json.Value}
    (hp : p.Means (.object texts)) (hm : m.Means (.object numbers)) :
    Flat event texts numbers
      ⟨event, properties texts, numbers.filterMap fun m => (number? m.2).map (m.1, ·)⟩ := by
  have htexts := rising_of_means hp
  have hnumbers := rising_of_means hm
  constructor
  case event => rfl
  case properties_rising => exact htexts.filterMap propertyText
  case property =>
    intro key s
    rw [properties, htexts.get?_filterMap propertyText key, Option.bind_eq_some_iff]
    simp only [propertyText_eq_some_iff]
    constructor
    · rintro ⟨v, hv, rfl | hother⟩
      · exact .inl hv
      · exact .inr ⟨v, hv, hother⟩
    · rintro (hv | ⟨v, hv, hother⟩)
      · exact ⟨_, hv, .inl rfl⟩
      · exact ⟨v, hv, .inr hother⟩
  case measurements_rising => exact hnumbers.filterMap number?
  case measurement =>
    intro key x
    rw [hnumbers.get?_filterMap number? key, Option.bind_eq_some_iff]
    simp only [number?_eq_some_iff]
    constructor
    · rintro ⟨v, hv, rfl | ⟨i, rfl, rfl⟩⟩
      · exact .inl hv
      · have hword := (fits_of_means hm hv).natAbs_lt
        exact .inr ⟨i, hv, rfl, Binary64.ofInt_isNearest hword⟩
    · rintro (hv | ⟨i, hv, rfl, -⟩)
      · exact ⟨_, hv, .inl rfl⟩
      · exact ⟨_, hv, .inr ⟨i, rfl, rfl⟩⟩

/-- There is one flat form. -/
theorem Flat.unique {texts numbers : Entries Json.Value} {w w' : WireEvent}
    (h : Flat event texts numbers w) (h' : Flat event texts numbers w') : w = w' := by
  have hproperties := h.properties_rising.ext_get? h'.properties_rising fun key s => by
    rw [h.property, h'.property]
  have hmeasurements := h.measurements_rising.ext_get? h'.measurements_rising fun key x => by
    rw [h.measurement, h'.measurement]
  have hevent := h.event.trans h'.event.symm
  cases w
  cases w'
  simp_all

/-- What is at fault with measurements is the one with the least name of those that are not
measurable. -/
theorem least_of_measurements {es : Entries Json.Value} (hrising : es.Rising) {fault : Fault}
    (h : measurements event es = .error fault) :
    ∃ key v, fault = .notNumeric event key ∧ es.get? key = some v ∧ ¬ Measurable v ∧
      ∀ other w, es.get? other = some w → ¬ Measurable w → other = key ∨ key < other := by
  obtain ⟨before, key, v, after, rfl, hbefore, hv, hfault⟩ := measurements_eq_error_iff.mp h
  have hget := hrising.get?_eq_some_iff.mpr (List.mem_append_right before List.mem_cons_self)
  refine ⟨key, v, hfault, hget, hv, fun other w hother hw => ?_⟩
  rcases List.mem_append.mp (Entries.mem_of_get? hother) with hmem | hmem
  · exact absurd (hbefore _ hmem) hw
  · rcases List.mem_cons.mp hmem with heq | hmem
    · exact .inl (congrArg Prod.fst heq)
    · obtain ⟨-, hbehind, -⟩ := List.pairwise_append.mp hrising
      exact .inr ((List.pairwise_cons.mp hbehind).1 _ hmem)

end Parts

/-! ## The whole conversion -/

section Whole

variable {event : EventName} {p m : Data}

/-- Once both payloads are objects, only the measurements can be at fault. -/
theorem flatten_of_members {texts numbers : Entries Json.Value}
    (hp : members event p = .ok texts) (hm : members event m = .ok numbers) :
    flatten event p m =
      (measurements event numbers).map fun flat => ⟨event, properties texts, flat⟩ := by
  rw [flatten, hp, hm]
  change (measurements event numbers >>= _) = _
  cases measurements event numbers <;> rfl

/-- The conversion gives what the payloads mean. -/
theorem converts_flatten : Converts event p m (flatten event p m) := by
  cases hp : members event p with
  | error fault =>
    rw [flatten, hp]
    rcases members_eq_error_iff.mp hp with ⟨f, hf, rfl⟩ | ⟨v, hv, hother, rfl⟩
    · exact .noTexts hf
    · exact .otherTexts hv hother
  | ok texts =>
    have htexts := members_eq_ok_iff.mp hp
    cases hm : members event m with
    | error fault =>
      rw [flatten, hp, hm]
      rcases members_eq_error_iff.mp hm with ⟨f, hf, rfl⟩ | ⟨v, hv, hother, rfl⟩
      · exact .noNumbers htexts hf
      · exact .otherNumbers htexts hv hother
    | ok numbers =>
      have hnumbers := members_eq_ok_iff.mp hm
      rw [flatten_of_members hp hm]
      cases hflat : measurements event numbers with
      | error fault =>
        obtain ⟨key, v, rfl, hget, hv, hleast⟩ :=
          least_of_measurements (rising_of_means hnumbers) hflat
        refine .notNumeric htexts hnumbers hget hv fun other w hother hw => ?_
        exact (hleast other w hother hw).imp_right Text.bytes_lt_of_lt
      | ok flat =>
        obtain ⟨hall, rfl⟩ := measurements_eq_ok_iff.mp hflat
        refine .flat htexts hnumbers (fun key v hv => ?_) (flat_of_means htexts hnumbers)
        exact hall _ (Entries.mem_of_get? hv)

/-- And nothing else. -/
theorem Converts.eq {result : Except Fault WireEvent} (h : Converts event p m result) :
    flatten event p m = result := by
  cases h with
  | noTexts fails =>
    rw [flatten, members_eq_error_iff.mpr (.inl ⟨_, fails, rfl⟩)]
    rfl
  | otherTexts means other =>
    rw [flatten, members_eq_error_iff.mpr (.inr ⟨_, means, other, rfl⟩)]
    rfl
  | noNumbers properties fails =>
    rw [flatten, members_eq_ok_iff.mpr properties,
      members_eq_error_iff.mpr (.inl ⟨_, fails, rfl⟩)]
    rfl
  | otherNumbers properties means other =>
    rw [flatten, members_eq_ok_iff.mpr properties,
      members_eq_error_iff.mpr (.inr ⟨_, means, other, rfl⟩)]
    rfl
  | @notNumeric texts numbers key v ps ms given wrong least =>
    rw [flatten_of_members (members_eq_ok_iff.mpr ps) (members_eq_ok_iff.mpr ms)]
    cases hflat : measurements event numbers with
    | ok flat =>
      obtain ⟨hall, -⟩ := measurements_eq_ok_iff.mp hflat
      exact absurd (hall _ (Entries.mem_of_get? given)) wrong
    | error fault =>
      obtain ⟨first, w, rfl, hfirst, hw, hleast⟩ :=
        least_of_measurements (rising_of_means ms) hflat
      rcases hleast key v given wrong with rfl | hlt
      · rfl
      · rcases least first w hfirst hw with rfl | hbytes
        · rfl
        · exact absurd (Text.bytes_lt_iff.mp hbytes) (String.lt_asymm hlt)
  | @flat texts numbers w ps ms numeric flat =>
    rw [flatten_of_members (members_eq_ok_iff.mpr ps) (members_eq_ok_iff.mpr ms)]
    have hall : ∀ m ∈ numbers, Measurable m.2 := fun m hm =>
      numeric m.1 m.2 ((rising_of_means ms).get?_eq_some_iff.mpr hm)
    rw [measurements_eq_ok_iff.mpr ⟨hall, rfl⟩]
    exact congrArg Except.ok ((flat_of_means ps ms).unique flat)

end Whole

/-! ## What does not count -/

/-- Data that differs at most in values that do not count, and in the order of its keys. -/
inductive Data.Alike : Data → Data → Prop where
  /-- The same data. -/
  | refl (d : Data) : Alike d d
  /-- Lists of such items. -/
  | list {items items' : List Data} (length : items'.length = items.length)
    (each : ∀ (i : Nat) d d', items[i]? = some d → items'[i]? = some d' → Alike d d') :
    Alike (.list items) (.list items')
  /-- Records with such values that are given last. -/
  | record {entries entries' : List (Data × Data)}
    (keys : ∀ key, (Data.lastGiven key entries').isSome = (Data.lastGiven key entries).isSome)
    (each : ∀ key d d', Data.lastGiven key entries = some d →
      Data.lastGiven key entries' = some d' → Alike d d') :
    Alike (.record entries) (.record entries')

/-- Encodable data of that kind has the same meaning. -/
theorem Data.Alike.means {d d' : Data} (h : d.Alike d') (hd' : d'.Encodable) {v : Json.Value}
    (hmeans : d.Means v) : d'.Means v := by
  induction h generalizing v with
  | refl d => exact hmeans
  | @list items items' length _ ih =>
    cases hmeans with
    | list hlength each =>
      refine .list (hlength.trans length.symm) fun i d' v hget' hv => ?_
      have hmem' := List.mem_of_getElem? hget'
      obtain ⟨hi, -⟩ := List.getElem?_eq_some_iff.mp hget'
      have hget := List.getElem?_eq_getElem (length ▸ hi : i < items.length)
      cases hd' with
      | list sound => exact ih i _ d' hget hget' (sound d' hmem') (each i _ v hget hv)
  | @record entries entries' keys _ ih =>
    cases hmeans with
    | record encodable rising given each =>
      refine .record hd' rising (fun key => (given key).trans (keys key).symm)
        fun key d' v hlast' hv => ?_
      obtain ⟨d, hlast⟩ := exists_of_isSome_eq (keys key) hlast'
      exact ih key d d' hlast hlast' (hd'.of_lastGiven hlast') (each key d v hlast hv)

theorem Data.Alike.json_eq {d d' : Data} (h : d.Alike d') (hd : d.Encodable)
    (hd' : d'.Encodable) : d'.json = d.json := by
  obtain ⟨v, hv⟩ := Data.exists_json_iff.mpr hd
  rw [hv]
  exact Data.json_eq_ok_iff.mpr (h.means hd' (Data.json_eq_ok_iff.mp hv))

/-- Only the JSON values of the payloads count. -/
theorem flatten_congr (event : EventName) {p p' m m' : Data} (hp : p'.json = p.json)
    (hm : m'.json = m.json) : flatten event p' m' = flatten event p m := by
  simp only [flatten, members, hp, hm]

/-- Two payloads are converted to what they mean: to the fault of the first check that fails, in the
order of the checks, or to the flat form. As far as they are encodable, only the last value that is
given under each key text counts, at every depth. -/
theorem flatten_eq_iff_converts (event : EventName) (p m : Data) :
    (∀ result, flatten event p m = result ↔ Converts event p m result) ∧
      ∀ p' m', p.Encodable → p'.Encodable → m.Encodable → m'.Encodable → p.Alike p' → m.Alike m' →
        flatten event p' m' = flatten event p m := by
  constructor
  · intro result
    constructor
    · rintro rfl
      exact converts_flatten
    · exact Converts.eq
  · intro p' m' hp hp' hm hm' hpAlike hmAlike
    exact flatten_congr event (hpAlike.json_eq hp hp') (hmAlike.json_eq hm hm')

/-! ## A key text that is given twice -/

/-- A record in which one key text is given as a number first, and as a text then. -/
def repeatedKey : Data :=
  .record [(.int 1, .text "a"), (.bool true, .float .zero), (.text "1", .text "b")]

/-- The same record in another order, without the value that does not count. -/
def singleKeys : Data := .record [(.text "1", .text "b"), (.bool true, .float .zero)]

theorem alike_singleKeys : repeatedKey.Alike singleKeys := by
  have hone : (Data.int 1).key.toOption = some "1" := by decide +kernel
  have hsame (key : String) :
      Data.lastGiven key [(.text "1", .text "b"), (.bool true, .float .zero)] =
        Data.lastGiven key
          [(.int 1, .text "a"), (.bool true, .float .zero), (.text "1", .text "b")] := by
    simp only [Data.lastGiven, List.reverse_cons, List.reverse_nil, List.nil_append,
      List.cons_append, List.find?_cons, hone]
    simp only [Data.key, Except.toOption]
    by_cases hkey : "1" = key
    · subst hkey
      simp
    · simp [hkey]
  refine .record (fun key => by rw [hsame]) fun key d d' hd hd' => ?_
  rw [hsame, hd] at hd'
  cases hd'
  exact .refl d

/-- Both records are converted to the same properties. -/
theorem flatten_singleKeys : repeatedKey.Alike singleKeys ∧
    flatten .launch singleKeys (.record []) = flatten .launch repeatedKey (.record []) ∧
      flatten .launch singleKeys (.record []) =
        .ok ⟨.launch, [("1", "b"), ("true", "0.0")], []⟩ := by
  have hrepeated : repeatedKey.Encodable := Data.exists_json_iff.mp ⟨_, rfl⟩
  have hsingle : singleKeys.Encodable := Data.exists_json_iff.mp ⟨_, rfl⟩
  have hempty : (Data.record []).Encodable := Data.exists_json_iff.mp ⟨_, rfl⟩
  refine ⟨alike_singleKeys, ?_, by decide +kernel⟩
  exact (flatten_eq_iff_converts .launch repeatedKey (.record [])).2 singleKeys (.record [])
    hrepeated hsingle hempty hempty alike_singleKeys (.refl _)

end TelemetryGate.Wire
