import TelemetryGate.KeySource
import TelemetryGate.Proofs.Filesystem.Paths
import TelemetryGate.Proofs.Json.Compact
import TelemetryGate.Proofs.Json.Following

/-!
# Reading manifests

A manifest is read from every object text in which the three fields are given at most once, each as
`null` or a text. Other fields may hold anything, at any depth and in any order, with any white space.
Every other object is refused.
-/

namespace TelemetryGate.Manifest

open Decoding (Field IsPart)
open Json (Blank Letter Member Padded Tree)
open Json.Tree (valuesUnder)
open Json.Tree.Decoder (given_of_record given_of_isSome record_eq_some_iff)

/-- What a field says that is given by some values: it is absent, `null` or a text. -/
inductive Says : List Tree → Option String → Prop
  | absent : Says [] none
  | null : Says [.null] none
  | text {letters : List Letter} {s : String} (h : Letter.text? letters = some s) :
      Says [.text letters] (some s)

/-- The names of the fields. -/
def fieldNames : List String := ["name", "version", "aiKey"]

/-- Something is wrong with the values that a field is given by: there is a second one, or one is a
truth value, a number, an array or an object. -/
def Wrong (values : List Tree) : Prop :=
  2 ≤ values.length ∨ ∃ t ∈ values, match t with
    | .null => False
    | .text _ => False
    | _ => True

/-- The text of an object in some white space. -/
def objectText (before inside after : Blank) (members : List (Member Tree)) : String :=
  Padded.render ⟨before, .object inside members, after⟩

theorem follows_layout :
    Json.Reader.Follows (layout Json.Reader.format) (layout Json.Tree.Decoder.format) := by
  have htext := (Json.Reader.follows_textOf "a string").optional
  unfold layout
  dsimp only [Json.Reader.format, Json.Tree.Decoder.format]
  exact Json.Reader.follows_record
    (.cons (htext.field _ _) (.cons (htext.field _ _) (.cons (htext.field _ _) .nil))) _ _

/-- What is given for a field is what the field says. -/
theorem given_eq_some_iff {values : List Tree} {value : Option String} :
    Json.Tree.Decoder.given (.optional .text) none values = some value ↔ Says values value := by
  constructor
  · intro h
    cases values with
    | nil =>
      cases h
      exact .absent
    | cons t more =>
      obtain ⟨rfl, h⟩ := Json.Tree.Decoder.given_cons_eq_some_iff.mp h
      cases t with
      | null =>
        cases h
        exact .null
      | text letters =>
        obtain ⟨s, hs, rfl⟩ := Option.map_eq_some_iff.mp h
        exact .text hs
      | _ => cases h
  · intro h
    cases h with
    | absent => rfl
    | null => rfl
    | text h => exact congrArg (some <$> ·) h

/-- The fields of a manifest as they are written. -/
def fields : List (Field Json.Tree.Decoder Manifest) :=
  [.of "name" (.optional .text) fun m s => { m with name := s },
    .of "version" (.optional .text) fun m s => { m with version := s },
    .of "aiKey" (.optional .text) fun m s => { m with aiKey := s }]

theorem layout_eq (t : Tree) :
    layout Json.Tree.Decoder.format t = Json.Tree.Decoder.record fields {} t := rfl

/-- What is written in a manifest are its parts. -/
theorem isPart_fields : IsPart fields name "name" (.optional .text) ∧
    IsPart fields version "version" (.optional .text) ∧
    IsPart fields aiKey "aiKey" (.optional .text) := by
  refine ⟨⟨by decide, ?_⟩, ⟨by decide, ?_⟩, ⟨by decide, ?_⟩⟩
  all_goals
    simp only [fields, List.forall_mem_cons]
    repeat' apply And.intro
  all_goals first
    | exact .own fun _ _ => rfl
    | exact .other (by decide) fun _ _ => rfl
    | exact List.forall_mem_nil _

/-- What is read from an object is what its fields say. -/
theorem says_of_layout {inside : Blank} {members : List (Member Tree)} {m : Manifest}
    (h : layout Json.Tree.Decoder.format (.object inside members) = some m) :
    Says (valuesUnder "name" members) m.name ∧ Says (valuesUnder "version" members) m.version ∧
      Says (valuesUnder "aiKey" members) m.aiKey := by
  rw [layout_eq] at h
  obtain ⟨hname, hversion, haiKey⟩ := isPart_fields
  exact ⟨given_eq_some_iff.mp (given_of_record hname h),
    given_eq_some_iff.mp (given_of_record hversion h),
    given_eq_some_iff.mp (given_of_record haiKey h)⟩

/-- A field says one thing only. -/
theorem Says.unique {values : List Tree} {a b : Option String} (ha : Says values a)
    (hb : Says values b) : a = b :=
  Option.some.inj ((given_eq_some_iff.mpr ha).symm.trans (given_eq_some_iff.mpr hb))

/-- A manifest is what the three fields of an object say, and its keys are texts. -/
theorem layout_object_iff {inside : Blank} {members : List (Member Tree)} {m : Manifest} :
    layout Json.Tree.Decoder.format (.object inside members) = some m ↔
      (∀ member ∈ members, (Letter.text? member.key).isSome) ∧
        Says (valuesUnder "name" members) m.name ∧
        Says (valuesUnder "version" members) m.version ∧
        Says (valuesUnder "aiKey" members) m.aiKey := by
  rw [layout_eq]
  refine record_eq_some_iff (by decide) (fun r hr => says_of_layout ((layout_eq _).trans hr)) ?_ ?_
  · rintro ⟨name, version, aiKey⟩ r ⟨hname, hversion, haiKey⟩ ⟨hname', hversion', haiKey'⟩
    obtain rfl := hname.unique hname'
    obtain rfl := hversion.unique hversion'
    obtain rfl := haiKey.unique haiKey'
    rfl
  · rintro r ⟨hname, hversion, haiKey⟩
    simp only [fields, List.forall_mem_cons]
    exact ⟨given_of_isSome (given_eq_some_iff.mpr hname),
      given_of_isSome (given_eq_some_iff.mpr hversion),
      given_of_isSome (given_eq_some_iff.mpr haiKey), List.forall_mem_nil _⟩

/-- What a field says that nothing is wrong with is not more than one value, `null` or a text. -/
theorem Says.not_wrong {values : List Tree} {value : Option String} (h : Says values value) :
    ¬ Wrong values := by
  rintro (hlength | ⟨t, ht, hkind⟩)
  · have hone : values.length ≤ 1 := by cases h <;> simp
    omega
  · cases h with
    | absent => cases ht
    | null =>
      obtain rfl := List.mem_singleton.mp ht
      exact hkind
    | text _ =>
      obtain rfl := List.mem_singleton.mp ht
      exact hkind

/-- A manifest is the text of an object exactly if it is what the fields of the object say. -/
theorem ofText_objectText_iff {before inside after : Blank} {members : List (Member Tree)}
    {m : Manifest} :
    ofText (objectText before inside after members) = .ok m ↔
      (∀ member ∈ members, (Letter.text? member.key).isSome) ∧
        Says (valuesUnder "name" members) m.name ∧
        Says (valuesUnder "version" members) m.version ∧
        Says (valuesUnder "aiKey" members) m.aiKey := by
  have hread := follows_layout.run_eq_ok_iff (p := ⟨before, .object inside members, after⟩) (a := m)
  rw [← layout_object_iff, ← hread, ofText, objectText]
  cases (Json.Reader.whole (layout Json.Reader.format)).run
      (Padded.render ⟨before, .object inside members, after⟩) with
  | ok r => simp
  | error fault => simp

/-- A text that is no manifest is refused with a fault in the text. -/
theorem ofText_eq_malformed {source : String} (h : ∀ m, ofText source ≠ .ok m) :
    ∃ fault, ofText source = .error (.malformed source fault) := by
  cases hrun : (Json.Reader.whole (layout Json.Reader.format)).run source with
  | ok m => exact absurd (by rw [ofText, hrun]) (h m)
  | error fault => exact ⟨fault, by rw [ofText, hrun]⟩

/-- The text of an object, with any white space and any other fields, is read as the manifest that the
three fields say, and as no other. It is refused as malformed if a field is given twice, or as
anything but `null` or a text, or if a key or the text of a field is none because half of a surrogate
pair is missing. A file with the text gives the same. The usable key comes from its field alone. -/
theorem reading_is_exact (before inside after : Blank) (members : List (Member Tree)) :
    (∀ m, ofText (objectText before inside after members) = .ok m ↔
      (∀ member ∈ members, (Letter.text? member.key).isSome) ∧
        Says (valuesUnder "name" members) m.name ∧
        Says (valuesUnder "version" members) m.version ∧
        Says (valuesUnder "aiKey" members) m.aiKey) ∧
    ((∃ name ∈ fieldNames, Wrong (valuesUnder name members)) →
      ∃ fault, ofText (objectText before inside after members) =
        .error (.malformed (objectText before inside after members) fault)) ∧
    (∀ (w : World) (path : String),
      w.files.lookup w.cwd path =
          .ok (.file (objectText before inside after members).toUTF8) →
        load w path = ofText (objectText before inside after members)) ∧
    (∀ (before' inside' after' : Blank) (others : List (Member Tree)) (m m' : Manifest),
      valuesUnder "aiKey" others = valuesUnder "aiKey" members →
        ofText (objectText before inside after members) = .ok m →
          ofText (objectText before' inside' after' others) = .ok m' →
            (KeySource.manifest m').usableKey = (KeySource.manifest m).usableKey) := by
  refine ⟨fun m => ofText_objectText_iff, fun ⟨name, hname, hwrong⟩ => ?_, fun w path hfile => ?_,
    fun _ _ _ others m m' hsame hm hm' => ?_⟩
  · refine ofText_eq_malformed fun m hm => ?_
    obtain ⟨-, hsaysName, hsaysVersion, hsaysKey⟩ := ofText_objectText_iff.mp hm
    simp only [fieldNames, List.mem_cons, List.not_mem_nil, or_false] at hname
    rcases hname with rfl | rfl | rfl
    · exact hsaysName.not_wrong hwrong
    · exact hsaysVersion.not_wrong hwrong
    · exact hsaysKey.not_wrong hwrong
  · rw [load, Filesystem.Tree.readText_of_lookup hfile]
  · obtain ⟨-, -, -, hsays⟩ := ofText_objectText_iff.mp hm
    obtain ⟨-, -, -, hsays'⟩ := ofText_objectText_iff.mp hm'
    rw [hsame] at hsays'
    rw [KeySource.usableKey, KeySource.usableKey, KeySource.held, KeySource.held,
      hsays'.unique hsays]

/-- The members of an object with a surrogate pair in the key, white space, and a field that nobody
asks for in which half of such a pair stands. -/
def sampleMembers : List (Member Tree) :=
  let three : Json.HexDigit := ⟨⟨3, by decide⟩, false⟩
  let eight : Json.HexDigit := ⟨⟨8, by decide⟩, false⟩
  let letterD : Json.HexDigit := ⟨⟨13, by decide⟩, false⟩
  let letterE : Json.HexDigit := ⟨⟨14, by decide⟩, false⟩
  let zero : Json.HexDigit := ⟨⟨0, by decide⟩, false⟩
  let half : Json.Code := ⟨letterD, letterE, zero, zero⟩
  [Tree.compactMember
      ("aiKey", .text [.code ⟨letterD, eight, three, letterD⟩, .code half, .short .slash]),
    ⟨⟨['\n'], List.forall_mem_singleton.mpr rfl⟩, Letter.ofText "x",
      ⟨[' '], List.forall_mem_singleton.mpr rfl⟩, .none,
      .array .none [⟨.none, .text [.code half], .none⟩], .none⟩,
    Tree.compactMember ("name", .null)]

/-- Its text is read. -/
theorem reads_sampleMembers :
    objectText .none .none .none sampleMembers =
        "\x7b\"aiKey\":\"\\ud83d\\ude00\\/\",\n\"x\" :[\"\\ude00\"],\"name\":null\x7d" ∧
      ofText (objectText .none .none .none sampleMembers) =
        .ok { name := none, version := none, aiKey := some "😀/" } := by
  refine ⟨by decide +kernel,
    ((reading_is_exact .none .none .none sampleMembers).1 _).mpr ⟨?_, ?_, ?_, ?_⟩⟩
  · simp [sampleMembers, Tree.compactMember]
  all_goals
    simp only [sampleMembers, Json.Tree.valuesUnder_cons, Tree.compactMember, Letter.text?_ofText,
      Option.some.injEq, String.reduceEq, if_true, if_false]
  · exact .null
  · exact .absent
  · exact .text (by decide +kernel)

/-- The members of an object with a key, and with a number under a name that is half of a surrogate
pair: `{"\ud800":1,"aiKey":"k"}`. -/
def halfMembers : List (Member Tree) :=
  let half : Json.Code :=
    ⟨⟨⟨13, by decide⟩, false⟩, ⟨⟨8, by decide⟩, false⟩, ⟨⟨0, by decide⟩, false⟩,
      ⟨⟨0, by decide⟩, false⟩⟩
  let one : Json.NumberText :=
    ⟨false, ⟨['1'], by decide, List.forall_mem_singleton.mpr rfl⟩, .inr ⟨'1', [], rfl, by decide⟩,
      none, none⟩
  [⟨.none, [.code half], .none, .none, .number one, .none⟩,
    Tree.compactMember ("aiKey", .text (Letter.ofText "k"))]

/-- An object in which nothing is wrong with the three fields need not be read: a name that is no text
makes it none, even where nobody asks for the field. -/
theorem not_reads_of_not_wrong :
    ¬ ∀ (before inside after : Blank) (members : List (Member Tree)),
      (∀ name ∈ fieldNames, ¬ Wrong (valuesUnder name members)) →
        ∃ m, ofText (objectText before inside after members) = .ok m := by
  intro hall
  have hkey : valuesUnder "aiKey" halfMembers = [.text (Letter.ofText "k")] := by rfl
  have hright : ∀ name ∈ fieldNames, ¬ Wrong (valuesUnder name halfMembers) := by
    simp only [fieldNames, List.forall_mem_cons, hkey]
    exact ⟨Says.absent.not_wrong, Says.absent.not_wrong,
      (Says.text (Letter.text?_ofText "k")).not_wrong, List.forall_mem_nil _⟩
  obtain ⟨m, hm⟩ := hall .none .none .none halfMembers hright
  have hkeys := (ofText_objectText_iff.mp hm).1
  exact absurd hkeys (by decide +kernel)

end TelemetryGate.Manifest
