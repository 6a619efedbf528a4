import TelemetryGate.Proofs.Json.Reading
import TelemetryGate.Proofs.Json.Trees

/-!
# Trees of compact text

The grammar of what is printed: text without white space, in which only those characters are escaped
that have to be. What is printed for a text, or for texts under keys, stands for these again.
-/

namespace TelemetryGate.Json

/-- The code of a control character. -/
def Code.control (n : Nat) (h : n < 0x20) : Code :=
  ⟨⟨0, false⟩, ⟨0, false⟩, ⟨⟨n / 16, by omega⟩, false⟩, ⟨⟨n % 16, by omega⟩, false⟩⟩

theorem Code.value_control {n : Nat} (h : n < 0x20) : (control n h).value = n := by
  simp only [value, control, Fin.val_zero]
  omega

namespace Letter

/-- The letter that a character is printed as. -/
def ofChar (c : Char) : Letter :=
  if hquote : c = '"' then .short .quote
  else if hbackslash : c = '\\' then .short .backslash
  else if c = '\x08' then .short .backspace
  else if c = '\x0c' then .short .formFeed
  else if c = '\n' then .short .newline
  else if c = '\r' then .short .carriageReturn
  else if c = '\t' then .short .tab
  else if hcontrol : c.toNat < 0x20 then .code (.control c.toNat hcontrol)
  else .plain c ⟨hquote, hbackslash, Nat.le_of_not_lt hcontrol⟩

theorem chars_ofChar (c : Char) : (ofChar c).chars = escapedChar c := by
  unfold ofChar escapedChar
  split_ifs <;> rfl

/-- A letter that a character is printed as stands for the character. -/
theorem decode_ofChar_cons (c : Char) (letters : List Letter) :
    decode (ofChar c :: letters) = (c :: ·) <$> decode letters := by
  unfold ofChar
  split_ifs with hquote hbackslash hb hf hn hr ht hcontrol
  · rw [hquote]; rfl
  · rw [hbackslash]; rfl
  · rw [hb]; rfl
  · rw [hf]; rfl
  · rw [hn]; rfl
  · rw [hr]; rfl
  · rw [ht]; rfl
  · obtain ⟨hfirst, hsecond⟩ := Reader.isHalf_of_control hcontrol
    rw [← Code.value_control hcontrol] at hsecond hfirst
    rw [decode_code hsecond hfirst, Code.value_control, Char.ofNat_toNat]
  · rfl

/-- The letters that a text is printed as. -/
def ofText (s : String) : List Letter := s.toList.map ofChar

theorem body_ofText (s : String) : '"' :: body (ofText s) = textChars s := by
  have hchars : (s.toList.map ofChar).flatMap chars = s.toList.flatMap escapedChar := by
    rw [List.flatMap_map]
    congr 1
    funext c
    exact chars_ofChar c
  rw [body, ofText, hchars]
  rfl

/-- They stand for the text. -/
@[simp]
theorem text?_ofText (s : String) : text? (ofText s) = some s := by
  have hdecode : ∀ cs : List Char, decode (cs.map ofChar) = some cs := by
    intro cs
    induction cs with
    | nil => rfl
    | cons c cs ih =>
      rw [List.map_cons, decode_ofChar_cons, ih]
      rfl
  rw [text?, ofText, hdecode]
  exact congrArg some (String.ofList_toList)

end Letter

namespace Tree

/-- A member as it is printed. -/
def compactMember (m : String × Tree) : Member Tree :=
  ⟨.none, Letter.ofText m.1, .none, .none, m.2, .none⟩

/-- An object as it is printed. -/
def compact (members : List (String × Tree)) : Tree := .object .none (members.map compactMember)

/-- An object is printed with members that are printed like those of a tree. -/
theorem chars_compact {trees : List (String × Tree)} {values : List (String × Value)}
    (h : List.Forall₂ (fun t v => t.1 = v.1 ∧ t.2.chars = v.2.chars) trees values) :
    (compact trees).chars = (Value.object values).chars := by
  have hmore : memberChars false (trees.map compactMember) = moreChars values := by
    induction h with
    | nil => rfl
    | @cons t v trees values hm _ ih =>
      have hcons := memberChars_cons_append v values []
      rw [List.append_nil, List.append_nil, ← ih, ← hm.1, ← hm.2, ← Letter.body_ofText] at hcons
      change ',' :: _ = ',' :: _
      rw [hcons]
      simp [Blank.none]
  have hall : memberChars true (trees.map compactMember) = Json.memberChars values := by
    cases h with
    | nil => rfl
    | cons hm hrest => exact (List.cons.inj hmore).2
  rw [compact, chars, hall, Value.chars]
  rfl

/-- A text as it is printed. -/
def ofText (s : String) : Tree := .text (Letter.ofText s)

/-- A text that may be absent as it is printed. -/
def ofOptionalText : Option String → Tree
  | none => .null
  | some s => ofText s

/-- Texts under keys as they are printed. -/
def ofTexts (es : Entries String) : Tree := compact (es.map fun e => (e.1, ofText e.2))

theorem chars_bool (b : Bool) : (Tree.bool b).chars = (Value.bool b).chars := by
  cases b <;> rfl

theorem chars_ofText (s : String) : (ofText s).chars = (Value.text s).chars :=
  Letter.body_ofText s

theorem chars_ofTexts (es : Entries String) : (ofTexts es).chars = (Value.ofTexts es).chars := by
  apply chars_compact
  rw [Entries.mapValues, List.forall₂_map_left_iff, List.forall₂_map_right_iff, List.forall₂_same]
  exact fun e _ => ⟨rfl, chars_ofText e.2⟩

/-- A value that is printed like a tree without white space around it has the text of the tree. -/
theorem render_eq {t : Tree} {v : Value} (h : t.chars = v.chars) :
    Padded.render ⟨.none, t, .none⟩ = v.render := by
  rw [Padded.render, Value.render, ← h]
  simp [Blank.none]

namespace Decoder

open Decoding (Field)

variable {α σ : Type}

/-- The member of a field makes the change of its value. -/
theorem record_compactMember {fields : List (Field Decoder σ)} {name : String} {d : Decoder α}
    {set : σ → α → σ} {t : Tree} {a : α} (hread : d t = some a)
    (hfield : fields.find? (·.name = name) = some (.of name d set)) {seen : List String}
    (hseen : name ∉ seen) (rest : List (Member Tree)) (acc : σ) :
    (·.1) <$> foldMembers (member fields) (compactMember (name, t) :: rest) (acc, seen) =
      (·.1) <$> foldMembers (member fields) rest (set acc a, name :: seen) := by
  have hchange : (Field.of name d set).read t = some fun r => set r a :=
    Option.map_eq_some_iff.mpr ⟨a, hread, rfl⟩
  rw [foldMembers_cons (m := compactMember (name, t)) (Letter.text?_ofText name), member]
  simp only [hfield, compactMember, hseen, if_false, hchange]
  rfl

theorem text_ofText (s : String) : text (ofText s) = some s := Letter.text?_ofText s

theorem optional_text_ofOptionalText (s : Option String) :
    optional text (ofOptionalText s) = some s := by
  cases s with
  | none => rfl
  | some s => exact congrArg (some <$> ·) (text_ofText s)

/-- Texts that are printed under keys in any order are texts under the same keys. -/
theorem texts_ofTexts {written es : Entries String} (hperm : written.Perm es)
    (hrising : Entries.Rising es) :
    texts (ofTexts written) = some es := by
  have hfold : ∀ (entries : List (String × String)) (acc : Entries String),
      foldMembers (fun (acc : Entries String) key t => acc.put key <$> text t)
        ((entries.map fun e => (e.1, ofText e.2)).map compactMember) acc =
        some (entries.foldl (fun acc e => acc.put e.1 e.2) acc) := by
    intro entries
    induction entries with
    | nil => exact fun acc => rfl
    | cons e entries ih =>
      intro acc
      rw [List.map_cons, List.map_cons, foldMembers_cons (Letter.text?_ofText e.1)]
      simp only [compactMember, text_ofText]
      exact ih _
  rw [ofTexts, compact, texts, hfold]
  exact congrArg some (hrising.ofList_of_perm hperm)

end Decoder

end Tree

end TelemetryGate.Json
