import Mathlib.Data.List.Forall2
import Mathlib.Tactic.SplitIfs
import TelemetryGate.Json.Document
import TelemetryGate.Json.Printer
import TelemetryGate.Proofs.Entries

/-!
# Reading what was written

What is written for words, texts and objects is read as the same values again, whatever comes behind
it. An object is read with its members in the order of their keys, and of several members with one
key the last one counts.
-/

namespace TelemetryGate.Json

namespace Reader

variable {α β γ : Type}

/-- A reader finds a value at the front of some characters and leaves others behind. -/
def Reads (r : Reader α) (cs : List Char) (a : α) (left : List Char) : Prop :=
  ∀ offset, ∃ offset', r ⟨cs, offset⟩ = .ok (a, ⟨left, offset'⟩)

/-- One reader goes on where another one stops. -/
theorem Reads.bind {r : Reader α} {k : α → Reader β} {cs middle left : List Char} {a : α} {b : β}
    (h : Reads r cs a middle) (h' : Reads (k a) middle b left) : Reads (r >>= k) cs b left := by
  intro offset
  obtain ⟨between, hr⟩ := h offset
  obtain ⟨last, hk⟩ := h' between
  refine ⟨last, ?_⟩
  change (r ⟨cs, offset⟩ >>= fun p => k p.1 p.2) = _
  rw [hr]
  exact hk

theorem Reads.map {r : Reader α} {cs left : List Char} {a : α} (h : Reads r cs a left)
    (f : α → β) : Reads (f <$> r) cs (f a) left := by
  intro offset
  obtain ⟨last, hr⟩ := h offset
  refine ⟨last, ?_⟩
  change (r ⟨cs, offset⟩ >>= fun p => .ok (f p.1, p.2)) = _
  rw [hr]
  rfl

theorem reads_pure (a : α) (cs : List Char) : Reads (pure a) cs a cs := fun offset => ⟨offset, rfl⟩

theorem reads_advance (c : Char) (cs : List Char) : Reads advance (c :: cs) () cs :=
  fun _ => ⟨_, rfl⟩

theorem reads_bound (cs : List Char) : Reads bound cs (cs.length + 1) cs := fun offset => ⟨offset, rfl⟩

/-- A character that is no white space is found as it stands. -/
theorem reads_peekPastSpace {c : Char} (h : isSpace c = false) (cs : List Char) :
    Reads peekPastSpace (c :: cs) (some c) (c :: cs) := by
  have hnot : ¬ isSpace c = true := Bool.eq_false_iff.mp h
  have hspace : Reads (readWhile isSpace) (c :: cs) [] (c :: cs) := by
    intro offset
    refine ⟨offset, ?_⟩
    rw [readWhile, List.takeWhile_cons_of_neg hnot, List.dropWhile_cons_of_neg hnot]
    rfl
  exact hspace.bind fun offset => ⟨offset, rfl⟩

/-- The next character decides how a value is read. -/
theorem Reads.atValue {k : Char → Reader α} {c : Char} {cs left : List Char} {a : α}
    (hspace : isSpace c = false) (h : Reads (k c) (c :: cs) a left) :
    Reads (atValue k) (c :: cs) a left :=
  (reads_peekPastSpace hspace cs).bind h

/-! ## Words and texts -/

/-- A word that is expected is read. -/
theorem reads_word (cs rest : List Char) : Reads (word cs) (cs ++ rest) () rest := by
  induction cs with
  | nil => exact reads_pure () rest
  | cons c cs ih =>
    have hpeek : Reads peek (c :: (cs ++ rest)) (some c) (c :: (cs ++ rest)) :=
      fun offset => ⟨offset, rfl⟩
    refine hpeek.bind ?_
    simp only [if_pos]
    exact (reads_advance c _).bind ih

theorem reads_wordFrom (c : Char) (s : String) (rest : List Char) :
    Reads (wordFrom s) (c :: (s.toList ++ rest)) () rest :=
  (reads_advance c _).bind (reads_word s.toList rest)

/-- A digit is read as what it was written for, and takes one byte. -/
theorem hexValue_digitChar : ∀ d < 16, Text.hexValue (Nat.digitChar d) = some d ∧
    (Nat.digitChar d).utf8Size = 1 := by
  decide

/-- A digit of a code is added to the value. -/
theorem scanString_digit {d : Nat} (hd : d < 16) (offset value : Nat) (acc more : List Char)
    {missing : Nat} (hmissing : 1 < missing) :
    scanString true offset acc (.code missing (some value) none) (Nat.digitChar d :: more) =
      scanString true (offset + 1) acc (.code (missing - 1) (some (value * 16 + d)) none) more := by
  obtain ⟨hvalue, hsize⟩ := hexValue_digitChar d hd
  rw [scanString]
  simp only [hvalue, hsize, if_pos hmissing, Option.bind_some, Option.map_some]

/-- The code of a control character is no half of a surrogate pair. -/
theorem isHalf_of_control {n : Nat} (h : n < 0x20) :
    isFirstHalf n = false ∧ isSecondHalf n = false := by
  simp only [isFirstHalf, isSecondHalf, Bool.and_eq_false_imp, decide_eq_true_eq,
    decide_eq_false_iff_not]
  omega

/-- The code of a control character is read as that character. -/
theorem scanString_control {c : Char} (h : c.toNat < 0x20) (offset : Nat) (acc more : List Char) :
    scanString true offset acc .plain
        ('\\' :: 'u' :: '0' :: '0' :: Nat.digitChar (c.toNat / 16) ::
          Nat.digitChar (c.toNat % 16) :: more) =
      scanString true (offset + 6) (c :: acc) .plain more := by
  have hstart (rest : List Char) :
      scanString true offset acc .plain ('\\' :: 'u' :: Nat.digitChar 0 :: Nat.digitChar 0 :: rest) =
        scanString true (offset + 4) acc (.code 2 (some 0) none) rest := rfl
  obtain ⟨hvalue, hsize⟩ := hexValue_digitChar (c.toNat % 16) (by omega)
  have hcode : codeStep true (some (c.toNat / 16 * 16 + c.toNat % 16)) none = .ok (.plain, [c]) := by
    have hsum : c.toNat / 16 * 16 + c.toNat % 16 = c.toNat := by omega
    obtain ⟨hfirst, hsecond⟩ := isHalf_of_control h
    simp [codeStep, hsum, hsecond, hfirst]
  refine (hstart _).trans ?_
  rw [scanString_digit (by omega) _ _ _ _ (by decide), scanString]
  simp only [hvalue, hsize]
  simp [hcode]

/-- A character as it is written is scanned as that character. -/
theorem scanString_escapedChar (c : Char) (acc more : List Char) (offset : Nat) :
    ∃ offset', scanString true offset acc .plain (escapedChar c ++ more) =
      scanString true offset' (c :: acc) .plain more := by
  rw [escapedChar]
  split_ifs with hquote hbackslash hb hf hn hr ht hcontrol
  · subst hquote
    exact ⟨offset + 2, rfl⟩
  · subst hbackslash
    exact ⟨offset + 2, rfl⟩
  · subst hb
    exact ⟨offset + 2, rfl⟩
  · subst hf
    exact ⟨offset + 2, rfl⟩
  · subst hn
    exact ⟨offset + 2, rfl⟩
  · subst hr
    exact ⟨offset + 2, rfl⟩
  · subst ht
    exact ⟨offset + 2, rfl⟩
  · exact ⟨offset + 6, scanString_control hcontrol offset acc more⟩
  · refine ⟨offset + c.utf8Size, ?_⟩
    rw [List.singleton_append, scanString, if_neg hquote, if_neg hbackslash, if_neg hcontrol]
    rfl

/-- A text is read as it is written. -/
theorem reads_stringBody (s : String) (rest : List Char) :
    Reads stringBody (s.toList.flatMap escapedChar ++ '"' :: rest) s rest := by
  have hscan : ∀ (cs acc : List Char) (offset : Nat), ∃ offset',
      scanString true offset acc .plain (cs.flatMap escapedChar ++ '"' :: rest) =
        .ok (String.ofList (acc.reverse ++ cs), ⟨rest, offset'⟩) := by
    intro cs
    induction cs with
    | nil =>
      intro acc offset
      refine ⟨offset + 1, ?_⟩
      rw [List.flatMap_nil, List.nil_append, scanString, if_pos rfl, List.append_nil]
    | cons c cs ih =>
      intro acc offset
      obtain ⟨between, hstep⟩ := scanString_escapedChar c acc
        (cs.flatMap escapedChar ++ '"' :: rest) offset
      obtain ⟨last, hrest⟩ := ih (c :: acc) between
      refine ⟨last, ?_⟩
      rw [List.flatMap_cons, List.append_assoc, hstep, hrest, List.reverse_cons,
        List.append_assoc]
      rfl
  intro offset
  obtain ⟨last, h⟩ := hscan s.toList [] offset
  refine ⟨last, ?_⟩
  rw [List.reverse_nil, List.nil_append, String.ofList_toList] at h
  exact h

/-! ## Objects -/

/-- A brace ends an object. -/
theorem reads_hasKey_end (first : Bool) (cs : List Char) :
    Reads (hasKey first) ('\x7d' :: cs) false ('\x7d' :: cs) :=
  (reads_peekPastSpace rfl cs).bind (reads_pure false _)

/-- A quote begins the first key. -/
theorem reads_hasKey_first (cs : List Char) :
    Reads (hasKey true) ('"' :: cs) true ('"' :: cs) :=
  (reads_peekPastSpace rfl cs).bind (reads_pure true _)

/-- A comma and a quote begin a further key. -/
theorem reads_hasKey_more (cs : List Char) :
    Reads (hasKey false) (',' :: '"' :: cs) true ('"' :: cs) :=
  (reads_peekPastSpace rfl _).bind
    ((reads_advance ',' _).bind ((reads_peekPastSpace rfl cs).bind (reads_pure true _)))

theorem reads_colon (cs : List Char) : Reads colon (':' :: cs) () cs :=
  (reads_peekPastSpace rfl cs).bind (reads_advance ':' cs)

end Reader

/-- A text stands between quotes. -/
theorem textChars_append (s : String) (rest : List Char) :
    textChars s ++ rest = '"' :: (s.toList.flatMap escapedChar ++ '"' :: rest) := by
  rw [textChars, List.append_assoc]
  rfl

/-- The members of an object behind another one. -/
def moreChars : List (String × Value) → List Char
  | [] => []
  | members => ',' :: memberChars members

/-- The first member of an object stands before the others. -/
theorem memberChars_cons_append (m : String × Value) (members : List (String × Value))
    (rest : List Char) :
    memberChars (m :: members) ++ rest =
      textChars m.1 ++ ':' :: m.2.chars ++ (moreChars members ++ rest) := by
  cases members with
  | nil => simp [memberChars, moreChars]
  | cons next others => simp [memberChars, moreChars]

/-- What can stand behind a value: nothing, a comma or a bracket that closes. -/
def EndsValue (rest : List Char) : Prop := ∀ c ∈ rest.head?, c = ',' ∨ c = ']' ∨ c = '\x7d'

theorem endsValue_more (members : List (String × Value)) (rest : List Char) :
    EndsValue (moreChars members ++ '\x7d' :: rest) := by
  cases members with
  | nil =>
    rintro c ⟨⟩
    exact .inr (.inr rfl)
  | cons m members =>
    rintro c ⟨⟩
    exact .inl rfl

namespace Reader

variable {step : β → String → Reader β} {next : β → γ → β} {members : List (String × Value)}
  {effects : List γ}

/-- Every member has an effect: reading it changes what was collected so far. -/
def Effects (step : β → String → Reader β) (next : β → γ → β) (members : List (String × Value))
    (effects : List γ) : Prop :=
  List.Forall₂ (fun m e => ∀ acc rest, EndsValue rest →
    Reads (step acc m.1) (':' :: m.2.chars ++ rest) (next acc e) rest) members effects

/-- Once it is seen that there is a further key, its member is read, and then the others are. -/
theorem reads_member {m : String × Value} {e : γ} {acc result : β} {fuel : Nat} {first : Bool}
    {cs more rest : List Char}
    (hkey : Reads (hasKey first) cs true (textChars m.1 ++ ':' :: m.2.chars ++ more))
    (hmember : ∀ rest, EndsValue rest →
      Reads (step acc m.1) (':' :: m.2.chars ++ rest) (next acc e) rest)
    (hends : EndsValue more) (hmore : Reads (foldMembers step fuel false (next acc e)) more result rest) :
    Reads (foldMembers step (fuel + 1) first acc) cs result rest := by
  rw [List.append_assoc, textChars_append] at hkey
  exact hkey.bind ((reads_advance '"' _).bind
    ((reads_stringBody m.1 _).bind ((hmember more hends).bind hmore)))

/-- The members behind another one are read, one after the other. -/
theorem Effects.reads_more (h : Effects step next members effects) {fuel : Nat}
    (hfuel : members.length < fuel) (acc : β) (rest : List Char) :
    Reads (foldMembers step fuel false acc) (moreChars members ++ '\x7d' :: rest)
      (effects.foldl next acc) rest := by
  induction h generalizing fuel acc with
  | nil =>
    obtain ⟨fuel, rfl⟩ := Nat.exists_eq_add_one.mpr hfuel
    exact (reads_hasKey_end false rest).bind ((reads_advance _ rest).bind (reads_pure acc rest))
  | @cons m e members effects hm _ ih =>
    obtain ⟨fuel, rfl⟩ := Nat.exists_eq_add_one.mpr (Nat.zero_lt_of_lt hfuel)
    have hmore := ih (Nat.lt_of_succ_lt_succ hfuel) (next acc e)
    refine reads_member ?_ (hm acc) (endsValue_more members rest) hmore
    change Reads _ (',' :: (memberChars (m :: members) ++ _)) _ _
    rw [memberChars_cons_append, List.append_assoc, textChars_append]
    exact reads_hasKey_more _

/-- All members of an object are read, one after the other. -/
theorem Effects.reads (h : Effects step next members effects) {fuel : Nat}
    (hfuel : members.length < fuel) (acc : β) (rest : List Char) :
    Reads (foldMembers step fuel true acc) (memberChars members ++ '\x7d' :: rest)
      (effects.foldl next acc) rest := by
  obtain ⟨fuel, rfl⟩ := Nat.exists_eq_add_one.mpr (Nat.zero_lt_of_lt hfuel)
  cases h with
  | nil => exact (reads_hasKey_end true rest).bind ((reads_advance _ rest).bind (reads_pure acc rest))
  | @cons m e members effects hm hrest =>
    have hmore := Effects.reads_more hrest (Nat.lt_of_succ_lt_succ hfuel) (next acc e) rest
    refine reads_member ?_ (hm acc) (endsValue_more members rest) hmore
    rw [memberChars_cons_append, List.append_assoc, textChars_append]
    exact reads_hasKey_first _

/-- An object takes more characters than it has members. -/
theorem length_lt_length_memberChars (members : List (String × Value)) (rest : List Char) :
    members.length < (memberChars members ++ '\x7d' :: rest).length := by
  induction members with
  | nil => simp [memberChars]
  | cons m members ih =>
    rw [memberChars_cons_append]
    cases members with
    | nil =>
      simp only [List.length_append, List.length_cons, List.length_nil]
      omega
    | cons next others =>
      simp only [moreChars, List.length_append, List.length_cons] at ih ⊢
      omega

/-! ## Values -/

/-- What is written for a value is read as another one, at most so many brackets deep, with numbers
valued in some way. -/
def ReadsAsBy (valued : Valuation) (depth : Nat) (written read : Value) : Prop :=
  ∀ rest, EndsValue rest → Reads (valueBy valued depth) (written.chars ++ rest) read rest

/-- What is written for a value is read as another one. -/
abbrev ReadsAs := ReadsAsBy Numeral.value

variable {valued : Valuation}

theorem readsAs_null (depth : Nat) : ReadsAsBy valued (depth + 1) .null .null := fun rest _ =>
  .atValue rfl ((reads_wordFrom 'n' "ull" rest).bind (reads_pure _ rest))

theorem readsAs_bool (depth : Nat) (b : Bool) :
    ReadsAsBy valued (depth + 1) (.bool b) (.bool b) := by
  intro rest _
  cases b with
  | true => exact .atValue rfl ((reads_wordFrom 't' "rue" rest).bind (reads_pure _ rest))
  | false => exact .atValue rfl ((reads_wordFrom 'f' "alse" rest).bind (reads_pure _ rest))

theorem readsAs_text (depth : Nat) (s : String) :
    ReadsAsBy valued (depth + 1) (.text s) (.text s) := by
  intro rest _
  rw [Value.chars, textChars_append]
  exact .atValue rfl ((reads_advance '"' _).bind ((reads_stringBody s rest).map _))

/-- An object is read as its members in the order of their keys. -/
theorem readsAs_object {depth : Nat} {members read : List (String × Value)}
    (h : List.Forall₂ (fun m m' => m.1 = m'.1 ∧ ReadsAsBy valued (depth + 1) m.2 m'.2) members
      read) :
    ReadsAsBy valued (depth + 2) (.object members) (.object (Entries.ofList read)) := by
  intro rest _
  have heffects : Effects (fun acc key => do
      colon
      let v ← valueBy valued (depth + 1)
      pure (Entries.put key v acc)) (fun acc m => Entries.put m.1 m.2 acc) members read := by
    refine h.imp fun m m' hm acc rest hrest => ?_
    obtain ⟨hkey, hvalue⟩ := hm
    rw [hkey]
    exact (reads_colon _).bind ((hvalue rest hrest).bind (reads_pure _ rest))
  have hmembers := heffects.reads
    (Nat.lt_succ_of_lt (length_lt_length_memberChars members rest)) [] rest
  rw [Value.chars, List.append_assoc]
  exact .atValue rfl ((reads_advance '\x7b' _).bind
    ((reads_bound _).bind (hmembers.bind (reads_pure _ rest))))

/-- An object whose members are in the order of their keys is read as it is, if its members are. -/
theorem readsAs_rising {depth : Nat} {members : List (String × Value)}
    (hrising : Entries.Rising members)
    (h : ∀ m ∈ members, ReadsAsBy valued (depth + 1) m.2 m.2) :
    ReadsAsBy valued (depth + 2) (.object members) (.object members) := by
  have hobject := readsAs_object (List.forall₂_same.mpr fun m hm => ⟨rfl, h m hm⟩)
  rwa [hrising.ofList_eq] at hobject

/-- Entries that are written in any order are read in the order of their keys. -/
theorem readsAs_entries {α : Type} {depth : Nat} {json : α → Value} {written es : Entries α}
    (hperm : written.Perm es) (hrising : Entries.Rising es)
    (h : ∀ e ∈ es, ReadsAsBy valued (depth + 1) (json e.2) (json e.2)) :
    ReadsAsBy valued (depth + 2) (.object (written.mapValues json))
      (.object (es.mapValues json)) := by
  have hread : Entries.ofList (written.mapValues json) = es.mapValues json := by
    rw [Entries.mapValues, Entries.ofList_map, hrising.ofList_of_perm hperm]
  rw [← hread]
  apply readsAs_object
  rw [List.forall₂_same]
  intro m hm
  obtain ⟨e, he, rfl⟩ := List.mem_map.mp hm
  exact ⟨rfl, h e (hperm.mem_iff.mp he)⟩

/-- Texts under distinct keys are read in the order of the keys. -/
theorem readsAs_ofTexts (depth : Nat) {written es : Entries String} (hperm : written.Perm es)
    (hrising : Entries.Rising es) :
    ReadsAsBy valued (depth + 2) (.ofTexts written) (.ofTexts es) :=
  readsAs_entries hperm hrising fun e _ => readsAs_text depth e.2

end Reader

/-- The text of a value is read as what is written for it, in whatever way numbers are valued. -/
theorem Value.ofTextBy_render {valued : Valuation} {written read : Value}
    (h : Reader.ReadsAsBy valued 128 written read) :
    Value.ofTextBy valued written.render = .ok read := by
  have hend : Reader.Reads Reader.peekPastSpace [] none [] := fun offset => ⟨offset, rfl⟩
  have hread := h [] nofun
  rw [List.append_nil] at hread
  have hwhole : Reader.Reads (Reader.document valued) written.chars read [] :=
    hread.bind (hend.bind (Reader.reads_pure read []))
  obtain ⟨last, hrun⟩ := hwhole 0
  rw [Value.ofTextBy, Reader.run, Reader.start, Value.render, String.toList_ofList, hrun]
  rfl

/-- The text of a value is read as what is written for it. -/
theorem Value.ofText_render {written read : Value} (h : Reader.ReadsAs 128 written read) :
    Value.ofText written.render = .ok read :=
  Value.ofTextBy_render h

end TelemetryGate.Json
