import TelemetryGate.Json.Decoding
import TelemetryGate.Proofs.Json.Skipping
import TelemetryGate.Proofs.Json.Trees

/-!
# Readers follow the grammar

A reader of typed values finds in the text of a value what the written value stands for, and it stops
with a fault if the written value stands for nothing. This holds for the kinds of values of a format,
one after the other, and so for every record that is described by its fields.
-/

namespace TelemetryGate.Json.Reader

open Decoding (Field)

variable {α β σ : Type}

/-- A reader finds in the text of every value what the value stands for. -/
def Follows (r : Reader α) (d : Tree.Decoder α) : Prop :=
  ∀ (t : Tree) (b : Blank) (rest : List Char), EndsTree rest →
    Finds r (b.chars ++ (t.chars ++ rest)) (d t) rest

theorem Follows.map {r : Reader α} {d : Tree.Decoder α} (h : Follows r d) (f : α → β) :
    Follows (f <$> r) (f <$> d) :=
  fun t b rest hrest => (h t b rest hrest).map f

/-! ## Values of another kind -/

/-- A reader stops with a fault wherever it starts. -/
def Stops (r : Reader α) : Prop := ∀ c, ∃ fault, r c = .error fault

theorem Stops.finds {r : Reader α} (h : Stops r) (cs left : List Char) : Finds r cs none left :=
  fun offset => h ⟨cs, offset⟩

theorem stops_fail (cause : Cause) : Stops (fail cause : Reader α) := fun _ => ⟨_, rfl⟩

theorem stops_failAhead (cause : Cause) : Stops (failAhead cause : Reader α) := fun _ => ⟨_, rfl⟩

/-- A reader stops if it goes on to stop. -/
theorem stops_bind {r : Reader β} {k : β → Reader α} (h : ∀ b, Stops (k b)) : Stops (r >>= k) := by
  intro c
  change ∃ fault, (r c >>= fun p => k p.1 p.2) = _
  cases r c with
  | error fault => exact ⟨fault, rfl⟩
  | ok p => exact h p.1 p.2

/-- A value of another kind is never accepted. -/
theorem stops_wrongKind (expected : String) : Stops (wrongKind expected : Reader α) := by
  have hmismatch (found : Decoding.Found) : Stops (failMismatch found expected : Reader α) :=
    stops_fail _
  refine stops_bind fun next => ?_
  cases next with
  | none => exact stops_failAhead _
  | some c =>
    dsimp only
    split_ifs
    · exact stops_bind fun _ => hmismatch _
    · exact stops_bind fun _ => hmismatch _
    · exact stops_bind fun _ => hmismatch _
    · exact stops_bind fun _ => stops_bind fun _ => hmismatch _
    · refine stops_bind fun v => ?_
      cases v with
      | int i => exact hmismatch _
      | float x => exact hmismatch _
      | _ => exact stops_failAhead _
    · exact hmismatch _
    · exact hmismatch _
    · exact stops_failAhead _

/-- A value is refused whose first character leads to a stop. -/
theorem Stops.atValue {k : Char → Reader α} {t : Tree} {c : Char} {more : List Char}
    (hchars : t.chars = c :: more) (h : Stops (k c)) (b : Blank) (rest : List Char) :
    Finds (atValue k) (b.chars ++ (t.chars ++ rest)) none rest := by
  obtain ⟨d, others, hstart, hd⟩ := t.chars_eq_cons
  obtain ⟨rfl, -⟩ := List.cons.inj (hchars.symm.trans hstart)
  rw [hchars]
  exact Finds.atValue b hd.isSpace (h.finds _ rest)

/-- The first character of a number begins nothing else. -/
theorem number_chars_eq_cons (n : NumberText) : ∃ c more, (Tree.number n).chars = c :: more ∧
    ∀ d ∈ ['n', 't', 'f', '"', '[', '\x7b'], c ≠ d := by
  obtain ⟨c, more, hchars, hc⟩ := n.chars_eq_cons
  refine ⟨c, more, hchars, ?_⟩
  rintro d hd rfl
  have hall : ['n', 't', 'f', '"', '[', '\x7b'].all fun d => d != '-' && !d.isDigit := by decide
  obtain ⟨hminus, hdigit⟩ : c ≠ '-' ∧ c.isDigit = false := by
    simpa using List.all_eq_true.mp hall c hd
  exact absurd (hc.resolve_left hminus) (by simp [hdigit])

/-! ## Single values -/

theorem follows_flag : Follows flag Tree.Decoder.flag := by
  intro t b rest _
  cases t with
  | bool value =>
    cases value with
    | true =>
      exact Finds.atValue b rfl ((reads_wordFrom 't' "rue" rest).bind (reads_pure true rest))
    | false =>
      exact Finds.atValue b rfl ((reads_wordFrom 'f' "alse" rest).bind (reads_pure false rest))
  | null => exact Stops.atValue rfl (stops_wrongKind _) b rest
  | number n =>
    obtain ⟨c, more, hchars, hne⟩ := number_chars_eq_cons n
    refine Stops.atValue hchars ?_ b rest
    rw [if_neg (hne 't' (by decide)), if_neg (hne 'f' (by decide))]
    exact stops_wrongKind _
  | text letters => exact Stops.atValue rfl (stops_wrongKind _) b rest
  | array inside items => exact Stops.atValue rfl (stops_wrongKind _) b rest
  | object inside members => exact Stops.atValue rfl (stops_wrongKind _) b rest

theorem follows_textOf (expected : String) : Follows (textOf expected) Tree.Decoder.text := by
  intro t b rest _
  cases t with
  | text letters =>
    exact Finds.atValue b rfl ((reads_advance '"' _).finds (finds_stringBody letters rest))
  | null => exact Stops.atValue rfl (stops_wrongKind _) b rest
  | bool value =>
    cases value <;> exact Stops.atValue rfl (stops_wrongKind _) b rest
  | number n =>
    obtain ⟨c, more, hchars, hne⟩ := number_chars_eq_cons n
    refine Stops.atValue hchars ?_ b rest
    rw [if_neg (hne '"' (by decide))]
    exact stops_wrongKind _
  | array inside items => exact Stops.atValue rfl (stops_wrongKind _) b rest
  | object inside members => exact Stops.atValue rfl (stops_wrongKind _) b rest

theorem Follows.optional {r : Reader α} {d : Tree.Decoder α} (h : Follows r d) :
    Follows (optional r) d.optional := by
  intro t b rest hrest
  -- Whatever is not the word `null` is left to the reader of the value.
  have hother {c : Char} {more : List Char} (hchars : t.chars = c :: more) (hn : c ≠ 'n') :
      Finds (Reader.optional r) (b.chars ++ (t.chars ++ rest)) (some <$> d t) rest := by
    obtain ⟨e, others, hstart, he⟩ := t.chars_eq_cons
    obtain ⟨rfl, -⟩ := List.cons.inj (hchars.symm.trans hstart)
    have hvalue := (h t .none rest hrest).map some
    rw [hchars] at hvalue ⊢
    refine (reads_peekPastBlank b he.isSpace _).finds ?_
    split
    · rename_i heq
      exact absurd (Option.some.inj heq) hn
    · exact hvalue
  cases t with
  | null =>
    exact (reads_peekPastBlank b rfl _).finds
      ((reads_wordFrom 'n' "ull" rest).bind (reads_pure none rest))
  | bool value => cases value <;> exact hother rfl (by decide)
  | number n =>
    obtain ⟨c, more, hchars, hne⟩ := number_chars_eq_cons n
    exact hother hchars (hne 'n' (by decide))
  | text letters => exact hother rfl (by decide)
  | array inside items => exact hother rfl (by decide)
  | object inside members => exact hother rfl (by decide)

/-! ## Objects -/

theorem reads_blank_colon (between : Blank) (cs : List Char) :
    Reads colon (between.chars ++ ':' :: cs) () cs :=
  (reads_peekPastBlank between rfl cs).bind (reads_advance ':' cs)

/-- A brace ends an object. -/
theorem reads_hasKey_close (first : Bool) (blank : Blank) (rest : List Char) :
    Reads (hasKey first) (blank.chars ++ '\x7d' :: rest) false ('\x7d' :: rest) :=
  (reads_peekPastBlank blank rfl rest).bind (reads_pure false _)

/-- A quote begins a further key, behind a comma if it is not the first. -/
theorem reads_hasKey_key (first : Bool) (blank before : Blank) (cs : List Char) :
    Reads (hasKey first) (blank.chars ++ (comma first ++ (before.chars ++ '"' :: cs))) true
      ('"' :: cs) := by
  cases first with
  | true =>
    change Reads _ (blank.chars ++ (before.chars ++ '"' :: cs)) _ _
    rw [Blank.append_chars]
    exact (reads_peekPastBlank _ rfl cs).bind (reads_pure true _)
  | false =>
    exact (reads_peekPastBlank blank rfl _).bind ((reads_advance ',' _).bind
      ((reads_peekPastBlank before rfl cs).bind (reads_pure true _)))

/-- Behind the key of a member a step finds what the member makes of something. -/
def FollowsMember (step : β → String → Reader β) (follow : β → String → Tree → Option β) : Prop :=
  ∀ acc key t (between gap : Blank) rest, EndsTree rest →
    Finds (step acc key) (between.chars ++ ':' :: (gap.chars ++ (t.chars ++ rest)))
      (follow acc key t) rest

/-- The members of an object are followed one after the other. -/
theorem FollowsMember.finds {step : β → String → Reader β} {follow : β → String → Tree → Option β}
    (h : FollowsMember step follow) {members : List (Member Tree)} {fuel : Nat}
    (hfuel : members.length < fuel) (first : Bool) (blank : Blank) (acc : β) (rest : List Char) :
    Finds (foldMembers step fuel first acc)
      (blank.chars ++ (Tree.memberChars first members ++ '\x7d' :: rest))
      (Tree.Decoder.foldMembers follow members acc) rest := by
  induction members generalizing fuel first blank acc with
  | nil =>
    obtain ⟨fuel, rfl⟩ := Nat.exists_eq_add_one.mpr hfuel
    exact (reads_hasKey_close first blank rest).finds
      ((reads_advance _ rest).bind (reads_pure acc rest))
  | cons m members ih =>
    obtain ⟨before, key, between, gap, t, after⟩ := m
    obtain ⟨fuel, rfl⟩ := Nat.exists_eq_add_one.mpr (Nat.zero_lt_of_lt hfuel)
    have hends : EndsTree (after.chars ++ (Tree.memberChars false members ++ '\x7d' :: rest)) :=
      after.endsTree (endsTree_members members rest)
    rw [Tree.memberChars, Tree.Decoder.foldMembers]
    simp only [List.append_assoc, List.cons_append]
    refine (reads_hasKey_key first blank before _).finds ((reads_advance '"' _).finds ?_)
    refine (finds_stringBody key _).bind fun name _ => ?_
    refine (h acc name t between gap _ hends).bind fun acc _ => ?_
    exact ih (Nat.lt_of_succ_lt_succ hfuel) false after acc

/-- An object takes at least as many characters as it has members. -/
theorem length_le_length_memberChars (first : Bool) (members : List (Member Tree)) :
    members.length ≤ (Tree.memberChars first members).length := by
  induction members generalizing first with
  | nil => exact Nat.zero_le _
  | cons m members ih =>
    have hmore := ih false
    simp only [Tree.memberChars, List.length_append, List.length_cons]
    omega

/-- The members of an object are followed, with the bound on their number that is read before. -/
theorem FollowsMember.finds_object {step : β → String → Reader β}
    {follow : β → String → Tree → Option β} (h : FollowsMember step follow) (inside : Blank)
    (members : List (Member Tree)) (start : β) (rest : List Char) :
    Finds (do advance; let n ← bound; foldMembers step n true start)
      ((Tree.object inside members).chars ++ rest) (Tree.Decoder.foldMembers follow members start)
      rest := by
  rw [Tree.chars, List.cons_append, List.append_assoc, List.append_assoc]
  refine (reads_advance _ _).finds ((reads_bound _).finds (h.finds ?_ true inside start rest))
  have hlength := length_le_length_memberChars true members
  simp only [List.length_append, List.length_cons]
  omega

theorem follows_texts : Follows texts Tree.Decoder.texts := by
  have hmember : FollowsMember (fun (acc : Entries String) key => do
      colon
      let s ← textOf "a string"
      pure (acc.put key s)) (fun acc key t => acc.put key <$> Tree.Decoder.text t) := by
    intro acc key t between gap rest hrest
    refine (reads_blank_colon between _).finds ?_
    exact (follows_textOf "a string" t gap rest hrest).map fun s => Entries.put key s acc
  intro t b rest _
  cases t with
  | object inside members => exact Finds.atValue b rfl (hmember.finds_object inside members [] rest)
  | null => exact Stops.atValue rfl (stops_wrongKind _) b rest
  | bool value => cases value <;> exact Stops.atValue rfl (stops_wrongKind _) b rest
  | number n =>
    obtain ⟨c, more, hchars, hne⟩ := number_chars_eq_cons n
    refine Stops.atValue hchars ?_ b rest
    rw [if_neg (hne '\x7b' (by decide))]
    exact stops_wrongKind _
  | text letters => exact Stops.atValue rfl (stops_wrongKind _) b rest
  | array inside items => exact Stops.atValue rfl (stops_wrongKind _) b rest

/-! ## Records -/

/-- A field has the name of another one, and its value is followed. -/
def FollowsField (field : Field Reader σ) (field' : Field Tree.Decoder σ) : Prop :=
  field.name = field'.name ∧ Follows field.read field'.read

theorem Follows.field {r : Reader α} {d : Tree.Decoder α} (h : Follows r d) (name : String)
    (set : σ → α → σ) : FollowsField (.of name r set) (.of name d set) :=
  ⟨rfl, h.map _⟩

/-- Fields that follow each other are found under the same keys. -/
theorem find?_followed {fields : List (Field Reader σ)} {fields' : List (Field Tree.Decoder σ)}
    (h : List.Forall₂ FollowsField fields fields') (key : String) :
    fields.find? (·.name = key) = none ∧ fields'.find? (·.name = key) = none ∨
      ∃ field field', fields.find? (·.name = key) = some field ∧
        fields'.find? (·.name = key) = some field' ∧ FollowsField field field' := by
  induction h with
  | nil => exact .inl ⟨rfl, rfl⟩
  | @cons field field' fields fields' hfield _ ih =>
    rw [List.find?_cons, List.find?_cons, hfield.1]
    cases decide (field'.name = key) with
    | true => exact .inr ⟨field, field', rfl, rfl, hfield⟩
    | false => exact ih

theorem stops_repeatedField (name : String) : Stops (repeatedField name : Reader α) := by
  refine stops_bind fun next => ?_
  dsimp only
  split
  · exact stops_bind fun _ => stops_fail _
  · exact stops_fail _

/-- The members of a record are followed. -/
theorem followsMember_member {fields : List (Field Reader σ)}
    {fields' : List (Field Tree.Decoder σ)} (h : List.Forall₂ FollowsField fields fields') :
    FollowsMember (member fields) (Tree.Decoder.member fields') := by
  intro acc key t between gap rest hrest
  unfold member Tree.Decoder.member
  rcases find?_followed h key with ⟨hnone, hnone'⟩ | ⟨field, field', hsome, hsome', hfield⟩
  · rw [hnone, hnone']
    exact (reads_blank_colon between _).finds
      ((reads_skipValue t gap hrest).bind (reads_pure acc rest))
  · rw [hsome, hsome']
    dsimp only
    split_ifs
    · exact (stops_repeatedField key).finds _ rest
    · refine (reads_blank_colon between _).finds ?_
      exact (hfield.2 t gap rest hrest).map fun change => (change acc.1, key :: acc.2)

/-- A bracket ends an array. -/
theorem reads_hasItem_close (first : Bool) (blank : Blank) (rest : List Char) :
    Reads (hasItem first) (blank.chars ++ ']' :: rest) false (']' :: rest) :=
  (reads_peekPastBlank blank rfl rest).bind (reads_pure false _)

/-- A further item begins behind a comma if it is not the first. -/
theorem reads_hasItem_item (first : Bool) (blank before : Blank) {c : Char} (hc : Tree.Starts c)
    (more : List Char) :
    Reads (hasItem first) (blank.chars ++ (comma first ++ (before.chars ++ c :: more))) true
      (c :: more) := by
  have hclose : c ≠ ']' := hc.ne (by decide)
  cases first with
  | true =>
    change Reads _ (blank.chars ++ (before.chars ++ c :: more)) _ _
    rw [Blank.append_chars]
    refine (reads_peekPastBlank _ hc.isSpace more).bind ?_
    dsimp only
    rw [if_neg hclose]
    exact reads_pure true (c :: more)
  | false =>
    refine (reads_peekPastBlank blank rfl _).bind ((reads_advance ',' _).bind
      ((reads_peekPastBlank before hc.isSpace more).bind ?_))
    dsimp only
    rw [if_neg hclose]
    exact reads_pure true (c :: more)

/-- An array with more items than there are fields is refused. -/
theorem finds_endOfArray_item (first : Bool) (blank before : Blank) {c : Char}
    (hc : Tree.Starts c) (more left : List Char) :
    Finds endOfArray (blank.chars ++ (comma first ++ (before.chars ++ c :: more))) none left := by
  cases first with
  | true =>
    change Finds _ (blank.chars ++ (before.chars ++ c :: more)) _ _
    rw [Blank.append_chars]
    refine (reads_peekPastBlank _ hc.isSpace more).finds ?_
    dsimp only
    rw [if_neg (hc.ne (by decide)), if_neg (hc.ne (by decide))]
    exact (stops_failAhead _).finds _ left
  | false =>
    refine (reads_peekPastBlank blank rfl _).finds (Stops.finds ?_ _ left)
    refine stops_bind fun _ => stops_bind fun next => ?_
    split <;> exact stops_failAhead _

/-- The fields of a record are followed in an array. -/
theorem finds_positional {fields : List (Field Reader σ)} {fields' : List (Field Tree.Decoder σ)}
    (h : List.Forall₂ FollowsField fields fields') (items : List (Padded Tree)) (first : Bool)
    (blank : Blank) (acc : σ) (rest : List Char) :
    Finds (positional fields first acc)
      (blank.chars ++ (Tree.itemChars first items ++ ']' :: rest))
      (Tree.Decoder.positional fields' items acc) rest := by
  induction h generalizing items first blank acc with
  | nil =>
    cases items with
    | nil =>
      exact (((reads_peekPastBlank blank rfl rest).bind (reads_advance ']' rest))).bind
        (reads_pure acc rest)
    | cons item items =>
      obtain ⟨before, t, after⟩ := item
      obtain ⟨c, more, hchars, hc⟩ := t.chars_eq_cons
      simp only [Tree.itemChars, hchars, List.append_assoc, List.cons_append]
      exact (finds_endOfArray_item first blank before hc _ rest).bind
        (f := fun _ => none) nofun
  | @cons field field' fields fields' hfield _ ih =>
    cases items with
    | nil =>
      exact (reads_hasItem_close first blank rest).finds
        ((reads_advance ']' rest).bind (reads_pure acc rest))
    | cons item items =>
      obtain ⟨before, t, after⟩ := item
      obtain ⟨c, more, hchars, hc⟩ := t.chars_eq_cons
      have hends : EndsTree (after.chars ++ (Tree.itemChars false items ++ ']' :: rest)) :=
        after.endsTree (endsTree_items items rest)
      have hread := hfield.2 t .none _ hends
      have hitem := reads_hasItem_item first blank before hc (more ++ (after.chars ++
        (Tree.itemChars false items ++ ']' :: rest)))
      rw [← List.cons_append, ← hchars] at hitem
      simp only [Tree.itemChars, List.append_assoc]
      refine hitem.finds (hread.bind fun change _ => ?_)
      exact ih items false after (change acc)

/-- A record is followed if its fields are. -/
theorem follows_record {fields : List (Field Reader σ)} {fields' : List (Field Tree.Decoder σ)}
    (h : List.Forall₂ FollowsField fields fields') (title : String) (start : σ) :
    Follows (record title fields start) (Tree.Decoder.record fields' start) := by
  intro t b rest _
  cases t with
  | object inside members =>
    exact Finds.atValue b rfl
      (((followsMember_member h).finds_object inside members (start, []) rest).map (·.1))
  | array inside items =>
    refine Finds.atValue b rfl ((reads_advance '[' _).finds ?_)
    change Finds _ (inside.chars ++ (Tree.itemChars true items ++ [']']) ++ rest) _ _
    rw [List.append_assoc, List.append_assoc]
    exact finds_positional h items true inside start rest
  | null => exact Stops.atValue rfl (stops_wrongKind _) b rest
  | bool value => cases value <;> exact Stops.atValue rfl (stops_wrongKind _) b rest
  | number n =>
    obtain ⟨c, more, hchars, hne⟩ := number_chars_eq_cons n
    refine Stops.atValue hchars ?_ b rest
    rw [if_neg (hne '[' (by decide)), if_neg (hne '\x7b' (by decide))]
    exact stops_wrongKind _
  | text letters => exact Stops.atValue rfl (stops_wrongKind _) b rest

/-! ## Whole texts -/

/-- White space around a value is read past, and nothing comes behind it. -/
theorem Follows.whole {r : Reader α} {d : Tree.Decoder α} (h : Follows r d) (p : Padded Tree) :
    Finds (whole r) p.render.toList (d p.value) [] := by
  have hend := p.after.endsTree endsTree_nil
  rw [List.append_nil] at hend
  have hwhole : Finds (Reader.whole r) (p.before.chars ++ (p.value.chars ++ p.after.chars))
      ((d p.value).bind some) [] :=
    (h p.value p.before p.after.chars hend).bind fun a _ =>
      (reads_peekPastBlank_end p.after).bind (reads_pure a [])
  rw [Padded.render, String.toList_ofList]
  rwa [Option.bind_fun_some] at hwhole

/-- A text is read as what its value stands for. -/
theorem Follows.run_eq_ok {r : Reader α} {d : Tree.Decoder α} (h : Follows r d) {p : Padded Tree}
    {a : α} (hp : d p.value = some a) : (Reader.whole r).run p.render = .ok a := by
  have hwhole := h.whole p
  rw [hp] at hwhole
  obtain ⟨last, hread⟩ := hwhole 0
  change Except.map _ (Reader.whole r ⟨p.render.toList, 0⟩) = _
  rw [hread]
  rfl

/-- A text is refused if its value stands for nothing. -/
theorem Follows.run_eq_error {r : Reader α} {d : Tree.Decoder α} (h : Follows r d)
    {p : Padded Tree} (hp : d p.value = none) :
    ∃ fault, (Reader.whole r).run p.render = .error fault := by
  have hwhole := h.whole p
  rw [hp] at hwhole
  obtain ⟨fault, hfault⟩ := hwhole 0
  refine ⟨fault, ?_⟩
  change Except.map _ (Reader.whole r ⟨p.render.toList, 0⟩) = _
  rw [hfault]
  rfl

/-- A text is read only as what its value stands for. -/
theorem Follows.run_eq_ok_iff {r : Reader α} {d : Tree.Decoder α} (h : Follows r d)
    {p : Padded Tree} {a : α} : (Reader.whole r).run p.render = .ok a ↔ d p.value = some a := by
  refine ⟨fun hrun => ?_, h.run_eq_ok⟩
  cases hp : d p.value with
  | none =>
    obtain ⟨fault, hfault⟩ := h.run_eq_error hp
    cases hrun.symm.trans hfault
  | some b =>
    cases hrun.symm.trans (h.run_eq_ok hp)
    rfl

end TelemetryGate.Json.Reader
