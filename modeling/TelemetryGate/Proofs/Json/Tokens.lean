import TelemetryGate.Proofs.Json.Grammar
import TelemetryGate.Proofs.Json.Numbers

/-!
# Reading the tokens of JSON text

White space is read past, a string is read as the text that its letters stand for or refused if they
stand for none, and a number is read whatever comes behind it that can come behind a value. A string
that is skipped is read past in any case.
-/

namespace TelemetryGate.Json

/-- What can come behind a value: nothing, white space, a comma or a bracket that closes. -/
def EndsTree (rest : List Char) : Prop :=
  ∀ c ∈ rest.head?, Reader.isSpace c = true ∨ c = ',' ∨ c = ']' ∨ c = '\x7d'

theorem endsTree_nil : EndsTree [] := nofun

theorem endsTree_cons {c : Char}
    (h : Reader.isSpace c = true ∨ c = ',' ∨ c = ']' ∨ c = '\x7d') (rest : List Char) :
    EndsTree (c :: rest) := by
  rintro d ⟨⟩
  exact h

/-- White space ends a value if what comes behind it does. -/
theorem Blank.endsTree (b : Blank) {rest : List Char} (h : EndsTree rest) :
    EndsTree (b.chars ++ rest) := by
  obtain ⟨cs, hspace⟩ := b
  cases cs with
  | nil => exact h
  | cons c cs => exact endsTree_cons (.inl (hspace c List.mem_cons_self)) _

/-- What ends a value is no digit, no point and no mark of an exponent. -/
theorem EndsTree.endsNumber {rest : List Char} (h : EndsTree rest) :
    ∀ c ∈ rest.head?, c.isDigit = false ∧ c ≠ '.' ∧ isExponentMark c = false := by
  intro c hc
  rcases h c hc with hspace | rfl | rfl | rfl
  · simp only [Reader.isSpace, Bool.or_eq_true, decide_eq_true_eq] at hspace
    rcases hspace with ((rfl | rfl) | rfl) | rfl <;> decide
  all_goals decide

namespace Reader

variable {α β : Type}

/-- A reader finds a value at the front of some characters and leaves others behind, or it stops with
a fault if there is none. -/
def Finds (r : Reader α) (cs : List Char) (found : Option α) (left : List Char) : Prop :=
  match found with
  | some a => Reads r cs a left
  | none => ∀ offset, ∃ fault, r ⟨cs, offset⟩ = .error fault

/-- A reader goes on with what another one finds. -/
theorem Finds.bind {r : Reader α} {k : α → Reader β} {cs middle left : List Char}
    {found : Option α} {f : α → Option β} (h : Finds r cs found middle)
    (h' : ∀ a, found = some a → Finds (k a) middle (f a) left) :
    Finds (r >>= k) cs (found.bind f) left := by
  cases found with
  | none =>
    intro offset
    obtain ⟨fault, hr⟩ := h offset
    refine ⟨fault, ?_⟩
    change (r ⟨cs, offset⟩ >>= fun p => k p.1 p.2) = _
    rw [hr]
    rfl
  | some a =>
    have hk := h' a rfl
    change Finds (r >>= k) cs (f a) left
    cases hf : f a with
    | some b =>
      rw [hf] at hk
      exact Reads.bind h hk
    | none =>
      rw [hf] at hk
      intro offset
      obtain ⟨between, hr⟩ := h offset
      obtain ⟨fault, hfault⟩ := hk between
      refine ⟨fault, ?_⟩
      change (r ⟨cs, offset⟩ >>= fun p => k p.1 p.2) = _
      rw [hr]
      exact hfault

/-- A reader goes on where another one stops. -/
theorem Reads.finds {r : Reader α} {k : α → Reader β} {cs middle left : List Char} {a : α}
    {found : Option β} (h : Reads r cs a middle) (h' : Finds (k a) middle found left) :
    Finds (r >>= k) cs found left := by
  have hr : Finds r cs (some a) middle := h
  exact hr.bind (f := fun _ => found) fun _ hb => Option.some.inj hb ▸ h'

theorem Finds.map {r : Reader α} {cs left : List Char} {found : Option α}
    (h : Finds r cs found left) (f : α → β) : Finds (f <$> r) cs (f <$> found) left := by
  cases found with
  | none =>
    intro offset
    obtain ⟨fault, hr⟩ := h offset
    refine ⟨fault, ?_⟩
    change (r ⟨cs, offset⟩ >>= fun p => .ok (f p.1, p.2)) = _
    rw [hr]
    rfl
  | some a => exact Reads.map h f

/-! ## White space -/

/-- White space is read past up to a character that is none. -/
theorem reads_readWhile_isSpace (b : Blank) {rest : List Char}
    (hrest : ∀ c ∈ rest.head?, isSpace c = false) :
    Reads (readWhile isSpace) (b.chars ++ rest) b.chars rest := by
  have hstop : rest.takeWhile isSpace = [] ∧ rest.dropWhile isSpace = rest := by
    cases rest with
    | nil => exact ⟨rfl, rfl⟩
    | cons c rest =>
      have hc : ¬ isSpace c = true := Bool.eq_false_iff.mp (hrest c rfl)
      exact ⟨List.takeWhile_cons_of_neg hc, List.dropWhile_cons_of_neg hc⟩
  intro offset
  refine ⟨offset + byteCount b.chars, ?_⟩
  rw [readWhile]
  simp only [List.takeWhile_append_of_pos b.isSpace, List.dropWhile_append_of_pos b.isSpace,
    hstop.1, hstop.2, List.append_nil]

/-- Behind white space the next character is found. -/
theorem reads_peekPastBlank (b : Blank) {c : Char} (h : isSpace c = false) (cs : List Char) :
    Reads peekPastSpace (b.chars ++ c :: cs) (some c) (c :: cs) := by
  refine (reads_readWhile_isSpace b ?_).bind (reads_peek (c :: cs))
  rintro d ⟨⟩
  exact h

/-- Behind white space the end is found. -/
theorem reads_peekPastBlank_end (b : Blank) : Reads peekPastSpace b.chars none [] := by
  have hend : ∀ c ∈ ([] : List Char).head?, isSpace c = false := nofun
  have hspace := reads_readWhile_isSpace b hend
  rw [List.append_nil] at hspace
  exact hspace.bind (reads_peek [])

/-- The next character behind white space decides how a value is read. -/
theorem Finds.atValue {k : Char → Reader α} (b : Blank) {c : Char} {cs left : List Char}
    {found : Option α} (hspace : isSpace c = false) (h : Finds (k c) (c :: cs) found left) :
    Finds (atValue k) (b.chars ++ c :: cs) found left :=
  (reads_peekPastBlank b hspace cs).finds h

/-! ## Strings -/

/-- A digit is read as its value, and takes one byte. -/
theorem hexValue_char (d : HexDigit) :
    Text.hexValue d.char = some d.value.val ∧ d.char.utf8Size = 1 := by
  obtain ⟨value, upper⟩ := d
  revert value upper
  decide

/-- A digit that does not complete a code is added to its value. -/
theorem scanString_hexDigit (keep : Bool) (offset value : Nat) (acc more : List Char)
    (first : Option Nat) (d : HexDigit) {missing : Nat} (hmissing : 1 < missing) :
    scanString keep offset acc (.code missing (some value) first) (d.char :: more) =
      scanString keep (offset + 1) acc (.code (missing - 1) (some (value * 16 + d.value)) first)
        more := by
  obtain ⟨hvalue, hsize⟩ := hexValue_char d
  rw [scanString]
  simp only [hvalue, hsize, if_pos hmissing, Option.bind_some, Option.map_some]

/-- Four digits are a complete code. -/
theorem scanString_code (keep : Bool) (offset : Nat) (acc more : List Char) (first : Option Nat)
    (u : Code) :
    scanString keep offset acc (.code 4 (some 0) first) (u.chars ++ more) =
      match codeStep keep (some u.value) first with
      | .error cause => .error ⟨cause, offset + 4⟩
      | .ok (state, add) => scanString keep (offset + 4) (add ++ acc) state more := by
  obtain ⟨hvalue, hsize⟩ := hexValue_char u.fourth
  change scanString keep offset acc (.code 4 (some 0) first)
    (u.first.char :: u.second.char :: u.third.char :: u.fourth.char :: more) = _
  rw [scanString_hexDigit _ _ _ _ _ _ _ (by decide), scanString_hexDigit _ _ _ _ _ _ _ (by decide),
    scanString_hexDigit _ _ _ _ _ _ _ (by decide), scanString]
  simp only [hvalue, hsize, Nat.reduceSub, Nat.lt_irrefl, if_false, Option.bind_some,
    Option.map_some, Nat.zero_mul, Nat.zero_add]
  rfl

theorem shortEscape_mark (e : ShortEscape) :
    shortEscape e.mark = some e.meaning ∧ e.mark ≠ 'u' := by
  cases e <;> exact ⟨rfl, by decide⟩

/-- A backslash and a letter are scanned as what they mean. -/
theorem scanString_short (keep : Bool) (offset : Nat) (acc more : List Char) (e : ShortEscape) :
    scanString keep offset acc .plain (Letter.chars (.short e) ++ more) =
      scanString keep (offset + 2) (if keep then e.meaning :: acc else acc) .plain more := by
  obtain ⟨hmeaning, hmark⟩ := shortEscape_mark e
  change scanString keep (offset + 1) acc .escape (e.mark :: more) = _
  rw [scanString, if_neg hmark, hmeaning]

/-- A character that stands for itself is scanned as itself. -/
theorem scanString_plain (keep : Bool) (offset : Nat) (acc more : List Char) {c : Char}
    (h : c ≠ '"' ∧ c ≠ '\\' ∧ 0x20 ≤ c.toNat) :
    scanString keep offset acc .plain (c :: more) =
      scanString keep (offset + c.utf8Size) (if keep then c :: acc else acc) .plain more := by
  rw [scanString, if_neg h.1, if_neg h.2.1, if_neg (Nat.not_lt.mpr h.2.2)]

/-- A code is scanned as what it does. -/
theorem scanString_letter_code (keep : Bool) (offset : Nat) (acc more : List Char) (u : Code) :
    scanString keep offset acc .plain (Letter.chars (.code u) ++ more) =
      match codeStep keep (some u.value) none with
      | .error cause => .error ⟨cause, offset + 6⟩
      | .ok (state, add) => scanString keep (offset + 6) (add ++ acc) state more :=
  scanString_code keep (offset + 2) acc more none u

/-- A string ends at a quote. -/
theorem scanString_quote (keep : Bool) (offset : Nat) (acc rest : List Char) :
    scanString keep offset acc .plain ('"' :: rest) =
      .ok (String.ofList acc.reverse, ⟨rest, offset + 1⟩) := by
  rw [scanString, if_pos rfl]

/-- What is scanned from letters: the text so far and then theirs, or a fault. -/
def Scans (scanned : Except Fault (String × Cursor)) (acc : List Char) (rest : List Char)
    (text : Option (List Char)) : Prop :=
  match text with
  | some cs => ∃ offset, scanned = .ok (String.ofList (acc.reverse ++ cs), ⟨rest, offset⟩)
  | none => ∃ fault, scanned = .error fault

/-- A character that was added to the text so far comes before the text of the letters that follow. -/
theorem Scans.cons {scanned : Except Fault (String × Cursor)} {acc rest : List Char} {c : Char}
    {text : Option (List Char)} (h : Scans scanned (c :: acc) rest text) :
    Scans scanned acc rest ((c :: ·) <$> text) := by
  cases text with
  | none => exact h
  | some cs =>
    obtain ⟨offset, h⟩ := h
    refine ⟨offset, h.trans ?_⟩
    rw [List.reverse_cons, List.append_assoc]
    rfl

/-- Behind the first half of a surrogate pair everything but a code is refused. -/
theorem scanString_unpaired (offset first : Nat) (acc rest : List Char) {letters : List Letter}
    (h : ∀ u more, letters ≠ .code u :: more) :
    ∃ fault, scanString true offset acc (.pairBackslash first) (Letter.body letters ++ rest) =
      .error fault := by
  cases letters with
  | nil => exact ⟨_, rfl⟩
  | cons letter more =>
    cases letter with
    | plain c hc =>
      refine ⟨⟨.unfinishedPair, offset + 1⟩, ?_⟩
      change scanString true offset acc (.pairBackslash first) (c :: _) = _
      rw [scanString, if_neg hc.2.1]
    | short e =>
      refine ⟨⟨.unfinishedPair, offset + 1 + 1⟩, ?_⟩
      change scanString true (offset + 1) acc (.pairLetter first) (e.mark :: _) = _
      rw [scanString, if_neg (shortEscape_mark e).2]
    | code u => exact absurd rfl (h u more)

/-- The letters of a string are scanned as the text that they stand for. -/
theorem scans_body (letters : List Letter) (rest acc : List Char) (offset : Nat) :
    Scans (scanString true offset acc .plain (Letter.body letters ++ rest)) acc rest
      (Letter.decode letters) := by
  have hcons (letter : Letter) (more : List Letter) :
      Letter.body (letter :: more) ++ rest = letter.chars ++ (Letter.body more ++ rest) := by
    simp [Letter.body]
  induction letters using Letter.decode.induct generalizing acc offset with
  | case1 =>
    refine ⟨offset + 1, ?_⟩
    rw [List.append_nil]
    exact scanString_quote true offset acc rest
  | case2 c hc more ih =>
    rw [hcons, Letter.decode]
    change Scans (scanString true offset acc .plain (c :: _)) _ _ _
    rw [scanString_plain true offset acc _ hc]
    exact (ih (c :: acc) _).cons
  | case3 e more ih =>
    rw [hcons, Letter.decode, scanString_short]
    exact (ih (e.meaning :: acc) _).cons
  | case4 u more hsecond =>
    have hstep : codeStep true (some u.value) none = .error .loneSurrogate := by
      simp [codeStep, hsecond]
    rw [hcons, Letter.decode.eq_def, scanString_letter_code, hstep]
    simp only [hsecond, if_true]
    exact ⟨_, rfl⟩
  | case5 u hsecond hfirst u' more hpair ih =>
    have hstep : codeStep true (some u.value) none = .ok (.pairBackslash u.value, []) := by
      simp [codeStep, hsecond, hfirst]
    have hsecondStep : codeStep true (some u'.value) (some u.value) =
        .ok (.plain, [pairChar u.value u'.value]) := by
      simp [codeStep, hpair]
    rw [hcons, Letter.decode.eq_def, scanString_letter_code, hstep]
    simp only [hsecond, hfirst, hpair, if_true, if_false, Bool.false_eq_true]
    rw [hcons]
    change Scans (scanString true (offset + 6 + 2) acc (.code 4 (some 0) (some u.value))
      (u'.chars ++ _)) _ _ _
    rw [scanString_code, hsecondStep]
    exact (ih (pairChar u.value u'.value :: acc) _).cons
  | case6 u hsecond hfirst u' more hpair =>
    have hstep : codeStep true (some u.value) none = .ok (.pairBackslash u.value, []) := by
      simp [codeStep, hsecond, hfirst]
    have hsecondStep : codeStep true (some u'.value) (some u.value) = .error .loneSurrogate := by
      simp [codeStep, hpair]
    rw [hcons, Letter.decode.eq_def, scanString_letter_code, hstep]
    simp only [hsecond, hfirst, hpair, if_true, if_false, Bool.false_eq_true]
    rw [hcons]
    change Scans (scanString true (offset + 6 + 2) acc (.code 4 (some 0) (some u.value))
      (u'.chars ++ _)) _ _ _
    rw [scanString_code, hsecondStep]
    exact ⟨_, rfl⟩
  | case7 u more hsecond hfirst hunpaired =>
    have hstep : codeStep true (some u.value) none = .ok (.pairBackslash u.value, []) := by
      simp [codeStep, hsecond, hfirst]
    have hdecode : Letter.decode (.code u :: more) = none := by
      rw [Letter.decode]
      · simp only [hsecond, hfirst, if_true, if_false, Bool.false_eq_true]
      · exact hunpaired
    rw [hcons, hdecode, scanString_letter_code, hstep]
    exact scanString_unpaired _ _ _ _ hunpaired
  | case8 u more hsecond hfirst ih =>
    have hstep : codeStep true (some u.value) none = .ok (.plain, [Char.ofNat u.value]) := by
      simp [codeStep, hsecond, hfirst]
    rw [hcons, Letter.decode_code (Bool.eq_false_iff.mpr hsecond) (Bool.eq_false_iff.mpr hfirst),
      scanString_letter_code, hstep]
    exact (ih (Char.ofNat u.value :: acc) _).cons

/-- A string is read as the text that its letters stand for, and refused if they stand for none. -/
theorem finds_stringBody (letters : List Letter) (rest : List Char) :
    Finds stringBody (Letter.body letters ++ rest) (Letter.text? letters) rest := by
  have hscans := scans_body letters rest []
  rw [Letter.text?]
  cases hdecode : Letter.decode letters with
  | none =>
    intro offset
    have hfault := hscans offset
    rw [hdecode] at hfault
    exact hfault
  | some cs =>
    intro offset
    have hread := hscans offset
    rw [hdecode] at hread
    exact hread

/-- A string is read past whatever its letters are. -/
theorem reads_skipStringBody (letters : List Letter) (rest : List Char) :
    Reads skipStringBody (Letter.body letters ++ rest) () rest := by
  have hscan : ∀ offset, ∃ offset', scanString false offset [] .plain (Letter.body letters ++ rest) =
      .ok ("", ⟨rest, offset'⟩) := by
    induction letters with
    | nil => exact fun offset => ⟨_, scanString_quote false offset [] rest⟩
    | cons letter more ih =>
      intro offset
      have hcons : Letter.body (letter :: more) ++ rest =
          letter.chars ++ (Letter.body more ++ rest) := by
        simp [Letter.body]
      rw [hcons]
      cases letter with
      | plain c hc =>
        change ∃ _, scanString false offset [] .plain (c :: _) = _
        rw [scanString_plain false offset [] _ hc]
        exact ih _
      | short e =>
        rw [scanString_short]
        exact ih _
      | code u =>
        rw [scanString_letter_code]
        exact ih _
  intro offset
  obtain ⟨last, hlast⟩ := hscan offset
  refine ⟨last, ?_⟩
  rw [skipStringBody]
  simp only [hlast]
  rfl

/-! ## Numbers -/

variable {cs rest : List Char} (cause : Cause)

theorem reads_sign (sign : Option Bool) {c : Char} (hc : c.isDigit = true) (more : List Char) :
    ∃ minus, Reads exponentSign (sign.toList.map (if · then '-' else '+') ++ c :: more) minus
      (c :: more) := by
  cases sign with
  | some minus =>
    refine ⟨minus, ?_⟩
    cases minus <;>
      exact (reads_peek _).bind ((reads_advance _ (c :: more)).bind (reads_pure _ (c :: more)))
  | none =>
    refine ⟨false, (reads_peek _).bind ?_⟩
    dsimp only [Option.toList, List.map_nil, List.nil_append, List.head?_cons]
    split
    · rename_i hplus
      cases hplus
      cases hc
    · rename_i hminus
      cases hminus
      cases hc
    · exact reads_pure false (c :: more)

/-- An exponent is read, and where no mark is, none is. -/
theorem reads_exponentChars (e : Option ExponentText)
    (hrest : ∀ c ∈ rest.head?, c.isDigit = false ∧ isExponentMark c = false) :
    ∃ found, Reads (exponentPart cause) (NumberText.exponentChars e ++ rest) found rest := by
  cases e with
  | none => exact ⟨none, reads_exponentPart_none cause fun c hc => (hrest c hc).2⟩
  | some e =>
    obtain ⟨upper, sign, ⟨digits, hne, hdigits⟩⟩ := e
    obtain ⟨d, more, rfl⟩ := List.exists_cons_of_ne_nil hne
    have hd := hdigits d List.mem_cons_self
    obtain ⟨minus, hsign⟩ := reads_sign sign hd (more ++ rest)
    have hread := reads_digits hdigits fun c hc => (hrest c hc).1
    have hmark : isExponentMark (if upper then 'E' else 'e') = true := by
      cases upper <;> rfl
    refine ⟨some (minus, (d :: more).map Text.digitValue), (reads_peek _).bind ?_⟩
    simp only [NumberText.exponentChars, ExponentText.chars, List.cons_append, List.append_assoc,
      List.head?_cons, hmark, if_true]
    refine (reads_advance _ _).bind (hsign.bind ((reads_peek _).bind ?_))
    dsimp only [List.head?_cons]
    rw [if_pos hd]
    exact hread.bind (reads_pure _ rest)

/-- The digits after the point are read, and where no point is, none are. -/
theorem reads_fractionChars (f : Option Digits)
    (hrest : ∀ c ∈ rest.head?, c.isDigit = false ∧ c ≠ '.') :
    ∃ found, Reads (fractionPart cause) (NumberText.fractionChars f ++ rest) found rest := by
  cases f with
  | none => exact ⟨_, reads_fractionPart cause (List.forall_mem_nil _) hrest⟩
  | some ds =>
    obtain ⟨digits, hne, hdigits⟩ := ds
    obtain ⟨d, more, rfl⟩ := List.exists_cons_of_ne_nil hne
    exact ⟨_, reads_fractionPart cause hdigits hrest⟩

/-- What comes behind the sign of a number is read into its parts. -/
theorem reads_body (n : NumberText) (hrest : EndsTree rest) (negative : Bool) :
    ∃ parts, Reads (numeralFrom cause negative) (n.body ++ rest) parts rest := by
  have hexponent : ∀ c ∈ (NumberText.exponentChars n.exponent ++ rest).head?,
      c.isDigit = false ∧ c ≠ '.' := by
    cases n.exponent with
    | none => exact fun c hc => (hrest.endsNumber c hc).imp_right And.left
    | some e =>
      rintro c ⟨⟩
      cases e.upper <;> decide
  have hfraction : ∀ c ∈ (NumberText.fractionChars n.fraction ++
      (NumberText.exponentChars n.exponent ++ rest)).head?, c.isDigit = false := by
    cases n.fraction with
    | none => exact fun c hc => (hexponent c hc).1
    | some ds =>
      rintro c ⟨⟩
      rfl
  obtain ⟨fraction, hreadFraction⟩ := reads_fractionChars cause n.fraction hexponent
  obtain ⟨exponent, hreadExponent⟩ := reads_exponentChars cause n.exponent fun c hc =>
    (hrest.endsNumber c hc).imp_right And.right
  rw [NumberText.body, List.append_assoc, List.append_assoc]
  exact ⟨_, (reads_wholePart cause n.leading n.whole.isDigit hfraction).bind
    (hreadFraction.bind (hreadExponent.bind (reads_pure _ rest)))⟩

/-- A number is read into its parts. -/
theorem reads_number (n : NumberText) (hrest : EndsTree rest) :
    ∃ parts, Reads (numeral cause) (n.chars ++ rest) parts rest := by
  obtain ⟨parts, hbody⟩ := reads_body cause n hrest n.negative
  exact ⟨parts, reads_numeral_of_numeralFrom cause n.body_eq_cons hbody⟩

end Reader

end TelemetryGate.Json
