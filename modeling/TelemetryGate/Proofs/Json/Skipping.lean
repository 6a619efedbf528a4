import TelemetryGate.Json.Skip
import TelemetryGate.Proofs.Json.Tokens

/-!
# Skipping values

Every value of the grammar is read past, whatever it holds and however deep it is nested. The skipping
machine goes from waiting for the value to having read it in at most three steps for each character,
so its bound on the number of steps is never reached.
-/

namespace TelemetryGate.Json.Reader

/-- Where the skipping machine stands. -/
structure Skipping where
  /-- What it waits for. -/
  state : SkipState
  /-- The brackets that are open. -/
  stack : List Bracket
  /-- The characters that were not read yet. -/
  rest : List Char

/-- The machine goes from one standing to another in some number of steps. -/
def Steps (n : Nat) (a b : Skipping) : Prop :=
  ∀ fuel offset, ∃ offset', skipLoop (fuel + n) a.state a.stack ⟨a.rest, offset⟩ =
    skipLoop fuel b.state b.stack ⟨b.rest, offset'⟩

theorem Steps.trans {m n : Nat} {a b c : Skipping} (h : Steps m a b) (h' : Steps n b c) :
    Steps (m + n) a c := by
  intro fuel offset
  obtain ⟨between, hfirst⟩ := h (fuel + n) offset
  obtain ⟨last, hrest⟩ := h' fuel between
  refine ⟨last, ?_⟩
  rw [Nat.add_comm m n, ← Nat.add_assoc, hfirst, hrest]

/-- What one step reads moves the machine. -/
theorem steps_one {a b : Skipping}
    (h : Reads (skipStep a.state a.stack) a.rest (some (b.state, b.stack)) b.rest) :
    Steps 1 a b := by
  intro fuel offset
  obtain ⟨last, hstep⟩ := h offset
  refine ⟨last, ?_⟩
  rw [skipLoop]
  change (skipStep a.state a.stack ⟨a.rest, offset⟩ >>= fun p => _) = _
  rw [hstep]
  rfl

/-- A machine without open brackets stops. -/
theorem Steps.reads {n : Nat} {cs rest : List Char} (h : Steps n ⟨.value, [], cs⟩ ⟨.valued, [], rest⟩)
    {fuel : Nat} (hfuel : n < fuel) : Reads (skipLoop fuel .value []) cs () rest := by
  obtain ⟨more, rfl⟩ := Nat.exists_eq_add_of_lt hfuel
  intro offset
  obtain ⟨last, hsteps⟩ := h (more + 1) offset
  refine ⟨last, ?_⟩
  rw [show n + more + 1 = more + 1 + n by omega]
  exact hsteps

variable {stack : List Bracket} {rest : List Char}

/-- What a value that is not in brackets is read past by takes one step. -/
theorem steps_simple {cs : List Char} (h : Reads skipSimple cs none rest) :
    Steps 1 ⟨.value, stack, cs⟩ ⟨.valued, stack, rest⟩ :=
  steps_one (h.bind (reads_pure _ rest))

/-- So does an opening bracket. -/
theorem steps_open {cs : List Char} {b : Bracket} (h : Reads skipSimple cs (some b) rest) :
    Steps 1 ⟨.value, stack, cs⟩ ⟨.opened, b :: stack, rest⟩ :=
  steps_one (h.bind (reads_pure _ rest))

theorem steps_null (b : Blank) :
    Steps 1 ⟨.value, stack, b.chars ++ (Tree.null.chars ++ rest)⟩ ⟨.valued, stack, rest⟩ :=
  steps_simple ((reads_peekPastBlank b rfl _).bind
    ((reads_wordFrom 'n' "ull" rest).bind (reads_pure _ rest)))

theorem steps_bool (b : Blank) (flag : Bool) :
    Steps 1 ⟨.value, stack, b.chars ++ ((Tree.bool flag).chars ++ rest)⟩
      ⟨.valued, stack, rest⟩ := by
  cases flag with
  | true =>
    exact steps_simple ((reads_peekPastBlank b rfl _).bind
      ((reads_wordFrom 't' "rue" rest).bind (reads_pure _ rest)))
  | false =>
    exact steps_simple ((reads_peekPastBlank b rfl _).bind
      ((reads_wordFrom 'f' "alse" rest).bind (reads_pure _ rest)))

theorem steps_text (b : Blank) (letters : List Letter) :
    Steps 1 ⟨.value, stack, b.chars ++ ((Tree.text letters).chars ++ rest)⟩
      ⟨.valued, stack, rest⟩ :=
  steps_simple ((reads_peekPastBlank b rfl _).bind ((reads_advance '"' _).bind
    ((reads_skipStringBody letters rest).bind (reads_pure _ rest))))

theorem steps_number (b : Blank) (n : NumberText) (hrest : EndsTree rest) :
    Steps 1 ⟨.value, stack, b.chars ++ ((Tree.number n).chars ++ rest)⟩
      ⟨.valued, stack, rest⟩ := by
  obtain ⟨parts, hread⟩ := reads_number .invalidNumber n hrest
  obtain ⟨c, more, hchars, hc⟩ := n.chars_eq_cons
  have hstarts : Tree.Starts c := hc.imp_left fun h => by simp [h]
  have hother (d : Char) (hd : d ≠ '-' ∧ d.isDigit = false) : c ≠ d := by
    rintro rfl
    exact absurd (hc.resolve_left hd.1) (by simp [hd.2])
  refine steps_simple ?_
  rw [Tree.chars, hchars, List.cons_append]
  rw [hchars, List.cons_append] at hread
  refine (reads_peekPastBlank b hstarts.isSpace _).bind ?_
  change Reads (if c = 'n' then _ else if c = 't' then _ else if c = 'f' then _ else
    if c = '"' then _ else if c = '-' ∨ c.isDigit then _ else _) _ _ _
  rw [if_neg (hother 'n' (by decide)), if_neg (hother 't' (by decide)),
    if_neg (hother 'f' (by decide)), if_neg (hother '"' (by decide)), if_pos hc]
  exact (hread.bind (reads_pure () rest)).bind (reads_pure _ rest)

/-! ## Entries of a bracket -/

/-- What the machine waits for before an entry. -/
def readyFor (first : Bool) : SkipState := if first then .opened else .valued

/-- The end of a bracket takes one step. -/
theorem steps_close (first : Bool) (blank : Blank) (b : Bracket) :
    Steps 1 ⟨readyFor first, b :: stack, blank.chars ++ b.close :: rest⟩
      ⟨.valued, stack, rest⟩ := by
  have hpeek : Reads peekPastSpace (blank.chars ++ b.close :: rest) (some b.close)
      (b.close :: rest) := reads_peekPastBlank blank (by cases b <;> rfl) rest
  have hcomma : b.close ≠ ',' := by cases b <;> decide
  refine steps_one ?_
  cases first with
  | true =>
    refine hpeek.bind ?_
    dsimp only
    rw [if_pos rfl]
    exact (reads_advance _ rest).bind (reads_pure _ rest)
  | false =>
    refine hpeek.bind ?_
    dsimp only
    rw [if_neg hcomma, if_pos rfl]
    exact (reads_advance _ rest).bind (reads_pure _ rest)

/-- A further entry takes one step, which reads the comma before it. -/
theorem steps_entry (first : Bool) (blank before : Blank) (b : Bracket) {c : Char}
    {more : List Char} (hc : Tree.Starts c) :
    ∃ left : Blank, Steps 1
      ⟨readyFor first, b :: stack, blank.chars ++ (comma first ++ (before.chars ++ c :: more))⟩
      ⟨.entry, b :: stack, left.chars ++ c :: more⟩ := by
  cases first with
  | true =>
    have hclose : c ≠ b.close := hc.ne (by cases b <;> decide)
    refine ⟨.none, steps_one ?_⟩
    change Reads (skipStep .opened (b :: stack)) (blank.chars ++ (before.chars ++ c :: more)) _ _
    rw [Blank.append_chars]
    refine (reads_peekPastBlank _ hc.isSpace more).bind ?_
    dsimp only
    rw [if_neg hclose]
    exact reads_pure _ (c :: more)
  | false =>
    refine ⟨before, steps_one ?_⟩
    exact (reads_peekPastBlank blank rfl _).bind ((reads_advance ',' _).bind (reads_pure _ _))

/-- The key of a member and its colon take one step. -/
theorem steps_key (before between : Blank) (key : List Letter) :
    Steps 1
      ⟨.entry, .object :: stack,
        before.chars ++ '"' :: (Letter.body key ++ (between.chars ++ ':' :: rest))⟩
      ⟨.value, .object :: stack, rest⟩ := by
  have hkey : Reads skipKey
      (before.chars ++ '"' :: (Letter.body key ++ (between.chars ++ ':' :: rest))) () rest :=
    (reads_peekPastBlank before rfl _).bind
      ((reads_advance '"' _).bind ((reads_skipStringBody key _).bind
        ((reads_peekPastBlank between rfl _).bind (reads_advance ':' rest))))
  exact steps_one (hkey.bind (reads_pure _ rest))

/-! ## Values -/

theorem endsTree_items (items : List (Padded Tree)) (rest : List Char) :
    EndsTree (Tree.itemChars false items ++ ']' :: rest) := by
  cases items with
  | nil => exact endsTree_cons (by decide) rest
  | cons item items => exact endsTree_cons (by decide) _

theorem endsTree_members (members : List (Member Tree)) (rest : List Char) :
    EndsTree (Tree.memberChars false members ++ '\x7d' :: rest) := by
  cases members with
  | nil => exact endsTree_cons (by decide) rest
  | cons member members => exact endsTree_cons (by decide) _

/-- How many steps the entries of a bracket take at most, if they have so many characters. -/
def stepsOf (first : Bool) (length : Nat) : Nat := 3 * length + if first then 3 else 1

mutual

/-- A value is read past in at most three steps for each character. -/
theorem steps_tree (t : Tree) (b : Blank) (stack : List Bracket) {rest : List Char}
    (hrest : EndsTree rest) : ∃ n ≤ 3 * t.chars.length,
      Steps n ⟨.value, stack, b.chars ++ (t.chars ++ rest)⟩ ⟨.valued, stack, rest⟩ :=
  match t with
  | .null => ⟨1, by simp [Tree.chars], steps_null b⟩
  | .bool flag => ⟨1, by cases flag <;> simp [Tree.chars], steps_bool b flag⟩
  | .text letters => ⟨1, by simp only [Tree.chars, List.length_cons]; omega, steps_text b letters⟩
  | .number n => by
    obtain ⟨c, more, hchars, -⟩ := n.chars_eq_cons
    exact ⟨1, by simp only [Tree.chars, hchars, List.length_cons]; omega, steps_number b n hrest⟩
  | .array inside items => by
    obtain ⟨n, hn, hitems⟩ := steps_items items true inside stack rest
    have hopen : Steps 1 ⟨.value, stack, b.chars ++ ((Tree.array inside items).chars ++ rest)⟩
        ⟨.opened, .array :: stack, inside.chars ++ (Tree.itemChars true items ++ ']' :: rest)⟩ := by
      rw [Tree.chars, List.cons_append, List.append_assoc, List.append_assoc]
      exact steps_open ((reads_peekPastBlank b rfl _).bind
        ((reads_advance '[' _).bind (reads_pure _ _)))
    refine ⟨1 + n, ?_, hopen.trans hitems⟩
    rw [stepsOf, if_pos rfl] at hn
    simp only [Tree.chars, List.length_cons, List.length_append, List.length_nil]
    omega
  | .object inside members => by
    obtain ⟨n, hn, hmembers⟩ := steps_members members true inside stack rest
    have hopen : Steps 1 ⟨.value, stack, b.chars ++ ((Tree.object inside members).chars ++ rest)⟩
        ⟨.opened, .object :: stack,
          inside.chars ++ (Tree.memberChars true members ++ '\x7d' :: rest)⟩ := by
      rw [Tree.chars, List.cons_append, List.append_assoc, List.append_assoc]
      exact steps_open ((reads_peekPastBlank b rfl _).bind
        ((reads_advance '\x7b' _).bind (reads_pure _ _)))
    refine ⟨1 + n, ?_, hopen.trans hmembers⟩
    rw [stepsOf, if_pos rfl] at hn
    simp only [Tree.chars, List.length_cons, List.length_append, List.length_nil]
    omega

/-- Items are read past up to the end of their array. -/
theorem steps_items (items : List (Padded Tree)) (first : Bool) (b : Blank)
    (stack : List Bracket) (rest : List Char) :
    ∃ n ≤ stepsOf first (Tree.itemChars first items).length,
      Steps n ⟨readyFor first, .array :: stack,
        b.chars ++ (Tree.itemChars first items ++ ']' :: rest)⟩ ⟨.valued, stack, rest⟩ :=
  match items with
  | [] => ⟨1, by cases first <;> simp [stepsOf], steps_close first b .array⟩
  | ⟨before, t, after⟩ :: items => by
    obtain ⟨m, hm, hmore⟩ := steps_items items false after stack rest
    have hends : EndsTree (after.chars ++ (Tree.itemChars false items ++ ']' :: rest)) :=
      after.endsTree (endsTree_items items rest)
    obtain ⟨c, more, hchars, hc⟩ := t.chars_eq_cons
    obtain ⟨left, hentry⟩ := steps_entry first b before .array hc
    obtain ⟨n, hn, hvalue⟩ := steps_tree t left (.array :: stack) hends
    have hready : Steps 1 ⟨.entry, .array :: stack, _⟩ ⟨.value, .array :: stack, _⟩ :=
      steps_one (reads_pure _ (left.chars ++ (t.chars ++ (after.chars ++
        (Tree.itemChars false items ++ ']' :: rest)))))
    refine ⟨1 + (1 + (n + m)), ?_, ?_⟩
    · rw [stepsOf, if_neg Bool.false_ne_true] at hm
      simp only [Tree.itemChars, List.length_append, stepsOf]
      cases first <;> simp [comma] <;> omega
    · rw [Tree.itemChars]
      simp only [List.append_assoc]
      refine Steps.trans ?_ (hready.trans (hvalue.trans hmore))
      rw [hchars, List.cons_append]
      exact hentry

/-- Members are read past up to the end of their object. -/
theorem steps_members (members : List (Member Tree)) (first : Bool) (b : Blank)
    (stack : List Bracket) (rest : List Char) :
    ∃ n ≤ stepsOf first (Tree.memberChars first members).length,
      Steps n ⟨readyFor first, .object :: stack,
        b.chars ++ (Tree.memberChars first members ++ '\x7d' :: rest)⟩ ⟨.valued, stack, rest⟩ :=
  match members with
  | [] => ⟨1, by cases first <;> simp [stepsOf], steps_close first b .object⟩
  | ⟨before, key, between, gap, t, after⟩ :: members => by
    obtain ⟨m, hm, hmore⟩ := steps_members members false after stack rest
    have hends : EndsTree (after.chars ++ (Tree.memberChars false members ++ '\x7d' :: rest)) :=
      after.endsTree (endsTree_members members rest)
    obtain ⟨n, hn, hvalue⟩ := steps_tree t gap (.object :: stack) hends
    have hquote : Tree.Starts '"' := by decide
    obtain ⟨left, hentry⟩ := steps_entry first b before .object hquote
    refine ⟨1 + (1 + (n + m)), ?_, ?_⟩
    · rw [stepsOf, if_neg Bool.false_ne_true] at hm
      simp only [Tree.memberChars, List.length_append, List.length_cons, stepsOf]
      cases first <;> simp [comma] <;> omega
    · rw [Tree.memberChars]
      simp only [List.append_assoc, List.cons_append]
      exact hentry.trans ((steps_key left between key).trans (hvalue.trans hmore))

end

/-- Every value is read past. -/
theorem reads_skipValue (t : Tree) (b : Blank) {rest : List Char} (hrest : EndsTree rest) :
    Reads skipValue (b.chars ++ (t.chars ++ rest)) () rest := by
  obtain ⟨n, hn, hsteps⟩ := steps_tree t b [] hrest
  refine (reads_bound _).bind (hsteps.reads ?_)
  simp only [List.length_append]
  omega

end TelemetryGate.Json.Reader
