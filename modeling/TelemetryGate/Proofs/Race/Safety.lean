import TelemetryGate.Proofs.Race.Order

/-!
# The slot under any interleaving

Any number of threads make any calls, and their steps come in any order: one call at most fills the
slot, and the others are refused without any effect. What the slot shows changes once. The startup
event comes first, and each emission that read a bound dispatcher is sent once.
-/

namespace TelemetryGate

variable {ρ : Type}

namespace Race

/-- A step keeps slot, positions and history together. -/
theorem Coherent.step {program : Program ρ} {m : Race ρ} (h : m.Coherent program) (w : World)
    (t : Nat) : (m.step program w t).Coherent program := by
  have hmoves := m.step_moves program w t
  refine ⟨h.recorded.step w t, h.holder_step hmoves, h.sending_step hmoves,
    h.published_step hmoves, h.installed_step hmoves, h.sent_step hmoves, h.fits_step hmoves, ?_⟩
  obtain ⟨deeds, hdeeds⟩ := hmoves.history
  rw [hdeeds]
  exact h.recorded.inOrder h.inOrder t deeds

/-- Threads that have not begun. -/
theorem coherent_start (program : Program ρ) : ({} : Race ρ).Coherent program where
  recorded := ⟨fun _ _ h => absurd h (Nat.not_lt_zero _), fun _ => rfl, fun _ _ _ => rfl⟩
  holder _ := ⟨nofun, nofun⟩
  sending _ _ _ h := nomatch h
  published := rfl
  installed _ h := absurd h List.not_mem_nil
  sent := rfl
  fits before x after h := by simp at h
  inOrder := .nil

/-- A run keeps slot, positions and history together. -/
theorem Coherent.run {program : Program ρ} {m : Race ρ} (h : m.Coherent program)
    (schedule : List (World × Nat)) : (m.run program schedule).Coherent program := by
  induction schedule generalizing m with
  | nil => exact h
  | cons s rest ih => exact ih (h.step s.1 s.2)

/-- If no two members of a list have a property, then at most one has it. -/
theorem length_filter_le_one {α : Type} {p : α → Bool} {l : List α}
    (h : ∀ before x after, l = before ++ x :: after → p x = true → ∀ y ∈ before, p y = false) :
    (l.filter p).length ≤ 1 := by
  induction l using List.reverseRecOn with
  | nil => simp
  | append_singleton l x ih =>
    by_cases hx : p x = true
    · have hnone : l.filter p = [] :=
        List.filter_eq_nil_iff.mpr fun y hy => by simp [h l x [] rfl hx y hy]
      simp [hx, hnone]
    · have hl := ih fun before y after heq => h before y (after ++ [x]) (by simp [heq])
      simpa [hx] using hl

section Coherent

variable {program : Program ρ} {m : Race ρ}

/-- A dispatcher that was published was published by a call. -/
theorem mem_of_publishedIn {history : List (Moment ρ)} {d : Dispatcher ρ}
    (h : publishedIn history = some d) : ∃ t n, ⟨t, n, .published d⟩ ∈ history := by
  obtain ⟨x, hx, hd⟩ := List.exists_of_findSome?_eq_some h
  obtain ⟨t, n, deed⟩ := x
  cases deed with
  | published d' =>
    obtain rfl := Option.some.inj hd
    exact ⟨t, n, hx⟩
  | _ => exact nomatch hd

/-- What was published stays. -/
theorem publishedIn_extend {before after history : List (Moment ρ)} {d : Dispatcher ρ}
    (heq : history = before ++ after) (h : publishedIn before = some d) :
    publishedIn history = some d := by
  rw [heq, publishedIn_append, h, Option.some_or]

/-- A call returned at most once because it filled the slot. -/
theorem Coherent.once (h : m.Coherent program) :
    (m.history.filter (·.deed.isInstallation)).length ≤ 1 := by
  refine length_filter_le_one fun before x after heq hx => ?_
  have hfits := h.fits before x after heq
  obtain ⟨t, n, deed⟩ := x
  cases deed with
  | returned result =>
    cases result with
    | ok state => exact hfits.2.2
    | error fault => exact nomatch hx
  | _ => exact nomatch hx

/-- If a call returned that was to fill the slot, the slot was filled. -/
theorem Coherent.settled (h : m.Coherent program) {t n : Nat} {setup : Setup}
    {connect : Connector ρ} (hn : n < m.done t)
    (hcall : (program t)[n]? = some (.fill setup connect)) :
    ∃ x ∈ m.history, x.deed.isInstallation = true := by
  obtain ⟨call, hcall', hfinished⟩ := h.recorded.finished t n hn
  obtain rfl := Option.some.inj (hcall.symm.trans hcall')
  rcases hfinished with ⟨w, hdeeds⟩ | hdeeds
  · refine ⟨⟨t, n, .returned (.ok (Dispatcher.outcome w setup connect).state)⟩, ?_, rfl⟩
    rw [← mem_transcript, hdeeds]
    simp
  · -- the refusal saw a published dispatcher, and who published it returned
    have hmem : (⟨t, n, .returned (.error .alreadyFilled)⟩ : Moment ρ) ∈ m.history := by
      rw [← mem_transcript, hdeeds]
      simp
    obtain ⟨before, after, heq⟩ := List.append_of_mem hmem
    obtain ⟨d, hd⟩ := Option.ne_none_iff_exists'.mp (h.fits before _ after heq).1
    obtain ⟨t', n', hpublished⟩ := mem_of_publishedIn (publishedIn_extend heq hd)
    exact ⟨_, (h.recorded.published hpublished).2.2, rfl⟩

/-- The startup event comes first, and further events go to the published reporter. -/
theorem Coherent.startup (h : m.Coherent program) : sentIn m.history = [] ∨
    ∃ r rest, sentIn m.history = (r, .startup) :: rest ∧
      (publishedIn m.history = none ∧ rest = [] ∨ publishedIn m.history = some (.active r)) := by
  have hsent := h.sent
  have hpublished := h.published
  cases hslot : m.slot with
  | empty =>
    simp only [SentSoFar, hslot] at hsent
    exact .inl hsent
  | taken t =>
    rw [hslot] at hpublished
    simp only [SentSoFar, hslot] at hsent
    split at hsent
    · rename_i d hposition
      cases d with
      | active r => exact .inr ⟨r, [], hsent, .inl ⟨hpublished, rfl⟩⟩
      | _ => exact .inl hsent
    · exact .inl hsent
  | filled d =>
    rw [hslot] at hpublished
    simp only [SentSoFar, hslot] at hsent
    obtain ⟨rest, hrest, hnone⟩ := hsent
    cases d with
    | active r => exact .inr ⟨r, rest, hrest, .inr hpublished⟩
    | _ =>
      rw [hnone rfl] at hrest
      exact .inl hrest

/-- A finished emission sends once through the dispatcher that it read. -/
theorem Recorded.emitted (h : m.Recorded program) {t n : Nat} {e : Emission} (hn : n < m.done t)
    (hcall : (program t)[n]? = some (.emit e)) :
    ∃ d, Deed.saw d ∈ transcript m.history t n ∧
      (transcript m.history t n).filterMap Deed.sent? = d.reporter?.toList.map (·, e.flat) := by
  obtain ⟨call, hcall', hfinished⟩ := h.finished t n hn
  obtain rfl := Option.some.inj (hcall.symm.trans hcall')
  obtain ⟨d, hdeeds⟩ := hfinished
  refine ⟨d, by simp [hdeeds], ?_⟩
  have heffects := sentIn_effects t n (d.emit e)
  rw [sentIn_moments, Dispatcher.deliveries_emit] at heffects
  rw [hdeeds, List.filterMap_cons_none rfl, List.filterMap_append, heffects]
  exact List.append_nil _

/-- A thread that fills the slot can always go on. -/
theorem step_ne_of_isInstalling {t : Nat} (w : World)
    (h : (m.position t).isInstalling = true) : m.step program w t ≠ m := by
  intro heq
  have hmoves := m.step_moves program w t
  generalize m.step program w t = m' at heq hmoves
  cases hmoves with
  | quit hready | wait _ hready | take hready | refuse hready | read hready | look hready =>
    rw [hready] at h
    exact nomatch h
  | send hposition =>
    rw [hposition] at h
    exact nomatch h
  | bind hposition | announce hposition | publish hposition =>
    have hstill := congrArg (·.position t) heq
    rw [hposition] at hstill
    simp at hstill

/-- A thread that cannot go on is done, or waits for one that can. -/
theorem Coherent.waits (h : m.Coherent program) {t : Nat} {w : World}
    (hstep : m.step program w t = m) : (program t)[m.done t]? = none ∨
      ∃ u, u ≠ t ∧ m.slot = .taken u ∧ ∀ w', m.step program w' u ≠ m := by
  have hmoves := m.step_moves program w t
  generalize m.step program w t = m' at hstep hmoves
  cases hmoves with
  | quit hready hcall => exact .inl hcall
  | wait u hready hcall hslot =>
    have hu : (m.position u).isInstalling = true := (h.holder u).mpr hslot
    refine .inr ⟨u, ?_, hslot, fun w' => step_ne_of_isInstalling w' hu⟩
    rintro rfl
    rw [hready] at hu
    exact nomatch hu
  | take hready hcall hslot =>
    have hstill := congrArg (·.slot) hstep
    rw [hslot] at hstill
    exact nomatch hstill
  | refuse | look =>
    have hstill := congrArg (·.done t) hstep
    simp [finish] at hstill
  | read hposition | bind hposition | announce hposition | publish hposition | send hposition =>
    have hstill := congrArg (·.position t) hstep
    rw [hposition] at hstill
    simp at hstill

end Coherent

/-- What threads do to a slot in a run, and what they see of it. -/
structure SharesSlot (program : Program ρ) (m : Race ρ) : Prop where
  /-- Every call that returned did what a call of its kind does. -/
  finished : ∀ t n, n < m.done t → ∃ call, (program t)[n]? = some call ∧
    call.Finished (transcript m.history t n)
  /-- At most one call filled the slot. -/
  once : (m.history.filter (·.deed.isInstallation)).length ≤ 1
  /-- If a call returned that was to fill the slot, then it or another one filled it. -/
  settled : ∀ t n setup connect, n < m.done t → (program t)[n]? = some (.fill setup connect) →
    (m.history.filter (·.deed.isInstallation)).length = 1
  /-- A call that was refused did nothing: no reporter was asked for, and nothing was sent. -/
  refused : ∀ t n fault, ⟨t, n, .returned (.error fault)⟩ ∈ m.history →
    transcript m.history t n = [.returned (.error .alreadyFilled)]
  /-- What was published is what a setup leads to. -/
  installed : ∀ d, publishedIn m.history = some d → d.state ≠ .uninitialized ∧
    ∃ t n w setup connect, n < m.done t ∧ (program t)[n]? = some (.fill setup connect) ∧
      d = Dispatcher.outcome w setup connect
  /-- The state is seen as uninitialized before a dispatcher is published, and ever after as that of
  the dispatcher. -/
  looked : ∀ before t n state after, m.history = before ++ ⟨t, n, .looked state⟩ :: after →
    publishedIn before = none ∧ state = .uninitialized ∨
      ∃ d, publishedIn before = some d ∧ publishedIn m.history = some d ∧ state = d.state
  /-- Emissions read nothing before a dispatcher is published, and ever after the dispatcher. -/
  saw : ∀ before t n d after, m.history = before ++ ⟨t, n, .saw d⟩ :: after →
    publishedIn before = none ∧ d = .uninitialized ∨
      publishedIn before = some d ∧ publishedIn m.history = some d
  /-- The startup event is the first one that is sent. Others are sent only to the same reporter,
  and only once its dispatcher is published. -/
  startup : sentIn m.history = [] ∨ ∃ r rest, sentIn m.history = (r, .startup) :: rest ∧
    (publishedIn m.history = none ∧ rest = [] ∨ publishedIn m.history = some (.active r))
  /-- What is sent is the startup event, by the call that fills the slot, or an emission. -/
  sent : ∀ before t n r event after,
    m.history = before ++ ⟨t, n, .effect (.delivered r event)⟩ :: after →
    (∃ setup connect, (program t)[n]? = some (.fill setup connect) ∧ event = .startup ∧
      sentIn before = [] ∧ publishedIn before = none) ∨
    (∃ e, (program t)[n]? = some (.emit e) ∧ event = e.flat ∧
      (sentIn before).head? = some (r, .startup) ∧ publishedIn before = some (.active r))
  /-- An emission that read a bound dispatcher is sent once to its reporter, and no other is. -/
  emitted : ∀ t n e, n < m.done t → (program t)[n]? = some (.emit e) →
    ∃ d, Deed.saw d ∈ transcript m.history t n ∧
      (transcript m.history t n).filterMap Deed.sent? = d.reporter?.toList.map (·, e.flat)
  /-- The calls of a thread come one after the other. -/
  inOrder : m.history.Pairwise fun x y => x.thread = y.thread → x.call ≤ y.call
  /-- A thread that cannot go on is done, or waits for one that fills the slot and can go on. -/
  waits : ∀ t w, m.step program w t = m → (program t)[m.done t]? = none ∨
    ∃ u, u ≠ t ∧ m.slot = .taken u ∧ ∀ w', m.step program w' u ≠ m

/-- Whatever the threads call and in whatever order their steps come, they share the slot as they
should. -/
theorem sharesSlot_run (program : Program ρ) (schedule : List (World × Nat)) :
    SharesSlot program (({} : Race ρ).run program schedule) := by
  have h := (coherent_start program).run schedule
  generalize ({} : Race ρ).run program schedule = m at h
  exact {
    finished := h.recorded.finished
    once := h.once
    settled := fun t n setup connect hn hcall => by
      obtain ⟨x, hx, hinstallation⟩ := h.settled hn hcall
      have hpos : x ∈ m.history.filter (·.deed.isInstallation) :=
        List.mem_filter.mpr ⟨hx, hinstallation⟩
      exact Nat.le_antisymm h.once (List.length_pos_of_mem hpos)
    refused := fun t n fault hmem => h.recorded.refused hmem
    installed := fun d hd => by
      obtain ⟨t, n, hmem⟩ := mem_of_publishedIn hd
      obtain ⟨hn, ⟨w, setup, connect, hcall, hd⟩, -⟩ := h.recorded.published hmem
      refine ⟨?_, t, n, w, setup, connect, hn, hcall, hd⟩
      rw [hd]
      exact Dispatcher.outcome_state w setup connect
    looked := fun before t n state after heq => by
      have hstate : state = (shownBy before).state := h.fits before _ after heq
      cases hd : publishedIn before with
      | none => exact .inl ⟨rfl, by rw [hstate, shownBy, hd]; rfl⟩
      | some d =>
        exact .inr ⟨d, rfl, publishedIn_extend heq hd, by rw [hstate, shownBy, hd]; rfl⟩
    saw := fun before t n d after heq => by
      have hshown : d = shownBy before := h.fits before _ after heq
      cases hd : publishedIn before with
      | none => exact .inl ⟨rfl, by rw [hshown, shownBy, hd]; rfl⟩
      | some d' =>
        obtain rfl : d = d' := by rw [hshown, shownBy, hd]; rfl
        exact .inr ⟨rfl, publishedIn_extend heq hd⟩
    startup := h.startup
    sent := fun before t n r event after heq => h.fits before _ after heq
    emitted := fun t n e hn hcall => h.recorded.emitted hn hcall
    inOrder := h.inOrder
    waits := fun t w hstep => h.waits hstep }

end Race

end TelemetryGate
