import TelemetryGate.Proofs.Race.Calls

/-!
# The order of deeds among threads

Whatever the order of the steps is, every deed fits what happened before it. Nothing is read but the
dispatcher that was published; it is published once, after it was announced; the startup event is the
first one to be sent, and each further one is an emission that read the published dispatcher.
-/

namespace TelemetryGate

variable {ρ : Type}

/-- Every moment of a history fits what happened before it. -/
def Each (P : List (Moment ρ) → Moment ρ → Prop) (history : List (Moment ρ)) : Prop :=
  ∀ before x after, history = before ++ x :: after → P before x

section Each

variable {P : List (Moment ρ) → Moment ρ → Prop} {history more : List (Moment ρ)} {x : Moment ρ}

/-- One more moment that fits. -/
theorem Each.append_singleton (h : Each P history) (hx : P history x) :
    Each P (history ++ [x]) := by
  intro before y after heq
  rcases List.eq_nil_or_concat after with rfl | ⟨rest, last, rfl⟩
  · obtain ⟨rfl, hxy⟩ := List.append_inj' heq rfl
    rw [← (List.cons.inj hxy).1]
    exact hx
  · have hsplit : history ++ [x] = (before ++ y :: rest) ++ [last] := by simpa using heq
    exact h before y rest (List.append_inj' hsplit rfl).1

/-- More moments that fit anything. -/
theorem Each.append (h : Each P history) (hmore : ∀ x ∈ more, ∀ before, P before x) :
    Each P (history ++ more) := by
  induction more using List.reverseRecOn with
  | nil => simpa using h
  | append_singleton rest x ih =>
    rw [← List.append_assoc]
    refine (ih fun y hy => hmore y (List.mem_append_left _ hy)).append_singleton ?_
    exact hmore x (by simp) _

end Each

/-- What is sent to announce a dispatcher. -/
def Dispatcher.startups (d : Dispatcher ρ) : List (ρ × WireEvent) :=
  d.reporter?.toList.map (·, .startup)

/-- How a deed of a program fits what happened before it. -/
def Fits (program : Program ρ) (before : List (Moment ρ)) (x : Moment ρ) : Prop :=
  match x.deed with
  | .saw d => d = shownBy before
  | .looked state => state = (shownBy before).state
  | .published _ => publishedIn before = none
  | .returned (.ok state) => publishedIn before ≠ none ∧ state = (shownBy before).state ∧
      ∀ y ∈ before, y.deed.isInstallation = false
  | .returned (.error fault) => publishedIn before ≠ none ∧ fault = .alreadyFilled
  | .effect (.delivered r event) =>
    (∃ setup connect, (program x.thread)[x.call]? = some (.fill setup connect) ∧
      event = .startup ∧ sentIn before = [] ∧ publishedIn before = none) ∨
    (∃ e, (program x.thread)[x.call]? = some (.emit e) ∧ event = e.flat ∧
      (sentIn before).head? = some (r, .startup) ∧ publishedIn before = some (.active r))
  | _ => True

/-- A thread is filling the slot. -/
def Position.isInstalling : Position ρ → Bool
  | .binding _ _ | .announcing _ | .publishing _ => true
  | _ => false

/-- The dispatcher that is published in a slot. -/
def SharedSlot.published? : SharedSlot ρ → Option (Dispatcher ρ)
  | .filled d => some d
  | _ => none

theorem SharedSlot.dispatcher_eq (slot : SharedSlot ρ) :
    slot.dispatcher = slot.published?.getD .uninitialized := by
  cases slot <;> rfl

namespace Race

/-- What was sent so far: nothing before a dispatcher is announced, then its startup event, and
further events only to its reporter once it is published. -/
def SentSoFar (m : Race ρ) : Prop :=
  match m.slot with
  | .empty => sentIn m.history = []
  | .taken t =>
    match m.position t with
    | .publishing d => sentIn m.history = d.startups
    | _ => sentIn m.history = []
  | .filled d => ∃ rest, sentIn m.history = d.startups ++ rest ∧ (d.reporter? = none → rest = [])

/-- The slot, the positions of the threads and the history belong together. -/
structure Coherent (program : Program ρ) (m : Race ρ) : Prop where
  /-- The history holds the transcript of every call. -/
  recorded : m.Recorded program
  /-- The thread that took the slot is the one that fills it. -/
  holder : ∀ t, (m.position t).isInstalling = true ↔ m.slot = .taken t
  /-- What a thread sends through is what is published, unless nothing was published yet. -/
  sending : ∀ t d e, m.position t = .sending d e → d = .uninitialized ∨ m.slot = .filled d
  /-- The slot shows what was published. -/
  published : publishedIn m.history = m.slot.published?
  /-- The slot is filled once a call returned that filled it. -/
  installed : ∀ x ∈ m.history, x.deed.isInstallation = true → m.slot.published? ≠ none
  /-- What was sent fits the slot. -/
  sent : m.SentSoFar
  /-- Every deed fits what happened before it. -/
  fits : Each (Fits program) m.history
  /-- The calls of a thread come one after the other. -/
  inOrder : m.history.Pairwise fun x y => x.thread = y.thread → x.call ≤ y.call

section Coherent

variable {program : Program ρ} {m : Race ρ}

/-- Deeds in the present call of a thread come after all its other deeds. -/
theorem Recorded.inOrder (h : m.Recorded program)
    (horder : m.history.Pairwise fun x y => x.thread = y.thread → x.call ≤ y.call)
    (t : Nat) (deeds : List (Deed ρ)) :
    (m.history ++ moments t (m.done t) deeds).Pairwise
      fun x y => x.thread = y.thread → x.call ≤ y.call := by
  have hpresent : ∀ y ∈ moments t (m.done t) deeds, y.thread = t ∧ y.call = m.done t := by
    intro y hy
    obtain ⟨d, -, rfl⟩ := List.mem_map.mp hy
    exact ⟨rfl, rfl⟩
  refine List.pairwise_append.mpr ⟨horder, ?_, fun x hx y hy hthread => ?_⟩
  · refine List.pairwise_of_forall_mem_list fun x hx y hy _ => ?_
    exact Nat.le_of_eq ((hpresent x hx).2.trans (hpresent y hy).2.symm)
  · obtain ⟨hyt, hyn⟩ := hpresent y hy
    rw [hyn]
    by_contra hlater
    have hnone := h.later t x.call (by omega)
    have hmem : x.deed ∈ transcript m.history t x.call :=
      List.mem_map_of_mem (List.mem_filter.mpr ⟨hx, by simp [hthread, hyt]⟩)
    rw [hnone] at hmem
    exact List.not_mem_nil hmem

/-- While a thread fills the slot, the slot is taken by it. -/
theorem Coherent.taken (h : m.Coherent program) {t : Nat} {p : Position ρ}
    (hposition : m.position t = p) (hp : p.isInstalling = true) : m.slot = .taken t :=
  (h.holder t).mp (hposition ▸ hp)

/-- The slot is taken by the thread that fills it. -/
theorem Coherent.holder_step (h : m.Coherent program) {w : World} {t : Nat} {m' : Race ρ}
    (hmoves : Moves program m w t m') (u : Nat) :
    (m'.position u).isInstalling = true ↔ m'.slot = .taken u := by
  have hu := h.holder u
  by_cases hut : u = t
  · subst hut
    cases hmoves with
    | quit | wait => exact hu
    | take hready hcall hslot => simp [Position.isInstalling]
    | refuse hready hcall hslot =>
      rw [hready] at hu
      simpa [Position.isInstalling] using hu
    | read hready hcall | look hready hcall =>
      rw [hready] at hu
      simpa [Position.isInstalling] using hu
    | bind hposition | announce hposition | send hposition =>
      rw [hposition] at hu
      simpa [Position.isInstalling] using hu
    | publish hposition => simp [Position.isInstalling]
  · rw [hmoves.position_of_ne hut]
    cases hmoves with
    | take hready hcall hslot =>
      rw [hslot] at hu
      simpa [Ne.symm hut] using hu
    | publish hposition =>
      have hslot := h.taken hposition rfl
      rw [hslot] at hu
      simpa [Ne.symm hut] using hu
    | _ => exact hu

/-- A thread sends through what is published. -/
theorem Coherent.sending_step (h : m.Coherent program) {w : World} {t : Nat} {m' : Race ρ}
    (hmoves : Moves program m w t m') (u : Nat) (d : Dispatcher ρ) (e : Emission)
    (hsending : m'.position u = .sending d e) : d = .uninitialized ∨ m'.slot = .filled d := by
  by_cases hut : u = t
  · subst hut
    cases hmoves with
    | quit hready _ | wait _ hready _ _ => exact nomatch hready.symm.trans hsending
    | read hready hcall =>
      rw [position_advance_self] at hsending
      obtain ⟨rfl, rfl⟩ := Position.sending.inj hsending
      cases hslot : m.slot with
      | filled d => exact .inr hslot
      | _ => exact .inl rfl
    | _ => exact absurd ((if_pos rfl).symm.trans hsending) nofun
  · rw [hmoves.position_of_ne hut] at hsending
    have hu := h.sending u d e hsending
    cases hmoves with
    | take hready hcall hslot =>
      rw [hslot] at hu
      exact hu.imp_right nofun
    | publish hposition =>
      have hslot := h.taken hposition rfl
      rw [hslot] at hu
      exact hu.imp_right nofun
    | _ => exact hu

/-- The slot shows what is published. -/
theorem Coherent.published_step (h : m.Coherent program) {w : World} {t : Nat} {m' : Race ρ}
    (hmoves : Moves program m w t m') : publishedIn m'.history = m'.slot.published? := by
  have hp := h.published
  cases hmoves with
  | quit | wait => exact hp
  | take hready hcall hslot =>
    rw [hslot] at hp
    simpa [moments, SharedSlot.published?] using hp
  | refuse | read | look =>
    simpa [publishedIn_append, publishedIn_moments, Deed.published?] using hp
  | bind hposition | announce hposition =>
    simpa [publishedIn_append, publishedIn_effects] using hp
  | publish hposition =>
    have hslot := h.taken hposition rfl
    rw [hslot] at hp
    simp only [history_finish, publishedIn_append, publishedIn_moments, hp]
    rfl
  | send hposition =>
    rw [history_finish, moments_append, publishedIn_append, publishedIn_append,
      publishedIn_effects, publishedIn_moments]
    simpa [Deed.published?] using hp

/-- Once a call returned that filled the slot, the slot is filled. -/
theorem Coherent.installed_step (h : m.Coherent program) {w : World} {t : Nat} {m' : Race ρ}
    (hmoves : Moves program m w t m') (x : Moment ρ) (hx : x ∈ m'.history)
    (hinstallation : x.deed.isInstallation = true) : m'.slot.published? ≠ none := by
  have hold : x ∈ m.history → m.slot.published? ≠ none := fun hx => h.installed x hx hinstallation
  -- only the deeds of publishing hold an installation
  have hnew : ∀ deeds : List (Deed ρ), (∀ d ∈ deeds, d.isInstallation = false) →
      x ∈ m.history ++ moments t (m.done t) deeds → m.slot.published? ≠ none := by
    intro deeds hdeeds hx
    rcases List.mem_append.mp hx with hx | hx
    · exact hold hx
    · obtain ⟨d, hd, rfl⟩ := List.mem_map.mp hx
      exact absurd hinstallation (Bool.eq_false_iff.mp (hdeeds d hd))
  cases hmoves with
  | quit | wait => exact hold hx
  | take hready hcall hslot =>
    have hfilled := hnew [] (by simp) hx
    rw [hslot] at hfilled
    exact absurd rfl hfilled
  | refuse | read | look => exact hnew _ (by simp [Deed.isInstallation]) hx
  | bind | announce => exact hnew _ (by simp [Deed.isInstallation]) hx
  | send =>
    refine hnew _ (fun d hd => ?_) hx
    rcases List.mem_append.mp hd with hd | hd
    · obtain ⟨_, -, rfl⟩ := List.mem_map.mp hd
      rfl
    · rw [List.mem_singleton.mp hd]
      rfl
  | publish => simp [SharedSlot.published?]

/-- If nothing was sent and the slot is as before, what was sent fits the slot as before. -/
theorem SentSoFar.of_quiet {m' : Race ρ} (h : m.SentSoFar) (hslot : m'.slot = m.slot)
    (hposition : ∀ u, m.slot = .taken u → m'.position u = m.position u)
    (hsent : sentIn m'.history = sentIn m.history) : m'.SentSoFar := by
  unfold SentSoFar at h ⊢
  rw [hslot, hsent]
  cases hm : m.slot with
  | empty => simpa [hm] using h
  | taken u => simpa [hm, hposition u hm] using h
  | filled d => simpa [hm] using h

/-- What was sent fits the slot. -/
theorem Coherent.sent_step (h : m.Coherent program) {w : World} {t : Nat} {m' : Race ρ}
    (hmoves : Moves program m w t m') : m'.SentSoFar := by
  have hs := h.sent
  have hother : ∀ u, (m.position t).isInstalling = false → m.slot = .taken u →
      m'.position u = m.position u := by
    intro u ht hu
    refine hmoves.position_of_ne ?_
    rintro rfl
    exact Bool.false_ne_true (ht.symm.trans ((h.holder u).mpr hu))
  cases hmoves with
  | quit | wait => exact hs
  | take hready hcall hslot =>
    simp only [SentSoFar, hslot] at hs
    simpa [SentSoFar, moments] using hs
  | refuse hready hcall hslot =>
    exact hs.of_quiet rfl (fun u => hother u (by rw [hready]; rfl))
      (by simp [sentIn_append, sentIn_moments, Deed.sent?])
  | read hready hcall | look hready hcall =>
    exact hs.of_quiet rfl (fun u => hother u (by rw [hready]; rfl))
      (by simp [sentIn_append, sentIn_moments, Deed.sent?])
  | bind hposition =>
    have hslot := h.taken hposition rfl
    simp only [SentSoFar, hslot, hposition] at hs
    simp [SentSoFar, hslot, sentIn_append, sentIn_effects, hs,
      (Dispatcher.bindSetup_binds w _ _).deliveries]
  | announce hposition =>
    have hslot := h.taken hposition rfl
    simp only [SentSoFar, hslot, hposition] at hs
    simp [SentSoFar, hslot, sentIn_append, sentIn_effects, hs, Dispatcher.deliveries_announce,
      Dispatcher.startups]
  | publish hposition =>
    have hslot := h.taken hposition rfl
    simp only [SentSoFar, hslot, hposition] at hs
    refine ⟨[], ?_, fun _ => rfl⟩
    simp [sentIn_append, sentIn_moments, Deed.sent?, hs]
  | send hposition =>
    rename_i d e
    have hdeeds : sentIn (m.history ++ moments t (m.done t)
        ((d.emit e).map .effect ++ [.emitted])) =
          sentIn m.history ++ d.reporter?.toList.map (·, e.flat) := by
      rw [moments_append, sentIn_append, sentIn_append, sentIn_effects, Dispatcher.deliveries_emit]
      exact congrArg _ (List.append_nil _)
    rcases h.sending t d e hposition with rfl | hslot
    · exact hs.of_quiet rfl (fun u => hother u (by rw [hposition]; rfl))
        (hdeeds.trans (List.append_nil _))
    · simp only [SentSoFar, hslot] at hs
      obtain ⟨rest, hrest, hnone⟩ := hs
      simp only [SentSoFar, slot_finish, hslot, history_finish, hdeeds, hrest]
      refine ⟨rest ++ d.reporter?.toList.map (·, e.flat), List.append_assoc _ _ _, fun hd => ?_⟩
      rw [hnone hd, hd]
      rfl

/-- Effects that send nothing fit anything. -/
theorem fits_effects {t n : Nat} {effects : List (Effect ρ)}
    (h : Effect.deliveries effects = []) :
    ∀ x ∈ moments t n (effects.map .effect), ∀ before, Fits program before x := by
  intro x hx before
  simp only [moments, List.map_map, List.mem_map] at hx
  obtain ⟨effect, heffect, rfl⟩ := hx
  cases effect with
  | delivered r event =>
    have hsent : (r, event) ∈ Effect.deliveries effects :=
      List.mem_filterMap.mpr ⟨_, heffect, rfl⟩
    rw [h] at hsent
    exact absurd hsent List.not_mem_nil
  | _ => trivial

/-- An emission fits if what it sends fits. -/
theorem fits_emit {history : List (Moment ρ)} (h : Each (Fits program) history) (t n : Nat)
    (d : Dispatcher ρ) (e : Emission) (hd : ∀ r, d = .active r →
      Fits program history ⟨t, n, .effect (.delivered r e.flat)⟩) :
    Each (Fits program) (history ++ moments t n ((d.emit e).map .effect)) := by
  cases d with
  | active r =>
    rw [Dispatcher.emit_active]
    have hsent := h.append_singleton (hd r rfl)
    have hquiet : ∀ x ∈ moments t n ([.logged (Dispatcher.sent e.flat)].map .effect),
        ∀ before, Fits program before x := fits_effects rfl
    have hlogged := hsent.append hquiet
    rwa [List.append_assoc] at hlogged
  | _ => exact h.append (fits_effects rfl)

/-- Every deed fits what happened before it. -/
theorem Coherent.fits_step (h : m.Coherent program) {w : World} {t : Nat} {m' : Race ρ}
    (hmoves : Moves program m w t m') : Each (Fits program) m'.history := by
  have hfits := h.fits
  have hcurrent := h.recorded.current t
  have hpublished := h.published
  have hshown : m.slot.dispatcher = shownBy m.history := by
    rw [shownBy, hpublished, SharedSlot.dispatcher_eq]
  cases hmoves with
  | quit | wait => exact hfits
  | take => exact hfits.append fun x hx => absurd hx List.not_mem_nil
  | refuse hready hcall hslot =>
    rw [hslot] at hpublished
    exact hfits.append_singleton ⟨by simp [hpublished, SharedSlot.published?], rfl⟩
  | read => exact hfits.append_singleton hshown
  | look => exact hfits.append_singleton (congrArg Dispatcher.state hshown)
  | bind => exact hfits.append (fits_effects (Dispatcher.bindSetup_binds w _ _).deliveries)
  | announce hposition =>
    rename_i d
    have hslot := h.taken hposition rfl
    have hsent := h.sent
    simp only [SentSoFar, hslot, hposition] at hsent
    rw [hslot] at hpublished
    rw [hposition] at hcurrent
    obtain ⟨_, setup, connect, hcall, -, -⟩ := hcurrent
    cases d with
    | active r =>
      refine fits_emit hfits t (m.done t) (.active r) .startup fun r' hr => ?_
      exact .inl ⟨setup, connect, hcall, rfl, hsent, hpublished⟩
    | _ => exact hfits.append fun x hx => absurd hx List.not_mem_nil
  | publish hposition =>
    rename_i d
    have hslot := h.taken hposition rfl
    rw [hslot] at hpublished
    have hnew : publishedIn (m.history ++ [⟨t, m.done t, .published d⟩]) = some d := by
      rw [publishedIn_append, hpublished]
      rfl
    have hnone : ∀ y ∈ m.history ++ [⟨t, m.done t, .published d⟩],
        y.deed.isInstallation = false := by
      intro y hy
      rcases List.mem_append.mp hy with hy | hy
      · refine Bool.eq_false_iff.mpr fun hinstallation => h.installed y hy hinstallation ?_
        rw [hslot]
        rfl
      · rw [List.mem_singleton.mp hy]
        rfl
    have hfirst : Each (Fits program) (m.history ++ [⟨t, m.done t, .published d⟩]) :=
      hfits.append_singleton hpublished
    have hsecond := hfirst.append_singleton (x := ⟨t, m.done t, .returned (.ok d.state)⟩)
      ⟨by simp [hnew], by simp [shownBy, hnew], hnone⟩
    rwa [List.append_assoc] at hsecond
  | send hposition =>
    rename_i d e
    have hsent := h.sent
    have hsending := h.sending t d e hposition
    rw [hposition] at hcurrent
    have hemit := fits_emit hfits t (m.done t) d e fun r hr => by
      subst hr
      have hslot : m.slot = .filled (.active r) := hsending.resolve_left nofun
      rw [hslot] at hpublished
      simp only [SentSoFar, hslot] at hsent
      obtain ⟨rest, hrest, -⟩ := hsent
      exact .inr ⟨e, hcurrent.1, rfl, by rw [hrest]; rfl, hpublished⟩
    have hemitted := hemit.append_singleton (x := ⟨t, m.done t, .emitted⟩) trivial
    rw [List.append_assoc] at hemitted
    rw [history_finish, moments_append]
    exact hemitted

end Coherent

end Race

end TelemetryGate
