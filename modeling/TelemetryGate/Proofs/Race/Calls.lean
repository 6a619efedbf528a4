import TelemetryGate.Proofs.Race.Moves

/-!
# The transcript of each call

The deeds of a call that returned are those of one call on its own, however the steps of other threads
fall between them: a call that fills the slot sets up its dispatcher and publishes it, or does nothing
but return a fault; an emission sends once through what it read. Calls of one thread do not overlap.
-/

namespace TelemetryGate

variable {ρ : Type}

/-- The deeds of a call that returned. -/
def SlotCall.Finished : SlotCall ρ → List (Deed ρ) → Prop
  | .fill setup connect, deeds =>
    (∃ w, deeds = (Dispatcher.setUp w setup connect).1.map .effect ++
      [.published (Dispatcher.outcome w setup connect),
        .returned (.ok (Dispatcher.outcome w setup connect).state)]) ∨
    deeds = [.returned (.error .alreadyFilled)]
  | .emit e, deeds => ∃ d : Dispatcher ρ, deeds = .saw d :: ((d.emit e).map .effect ++ [.emitted])
  | .look, deeds => ∃ state, deeds = [.looked state]

/-- The deeds of a call that came to a position. -/
def Position.Reached (call : Option (SlotCall ρ)) (deeds : List (Deed ρ)) : Position ρ → Prop
  | .ready => deeds = []
  | .binding setup connect => call = some (.fill setup connect) ∧ deeds = []
  | .announcing d => ∃ w setup connect, call = some (.fill setup connect) ∧
      deeds = (Dispatcher.bindSetup w setup connect).1.map .effect ∧
      d = Dispatcher.outcome w setup connect
  | .publishing d => ∃ w setup connect, call = some (.fill setup connect) ∧
      deeds = (Dispatcher.setUp w setup connect).1.map .effect ∧
      d = Dispatcher.outcome w setup connect
  | .sending d e => call = some (.emit e) ∧ deeds = [.saw d]

namespace Race

/-- The history holds the transcript of every call. -/
structure Recorded (program : Program ρ) (m : Race ρ) : Prop where
  /-- Calls that returned did all that they do. -/
  finished : ∀ t n, n < m.done t → ∃ call, (program t)[n]? = some call ∧
    call.Finished (transcript m.history t n)
  /-- Present calls did what leads to their position. -/
  current : ∀ t, (m.position t).Reached (program t)[m.done t]? (transcript m.history t (m.done t))
  /-- Later calls did nothing. -/
  later : ∀ t n, m.done t < n → transcript m.history t n = []

section Recorded

variable {program : Program ρ} {m : Race ρ}

/-- Deeds are added to the present call of their thread. -/
theorem transcript_advance (m : Race ρ) (t : Nat) (p : Position ρ) (deeds : List (Deed ρ))
    (u n : Nat) : transcript (m.advance t p deeds).history u n =
      transcript m.history u n ++ if u = t ∧ n = m.done t then deeds else [] := by
  rw [← transcript_moments, ← transcript_append]
  rfl

/-- A thread that comes to a position with the deeds that lead there. -/
theorem Recorded.advance (h : m.Recorded program) {t : Nat} {p : Position ρ} {deeds : List (Deed ρ)}
    (hp : p.Reached (program t)[m.done t]? (transcript m.history t (m.done t) ++ deeds)) :
    (m.advance t p deeds).Recorded program where
  finished u n hn := by
    have hother : ¬(u = t ∧ n = m.done t) := by
      rintro ⟨rfl, rfl⟩
      exact Nat.lt_irrefl _ hn
    rw [transcript_advance, if_neg hother, List.append_nil]
    exact h.finished u n hn
  current u := by
    rw [transcript_advance]
    by_cases hu : u = t
    · subst hu
      simpa [Race.advance] using hp
    · have hother : ¬(u = t ∧ (m.advance t p deeds).done u = m.done t) := fun hboth => hu hboth.1
      rw [if_neg hother, List.append_nil]
      simpa [Race.advance, hu] using h.current u
  later u n hn := by
    have hother : ¬(u = t ∧ n = m.done t) := by
      rintro ⟨rfl, rfl⟩
      exact Nat.lt_irrefl _ hn
    rw [transcript_advance, if_neg hother, List.append_nil]
    exact h.later u n hn

/-- A thread that returns from its call with the deeds that are left. -/
theorem Recorded.finish (h : m.Recorded program) {t : Nat} {deeds : List (Deed ρ)}
    {call : SlotCall ρ} (hcall : (program t)[m.done t]? = some call)
    (hf : call.Finished (transcript m.history t (m.done t) ++ deeds)) :
    (m.finish t deeds).Recorded program where
  finished u n hn := by
    have htranscript := transcript_advance m t .ready deeds u n
    by_cases hpresent : u = t ∧ n = m.done t
    · obtain ⟨rfl, rfl⟩ := hpresent
      rw [if_pos ⟨rfl, rfl⟩] at htranscript
      exact ⟨call, hcall, htranscript ▸ hf⟩
    · rw [if_neg hpresent, List.append_nil] at htranscript
      have hbefore : n < m.done u := by
        simp only [Race.finish] at hn
        split at hn
        · rename_i hu
          subst hu
          exact Nat.lt_of_le_of_ne (Nat.le_of_lt_succ hn) fun heq => hpresent ⟨rfl, heq⟩
        · exact hn
      exact htranscript ▸ h.finished u n hbefore
  current u := by
    have htranscript := transcript_advance m t .ready deeds u ((m.finish t deeds).done u)
    by_cases hu : u = t
    · subst hu
      have hdone : (m.finish u deeds).done u = m.done u + 1 := if_pos rfl
      rw [hdone, if_neg (by simp), List.append_nil, h.later u _ (Nat.lt_succ_self _)] at htranscript
      have hposition : (m.finish u deeds).position u = .ready := if_pos rfl
      rw [hposition, hdone]
      exact htranscript
    · have hdone : (m.finish t deeds).done u = m.done u := if_neg hu
      rw [hdone, if_neg fun hboth => hu hboth.1, List.append_nil] at htranscript
      have hposition : (m.finish t deeds).position u = m.position u := if_neg hu
      rw [hposition, hdone]
      exact htranscript ▸ h.current u
  later u n hn := by
    have htranscript := transcript_advance m t .ready deeds u n
    simp only [Race.finish] at hn
    split at hn
    · rename_i hu
      subst hu
      have hafter : m.done u < n := Nat.lt_of_succ_lt hn
      rw [if_neg fun hboth => Nat.ne_of_gt hafter hboth.2, List.append_nil] at htranscript
      exact htranscript.trans (h.later u n hafter)
    · rename_i hu
      rw [if_neg fun hboth => hu hboth.1, List.append_nil] at htranscript
      exact htranscript.trans (h.later u n hn)

/-- Every step keeps the transcripts. -/
theorem Recorded.step (h : m.Recorded program) (w : World) (t : Nat) :
    (m.step program w t).Recorded program := by
  have hcurrent := h.current t
  have hmoves := m.step_moves program w t
  generalize m.step program w t = m' at hmoves
  cases hmoves with
  | quit hready hcall => exact h
  | wait u hready hcall hslot => exact h
  | take hready hcall hslot =>
    rw [hready] at hcurrent
    rename_i setup connect
    have hadvance : (m.advance t (.binding setup connect) []).Recorded program :=
      h.advance ⟨hcall, by rw [List.append_nil]; exact hcurrent⟩
    exact ⟨hadvance.finished, hadvance.current, hadvance.later⟩
  | refuse hready hcall hslot =>
    rw [hready] at hcurrent
    exact h.finish hcall (.inr (by rw [hcurrent]; rfl))
  | read hready hcall =>
    rw [hready] at hcurrent
    exact h.advance ⟨hcall, by rw [hcurrent]; rfl⟩
  | look hready hcall =>
    rw [hready] at hcurrent
    exact h.finish hcall ⟨_, by rw [hcurrent]; rfl⟩
  | bind hposition =>
    rw [hposition] at hcurrent
    obtain ⟨hcall, hdeeds⟩ := hcurrent
    refine h.advance ⟨w, _, _, hcall, by rw [hdeeds]; rfl, Dispatcher.setUp_snd w _ _⟩
  | announce hposition =>
    rw [hposition] at hcurrent
    obtain ⟨w', setup, connect, hcall, hdeeds, rfl⟩ := hcurrent
    refine h.advance ⟨w', setup, connect, hcall, ?_, rfl⟩
    rw [hdeeds, ← List.map_append, Dispatcher.setUp, ← Dispatcher.setUp_snd]
    rfl
  | publish hposition =>
    rw [hposition] at hcurrent
    obtain ⟨w', setup, connect, hcall, hdeeds, rfl⟩ := hcurrent
    have hfinish := h.finish hcall (.inl ⟨w', by rw [hdeeds]⟩)
    exact ⟨hfinish.finished, hfinish.current, hfinish.later⟩
  | send hposition =>
    rw [hposition] at hcurrent
    obtain ⟨hcall, hdeeds⟩ := hcurrent
    exact h.finish hcall ⟨_, by rw [hdeeds]; rfl⟩

/-- Until a call returns it does nothing but read the slot and change its surroundings. -/
theorem deeds_of_reached {call : Option (SlotCall ρ)} {deeds : List (Deed ρ)}
    {p : Position ρ} (h : p.Reached call deeds) :
    ∀ deed ∈ deeds, (∃ x, deed = .effect x) ∨ ∃ d, deed = .saw d := by
  have heffects : ∀ effects : List (Effect ρ), ∀ deed ∈ effects.map Deed.effect,
      (∃ x, deed = .effect x) ∨ ∃ d : Dispatcher ρ, deed = .saw d := by
    intro effects deed hdeed
    obtain ⟨x, -, rfl⟩ := List.mem_map.mp hdeed
    exact .inl ⟨x, rfl⟩
  intro deed hdeed
  cases p with
  | ready =>
    rw [h] at hdeed
    exact absurd hdeed List.not_mem_nil
  | binding setup connect =>
    rw [h.2] at hdeed
    exact absurd hdeed List.not_mem_nil
  | announcing d =>
    obtain ⟨_, _, _, -, rfl, -⟩ := h
    exact heffects _ deed hdeed
  | publishing d =>
    obtain ⟨_, _, _, -, rfl, -⟩ := h
    exact heffects _ deed hdeed
  | sending d e =>
    rw [h.2] at hdeed
    exact .inr ⟨d, List.mem_singleton.mp hdeed⟩

/-- A call that did anything else has returned. -/
theorem Recorded.finished_of_mem (h : m.Recorded program) {t n : Nat} {deed : Deed ρ}
    (hmem : ⟨t, n, deed⟩ ∈ m.history) (heffect : ∀ x, deed ≠ .effect x)
    (hsaw : ∀ d, deed ≠ .saw d) : n < m.done t ∧ ∃ call, (program t)[n]? = some call ∧
      call.Finished (transcript m.history t n) := by
  have hdeed := mem_transcript.mpr hmem
  rcases Nat.lt_trichotomy n (m.done t) with hn | rfl | hn
  · exact ⟨hn, h.finished t n hn⟩
  · rcases deeds_of_reached (h.current t) deed hdeed with ⟨x, hx⟩ | ⟨d, hd⟩
    · exact absurd hx (heffect x)
    · exact absurd hd (hsaw d)
  · rw [h.later t n hn] at hdeed
    exact absurd hdeed List.not_mem_nil

/-- A dispatcher is published by a call that fills the slot with what its setup leads to. -/
theorem Recorded.published (h : m.Recorded program) {t n : Nat} {d : Dispatcher ρ}
    (hmem : ⟨t, n, .published d⟩ ∈ m.history) : n < m.done t ∧
      (∃ w setup connect, (program t)[n]? = some (.fill setup connect) ∧
        d = Dispatcher.outcome w setup connect) ∧
      ⟨t, n, .returned (.ok d.state)⟩ ∈ m.history := by
  obtain ⟨hn, call, hcall, hfinished⟩ := h.finished_of_mem hmem nofun nofun
  have hdeed := mem_transcript.mpr hmem
  refine ⟨hn, ?_⟩
  rw [← mem_transcript]
  cases call with
  | fill setup connect =>
    rcases hfinished with ⟨w, hdeeds⟩ | hdeeds
    · rw [hdeeds] at hdeed ⊢
      have hd : d = Dispatcher.outcome w setup connect := by simpa using hdeed
      exact ⟨⟨w, setup, connect, hcall, hd⟩, by simp [hd]⟩
    · rw [hdeeds] at hdeed
      simp at hdeed
  | emit e =>
    obtain ⟨d', hdeeds⟩ := hfinished
    rw [hdeeds] at hdeed
    simp at hdeed
  | look =>
    obtain ⟨state, hdeeds⟩ := hfinished
    rw [hdeeds] at hdeed
    simp at hdeed

/-- A call that returned a fault did nothing else. -/
theorem Recorded.refused (h : m.Recorded program) {t n : Nat} {fault : SetupFault}
    (hmem : ⟨t, n, .returned (.error fault)⟩ ∈ m.history) :
    transcript m.history t n = [.returned (.error .alreadyFilled)] := by
  obtain ⟨hn, call, hcall, hfinished⟩ := h.finished_of_mem hmem nofun nofun
  have hdeed := mem_transcript.mpr hmem
  cases call with
  | fill setup connect =>
    rcases hfinished with ⟨w, hdeeds⟩ | hdeeds
    · rw [hdeeds] at hdeed
      simp at hdeed
    · exact hdeeds
  | emit e =>
    obtain ⟨d', hdeeds⟩ := hfinished
    rw [hdeeds] at hdeed
    simp at hdeed
  | look =>
    obtain ⟨state, hdeeds⟩ := hfinished
    rw [hdeeds] at hdeed
    simp at hdeed

end Recorded

end Race

end TelemetryGate
