import Mathlib.Data.List.Infix

namespace transition

section

variable {σ ε : Type} (step : σ → ε → σ) (start : σ)

/-- The state of a system that takes one step for each event. -/
def run (events : List ε) : σ :=
  events.foldl step start

/-- `P` holds in every state that a run passes. -/
def Always (P : σ → Prop) (events : List ε) : Prop :=
  ∀ before, before <+: events → P (run step start before)

/-- `ok` holds of every event of a run in the state that meets it. -/
def EveryStep (ok : σ → ε → Prop) (events : List ε) : Prop :=
  ∀ before event, before ++ [event] <+: events → ok (run step start before) event

end

section

variable {σ ε : Type} {step : σ → ε → σ} {start : σ} {P : σ → Prop} {ok : σ → ε → Prop}

@[simp] theorem run_nil : run step start [] = start := rfl

theorem run_append (before after : List ε) :
    run step start (before ++ after) = run step (run step start before) after :=
  List.foldl_append

@[simp] theorem run_snoc (events : List ε) (event : ε) :
    run step start (events ++ [event]) = step (run step start events) event := by
  rw [run_append]
  rfl

theorem Always.last {events : List ε} (h : Always step start P events) : P (run step start events) :=
  h events List.prefix_rfl

theorem always_nil : Always step start P [] ↔ P start := by
  constructor
  · exact fun h => h [] List.prefix_rfl
  · intro h before hbefore
    rw [List.prefix_nil.mp hbefore]
    exact h

theorem always_snoc {events : List ε} {event : ε} :
    Always step start P (events ++ [event]) ↔
      Always step start P events ∧ P (step (run step start events) event) := by
  constructor
  · intro h
    refine ⟨fun before hbefore => h before (hbefore.trans (List.prefix_append _ _)), ?_⟩
    have hlast := h.last
    rwa [run_snoc] at hlast
  · rintro ⟨hbefore, hlast⟩ before hextends
    obtain rfl | hextends := List.prefix_concat_iff.mp hextends
    · rwa [run_snoc]
    · exact hbefore before hextends

theorem everyStep_nil : EveryStep step start ok [] := by
  intro before event hextends
  exact absurd (List.prefix_nil.mp hextends) (by simp)

theorem everyStep_snoc {events : List ε} {event : ε} :
    EveryStep step start ok (events ++ [event]) ↔
      EveryStep step start ok events ∧ ok (run step start events) event := by
  constructor
  · intro h
    exact ⟨fun before other hextends => h before other (hextends.trans (List.prefix_append _ _)),
      h events event List.prefix_rfl⟩
  · rintro ⟨hbefore, hlast⟩ before other hextends
    obtain heq | hextends := List.prefix_concat_iff.mp hextends
    · obtain ⟨hsame, hother⟩ := List.append_inj' heq rfl
      rw [hsame, List.singleton_inj.mp hother]
      exact hlast
    · exact hbefore before other hextends

theorem everyStep_cons {events : List ε} {event : ε} :
    EveryStep step start ok (event :: events) ↔ ok start event ∧ EveryStep step (step start event) ok events := by
  constructor
  · intro h
    refine ⟨h [] event ⟨events, rfl⟩, fun before other hextends => ?_⟩
    exact h (event :: before) other (List.cons_prefix_cons.mpr ⟨rfl, hextends⟩)
  · rintro ⟨hfirst, hrest⟩ before other hextends
    cases before with
    | nil =>
      obtain ⟨rfl, -⟩ := List.cons_prefix_cons.mp hextends
      exact hfirst
    | cons first before =>
      obtain ⟨rfl, hrestExtends⟩ := List.cons_prefix_cons.mp hextends
      exact hrest before other hrestExtends

theorem everyStep_of_forall {events : List ε} (h : ∀ event ∈ events, ∀ s, ok s event) :
    EveryStep step start ok events := by
  intro before event hextends
  exact h event (hextends.subset (List.mem_append_right _ (List.mem_singleton_self _))) _

theorem always_of_step (hstart : P start) (hstep : ∀ s event, P s → P (step s event)) (events : List ε) :
    Always step start P events := by
  induction events using List.reverseRecOn with
  | nil => exact always_nil.mpr hstart
  | append_singleton events event ih => exact always_snoc.mpr ⟨ih, hstep _ _ ih.last⟩

theorem always_of_everyStep (hstart : P start) (hstep : ∀ s event, P s → ok s event → P (step s event))
    {events : List ε} (hok : EveryStep step start ok events) : Always step start P events := by
  induction events using List.reverseRecOn with
  | nil => exact always_nil.mpr hstart
  | append_singleton events event ih =>
    obtain ⟨hbefore, hlast⟩ := everyStep_snoc.mp hok
    have halways := ih hbefore
    exact always_snoc.mpr ⟨halways, hstep _ _ halways.last hlast⟩

theorem everyStep_of_always {ok' : σ → ε → Prop} {events : List ε} (halways : Always step start P events)
    (hok : EveryStep step start ok events) (h : ∀ s event, P s → ok s event → ok' s event) :
    EveryStep step start ok' events := by
  intro before event hextends
  exact h _ _ (halways before ((List.prefix_append before [event]).trans hextends)) (hok before event hextends)

theorem always_iff_everyStep (hstart : P start) (hstep : ∀ s event, P s → (P (step s event) ↔ ok s event))
    (events : List ε) : Always step start P events ↔ EveryStep step start ok events := by
  constructor
  · induction events using List.reverseRecOn with
    | nil => exact fun _ => everyStep_nil
    | append_singleton events event ih =>
      intro halways
      obtain ⟨hbefore, hlast⟩ := always_snoc.mp halways
      exact everyStep_snoc.mpr ⟨ih hbefore, (hstep _ _ hbefore.last).mp hlast⟩
  · exact always_of_everyStep hstart fun s event hP hok => (hstep s event hP).mpr hok

theorem always_iff_everyStep_of_invariant {I : σ → Prop} (hstart : I start)
    (hinv : ∀ s event, I s → ok s event → I (step s event)) (himp : ∀ s, I s → P s)
    (hnec : ∀ s event, I s → P (step s event) → ok s event) (events : List ε) :
    Always step start P events ↔ EveryStep step start ok events := by
  constructor
  · induction events using List.reverseRecOn with
    | nil => exact fun _ => everyStep_nil
    | append_singleton events event ih =>
      intro halways
      obtain ⟨hbefore, hlast⟩ := always_snoc.mp halways
      have hok := ih hbefore
      exact everyStep_snoc.mpr ⟨hok, hnec _ _ (always_of_everyStep hstart hinv hok).last hlast⟩
  · exact fun hok before hbefore => himp _ (always_of_everyStep hstart hinv hok before hbefore)

end

end transition
