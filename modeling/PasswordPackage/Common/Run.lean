import Mathlib.Data.List.Infix

/-!
# Runs of event-driven machines

A machine is a total step function `step : σ → ε → σ`: what the environment decides (a reply, a
failure, a clock reading) is part of the event. `Always` speaks of the states a run passes through
and `Guarded` of the steps it takes. The rules below turn one-step lemmas into statements about
whole runs, in both directions: `Guarded.always` from guards to states, and `always_iff_guarded`
when breaking a guard is also visible in the next state.
-/

namespace Machine

variable {σ ε : Type*} (step : σ → ε → σ)

/-- The state reached from `s` by a list of events. -/
def run (s : σ) (es : List ε) : σ :=
  es.foldl step s

@[simp] theorem run_nil (s : σ) : run step s [] = s := rfl

@[simp] theorem run_cons (s : σ) (e : ε) (es : List ε) :
    run step s (e :: es) = run step (step s e) es := rfl

theorem run_append (s : σ) (es es' : List ε) :
    run step s (es ++ es') = run step (run step s es) es' :=
  List.foldl_append

/-- `P` holds in every state the run passes through, its first and last state included. -/
def Always (P : σ → Prop) : σ → List ε → Prop
  | s, [] => P s
  | s, e :: es => P s ∧ Always P (step s e) es

/-- Every step of the run is taken from a state `s` on an event `e` with `G s e`. -/
def Guarded (G : σ → ε → Prop) : σ → List ε → Prop
  | _, [] => True
  | s, e :: es => G s e ∧ Guarded G (step s e) es

instance Always.decidable (P : σ → Prop) [DecidablePred P] :
    (s : σ) → (es : List ε) → Decidable (Always step P s es)
  | s, [] => inferInstanceAs (Decidable (P s))
  | s, e :: es =>
      haveI := Always.decidable P (step s e) es
      inferInstanceAs (Decidable (P s ∧ Always step P (step s e) es))

instance Guarded.decidable (G : σ → ε → Prop) [∀ s e, Decidable (G s e)] :
    (s : σ) → (es : List ε) → Decidable (Guarded step G s es)
  | _, [] => isTrue trivial
  | s, e :: es =>
      haveI := Guarded.decidable G (step s e) es
      inferInstanceAs (Decidable (G s e ∧ Guarded step G (step s e) es))

variable {step} {P Q : σ → Prop} {G H : σ → ε → Prop} {s : σ} {es : List ε}

theorem Always.head (h : Always step P s es) : P s := by
  cases es with
  | nil => exact h
  | cons e es => exact h.1

theorem always_iff_run :
    Always step P s es ↔ ∀ pre, pre <+: es → P (run step s pre) := by
  induction es generalizing s with
  | nil => simp [Always]
  | cons e es ih =>
      rw [Always, ih]
      constructor
      · rintro ⟨hs, hrest⟩ pre hpre
        rcases List.prefix_cons_iff.mp hpre with rfl | ⟨pre', rfl, hpre'⟩
        · exact hs
        · exact hrest pre' hpre'
      · intro h
        exact ⟨h [] List.nil_prefix,
          fun pre hpre => h (e :: pre) (List.cons_prefix_cons.mpr ⟨rfl, hpre⟩)⟩

theorem guarded_iff_split :
    Guarded step G s es ↔ ∀ pre e post, es = pre ++ e :: post → G (run step s pre) e := by
  induction es generalizing s with
  | nil => simp [Guarded]
  | cons e es ih =>
      rw [Guarded, ih]
      constructor
      · rintro ⟨hs, hrest⟩ pre e' post heq
        cases pre with
        | nil =>
            obtain ⟨rfl, -⟩ := List.cons.inj heq
            exact hs
        | cons e₀ pre =>
            obtain ⟨rfl, htail⟩ := List.cons.inj heq
            exact hrest pre e' post htail
      · intro h
        exact ⟨h [] e es rfl, fun pre e' post heq => h (e :: pre) e' post (by rw [heq]; rfl)⟩

/-- Guards may be compared under an invariant that the guarded steps keep. -/
theorem guarded_congr {Inv : σ → Prop} (hstep : ∀ s e, Inv s → H s e → Inv (step s e))
    (hGH : ∀ s e, Inv s → (G s e ↔ H s e)) (hs : Inv s) :
    Guarded step G s es ↔ Guarded step H s es := by
  induction es generalizing s with
  | nil => exact Iff.rfl
  | cons e es ih =>
      rw [Guarded, Guarded, hGH s e hs]
      -- past the first step that breaks the guards there is nothing left to compare
      exact and_congr_right fun hH => ih (hstep s e hs hH)

theorem guarded_congr_of_iff (hGH : ∀ s e, G s e ↔ H s e) :
    Guarded step G s es ↔ Guarded step H s es := by
  have heq : G = H := funext₂ fun s e => propext (hGH s e)
  rw [heq]

/-- Guards may be weakened under an invariant that the guarded steps keep. -/
theorem Guarded.imp {Inv : σ → Prop} (h : Guarded step G s es)
    (hstep : ∀ s e, Inv s → G s e → Inv (step s e)) (hGH : ∀ s e, Inv s → G s e → H s e)
    (hs : Inv s) : Guarded step H s es := by
  induction es generalizing s with
  | nil => trivial
  | cons e es ih => exact ⟨hGH s e hs h.1, ih h.2 (hstep s e hs h.1)⟩

theorem Guarded.mono (hGH : ∀ s e, G s e → H s e) (h : Guarded step G s es) :
    Guarded step H s es := by
  induction es generalizing s with
  | nil => trivial
  | cons e es ih => exact ⟨hGH s e h.1, ih h.2⟩

/-- The invariant rule for guarded runs. -/
theorem Guarded.always {Inv : σ → Prop} (hstep : ∀ s e, Inv s → G s e → Inv (step s e))
    (hs : Inv s) (h : Guarded step G s es) : Always step Inv s es := by
  induction es generalizing s with
  | nil => exact hs
  | cons e es ih => exact ⟨hs, ih (hstep s e hs h.1) h.2⟩

/-- The invariant rule for arbitrary runs. -/
theorem run_invariant {Inv : σ → Prop} (hstep : ∀ s e, Inv s → Inv (step s e)) (hs : Inv s)
    (es : List ε) : Inv (run step s es) := by
  induction es generalizing s with
  | nil => exact hs
  | cons e es ih => exact ih (hstep s e hs)

theorem Always.mono (hPQ : ∀ s, P s → Q s) (h : Always step P s es) : Always step Q s es := by
  rw [always_iff_run] at h ⊢
  exact fun pre hpre => hPQ _ (h pre hpre)

/-- If the guard keeps an invariant and the first step that breaks the guard is seen in the state it
leads to, a run stays in `P` exactly when it is guarded. -/
theorem always_iff_guarded {Inv : σ → Prop} (hstep : ∀ s e, Inv s → G s e → Inv (step s e))
    (hbad : ∀ s e, Inv s → ¬ G s e → ¬ P (step s e)) (hP : ∀ s, Inv s → P s) (hs : Inv s) :
    Always step P s es ↔ Guarded step G s es := by
  constructor
  · intro h
    induction es generalizing s with
    | nil => trivial
    | cons e es ih =>
        have hG : G s e := by
          -- an unguarded step would leave `P` at once
          by_contra hne
          exact hbad s e hs hne h.2.head
        exact ⟨hG, ih (hstep s e hs hG) h.2⟩
  · intro h
    exact (h.always hstep hs).mono hP

/-- The same for runs whose events all have a property. -/
theorem always_iff_guarded_of {Inv : σ → Prop} {Good : ε → Prop}
    (hstep : ∀ s e, Good e → Inv s → G s e → Inv (step s e))
    (hbad : ∀ s e, Good e → Inv s → ¬ G s e → ¬ P (step s e)) (hP : ∀ s, Inv s → P s)
    (hgood : ∀ e ∈ es, Good e) (hs : Inv s) : Always step P s es ↔ Guarded step G s es := by
  induction es generalizing s with
  | nil => exact iff_of_true (hP s hs) trivial
  | cons e es ih =>
      obtain ⟨he, hrest⟩ := List.forall_mem_cons.mp hgood
      rw [Always, Guarded, and_iff_right (hP s hs)]
      by_cases hG : G s e
      · rw [and_iff_right hG]
        exact ih hrest (hstep s e he hs hG)
      · exact iff_of_false (fun h => hbad s e he hs hG h.head) (fun h => hG h.1)

end Machine
