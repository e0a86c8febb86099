import Mathlib.Logic.Relation

/-!
# Runs of labelled steps

A system given by a relation `Step before label after`.  `RunWith Step P` are the
runs whose every step meets `P`, a condition on the state the step is taken in and
on its label; what each such step preserves, the run preserves.
-/

namespace QuantApp.Verified

universe u v

variable {σ : Type u} {lbl : Type v} {Step : σ → lbl → σ → Prop} {P Q : σ → lbl → Prop}
  {s t w : σ}

variable (Step) in
/-- A run of steps that all meet `P`. -/
def RunWith (P : σ → lbl → Prop) : σ → σ → Prop :=
  Relation.ReflTransGen (fun before after => ∃ label, P before label ∧ Step before label after)

theorem RunWith.refl (s : σ) : RunWith Step P s s := Relation.ReflTransGen.refl

section

variable (h : RunWith Step P s t)
include h

theorem RunWith.step {label : lbl} (hLabel : P t label) (hStep : Step t label w) :
    RunWith Step P s w :=
  Relation.ReflTransGen.tail h ⟨label, hLabel, hStep⟩

theorem RunWith.trans (h' : RunWith Step P t w) : RunWith Step P s w :=
  Relation.ReflTransGen.trans h h'

theorem RunWith.mono (hImp : ∀ s label, P s label → Q s label) : RunWith Step Q s t := by
  induction h with
  | refl => exact RunWith.refl s
  | tail _ hLast ih =>
    obtain ⟨label, hLabel, hStep⟩ := hLast
    exact ih.step (hImp _ label hLabel) hStep

theorem RunWith.invariant {I : σ → Prop} (hStart : I s)
    (hStep : ∀ before label after, I before → P before label → Step before label after → I after) :
    I t := by
  induction h with
  | refl => exact hStart
  | tail _ hLast ih =>
    obtain ⟨label, hLabel, hTaken⟩ := hLast
    exact hStep _ label _ ih hLabel hTaken

/-- Where what held at the start no longer holds, one step has ended it. -/
theorem RunWith.crossing {I : σ → Prop} (hStart : I s) (hEnd : ¬ I t) :
    ∃ before label after, RunWith Step P s before ∧ P before label ∧ Step before label after ∧
      RunWith Step P after t ∧ I before ∧ ¬ I after := by
  induction h with
  | refl => exact absurd hStart hEnd
  | @tail between last hRun hLast ih =>
    by_cases hBetween : I between
    · obtain ⟨label, hLabel, hStep⟩ := hLast
      exact ⟨between, label, last, hRun, hLabel, hStep, RunWith.refl last, hBetween, hEnd⟩
    · obtain ⟨before, label, after, hFirst, hMet, hStep, hRest, hHeld, hLost⟩ := ih hBetween
      exact ⟨before, label, after, hFirst, hMet, hStep,
        Relation.ReflTransGen.tail hRest hLast, hHeld, hLost⟩

end

/-! ## Runs that are computed -/

/-- The state after a list of labels, none where one is not enabled or not admitted. -/
def runLabels (next : σ → lbl → Option σ) (admits : σ → lbl → Bool) : List lbl → σ → Option σ
  | [], state => some state
  | label :: rest, state =>
    if admits state label then (next state label).bind (runLabels next admits rest) else none

/-- A computed run is a run. -/
theorem RunWith.of_labels {next : σ → lbl → Option σ} {admits : σ → lbl → Bool}
    {labels : List lbl} (hNext : ∀ s label t, next s label = some t → Step s label t)
    (hAdmits : ∀ s label, admits s label = true → P s label)
    (h : runLabels next admits labels s = some t) : RunWith Step P s t := by
  induction labels generalizing s with
  | nil =>
    cases h
    exact RunWith.refl _
  | cons label rest ih =>
    unfold runLabels at h
    split at h
    next hAdmitted =>
      obtain ⟨between, hBetween, hRest⟩ := Option.bind_eq_some_iff.mp h
      have hFirst : RunWith Step P s between :=
        (RunWith.refl s).step (hAdmits s label hAdmitted) (hNext s label between hBetween)
      exact hFirst.trans (ih hRest)
    · cases h

/-! ## Every step of a list -/

section Lists

variable {next : σ → lbl → σ} {I : σ → Prop} {labels : List lbl}

variable (next) in
/-- Every step of the list meets `P`, in the state the steps before it lead to. -/
def EachStep (P : σ → lbl → Prop) (s : σ) (labels : List lbl) : Prop :=
  ∀ before label after, labels = before ++ label :: after → P (before.foldl next s) label

theorem EachStep.nil : EachStep next P s [] := by
  intro before label after h
  exact absurd h (by simp)

theorem eachStep_cons {label : lbl} :
    EachStep next P s (label :: labels) ↔ P s label ∧ EachStep next P (next s label) labels := by
  constructor
  · intro h
    refine ⟨h [] label labels rfl, ?_⟩
    rintro before last after rfl
    exact h (label :: before) last after rfl
  · rintro ⟨hFirst, hRest⟩ before last after hLabels
    cases before with
    | nil =>
      obtain ⟨rfl, -⟩ := List.cons.inj hLabels
      exact hFirst
    | cons first before =>
      obtain ⟨rfl, hTail⟩ := List.cons.inj hLabels
      exact hRest before last after hTail

/-- Where two conditions agree under an invariant that the steps meeting the second keep, a list
meets the one at every step just when it meets the other. -/
theorem EachStep.iff_of_invariant (hAgree : ∀ s label, I s → (P s label ↔ Q s label))
    (hKeep : ∀ s label, I s → Q s label → I (next s label)) (hStart : I s) :
    EachStep next P s labels ↔ EachStep next Q s labels := by
  induction labels generalizing s with
  | nil => exact ⟨fun _ => EachStep.nil, fun _ => EachStep.nil⟩
  | cons label labels ih =>
    rw [eachStep_cons, eachStep_cons, hAgree s label hStart]
    refine and_congr_right fun hMeets => ?_
    exact ih (hKeep s label hStart hMeets)

end Lists

end QuantApp.Verified
