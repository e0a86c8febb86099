import Mathlib.Data.List.Induction
import Mathlib.Order.Basic

/-!
# Values cached under a token

Writers move a token on and change a value in two steps.  A reader keeps a value together
with a token it has read before, and takes the value again while the token stands.  The log
holds the token and the value of every moment, the present one last; `silent` says that some
writer has moved the token for the last time and has not yet changed the value.

An entry is good as long as it was not made in the silence of a writer: while its token
stands its value is the present one, and whoever has read the token or an earlier one at some
moment finds in it a value of that moment or of a later one.
-/

namespace QuantApp.Verified

universe u v

variable {τ : Type u} {V : Type v}

/-- The moments so far, and whether a writer is silent. -/
structure Published (τ : Type u) (V : Type v) where
  past : List (τ × V)
  token : τ
  value : V
  silent : Prop

namespace Published

/-- All moments, the present one last. -/
def log (s : Published τ V) : List (τ × V) := s.past ++ [(s.token, s.value)]

/-- The value is that of a moment from `start` on. -/
def Since (s : Published τ V) (start : Nat) (v : V) : Prop :=
  ∃ n, start ≤ n ∧ (s.log[n]?).map Prod.snd = some v

/-- The value is the present one, and no writer is silent. -/
def Fresh (s : Published τ V) (v : V) : Prop := v = s.value ∧ ¬ s.silent

variable {s s' : Published τ V} {start n : Nat} {token : τ} {v : V}

theorem length_log : s.log.length = s.past.length + 1 := by
  unfold log
  rw [List.length_append, List.length_singleton]

theorem getElem?_log_last : s.log[s.past.length]? = some (s.token, s.value) := by
  unfold log
  exact List.getElem?_concat_length

theorem since_now (h : start ≤ s.past.length) : s.Since start s.value :=
  ⟨s.past.length, h, by rw [getElem?_log_last]; rfl⟩

theorem Since.mono (h : s.Since start v) (hLe : n ≤ start) : s.Since n v := by
  obtain ⟨m, hm, hValue⟩ := h
  exact ⟨m, Nat.le_trans hLe hm, hValue⟩

variable [PartialOrder τ]

/-- One more moment: the value changes in a writer's silence alone, and a writer that falls
silent has moved the token. -/
structure Advances (s s' : Published τ V) : Prop where
  past : s'.past = s.log
  token : s.token ≤ s'.token
  changed : s'.value ≠ s.value → s.silent
  marked : s'.silent → s.silent ∨ s'.token ≠ s.token

/-- A value kept under a token: fresh while the token stands, and of the moment or later for
the moments from `start` on whose token is not newer. -/
structure Entry (s : Published τ V) (start : Nat) (token : τ) (v : V) : Prop where
  old : token ≤ s.token
  fresh : token = s.token → s.Fresh v
  since : ∀ n moment, start ≤ n → s.log[n]? = some moment → moment.1 ≤ token → s.Since n v

theorem Advances.log (h : s.Advances s') : s'.log = s.log ++ [(s'.token, s'.value)] := by
  unfold Published.log
  rw [h.past]
  rfl

theorem Advances.getElem? (h : s.Advances s') {moment : τ × V}
    (hMoment : s.log[n]? = some moment) : s'.log[n]? = some moment := by
  rw [h.log, List.getElem?_append_left (List.getElem?_eq_some_iff.mp hMoment).1]
  exact hMoment

theorem Since.advance (h : s.Since start v) (hStep : s.Advances s') : s'.Since start v := by
  obtain ⟨m, hm, hValue⟩ := h
  obtain ⟨moment, hMoment, rfl⟩ := Option.map_eq_some_iff.mp hValue
  exact ⟨m, hm, by rw [hStep.getElem? hMoment]; rfl⟩

/-- A moment of the longer log is an old one or the present one. -/
theorem Advances.moment (h : s.Advances s') {moment : τ × V} (hMoment : s'.log[n]? = some moment) :
    s.log[n]? = some moment ∨ n = s'.past.length ∧ moment = (s'.token, s'.value) := by
  have hBound : n < s'.log.length := (List.getElem?_eq_some_iff.mp hMoment).1
  rw [length_log] at hBound
  by_cases hOld : n < s.log.length
  · left
    rw [h.log, List.getElem?_append_left hOld] at hMoment
    exact hMoment
  · right
    have hLast : n = s'.past.length := by
      rw [h.past] at hBound ⊢
      omega
    rw [hLast, getElem?_log_last] at hMoment
    exact ⟨hLast, (Option.some.inj hMoment).symm⟩

/-- What is fresh stays so until the token moves. -/
theorem Fresh.advance (h : s.Fresh v) (hStep : s.Advances s') (hToken : s'.token = s.token) :
    s'.Fresh v := by
  obtain ⟨hValue, hHeard⟩ := h
  constructor
  · rw [hValue]
    by_contra hChanged
    exact hHeard (hStep.changed (Ne.symm hChanged))
  · intro hSilent
    rcases hStep.marked hSilent with hBefore | hMoved
    · exact hHeard hBefore
    · exact hMoved hToken

theorem fresh_advance (hOld : token ≤ s.token) (h : token = s.token → s.Fresh v)
    (hStep : s.Advances s') : token = s'.token → s'.Fresh v := by
  intro hToken
  have hBefore := le_antisymm hOld (hStep.token.trans hToken.ge)
  exact (h hBefore).advance hStep (hToken.symm.trans hBefore)

theorem Entry.advance (h : s.Entry start token v) (hStep : s.Advances s') :
    s'.Entry start token v where
  old := h.old.trans hStep.token
  fresh := fresh_advance h.old h.fresh hStep
  since := by
    intro n moment hStart hMoment hNot
    rcases hStep.moment hMoment with hOldMoment | ⟨rfl, rfl⟩
    · exact (h.since n moment hStart hOldMoment hNot).advance hStep
    · have hToken : token = s'.token := le_antisymm (h.old.trans hStep.token) hNot
      have hFresh := fresh_advance h.old h.fresh hStep hToken
      rw [hFresh.1]
      exact since_now (Nat.le_refl _)

/-- An entry that is made of the present value, outside of a silence that its token would not
tell. -/
theorem Entry.of_now (hOld : token ≤ s.token) (hHeard : token = s.token → ¬ s.silent) :
    s.Entry start token s.value where
  old := hOld
  fresh := fun hToken => ⟨rfl, hHeard hToken⟩
  since := by
    intro n moment _ hMoment _
    have hBound : n < s.log.length := (List.getElem?_eq_some_iff.mp hMoment).1
    rw [length_log] at hBound
    exact since_now (Nat.le_of_lt_succ hBound)

/-- An entry that is fresh while its token stands, for the moments that are still to come. -/
theorem Entry.of_fresh (hOld : token ≤ s.token)
    (hFresh : token = s.token → s.Fresh v) : s.Entry s.past.length token v where
  old := hOld
  fresh := hFresh
  since := by
    intro n moment hStart hMoment hNot
    have hBound : n < s.log.length := (List.getElem?_eq_some_iff.mp hMoment).1
    rw [length_log] at hBound
    have hLast : n = s.past.length := by omega
    subst hLast
    rw [getElem?_log_last] at hMoment
    cases hMoment
    rw [(hFresh (le_antisymm hOld hNot)).1]
    exact since_now (Nat.le_refl _)

end Published

end QuantApp.Verified
