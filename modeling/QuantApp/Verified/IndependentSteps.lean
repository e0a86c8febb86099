import Mathlib.Data.List.Basic
import QuantApp.Verified.ExceptFold

/-!
# Folds whose independent steps commute

Two lists have the same trace when they agree on every pair of dependent
letters: the two letters occur in the same order in both.  Such lists differ by
exchanges of independent neighbours only (`exchanged_of_sameTrace`), so a fold
that may raise agrees on them as soon as its steps respect a relation of states
and independent steps commute up to it (`CommutingSteps.foldlM`).
-/

namespace QuantApp.Verified

universe u v w

/-! ## Traces -/

section Traces

variable {α : Type u} {Dep : α → α → Prop}

/-- The occurrences of two letters, in order. -/
def occurrences [DecidableEq α] (a b : α) (xs : List α) : List α :=
  xs.filter (fun x => x = a ∨ x = b)

/-- The lists agree on every pair of dependent letters. -/
def SameTrace [DecidableEq α] (Dep : α → α → Prop) (xs ys : List α) : Prop :=
  ∀ a b, Dep a b → occurrences a b xs = occurrences a b ys

/-- The lists differ by exchanges of independent neighbours. -/
inductive Exchanged (Dep : α → α → Prop) : List α → List α → Prop
  | nil : Exchanged Dep [] []
  | cons (x : α) {xs ys : List α} : Exchanged Dep xs ys → Exchanged Dep (x :: xs) (x :: ys)
  | swap {x y : α} (xs : List α) : ¬ Dep x y → Exchanged Dep (x :: y :: xs) (y :: x :: xs)
  | trans {xs ys zs : List α} : Exchanged Dep xs ys → Exchanged Dep ys zs → Exchanged Dep xs zs

namespace Exchanged

theorem refl (xs : List α) : Exchanged Dep xs xs := by
  induction xs with
  | nil => exact .nil
  | cons x xs ih => exact .cons x ih

theorem perm {xs ys : List α} (h : Exchanged Dep xs ys) : List.Perm xs ys := by
  induction h with
  | nil => exact .nil
  | cons x _ ih => exact ih.cons x
  | swap => exact .swap _ _ _
  | trans _ _ ihxy ihyz => exact ihxy.trans ihyz

theorem move {x : α} {as : List α} (bs : List α) (h : ∀ b ∈ as, ¬ Dep x b) :
    Exchanged Dep (x :: (as ++ bs)) (as ++ x :: bs) := by
  induction as with
  | nil => exact refl (x :: bs)
  | cons b as ih =>
    refine .trans (.swap (as ++ bs) (h b List.mem_cons_self)) (.cons b (ih ?_))
    intro c hc
    exact h c (List.mem_cons_of_mem b hc)

end Exchanged

variable [DecidableEq α]

theorem occurrences_append (a b : α) (xs ys : List α) :
    occurrences a b (xs ++ ys) = occurrences a b xs ++ occurrences a b ys := by
  unfold occurrences
  rw [List.filter_append]

theorem occurrences_cons_of {a b x : α} (h : x = a ∨ x = b) (xs : List α) :
    occurrences a b (x :: xs) = x :: occurrences a b xs := by
  simp [occurrences, h]

theorem occurrences_cons_of_not {a b x : α} (h : ¬ (x = a ∨ x = b)) (xs : List α) :
    occurrences a b (x :: xs) = occurrences a b xs := by
  unfold occurrences
  rw [List.filter_cons_of_neg (by simpa using h)]

theorem mem_occurrences {a b x : α} {xs : List α} :
    x ∈ occurrences a b xs ↔ x ∈ xs ∧ (x = a ∨ x = b) := by
  simp [occurrences, List.mem_filter]

namespace SameTrace

variable {xs ys : List α} {x : α}

theorem mem_right (hRefl : ∀ a, Dep a a) (h : SameTrace Dep xs ys) (hx : x ∈ xs) : x ∈ ys := by
  have hOccurs : x ∈ occurrences x x xs := mem_occurrences.mpr ⟨hx, Or.inl rfl⟩
  rw [h x x (hRefl x)] at hOccurs
  exact (mem_occurrences.mp hOccurs).1

/-- What stands before the first occurrence of the head is independent of it. -/
theorem independent_prefix {as bs : List α} (h : SameTrace Dep (x :: xs) (as ++ x :: bs))
    (hFirst : x ∉ as) : ∀ b ∈ as, ¬ Dep x b := by
  intro b hb hDep
  have hHead := h x b hDep
  rw [occurrences_cons_of (Or.inl rfl), occurrences_append] at hHead
  cases hBefore : occurrences x b as with
  | nil =>
    have hMem : b ∈ occurrences x b as := mem_occurrences.mpr ⟨hb, Or.inr rfl⟩
    rw [hBefore] at hMem
    cases hMem
  | cons c =>
    rw [hBefore, List.cons_append] at hHead
    have hc : x = c := (List.cons.inj hHead).1
    have hMem : c ∈ occurrences x b as := by
      rw [hBefore]
      exact List.mem_cons_self
    rw [← hc] at hMem
    exact hFirst (mem_occurrences.mp hMem).1

theorem tail {as bs : List α} (hSymm : ∀ a b, Dep a b → Dep b a)
    (h : SameTrace Dep (x :: xs) (as ++ x :: bs)) (hFirst : x ∉ as) :
    SameTrace Dep xs (as ++ bs) := by
  intro a b hDep
  have hIndependent := h.independent_prefix hFirst
  have hAt := h a b hDep
  rw [occurrences_append] at hAt ⊢
  by_cases hx : x = a ∨ x = b
  · have hNone : occurrences a b as = [] := by
      refine List.eq_nil_iff_forall_not_mem.mpr ?_
      intro c hMem
      obtain ⟨hc, hcab⟩ := mem_occurrences.mp hMem
      have hcx : c ≠ x := fun hEq => hFirst (hEq ▸ hc)
      rcases hx with rfl | rfl
      · rcases hcab with rfl | rfl
        · exact hcx rfl
        · exact hIndependent c hc hDep
      · rcases hcab with rfl | rfl
        · exact hIndependent c hc (hSymm _ _ hDep)
        · exact hcx rfl
    rw [occurrences_cons_of hx, occurrences_cons_of hx, hNone, List.nil_append] at hAt
    rw [hNone, List.nil_append]
    exact (List.cons.inj hAt).2
  · rwa [occurrences_cons_of_not hx, occurrences_cons_of_not hx] at hAt

end SameTrace

variable (hRefl : ∀ a, Dep a a) (hSymm : ∀ a b, Dep a b → Dep b a)
include hRefl hSymm

/-- Lists with the same trace differ by exchanges of independent neighbours. -/
theorem exchanged_of_sameTrace {xs ys : List α} (h : SameTrace Dep xs ys) :
    Exchanged Dep xs ys := by
  induction xs generalizing ys with
  | nil =>
    cases ys with
    | nil => exact .nil
    | cons y =>
      have hNone := h y y (hRefl y)
      rw [occurrences_cons_of (Or.inl rfl)] at hNone
      cases hNone
  | cons x xs ih =>
    obtain ⟨as, bs, rfl, hFirst⟩ :=
      List.eq_append_cons_of_mem (h.mem_right hRefl List.mem_cons_self)
    have hTail : Exchanged Dep (x :: xs) (x :: (as ++ bs)) := .cons x (ih (h.tail hSymm hFirst))
    exact hTail.trans (.move bs (h.independent_prefix hFirst))

/-- Exchanges of independent neighbours keep the trace. -/
theorem sameTrace_of_exchanged {xs ys : List α} (h : Exchanged Dep xs ys) :
    SameTrace Dep xs ys := by
  intro a b hDep
  induction h with
  | nil => rfl
  | cons x _ ih =>
    by_cases hx : x = a ∨ x = b
    · rw [occurrences_cons_of hx, occurrences_cons_of hx, ih]
    · rw [occurrences_cons_of_not hx, occurrences_cons_of_not hx, ih]
  | @swap x y xs hIndependent =>
    by_cases hx : x = a ∨ x = b
    · have hy : ¬ (y = a ∨ y = b) := by
        rintro (rfl | rfl)
        · rcases hx with rfl | rfl
          · exact hIndependent (hRefl x)
          · exact hIndependent (hSymm _ _ hDep)
        · rcases hx with rfl | rfl
          · exact hIndependent hDep
          · exact hIndependent (hRefl x)
      rw [occurrences_cons_of hx, occurrences_cons_of_not hy, occurrences_cons_of_not hy,
        occurrences_cons_of hx]
    · by_cases hy : y = a ∨ y = b
      · rw [occurrences_cons_of_not hx, occurrences_cons_of hy, occurrences_cons_of hy,
          occurrences_cons_of_not hx]
      · rw [occurrences_cons_of_not hx, occurrences_cons_of_not hy,
          occurrences_cons_of_not hy, occurrences_cons_of_not hx]
  | trans _ _ ihxy ihyz => exact ihxy.trans ihyz

end Traces

/-! ## Outcomes that agree -/

section Outcomes

variable {ε : Type u} {β : Type v} {R : β → β → Prop}

/-- Both raise, or both return and the values are related. -/
inductive Agree (R : β → β → Prop) : Except ε β → Except ε β → Prop
  | ok {a b : β} : R a b → Agree R (.ok a) (.ok b)
  | error (e e' : ε) : Agree R (.error e) (.error e')

namespace Agree

theorem refl (hRefl : ∀ a, R a a) (x : Except ε β) : Agree R x x := by
  cases x with
  | error e => exact .error e e
  | ok a => exact .ok (hRefl a)

theorem trans (hTrans : ∀ a b c, R a b → R b c → R a c) {x y z : Except ε β}
    (hxy : Agree R x y) (hyz : Agree R y z) : Agree R x z := by
  cases hxy with
  | ok hab =>
    cases hyz with
    | ok hbc => exact .ok (hTrans _ _ _ hab hbc)
  | error e =>
    cases hyz with
    | error _ e'' => exact .error e e''

section

variable {x y : Except ε β} (h : Agree R x y)
include h

theorem bind_of_eq {γ : Type v} {S : γ → γ → Prop} {f g : β → Except ε γ}
    (hNext : ∀ a b, x = .ok a → y = .ok b → R a b → Agree S (f a) (g b)) :
    Agree S (x >>= f) (y >>= g) := by
  cases h with
  | ok hab => exact hNext _ _ rfl rfl hab
  | error e e' => exact .error e e'

theorem bind {γ : Type v} {S : γ → γ → Prop} {f g : β → Except ε γ}
    (hNext : ∀ a b, R a b → Agree S (f a) (g b)) :
    Agree S (x >>= f) (y >>= g) :=
  h.bind_of_eq (fun a b _ _ hab => hNext a b hab)

theorem map {γ : Type v} {S : γ → γ → Prop} {f g : β → γ} (hMap : ∀ a b, R a b → S (f a) (g b)) :
    Agree S (f <$> x) (g <$> y) := by
  cases h with
  | ok hab => exact .ok (hMap _ _ hab)
  | error e e' => exact .error e e'

end

/-- Folds over one list agree when their steps do. -/
theorem foldlM {α : Type w} {f g : β → α → Except ε β} {xs : List α} {s t : β} (hst : R s t)
    (hStep : ∀ s t x, x ∈ xs → R s t → Agree R (f s x) (g t x)) :
    Agree R (xs.foldlM f s) (xs.foldlM g t) := by
  induction xs generalizing s t with
  | nil => exact .ok hst
  | cons x xs ih =>
    rw [List.foldlM_cons, List.foldlM_cons]
    refine (hStep s t x List.mem_cons_self hst).bind ?_
    intro s' t' hst'
    exact ih hst' (fun a b y hy => hStep a b y (List.mem_cons_of_mem x hy))

end Agree

end Outcomes

/-! ## Commuting steps -/

/-- Steps that respect a relation of states, and commute up to it on
independent letters. -/
structure CommutingSteps {α : Type u} {β : Type v} {ε : Type w} (Dep : α → α → Prop)
    (Letter : α → Prop) (R : β → β → Prop) (step : β → α → Except ε β) : Prop where
  right : ∀ s t, R s t → R t t
  trans : ∀ s t r, R s t → R t r → R s r
  respects : ∀ s t x, Letter x → R s t → Agree R (step s x) (step t x)
  swap : ∀ s x y, Letter x → Letter y → R s s → ¬ Dep x y →
    Agree R (step s x >>= (step · y)) (step s y >>= (step · x))

namespace CommutingSteps

variable {α : Type u} {β : Type v} {ε : Type w} {Dep : α → α → Prop} {Letter : α → Prop}
  {R : β → β → Prop} {step : β → α → Except ε β}

/-- Folds over lists that differ by exchanges of independent neighbours agree. -/
theorem foldlM (h : CommutingSteps Dep Letter R step) {xs ys : List α} {s t : β}
    (hLetters : ∀ x ∈ xs, Letter x) (hExchanged : Exchanged Dep xs ys) (hst : R s t) :
    Agree R (xs.foldlM step s) (ys.foldlM step t) := by
  induction hExchanged generalizing s t with
  | nil => exact .ok hst
  | cons x _ ih =>
    rw [List.foldlM_cons, List.foldlM_cons]
    refine (h.respects s t x (hLetters x List.mem_cons_self) hst).bind ?_
    intro s' t' hst'
    exact ih (fun y hy => hLetters y (List.mem_cons_of_mem x hy)) hst'
  | @swap x y xs hIndependent =>
    have hx : Letter x := hLetters x List.mem_cons_self
    have hy : Letter y := hLetters y (List.mem_cons_of_mem x List.mem_cons_self)
    have hFirst : Agree R (step s x >>= (step · y)) (step t x >>= (step · y)) :=
      (h.respects s t x hx hst).bind (fun s' t' hst' => h.respects s' t' y hy hst')
    have hBoth : Agree R (step s x >>= (step · y)) (step t y >>= (step · x)) :=
      hFirst.trans h.trans (h.swap t x y hx hy (h.right s t hst) hIndependent)
    simp only [List.foldlM_cons, ← bind_assoc]
    refine hBoth.bind ?_
    intro s' t' hst'
    refine Agree.foldlM hst' ?_
    intro s'' t'' z hz
    exact h.respects s'' t'' z
      (hLetters z (List.mem_cons_of_mem x (List.mem_cons_of_mem y hz)))
  | trans hxy _ ihxy ihyz =>
    refine (ihxy hLetters hst).trans h.trans (ihyz ?_ (h.right s t hst))
    intro y hy
    exact hLetters y (hxy.perm.mem_iff.mpr hy)

end CommutingSteps

end QuantApp.Verified
