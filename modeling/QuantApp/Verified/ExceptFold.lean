import Mathlib.Data.List.Forall2

/-!
# Folds that may raise

`List.foldlM` in `Except`: what every step preserves the whole fold preserves,
and a fold whose steps never raise under an invariant does not raise.
-/

namespace QuantApp.Verified

universe u v w

variable {ε : Type u} {α : Type v} {β : Type w}

theorem bind_eq_ok {γ : Type w} {x : Except ε γ} {f : γ → Except ε β} {b : β} :
    (x >>= f) = .ok b ↔ ∃ a, x = .ok a ∧ f a = .ok b := by
  cases x with
  | error | ok => simp [bind, Except.bind]

theorem map_eq_ok {γ : Type w} {x : Except ε γ} {f : γ → β} {b : β} :
    (f <$> x) = .ok b ↔ ∃ a, x = .ok a ∧ f a = b := by
  cases x with
  | error | ok => simp [Functor.map, Except.map]

/-- Every error a computation can end with satisfies `P`. -/
def Errors (P : ε → Prop) (x : Except ε α) : Prop := ∀ error, x = .error error → P error

theorem errors_ok {P : ε → Prop} {a : α} : Errors P (.ok a : Except ε α) := fun _ h => nomatch h

theorem errors_error {P : ε → Prop} {error : ε} (h : P error) :
    Errors P (.error error : Except ε α) := by
  rintro _ ⟨⟩
  exact h

theorem Errors.bind {γ : Type w} {P : ε → Prop} {x : Except ε γ} {f : γ → Except ε β}
    (hx : Errors P x) (hf : ∀ a, Errors P (f a)) : Errors P (x >>= f) := by
  cases x with
  | error found => exact errors_error (hx found rfl)
  | ok a => exact hf a

/-- The result of a computation, or `fallback` when it raised. -/
def okOr (x : Except ε α) (fallback : α) : α :=
  match x with
  | .ok a => a
  | .error _ => fallback

theorem eq_okOr {x : Except ε α} {fallback : α} (h : x.isOk = true) :
    x = .ok (okOr x fallback) := by
  cases x with
  | error => cases h
  | ok => rfl

variable {step : β → α → Except ε β} {xs : List α} {s s' : β}

theorem foldlM_cons_ok {x : α} :
    (x :: xs).foldlM step s = .ok s' ↔ ∃ t, step s x = .ok t ∧ xs.foldlM step t = .ok s' := by
  rw [List.foldlM_cons, bind_eq_ok]

/-- What every successful step preserves, a successful fold preserves. -/
theorem foldlM_invariant (P : β → Prop) (hStart : P s)
    (hStep : ∀ b x b', x ∈ xs → P b → step b x = .ok b' → P b')
    (h : xs.foldlM step s = .ok s') : P s' := by
  induction xs generalizing s with
  | nil =>
    cases h
    exact hStart
  | cons x xs ih =>
    obtain ⟨t, hHead, hTail⟩ := foldlM_cons_ok.mp h
    refine ih (hStep s x t List.mem_cons_self hStart hHead) ?_ hTail
    intro b y b' hy
    exact hStep b y b' (List.mem_cons_of_mem x hy)

/-- A fold succeeds when every step does under an invariant it preserves. -/
theorem foldlM_succeeds (P : β → Prop) (hStart : P s)
    (hStep : ∀ b x, x ∈ xs → P b → ∃ b', step b x = .ok b' ∧ P b') :
    ∃ s', xs.foldlM step s = .ok s' ∧ P s' := by
  induction xs generalizing s with
  | nil => exact ⟨s, rfl, hStart⟩
  | cons x xs ih =>
    obtain ⟨t, hHead, ht⟩ := hStep s x List.mem_cons_self hStart
    obtain ⟨s', hTail, hs'⟩ := ih ht (fun b y hy => hStep b y (List.mem_cons_of_mem x hy))
    exact ⟨s', foldlM_cons_ok.mpr ⟨t, hHead, hTail⟩, hs'⟩

theorem foldl_frame {γ : Type u} {step : β → α → β} (f : β → γ)
    (hStep : ∀ b x, x ∈ xs → f (step b x) = f b) : f (xs.foldl step s) = f s := by
  induction xs generalizing s with
  | nil => rfl
  | cons x xs ih =>
    rw [List.foldl_cons, ih (fun b y hy => hStep b y (List.mem_cons_of_mem x hy)),
      hStep s x List.mem_cons_self]

theorem foldl_invariant {step : β → α → β} (P : β → Prop) (hStart : P s)
    (hStep : ∀ b x, x ∈ xs → P b → P (step b x)) : P (xs.foldl step s) := by
  induction xs generalizing s with
  | nil => exact hStart
  | cons x xs ih =>
    rw [List.foldl_cons]
    exact ih (hStep s x List.mem_cons_self hStart)
      (fun b y hy => hStep b y (List.mem_cons_of_mem x hy))

/-! ## Folds that reach a state -/

theorem foldlM_reaches {P Q : β → Prop} {x : α} (hStart : P s ∨ Q s) (hx : x ∈ xs)
    (hStep : ∀ b y b', y ∈ xs → P b → step b y = .ok b' → P b' ∨ Q b')
    (hHit : ∀ b b', P b → step b x = .ok b' → Q b')
    (hStay : ∀ b y b', y ∈ xs → Q b → step b y = .ok b' → Q b')
    (h : xs.foldlM step s = .ok s') : Q s' := by
  induction xs generalizing s with
  | nil => cases hx
  | cons y xs ih =>
    obtain ⟨t, hHead, hTailRun⟩ := foldlM_cons_ok.mp h
    have hStayRest : ∀ b z b', z ∈ xs → Q b → step b z = .ok b' → Q b' :=
      fun b z b' hz => hStay b z b' (List.mem_cons_of_mem y hz)
    have hStepRest : ∀ b z b', z ∈ xs → P b → step b z = .ok b' → P b' ∨ Q b' :=
      fun b z b' hz => hStep b z b' (List.mem_cons_of_mem y hz)
    rcases List.mem_cons.mp hx with rfl | hTail
    · have hNow : Q t := by
        rcases hStart with hP | hQ
        · exact hHit s t hP hHead
        · exact hStay s x t List.mem_cons_self hQ hHead
      exact foldlM_invariant Q hNow hStayRest hTailRun
    · refine ih ?_ hTail hStepRest hStayRest hTailRun
      rcases hStart with hP | hQ
      · exact hStep s y t List.mem_cons_self hP hHead
      · exact Or.inr (hStay s y t List.mem_cons_self hQ hHead)

/-! ## Folds that write one key a step -/

section Keys

variable {κ : Type w} {γ : Type u} {key : α → κ} {f : κ → β → γ}

/-- A key no element has reads the same after the fold. -/
theorem foldlM_fresh_key {k : κ}
    (hFrame : ∀ b x b', step b x = .ok b' → ∀ k, k ≠ key x → f k b' = f k b)
    (hFresh : k ∉ xs.map key) (h : xs.foldlM step s = .ok s') : f k s' = f k s := by
  apply foldlM_invariant (fun b => f k b = f k s) rfl _ h
  intro b x b' hx hBefore hStep
  have hOther : k ≠ key x := by
    rintro rfl
    exact hFresh (List.mem_map_of_mem hx)
  exact (hFrame b x b' hStep k hOther).trans hBefore

/-- With distinct keys, the key of an element is written by its own step only. -/
theorem foldlM_at_key {x : α}
    (hFrame : ∀ b x b', step b x = .ok b' → ∀ k, k ≠ key x → f k b' = f k b)
    (hKeyed : (xs.map key).Nodup) (hx : x ∈ xs) (h : xs.foldlM step s = .ok s') :
    ∃ b b', f (key x) b = f (key x) s ∧ step b x = .ok b' ∧ f (key x) s' = f (key x) b' := by
  induction xs generalizing s with
  | nil => cases hx
  | cons y xs ih =>
    obtain ⟨t, hHead, hTail⟩ := foldlM_cons_ok.mp h
    obtain ⟨hFresh, hRest⟩ := List.nodup_cons.mp hKeyed
    rcases List.mem_cons.mp hx with rfl | hLater
    · exact ⟨s, t, rfl, hHead, foldlM_fresh_key hFrame hFresh hTail⟩
    · obtain ⟨b, b', hBefore, hStep, hAfter⟩ := ih hRest hLater hTail
      have hOther : key x ≠ key y := by
        intro hSame
        apply hFresh
        rw [← hSame]
        exact List.mem_map_of_mem hLater
      exact ⟨b, b', hBefore.trans (hFrame s y t hHead (key x) hOther), hStep, hAfter⟩

end Keys

/-! ## Maps that may raise -/

variable {f : α → Except ε β}

theorem mapM_cons_ok {x : α} {ys : List β} :
    (x :: xs).mapM f = .ok ys ↔ ∃ y rest, f x = .ok y ∧ xs.mapM f = .ok rest ∧ ys = y :: rest := by
  rw [List.mapM_cons, bind_eq_ok]
  constructor
  · rintro ⟨y, hHead, h⟩
    obtain ⟨rest, hTail, hCons⟩ := bind_eq_ok.mp h
    cases hCons
    exact ⟨y, rest, hHead, hTail, rfl⟩
  · rintro ⟨y, rest, hHead, hTail, rfl⟩
    exact ⟨y, hHead, bind_eq_ok.mpr ⟨rest, hTail, rfl⟩⟩

/-- A map that succeeds pairs every element with its result. -/
theorem mapM_forall₂ {ys : List β} (h : xs.mapM f = .ok ys) :
    List.Forall₂ (fun x y => f x = .ok y) xs ys := by
  induction xs generalizing ys with
  | nil =>
    cases h
    exact .nil
  | cons x xs ih =>
    obtain ⟨y, rest, hHead, hTail, rfl⟩ := mapM_cons_ok.mp h
    exact .cons hHead (ih hTail)

/-- A map succeeds exactly when it does on every element. -/
theorem mapM_succeeds_iff :
    (∃ ys, xs.mapM f = .ok ys) ↔ ∀ x ∈ xs, ∃ y, f x = .ok y := by
  induction xs with
  | nil => exact ⟨fun _ x hx => absurd hx List.not_mem_nil, fun _ => ⟨[], rfl⟩⟩
  | cons x xs ih =>
    constructor
    · rintro ⟨ys, h⟩
      obtain ⟨y, rest, hHead, hTail, rfl⟩ := mapM_cons_ok.mp h
      exact List.forall_mem_cons.mpr ⟨⟨y, hHead⟩, ih.mp ⟨rest, hTail⟩⟩
    · intro h
      obtain ⟨y, hHead⟩ := h x List.mem_cons_self
      obtain ⟨rest, hTail⟩ := ih.mpr (fun z hz => h z (List.mem_cons_of_mem x hz))
      exact ⟨y :: rest, mapM_cons_ok.mpr ⟨y, rest, hHead, hTail, rfl⟩⟩

/-- What a map that succeeds returns. -/
theorem mapM_eq_filterMap {ys : List β} (h : xs.mapM f = .ok ys) :
    xs.filterMap (fun x => (f x).toOption) = ys := by
  induction xs generalizing ys with
  | nil =>
    cases h
    rfl
  | cons x xs ih =>
    obtain ⟨y, rest, hHead, hTail, rfl⟩ := mapM_cons_ok.mp h
    rw [List.filterMap_cons, hHead, ih hTail]
    rfl

end QuantApp.Verified
