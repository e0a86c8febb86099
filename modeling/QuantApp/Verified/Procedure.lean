import Mathlib.Logic.Basic

/-!
# Procedures that may raise or die

A `Procedure` runs over a durable state and ends by returning a value, by
raising an exception, or because its process dies.  Whatever it has written
when it ends stays written.  An exception can be caught (`attempt`), the death
of the process cannot.

`Ensures` is what holds where a procedure ends, and its rules follow the
constructors.  `Keeps` is the coarser judgment: the state a procedure leaves is
related to the one it started from by a reflexive and transitive relation, such
as a frame or the growth of a table.
-/

namespace QuantApp.Verified

universe u v w x

/-- How a procedure ends. -/
inductive Outcome (ε : Type u) (α : Type v)
  | returned (value : α)
  | raised (error : ε)
  | crashed

def Procedure (W : Type w) (ε : Type u) (α : Type v) := W → Outcome ε α × W

namespace Procedure

variable {W : Type w} {ε : Type u} {α : Type v} {β : Type v}

def bind (p : Procedure W ε α) (f : α → Procedure W ε β) : Procedure W ε β := fun state =>
  match p state with
  | (.returned value, next) => f value next
  | (.raised error, next) => (.raised error, next)
  | (.crashed, next) => (.crashed, next)

instance : Monad (Procedure W ε) where
  pure value := fun state => (.returned value, state)
  bind := bind

/-- `raise error`. -/
def raise (error : ε) : Procedure W ε α := fun state => (.raised error, state)

/-- The process dies here. -/
def crash : Procedure W ε α := fun state => (.crashed, state)

/-- Read the durable state. -/
def read (f : W → α) : Procedure W ε α := fun state => (.returned (f state), state)

/-- Write the durable state. -/
def update (f : W → W) : Procedure W ε PUnit := fun state => (.returned ⟨⟩, f state)

/-- The result of a pure computation, raised when it is an exception. -/
def ofExcept : Except ε α → Procedure W ε α
  | .ok value => pure value
  | .error error => raise error

/-- `try p`: an exception becomes a value; a dead process stays dead. -/
def attempt (p : Procedure W ε α) : Procedure W ε (Except ε α) := fun state =>
  match p state with
  | (.returned value, next) => (.returned (.ok value), next)
  | (.raised error, next) => (.returned (.error error), next)
  | (.crashed, next) => (.crashed, next)

/-! ## Runs -/

section Runs

variable {p : Procedure W ε α} {f : α → Procedure W ε β} {state next : W}

theorem bind_returned {value : α} (h : p state = (.returned value, next)) :
    (p >>= f) state = f value next := by
  show bind p f state = _
  unfold bind
  rw [h]

theorem bind_raised {error : ε} (h : p state = (.raised error, next)) :
    (p >>= f) state = (.raised error, next) := by
  show bind p f state = _
  unfold bind
  rw [h]

theorem bind_crashed (h : p state = (.crashed, next)) : (p >>= f) state = (.crashed, next) := by
  show bind p f state = _
  unfold bind
  rw [h]

/-- A sequence returns what its second part returns after the first one. -/
theorem bind_eq_returned {value : β} :
    (p >>= f) state = (.returned value, next) ↔
      ∃ first between, p state = (.returned first, between) ∧
        f first between = (.returned value, next) := by
  show bind p f state = _ ↔ _
  unfold bind
  rcases hRun : p state with ⟨first | error | _, between⟩
  · constructor
    · intro h
      exact ⟨first, between, rfl, h⟩
    · rintro ⟨_, _, hFirst, h⟩
      cases hFirst
      exact h
  · simp
  · simp

/-- The second part is only looked at from where the first one returns. -/
theorem bind_congr {g : α → Procedure W ε β}
    (h : ∀ value next, p state = (.returned value, next) → f value next = g value next) :
    (p >>= f) state = (p >>= g) state := by
  show bind p f state = bind p g state
  unfold bind
  rcases hRun : p state with ⟨value | _ | _, next⟩
  · exact h value next hRun
  · rfl
  · rfl

theorem attempt_congr {q : Procedure W ε α} (h : p state = q state) :
    attempt p state = attempt q state := by
  unfold attempt
  rw [h]

theorem attempt_returned {value : α} (h : p state = (.returned value, next)) :
    attempt p state = (.returned (.ok value), next) := by
  unfold attempt
  rw [h]

theorem attempt_raised {error : ε} (h : p state = (.raised error, next)) :
    attempt p state = (.returned (.error error), next) := by
  unfold attempt
  rw [h]

theorem attempt_crashed (h : p state = (.crashed, next)) : attempt p state = (.crashed, next) := by
  unfold attempt
  rw [h]

end Runs

/-! ## What holds where a procedure ends -/

/-- `post` holds of how `p` ends from `state` and of what it leaves. -/
def Ensures (p : Procedure W ε α) (state : W) (post : Outcome ε α → W → Prop) : Prop :=
  post (p state).1 (p state).2

/-- What the first part of a sequence has to ensure for `post` to hold at the end. -/
def andThen (f : α → Procedure W ε β) (post : Outcome ε β → W → Prop) :
    Outcome ε α → W → Prop
  | .returned value, state => Ensures (f value) state post
  | .raised error, state => post (.raised error) state
  | .crashed, state => post .crashed state

/-- What an attempted part has to ensure. -/
def caught (post : Outcome ε (Except ε α) → W → Prop) : Outcome ε α → W → Prop
  | .returned value, state => post (.returned (.ok value)) state
  | .raised error, state => post (.returned (.error error)) state
  | .crashed, state => post .crashed state

variable {p : Procedure W ε α} {f : α → Procedure W ε β} {state : W}

@[simp] theorem ensures_pure {value : α} {post : Outcome ε α → W → Prop} :
    Ensures (pure value : Procedure W ε α) state post ↔ post (.returned value) state := Iff.rfl

@[simp] theorem ensures_raise {error : ε} {post : Outcome ε α → W → Prop} :
    Ensures (raise error : Procedure W ε α) state post ↔ post (.raised error) state := Iff.rfl

theorem ensures_ofExcept {result : Except ε α} {post : Outcome ε α → W → Prop} :
    Ensures (ofExcept result : Procedure W ε α) state post ↔
      (∀ value, result = .ok value → post (.returned value) state) ∧
        ∀ error, result = .error error → post (.raised error) state := by
  cases result with
  | ok | error => simp [ofExcept]

theorem ensures_bind {post : Outcome ε β → W → Prop} :
    Ensures (p >>= f) state post ↔ Ensures p state (andThen f post) := by
  show Ensures (bind p f) state post ↔ _
  unfold Ensures bind
  rcases hRun : p state with ⟨_ | _ | _, next⟩ <;> exact Iff.rfl

theorem ensures_attempt {post : Outcome ε (Except ε α) → W → Prop} :
    Ensures (attempt p) state post ↔ Ensures p state (caught post) := by
  unfold Ensures attempt
  rcases hRun : p state with ⟨_ | _ | _, next⟩ <;> exact Iff.rfl

/-- A postcondition by the three ways to end. -/
def outcomes (returned : α → W → Prop) (raised : ε → W → Prop) (crashed : W → Prop) :
    Outcome ε α → W → Prop
  | .returned value, state => returned value state
  | .raised error, state => raised error state
  | .crashed, state => crashed state

section Rules

variable {returned : α → W → Prop} {between : β → W → Prop} {raised : ε → W → Prop}
  {crashed : W → Prop}

/-- The sequence rule: the second part starts where the first one returns. -/
theorem Ensures.seq {q : Procedure W ε β} {g : β → Procedure W ε α}
    (hq : Ensures q state (outcomes between raised crashed))
    (hg : ∀ value next, between value next →
      Ensures (g value) next (outcomes returned raised crashed)) :
    Ensures (q >>= g) state (outcomes returned raised crashed) := by
  rw [ensures_bind]
  unfold Ensures at hq ⊢
  rcases hRun : q state with ⟨value | error | _, next⟩
  · rw [hRun] at hq
    exact hg value next hq
  all_goals
    rw [hRun] at hq
    exact hq

theorem Ensures.pure {value : α} (h : returned value state) :
    Ensures (pure value : Procedure W ε α) state (outcomes returned raised crashed) :=
  h

theorem Ensures.raise {error : ε} (h : raised error state) :
    Ensures (raise error : Procedure W ε α) state (outcomes returned raised crashed) :=
  h

theorem Ensures.ofExcept {result : Except ε α} (hOk : ∀ value, result = .ok value →
      returned value state) (hError : ∀ error, result = .error error → raised error state) :
    Ensures (ofExcept result : Procedure W ε α) state (outcomes returned raised crashed) :=
  ensures_ofExcept.mpr ⟨hOk, hError⟩

theorem Ensures.attempted {caught : Except ε α → W → Prop} {other : ε → W → Prop}
    (h : Ensures p state (outcomes (fun value next => caught (.ok value) next)
      (fun error next => caught (.error error) next) crashed)) :
    Ensures (attempt p) state (outcomes caught other crashed) := by
  rw [ensures_attempt]
  unfold Ensures at h ⊢
  rcases hRun : p state with ⟨value | error | _, next⟩ <;> rw [hRun] at h <;> exact h

/-- The condition on what is caught, from the one on values and the one on errors. -/
def afterAttempt (returned : α → W → Prop) (raised : ε → W → Prop) : Except ε α → W → Prop
  | .ok value => returned value
  | .error error => raised error

theorem Ensures.weaken {returned' : α → W → Prop} {raised' : ε → W → Prop} {crashed' : W → Prop}
    (h : Ensures p state (outcomes returned raised crashed))
    (hReturned : ∀ value next, returned value next → returned' value next)
    (hRaised : ∀ error next, raised error next → raised' error next)
    (hCrashed : ∀ next, crashed next → crashed' next) :
    Ensures p state (outcomes returned' raised' crashed') := by
  unfold Ensures at h ⊢
  rcases hRun : p state with ⟨value | error | _, next⟩ <;> rw [hRun] at h
  · exact hReturned _ _ h
  · exact hRaised _ _ h
  · exact hCrashed _ h

end Rules

theorem ensures_outcomes {post : Outcome ε α → W → Prop} :
    Ensures p state post ↔ Ensures p state (outcomes (fun value next => post (.returned value) next)
      (fun error next => post (.raised error) next) (fun next => post .crashed next)) := by
  unfold Ensures
  rcases p state with ⟨value | error | _, next⟩ <;> exact Iff.rfl

theorem ensures_left {left : W → Prop} :
    Ensures p state (outcomes (fun _ => left) (fun _ => left) left) ↔ left (p state).2 := by
  unfold Ensures
  rcases p state with ⟨value | error | _, next⟩ <;> exact Iff.rfl

theorem Ensures.of_run_eq {q : Procedure W ε α} {other : W} {post : Outcome ε α → W → Prop}
    (hRun : p state = q other) (h : Ensures q other post) : Ensures p state post := by
  unfold Ensures at h ⊢
  rw [hRun]
  exact h

theorem Ensures.imp {weaker stronger : Outcome ε α → W → Prop} (h : Ensures p state stronger)
    (hImp : ∀ outcome next, stronger outcome next → weaker outcome next) :
    Ensures p state weaker :=
  hImp _ _ h

/-! ## What a procedure leaves unchanged -/

/-- A reflexive and transitive relation between states. -/
structure Evolution (R : W → W → Prop) : Prop where
  refl : ∀ state, R state state
  trans : ∀ {a b c}, R a b → R b c → R a c

/-- Wherever `p` ends, the state it leaves is related to the one it started from. -/
def Keeps (R : W → W → Prop) (p : Procedure W ε α) : Prop := ∀ state, R state (p state).2

section Keeps

variable {R : W → W → Prop}

theorem keeps_pure (hR : Evolution R) (value : α) : Keeps R (pure value : Procedure W ε α) :=
  fun state => hR.refl state

theorem keeps_raise (hR : Evolution R) (error : ε) : Keeps R (raise error : Procedure W ε α) :=
  fun state => hR.refl state

theorem keeps_crash (hR : Evolution R) : Keeps R (crash : Procedure W ε α) :=
  fun state => hR.refl state

theorem keeps_read (hR : Evolution R) (g : W → α) : Keeps R (read g : Procedure W ε α) :=
  fun state => hR.refl state

theorem keeps_update {g : W → W} (h : ∀ state, R state (g state)) :
    Keeps R (update g : Procedure W ε PUnit) :=
  h

theorem keeps_ofExcept (hR : Evolution R) (result : Except ε α) :
    Keeps R (ofExcept result : Procedure W ε α) := by
  cases result with
  | ok value => exact keeps_pure hR value
  | error error => exact keeps_raise hR error

theorem Keeps.bind (hR : Evolution R) (hp : Keeps R p) (hf : ∀ value, Keeps R (f value)) :
    Keeps R (p >>= f) := by
  intro state
  show R state (Procedure.bind p f state).2
  have hFirst := hp state
  unfold Procedure.bind
  rcases hRun : p state with ⟨value | _ | _, next⟩ <;> rw [hRun] at hFirst
  · exact hR.trans hFirst (hf value next)
  all_goals exact hFirst

/-- After a pure computation, the values it may return are looked at. -/
theorem keeps_ofExcept_bind (hR : Evolution R) {result : Except ε α}
    (hf : ∀ value, result = .ok value → Keeps R (f value)) :
    Keeps R (ofExcept result >>= f) := by
  cases hResult : result with
  | ok value =>
    intro state
    exact hf value hResult state
  | error =>
    intro state
    exact hR.refl state

theorem Keeps.attempt (hp : Keeps R p) : Keeps R (attempt p) := by
  intro state
  have hRun := hp state
  unfold Procedure.attempt
  rcases hEnd : p state with ⟨_ | _ | _, next⟩ <;> rw [hEnd] at hRun <;> exact hRun

variable {S : W → W → Prop}

theorem Keeps.mono (hp : Keeps R p)
    (hImp : ∀ state next, R state next → S state next) : Keeps S p :=
  fun state => hImp _ _ (hp state)

theorem keeps_forM {γ : Type x} {xs : List γ} {g : γ → Procedure W ε PUnit}
    (hR : Evolution R) (h : ∀ a ∈ xs, Keeps R (g a)) : Keeps R (xs.forM g) := by
  induction xs with
  | nil => exact keeps_pure hR _
  | cons a xs ih =>
    show Keeps R (g a >>= fun _ => xs.forM g)
    exact (h a List.mem_cons_self).bind hR fun _ =>
      ih fun b hb => h b (List.mem_cons_of_mem a hb)

/-- What a step does is not changed by steps around it that keep `R`. -/
structure Absorbs (R S : W → W → Prop) : Prop where
  weak : ∀ {a b}, R a b → S a b
  left : ∀ {a b c}, R a b → S b c → S a c
  right : ∀ {a b c}, S a b → R b c → S a c

/-- Steps that keep `R`, before the one that does `S`. -/
theorem Keeps.before (hAbsorbs : Absorbs R S) (hp : Keeps R p)
    (hf : ∀ value, Keeps S (f value)) : Keeps S (p >>= f) := by
  intro state
  show S state (Procedure.bind p f state).2
  have hFirst := hp state
  unfold Procedure.bind
  rcases hRun : p state with ⟨value | _ | _, next⟩ <;> rw [hRun] at hFirst
  · exact hAbsorbs.left hFirst (hf value next)
  all_goals exact hAbsorbs.weak hFirst

/-- Steps that keep `R`, after the one that does `S`. -/
theorem Keeps.after (hAbsorbs : Absorbs R S) (hp : Keeps S p)
    (hf : ∀ value, Keeps R (f value)) : Keeps S (p >>= f) := by
  intro state
  show S state (Procedure.bind p f state).2
  have hFirst := hp state
  unfold Procedure.bind
  rcases hRun : p state with ⟨value | _ | _, next⟩ <;> rw [hRun] at hFirst
  · exact hAbsorbs.right hFirst (hf value next)
  all_goals exact hFirst

end Keeps

end Procedure

end QuantApp.Verified
