import Mathlib.Data.List.Chain
import Mathlib.Tactic.Positivity

/-!
# The reconnect loop of the KIS feed

`KisWebSocketClient.run_forever` over the sessions it tries, as far as it decides when the next one
begins. Only its exception handler sleeps: a stream that ends without an exception is followed by
the next attempt at once. What it tells its observers is left out.
-/

namespace QuantApp.Api

/-- The delays, as the constructor clamps them. -/
structure ReconnectDelays where
  initialBackoff : ℚ
  maxBackoff : ℚ
  jitter : ℚ
  initialNonneg : 0 ≤ initialBackoff
  initialLeMax : initialBackoff ≤ maxBackoff
  jitterNonneg : 0 ≤ jitter

/-- `KisWebSocketClient.__init__`. -/
def ReconnectDelays.of (reconnectInitialSeconds reconnectMaxSeconds reconnectJitterSeconds : ℚ) :
    ReconnectDelays where
  initialBackoff := max 0 reconnectInitialSeconds
  maxBackoff := max (max 0 reconnectInitialSeconds) reconnectMaxSeconds
  jitter := max 0 reconnectJitterSeconds
  initialNonneg := le_max_left _ _
  initialLeMax := le_max_left _ _
  jitterNonneg := le_max_left _ _

/-- A `KisWsAuthError`, or any other exception. -/
inductive SessionError
  | auth
  | transport
  deriving DecidableEq

/-- How `_receive_frames` ends. A close of its own, after a session conflict or a refused key,
ends the stream as a clean close of the broker does. -/
inductive ReaderEnd
  | closedByBroker
  | closedByClient
  | raised (error : SessionError)
  deriving DecidableEq

/-- What meets one turn of the loop: the approval key, the connection, the replay of the
subscriptions, the reader, whether stop is requested before the turn is over or while it sleeps,
and the random number. -/
structure FeedSession where
  approval : Option SessionError := none
  connect : Option SessionError := none
  replay : Option SessionError := none
  reader : ReaderEnd := .closedByBroker
  stopped : Bool := false
  stoppedAsleep : Bool := false
  random : ℚ := 0
  randomNonneg : 0 ≤ random := by decide

namespace FeedSession

def connects (session : FeedSession) : Bool := session.approval.isNone && session.connect.isNone

/-- What the body of the `try` raises. The reader's exception is dropped when the replay has
failed, and raised again when it has not. -/
def raised (session : FeedSession) : Option SessionError :=
  session.approval <|> session.connect <|> session.replay <|>
    match session.reader with
    | .closedByBroker => none
    | .closedByClient => none
    | .raised error => some error

end FeedSession

/-- The delay of the exception handler. -/
def reconnectDelay (delays : ReconnectDelays) (attempts : Nat) (random : ℚ) : ℚ :=
  min delays.maxBackoff (delays.initialBackoff * 2 ^ (attempts - 1)) + random * delays.jitter

/-- One attempt: whether it met a `KisWsAuthError`, and what the loop slept after it. -/
structure ReconnectAttempt where
  refused : Bool := false
  slept : Option ℚ := none

/-- `run_forever`: the attempts it makes, given how the sessions go and that stop was not requested
before. -/
def runForever (delays : ReconnectDelays) : Nat → List FeedSession → List ReconnectAttempt
  | _, [] => []
  | attempts, session :: rest =>
    let attempts := if session.connects then 0 else attempts
    match session.raised with
    | none => {} :: if session.stopped then [] else runForever delays attempts rest
    | some .auth => [{ refused := true }]
    | some .transport =>
      if session.stopped then [{}]
      -- 2 ** 1024 is no float: the handler itself raises and the loop is over
      else if 1024 ≤ attempts then [{}]
      else
        { slept := some (reconnectDelay delays (attempts + 1) session.random) } ::
          if session.stoppedAsleep then [] else runForever delays (attempts + 1) rest

/-- Between two attempts the loop sleeps the initial backoff, and none follows a refused one. -/
def BacksOff (delays : ReconnectDelays) (made : List ReconnectAttempt) : Prop :=
  made.IsChain (fun attempt _ => attempt.refused = false ∧
    ∃ delay ∈ attempt.slept, delays.initialBackoff ≤ delay)

variable {delays : ReconnectDelays}

theorem initialBackoff_le_delay (attempts : Nat) {random : ℚ} (h : 0 ≤ random) :
    delays.initialBackoff ≤ reconnectDelay delays attempts random := by
  have hPower : (1 : ℚ) ≤ 2 ^ (attempts - 1) := one_le_pow₀ (by norm_num)
  have hGrown := le_mul_of_one_le_right delays.initialNonneg hPower
  have hRandom := mul_nonneg h delays.jitterNonneg
  unfold reconnectDelay
  exact (le_min delays.initialLeMax hGrown).trans (le_add_of_nonneg_right hRandom)

/-- Every run backs off whose streams end without an exception only once stop is requested. -/
theorem runForever_backsOff (sessions : List FeedSession)
    (h : ∀ session ∈ sessions, session.raised = none → session.stopped = true) :
    BacksOff delays (runForever delays 0 sessions) := by
  suffices hFrom : ∀ attempts, BacksOff delays (runForever delays attempts sessions) from hFrom 0
  induction sessions with
  | nil => exact fun _ => .nil
  | cons session rest ih =>
    intro attempts
    have hRest := ih (fun other hOther => h other (List.mem_cons_of_mem _ hOther))
    unfold runForever
    dsimp only
    generalize (if session.connects then 0 else attempts) = attempts
    split
    · rename_i hRaised
      rw [if_pos (h session List.mem_cons_self hRaised)]
      exact .singleton _
    · exact .singleton _
    · split_ifs
      · exact .singleton _
      · exact .singleton _
      · exact .singleton _
      · refine List.isChain_cons.mpr ⟨fun _ _ => ⟨rfl, _, rfl, ?_⟩, hRest (attempts + 1)⟩
        exact initialBackoff_le_delay _ session.randomNonneg

def refusedSession : FeedSession := { connect := some .transport }

theorem runForever_backsOff_refused :
    BacksOff (.of 1 30 (1 / 2))
      (runForever (.of 1 30 (1 / 2)) 0 [refusedSession, refusedSession]) :=
  runForever_backsOff _ (by decide)

/-- Two session conflicts in a row. -/
theorem session_conflict_reconnects_at_once :
    ¬ ∀ delays sessions, BacksOff delays (runForever delays 0 sessions) := by
  intro h
  have hChain := h (.of 1 30 (1 / 2)) [{ reader := .closedByClient }, { reader := .closedByClient }]
  obtain ⟨-, delay, hSlept, -⟩ := (List.isChain_cons_cons.mp hChain).1
  cases hSlept

end QuantApp.Api
