import Mathlib.Data.List.Lex
import Mathlib.Data.List.Sort
import Mathlib.Data.String.Basic
import QuantApp.Verified.Dictionary
import QuantApp.Verified.LabelledRuns

/-!
# Subscriptions of the KIS feed

`subscribe`, `unsubscribe`, `forget_subscriptions`, `_send_subscriptions` and `run_forever`
of `src/api/kis_websocket.py`.  Other threads change the desired set under its lock and then
look whether there is a connection to schedule their messages on; the loop thread starts the
scheduled sends, each of which keeps the socket it has found, waits for an approval key and
sends its messages one by one.  A new session replays a snapshot of the desired set.

What carries the module: once the desired set has been replayed, the last message for a key
agrees with the desired set, or a message that does is still to be sent.
-/

namespace QuantApp.Api

open Verified

/-! ## Messages and sends -/

/-- The `tr_id` and the `tr_key` of a subscription. -/
abbrev FeedKey := String × String

structure KisWsSubscription where
  trId : String
  trKey : String
  symbol : String := ""
  channel : String := ""
  given : trId ≠ "" ∧ trKey ≠ ""

def KisWsSubscription.key (subscription : KisWsSubscription) : FeedKey :=
  (subscription.trId, subscription.trKey)

/-- `tr_type` 1 and 2. -/
inductive FeedAction
  | subscribe
  | unsubscribe
  deriving DecidableEq

structure FeedMessage where
  key : FeedKey
  action : FeedAction
  deriving DecidableEq

def messagesFor (action : FeedAction) (subscriptions : List KisWsSubscription) : List FeedMessage :=
  subscriptions.map (fun subscription => ⟨subscription.key, action⟩)

/-- Where a call of `_send_subscriptions` stands: not begun, waiting for the approval key, or
sending; then with the session whose socket it has found. -/
inductive SendStage
  | queued
  | awaitingApproval (session : Nat)
  | sending (session : Nat)
  deriving DecidableEq

structure SendTask where
  stage : SendStage
  messages : List FeedMessage
  deriving DecidableEq

/-- What `run_forever` has of a session.  `connected` is the moment before the snapshot of
the desired set; a session that is `closed` leaves its flags up until it is cleared. -/
inductive SessionState
  | idle
  | connected (session : Nat)
  | replayed (session : Nat)
  | closed (session : Nat)
  deriving DecidableEq

/-- `self._socket`, which is set while `self._connected` is. -/
def SessionState.socket : SessionState → Option Nat
  | .idle => none
  | .connected session => some session
  | .replayed session => some session
  | .closed session => some session

/-- `_desired`. -/
abbrev DesiredSubscriptions := Dictionary FeedKey KisWsSubscription

/-- The client, the calls that have not yet scheduled their messages, the sends, what the
current session was sent, and the keys that were forgotten. -/
structure FeedWorld where
  desired : DesiredSubscriptions := ∅
  session : SessionState := .idle
  generation : Nat := 0
  sent : List FeedMessage := []
  calls : List (List FeedMessage) := []
  tasks : List SendTask := []
  forgotten : List FeedKey := []

/-! ## The calls -/

/-- The loop of `subscribe`: the additions, and the desired set after it. -/
def addSubscriptions : List KisWsSubscription → DesiredSubscriptions →
    List KisWsSubscription × DesiredSubscriptions
  | [], desired => ([], desired)
  | subscription :: rest, desired =>
    let later := addSubscriptions rest (desired.set subscription.key subscription)
    (if subscription.key ∈ desired then later.1 else subscription :: later.1, later.2)

/-- The loop of `unsubscribe`: what was removed, and the desired set after it. -/
def removeSubscriptions : List KisWsSubscription → DesiredSubscriptions →
    List KisWsSubscription × DesiredSubscriptions
  | [], desired => ([], desired)
  | subscription :: rest, desired =>
    let later := removeSubscriptions rest (desired.erase subscription.key)
    match desired.get? subscription.key with
    | some removed => (removed :: later.1, later.2)
    | none => later

/-- `desired_subscriptions`, in the order of the fields. -/
def desiredSubscriptions (desired : DesiredSubscriptions) : List KisWsSubscription :=
  let fields := fun subscription : KisWsSubscription =>
    [subscription.trId, subscription.trKey, subscription.symbol, subscription.channel]
  desired.values.insertionSort (fun left right => fields left ≤ fields right)

inductive FeedStep
  | subscribe (subscriptions : List KisWsSubscription)
  | unsubscribe (subscriptions : List KisWsSubscription)
  | forget (subscriptions : List KisWsSubscription)
  | schedule (call : Nat)
  | connect
  | replay
  | close
  | clear
  | start (task : Nat)
  | approve (task : Nat)
  | send (task : Nat)
  | finish (task : Nat)

def FeedWorld.withTask (world : FeedWorld) (task : Nat) (changed : SendTask) : FeedWorld :=
  { world with tasks := world.tasks.set task changed }

def FeedWorld.withoutTask (world : FeedWorld) (task : Nat) : FeedWorld :=
  { world with tasks := world.tasks.eraseIdx task }

/-- One send of a task that has the socket of a session. -/
def FeedWorld.sendOn (world : FeedWorld) (task session : Nat) (message : FeedMessage)
    (rest : List FeedMessage) : Option FeedWorld :=
  match world.session with
  | .connected _ => none
  | .replayed current =>
    if session = current then
      some { world.withTask task ⟨.sending session, rest⟩ with
        sent := world.sent ++ [message] }
    else some (world.withoutTask task)
  | _ => some (world.withoutTask task)

/-- One step.  Between `connected` and the snapshot the loop thread does nothing else; a send
on the socket of a session that is over raises. -/
def FeedWorld.next (world : FeedWorld) : FeedStep → Option FeedWorld
  | .subscribe subscriptions =>
    let (additions, desired) := addSubscriptions subscriptions world.desired
    some { world with
      desired := desired
      calls := world.calls ++ [messagesFor .subscribe additions] }
  | .unsubscribe subscriptions =>
    let (removals, desired) := removeSubscriptions subscriptions world.desired
    some { world with
      desired := desired
      calls := world.calls ++ [messagesFor .unsubscribe removals] }
  | .forget subscriptions =>
    some { world with
      desired := subscriptions.foldl (fun desired subscription =>
        desired.erase subscription.key) world.desired
      forgotten := world.forgotten ++ subscriptions.map KisWsSubscription.key }
  | .schedule call =>
    match world.calls[call]? with
    | none => none
    | some messages =>
      let returned := { world with calls := world.calls.eraseIdx call }
      if messages = [] ∨ world.session.socket = none then some returned
      else some { returned with tasks := world.tasks ++ [⟨.queued, messages⟩] }
  | .connect =>
    match world.session with
    | .idle =>
      some { world with
        session := .connected (world.generation + 1)
        generation := world.generation + 1
        sent := [] }
    | _ => none
  | .replay =>
    match world.session with
    | .connected session =>
      some { world with
        session := .replayed session
        tasks := world.tasks ++ [⟨.awaitingApproval session,
          messagesFor .subscribe (desiredSubscriptions world.desired)⟩] }
    | _ => none
  | .close =>
    match world.session with
    | .replayed session => some { world with session := .closed session }
    | _ => none
  | .clear =>
    match world.session with
    | .closed _ => some { world with session := .idle }
    | _ => none
  | .start task =>
    match world.tasks[task]?, world.session with
    | some ⟨.queued, _⟩, .connected _ => none
    | some ⟨.queued, messages⟩, session =>
      match session.socket with
      | none => some (world.withoutTask task)
      | some found => some (world.withTask task ⟨.awaitingApproval found, messages⟩)
    | _, _ => none
  | .approve task =>
    match world.tasks[task]? with
    | some ⟨.awaitingApproval session, messages⟩ =>
      some (world.withTask task ⟨.sending session, messages⟩)
    | _ => none
  | .send task =>
    match world.tasks[task]? with
    | some ⟨.sending session, message :: rest⟩ => world.sendOn task session message rest
    | _ => none
  | .finish task =>
    match world.tasks[task]? with
    | some ⟨.sending _, []⟩ => some (world.withoutTask task)
    | _ => none

/-! ## The desired set -/

/-- Every subscription is filed under its own key. -/
def FiledByKey (desired : DesiredSubscriptions) : Prop :=
  ∀ key subscription, desired.get? key = some subscription → subscription.key = key

section Desired

variable {desired : DesiredSubscriptions} {subscriptions : List KisWsSubscription}
  {key : FeedKey}

theorem FiledByKey.set (h : FiledByKey desired) (subscription : KisWsSubscription) :
    FiledByKey (desired.set subscription.key subscription) := by
  intro other found hFound
  rw [Dictionary.get?_set] at hFound
  split at hFound
  next hSame =>
    cases hFound
    exact hSame.symm
  · exact h other found hFound

theorem FiledByKey.erase (h : FiledByKey desired) (erased : FeedKey) :
    FiledByKey (desired.erase erased) := by
  intro other found hFound
  exact h other found (Dictionary.get?_of_erase hFound).2

theorem addSubscriptions_filed (h : FiledByKey desired) :
    FiledByKey (addSubscriptions subscriptions desired).2 := by
  induction subscriptions generalizing desired with
  | nil => exact h
  | cons subscription rest ih => exact ih (h.set subscription)

theorem mem_addSubscriptions (h : key ∈ desired) :
    key ∈ (addSubscriptions subscriptions desired).2 := by
  induction subscriptions generalizing desired with
  | nil => exact h
  | cons subscription rest ih => exact ih (Dictionary.mem_set.mpr (Or.inr h))

/-- A key that has come into the desired set is one of the additions. -/
theorem mem_additions (hBefore : key ∉ desired)
    (hAfter : key ∈ (addSubscriptions subscriptions desired).2) :
    ∃ subscription ∈ (addSubscriptions subscriptions desired).1, subscription.key = key := by
  induction subscriptions generalizing desired with
  | nil => exact absurd hAfter hBefore
  | cons subscription rest ih =>
    unfold addSubscriptions
    dsimp only
    by_cases hKey : subscription.key = key
    · rw [hKey, if_neg hBefore]
      exact ⟨subscription, List.mem_cons_self, hKey⟩
    · have hStill : key ∉ desired.set subscription.key subscription := by
        rw [Dictionary.mem_set]
        rintro (hSame | hOld)
        · exact hKey hSame.symm
        · exact hBefore hOld
      obtain ⟨added, hAdded, hAddedKey⟩ := ih hStill hAfter
      split
      · exact ⟨added, hAdded, hAddedKey⟩
      · exact ⟨added, List.mem_cons_of_mem _ hAdded, hAddedKey⟩

theorem removeSubscriptions_cons (subscription : KisWsSubscription) :
    (removeSubscriptions (subscription :: subscriptions) desired).2 =
      (removeSubscriptions subscriptions (desired.erase subscription.key)).2 := by
  conv => lhs; unfold removeSubscriptions
  dsimp only
  split <;> rfl

theorem removeSubscriptions_filed (h : FiledByKey desired) :
    FiledByKey (removeSubscriptions subscriptions desired).2 := by
  induction subscriptions generalizing desired with
  | nil => exact h
  | cons subscription rest ih =>
    rw [removeSubscriptions_cons]
    exact ih (h.erase subscription.key)

theorem not_mem_removeSubscriptions (h : key ∉ desired) :
    key ∉ (removeSubscriptions subscriptions desired).2 := by
  induction subscriptions generalizing desired with
  | nil => exact h
  | cons subscription rest ih =>
    rw [removeSubscriptions_cons]
    exact ih (fun hMem => h (Dictionary.mem_erase.mp hMem).2)

/-- A key that has left the desired set is one of the removals. -/
theorem mem_removals (hFiled : FiledByKey desired) (hBefore : key ∈ desired)
    (hAfter : key ∉ (removeSubscriptions subscriptions desired).2) :
    ∃ subscription ∈ (removeSubscriptions subscriptions desired).1, subscription.key = key := by
  induction subscriptions generalizing desired with
  | nil => exact absurd hBefore hAfter
  | cons subscription rest ih =>
    rw [removeSubscriptions_cons] at hAfter
    unfold removeSubscriptions
    dsimp only
    by_cases hKey : subscription.key = key
    · obtain ⟨removed, hRemoved⟩ := Dictionary.exists_get? hBefore
      rw [hKey, hRemoved]
      exact ⟨removed, List.mem_cons_self, hFiled key removed hRemoved⟩
    · have hStill : key ∈ desired.erase subscription.key :=
        Dictionary.mem_erase.mpr ⟨fun hSame => hKey hSame.symm, hBefore⟩
      obtain ⟨removed, hRemoved, hRemovedKey⟩ := ih (hFiled.erase _) hStill hAfter
      split
      · exact ⟨removed, List.mem_cons_of_mem _ hRemoved, hRemovedKey⟩
      · exact ⟨removed, hRemoved, hRemovedKey⟩

theorem forget_filed (h : FiledByKey desired) :
    FiledByKey (subscriptions.foldl (fun desired subscription =>
      desired.erase subscription.key) desired) := by
  induction subscriptions generalizing desired with
  | nil => exact h
  | cons subscription rest ih => exact ih (h.erase subscription.key)

theorem mem_forget (h : key ∉ subscriptions.map KisWsSubscription.key) :
    key ∈ subscriptions.foldl (fun desired subscription => desired.erase subscription.key)
      desired ↔ key ∈ desired := by
  induction subscriptions generalizing desired with
  | nil => exact Iff.rfl
  | cons subscription rest ih =>
    rw [List.map_cons, List.mem_cons, not_or] at h
    rw [List.foldl_cons, ih h.2, Dictionary.mem_erase]
    exact and_iff_right h.1

theorem mem_replay (hFiled : FiledByKey desired) (h : key ∈ desired) :
    ⟨key, .subscribe⟩ ∈ messagesFor .subscribe (desiredSubscriptions desired) := by
  obtain ⟨subscription, hFound⟩ := Dictionary.exists_get? h
  have hValue : subscription ∈ desired.values :=
    List.mem_map.mpr ⟨(key, subscription), Dictionary.mem_rows.mpr hFound, rfl⟩
  refine List.mem_map.mpr ⟨subscription, (List.mem_insertionSort _).mpr hValue, ?_⟩
  rw [hFiled key subscription hFound]

end Desired

/-! ## What is still to be sent -/

/-- The task may send on the socket of the session. -/
def SendTask.Reaches (task : SendTask) (session : Nat) : Prop :=
  task.stage = .queued ∨ task.stage = .awaitingApproval session ∨ task.stage = .sending session

/-- A call or a task has the message still to send. -/
def FeedWorld.Awaits (world : FeedWorld) (session : Nat) (message : FeedMessage) : Prop :=
  (∃ call ∈ world.calls, message ∈ call) ∨
    ∃ task ∈ world.tasks, task.Reaches session ∧ message ∈ task.messages

/-- The message that agrees with the desired set. -/
def FeedWorld.wanted (world : FeedWorld) (key : FeedKey) : FeedMessage :=
  ⟨key, if key ∈ world.desired then .subscribe else .unsubscribe⟩

/-- The last message for a key in the current session. -/
def FeedWorld.lastSent (world : FeedWorld) (key : FeedKey) : Option FeedMessage :=
  world.sent.reverse.find? (fun message => message.key = key)

/-- The last message agrees with the desired set. -/
def FeedWorld.Agrees (world : FeedWorld) (key : FeedKey) : Prop :=
  world.lastSent key = some (world.wanted key) ∨ world.lastSent key = none ∧ key ∉ world.desired

/-- The session is open and replayed, and neither a call nor a send is pending. -/
structure FeedWorld.Settled (world : FeedWorld) : Prop where
  open_ : ∃ session, world.session = .replayed session
  calls : world.calls = []
  tasks : world.tasks = []

/-- The last message for a key that was never forgotten is SUBSCRIBE where the key is
desired, and UNSUBSCRIBE or none elsewhere. -/
def FeedWorld.Converged (world : FeedWorld) : Prop :=
  ∀ key, key ∉ world.forgotten → world.Agrees key

/-- A message against the desired set is sent only while a message for its key that agrees
with the desired set is still to be sent. -/
def SendsInOrder (world : FeedWorld) : FeedStep → Prop
  | .send index =>
    ∀ session message rest, world.session = .replayed session →
      world.tasks[index]? = some ⟨.sending session, message :: rest⟩ →
      message.key ∉ world.forgotten →
        message = world.wanted message.key ∨
          (world.withTask index ⟨.sending session, rest⟩).Awaits session
            (world.wanted message.key)
  | _ => True

/-- What every step keeps. -/
structure FeedWorld.Kept (world : FeedWorld) : Prop where
  filed : FiledByKey world.desired
  fresh : ∀ session, world.session = .connected session → world.sent = []
  agrees : ∀ session, world.session = .replayed session → ∀ key, key ∉ world.forgotten →
    world.Agrees key ∨ world.Awaits session (world.wanted key)

section Awaits

variable {world : FeedWorld} {session index : Nat} {message : FeedMessage}
  {old changed : SendTask}

section

variable (h : world.Awaits session message) (hTask : world.tasks[index]? = some old)
include h hTask

theorem FeedWorld.Awaits.withTask
    (hKept : old.Reaches session → message ∈ old.messages → changed.Reaches session ∧
      message ∈ changed.messages) :
    (world.withTask index changed).Awaits session message := by
  rcases h with hCall | ⟨task, hMem, hReaches, hMessage⟩
  · exact Or.inl hCall
  · obtain ⟨position, hPosition⟩ := List.mem_iff_getElem?.mp hMem
    right
    by_cases hSame : position = index
    · rw [hSame, hTask] at hPosition
      cases hPosition
      have hBound : index < world.tasks.length := (List.getElem?_eq_some_iff.mp hTask).1
      exact ⟨changed, List.mem_set hBound changed, hKept hReaches hMessage⟩
    · refine ⟨task, List.mem_iff_getElem?.mpr ⟨position, ?_⟩, hReaches, hMessage⟩
      show (world.tasks.set index changed)[position]? = some task
      rw [List.getElem?_set_ne (Ne.symm hSame)]
      exact hPosition

/-- A task that is over had nothing to send in the session. -/
theorem FeedWorld.Awaits.withoutTask (hNothing : ¬ (old.Reaches session ∧ message ∈ old.messages)) :
    (world.withoutTask index).Awaits session message := by
  rcases h with hCall | ⟨task, hMem, hReaches, hMessage⟩
  · exact Or.inl hCall
  · obtain ⟨position, hPosition⟩ := List.mem_iff_getElem?.mp hMem
    right
    refine ⟨task, List.mem_eraseIdx_iff_getElem?.mpr ⟨position, ?_, hPosition⟩, hReaches, hMessage⟩
    rintro rfl
    rw [hTask] at hPosition
    cases hPosition
    exact hNothing ⟨hReaches, hMessage⟩

end

theorem FeedWorld.Settled.not_awaits (h : world.Settled) : ¬ world.Awaits session message := by
  rintro (⟨call, hCall, _⟩ | ⟨task, hTask, _⟩)
  · rw [h.calls] at hCall
    cases hCall
  · rw [h.tasks] at hTask
    cases hTask

end Awaits

/-! ## What every step keeps -/

section Steps

variable {world after : FeedWorld} {index session : Nat}

section

variable (h : world.Kept)
include h

/-- A call that has changed the desired set: what it changed it also has to send. -/
theorem FeedWorld.Kept.call {desired : DesiredSubscriptions} {messages : List FeedMessage}
    (hFiled : FiledByKey desired)
    (hSent : ∀ key, (key ∈ desired ↔ key ∈ world.desired) ∨
      ({ world with desired := desired } : FeedWorld).wanted key ∈ messages) :
    ({ world with
      desired := desired
      calls := world.calls ++ [messages] } : FeedWorld).Kept where
  filed := hFiled
  fresh := h.fresh
  agrees := by
    intro session hSession key hKey
    rcases hSent key with hSame | hPending
    · have hWanted : ({ world with
          desired := desired
          calls := world.calls ++ [messages] } : FeedWorld).wanted key = world.wanted key := by
        unfold FeedWorld.wanted
        simp only [hSame]
      rw [hWanted]
      rcases h.agrees session hSession key hKey with hLast | ⟨call, hCall, hMem⟩ | hTask
      · left
        rcases hLast with hFound | ⟨hNone, hOut⟩
        · exact Or.inl (hFound.trans (congrArg some hWanted.symm))
        · exact Or.inr ⟨hNone, fun hMem => hOut (hSame.mp hMem)⟩
      · exact Or.inr (Or.inl ⟨call, List.mem_append_left _ hCall, hMem⟩)
      · exact Or.inr (Or.inr hTask)
    · exact Or.inr (Or.inl ⟨messages, List.mem_append_right _ List.mem_cons_self, hPending⟩)

section

variable (subscriptions : List KisWsSubscription)
include subscriptions

theorem FeedWorld.Kept.subscribe :
    ∀ after, world.next (.subscribe subscriptions) = some after → after.Kept := by
  rintro _ ⟨⟩
  refine h.call (addSubscriptions_filed h.filed) ?_
  intro key
  by_cases hBefore : key ∈ world.desired
  · exact Or.inl (iff_of_true (mem_addSubscriptions hBefore) hBefore)
  · by_cases hAfter : key ∈ (addSubscriptions subscriptions world.desired).2
    · obtain ⟨subscription, hMem, hKey⟩ := mem_additions hBefore hAfter
      right
      unfold FeedWorld.wanted
      rw [if_pos hAfter, ← hKey]
      exact List.mem_map.mpr ⟨subscription, hMem, rfl⟩
    · exact Or.inl (iff_of_false hAfter hBefore)

theorem FeedWorld.Kept.unsubscribe :
    ∀ after, world.next (.unsubscribe subscriptions) = some after → after.Kept := by
  rintro _ ⟨⟩
  refine h.call (removeSubscriptions_filed h.filed) ?_
  intro key
  by_cases hBefore : key ∈ world.desired
  · by_cases hAfter : key ∈ (removeSubscriptions subscriptions world.desired).2
    · exact Or.inl (iff_of_true hAfter hBefore)
    · obtain ⟨subscription, hMem, hKey⟩ := mem_removals h.filed hBefore hAfter
      right
      unfold FeedWorld.wanted
      rw [if_neg hAfter, ← hKey]
      exact List.mem_map.mpr ⟨subscription, hMem, rfl⟩
  · exact Or.inl (iff_of_false (not_mem_removeSubscriptions hBefore) hBefore)

theorem FeedWorld.Kept.forget :
    ∀ after, world.next (.forget subscriptions) = some after → after.Kept := by
  rintro _ ⟨⟩
  refine ⟨forget_filed h.filed, h.fresh, ?_⟩
  intro session hSession key hKey
  rw [List.mem_append, not_or] at hKey
  have hSame : key ∈ subscriptions.foldl (fun desired subscription =>
      desired.erase subscription.key) world.desired ↔ key ∈ world.desired := mem_forget hKey.2
  have hWanted : (FeedWorld.wanted { world with
      desired := subscriptions.foldl (fun desired subscription =>
        desired.erase subscription.key) world.desired
      forgotten := world.forgotten ++ subscriptions.map KisWsSubscription.key } key) =
        world.wanted key := by
    unfold FeedWorld.wanted
    simp only [hSame]
  rw [hWanted]
  rcases h.agrees session hSession key hKey.1 with hLast | hPending
  · left
    rcases hLast with hFound | ⟨hNone, hOut⟩
    · exact Or.inl (hFound.trans (congrArg some hWanted.symm))
    · exact Or.inr ⟨hNone, fun hMem => hOut (hSame.mp hMem)⟩
  · exact Or.inr hPending

end

/-- A step that leaves the desired set, the session and what was sent alone. -/
theorem FeedWorld.Kept.pending (hDesired : after.desired = world.desired)
    (hSession : after.session = world.session) (hSent : after.sent = world.sent)
    (hForgotten : after.forgotten = world.forgotten)
    (hAwaits : ∀ session, world.session = .replayed session → ∀ message,
      world.Awaits session message → after.Awaits session message) :
    after.Kept := by
  have hWanted : ∀ key, after.wanted key = world.wanted key := by
    intro key
    unfold FeedWorld.wanted
    rw [hDesired]
  constructor
  · rw [hDesired]
    exact h.filed
  · rw [hSession, hSent]
    exact h.fresh
  · intro session hOpen key hKey
    rw [hSession] at hOpen
    rw [hForgotten] at hKey
    rcases h.agrees session hOpen key hKey with hLast | hPending
    · left
      unfold FeedWorld.Agrees FeedWorld.lastSent at *
      rw [hWanted, hSent, hDesired]
      exact hLast
    · right
      rw [hWanted]
      exact hAwaits session hOpen _ hPending

theorem FeedWorld.Kept.schedule (index : Nat) :
    ∀ after, world.next (.schedule index) = some after → after.Kept := by
  intro after hNext
  dsimp only [FeedWorld.next] at hNext
  split at hNext
  · cases hNext
  next messages hCall =>
    -- A call that is over has nothing to send any more, or its messages are with a task.
    have hOthers : ∀ call ∈ world.calls, call = messages ∨
        call ∈ world.calls.eraseIdx index := by
      intro call hMem
      obtain ⟨position, hPosition⟩ := List.mem_iff_getElem?.mp hMem
      by_cases hSame : position = index
      · rw [hSame, hCall] at hPosition
        exact Or.inl (Option.some.inj hPosition).symm
      · exact Or.inr (List.mem_eraseIdx_iff_getElem?.mpr ⟨position, hSame, hPosition⟩)
    split at hNext
    next hDropped =>
      cases hNext
      refine h.pending rfl rfl rfl rfl ?_
      rintro session hOpen message (⟨call, hMem, hMessage⟩ | hTask)
      · rcases hOthers call hMem with rfl | hOther
        · rcases hDropped with hEmpty | hNoSocket
          · rw [hEmpty] at hMessage
            cases hMessage
          · rw [hOpen] at hNoSocket
            cases hNoSocket
        · exact Or.inl ⟨call, hOther, hMessage⟩
      · exact Or.inr hTask
    · cases hNext
      refine h.pending rfl rfl rfl rfl ?_
      rintro session hOpen message (⟨call, hMem, hMessage⟩ | ⟨task, hTask, hRest⟩)
      · rcases hOthers call hMem with rfl | hOther
        · exact Or.inr ⟨_, List.mem_append_right _ List.mem_cons_self, Or.inl rfl, hMessage⟩
        · exact Or.inl ⟨call, hOther, hMessage⟩
      · exact Or.inr ⟨task, List.mem_append_left _ hTask, hRest⟩

end

theorem FeedWorld.Kept.unpromised (hFiled : FiledByKey after.desired)
    (hFresh : ∀ session, after.session = .connected session → after.sent = [])
    (hSession : ∀ session, after.session ≠ .replayed session) : after.Kept :=
  ⟨hFiled, hFresh, fun session hOpen => absurd hOpen (hSession session)⟩

section

variable (h : world.Kept)
include h

theorem FeedWorld.Kept.connect : ∀ after, world.next .connect = some after → after.Kept := by
  intro after hNext
  dsimp only [FeedWorld.next] at hNext
  split at hNext
  · cases hNext
    exact .unpromised h.filed (fun _ _ => rfl) (fun _ hOpen => nomatch hOpen)
  · cases hNext

theorem FeedWorld.Kept.close : ∀ after, world.next .close = some after → after.Kept := by
  intro after hNext
  dsimp only [FeedWorld.next] at hNext
  split at hNext
  · cases hNext
    exact .unpromised h.filed (fun _ hOpen => nomatch hOpen) (fun _ hOpen => nomatch hOpen)
  · cases hNext

theorem FeedWorld.Kept.clear : ∀ after, world.next .clear = some after → after.Kept := by
  intro after hNext
  dsimp only [FeedWorld.next] at hNext
  split at hNext
  · cases hNext
    exact .unpromised h.filed (fun _ hOpen => nomatch hOpen) (fun _ hOpen => nomatch hOpen)
  · cases hNext

/-- The snapshot holds every desired key, and nothing was sent before it. -/
theorem FeedWorld.Kept.replay : ∀ after, world.next .replay = some after → after.Kept := by
  intro after hNext
  dsimp only [FeedWorld.next] at hNext
  split at hNext
  next session hSession =>
    cases hNext
    refine ⟨h.filed, (fun _ hOpen => nomatch hOpen), ?_⟩
    rintro _ ⟨⟩ key _
    by_cases hKey : key ∈ world.desired
    · right
      unfold FeedWorld.wanted
      rw [if_pos hKey]
      exact Or.inr ⟨_, List.mem_append_right _ List.mem_cons_self, Or.inr (Or.inl rfl),
        mem_replay h.filed hKey⟩
    · left
      refine Or.inr ⟨?_, hKey⟩
      unfold FeedWorld.lastSent
      rw [show (FeedWorld.sent { world with
        session := .replayed session
        tasks := world.tasks ++ [⟨.awaitingApproval session,
          messagesFor .subscribe (desiredSubscriptions world.desired)⟩] }) = [] from
        h.fresh session hSession]
      rfl
  · cases hNext

theorem FeedWorld.Kept.start (index : Nat) :
    ∀ after, world.next (.start index) = some after → after.Kept := by
  intro after hNext
  dsimp only [FeedWorld.next] at hNext
  split at hNext
  · cases hNext
  next messages session hTask _ =>
    split at hNext
    next hSocket =>
      cases hNext
      refine h.pending rfl rfl rfl rfl ?_
      intro current hOpen
      rw [hOpen] at hSocket
      cases hSocket
    next found hSocket =>
      cases hNext
      refine h.pending rfl rfl rfl rfl ?_
      intro current hOpen message hAwaits
      rw [hOpen] at hSocket
      cases hSocket
      exact hAwaits.withTask hTask (fun _ hMessage => ⟨Or.inr (Or.inl rfl), hMessage⟩)
  · cases hNext

theorem FeedWorld.Kept.approve (index : Nat) :
    ∀ after, world.next (.approve index) = some after → after.Kept := by
  intro after hNext
  dsimp only [FeedWorld.next] at hNext
  split at hNext
  next session messages hTask =>
    cases hNext
    refine h.pending rfl rfl rfl rfl ?_
    intro current _ message hAwaits
    refine hAwaits.withTask hTask ?_
    rintro (hQueued | hWaiting | hSending) hMessage
    · cases hQueued
    · cases hWaiting
      exact ⟨Or.inr (Or.inr rfl), hMessage⟩
    · cases hSending
  · cases hNext

theorem FeedWorld.Kept.finish (index : Nat) :
    ∀ after, world.next (.finish index) = some after → after.Kept := by
  intro after hNext
  dsimp only [FeedWorld.next] at hNext
  split at hNext
  next session hTask =>
    cases hNext
    refine h.pending rfl rfl rfl rfl ?_
    intro current _ message hAwaits
    exact hAwaits.withoutTask hTask (fun hNothing => absurd hNothing.2 List.not_mem_nil)
  · cases hNext

end

theorem FeedWorld.lastSent_append (world : FeedWorld) (sent : List FeedMessage)
    (message : FeedMessage) (key : FeedKey) :
    (FeedWorld.lastSent { world with sent := sent ++ [message] } key) =
      if message.key = key then some message else
        FeedWorld.lastSent { world with sent := sent } key := by
  unfold FeedWorld.lastSent
  rw [List.reverse_append, List.reverse_singleton, List.singleton_append, List.find?_cons]
  by_cases hKey : message.key = key
  all_goals simp [hKey]

variable (h : world.Kept)
include h

/-- A message that goes out agrees with the desired set, or one that does is still pending. -/
theorem FeedWorld.Kept.sent {message : FeedMessage} {rest : List FeedMessage}
    (hSession : world.session = .replayed session)
    (hTask : world.tasks[index]? = some ⟨.sending session, message :: rest⟩)
    (hOrder : SendsInOrder world (.send index)) :
    ({ world.withTask index ⟨.sending session, rest⟩ with
      sent := world.sent ++ [message] } : FeedWorld).Kept := by
  refine ⟨h.filed, ?_, ?_⟩
  · intro other hOpen
    rw [show world.session = .connected other from hOpen] at hSession
    cases hSession
  · intro current hOpen key hKey
    have hCurrent : current = session := by
      rw [show world.session = .replayed current from hOpen] at hSession
      cases hSession
      rfl
    subst hCurrent
    have hLast := FeedWorld.lastSent_append (world.withTask index ⟨.sending current, rest⟩)
      world.sent message key
    unfold FeedWorld.Agrees
    rw [hLast]
    by_cases hSame : message.key = key
    · rw [if_pos hSame]
      rw [← hSame] at hKey ⊢
      rcases hOrder current message rest hSession hTask hKey with hWanted | hPending
      · exact Or.inl (Or.inl (congrArg some hWanted))
      · exact Or.inr hPending
    · rw [if_neg hSame]
      rcases h.agrees current hSession key hKey with hAgrees | hPending
      · exact Or.inl hAgrees
      · right
        refine hPending.withTask hTask ?_
        intro _ hMem
        refine ⟨Or.inr (Or.inr rfl), ?_⟩
        rcases List.mem_cons.mp hMem with hHead | hTail
        · exact absurd (congrArg FeedMessage.key hHead).symm hSame
        · exact hTail

/-- A send on the socket of another session raises; nothing is lost for this one. -/
theorem FeedWorld.Kept.raised {messages : List FeedMessage}
    (hTask : world.tasks[index]? = some ⟨.sending session, messages⟩)
    (hSession : world.session ≠ .replayed session) : (world.withoutTask index).Kept := by
  refine h.pending rfl rfl rfl rfl ?_
  intro current hOpen message hAwaits
  refine hAwaits.withoutTask hTask ?_
  rintro ⟨hQueued | hWaiting | hSending, _⟩
  · cases hQueued
  · cases hWaiting
  · cases hSending
    exact hSession hOpen

theorem FeedWorld.Kept.send (index : Nat) (hOrder : SendsInOrder world (.send index)) :
    ∀ after, world.next (.send index) = some after → after.Kept := by
  intro after hNext
  dsimp only [FeedWorld.next] at hNext
  split at hNext
  next session message rest hTask =>
    unfold FeedWorld.sendOn at hNext
    split at hNext
    · cases hNext
    next current hSession =>
      split at hNext
      next hCurrent =>
        cases hNext
        subst hCurrent
        exact h.sent hSession hTask hOrder
      next hOther =>
        cases hNext
        refine h.raised hTask ?_
        rw [hSession]
        rintro ⟨⟩
        exact hOther rfl
    next hNotConnected hNotReplayed =>
      cases hNext
      exact h.raised hTask (hNotReplayed session)
  · cases hNext

theorem FeedWorld.Kept.next (step : FeedStep) (hOrder : SendsInOrder world step)
    (hNext : world.next step = some after) : after.Kept := by
  cases step with
  | subscribe subscriptions => exact h.subscribe subscriptions after hNext
  | unsubscribe subscriptions => exact h.unsubscribe subscriptions after hNext
  | forget subscriptions => exact h.forget subscriptions after hNext
  | schedule index => exact h.schedule index after hNext
  | connect => exact h.connect after hNext
  | replay => exact h.replay after hNext
  | close => exact h.close after hNext
  | clear => exact h.clear after hNext
  | start index => exact h.start index after hNext
  | approve index => exact h.approve index after hNext
  | send index => exact h.send index hOrder after hNext
  | finish index => exact h.finish index after hNext

end Steps

/-! ## Runs -/

/-- A step of the client and its callers. -/
def FeedWorld.Steps (before : FeedWorld) (step : FeedStep) (after : FeedWorld) : Prop :=
  before.next step = some after

theorem FeedWorld.kept_start : ({} : FeedWorld).Kept where
  filed := fun _ _ hFound => nomatch hFound
  fresh := fun _ hSession => nomatch hSession
  agrees := fun _ hSession => nomatch hSession

/-- In every run in which a message against the desired set goes out only while one that
agrees with it is still to be sent, the feed has converged whenever it has settled. -/
theorem feed_converges {world : FeedWorld}
    (hRun : RunWith FeedWorld.Steps SendsInOrder {} world) (hSettled : world.Settled) :
    world.Converged := by
  have hKept : world.Kept := hRun.invariant FeedWorld.kept_start
    (fun _ step _ hBefore hOrder hStep => hBefore.next step hOrder hStep)
  obtain ⟨session, hOpen⟩ := hSettled.open_
  intro key hKey
  rcases hKept.agrees session hOpen key hKey with hAgrees | hPending
  · exact hAgrees
  · exact absurd hPending hSettled.not_awaits

/-! ## A replay and a removal -/

/-- A send of the message that is wanted, which is always in order. -/
def sendsWanted (world : FeedWorld) : FeedStep → Bool
  | .send index =>
    match world.tasks[index]? with
    | some ⟨_, message :: _⟩ => decide (message = world.wanted message.key)
    | _ => true
  | _ => true

theorem sendsInOrder_of_sendsWanted {world : FeedWorld} {step : FeedStep}
    (h : sendsWanted world step = true) : SendsInOrder world step := by
  cases step with
  | send =>
    intro session message rest _ hTask _
    dsimp only [sendsWanted] at h
    rw [hTask] at h
    exact Or.inl (of_decide_eq_true h)
  | _ => trivial

def appleQuote : KisWsSubscription :=
  { trId := "HDFSASP0", trKey := "DNASAAPL", given := by decide }

/-- A subscription that is replayed. -/
def replayedSteps : List FeedStep :=
  [.subscribe [appleQuote], .schedule 0, .connect, .replay, .approve 0, .send 0, .finish 0]

theorem feed_converges_replayed : ∃ world : FeedWorld,
    RunWith FeedWorld.Steps SendsInOrder {} world ∧ world.Settled ∧ world.Converged := by
  have hEnd : (runLabels FeedWorld.next sendsWanted replayedSteps {}).map
      (fun world => (world.session, world.calls, world.tasks)) = some (.replayed 1, [], []) := by
    decide +kernel
  obtain ⟨world, hWorld, hFields⟩ := Option.map_eq_some_iff.mp hEnd
  simp only [Prod.mk.injEq] at hFields
  obtain ⟨hSession, hCalls, hTasks⟩ := hFields
  have hRun : RunWith FeedWorld.Steps SendsInOrder {} world :=
    RunWith.of_labels (fun _ _ _ hNext => hNext) (fun _ _ => sendsInOrder_of_sendsWanted) hWorld
  have hSettled : world.Settled := ⟨⟨1, hSession⟩, hCalls, hTasks⟩
  exact ⟨world, hRun, hSettled, feed_converges hRun hSettled⟩

/-- The key is removed while its replay waits for the approval key: UNSUBSCRIBE goes out
first. -/
def overtakenSteps : List FeedStep :=
  [.subscribe [appleQuote], .schedule 0, .connect, .replay, .unsubscribe [appleQuote],
    .schedule 0, .start 1, .approve 1, .send 1, .finish 1, .approve 0, .send 0, .finish 0]

theorem removal_overtakes_replay : ∃ world : FeedWorld,
    RunWith FeedWorld.Steps (fun _ _ => True) {} world ∧ world.Settled ∧ ¬ world.Converged := by
  have hEnd : (runLabels FeedWorld.next (fun _ _ => true) overtakenSteps {}).map
      (fun world => (world.session, world.calls, world.tasks)) = some (.replayed 1, [], []) := by
    decide +kernel
  have hLog : (runLabels FeedWorld.next (fun _ _ => true) overtakenSteps {}).map
      (fun world => (world.forgotten, world.lastSent appleQuote.key,
        decide (appleQuote.key ∈ world.desired))) =
        some ([], some ⟨appleQuote.key, .subscribe⟩, false) := by
    decide +kernel
  obtain ⟨world, hWorld, hFields⟩ := Option.map_eq_some_iff.mp hEnd
  rw [hWorld] at hLog
  simp only [Option.map_some, Option.some.injEq, Prod.mk.injEq, decide_eq_false_iff_not]
    at hFields hLog
  obtain ⟨hSession, hCalls, hTasks⟩ := hFields
  obtain ⟨hForgotten, hLast, hOut⟩ := hLog
  have hRun : RunWith FeedWorld.Steps (fun _ _ => True) {} world :=
    RunWith.of_labels (fun _ _ _ hNext => hNext) (fun _ _ _ => trivial) hWorld
  refine ⟨world, hRun, ⟨⟨1, hSession⟩, hCalls, hTasks⟩, ?_⟩
  intro hConverged
  have hKey : appleQuote.key ∉ world.forgotten := by
    rw [hForgotten]
    exact List.not_mem_nil
  rcases hConverged appleQuote.key hKey with hAgrees | ⟨hNone, _⟩
  · rw [hLast] at hAgrees
    unfold FeedWorld.wanted at hAgrees
    rw [if_neg hOut] at hAgrees
    cases hAgrees
  · rw [hLast] at hNone
    cases hNone

end QuantApp.Api
