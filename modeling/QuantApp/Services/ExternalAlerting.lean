import QuantApp.Services.AlertSpool
import QuantApp.Verified.KeyedTable
import Mathlib.Logic.Function.Basic

/-!
# Critical alerts

`ExternalAlertingService` of `src/services/external_alerting.py`, one statement at a time: the
incident rows, the receipts of imported spool entries, and the spool.  An update is matched
against the version that its transaction has read, and its row is locked until the transaction
ends.  Any statement may raise, a commit may take effect without being confirmed, an append may
end early, and the process may die between any two steps.

An incident is named by its `alert_type` and `dedupe_key`, which are unique and never change.
-/

namespace QuantApp.Services

open Core Verified

/-! ## Rows -/

inductive AlertIncidentStatus
  | open_
  | acknowledged
  | resolved
  deriving DecidableEq, Repr

/-- A row of `external_alert_incidents`. -/
structure AlertIncident where
  key : AlertKey
  message : String
  status : AlertIncidentStatus := .open_
  occurrenceCount : Nat
  deliveryAttemptCount : Nat := 0
  escalationLevel : Nat := 0
  createdAt : Instant
  nextAttemptAt : Instant
  acknowledgedAt : Option Instant := none
  acknowledgedBy : String := ""
  version : Nat := 1
  deriving DecidableEq, Repr

structure AlertingConfig where
  retryBase : Int
  acknowledgementTimeout : Int
  escalationEveryAttempts : Nat
  maxEscalationLevel : Nat

/-- `_raise_alert_occurrences` with one occurrence: the row it inserts. -/
def insertedIncident (key : AlertKey) (message : String) (now : Instant) : AlertIncident :=
  { key := key, message := message, occurrenceCount := 1, createdAt := now, nextAttemptAt := now }

/-- The row it writes over another; an incident that was closed is opened again. -/
def raisedIncident (message : String) (now : Instant) (row : AlertIncident) : AlertIncident :=
  let counted :=
    { row with
      message := message
      occurrenceCount := row.occurrenceCount + 1
      version := row.version + 1 }
  if row.status = .open_ then counted
  else
    { counted with
      status := .open_
      nextAttemptAt := now
      acknowledgedAt := none
      acknowledgedBy := "" }

/-- The delivery attempts of a spool entry, added to the imported row. -/
def withAttempts (attempts : List SpoolAttempt) (row : AlertIncident) : AlertIncident :=
  match attempts.getLast? with
  | none => row
  | some last =>
    { row with
      deliveryAttemptCount := row.deliveryAttemptCount + attempts.length
      escalationLevel := last.escalationLevel
      nextAttemptAt := last.nextAttemptAt
      version := row.version + 1 }

/-- `_import_spooled_incident`: the row it inserts. -/
def newImportedIncident (pending : PendingAlert) (now : Instant) : AlertIncident :=
  withAttempts pending.deliveryAttempts
    { key := pending.key
      message := pending.message
      occurrenceCount := pending.occurrenceCount
      createdAt := now
      nextAttemptAt := now }

/-- The row it writes over another. -/
def importedIncident (pending : PendingAlert) (now : Instant) (row : AlertIncident) :
    AlertIncident :=
  withAttempts pending.deliveryAttempts
    { row with
      message := pending.message
      status := .open_
      occurrenceCount := row.occurrenceCount + pending.occurrenceCount
      nextAttemptAt := if row.status = .open_ then row.nextAttemptAt else now
      acknowledgedAt := none
      acknowledgedBy := ""
      version := row.version + 1 }

variable (config : AlertingConfig)

def escalationLevel (attemptNumber : Nat) : Nat :=
  min config.maxEscalationLevel ((attemptNumber - 1) / config.escalationEveryAttempts)

def attemptDelay (attemptNumber : Nat) (delivered : Bool) : Int :=
  if delivered then config.acknowledgementTimeout
  else config.retryBase * 2 ^ min (attemptNumber - 1) 6

/-- What `process_due` writes after a delivery. -/
def deliveredIncident (now : Instant) (delivered : Bool) (row : AlertIncident) : AlertIncident :=
  { row with
    deliveryAttemptCount := row.deliveryAttemptCount + 1
    escalationLevel := escalationLevel config (row.deliveryAttemptCount + 1)
    nextAttemptAt := now + attemptDelay config (row.deliveryAttemptCount + 1) delivered
    version := row.version + 1 }

/-- `acknowledge` and `resolve_alert`. -/
def closedIncident (status : AlertIncidentStatus) (closedBy : String) (now : Instant)
    (row : AlertIncident) : AlertIncident :=
  { row with
    status := status
    acknowledgedAt := some now
    acknowledgedBy := closedBy
    version := row.version + 1 }

/-- Nothing is left to close: `acknowledge` passes over acknowledged incidents only,
`resolve_alert` over every closed one. -/
def isClosedFor (target status : AlertIncidentStatus) : Bool :=
  status = target || (target = .resolved && status ≠ .open_)

def dueIncidents (incidents : List AlertIncident) (now : Instant) : List AlertIncident :=
  (incidents.filter (fun row => row.status = .open_ && row.nextAttemptAt ≤ now)).mergeSort
    (fun first second => first.nextAttemptAt < second.nextAttemptAt ||
      (first.nextAttemptAt = second.nextAttemptAt && first.createdAt ≤ second.createdAt))

/-! ## Transactions -/

/-- What a transaction writes to an incident row, and what its caller has still to do. -/
inductive IncidentWrite
  | raise (message : String)
  | importPending (pending : PendingAlert) (rest : List PendingAlert)
  | deliver (rest : List AlertIncident)
  | close (status : AlertIncidentStatus) (closedBy : String)

namespace IncidentWrite

/-- The row it inserts where it has found none. -/
def inserted (key : AlertKey) (now : Instant) : IncidentWrite → Option AlertIncident
  | .raise message => some (insertedIncident key message now)
  | .importPending pending _ => some (newImportedIncident pending now)
  | .deliver _ | .close _ _ => none

/-- The row it writes over the one it has read. -/
def updated (config : AlertingConfig) (now : Instant) (delivered : Bool) (row : AlertIncident) :
    IncidentWrite → AlertIncident
  | .raise message => raisedIncident message now row
  | .importPending pending _ => importedIncident pending now row
  | .deliver _ => deliveredIncident config now delivered row
  | .close status closedBy => closedIncident status closedBy now row

/-- The condition on the status in the update. -/
def matchesStatus (status : AlertIncidentStatus) : IncidentWrite → Bool
  | .raise _ | .importPending _ _ => true
  | .deliver _ => status = .open_
  | .close target _ => target ≠ .resolved || status = .open_

end IncidentWrite

/-- Where a caller stands. -/
inductive AlertStage
  | idle
  | reading (key : AlertKey) (write : IncidentWrite)
  | writing (key : AlertKey) (write : IncidentWrite) (row : Option AlertIncident)
  | receipting (pending : PendingAlert) (rest : List PendingAlert) (row : Option AlertIncident)
      (written : AlertIncident)
  | committing (key : AlertKey) (write : IncidentWrite) (row written : Option AlertIncident)
  | spooling (key : AlertKey) (message : String) (deliverDirectly : Bool)
  | attempting (eventId : String)
  | draining
  | importing (pendings : List PendingAlert)
  | checkingReceipt (pending : PendingAlert) (rest : List PendingAlert)
  | marking (pending : PendingAlert) (rest : List PendingAlert)
  | retrying (pending : PendingAlert) (rest : List PendingAlert)
  | listing
  | delivering (due : List AlertIncident)

inductive AlertCall
  | sink (alertType : CriticalAlertType) (dedupeKey message : String)
  | sinkOffline (alertType : CriticalAlertType) (dedupeKey message : String)
      (deliverDirectly : Bool)
  | processDue
  | acknowledge (key : AlertKey) (acknowledgedBy : String)
  | resolveAlert (alertType : CriticalAlertType) (dedupeKey resolvedBy : String)

/-- A blank `dedupe_key` is refused. -/
def startWithKey (alertType : CriticalAlertType) (dedupeKey : String)
    (stage : AlertKey → AlertStage) : AlertStage :=
  if strip dedupeKey = "" then .idle
  else stage { alertType := alertType, dedupeKey := strip dedupeKey }

def AlertCall.start : AlertCall → AlertStage
  | .sink alertType dedupeKey message =>
    startWithKey alertType dedupeKey (fun key => .reading key (.raise message))
  | .sinkOffline alertType dedupeKey message deliverDirectly =>
    startWithKey alertType dedupeKey (fun key => .spooling key message deliverDirectly)
  | .processDue => .draining
  | .acknowledge key acknowledgedBy => .reading key (.close .acknowledged acknowledgedBy)
  | .resolveAlert alertType dedupeKey resolvedBy =>
    startWithKey alertType dedupeKey (fun key =>
      .reading key (.close .resolved (if resolvedBy = "" then "system-recovery" else resolvedBy)))

/-- Where a caller goes on when its transaction raises. -/
def IncidentWrite.raised (key : AlertKey) : IncidentWrite → AlertStage
  | .raise message => .spooling key message true
  | .importPending pending rest => .retrying pending rest
  | .deliver _ | .close _ _ => .idle

/-- Where it goes on when the transaction has committed. -/
def IncidentWrite.committed : IncidentWrite → AlertStage
  | .raise _ | .close _ _ => .idle
  | .importPending pending rest => .marking pending rest
  | .deliver rest => .delivering rest

/-! ## The service -/

/-- The committed rows, the file, and the callers.  `stored` has a key for every call whose
occurrence was stored; `settled` the count that the last effective `acknowledge` or
`resolve_alert` of an incident has read; `stopped` is set by a `process_due` that a line of the
spool has stopped while incidents were due. -/
structure AlertWorld (Caller : Type) where
  incidents : List AlertIncident := []
  receipts : List String := []
  spool : SpoolFile := []
  holder : AlertKey → Option Caller := fun _ => none
  stage : Caller → AlertStage := fun _ => .idle
  stored : List AlertKey := []
  settled : AlertKey → Nat := fun _ => 0
  stopped : Bool := false

/-- What a statement finds outside: the clock, a new id, whether the provider delivers, how much
of an append reaches the file and whether it raises. -/
structure AlertMoment where
  now : Instant := 0
  freshId : String := ""
  delivered : Bool := true
  append : AppendOutcome := .whole
  appendRaises : Bool := false

inductive AlertStep (Caller : Type)
  | call (caller : Caller) (call : AlertCall)
  | statement (caller : Caller) (moment : AlertMoment)
  | fail (caller : Caller)
  | commit (caller : Caller) (confirmed : Bool)
  | appendHeartbeat (append : AppendOutcome)
  | crash

namespace AlertWorld

variable {Caller : Type} [DecidableEq Caller]

variable (world : AlertWorld Caller)

variable (caller : Caller)

def moveTo (stage : AlertStage) : AlertWorld Caller :=
  { world with stage := Function.update world.stage caller stage }

/-- The transaction of the caller ends. -/
def leave (stage : AlertStage) : AlertWorld Caller :=
  { world with
    holder := fun key => if world.holder key = some caller then none else world.holder key
    stage := Function.update world.stage caller stage }

def incident? (key : AlertKey) : Option AlertIncident :=
  lookup AlertIncident.key key world.incidents

/-- The id was never drawn before. -/
def UnusedId (world : AlertWorld Caller) (eventId : String) : Prop :=
  eventId ∉ world.receipts ∧ eventId ∉ (pendingIds (entriesOf world.spool)).map Prod.fst ∧
    occurrenceMessages (entriesOf world.spool) eventId = []

instance (world : AlertWorld Caller) (eventId : String) : Decidable (world.UnusedId eventId) :=
  inferInstanceAs (Decidable (_ ∧ _))

/-- `append` of a record that counts nothing; the caller goes on one way or the other. -/
def appendRecord (moment : AlertMoment)
    (record : SpoolRecord) (returned raised : AlertStage) : Option (AlertWorld Caller) :=
  if moment.appendRaises ∨ moment.append = .whole then
    some { world.moveTo caller (if moment.appendRaises then raised else returned) with
      spool := appendLine moment.append record world.spool }
  else none

variable (config : AlertingConfig)

/-- The insert or the update of an incident row; it waits for the row's lock. -/
def writeRow (world : AlertWorld Caller) (caller : Caller)
    (moment : AlertMoment) (key : AlertKey) (write : IncidentWrite) (row : Option AlertIncident) :
    Option (AlertWorld Caller) :=
  if world.holder key = none ∨ world.holder key = some caller then
    let locked := { world with holder := Function.update world.holder key (some caller) }
    let written := fun (new : AlertIncident) =>
      match write with
      | .importPending pending rest => locked.moveTo caller (.receipting pending rest row new)
      | _ => locked.moveTo caller (.committing key write row (some new))
    match row with
    | none =>
      match world.incident? key, write.inserted key moment.now with
      | none, some new => some (written new)
      | _, _ => some (world.leave caller (write.raised key))
    | some read =>
      let isMatched := (world.incident? key).any (fun current =>
        current.version = read.version && write.matchesStatus current.status)
      if isMatched then
        some (written (write.updated config moment.now moment.delivered read))
      else
        match write with
        | .importPending _ _ => some (world.leave caller (write.raised key))
        -- The other transactions do not look at the row count, or return by it.
        | _ => some (world.moveTo caller (.committing key write row none))
  else none

/-- `record_alert_occurrence`, under the lock of the spool. -/
def recordOccurrence (moment : AlertMoment)
    (key : AlertKey) (message : String) (deliverDirectly : Bool) : Option (AlertWorld Caller) :=
  match readLines world.spool with
  | none => some (world.moveTo caller .idle)
  | some entries =>
    if world.UnusedId moment.freshId ∧ (moment.appendRaises ∨ moment.append = .whole) then
      let record := occurrenceRecord entries key message moment.freshId
      let isNew := record = .alertPending moment.freshId key message
      some { world.moveTo caller
          (if isNew ∧ deliverDirectly ∧ ¬ moment.appendRaises then .attempting moment.freshId
            else .idle) with
        spool := appendLine moment.append record world.spool
        stored := if moment.append.isRecord then world.stored ++ [key] else world.stored }
    else none

/-- The attempt record of a spool entry. -/
def attemptRecord (moment : AlertMoment) (eventId : String) (attemptNumber : Nat) : SpoolRecord :=
  .alertDeliveryAttempt eventId
    { attemptNumber := attemptNumber
      escalationLevel := escalationLevel config attemptNumber
      nextAttemptAt := moment.now + attemptDelay config attemptNumber moment.delivered }

/-- `_retry_spooled_alert_if_due`: the number of the attempt that is due, if any. -/
def dueAttempt (pending : PendingAlert) (now : Instant) : Option Nat :=
  match pending.deliveryAttempts.getLast? with
  | none => some 1
  | some latest =>
    if now < latest.nextAttemptAt then none
    else some (max (pending.deliveryAttempts.length + 1) (latest.attemptNumber + 1))

/-- The next statement of a caller. -/
def statement (world : AlertWorld Caller) (caller : Caller)
    (moment : AlertMoment) : Option (AlertWorld Caller) :=
  match world.stage caller with
  | .reading key write =>
    match write, world.incident? key with
    | .close _ _, none => some (world.moveTo caller .idle)
    | .close target _, some row =>
      if isClosedFor target row.status then some (world.moveTo caller .idle)
      else some (world.moveTo caller (.writing key write (some row)))
    | _, row => some (world.moveTo caller (.writing key write row))
  | .writing key write row => writeRow config world caller moment key write row
  | .receipting pending rest row written =>
    if pending.eventId ∈ world.receipts then
      some (world.leave caller (.retrying pending rest))
    else
      some (world.moveTo caller
        (.committing pending.key (.importPending pending rest) row (some written)))
  | .spooling key message deliverDirectly =>
    world.recordOccurrence caller moment key message deliverDirectly
  | .attempting eventId =>
    world.appendRecord caller moment (attemptRecord config moment eventId 1) .idle .idle
  | .draining =>
    match pendingAlerts world.spool with
    | none =>
      some { world.moveTo caller .idle with
        stopped := world.stopped || !(dueIncidents world.incidents moment.now).isEmpty }
    | some pendings => some (world.moveTo caller (.importing pendings))
  | .importing [] => some (world.moveTo caller .listing)
  | .importing (pending :: rest) => some (world.moveTo caller (.checkingReceipt pending rest))
  | .checkingReceipt pending rest =>
    if pending.eventId ∈ world.receipts then some (world.moveTo caller (.marking pending rest))
    else some (world.moveTo caller (.reading pending.key (.importPending pending rest)))
  | .marking pending rest =>
    world.appendRecord caller moment (.alertReconciled pending.eventId) (.importing rest)
      (.retrying pending rest)
  | .retrying pending rest =>
    match dueAttempt pending moment.now with
    | none => some (world.moveTo caller (.importing rest))
    | some attemptNumber =>
      world.appendRecord caller moment
        (attemptRecord config moment pending.eventId attemptNumber) (.importing rest) .idle
  | .listing =>
    some (world.moveTo caller (.delivering (dueIncidents world.incidents moment.now)))
  | .delivering [] => some (world.moveTo caller .idle)
  | .delivering (row :: rest) =>
    some (world.moveTo caller (.writing row.key (.deliver rest) (some row)))
  | .idle | .committing _ _ _ _ => none

variable (world : AlertWorld Caller)

/-- A statement or a commit that raises without an effect. -/
def fail (caller : Caller) : Option (AlertWorld Caller) :=
  match world.stage caller with
  | .reading key write | .writing key write _ | .committing key write _ _ =>
    some (world.leave caller (write.raised key))
  | .receipting pending rest _ _ | .checkingReceipt pending rest =>
    some (world.leave caller (.retrying pending rest))
  | .draining | .listing => some (world.leave caller .idle)
  | _ => none

/-- The tables after a transaction. -/
def takeEffect (key : AlertKey) (write : IncidentWrite)
    (row written : Option AlertIncident) : AlertWorld Caller :=
  { world with
    incidents :=
      match row, written with
      | _, none => world.incidents
      | none, some new => world.incidents ++ [new]
      | some _, some new => store AlertIncident.key new world.incidents
    receipts :=
      match write with
      | .importPending pending _ => world.receipts ++ [pending.eventId]
      | _ => world.receipts
    settled :=
      match write, row, written with
      | .close _ _, some read, some _ => Function.update world.settled key read.occurrenceCount
      | _, _, _ => world.settled }

/-- A commit takes effect.  One that is not confirmed raises all the same. -/
def commit (caller : Caller) (confirmed : Bool) : Option (AlertWorld Caller) :=
  match world.stage caller with
  | .committing key write row written =>
    let done := world.takeEffect key write row written
    if confirmed then
      some { done.leave caller write.committed with
        stored :=
          match write with
          | .raise _ => world.stored ++ [key]
          | _ => world.stored }
    else some (done.leave caller (write.raised key))
  | _ => none

def next (config : AlertingConfig) (world : AlertWorld Caller) :
    AlertStep Caller → Option (AlertWorld Caller)
  | .call caller call =>
    match world.stage caller with
    | .idle => some (world.moveTo caller call.start)
    | _ => none
  | .statement caller moment => world.statement config caller moment
  | .fail caller => world.fail caller
  | .commit caller confirmed => world.commit caller confirmed
  | .appendHeartbeat append =>
    some { world with spool := appendLine append .heartbeatAttempt world.spool }
  | .crash => some { world with holder := fun _ => none, stage := fun _ => .idle }

end AlertWorld

end QuantApp.Services
