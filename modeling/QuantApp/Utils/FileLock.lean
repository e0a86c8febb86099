import QuantApp.Verified.LabelledRuns
import Mathlib.Logic.Function.Basic

/-!
# The exclusive file lock

`exclusive_file_lock` of `src/utils/file_lock.py`: any number of calls race for a file that
is created exclusively and unlinked by its path.  A call that finds the file older than
`stale_seconds` unlinks it and tries again; the look and the unlink are two steps.

What a call holds is the file its create made.  While every unlink of a waiter finds the
file the waiter judged, the file at the path is that of the call that holds the lock: it is
never old enough to be judged stale, and its release is the only unlink that meets it.
-/

namespace QuantApp.Utils

open Verified
open Function (update update_of_ne update_self)

variable {stage : LockStage} {serial : Nat}

/-- A lock file: the number of the create that made it, and its `st_mtime`. -/
structure LockFile where
  serial : Nat
  modified : Int

/-- Where a call stands that holds the lock: before the write of its process id, in the
body of the `with`, or before the unlink of its `finally`. -/
inductive HoldStage
  | recording
  | body
  | releasing

/-- Where a call stands.  A holder has made the file of this number, at this time. -/
inductive LockStage
  | outside
  | creating
  | denied
  | looking
  | removing (serial : Nat)
  | waiting
  | holding (stage : HoldStage) (serial : Nat) (since : Int)
  | dead

/-- What the next statement of a call does.  `os.open` can be denied where the file exists
or not, and the errors of `stat` and `unlink` are suppressed. -/
inductive LockAction
  | enter
  | create
  | createDenied
  | probe
  | look
  | lookFails
  | remove
  | removeFails
  | retry
  | timeOut
  | record
  | recordFails
  | leave
  | release
  | releaseFails
  | crash

structure LockWorld (Caller : Type) where
  clock : Int
  file : Option LockFile
  created : Nat
  stage : Caller → LockStage

/-- The clock moves on, or a caller takes a step. -/
inductive LockEvent (Caller : Type)
  | tick (elapsed : Nat)
  | act (caller : Caller) (action : LockAction)

section Model

variable {Caller : Type} [DecidableEq Caller]

/-- A caller goes on to another stage. -/
def LockWorld.moved (world : LockWorld Caller) (caller : Caller) (stage : LockStage) :
    LockWorld Caller :=
  { world with stage := Function.update world.stage caller stage }

/-- `time.time() - lock_path.stat().st_mtime > stale_seconds`. -/
def LockFile.isStale (file : LockFile) (clock staleSeconds : Int) : Bool :=
  decide (staleSeconds < clock - file.modified)

/-- A write to the file of this number. -/
def LockFile.written (serial : Nat) (clock : Int) (file : LockFile) : LockFile :=
  if file.serial = serial then { file with modified := clock } else file

/-- The stage after the `stat` of a file that is or is not there. -/
def stageAfterLook (clock staleSeconds : Int) : Option LockFile → LockStage
  | some file => if file.isStale clock staleSeconds then .removing file.serial else .waiting
  | none => .waiting

/-- One statement of a call that stands at this stage. -/
def LockWorld.act (staleSeconds : Int) (world : LockWorld Caller) (caller : Caller) :
    LockStage → LockAction → Option (LockWorld Caller)
  | .dead, _ => none
  | _, .crash => some (world.moved caller .dead)
  | .outside, .enter => some (world.moved caller .creating)
  | .creating, .create =>
    match world.file with
    | none =>
      some ({ world with
        file := some { serial := world.created, modified := world.clock }
        created := world.created + 1 }.moved caller
          (.holding .recording world.created world.clock))
    | some _ => some (world.moved caller .looking)
  | .creating, .createDenied => some (world.moved caller .denied)
  | .denied, .probe =>
    -- a denial without a lock file is raised
    some (world.moved caller (if world.file.isSome then .looking else .outside))
  | .looking, .look =>
    some (world.moved caller (stageAfterLook world.clock staleSeconds world.file))
  | .looking, .lookFails => some (world.moved caller .waiting)
  | .removing _, .remove => some ({ world with file := none }.moved caller .creating)
  | .removing _, .removeFails => some (world.moved caller .creating)
  | .waiting, .retry => some (world.moved caller .creating)
  | .waiting, .timeOut => some (world.moved caller .outside)
  | .holding .recording serial since, .record =>
    -- the write goes through the descriptor, to the file this call made
    some ({ world with file := world.file.map (LockFile.written serial world.clock) }.moved
      caller (.holding .body serial since))
  | .holding .recording _ _, .recordFails => some (world.moved caller .outside)
  | .holding .body serial since, .leave =>
    some (world.moved caller (.holding .releasing serial since))
  | .holding .releasing _ _, .release =>
    some ({ world with file := none }.moved caller .outside)
  | .holding .releasing _ _, .releaseFails => some (world.moved caller .outside)
  | _, _ => none

def LockWorld.next (staleSeconds : Int) (world : LockWorld Caller) :
    LockEvent Caller → Option (LockWorld Caller)
  | .tick elapsed => some { world with clock := world.clock + elapsed }
  | .act caller action => world.act staleSeconds caller (world.stage caller) action

def LockStep (staleSeconds : Int) (before : LockWorld Caller) (event : LockEvent Caller)
    (after : LockWorld Caller) : Prop :=
  before.next staleSeconds event = some after

/-! ## What is assumed of a run -/

/-- A live caller has created the lock and not yet unlinked it. -/
def LockWorld.Holds (world : LockWorld Caller) (caller : Caller) : Prop :=
  ∃ stage serial since, world.stage caller = .holding stage serial since

/-- No live holder has stayed longer than `stale_seconds`. -/
def LockWorld.HoldsBriefly (staleSeconds : Int) (world : LockWorld Caller) : Prop :=
  ∀ caller stage serial since, world.stage caller = .holding stage serial since →
    world.clock - since ≤ staleSeconds

/-- A waiter that unlinks a stale lock meets the file it judged, or one whose creator is not
alive. -/
def RemovesJudged (world : LockWorld Caller) : LockEvent Caller → Prop
  | .act caller .remove =>
    ∀ serial file, world.stage caller = .removing serial → world.file = some file →
      file.serial = serial ∨
        ∀ holder stage since, world.stage holder ≠ .holding stage file.serial since
  | _ => True

/-- No call has begun; a lock file may have been left behind. -/
structure LockWorld.Unused (world : LockWorld Caller) : Prop where
  outside : ∀ caller, world.stage caller = .outside
  left : ∀ file, world.file = some file → file.serial < world.created

/-! ## One statement -/

/-- The file at the path is the holder's, it is as young as the holder's stay, and a file
that was judged stale is no holder's. -/
structure LockWorld.Excludes (world : LockWorld Caller) : Prop where
  own : ∀ caller stage serial since, world.stage caller = .holding stage serial since →
    ∃ file, world.file = some file ∧ file.serial = serial ∧ since ≤ file.modified
  began : ∀ caller stage serial since, world.stage caller = .holding stage serial since →
    since ≤ world.clock
  once : ∀ first second, world.Holds first → world.Holds second → first = second
  made : ∀ file, world.file = some file → file.serial < world.created
  judgedMade : ∀ caller serial, world.stage caller = .removing serial → serial < world.created
  judged : ∀ caller serial, world.stage caller = .removing serial →
    ∀ holder stage since, world.stage holder ≠ .holding stage serial since

variable {staleSeconds : Int} {world after : LockWorld Caller} {caller : Caller}

@[simp] theorem moved_stage_self (stage : LockStage) :
    (world.moved caller stage).stage caller = stage := by
  simp [LockWorld.moved]

theorem moved_stage_of_ne {other : Caller} (stage : LockStage) (h : other ≠ caller) :
    (world.moved caller stage).stage other = world.stage other := by
  simp [LockWorld.moved, update_of_ne h]

section

variable (h : world.Excludes) (hFree : ∀ part serial since, stage ≠ .holding part serial since)
include h hFree

/-- A caller that goes on to a stage in which it holds nothing. -/
theorem LockWorld.Excludes.moved
    (hJudged : ∀ serial, stage = .removing serial → serial < world.created ∧ ∀ holder part since,
      world.stage holder ≠ .holding part serial since) :
    (world.moved caller stage).Excludes := by
  -- a holder is another caller, and it held the lock before
  have hHolder : ∀ other part serial since,
      (world.moved caller stage).stage other = .holding part serial since →
        world.stage other = .holding part serial since := by
    intro other part serial since hHolding
    by_cases hSame : other = caller
    · subst hSame
      rw [moved_stage_self] at hHolding
      exact absurd hHolding (hFree part serial since)
    · rwa [moved_stage_of_ne stage hSame] at hHolding
  constructor
  · intro other part serial since hHolding
    exact h.own other part serial since (hHolder other part serial since hHolding)
  · intro other part serial since hHolding
    exact h.began other part serial since (hHolder other part serial since hHolding)
  · rintro first second ⟨part, serial, since, hFirst⟩ ⟨part', serial', since', hSecond⟩
    exact h.once first second ⟨part, serial, since, hHolder _ _ _ _ hFirst⟩
      ⟨part', serial', since', hHolder _ _ _ _ hSecond⟩
  · exact h.made
  · intro other serial hRemoving
    by_cases hSame : other = caller
    · subst hSame
      rw [moved_stage_self] at hRemoving
      exact (hJudged serial hRemoving).1
    · rw [moved_stage_of_ne stage hSame] at hRemoving
      exact h.judgedMade other serial hRemoving
  · intro other serial hRemoving holder part since hHolding
    have hHeld := hHolder holder part serial since hHolding
    by_cases hSame : other = caller
    · subst hSame
      rw [moved_stage_self] at hRemoving
      exact (hJudged serial hRemoving).2 holder part since hHeld
    · rw [moved_stage_of_ne stage hSame] at hRemoving
      exact h.judged other serial hRemoving holder part since hHeld

theorem LockWorld.Excludes.passed (hWaits : ∀ serial, stage ≠ .removing serial) :
    (world.moved caller stage).Excludes :=
  h.moved hFree (fun serial hRemoving => absurd hRemoving (hWaits serial))

end

omit [DecidableEq Caller] in
theorem LockWorld.Excludes.unlinked (h : world.Excludes) (hFree : ∀ holder, ¬ world.Holds holder) :
    ({ world with file := none } : LockWorld Caller).Excludes := by
  constructor
  · intro holder part serial since hHolding
    exact absurd ⟨part, serial, since, hHolding⟩ (hFree holder)
  · exact h.began
  · exact h.once
  · intro file hFile
    cases hFile
  · exact h.judgedMade
  · exact h.judged

omit [DecidableEq Caller] in
theorem LockWorld.Excludes.tick (h : world.Excludes) (elapsed : Nat) :
    ({ world with clock := world.clock + elapsed } : LockWorld Caller).Excludes := by
  constructor
  · exact h.own
  · intro holder part serial since hHolding
    have hSince := h.began holder part serial since hHolding
    show since ≤ world.clock + elapsed
    omega
  · exact h.once
  · exact h.made
  · exact h.judgedMade
  · exact h.judged

theorem LockWorld.Excludes.create (h : world.Excludes) (hFree : world.file = none) :
    (({ world with
      file := some { serial := world.created, modified := world.clock }
      created := world.created + 1 } : LockWorld Caller).moved caller
        (.holding .recording world.created world.clock)).Excludes := by
  have hNobody : ∀ holder part serial since,
      world.stage holder ≠ .holding part serial since := by
    intro holder part serial since hHolding
    obtain ⟨file, hFile, _⟩ := h.own holder part serial since hHolding
    rw [hFree] at hFile
    cases hFile
  -- the caller holds the new file, and nobody else holds any
  have hHolder : ∀ holder part serial since,
      update world.stage caller (.holding .recording world.created world.clock) holder =
        .holding part serial since →
      holder = caller ∧ serial = world.created ∧ since = world.clock := by
    intro holder part serial since hHolding
    by_cases hSame : holder = caller
    · subst hSame
      rw [update_self] at hHolding
      cases hHolding
      exact ⟨rfl, rfl, rfl⟩
    · rw [update_of_ne hSame] at hHolding
      exact absurd hHolding (hNobody holder part serial since)
  have hWaiter : ∀ other serial,
      update world.stage caller (.holding .recording world.created world.clock) other =
        .removing serial → serial < world.created := by
    intro other serial hRemoving
    by_cases hSame : other = caller
    · subst hSame
      rw [update_self] at hRemoving
      cases hRemoving
    · rw [update_of_ne hSame] at hRemoving
      exact h.judgedMade other serial hRemoving
  constructor
  · intro holder part serial since hHolding
    obtain ⟨_, hSerial, hSince⟩ := hHolder holder part serial since hHolding
    exact ⟨_, rfl, hSerial.symm, Int.le_of_eq hSince⟩
  · intro holder part serial since hHolding
    obtain ⟨_, _, hSince⟩ := hHolder holder part serial since hHolding
    show since ≤ world.clock
    omega
  · rintro first second ⟨part, serial, since, hFirst⟩ ⟨part', serial', since', hSecond⟩
    rw [(hHolder first part serial since hFirst).1, (hHolder second part' serial' since' hSecond).1]
  · intro file hFile
    cases hFile
    show world.created < world.created + 1
    omega
  · intro other serial hRemoving
    have hBefore := hWaiter other serial hRemoving
    show serial < world.created + 1
    omega
  · intro other serial hRemoving holder part since hHolding
    have hBefore := hWaiter other serial hRemoving
    have hNew := (hHolder holder part serial since hHolding).2.1
    omega

/-- The holder goes on, and has written to its file or not. -/
theorem LockWorld.Excludes.held (h : world.Excludes) {part next : HoldStage} {since : Int}
    (hHolding : world.stage caller = .holding part serial since) {file : Option LockFile}
    (hFile : file = world.file ∨ file = world.file.map (LockFile.written serial world.clock)) :
    (({ world with file := file } : LockWorld Caller).moved caller
      (.holding next serial since)).Excludes := by
  have hHolder : ∀ holder part' serial' since',
      update world.stage caller (.holding next serial since) holder =
        .holding part' serial' since' →
      ∃ before, world.stage holder = .holding before serial' since' := by
    intro holder part' serial' since' hUpdated
    by_cases hSame : holder = caller
    · subst hSame
      rw [update_self] at hUpdated
      cases hUpdated
      exact ⟨part, hHolding⟩
    · rw [update_of_ne hSame] at hUpdated
      exact ⟨part', hUpdated⟩
  have hWaiter : ∀ other serial',
      update world.stage caller (.holding next serial since) other =
        .removing serial' → world.stage other = .removing serial' := by
    intro other serial' hUpdated
    by_cases hSame : other = caller
    · subst hSame
      rw [update_self] at hUpdated
      cases hUpdated
    · rwa [update_of_ne hSame] at hUpdated
  -- the file at the path keeps its number, and is no older than before
  have hKept : ∀ old, world.file = some old → ∃ young, file = some young ∧
      young.serial = old.serial ∧
        (old.modified ≤ young.modified ∨ young.modified = world.clock) := by
    intro old hOld
    rcases hFile with hSame | hWritten
    · exact ⟨old, hSame.trans hOld, rfl, Or.inl (Int.le_refl _)⟩
    · refine ⟨old.written serial world.clock, by rw [hWritten, hOld]; rfl, ?_⟩
      unfold LockFile.written
      split
      · exact ⟨rfl, Or.inr rfl⟩
      · exact ⟨rfl, Or.inl (Int.le_refl _)⟩
  constructor
  · intro holder part' serial' since' hUpdated
    obtain ⟨before, hBefore⟩ := hHolder holder part' serial' since' hUpdated
    obtain ⟨old, hOld, hSerial, hSince⟩ := h.own holder before serial' since' hBefore
    obtain ⟨young, hYoung, hNumber, hModified⟩ := hKept old hOld
    have hBegan := h.began holder before serial' since' hBefore
    refine ⟨young, hYoung, hNumber.trans hSerial, ?_⟩
    omega
  · intro holder part' serial' since' hUpdated
    obtain ⟨before, hBefore⟩ := hHolder holder part' serial' since' hUpdated
    exact h.began holder before serial' since' hBefore
  · rintro first second ⟨part₁, serial₁, since₁, hFirst⟩ ⟨part₂, serial₂, since₂, hSecond⟩
    obtain ⟨before₁, hBefore₁⟩ := hHolder first part₁ serial₁ since₁ hFirst
    obtain ⟨before₂, hBefore₂⟩ := hHolder second part₂ serial₂ since₂ hSecond
    exact h.once first second ⟨before₁, serial₁, since₁, hBefore₁⟩
      ⟨before₂, serial₂, since₂, hBefore₂⟩
  · intro young hYoung
    cases hOld : world.file with
    | none =>
      rcases hFile with hSame | hWritten
      · rw [hOld] at hSame
        rw [hSame] at hYoung
        cases hYoung
      · rw [hOld] at hWritten
        rw [hWritten] at hYoung
        cases hYoung
    | some old =>
      obtain ⟨found, hFound, hNumber, _⟩ := hKept old hOld
      have hMade := h.made old hOld
      rw [hFound] at hYoung
      cases hYoung
      show young.serial < world.created
      omega
  · intro other serial' hUpdated
    exact h.judgedMade other serial' (hWaiter other serial' hUpdated)
  · intro other serial' hUpdated holder part' since' hHolds
    obtain ⟨before, hBefore⟩ := hHolder holder part' serial' since' hHolds
    exact h.judged other serial' (hWaiter other serial' hUpdated) holder before since' hBefore

theorem LockWorld.Excludes.looked (h : world.Excludes) (hBrief : world.HoldsBriefly staleSeconds) :
    (world.moved caller (stageAfterLook world.clock staleSeconds world.file)).Excludes := by
  apply h.moved
  · intro stage serial since
    unfold stageAfterLook
    split
    · split <;> nofun
    · nofun
  · intro serial hRemoving
    unfold stageAfterLook at hRemoving
    split at hRemoving
    · next file hFile =>
        split at hRemoving
        · next hOld =>
            cases hRemoving
            refine ⟨h.made file hFile, ?_⟩
            intro holder stage since hHolding
            obtain ⟨found, hFound, hSerial, hSince⟩ := h.own holder stage _ since hHolding
            have hStay := hBrief holder stage _ since hHolding
            rw [hFile] at hFound
            cases hFound
            have hAge : staleSeconds < world.clock - file.modified := of_decide_eq_true hOld
            omega
        · cases hRemoving
    · cases hRemoving

theorem LockWorld.Excludes.removed (h : world.Excludes)
    (hRemoving : world.stage caller = .removing serial)
    (hJudged : RemovesJudged world (.act caller .remove)) :
    ({ world with file := none }.moved caller .creating : LockWorld Caller).Excludes := by
  have hFree : ∀ holder, ¬ world.Holds holder := by
    rintro holder ⟨stage, held, since, hHolding⟩
    obtain ⟨file, hFile, hOwn, _⟩ := h.own holder stage held since hHolding
    rw [← hOwn] at hHolding
    rcases hJudged serial file hRemoving hFile with hSame | hAlone
    · rw [hSame] at hHolding
      exact h.judged caller serial hRemoving holder stage since hHolding
    · exact hAlone holder stage since hHolding
  exact (h.unlinked hFree).passed nofun nofun

/-- A release unlinks the file of the caller that releases. -/
theorem LockWorld.Excludes.released (h : world.Excludes) (hHolds : world.Holds caller) :
    ({ world with file := none }.moved caller .outside : LockWorld Caller).Excludes := by
  have hGone : (world.moved caller .outside).Excludes := h.passed nofun nofun
  apply hGone.unlinked
  rintro holder ⟨stage, serial, since, hHolding⟩
  by_cases hSame : holder = caller
  · subst hSame
    rw [moved_stage_self] at hHolding
    cases hHolding
  · rw [moved_stage_of_ne .outside hSame] at hHolding
    exact hSame (h.once holder caller ⟨stage, serial, since, hHolding⟩ hHolds)

theorem LockWorld.Excludes.act (h : world.Excludes) (hBrief : world.HoldsBriefly staleSeconds)
    {action : LockAction} (hJudged : RemovesJudged world (.act caller action))
    (hAct : world.act staleSeconds caller (world.stage caller) action = some after) :
    after.Excludes := by
  have hPassed : ∀ stage : LockStage, (∀ part serial since, stage ≠ .holding part serial since) →
      (∀ serial, stage ≠ .removing serial) →
        (world.moved caller stage).Excludes := fun _ => h.passed
  have hDies : (world.moved caller .dead).Excludes := hPassed _ nofun nofun
  cases hStage : world.stage caller with
  | outside =>
    rw [hStage] at hAct
    cases action with
    | enter => cases hAct; exact hPassed _ nofun nofun
    | crash => cases hAct; exact hDies
    | _ => cases hAct
  | creating =>
    rw [hStage] at hAct
    cases action with
    | create =>
      cases hFile : world.file with
      | none =>
        simp only [LockWorld.act, hFile, Option.some.injEq] at hAct
        rw [← hAct]
        exact h.create hFile
      | some =>
        simp only [LockWorld.act, hFile, Option.some.injEq] at hAct
        rw [← hAct]
        exact hPassed _ nofun nofun
    | createDenied => cases hAct; exact hPassed _ nofun nofun
    | crash => cases hAct; exact hDies
    | _ => cases hAct
  | denied =>
    rw [hStage] at hAct
    cases action with
    | probe =>
      cases hAct
      split
      all_goals exact hPassed _ nofun nofun
    | crash => cases hAct; exact hDies
    | _ => cases hAct
  | looking =>
    rw [hStage] at hAct
    cases action with
    | look => cases hAct; exact h.looked hBrief
    | lookFails => cases hAct; exact hPassed _ nofun nofun
    | crash => cases hAct; exact hDies
    | _ => cases hAct
  | removing =>
    rw [hStage] at hAct
    cases action with
    | remove => cases hAct; exact h.removed hStage hJudged
    | removeFails => cases hAct; exact hPassed _ nofun nofun
    | crash => cases hAct; exact hDies
    | _ => cases hAct
  | waiting =>
    rw [hStage] at hAct
    cases action with
    | retry | timeOut => cases hAct; exact hPassed _ nofun nofun
    | crash => cases hAct; exact hDies
    | _ => cases hAct
  | holding part serial since =>
    rw [hStage] at hAct
    cases part with
    | recording =>
      cases action with
      | record => cases hAct; exact h.held hStage (Or.inr rfl)
      | recordFails => cases hAct; exact hPassed _ nofun nofun
      | crash => cases hAct; exact hDies
      | _ => cases hAct
    | body =>
      cases action with
      | leave => cases hAct; exact h.held hStage (Or.inl rfl)
      | crash => cases hAct; exact hDies
      | _ => cases hAct
    | releasing =>
      cases action with
      | release => cases hAct; exact h.released ⟨_, serial, since, hStage⟩
      | releaseFails => cases hAct; exact hPassed _ nofun nofun
      | crash => cases hAct; exact hDies
      | _ => cases hAct
  | dead =>
    rw [hStage] at hAct
    cases hAct

/-! ## Whole runs -/

omit [DecidableEq Caller] in
theorem LockWorld.Unused.excludes (h : world.Unused) : world.Excludes := by
  have hNothing : ∀ caller stage, stage ≠ .outside → world.stage caller ≠ stage := by
    intro caller stage hStage hSame
    exact hStage (hSame.symm.trans (h.outside caller))
  constructor
  · intro caller part serial since hHolding
    exact absurd hHolding (hNothing caller _ nofun)
  · intro caller part serial since hHolding
    exact absurd hHolding (hNothing caller _ nofun)
  · rintro first _ ⟨part, serial, since, hHolding⟩ _
    exact absurd hHolding (hNothing first _ nofun)
  · exact h.left
  all_goals
    intro caller serial hRemoving
    exact absurd hRemoving (hNothing caller _ nofun)

/-- At most one live caller holds the lock, and the file its release will unlink is its
own. -/
theorem file_lock_excludes {start reached : LockWorld Caller} (hUnused : start.Unused)
    (hRun : RunWith (LockStep staleSeconds)
      (fun world event => world.HoldsBriefly staleSeconds ∧ RemovesJudged world event)
      start reached) :
    (∀ first second, reached.Holds first → reached.Holds second → first = second) ∧
      ∀ caller stage serial since, reached.stage caller = .holding stage serial since →
        ∃ file, reached.file = some file ∧ file.serial = serial := by
  have hExcludes : reached.Excludes := by
    apply hRun.invariant hUnused.excludes
    rintro before event after hBefore ⟨hBrief, hJudged⟩ hStep
    cases event with
    | tick elapsed =>
      cases hStep
      exact hBefore.tick elapsed
    | act => exact hBefore.act hBrief hJudged hStep
  refine ⟨hExcludes.once, ?_⟩
  intro caller stage serial since hHolding
  obtain ⟨file, hFile, hSerial, _⟩ := hExcludes.own caller stage serial since hHolding
  exact ⟨file, hFile, hSerial⟩

end Model

/-! ## Two waiters over one stale lock -/

/-- A holder has not stayed too long. -/
def LockStage.staysBriefly (clock staleSeconds : Int) : LockStage → Bool
  | .holding _ _ since => decide (clock - since ≤ staleSeconds)
  | _ => true

/-- A holder of the file of this number. -/
def LockStage.holdsSerial (serial : Nat) : LockStage → Bool
  | .holding _ held _ => held = serial
  | _ => false

/-- The check of `RemovesJudged`. -/
def removesJudged (world : LockWorld (Fin 3)) : LockEvent (Fin 3) → Bool
  | .act caller .remove =>
    match world.stage caller, world.file with
    | .removing serial, some file =>
      file.serial = serial || decide (∀ holder, (world.stage holder).holdsSerial file.serial =
        false)
    | _, _ => true
  | _ => true

theorem holdsBriefly_of_check {staleSeconds : Int} {world : LockWorld (Fin 3)}
    (h : ∀ caller, (world.stage caller).staysBriefly world.clock staleSeconds = true) :
    world.HoldsBriefly staleSeconds := by
  intro caller stage serial since hHolding
  have hChecked := h caller
  rw [hHolding] at hChecked
  exact of_decide_eq_true hChecked

theorem removesJudged_of_check {world : LockWorld (Fin 3)} {event : LockEvent (Fin 3)}
    (h : removesJudged world event = true) : RemovesJudged world event := by
  unfold RemovesJudged
  split
  · intro serial file hRemoving hFile
    unfold removesJudged at h
    simp only [hRemoving, hFile, Bool.or_eq_true, decide_eq_true_eq] at h
    apply h.imp_right
    intro hAlone holder stage since hHolding
    have hChecked := hAlone holder
    rw [hHolding] at hChecked
    simp [LockStage.holdsSerial] at hChecked
  · trivial

/-- Three callers, and no lock. -/
def unusedLock : LockWorld (Fin 3) :=
  { clock := 0, file := none, created := 0, stage := fun _ => .outside }

theorem unusedLock_unused : unusedLock.Unused := { outside := fun _ => rfl, left := nofun }

/-- The first caller dies with the lock, and two others find it stale. -/
def staleLockFound : List (LockEvent (Fin 3)) :=
  [.act 0 .enter, .act 0 .create, .act 0 .record, .act 0 .crash, .tick 31,
    .act 1 .enter, .act 2 .enter, .act 1 .create, .act 2 .create, .act 1 .look, .act 2 .look]

/-- The second caller takes the lock, and the third one has found it stale as well. -/
theorem file_lock_excludes_stale :
    ∃ reached : LockWorld (Fin 3),
      RunWith (LockStep 30)
        (fun world event => world.HoldsBriefly 30 ∧ RemovesJudged world event)
        unusedLock reached ∧
      reached.stage 1 = .holding .body 1 31 ∧ reached.stage 2 = .removing 0 ∧
      ((∀ first second, reached.Holds first → reached.Holds second → first = second) ∧
        ∀ caller stage serial since, reached.stage caller = .holding stage serial since →
          ∃ file, reached.file = some file ∧ file.serial = serial) := by
  obtain ⟨reached, hReached, hFirst, hSecond⟩ : ∃ reached,
      runLabels (LockWorld.next 30)
        (fun world event => decide (∀ caller, (world.stage caller).staysBriefly world.clock 30 =
          true) && removesJudged world event)
        (staleLockFound ++ [.act 1 .remove, .act 1 .create, .act 1 .record]) unusedLock =
          some reached ∧ reached.stage 1 = .holding .body 1 31 ∧ reached.stage 2 = .removing 0 :=
    ⟨_, rfl, rfl, rfl⟩
  have hRun : RunWith (LockStep 30)
      (fun world event => world.HoldsBriefly 30 ∧ RemovesJudged world event)
      unusedLock reached := by
    apply RunWith.of_labels (fun _ _ _ h => h) _ hReached
    intro world event hAdmitted
    obtain ⟨hBrief, hJudged⟩ := Bool.and_eq_true_iff.mp hAdmitted
    exact ⟨holdsBriefly_of_check (of_decide_eq_true hBrief), removesJudged_of_check hJudged⟩
  exact ⟨reached, hRun, hFirst, hSecond, file_lock_excludes unusedLock_unused hRun⟩

/-- Two waiters unlink one after the other, and both create the file. -/
theorem stale_lock_admits_two :
    ¬ ∀ (start reached : LockWorld (Fin 3)), start.Unused →
      RunWith (LockStep 30) (fun world _ => world.HoldsBriefly 30) start reached →
        ∀ first second, reached.Holds first → reached.Holds second → first = second := by
  intro hExcludes
  obtain ⟨reached, hReached, hFirst, hSecond⟩ : ∃ reached,
      runLabels (LockWorld.next 30)
        (fun world _ => decide (∀ caller, (world.stage caller).staysBriefly world.clock 30 = true))
        (staleLockFound ++ [.act 1 .remove, .act 1 .create, .act 1 .record, .act 2 .remove,
          .act 2 .create, .act 2 .record]) unusedLock = some reached ∧
        reached.stage 1 = .holding .body 1 31 ∧ reached.stage 2 = .holding .body 2 31 :=
    ⟨_, rfl, rfl, rfl⟩
  have hRun : RunWith (LockStep 30) (fun world _ => world.HoldsBriefly 30) unusedLock reached := by
    apply RunWith.of_labels (fun _ _ _ h => h) _ hReached
    intro world event hAdmitted
    exact holdsBriefly_of_check (of_decide_eq_true hAdmitted)
  have hSame : (1 : Fin 3) = 2 := hExcludes unusedLock reached unusedLock_unused hRun 1 2
    ⟨_, _, _, hFirst⟩ ⟨_, _, _, hSecond⟩
  cases hSame

end QuantApp.Utils
