import QuantApp.Services.SharedDocuments

/-!
# Shared documents lose no update

Over every interleaving of the statements of pushes and publications with transfers of the
two roles, each committed write takes a document from the revision its call named to the
next one, under a role row that names the writer, and no two writes start from the same
revision.  A publication writes all documents or none.  What it reports says so unless its
commit is not confirmed, a read after the commit raises, or a document's revision is
`NULL`.
-/

namespace QuantApp.Services

open Core Verified
open LockedRows.Keeps (refl)
open LockedRows (keeps_lock lock_rows lock_holder_of_some seen_of_clean keeps_put put_pending
  put_pending_ne overwrite)

variable {after state : SharedState} {commandInFlight : Bool} {store : SharedStore}
  {key : DocumentKey} {success : Option Bool} {left read : List (DocumentKey × Option SharedRow)}
  {reports : List DocumentReport} {move : SharedMove}

/-! ## What holds -/

/-- A row a write may start from: the one of the expected revision, or none when that is
zero. -/
def HasRevision (row : Option SharedRow) (expected : Int) : Prop :=
  (row = none ∧ expected = 0) ∨ ∃ found, row = some found ∧ found.revision = some expected

/-- A write leads from the expected revision to the next one, by the owner of the role. -/
structure DocumentWrite.Succeeds (key : DocumentKey) (write : DocumentWrite) : Prop where
  from_ : HasRevision write.before (write.call.expected key)
  to_ : write.after.revision = some (write.call.expected key + 1)
  owned : NamesOwner write.roleRow write.call.device

/-- A publication reports success exactly when it has written all its documents, and
otherwise has written none. -/
def DocumentReport.Holds (report : DocumentReport) : Prop :=
  report.call.isPublish = true →
    (report.success ≠ some false ∧ report.written = syncedStateKeys) ∨
      (report.success ≠ some true ∧ report.written = [])

/-- The thread has the lock of the row it has read, which is still there. -/
def ReadHeld (store : SharedStore) (thread : Nat) (entry : DocumentKey × Option SharedRow) : Prop :=
  entry.2 = none ∨ (store.holder (.document entry.1) = some thread ∧
    store.rows (.document entry.1) = entry.2)

/-- The thread has the lock of its role row, which names its device. -/
def RoleHeld (store : SharedStore) (thread : Nat) (call : DocumentCall) : Prop :=
  store.holder (.role call.role) = some thread ∧
    NamesOwner (store.rows (.role call.role)) call.device

/-- What the thread has written follows the committed rows. -/
def WritesFollow (store : SharedStore) (thread : Nat) (call : DocumentCall) : Prop :=
  ∀ key row, store.pending thread (.document key) = some row →
    HasRevision (store.rows (.document key)) (call.expected key) ∧
      row.revision = some (call.expected key + 1)

def PhaseHolds (store : SharedStore) (thread : Nat) (call : DocumentCall) :
    DocumentPhase → Prop
  | .authorizing => store.Clean thread
  | .reading left read =>
    store.Clean thread ∧ RoleHeld store thread call ∧
      (∀ entry ∈ read, ReadHeld store thread entry) ∧
        ∀ key ∈ call.keys, key ∈ left ∨ key ∈ read.map Prod.fst
  | .writing left =>
    RoleHeld store thread call ∧
      (∀ entry ∈ left, ReadHeld store thread entry ∧
        call.currentRevision entry.2 = call.expected entry.1) ∧
        WritesFollow store thread call ∧
          ∀ key ∈ call.keys, key ∈ left.map Prod.fst ∨
            (store.pending thread (.document key)).isSome = true
  | .reporting written =>
    store.Clean thread ∧ (call.isPublish = true → written = syncedStateKeys)

/-- The thread's place between two statements. -/
def PlaceHolds (store : SharedStore) (thread : Nat) :
    Option (DocumentCall × DocumentPhase) → Prop
  | none => store.Clean thread
  | some (call, phase) => PhaseHolds store thread call phase

structure DocumentsKept (state : SharedState) : Prop where
  sound : state.store.Sound
  places : ∀ thread, PlaceHolds state.store thread (state.calls thread)
  writes : ∀ key, ∀ write ∈ state.history key, write.Succeeds key
  latest : ∀ key write rest, state.history key = write :: rest →
    ∃ row, state.store.rows (.document key) = some row ∧
      row.revision = some (write.call.expected key + 1)
  falls : ∀ key, (state.history key).Pairwise
    (fun later earlier => earlier.call.expected key < later.call.expected key)
  reports : ∀ report ∈ state.reports, report.Holds

theorem DocumentsKept.placeAt {state : SharedState} {thread : Nat}
    {place : Option (DocumentCall × DocumentPhase)} (h : DocumentsKept state)
    (hCall : state.calls thread = place) : PlaceHolds state.store thread place := by
  rw [← hCall]
  exact h.places thread

/-- A state in which no transaction is open and nothing has happened yet. -/
def SharedState.found (rows : RowKey → Option SharedRow) : SharedState :=
  { store := { rows := rows } }

theorem kept_found (rows : RowKey → Option SharedRow) : DocumentsKept (SharedState.found rows) := by
  constructor
  · intro thread key row hPending
    cases hPending
  · intro thread key
    rfl
  · intro key write hWrite
    cases hWrite
  · intro key write rest hHistory
    cases hHistory
  · intro key
    exact List.Pairwise.nil
  · intro report hReport
    cases hReport

/-! ## Frames -/

section Frames

variable {before after : SharedStore} {thread : Nat} {call : DocumentCall}

theorem ReadHeld.keeps {entry : DocumentKey × Option SharedRow}
    (hKeeps : LockedRows.Keeps thread before after) (h : ReadHeld before thread entry) :
    ReadHeld after thread entry := by
  cases h with
  | inl hNone => exact Or.inl hNone
  | inr hHeld =>
    right
    exact ⟨hKeeps.holder _ hHeld.1, (hKeeps.rows _ hHeld.1).trans hHeld.2⟩

theorem RoleHeld.keeps (hKeeps : LockedRows.Keeps thread before after)
    (h : RoleHeld before thread call) : RoleHeld after thread call := by
  refine ⟨hKeeps.holder _ h.1, ?_⟩
  rw [hKeeps.rows _ h.1]
  exact h.2

theorem WritesFollow.keeps (hSound : before.Sound)
    (hKeeps : LockedRows.Keeps thread before after) (h : WritesFollow before thread call) :
    WritesFollow after thread call := by
  intro key row hPending
  rw [hKeeps.pending] at hPending
  rw [hKeeps.rows _ (hSound _ _ _ hPending)]
  exact h key row hPending

theorem clean_keeps (hKeeps : LockedRows.Keeps thread before after) (h : before.Clean thread) :
    after.Clean thread := by
  intro key
  rw [hKeeps.pending]
  exact h key

/-- A thread keeps its place through the steps of the others. -/
theorem PlaceHolds.keeps {place : Option (DocumentCall × DocumentPhase)}
    (hSound : before.Sound) (hKeeps : LockedRows.Keeps thread before after)
    (h : PlaceHolds before thread place) : PlaceHolds after thread place := by
  cases place with
  | none => exact clean_keeps hKeeps h
  | some entry =>
    obtain ⟨call, phase⟩ := entry
    cases phase with
    | authorizing => exact clean_keeps hKeeps h
    | reporting => exact ⟨clean_keeps hKeeps h.1, h.2⟩
    | reading =>
      obtain ⟨hClean, hRole, hRead, hKeys⟩ := h
      exact ⟨clean_keeps hKeeps hClean, hRole.keeps hKeeps,
        fun entry hEntry => (hRead entry hEntry).keeps hKeeps, hKeys⟩
    | writing =>
      obtain ⟨hRole, hRead, hWrites, hKeys⟩ := h
      refine ⟨hRole.keeps hKeeps, ?_, hWrites.keeps hSound hKeeps, ?_⟩
      · intro entry hEntry
        exact ⟨(hRead entry hEntry).1.keeps hKeeps, (hRead entry hEntry).2⟩
      · intro key hKey
        rw [hKeeps.pending]
        exact hKeys key hKey

end Frames

/-! ## Statements -/

section Statements

variable {state : SharedState} {thread : Nat} {call : DocumentCall}

section

variable (h : DocumentsKept state)
include h

/-- A step of one thread that commits nothing. -/
theorem DocumentsKept.moves (place : Option (DocumentCall × DocumentPhase)) (hSound : store.Sound)
    (hOthers : ∀ other, other ≠ thread → LockedRows.Keeps other state.store store)
    (hRows : ∀ key, store.rows (.document key) = state.store.rows (.document key))
    (hPlace : PlaceHolds store thread place) (hReports : ∀ report ∈ reports, report.Holds) :
    DocumentsKept
      { store := store
        calls := Function.update state.calls thread place
        history := state.history
        reports := reports } := by
  constructor
  · exact hSound
  · intro other
    show PlaceHolds store other (Function.update state.calls thread place other)
    by_cases hSelf : other = thread
    · rw [hSelf, Function.update_self]
      exact hPlace
    · rw [Function.update_of_ne hSelf]
      exact (h.places other).keeps h.sound (hOthers other hSelf)
  · exact h.writes
  · intro key write rest hHistory
    rw [hRows key]
    exact h.latest key write rest hHistory
  · exact h.falls
  · exact hReports

section

variable (hSound : store.Sound)
  (hOthers : ∀ other, other ≠ thread → LockedRows.Keeps other state.store store)
  (hRows : ∀ key, store.rows (.document key) = state.store.rows (.document key))
include hSound hOthers hRows

theorem DocumentsKept.finish {written : List DocumentKey} (hClean : store.Clean thread)
    (hReport : DocumentReport.Holds { call := call, success := success, written := written }) :
    DocumentsKept (state.finish thread call store success written) := by
  apply h.moves none hSound hOthers hRows hClean
  refine List.forall_mem_cons.mpr ⟨?_, h.reports⟩
  exact hReport

theorem DocumentsKept.proceed {phase : DocumentPhase} (hPhase : PhaseHolds store thread call
    phase) :
    DocumentsKept (state.proceed thread call store phase) :=
  h.moves (some (call, phase)) hSound hOthers hRows hPhase h.reports

/-- A call ends with its writes undone, from a store that follows the present one. -/
theorem DocumentsKept.undone (hSuccess : success ≠ some true) :
    DocumentsKept (state.finish thread call (store.abort thread) success []) := by
  apply h.finish (hSound.abort thread) _ _ LockedRows.abort_clean
  · intro _
    exact Or.inr ⟨hSuccess, rfl⟩
  · intro other hOther
    have hFirst := hOthers other hOther
    have hSecond : LockedRows.Keeps other store (store.abort thread) :=
      LockedRows.keeps_abort hOther
    exact
      { holder := fun key hHeld => hSecond.holder key (hFirst.holder key hHeld)
        rows := fun key hHeld =>
          (hSecond.rows key (hFirst.holder key hHeld)).trans (hFirst.rows key hHeld)
        pending := hSecond.pending.trans hFirst.pending }
  · exact hRows

end

theorem DocumentsKept.refused : DocumentsKept (state.refuse thread call state.store) :=
  h.undone h.sound (fun other _ => refl other state.store) (fun _ => rfl)
    (by decide)

/-- The role row is read and judged. -/
theorem DocumentsKept.authorizing (hCall : state.calls thread = some (call, .authorizing))
    (hNext : state.statement thread commandInFlight = some after) : DocumentsKept after := by
  have hClean : state.store.Clean thread := h.placeAt hCall
  unfold SharedState.statement at hNext
  rw [hCall] at hNext
  dsimp only at hNext
  obtain ⟨hCan, hNext⟩ := Option.ite_none_right_eq_some.mp hNext
  have hSound := h.sound.lock hCan
  have hOthers : ∀ other, other ≠ thread →
      LockedRows.Keeps other state.store (state.store.lock thread (.role call.role)) :=
    fun other hOther => keeps_lock hCan hOther
  have hRows : ∀ key, (state.store.lock thread (.role call.role)).rows (.document key) =
      state.store.rows (.document key) := fun key => by rw [lock_rows]
  cases hAuthorized : call.authorize commandInFlight
      (state.store.seen thread (.role call.role)) with
  | error refusal =>
    rw [hAuthorized] at hNext
    cases hNext
    exact h.undone hSound hOthers hRows (by decide)
  | ok _ =>
    rw [hAuthorized] at hNext
    cases hNext
    have hOwner := DocumentCall.authorize_ok hAuthorized
    have hThere : (state.store.seen thread (.role call.role)).isSome = true := by
      obtain ⟨found, -, hFound, -⟩ := hOwner
      rw [hFound]
      rfl
    apply h.proceed hSound hOthers hRows
    refine ⟨?_, ⟨lock_holder_of_some hThere, ?_⟩, ?_, ?_⟩
    · intro key
      rw [LockedRows.lock_pending]
      exact hClean key
    · rw [lock_rows, ← seen_of_clean hClean]
      exact hOwner
    · intro entry hEntry
      cases hEntry
    · intro key hKey
      exact Or.inl hKey

/-- A document is read. -/
theorem DocumentsKept.reading {left : List DocumentKey}
    (hCall : state.calls thread = some (call, .reading (key :: left) read))
    (hNext : state.statement thread commandInFlight = some after) : DocumentsKept after := by
  obtain ⟨hClean, hRole, hRead, hKeys⟩ :
      PhaseHolds state.store thread call (.reading (key :: left) read) :=
    h.placeAt hCall
  unfold SharedState.statement at hNext
  rw [hCall] at hNext
  dsimp only at hNext
  obtain ⟨hCan, hNext⟩ := Option.ite_none_right_eq_some.mp hNext
  cases hNext
  have hOwn : LockedRows.Keeps thread state.store (state.store.lock thread (.document key)) :=
    LockedRows.keeps_own_lock (RowKey.document key)
  apply h.proceed (h.sound.lock hCan) (fun other hOther => keeps_lock hCan hOther)
    (fun key => by rw [lock_rows])
  refine ⟨clean_keeps hOwn hClean, hRole.keeps hOwn, ?_, ?_⟩
  · intro entry hEntry
    cases List.mem_append.mp hEntry with
    | inl hOld => exact (hRead entry hOld).keeps hOwn
    | inr hNew =>
      obtain rfl := List.mem_singleton.mp hNew
      cases hSeen : state.store.seen thread (.document key) with
      | none => exact Or.inl rfl
      | some row =>
        right
        refine ⟨lock_holder_of_some (by rw [hSeen]; rfl), ?_⟩
        show (state.store.lock thread (.document key)).rows (.document key) = some row
        rw [lock_rows, ← seen_of_clean hClean, hSeen]
  · intro other hOther
    rw [List.map_append, List.mem_append]
    cases hKeys other hOther with
    | inl hLeft =>
      cases List.mem_cons.mp hLeft with
      | inl hSame =>
        right
        right
        rw [hSame]
        exact List.mem_singleton_self _
      | inr hRest => exact Or.inl hRest
    | inr hDone => exact Or.inr (Or.inl hDone)

/-- The revisions are compared. -/
theorem DocumentsKept.compared (hCall : state.calls thread = some (call, .reading [] read))
    (hNext : state.statement thread commandInFlight = some after) : DocumentsKept after := by
  obtain ⟨hClean, hRole, hRead, hKeys⟩ :
      PhaseHolds state.store thread call (.reading [] read) :=
    h.placeAt hCall
  unfold SharedState.statement at hNext
  rw [hCall] at hNext
  dsimp only at hNext
  cases hCompared : call.requireRevisions read with
  | error =>
    rw [hCompared] at hNext
    cases hNext
    exact h.refused
  | ok =>
    rw [hCompared] at hNext
    cases hNext
    apply h.proceed h.sound (fun other _ => refl other _) (fun _ => rfl)
    refine ⟨hRole, ?_, ?_, ?_⟩
    · intro entry hEntry
      exact ⟨hRead entry hEntry, DocumentCall.requireRevisions_ok hCompared entry hEntry⟩
    · intro key row hPending
      rw [hClean] at hPending
      cases hPending
    · intro key hKey
      cases hKeys key hKey with
      | inl hLeft => cases hLeft
      | inr hDone => exact Or.inl hDone

/-- A write goes into the transaction. -/
theorem DocumentsKept.wrote {row : Option SharedRow}
    (hPhase : PhaseHolds state.store thread call (.writing ((key, row) :: left)))
    (hCan : state.store.CanLock thread (.document key))
    (hFrom : HasRevision (state.store.rows (.document key)) (call.expected key)) :
    DocumentsKept (state.proceed thread call
      (state.store.put thread (.document key) (call.newRow key)) (.writing left)) := by
  obtain ⟨hRole, hRead, hWrites, hKeys⟩ := hPhase
  have hHolder : ∀ other, state.store.holder other = some thread →
      (state.store.put thread (.document key) (call.newRow key)).holder other = some thread := by
    intro other hHeld
    by_cases hSame : other = .document key
    · rw [hSame]
      exact LockedRows.put_holder
    · simpa [LockedRows.put, hSame] using hHeld
  apply h.proceed (h.sound.put hCan _)
    (fun other hOther => keeps_put hCan hOther _) (fun _ => rfl)
  refine ⟨⟨hHolder _ hRole.1, hRole.2⟩, ?_, ?_, ?_⟩
  · intro entry hEntry
    obtain ⟨hHeld, hRevision⟩ := hRead entry (List.mem_cons_of_mem _ hEntry)
    refine ⟨?_, hRevision⟩
    cases hHeld with
    | inl hNone => exact Or.inl hNone
    | inr hLocked => exact Or.inr ⟨hHolder _ hLocked.1, hLocked.2⟩
  · intro other found hPending
    by_cases hSame : other = key
    · subst hSame
      rw [put_pending] at hPending
      cases hPending
      exact ⟨hFrom, rfl⟩
    · have hKey : RowKey.document other ≠ .document key := by
        intro hEq
        cases hEq
        exact hSame rfl
      rw [put_pending_ne hKey] at hPending
      exact hWrites other found hPending
  · intro other hOther
    by_cases hSame : other = key
    · right
      rw [hSame, put_pending]
      rfl
    · have hKey : RowKey.document other ≠ .document key := by
        intro hEq
        cases hEq
        exact hSame rfl
      rw [put_pending_ne hKey]
      cases hKeys other hOther with
      | inl hLeft =>
        cases List.mem_cons.mp hLeft with
        | inl hHead => exact absurd hHead hSame
        | inr hRest => exact Or.inl hRest
      | inr hDone => exact Or.inr hDone

/-- A missing document is inserted. -/
theorem DocumentsKept.inserting
    (hCall : state.calls thread = some (call, .writing ((key, none) :: left)))
    (hNext : state.statement thread commandInFlight = some after) : DocumentsKept after := by
  have hPhase : PhaseHolds state.store thread call (.writing ((key, none) :: left)) :=
    h.placeAt hCall
  unfold SharedState.statement at hNext
  rw [hCall] at hNext
  dsimp only at hNext
  obtain ⟨hCan, hNext⟩ := Option.ite_none_right_eq_some.mp hNext
  cases hSeen : state.store.seen thread (.document key) with
  | some =>
    rw [hSeen] at hNext
    cases hNext
    exact h.refused
  | none =>
    rw [hSeen] at hNext
    cases hNext
    have hRow : state.store.rows (.document key) = none := by
      unfold LockedRows.seen at hSeen
      cases hPending : state.store.pending thread (.document key) with
      | none => simpa [hPending] using hSeen
      | some => simp [hPending] at hSeen
    have hZero : call.expected key = 0 := ((hPhase.2.1 _ List.mem_cons_self).2).symm
    exact h.wrote hPhase hCan (Or.inl ⟨hRow, hZero⟩)

/-- A document is updated; a publication that meets one with a revision of its own changes
it. -/
theorem DocumentsKept.updating {old : SharedRow}
    (hCall : state.calls thread = some (call, .writing ((key, some old) :: left)))
    (hNamed : call.isPublish = true → old.revision ≠ none)
    (hNext : state.statement thread commandInFlight = some after) : DocumentsKept after := by
  have hPhase : PhaseHolds state.store thread call (.writing ((key, some old) :: left)) :=
    h.placeAt hCall
  unfold SharedState.statement at hNext
  rw [hCall] at hNext
  dsimp only at hNext
  obtain ⟨hCan, hNext⟩ := Option.ite_none_right_eq_some.mp hNext
  cases hNext
  obtain ⟨hRole, hRead, hWrites, hKeys⟩ := hPhase
  unfold SharedState.updateDocument
  by_cases hMatch : (state.store.seen thread (.document key)).bind (·.revision) =
      some (call.expected key)
  · rw [if_pos hMatch]
    apply h.wrote ⟨hRole, hRead, hWrites, hKeys⟩ hCan
    right
    unfold LockedRows.seen at hMatch
    cases hPending : state.store.pending thread (.document key) with
    | none =>
      rw [hPending] at hMatch
      exact Option.bind_eq_some_iff.mp hMatch
    | some row =>
      -- A document the thread has already written is one revision further.
      have hNewer := (hWrites key row hPending).2
      rw [hPending] at hMatch
      have hSame : row.revision = some (call.expected key) := hMatch
      rw [hNewer] at hSame
      have := Option.some.inj hSame
      omega
  · rw [if_neg hMatch]
    by_cases hPublish : call.isPublish = true
    swap
    · rw [if_neg hPublish]
      exact h.refused
    rw [if_pos hPublish]
    apply h.proceed h.sound (fun other _ => refl other _) (fun _ => rfl)
    refine ⟨hRole, fun entry hEntry => hRead entry (List.mem_cons_of_mem _ hEntry), hWrites, ?_⟩
    intro other hOther
    cases hKeys other hOther with
    | inr hDone => exact Or.inr hDone
    | inl hLeft =>
      cases List.mem_cons.mp hLeft with
      | inr hRest => exact Or.inl hRest
      | inl hHead =>
        right
        obtain rfl : other = key := hHead
        cases hPending : state.store.pending thread (.document other) with
        | some => rfl
        | none =>
          exfalso
          apply hMatch
          obtain ⟨hHeld, hRevision⟩ := hRead _ List.mem_cons_self
          have hRow : state.store.rows (.document other) = some old := by
            cases hHeld with
            | inl hNone => cases hNone
            | inr hLocked => exact hLocked.2
          rw [LockedRows.seen_eq_rows hPending, hRow]
          show old.revision = some (call.expected other)
          have hZero : orZero old.revision = call.expected other := by
            simpa [DocumentCall.currentRevision, hPublish] using hRevision
          cases hOld : old.revision with
          | none => exact absurd hOld (hNamed hPublish)
          | some =>
            rw [hOld] at hZero
            exact congrArg some hZero

end

/-! ## The commit -/

section

variable (h : DocumentsKept state)
include h

/-- A thread that has written all it had to. -/
theorem DocumentsKept.ready (hCall : state.calls thread = some (call, .writing [])) :
    RoleHeld state.store thread call ∧ WritesFollow state.store thread call ∧
      ∀ key ∈ call.keys, (state.store.pending thread (.document key)).isSome = true := by
  have hPlace := h.placeAt hCall
  obtain ⟨hRole, -, hWrites, hKeys⟩ := hPlace
  refine ⟨hRole, hWrites, ?_⟩
  intro key hKey
  cases hKeys key hKey with
  | inl hLeft => cases hLeft
  | inr hDone => exact hDone

/-- The committed rows and the history, with the thread gone from its transaction. -/
theorem DocumentsKept.committed (place : Option (DocumentCall × DocumentPhase))
    (hCall : state.calls thread = some (call, .writing []))
    (hPlace : ∀ store : SharedStore, store.Clean thread → PlaceHolds store thread place)
    (hReports : ∀ report ∈ reports, report.Holds) :
    DocumentsKept
      { store := state.store.commit thread
        calls := Function.update state.calls thread place
        history := (state.committed thread call).history
        reports := reports } := by
  obtain ⟨hRole, hWrites, -⟩ := h.ready hCall
  have hOlder : ∀ key, state.store.pending thread (.document key) = none →
      (state.committed thread call).history key = state.history key := by
    intro key hNone
    simp only [SharedState.committed, hNone]
  have hNewer : ∀ key after, state.store.pending thread (.document key) = some after →
      (state.committed thread call).history key =
        { call := call
          before := state.store.rows (.document key)
          after := after
          roleRow := state.store.rows (.role call.role) } :: state.history key := by
    intro key after hSome
    simp only [SharedState.committed, hSome]
  constructor
  · exact h.sound.commit thread
  · intro other
    show PlaceHolds (state.store.commit thread) other
      (Function.update state.calls thread place other)
    by_cases hSelf : other = thread
    · rw [hSelf, Function.update_self]
      exact hPlace _ LockedRows.commit_clean
    · rw [Function.update_of_ne hSelf]
      exact (h.places other).keeps h.sound (LockedRows.keeps_commit h.sound hSelf)
  · intro key write hWrite
    change write ∈ (state.committed thread call).history key at hWrite
    cases hPending : state.store.pending thread (.document key) with
    | none =>
      rw [hOlder key hPending] at hWrite
      exact h.writes key write hWrite
    | some after =>
      rw [hNewer key after hPending] at hWrite
      obtain ⟨hFrom, hTo⟩ := hWrites key after hPending
      cases List.mem_cons.mp hWrite with
      | inl hNew =>
        rw [hNew]
        exact ⟨hFrom, hTo, hRole.2⟩
      | inr hOld => exact h.writes key write hOld
  · intro key write rest hLatest
    change (state.committed thread call).history key = write :: rest at hLatest
    show ∃ row, state.store.seen thread (.document key) = some row ∧ _
    unfold LockedRows.seen
    cases hPending : state.store.pending thread (.document key) with
    | none =>
      rw [hOlder key hPending] at hLatest
      exact h.latest key write rest hLatest
    | some after =>
      rw [hNewer key after hPending] at hLatest
      have hHead := (List.cons.inj hLatest).1
      rw [← hHead]
      exact ⟨after, rfl, (hWrites key after hPending).2⟩
  · intro key
    show ((state.committed thread call).history key).Pairwise _
    cases hPending : state.store.pending thread (.document key) with
    | none =>
      rw [hOlder key hPending]
      exact h.falls key
    | some after =>
      rw [hNewer key after hPending]
      obtain ⟨hFrom, -⟩ := hWrites key after hPending
      apply List.Pairwise.cons _ (h.falls key)
      intro earlier hEarlier
      show earlier.call.expected key < call.expected key
      cases hRest : state.history key with
      | nil =>
        rw [hRest] at hEarlier
        cases hEarlier
      | cons latest rest =>
        -- The row carries the revision the latest write has left.
        obtain ⟨row, hRow, hRevision⟩ := h.latest key latest rest hRest
        have hNext : call.expected key = latest.call.expected key + 1 := by
          cases hFrom with
          | inl hMissing =>
            rw [hRow] at hMissing
            cases hMissing.1
          | inr hThere =>
            obtain ⟨found, hFound, hExpected⟩ := hThere
            rw [hRow] at hFound
            cases hFound
            rw [hRevision] at hExpected
            exact (Option.some.inj hExpected).symm
        have hFalls := h.falls key
        rw [hRest] at hFalls hEarlier
        cases List.mem_cons.mp hEarlier with
        | inl hSame =>
          rw [hSame]
          omega
        | inr hOlder =>
          have hBelow := (List.pairwise_cons.mp hFalls).1 earlier hOlder
          omega
  · exact hReports

/-- The documents a publication has written at its commit. -/
theorem DocumentsKept.written_eq (hCall : state.calls thread = some (call, .writing []))
    (hPublish : call.isPublish = true) : state.written thread call = syncedStateKeys := by
  obtain ⟨-, -, hKeys⟩ := h.ready hCall
  unfold SharedState.written
  rw [List.filter_eq_self.mpr hKeys]
  cases call with
  | pushState | pushOperatorControlledSettings => cases hPublish
  | publishPlanningSnapshot => rfl

/-- A transaction ends; a publication's commit is confirmed or undone. -/
theorem DocumentsKept.ends {outcome : CommitOutcome}
    (hConfirmed : ∀ call, state.calls thread = some (call, .writing []) → call.isPublish = true →
      outcome ≠ .unconfirmed)
    (hNext : state.commit thread outcome = some after) : DocumentsKept after := by
  unfold SharedState.commit at hNext
  split at hNext
  swap
  · cases hNext
  next call hCall =>
    have hPlaces : ∀ store : SharedStore, store.Clean thread →
        PlaceHolds store thread none := fun store hClean => hClean
    have hReport : ∀ success, success ≠ some false →
        ∀ report ∈ ({ call := call, success := success, written := state.written thread call } :
          DocumentReport) :: state.reports, report.Holds := by
      intro success hSuccess report hMem
      cases List.mem_cons.mp hMem with
      | inl hNew =>
        rw [hNew]
        intro hPublish
        exact Or.inl ⟨hSuccess, h.written_eq hCall hPublish⟩
      | inr hOld => exact h.reports report hOld
    cases outcome with
    | committed =>
      dsimp only at hNext
      by_cases hPublish : call.isPublish = true
      · rw [if_pos hPublish] at hNext
        cases hNext
        exact h.committed (some (call, .reporting (state.written thread call))) hCall
          (fun store hClean => ⟨hClean, fun _ => h.written_eq hCall hPublish⟩) h.reports
      · rw [if_neg hPublish] at hNext
        cases hNext
        exact h.committed none hCall hPlaces (hReport _ (by decide))
    | failed =>
      cases hNext
      exact h.refused
    | unconfirmed =>
      cases hNext
      apply h.committed none hCall hPlaces
      refine List.forall_mem_cons.mpr ⟨?_, h.reports⟩
      intro hPublish
      exact absurd rfl (hConfirmed call hCall hPublish)
    | crashedBefore =>
      cases hNext
      exact h.undone h.sound (fun other _ => refl other _) (fun _ => rfl)
        (by decide)
    | crashedAfter =>
      cases hNext
      exact h.committed none hCall hPlaces (hReport _ (by decide))

end

/-! ## The other moves -/

variable (h : DocumentsKept state)
include h

theorem DocumentsKept.reported (hNext : state.report thread false = some after) :
    DocumentsKept after := by
  unfold SharedState.report at hNext
  split at hNext
  swap
  · cases hNext
  next call written hCall =>
    have hPlace := h.placeAt hCall
    cases hNext
    apply h.finish h.sound (fun other _ => refl other _) (fun _ => rfl) hPlace.1
    intro hPublish
    exact Or.inl ⟨by simp, hPlace.2 hPublish⟩

theorem DocumentsKept.failed (hNext : state.fail thread success = some after) :
    DocumentsKept after := by
  unfold SharedState.fail at hNext
  split at hNext
  · cases hNext
  · split at hNext
    · cases hNext
    next hSuccess =>
      cases hNext
      exact h.undone h.sound (fun other _ => refl other _) (fun _ => rfl) hSuccess
  · cases hNext

theorem DocumentsKept.entered (hNext : state.enter thread call = some after) :
    DocumentsKept after := by
  unfold SharedState.enter at hNext
  split at hNext
  next hIdle hChecked =>
    have hPlace := h.places thread
    rw [hIdle] at hPlace
    cases hNext
    exact h.moves (some (call, .authorizing)) h.sound
      (fun other _ => refl other _) (fun _ => rfl) hPlace h.reports
  · cases hNext

theorem DocumentsKept.transferred {role : RoleKey} {row : SharedRow}
    (hNext : state.transfer role row = some after) : DocumentsKept after := by
  unfold SharedState.transfer at hNext
  split at hNext
  swap
  · cases hNext
  next hFree =>
    cases hNext
    constructor
    · exact h.sound.overwrite _ row
    · intro thread
      exact (h.places thread).keeps h.sound (LockedRows.keeps_overwrite hFree row)
    · exact h.writes
    · intro key write rest hHistory
      show ∃ found, (state.store.overwrite (.role role) row).rows (.document key) = some found ∧ _
      have hOther : (RowKey.document key) ≠ .role role := by
        intro hEq
        cases hEq
      rw [show (state.store.overwrite (.role role) row).rows (.document key) =
        state.store.rows (.document key) by simp [overwrite, hOther]]
      exact h.latest key write rest hHistory
    · exact h.falls
    · exact h.reports

end Statements

/-! ## Runs -/

/-- What a publication needs to report what it did: its commit is confirmed, the reads
after the commit raise nothing, and a document it updates has a revision. -/
def ReportsItsWrites (state : SharedState) (move : SharedMove) : Prop :=
  match move with
  | .commit thread outcome =>
    ∀ call, state.calls thread = some (call, .writing []) → call.isPublish = true →
      outcome ≠ .unconfirmed
  | .report _ raises => raises = false
  | .statement thread _ =>
    ∀ call key old left, state.calls thread = some (call, .writing ((key, some old) :: left)) →
      call.isPublish = true → old.revision ≠ none
  | _ => True

theorem DocumentsKept.stated {thread : Nat} (h : DocumentsKept state)
    (hNamed : ReportsItsWrites state (.statement thread commandInFlight))
    (hNext : state.statement thread commandInFlight = some after) : DocumentsKept after := by
  cases hCall : state.calls thread with
  | none =>
    unfold SharedState.statement at hNext
    rw [hCall] at hNext
    cases hNext
  | some entry =>
    obtain ⟨call, phase⟩ := entry
    cases phase with
    | authorizing => exact h.authorizing hCall hNext
    | reporting =>
      unfold SharedState.statement at hNext
      rw [hCall] at hNext
      cases hNext
    | reading left =>
      cases left with
      | nil => exact h.compared hCall hNext
      | cons => exact h.reading hCall hNext
    | writing left =>
      cases left with
      | nil =>
        unfold SharedState.statement at hNext
        rw [hCall] at hNext
        cases hNext
      | cons entry left =>
        obtain ⟨key, row⟩ := entry
        cases row with
        | none => exact h.inserting hCall hNext
        | some old =>
          exact h.updating hCall (hNamed call key old left hCall) hNext

theorem DocumentsKept.step (h : DocumentsKept state) (hReports : ReportsItsWrites state move)
    (hStep : SharedStep state move after) : DocumentsKept after := by
  cases move with
  | enter => exact h.entered hStep
  | statement => exact h.stated hReports hStep
  | fail => exact h.failed hStep
  | commit => exact h.ends hReports hStep
  | report thread raises =>
    have hQuiet : raises = false := hReports
    subst hQuiet
    exact h.reported hStep
  | transfer => exact h.transferred hStep

/-- Over every interleaving from any rows: each write takes its document from the revision
its call named to the next one, by the owner of the role its call requires; no two writes
of a document start from the same revision; and a publication either has written all six
documents, and does not report a failure, or has written none, and does not report
success. -/
theorem shared_documents_lose_no_update {rows : RowKey → Option SharedRow} {state : SharedState}
    (hRun : RunWith SharedStep ReportsItsWrites (SharedState.found rows) state) :
    (∀ key, ∀ write ∈ state.history key, write.Succeeds key) ∧
      (∀ key, (state.history key).Pairwise
        (fun later earlier => earlier.call.expected key < later.call.expected key)) ∧
      ∀ report ∈ state.reports, report.Holds := by
  have hKept : DocumentsKept state := RunWith.invariant hRun (kept_found rows)
    (fun _ _ _ hBefore hReports hStep => hBefore.step hReports hStep)
  exact ⟨hKept.writes, hKept.falls, hKept.reports⟩

/-! ## Samples -/

/-- The web operator holds Operator Control, the laptop is the main device, and no document
has been written yet. -/
def sampleRows : RowKey → Option SharedRow
  | .role .mainDevice => some { payload := .object { deviceId := "laptop" }, revision := some 3 }
  | .role .operatorControl =>
    some { payload := .object { deviceId := "web" }, revision := some 1 }
  | .document _ => none

/-- Moves that meet the condition whatever the rows are: those of calls that are no
publications. -/
def isPushMove (state : SharedState) (move : SharedMove) : Bool :=
  match move with
  | .statement thread _ | .commit thread _ =>
    (state.calls thread).all (fun entry => !entry.1.isPublish)
  | .report _ raises => !raises
  | _ => true

theorem reportsItsWrites_of_push (h : isPushMove state move = true) :
    ReportsItsWrites state move := by
  cases move with
  | enter | fail | transfer => trivial
  | report => simpa [isPushMove, ReportsItsWrites] using h
  | statement =>
    intro call key old left hCall hPublish
    simp [isPushMove, hCall, hPublish] at h
  | commit =>
    intro call hCall hPublish
    simp [isPushMove, hCall, hPublish] at h

/-- The laptop writes the watchlist for the first time. -/
def pushMoves : List SharedMove :=
  [.enter 0 (.pushState .watchlist "laptop" 0 "AAPL"), .statement 0 false, .statement 0 false,
    .statement 0 false, .statement 0 false, .commit 0 .committed]

def pushedState : SharedState :=
  (runLabels (fun state move => SharedMove.next move state) isPushMove pushMoves
    (SharedState.found sampleRows)).get (by decide +kernel)

theorem shared_documents_lose_no_update_pushed :
    (pushedState.history .watchlist).length = 1 ∧
      ∀ write ∈ pushedState.history .watchlist, write.Succeeds .watchlist := by
  have hRun : RunWith SharedStep ReportsItsWrites (SharedState.found sampleRows) pushedState := by
    apply RunWith.of_labels (fun _ _ _ hNext => hNext)
      (fun _ _ hPush => reportsItsWrites_of_push hPush)
    exact (Option.some_get _).symm
  exact ⟨by decide +kernel, (shared_documents_lose_no_update hRun).1 .watchlist⟩

/-- The web operator publishes the plan, and the liveness read after the commit raises. -/
def publishMoves : List SharedMove :=
  [.enter 0 (.publishPlanningSnapshot { deviceId := "web", hostname := "Mobile Web" }
    (fun _ => 0) (fun _ => "plan") false)] ++
    List.replicate 14 (.statement 0 false) ++ [.commit 0 .committed, .report 0 true]

def publishedState : SharedState :=
  (runLabels (fun state move => SharedMove.next move state) (fun _ _ => true) publishMoves
    (SharedState.found sampleRows)).get (by decide +kernel)

theorem published_reported_as_failure :
    ¬ ∀ (rows : RowKey → Option SharedRow) (state : SharedState),
      RunWith SharedStep (fun _ _ => True) (SharedState.found rows) state →
        ∀ report ∈ state.reports, report.Holds := by
  intro hHolds
  have hRun : RunWith SharedStep (fun _ _ => True) (SharedState.found sampleRows)
      publishedState := by
    apply RunWith.of_labels (fun _ _ _ hNext => hNext) (fun _ _ _ => trivial)
    exact (Option.some_get _).symm
  have hReported : ∃ report ∈ publishedState.reports, report.call.isPublish = true ∧
      report.success = some false ∧ report.written = syncedStateKeys := by
    refine ⟨_, List.mem_cons_self, ?_, ?_, ?_⟩ <;> decide +kernel
  obtain ⟨report, hReport, hPublish, hSuccess, hWritten⟩ := hReported
  cases hHolds sampleRows publishedState hRun report hReport hPublish with
  | inl hGood => exact hGood.1 hSuccess
  | inr hNone =>
    rw [hWritten] at hNone
    cases hNone.2

end QuantApp.Services
