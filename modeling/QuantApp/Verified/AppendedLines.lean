import Mathlib.Data.List.Basic

/-!
# A file of appended lines

Records are appended to the end of a file, one a line.  An append may end early: then the file
ends in a fragment, or in a whole record that lacks its end of line.  The next append goes on
behind it in the same line, which then is no record.
-/

namespace QuantApp.Verified

universe u

/-- A line of the file, with its end of line or without. -/
inductive Line (α : Type u)
  | record (entry : α) (ended : Bool)
  | fragment (ended : Bool)

/-- How much of an append reaches the file. -/
inductive AppendOutcome
  | nothing
  | part
  | unended
  | whole
  deriving DecidableEq, Repr

namespace AppendOutcome

/-- The whole record was written. -/
def isRecord : AppendOutcome → Bool
  | .unended | .whole => true
  | .nothing | .part => false

/-- The line an append begins. -/
def newLine {α : Type u} (entry : α) : AppendOutcome → List (Line α)
  | .nothing => []
  | .part => [.fragment false]
  | .unended => [.record entry false]
  | .whole => [.record entry true]

/-- What becomes of a line that an append goes on behind. -/
def joined {α : Type u} (line : Line α) : AppendOutcome → Line α
  | .nothing => line
  | .part | .unended => .fragment false
  | .whole => .fragment true

end AppendOutcome

variable {α : Type u}

namespace Line

def ended : Line α → Bool
  | .record _ ended | .fragment ended => ended

def entry? : Line α → Option α
  | .record entry _ => some entry
  | .fragment _ => none

end Line

/-- Append a record. -/
def appendLine (outcome : AppendOutcome) (entry : α) : List (Line α) → List (Line α)
  | [] => outcome.newLine entry
  | [last] => if last.ended then last :: outcome.newLine entry else [outcome.joined last]
  | line :: next :: rest => line :: appendLine outcome entry (next :: rest)

variable (lines : List (Line α))

/-- The records of the readable lines. -/
def entriesOf : List α := lines.filterMap Line.entry?

/-- Every line is read; a fragment makes the reading fail. -/
def readLines : Option (List α) :=
  if ∀ line ∈ lines, line.entry?.isSome then some (entriesOf lines) else none

/-- The last record, if any, has its end of line. -/
def RecordsEnded : Prop := ∀ entry, lines.getLast? ≠ some (.record entry false)

/-- What an append writes, if anything, it writes behind no record that lacks its end of line. -/
def AppendsApart (outcome : AppendOutcome) (lines : List (Line α)) : Prop :=
  outcome ≠ .nothing → RecordsEnded lines

instance [DecidableEq α] (lines : List (Line α)) : Decidable (RecordsEnded lines) :=
  decidable_of_iff (∀ line ∈ lines.getLast?, line.ended ∨ line.entry? = none) (by
    constructor
    · intro h entry hLast
      rcases h _ hLast with hEnded | hNone
      · cases hEnded
      · cases hNone
    · intro h line hLast
      cases line with
      | record entry ended =>
        cases ended with
        | true => exact Or.inl rfl
        | false => exact absurd hLast (h entry)
      | fragment => exact Or.inr rfl)

instance [DecidableEq α] (outcome : AppendOutcome) (lines : List (Line α)) :
    Decidable (AppendsApart outcome lines) :=
  inferInstanceAs (Decidable (_ → _))

variable {lines : List (Line α)}

theorem entriesOf_of_read {entries : List α}
    (h : readLines lines = some entries) : entries = entriesOf lines := by
  unfold readLines at h
  split at h
  · exact (Option.some.inj h).symm
  · cases h

variable (outcome : AppendOutcome)

variable (entry : α)

theorem entriesOf_newLine :
    entriesOf (outcome.newLine entry) = if outcome.isRecord then [entry] else [] := by
  cases outcome <;> rfl

/-- An append behind a fragment adds no record, any other one adds a record that was written
whole; no record is lost. -/
theorem entriesOf_appendLine (h : RecordsEnded lines) :
    entriesOf (appendLine outcome entry lines) =
      entriesOf lines ++ (if outcome.isRecord ∧ ∀ line ∈ lines.getLast?, line.ended
        then [entry] else []) := by
  induction lines with
  | nil =>
    rw [appendLine, entriesOf_newLine]
    cases outcome <;> rfl
  | cons line rest ih =>
    cases rest with
    | nil =>
      cases line with
      | record found ended =>
        cases ended with
        | true => cases outcome <;> rfl
        | false => exact absurd rfl (h found)
      | fragment ended => cases ended <;> cases outcome <;> rfl
    | cons next rest =>
      have hRest : RecordsEnded (next :: rest) := fun found hLast =>
        h found (by rwa [List.getLast?_cons_cons])
      have hTail := ih hRest
      rw [List.getLast?_cons_cons]
      show entriesOf (line :: appendLine outcome entry (next :: rest)) = _
      unfold entriesOf at hTail ⊢
      rw [List.filterMap_cons, List.filterMap_cons (a := line)]
      cases line.entry? with
      | none => exact hTail
      | some =>
        dsimp only
        rw [hTail, List.cons_append]

theorem appendLine_nothing (lines : List (Line α)) : appendLine .nothing entry lines = lines := by
  induction lines with
  | nil => rfl
  | cons line rest ih =>
    cases rest with
    | nil => cases hEnded : line.ended <;> simp [appendLine, hEnded] <;> rfl
    | cons => rw [appendLine, ih]

/-- Either way of an append, as a reader of the records sees it. -/
theorem entriesOf_appendLine_cases (h : AppendsApart outcome lines) :
    entriesOf (appendLine outcome entry lines) = entriesOf lines ∨
      entriesOf (appendLine outcome entry lines) = entriesOf lines ++ [entry] := by
  by_cases hNothing : outcome = .nothing
  · exact Or.inl (by rw [hNothing, appendLine_nothing])
  rw [entriesOf_appendLine outcome entry (h hNothing)]
  split
  · exact Or.inr rfl
  · exact Or.inl (List.append_nil _)

/-- A record that is written whole to a readable file is the last record of it. -/
theorem entriesOf_appendLine_of_read {outcome : AppendOutcome} (entry : α)
    {entries : List α} (hRead : readLines lines = some entries)
    (h : AppendsApart outcome lines) :
    entriesOf (appendLine outcome entry lines) =
      entriesOf lines ++ (if outcome.isRecord then [entry] else []) := by
  by_cases hNothing : outcome = .nothing
  · rw [hNothing, appendLine_nothing]
    exact (List.append_nil _).symm
  have hEnded : ∀ line ∈ lines.getLast?, line.ended = true := by
    intro line hLast
    have hMem : line ∈ lines := List.mem_of_getLast? hLast
    unfold readLines at hRead
    split at hRead
    next hAll =>
      have hSome := hAll line hMem
      cases line with
      | record found ended =>
        cases ended with
        | true => rfl
        | false => exact absurd hLast (h hNothing found)
      | fragment => cases hSome
    next => cases hRead
  rw [entriesOf_appendLine outcome entry (h hNothing), if_congr (and_iff_left hEnded) rfl rfl]

end QuantApp.Verified
