import Querent.History.Usage

/-!
# Calls on a history

A history is used through calls, in any order and any number.  Seen from outside it is the list of all
entries that were ever recorded, of which the latest ones show, the newest first and at most as many
as the capacity: this says what every call answers and what is left in the end.
-/

namespace Querent.History

/-- A call on a history. -/
inductive Call where
  | record (entry : HistoryEntry)
  | recent (limit : Nat)
  | usage
  | size
  | isEmpty

/-- What a call answers. -/
inductive Answer where
  | done
  | entries (entries : List HistoryEntry)
  | usage (usage : Usage)
  | size (n : Nat)
  | isEmpty (empty : Bool)

namespace Call

/-- The entry that a call records. -/
def recorded? : Call → Option HistoryEntry
  | record entry => some entry
  | _ => none

/-- Makes a call: its answer and the history after it. -/
def make (history : History) : Call → Answer × History
  | record entry => (.done, history.record entry)
  | recent limit => (.entries (history.recent limit), history)
  | usage => (.usage history.usage, history)
  | size => (.size history.size, history)
  | isEmpty => (.isEmpty history.isEmpty, history)

/-- Makes calls one after the other: their answers and the history after them. -/
def makeAll (history : History) : List Call → List Answer × History
  | [] => ([], history)
  | call :: rest =>
    let (answer, after) := call.make history
    let (answers, last) := makeAll after rest
    (answer :: answers, last)

/-- The entries that calls record, in the order of the calls. -/
def recorded (calls : List Call) : List HistoryEntry :=
  calls.filterMap recorded?

/-- What a call answers when so many entries may show and those given were recorded before. -/
def expected (capacity : Nat) (recorded : List HistoryEntry) : Call → Answer
  | record _ => .done
  | recent limit =>
    .entries (recorded.reverse.take (min limit (min capacity recorded.length)))
  | usage => .usage (.ofEntries (recorded.reverse.take capacity))
  | size => .size (min capacity recorded.length)
  | isEmpty => .isEmpty (decide (min capacity recorded.length = 0))

/-- A call changes the history only by what it records. -/
theorem make_snd (history : History) (call : Call) :
    (call.make history).2 = call.recorded?.elim history history.record := by
  cases call with
  | record entry => rfl
  | recent limit => rfl
  | usage => rfl
  | size => rfl
  | isEmpty => rfl

end Call

/-- The history in which the latest of the given entries show. -/
def showing (capacity : Nat) (recorded : List HistoryEntry) : History :=
  ⟨capacity, recorded.reverse.take capacity⟩

@[simp]
theorem showing_nil (capacity : Nat) : showing capacity [] = empty capacity := by
  simp [showing, empty]

@[simp]
theorem size_showing (capacity : Nat) (recorded : List HistoryEntry) :
    (showing capacity recorded).size = min capacity recorded.length := by
  simp [showing, size]

@[simp]
theorem isEmpty_showing (capacity : Nat) (recorded : List HistoryEntry) :
    (showing capacity recorded).isEmpty = decide (min capacity recorded.length = 0) := by
  rw [← size_showing, isEmpty, size]
  cases (showing capacity recorded).entries <;> simp

/-- The place of an entry among those that show tells how many were recorded after it. -/
theorem getElem?_entries_showing (capacity i : Nat) (recorded : List HistoryEntry) :
    (showing capacity recorded).entries[i]? =
      if i < min capacity recorded.length then recorded[recorded.length - 1 - i]? else none := by
  by_cases shows : i < min capacity recorded.length
  · have kept : i < capacity := by omega
    have known : i < recorded.length := by omega
    rw [if_pos shows, showing, List.getElem?_take, if_pos kept, List.getElem?_reverse known]
  · have few : (showing capacity recorded).entries.length ≤ i :=
      Nat.le_trans (Nat.le_of_eq (size_showing capacity recorded)) (Nat.le_of_not_lt shows)
    rw [if_neg shows, List.getElem?_eq_none few]

theorem recent_showing (capacity limit : Nat) (recorded : List HistoryEntry) :
    (showing capacity recorded).recent limit =
      recorded.reverse.take (min limit (min capacity recorded.length)) := by
  rw [recent, showing, List.take_take, List.take_eq_take_iff, List.length_reverse]
  omega

/-- The oldest entry makes room for a new one just when the capacity is used up. -/
theorem record_showing (capacity : Nat) (recorded : List HistoryEntry) (entry : HistoryEntry) :
    (showing capacity recorded).record entry = showing capacity (recorded ++ [entry]) := by
  cases capacity with
  | zero => rfl
  | succ room =>
    have kept : (if (recorded.reverse.take (room + 1)).length == room + 1
        then (recorded.reverse.take (room + 1)).dropLast
        else recorded.reverse.take (room + 1)) = recorded.reverse.take room := by
      split
      next full =>
        have exactly : (recorded.reverse.take (room + 1)).length = room + 1 := by simpa using full
        rw [List.dropLast_eq_take, exactly, List.take_take]
        simp
      next unfilled =>
        rw [List.take_eq_take_iff]
        simp only [List.length_take, beq_iff_eq] at unfilled
        omega
    have newest : (recorded ++ [entry]).reverse.take (room + 1) =
        entry :: recorded.reverse.take room := by
      simp
    simp only [showing, newest, ← kept]
    rfl

/-- A call answers as expected, and what it records is the newest entry that shows after it. -/
theorem make_showing (capacity : Nat) (recorded : List HistoryEntry) (call : Call) :
    call.make (showing capacity recorded) =
      (call.expected capacity recorded,
        showing capacity (recorded ++ call.recorded?.toList)) := by
  cases call with
  | record entry => simp [Call.make, Call.expected, Call.recorded?, record_showing]
  | recent limit => simp [Call.make, Call.expected, Call.recorded?, recent_showing]
  | usage => simp [Call.make, Call.expected, Call.recorded?, History.usage, showing]
  | size => simp [Call.make, Call.expected, Call.recorded?]
  | isEmpty => simp [Call.make, Call.expected, Call.recorded?]

theorem makeAll_showing (capacity : Nat) (recorded : List HistoryEntry) (calls : List Call) :
    (Call.makeAll (showing capacity recorded) calls).2 =
        showing capacity (recorded ++ Call.recorded calls) ∧
      ∀ i, (Call.makeAll (showing capacity recorded) calls).1[i]? =
        calls[i]?.map (Call.expected capacity (recorded ++ Call.recorded (calls.take i))) := by
  induction calls generalizing recorded with
  | nil => simp [Call.makeAll, Call.recorded]
  | cons call rest ih =>
    have first (later : List Call) : recorded ++ Call.recorded (call :: later) =
        recorded ++ call.recorded?.toList ++ Call.recorded later := by
      rw [List.append_assoc]
      congr 1
      cases call <;> rfl
    obtain ⟨last, answers⟩ := ih (recorded ++ call.recorded?.toList)
    simp only [Call.makeAll, make_showing]
    refine ⟨by rw [last, first], fun i => ?_⟩
    cases i with
    | zero => simp [Call.recorded]
    | succ i => simp only [List.getElem?_cons_succ, List.take_succ_cons, answers, first]

/--
However many calls are made, and in whatever order, on a history that starts without entries: each
answers what it should, given the entries that the calls before it recorded; in the end the latest
entries are left, each in the place that the number of later entries gives it; and a call that
records nothing changes nothing.
-/
theorem makeAll_empty (capacity : Nat) (calls : List Call) :
    let recorded := Call.recorded calls
    let result := Call.makeAll (empty capacity) calls
    (∀ i, result.1[i]? =
        calls[i]?.map (Call.expected capacity (Call.recorded (calls.take i)))) ∧
      result.2.capacity = capacity ∧
      result.2.entries.length = min capacity recorded.length ∧
      (∀ i, result.2.entries[i]? =
        if i < min capacity recorded.length then recorded[recorded.length - 1 - i]? else none) ∧
      ∀ call : Call,
        (call.make result.2).2 = call.recorded?.elim result.2 result.2.record := by
  obtain ⟨last, answers⟩ := makeAll_showing capacity [] calls
  rw [showing_nil] at last answers
  intro recorded result
  refine ⟨by simpa using answers, ?_, ?_, ?_, ?_⟩
  · rw [last]
    rfl
  · rw [last]
    exact size_showing capacity recorded
  · intro i
    rw [last]
    exact getElem?_entries_showing capacity i recorded
  · exact Call.make_snd _

end Querent.History
