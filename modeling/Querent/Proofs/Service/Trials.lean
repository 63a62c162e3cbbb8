import Querent.Proofs.Service.Dealings

/-!
# Trials

A trial is an attempt at a text together with the entry that is recorded about it.  The gateway and
the database decide how it ends; the entry then tells the truth about it, with the canonical text if
that was executed and with the text itself if it was not.
-/

namespace Querent.Service

/-- What an execution comes to. -/
def Attempt.ofAnswer (sql : String) : Except String ResultSet → Attempt
  | .ok result => .answered sql result
  | .error message => .failed sql message

/-- What an attempt at a text comes to, given what the database answers. -/
def Attempt.ofText (dialect : Sql.Dialect) (execute : String → Except String ResultSet)
    (text : String) : Attempt :=
  match Sql.validate dialect text with
  | .ok sql => .ofAnswer sql (execute sql)
  | .error rejection => .rejected rejection

theorem Attempt.ofText_of_ok {dialect : Sql.Dialect} {text sql : String}
    (admitted : Sql.validate dialect text = .ok sql) (execute : String → Except String ResultSet) :
    ofText dialect execute text = ofAnswer sql (execute sql) := by
  rw [ofText, admitted]

theorem Attempt.ofText_of_error {dialect : Sql.Dialect} {text : String} {rejection : Sql.Rejection}
    (rejected : Sql.validate dialect text = .error rejection)
    (execute : String → Except String ResultSet) :
    ofText dialect execute text = .rejected rejection := by
  rw [ofText, rejected]

/-- What an attempt executes, and what comes of it. -/
def Attempt.executed : Attempt → List Deed
  | answered sql result => [.executed sql (.ok result)]
  | rejected _ => []
  | failed sql message => [.executed sql (.error message)]

/-- An attempt at a text for a prompt, and what is recorded about it. -/
structure Trial where
  prompt : String
  text : String
  attempt : Attempt
  entry : HistoryEntry

namespace Trial

/-- What is dealt in a trial: it is recorded after it was executed, if it was. -/
def deeds (trial : Trial) : List Deed :=
  trial.attempt.executed ++ [.recorded trial.entry]

/-- Whether the entry tells the truth about the attempt. -/
def Truthful (trial : Trial) : Prop :=
  trial.entry.prompt = trial.prompt ∧
    match trial.attempt with
    | .answered sql result =>
      trial.entry.sql = sql ∧ trial.entry.status = .success ∧ trial.entry.errorMessage = none ∧
        trial.entry.resultCount = result.table.rows.length ∧
        trial.entry.milliseconds = result.milliseconds
    | .rejected rejection =>
      trial.entry.sql = trial.text ∧ trial.entry.status = .rejected ∧
        trial.entry.errorMessage = some rejection.message ∧ trial.entry.resultCount = 0
    | .failed sql message =>
      trial.entry.sql = sql ∧ trial.entry.status = .error ∧
        trial.entry.errorMessage = some message ∧ trial.entry.resultCount = 0

/-- Whether a trial is what the gateway and the database make of its text after so many calls. -/
structure Genuine (server : Server) (calls : Calls) (trial : Trial) : Prop where
  attempt_eq : trial.attempt =
    .ofText server.settings.database.dialect (server.outside.execute calls.executions) trial.text
  truthful : trial.Truthful

end Trial

variable {server : Server} {calls : Calls}

theorem deals_recordAnswer (prompt sql : String) (result : ResultSet) :
    Deals server calls (Attempt.recordAnswer prompt sql result) fun _ dealt =>
      ∃ entry, dealt = [.recorded entry] ∧
        ∀ text, Trial.Truthful ⟨prompt, text, .answered sql result, entry⟩ :=
  idle_now.before fun _ => (deals_record _).mono fun _ _ recording =>
    ⟨_, recording, fun _ => ⟨rfl, rfl, rfl, rfl, rfl, rfl⟩⟩

theorem deals_recordFailure (prompt sql : String) (status : AttemptStatus) (message : String)
    (started : ClockReading) :
    Deals server calls (Attempt.recordFailure prompt sql status message started) fun _ dealt =>
      ∃ milliseconds moment,
        dealt = [.recorded (.failure prompt sql status message milliseconds moment)] :=
  idle_now.before fun _ => (deals_record _).mono fun _ _ recording => ⟨_, _, recording⟩

/-- Executing a query that was let through. -/
theorem deals_attempt_execute (prompt text sql : String) (started : ClockReading) :
    Deals server calls (Attempt.execute prompt sql started) fun attempt dealt =>
      attempt = .ofAnswer sql (server.outside.execute calls.executions sql) ∧
        ∃ entry, Trial.Truthful ⟨prompt, text, attempt, entry⟩ ∧
          dealt = Trial.deeds ⟨prompt, text, attempt, entry⟩ := by
  refine (deals_execute sql).bind ?_
  rintro outcome _ ⟨same, rfl⟩
  rw [← same]
  cases outcome with
  | ok result =>
      refine (deals_recordAnswer prompt sql result).bind ?_
      rintro _ _ ⟨entry, rfl, truthful⟩
      exact .pure ⟨rfl, entry, truthful text, rfl⟩
  | error message =>
      refine (deals_recordFailure prompt sql .error message started).bind ?_
      rintro _ _ ⟨milliseconds, moment, rfl⟩
      exact .pure ⟨rfl, _, ⟨rfl, rfl, rfl, rfl, rfl⟩, rfl⟩

/-- An attempt is a trial: it ends as the gateway and the database decide, and is recorded once. -/
theorem deals_run (prompt text : String) (started : ClockReading) (announce : String → Work Unit)
    (idle : ∀ sql, Idle server (announce sql)) :
    Deals server calls (Attempt.run prompt text started announce) fun attempt dealt =>
      ∃ entry, Trial.Genuine server calls ⟨prompt, text, attempt, entry⟩ ∧
        dealt = Trial.deeds ⟨prompt, text, attempt, entry⟩ := by
  refine deals_dialect.bind ?_
  rintro _ _ ⟨rfl, rfl⟩
  refine (deals_logged _).bind ?_
  rintro verdict _ ⟨sameVerdict, rfl⟩
  rw [Log.Logged.result, Sql.watchedVerdict_fst] at sameVerdict
  simp only [List.nil_append, Calls.after_nil]
  cases verdict with
  | ok sql =>
      refine (idle sql).before fun _ => (deals_attempt_execute prompt text sql started).mono ?_
      rintro attempt _ ⟨same, entry, truthful, rfl⟩
      exact ⟨entry, ⟨same.trans (Attempt.ofText_of_ok sameVerdict.symm _).symm, truthful⟩, rfl⟩
  | error rejection =>
      refine (deals_recordFailure prompt text .rejected rejection.message started).bind ?_
      rintro _ _ ⟨milliseconds, moment, rfl⟩
      exact .pure ⟨_, ⟨(Attempt.ofText_of_error sameVerdict.symm _).symm, rfl, rfl, rfl, rfl, rfl⟩,
        rfl⟩

end Querent.Service
