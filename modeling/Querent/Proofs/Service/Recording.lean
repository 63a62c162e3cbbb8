import Querent.Proofs.Service.Answering

/-!
# What is recorded

The history tells what became of the submitted texts.  Every text that the assistant writes and every
posted query is tried once, and every trial leaves one entry that tells the truth about it; nothing
else is executed or recorded.  This is proved for every request, and by induction for every list of
requests.
-/

namespace Querent.Service

/-! ## Outcomes -/

/-- Whether a deed is an execution or the recording of an entry. -/
def Deed.isOutcome : Deed → Bool
  | executed _ _ | recorded _ => true
  | _ => false

/-- The executions and recordings among some deeds, in their order. -/
def outcomes (done : List Deed) : List Deed :=
  done.filter Deed.isOutcome

@[simp]
theorem outcomes_append (first second : List Deed) :
    outcomes (first ++ second) = outcomes first ++ outcomes second :=
  List.filter_append ..

theorem outcomes_dealings (done : List Deed) : outcomes (dealings done) = outcomes done := by
  rw [outcomes, outcomes, dealings, List.filter_filter]
  congr 1
  funext deed
  cases deed <;> rfl

theorem filterMap_historyEntry_outcomes (done : List Deed) :
    (outcomes done).filterMap Deed.historyEntry = done.filterMap Deed.historyEntry := by
  rw [outcomes, List.filterMap_filter]
  congr 1
  funext deed
  cases deed <;> rfl

namespace Trial

theorem outcomes_deeds (trial : Trial) : outcomes trial.deeds = trial.deeds := by
  obtain ⟨prompt, text, attempt, entry⟩ := trial
  cases attempt <;> rfl

theorem filterMap_historyEntry_deeds (trials : List Trial) :
    (trials.flatMap deeds).filterMap Deed.historyEntry = trials.map entry := by
  induction trials with
  | nil => rfl
  | cons trial rest ih =>
      rw [List.flatMap_cons, List.filterMap_append, ih, List.map_cons]
      obtain ⟨prompt, text, attempt, entry⟩ := trial
      cases attempt <;> rfl

/-- Whether the gateway decides about the text of a trial as the attempt has it. -/
def Judged (dialect : Sql.Dialect) (trial : Trial) : Prop :=
  match trial.attempt with
  | .answered sql _ | .failed sql _ => Sql.validate dialect trial.text = .ok sql
  | .rejected rejection => Sql.validate dialect trial.text = .error rejection

theorem Genuine.judged {server : Server} {calls : Calls} {trial : Trial}
    (genuine : trial.Genuine server calls) : trial.Judged server.settings.database.dialect := by
  obtain ⟨prompt, text, attempt, entry⟩ := trial
  have decided := genuine.attempt_eq
  cases verdict : Sql.validate server.settings.database.dialect text with
  | error rejection =>
      rw [Attempt.ofText_of_error verdict] at decided
      cases decided
      exact verdict
  | ok sql =>
      rw [Attempt.ofText_of_ok verdict] at decided
      cases ended : server.outside.execute calls.executions sql <;>
        (rw [ended] at decided; cases decided; exact verdict)

end Trial

/-! ## Rounds -/

namespace Round

/-- The trial in a round, if the assistant wrote anything. -/
def trial? : Round → Option Trial
  | unanswered _ _ => none
  | tried _ trial => some trial

theorem map_text_trials (rounds : List Round) :
    (rounds.filterMap trial?).map Trial.text =
      (rounds.flatMap deeds).filterMap Deed.reply? := by
  induction rounds with
  | nil => rfl
  | cons round rest ih =>
      rw [List.flatMap_cons, List.filterMap_append, ← ih]
      cases round with
      | unanswered request error => rfl
      | tried request trial =>
          obtain ⟨prompt, text, attempt, entry⟩ := trial
          cases attempt <;> rfl

theorem outcomes_deeds (rounds : List Round) :
    outcomes (rounds.flatMap deeds) = (rounds.filterMap trial?).flatMap Trial.deeds := by
  induction rounds with
  | nil => rfl
  | cons round rest ih =>
      rw [List.flatMap_cons, outcomes_append, ih]
      cases round with
      | unanswered request error => rfl
      | tried request trial =>
          have calm : outcomes (tried request trial).deeds = trial.deeds := trial.outcomes_deeds
          rw [calm]
          rfl

theorem readSchema_notMem_deeds (round : Round) (outcome : Except String String) :
    .readSchema outcome ∉ round.deeds := by
  cases round with
  | unanswered request error => simp [deeds]
  | tried request trial =>
      obtain ⟨prompt, text, attempt, entry⟩ := trial
      cases attempt <;> simp [deeds, Trial.deeds, Attempt.executed]

end Round

/-- A dialogue keeps to its question. -/
theorem Dialogue.question_eq {server : Server} {limit : Nat} {calls : Calls} {request : SqlRequest}
    {rounds : List Round} (dialogue : Dialogue server limit calls request rounds) :
    ∀ round ∈ rounds, round.request.question = request.question := by
  intro round member
  obtain ⟨i, inside, rfl⟩ := List.getElem_of_mem member
  cases i with
  | zero => rw [dialogue.starts]
  | succ i => rw [(dialogue.continues i inside).2]

/-- The trials of a dialogue are genuine trials for its question. -/
theorem Dialogue.trials {server : Server} {limit : Nat} {calls : Calls} {request : SqlRequest}
    {rounds : List Round} (dialogue : Dialogue server limit calls request rounds) :
    ∀ trial ∈ rounds.filterMap Round.trial?, trial.prompt = request.question ∧
      ∃ calls, trial.Genuine server calls := by
  intro trial member
  obtain ⟨round, isRound, tries⟩ := List.mem_filterMap.1 member
  obtain ⟨i, inside, same⟩ := List.getElem_of_mem isRound
  have genuine := dialogue.genuine i inside
  rw [same] at genuine
  cases round with
  | unanswered request error => cases tries
  | tried asked tried =>
      cases tries
      obtain ⟨_, prompted, tried⟩ := genuine
      exact ⟨prompted.trans (dialogue.question_eq _ isRound), _, tried⟩

/-! ## Accounts -/

/-- Whether a prompt belongs to a request: the question that it asks, or that a query comes with. -/
def Prompts (request : Http.Request) (prompt : String) : Prop :=
  asked? request = some prompt ∨ (postedBody? request).map QueryBody.prompt = some prompt

/-- Whether trials account for all that is executed and recorded in responding to a request. -/
structure Accounts (dialect : Sql.Dialect) (request : Http.Request) (done : List Deed)
    (trials : List Trial) : Prop where
  /-- Every submitted text is tried once, in the order of submission. -/
  texts : trials.map Trial.text = submitted request done
  /-- What is executed and recorded is what is executed and recorded in the trials. -/
  outcomes_eq : outcomes done = trials.flatMap Trial.deeds
  /-- The gateway decides what is executed, and every entry tells the truth. -/
  judged : ∀ trial ∈ trials, trial.Judged dialect
  truthful : ∀ trial ∈ trials, trial.Truthful
  prompted : ∀ trial ∈ trials, Prompts request trial.prompt
  /-- A blank question and a schema that cannot be read lead to no trial. -/
  blank : asked? request = some "" → trials = []
  schemaless : ∀ error, .readSchema (.error error) ∈ done → trials = []

namespace Accounts

variable {dialect : Sql.Dialect} {request : Http.Request} {done : List Deed} {trials : List Trial}

/-- No trial accounts for deeds in which nothing is submitted, executed or recorded. -/
theorem nothing (silent : submitted request done = []) (calm : outcomes done = []) :
    Accounts dialect request done [] where
  texts := silent.symm
  outcomes_eq := calm
  judged := by simp
  truthful := by simp
  prompted := by simp
  blank := fun _ => rfl
  schemaless := fun _ _ => rfl

/-- Accounts of the dealings are accounts of all deeds. -/
theorem of_dealings (accounts : Accounts dialect request (dealings done) trials) :
    Accounts dialect request done trials where
  texts := by
    have unseen (deed : Deed) (other : deed.isDealing = false) : deed.reply? = none := by
      cases deed <;> first | rfl | cases other
    rw [accounts.texts]
    unfold submitted
    rw [filterMap_dealings unseen]
  outcomes_eq := by rw [← outcomes_dealings, accounts.outcomes_eq]
  judged := accounts.judged
  truthful := accounts.truthful
  prompted := accounts.prompted
  blank := accounts.blank
  schemaless := fun error member =>
    accounts.schemaless error (List.mem_filter.2 ⟨member, rfl⟩)

/-- The entries that are recorded are those of the trials. -/
theorem entries (accounts : Accounts dialect request done trials) :
    done.filterMap Deed.historyEntry = trials.map Trial.entry := by
  rw [← filterMap_historyEntry_outcomes, accounts.outcomes_eq, Trial.filterMap_historyEntry_deeds]

/-- A posted query is accounted for by one trial. -/
theorem posted {server : Server} {calls : Calls} {body : QueryBody} {trial : Trial}
    (posts : postedBody? request = some body) (prompted : trial.prompt = body.prompt)
    (tries : trial.text = body.query) (genuine : trial.Genuine server calls) :
    Accounts server.settings.database.dialect request trial.deeds [trial] where
  texts := by
    obtain ⟨reached, decoded⟩ := carried?_eq_some_iff.1 posts
    simp only [submitted, reached, posted?, decoded, Except.toOption, Option.map_some,
      Option.toList_some, List.map_cons, List.map_nil, tries]
  outcomes_eq := by rw [trial.outcomes_deeds, List.flatMap_singleton]
  judged := by simpa using genuine.judged
  truthful := by simpa using genuine.truthful
  prompted := by
    intro other member
    obtain rfl := List.mem_singleton.1 member
    exact .inr (by rw [posts, Option.map_some, prompted])
  blank := by
    intro asks
    obtain ⟨_, carried, _⟩ := Option.map_eq_some_iff.1 asks
    obtain ⟨reached, _⟩ := carried?_eq_some_iff.1 posts
    rw [(carried?_eq_some_iff.1 carried).1] at reached
    cases reached
  schemaless := by
    intro error member
    obtain ⟨prompt, text, attempt, entry⟩ := trial
    cases attempt <;> simp [Trial.deeds, Attempt.executed] at member

/-- A question is accounted for by the trials of its dialogue. -/
theorem asked {server : Server} {calls : Calls} {question : String} {response : Http.Response}
    (asks : asked? request = some question)
    (answers : Answers server calls question response done) :
    ∃ trials, Accounts server.settings.database.dialect request done trials := by
  obtain ⟨body, carried, _⟩ := Option.map_eq_some_iff.1 asks
  obtain ⟨reached, _⟩ := carried?_eq_some_iff.1 carried
  have submits (done : List Deed) : submitted request done = done.filterMap Deed.reply? := by
    simp only [submitted, reached]
  cases answers with
  | blank blank => exact ⟨[], nothing (submits _) rfl⟩
  | schemaless asked unknown => exact ⟨[], nothing (submits _) rfl⟩
  | @discussed schema earlier final asked known dialogue =>
      have genuine := dialogue.trials
      generalize earlier ++ [final] = rounds at genuine ⊢
      refine ⟨rounds.filterMap Round.trial?, ?_, ?_, ?_, ?_, ?_, ?_, ?_⟩
      · rw [submits, Round.map_text_trials]
        rfl
      · exact Round.outcomes_deeds rounds
      · intro trial member
        obtain ⟨_, _, tried⟩ := genuine trial member
        exact tried.judged
      · intro trial member
        obtain ⟨_, _, tried⟩ := genuine trial member
        exact tried.truthful
      · intro trial member
        exact .inl (by rw [asks, (genuine trial member).1])
      · intro blank
        rw [asks] at blank
        exact absurd (Option.some.inj blank) asked
      · intro error member
        rcases List.mem_cons.1 member with same | inRounds
        · cases same
        · obtain ⟨round, _, isDeed⟩ := List.mem_flatMap.1 inRounds
          exact absurd isDeed (round.readSchema_notMem_deeds _)

end Accounts

variable {server : Server} {calls : Calls}

/-- An endpoint that deals nothing leaves a request without dealings. -/
theorem deals_respond_of_idle {request : Http.Request} {endpoint : Endpoint}
    (reached : reached? request = some endpoint) (idle : Idle server (endpoint.respond request)) :
    Deals server calls (respond request) fun _ dealt => dealt = [] :=
  (deals_respond reached idle.deals).mono fun _ _ ⟨_, _, nothing⟩ => nothing

theorem deals_respondSchema :
    Deals server calls respondSchema fun _ dealt => ∃ outcome, dealt = [.readSchema outcome] := by
  refine deals_schema.bind ?_
  rintro outcome _ ⟨_, rfl⟩
  cases outcome with
  | ok text => exact .pure ⟨_, rfl⟩
  | error error =>
      refine (idle_note _ _).before fun _ => ?_
      exact .pure ⟨_, rfl⟩

/-- Trials account for all that is dealt in responding to a request. -/
theorem deals_accounted (request : Http.Request) :
    Deals server calls (respond request) fun _ dealt =>
      ∃ trials, Accounts server.settings.database.dialect request dealt trials := by
  have calm (silent : submitted request [] = [])
      (deals : Deals server calls (respond request) fun _ dealt => dealt = []) :
      Deals server calls (respond request) fun _ dealt =>
        ∃ trials, Accounts server.settings.database.dialect request dealt trials := by
    refine deals.mono ?_
    rintro _ _ rfl
    exact ⟨[], .nothing silent rfl⟩
  cases reached : reached? request with
  | none =>
      exact calm (by simp only [submitted, reached]) (deals_respond_of_unreached reached)
  | some endpoint =>
      by_cases isAsk : endpoint = .ask
      · subst isAsk
        cases decoded : decodeBody (Json.Decoder.record QuestionBody.shape) request with
        | ok body =>
            have asks : asked? request = some (trimmed body.question) := by
              rw [asked?, carried?_eq_some_iff.2 ⟨reached, decoded⟩, Option.map_some]
            exact (deals_asked asks).mono fun _ _ answers => Accounts.asked asks answers
        | error refusal =>
            refine calm (by simp only [submitted, reached, List.filterMap_nil])
              (deals_respond_of_idle reached ?_)
            simp only [Endpoint.respond, decoded, responding]
            exact .pure _
      by_cases isQuery : endpoint = .query
      · subst isQuery
        cases decoded : decodeBody (Json.Decoder.record QueryBody.shape) request with
        | ok body =>
            have posts : postedBody? request = some body :=
              carried?_eq_some_iff.2 ⟨reached, decoded⟩
            refine (deals_posted posts).mono ?_
            rintro _ _ ⟨attempt, entry, genuine, rfl, _⟩
            exact ⟨_, .posted posts rfl rfl genuine⟩
        | error refusal =>
            refine calm ?_ (deals_respond_of_idle reached ?_)
            · simp only [submitted, reached, posted?, decoded, Except.toOption, Option.map_none,
                Option.toList_none]
            · simp only [Endpoint.respond, decoded, responding]
              exact .pure _
      have silent (done : List Deed) : submitted request done = [] := by
        cases endpoint <;> first | contradiction | simp only [submitted, reached]
      by_cases isSchema : endpoint = .schema
      · subst isSchema
        refine (deals_respond reached deals_respondSchema).mono ?_
        rintro _ _ ⟨_, _, outcome, rfl⟩
        exact ⟨[], .nothing (silent _) rfl⟩
      exact calm (silent _) (deals_respond_of_idle reached
        (idle_endpoint request isAsk isQuery isSchema))

/-! ## Runs -/

namespace Server

/-- A run leaves the session after the deeds of its steps. -/
theorem ending_eq_after (server : Server) (session : Session) (requests : List Http.Request) :
    server.ending session requests =
      session.after ((server.steps session requests).flatMap Prod.snd) := by
  induction requests generalizing session with
  | nil => simp [ending, run, steps]
  | cons request rest ih =>
      obtain ⟨done, after, -⟩ := server.step_spec session request
      rw [ending_cons, ih, steps, List.flatMap_cons, Session.after_append, after,
        Session.deeds_after, List.drop_left]

/-- In every step of a run, trials account for all that is executed and recorded. -/
theorem exists_accounts (server : Server) (session : Session) (requests : List Http.Request) :
    ∃ trials, List.Forall₂
      (fun step tried => Accounts server.settings.database.dialect step.1 step.2 tried)
      (server.steps session requests) trials := by
  induction requests generalizing session with
  | nil => exact ⟨[], .nil⟩
  | cons request rest ih =>
      obtain ⟨response, done, stepped, tried, accounts⟩ :=
        step_of_deals (@deals_accounted server session.calls request)
      obtain ⟨later, accountsLater⟩ := ih (server.step session request).2
      refine ⟨tried :: later, .cons ?_ accountsLater⟩
      rw [stepped, Session.deeds_after, List.drop_left]
      exact accounts.of_dealings

theorem entries_of_accounts {dialect : Sql.Dialect} {steps : List (Http.Request × List Deed)}
    {trials : List (List Trial)}
    (accounts : List.Forall₂ (fun step tried => Accounts dialect step.1 step.2 tried) steps trials) :
    (steps.flatMap Prod.snd).filterMap Deed.historyEntry = trials.flatten.map Trial.entry := by
  induction accounts with
  | nil => rfl
  | cons accounts _ ih =>
      rw [List.flatMap_cons, List.filterMap_append, accounts.entries, ih, List.flatten_cons,
        List.map_append]

/--
The entries that are recorded in a run, from the start of a session and for whatever the assistant
and the database answer, are those of the trials that account for its steps: one for each submitted
text, in the order of submission, each of them true.  The history is made of these entries alone.
-/
theorem recorded_eq_entries (server : Server) (requests : List Http.Request) :
    ∃ trials : List (List Trial),
      List.Forall₂
        (fun step tried => Accounts server.settings.database.dialect step.1 step.2 tried)
        (server.steps (.start server) requests) trials ∧
      (server.steps (.start server) requests).map Prod.fst = requests ∧
      (server.ending (.start server) requests).deeds =
        (server.steps (.start server) requests).flatMap Prod.snd ∧
      (server.ending (.start server) requests).deeds.filterMap Deed.historyEntry =
        trials.flatten.map Trial.entry ∧
      (server.ending (.start server) requests).history =
        (trials.flatten.map Trial.entry).foldl History.record
          (.empty server.settings.historyCapacity) := by
  obtain ⟨trials, accounts⟩ := server.exists_accounts (.start server) requests
  have entries := entries_of_accounts accounts
  have deeds := server.deeds_ending (.start server) requests
  refine ⟨trials, accounts, server.requests_steps _ _, deeds, ?_, ?_⟩
  · rw [deeds, ← entries]
    rfl
  · rw [ending_eq_after, ← entries]
    rfl

end Server

end Querent.Service
