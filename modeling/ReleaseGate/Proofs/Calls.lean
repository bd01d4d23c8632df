import ReleaseGate.Proofs.Run

/-! The questions an action asks and how it ends, whatever it logs. -/

namespace ReleaseGate

namespace Event

/-- The questions among some events, with their answers. -/
def calls (events : List Event) : List Event := events.filter (·.query?.isSome)

theorem calls_append (first rest : List Event) :
    calls (first ++ rest) = calls first ++ calls rest := List.filter_append ..

end Event

namespace Action

variable {α β : Type} {action : Action α} {calls : List Event}

/-- With these questions and answers the action can end like this, whatever it logs on the way. -/
def Calls (action : Action α) (calls : List Event) (result : Except Failure α) : Prop :=
  ∃ events, action.Runs events result ∧ Event.calls events = calls

@[simp] theorem calls_ofExcept_iff {given result : Except Failure α} :
    (ofExcept given).Calls calls result ↔ calls = [] ∧ result = given := by
  simp only [Calls, runs_ofExcept_iff]
  constructor
  · rintro ⟨_, ⟨rfl, rfl⟩, rfl⟩
    exact ⟨rfl, rfl⟩
  · rintro ⟨rfl, rfl⟩
    exact ⟨[], ⟨rfl, rfl⟩, rfl⟩

@[simp] theorem calls_pure_iff {value : α} {result : Except Failure α} :
    (pure value : Action α).Calls calls result ↔ calls = [] ∧ result = .ok value :=
  calls_ofExcept_iff

@[simp] theorem calls_fail_iff {failure : Failure} {result : Except Failure α} :
    (fail failure).Calls calls result ↔ calls = [] ∧ result = .error failure :=
  calls_ofExcept_iff

/-- What is logged is not a question. -/
@[simp] theorem calls_note_iff {entry : Log.Entry} {next : Action α} {result : Except Failure α} :
    (note entry next).Calls calls result ↔ next.Calls calls result := by
  constructor
  · rintro ⟨_, run, rfl⟩
    obtain ⟨rest, rfl, ended⟩ := runs_note_iff.mp run
    exact ⟨rest, ended, rfl⟩
  · rintro ⟨rest, run, rfl⟩
    exact ⟨_, .note run, rfl⟩

theorem calls_bind_iff {f : α → Action β} {result : Except Failure β} :
    (action >>= f).Calls calls result ↔
      (∃ failure, result = .error failure ∧ action.Calls calls (.error failure)) ∨
      ∃ value first rest, calls = first ++ rest ∧ action.Calls first (.ok value) ∧
        (f value).Calls rest result := by
  simp only [Calls, runs_bind_iff]
  constructor
  · rintro ⟨events, ⟨failure, rfl, run⟩ | ⟨value, first, rest, rfl, run, after⟩, rfl⟩
    · exact .inl ⟨failure, rfl, events, run, rfl⟩
    · exact .inr ⟨value, _, _, Event.calls_append .., ⟨first, run, rfl⟩, rest, after, rfl⟩
  · rintro (⟨failure, rfl, events, run, rfl⟩ |
      ⟨value, _, _, rfl, ⟨first, run, rfl⟩, rest, after, rfl⟩)
    · exact ⟨events, .inl ⟨failure, rfl, run⟩, rfl⟩
    · exact ⟨first ++ rest, .inr ⟨value, first, rest, rfl, run, after⟩, Event.calls_append ..⟩

theorem calls_bind_pure_iff {f : α → β} {result : Except Failure β} :
    (action >>= fun value => pure (f value)).Calls calls result ↔
      ∃ given, action.Calls calls given ∧ result = given.map f := by
  simp only [calls_bind_iff, calls_pure_iff]
  constructor
  · rintro (⟨failure, rfl, run⟩ | ⟨value, first, _, rfl, run, rfl, rfl⟩)
    · exact ⟨_, run, rfl⟩
    · exact ⟨_, by rwa [List.append_nil], rfl⟩
  · rintro ⟨given, run, rfl⟩
    cases given with
    | ok value => exact .inr ⟨value, calls, [], (List.append_nil calls).symm, run, rfl, rfl⟩
    | error failure => exact .inl ⟨failure, rfl, run⟩

theorem calls_get_iff {query : Query} {result : Except Failure query.Answer} :
    (get query).Calls calls result ↔ calls = [.asked query result] := by
  simp only [Calls, runs_get_iff]
  constructor
  · rintro ⟨_, rfl, rfl⟩
    rfl
  · rintro rfl
    exact ⟨_, rfl, rfl⟩

/-- That a failure is logged changes neither the questions nor the failure. -/
@[simp] theorem calls_noting_iff {code : String} {message : Failure → String}
    {result : Except Failure α} :
    (action.noting code message).Calls calls result ↔ action.Calls calls result := by
  simp only [Calls, noting, runs_orElse_iff, error_bind, runs_note_iff, runs_fail_iff]
  constructor
  · rintro ⟨_, ⟨value, rfl, run⟩ | ⟨failure, first, _, rfl, run, _, rfl, rfl, rfl⟩, rfl⟩
    · exact ⟨_, run, rfl⟩
    · exact ⟨first, run, by rw [Event.calls_append]; exact (List.append_nil _).symm⟩
  · rintro ⟨events, run, rfl⟩
    cases result with
    | ok value => exact ⟨events, .inl ⟨value, rfl, run⟩, rfl⟩
    | error failure =>
      refine ⟨_, .inr ⟨failure, events, _, rfl, run, [], rfl, rfl, rfl⟩, ?_⟩
      rw [Event.calls_append]
      exact List.append_nil _

/-- The action asks this question alone and comes to its answer, with its own word for a failure. -/
def AsksOnly {query : Query} (action : Action query.Answer) (tell : Failure → Failure) : Prop :=
  ∀ calls result, action.Calls calls result ↔
    ∃ answer, calls = [.asked query answer] ∧ result = answer.mapError tell

namespace AsksOnly

variable {query : Query} {tell : Failure → Failure} {action : Action query.Answer}

theorem get (query : Query) : AsksOnly (.get query) id := by
  intro calls result
  rw [calls_get_iff]
  constructor
  · rintro rfl
    exact ⟨result, rfl, by cases result <;> rfl⟩
  · rintro ⟨answer, rfl, rfl⟩
    cases answer <;> rfl

theorem noting (only : action.AsksOnly tell) {code : String} {message : Failure → String} :
    (action.noting code message).AsksOnly tell :=
  fun calls result => calls_noting_iff.trans (only calls result)

/-- After the question, nothing is done unless it has an answer. -/
theorem calls_bind_iff (only : action.AsksOnly tell) {f : query.Answer → Action β}
    {result : Except Failure β} :
    (action >>= f).Calls calls result ↔
      (∃ failure, calls = [.asked query (.error failure)] ∧ result = .error (tell failure)) ∨
      ∃ value rest, calls = .asked query (.ok value) :: rest ∧ (f value).Calls rest result := by
  simp only [Action.calls_bind_iff, only _ _]
  constructor
  · rintro (⟨_, rfl, failure | _, rfl, same⟩ | ⟨value, _, rest, rfl, ⟨_ | _, rfl, same⟩, after⟩)
    · cases same
      exact .inl ⟨failure, rfl, rfl⟩
    · cases same
    · cases same
    · cases same
      exact .inr ⟨value, rest, rfl, after⟩
  · rintro (⟨failure, rfl, rfl⟩ | ⟨value, rest, rfl, after⟩)
    · exact .inl ⟨_, rfl, .error failure, rfl, rfl⟩
    · exact .inr ⟨value, [_], rest, rfl, ⟨.ok value, rfl, rfl⟩, after⟩

end AsksOnly

theorem calls_get_bind_iff {query : Query} {f : query.Answer → Action β}
    {result : Except Failure β} :
    (get query >>= f).Calls calls result ↔
      (∃ failure, calls = [.asked query (.error failure)] ∧ result = .error failure) ∨
      ∃ value rest, calls = .asked query (.ok value) :: rest ∧ (f value).Calls rest result :=
  (AsksOnly.get query).calls_bind_iff

theorem calls_noting_get_bind_iff {code : String} {message : Failure → String} {query : Query}
    {f : query.Answer → Action β} {result : Except Failure β} :
    ((get query).noting code message >>= f).Calls calls result ↔
      (∃ failure, calls = [.asked query (.error failure)] ∧ result = .error failure) ∨
      ∃ value rest, calls = .asked query (.ok value) :: rest ∧ (f value).Calls rest result :=
  (AsksOnly.get query).noting.calls_bind_iff

end Action

/-- What services are asked for an action, and what they make of it, is one of the ways in which it
can go. -/
theorem Services.calls_play {α : Type} (services : Services) (action : Action α)
    (start : services.State) :
    action.Calls (Event.calls (services.play action (start, [])).2.2)
      (services.result action start) := by
  obtain ⟨events, played, run⟩ := services.runs_play action start []
  rw [played, List.nil_append]
  exact ⟨events, run, rfl⟩

namespace Action

variable {α : Type} {answers : Answers}

/-- Every question among the events has its one answer. -/
def Keeps (answers : Answers) (events : List Event) : Prop :=
  ∀ query answer, .asked query answer ∈ events → answer = answers query

/-- A run in which every question has its one answer ends as the action does with these answers. -/
theorem outcome_of_runs {action : Action α} {events : List Event} {result : Except Failure α}
    (run : action.Runs events result) (keeps : Keeps answers events) :
    action.outcome answers = result := by
  induction run with
  | done result => rfl
  | note run ih => exact ih fun query answer among => keeps query answer (.tail _ among)
  | @ask query next events result answer run ih =>
    obtain rfl := keeps query answer List.mem_cons_self
    exact ih fun query answer among => keeps query answer (.tail _ among)

theorem outcome_of_calls {action : Action α} {calls : List Event} {result : Except Failure α}
    (went : action.Calls calls result) (keeps : Keeps answers calls) :
    action.outcome answers = result := by
  obtain ⟨events, run, rfl⟩ := went
  refine outcome_of_runs run fun query answer among => keeps query answer ?_
  exact List.mem_filter.mpr ⟨among, rfl⟩

/-- With services that always give these answers, an action has a run in which every question has
its one answer. -/
theorem runs_steady (answers : Answers) (action : Action α) (before : List Event) :
    ∃ events, ((Services.steady answers).play action ((), before)).2.2 = before ++ events ∧
      action.Runs events (action.outcome answers) ∧ Keeps answers events := by
  induction action generalizing before with
  | done result => exact ⟨[], (List.append_nil before).symm, .done result, by simp [Keeps]⟩
  | note entry next ih =>
    obtain ⟨events, played, run, keeps⟩ := ih (before ++ [.noted entry])
    refine ⟨.noted entry :: events, ?_, .note run, ?_⟩
    · exact played.trans (List.append_assoc ..)
    · simpa [Keeps] using keeps
  | ask query next ih =>
    obtain ⟨events, played, run, keeps⟩ :=
      ih (answers query) (before ++ [.asked query (answers query)])
    refine ⟨.asked query (answers query) :: events, ?_, .ask _ run, ?_⟩
    · exact played.trans (List.append_assoc ..)
    · simp only [Keeps, List.mem_cons, Event.asked.injEq]
      rintro _ _ (⟨rfl, same⟩ | among)
      · exact eq_of_heq same
      · exact keeps _ _ among

theorem filterMap_calls (events : List Event) :
    (Event.calls events).filterMap Event.query? = events.filterMap Event.query? := by
  induction events with
  | nil => rfl
  | cons event events ih =>
    cases event with
    | noted entry => exact ih
    | asked query answer => exact congrArg (query :: ·) ih

/-- What an action asks, and what it comes to, when every question has its one answer. -/
theorem calls_steady (answers : Answers) (action : Action α) :
    ∃ calls, action.Calls calls (action.outcome answers) ∧ Keeps answers calls ∧
      (Services.steady answers).asked action () = calls.filterMap Event.query? := by
  obtain ⟨events, played, run, keeps⟩ := runs_steady answers action []
  refine ⟨Event.calls events, ⟨events, run, rfl⟩, ?_, ?_⟩
  · intro query answer among
    exact keeps query answer (List.mem_filter.mp among).1
  · rw [filterMap_calls]
    exact congrArg (List.filterMap Event.query?) played

end Action

end ReleaseGate
