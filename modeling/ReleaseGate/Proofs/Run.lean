import ReleaseGate.Action.Laws

/-! What an action does, seen from outside. A run is one way through an action, whatever the
services answer; services that answer from a state of their own pick one run. -/

namespace ReleaseGate

/-- An entry in the log, or a question with its answer. -/
inductive Event where
  | noted (entry : Log.Entry)
  | asked (query : Query) (answer : Except Failure query.Answer)

namespace Event

def entry? : Event → Option Log.Entry
  | noted entry => some entry
  | asked .. => none

def query? : Event → Option Query
  | noted _ => none
  | asked query _ => some query

/-- The log of some events. -/
def entries (events : List Event) : List Log.Entry := events.filterMap entry?

theorem entries_append (first rest : List Event) :
    entries (first ++ rest) = entries first ++ entries rest :=
  List.filterMap_append

end Event

/-- An answer to every question, always the same one. -/
abbrev Answers := (query : Query) → Except Failure query.Answer

namespace Action

variable {α β : Type}

theorem error_bind (code message : String) (f : Unit → Action β) :
    error code message >>= f = note ⟨.error, code, message⟩ (f ()) := rfl

theorem info_bind (code message : String) (f : Unit → Action β) :
    info code message >>= f = note ⟨.info, code, message⟩ (f ()) := rfl

theorem debug_bind (code message : String) (f : Unit → Action β) :
    debug code message >>= f = note ⟨.debug, code, message⟩ (f ()) := rfl

/-- The events of a run, in order, and what it ends with. -/
inductive Runs : Action α → List Event → Except Failure α → Prop
  | done (result : Except Failure α) : Runs (.done result) [] result
  | note {entry : Log.Entry} {next : Action α} {events : List Event} {result : Except Failure α} :
      Runs next events result → Runs (.note entry next) (.noted entry :: events) result
  | ask {query : Query} {next : Except Failure query.Answer → Action α} {events : List Event}
      {result : Except Failure α} (answer : Except Failure query.Answer) :
      Runs (next answer) events result →
      Runs (.ask query next) (.asked query answer :: events) result

theorem runs_done_iff {result wanted : Except Failure α} {events : List Event} :
    Runs (done wanted) events result ↔ events = [] ∧ result = wanted := by
  constructor
  · intro run
    cases run
    exact ⟨rfl, rfl⟩
  · rintro ⟨rfl, rfl⟩
    exact .done _

theorem runs_pure_iff {value : α} {events : List Event} {result : Except Failure α} :
    Runs (pure value) events result ↔ events = [] ∧ result = .ok value :=
  runs_done_iff

theorem runs_fail_iff {failure : Failure} {events : List Event} {result : Except Failure α} :
    Runs (fail failure) events result ↔ events = [] ∧ result = .error failure :=
  runs_done_iff

theorem runs_ofExcept_iff {given result : Except Failure α} {events : List Event} :
    Runs (ofExcept given) events result ↔ events = [] ∧ result = given :=
  runs_done_iff

theorem runs_note_iff {entry : Log.Entry} {next : Action α} {events : List Event}
    {result : Except Failure α} :
    Runs (note entry next) events result ↔
      ∃ rest, events = .noted entry :: rest ∧ Runs next rest result := by
  constructor
  · intro run
    cases run with
    | note rest => exact ⟨_, rfl, rest⟩
  · rintro ⟨rest, rfl, run⟩
    exact .note run

theorem runs_ask_iff {query : Query} {next : Except Failure query.Answer → Action α}
    {events : List Event} {result : Except Failure α} :
    Runs (ask query next) events result ↔
      ∃ answer rest, events = .asked query answer :: rest ∧ Runs (next answer) rest result := by
  constructor
  · intro run
    cases run with
    | ask answer rest => exact ⟨answer, _, rfl, rest⟩
  · rintro ⟨answer, rest, rfl, run⟩
    exact .ask answer run

theorem runs_get_iff {query : Query} {events : List Event} {result : Except Failure query.Answer} :
    Runs (get query) events result ↔ events = [.asked query result] := by
  simp only [get, runs_ask_iff, runs_ofExcept_iff]
  constructor
  · rintro ⟨answer, rest, rfl, rfl, rfl⟩
    rfl
  · rintro rfl
    exact ⟨result, [], rfl, rfl, rfl⟩

/-- What comes after an action, however it ends. -/
def followed : Action α → (Except Failure α → Action β) → Action β
  | done result, f => f result
  | note entry next, f => note entry (next.followed f)
  | ask query next, f => ask query fun answer => (next answer).followed f

theorem bind_eq_followed (action : Action α) (f : α → Action β) :
    action >>= f = action.followed fun
      | .ok value => f value
      | .error failure => fail failure := by
  rw [bind_eq]
  induction action with
  | done result => cases result <;> rfl
  | note entry next ih => simp only [bind, followed, ih]
  | ask query next ih => simp only [bind, followed, ih]

theorem orElse_eq_followed (action : Action α) (f : Failure → Action α) :
    action.orElse f = action.followed fun
      | .ok value => pure value
      | .error failure => f failure := by
  induction action with
  | done result => cases result <;> rfl
  | note entry next ih => simp only [orElse, followed, ih]
  | ask query next ih => simp only [orElse, followed, ih]

theorem runs_followed_iff {action : Action α} {f : Except Failure α → Action β}
    {events : List Event} {result : Except Failure β} :
    Runs (action.followed f) events result ↔
      ∃ given first rest, events = first ++ rest ∧ Runs action first given ∧
        Runs (f given) rest result := by
  induction action generalizing events with
  | done given =>
    simp only [followed, runs_done_iff]
    constructor
    · intro run
      exact ⟨given, [], events, rfl, ⟨rfl, rfl⟩, run⟩
    · rintro ⟨_, _, rest, rfl, ⟨rfl, rfl⟩, run⟩
      exact run
  | note entry next ih =>
    simp only [followed, runs_note_iff, ih]
    constructor
    · rintro ⟨rest, rfl, given, first, last, rfl, run, runs⟩
      exact ⟨given, .noted entry :: first, last, rfl, ⟨first, rfl, run⟩, runs⟩
    · rintro ⟨given, _, last, rfl, ⟨first, rfl, run⟩, runs⟩
      exact ⟨first ++ last, rfl, given, first, last, rfl, run, runs⟩
  | ask query next ih =>
    simp only [followed, runs_ask_iff, ih]
    constructor
    · rintro ⟨answer, rest, rfl, given, first, last, rfl, run, runs⟩
      exact ⟨given, .asked query answer :: first, last, rfl, ⟨answer, first, rfl, run⟩, runs⟩
    · rintro ⟨given, _, last, rfl, ⟨answer, first, rfl, run⟩, runs⟩
      exact ⟨answer, first ++ last, rfl, given, first, last, rfl, run, runs⟩

/-- Of two actions in turn the second runs if the first ends well, and it runs last. -/
theorem runs_bind_iff {action : Action α} {f : α → Action β} {events : List Event}
    {result : Except Failure β} :
    Runs (action >>= f) events result ↔
      (∃ failure, result = .error failure ∧ Runs action events (.error failure)) ∨
      ∃ value first rest, events = first ++ rest ∧ Runs action first (.ok value) ∧
        Runs (f value) rest result := by
  rw [bind_eq_followed, runs_followed_iff]
  constructor
  · rintro ⟨given, first, rest, rfl, run, runs⟩
    cases given with
    | ok value => exact .inr ⟨value, first, rest, rfl, run, runs⟩
    | error failure =>
      obtain ⟨rfl, rfl⟩ := runs_fail_iff.mp runs
      exact .inl ⟨failure, rfl, by simpa using run⟩
  · rintro (⟨failure, rfl, run⟩ | ⟨value, first, rest, rfl, run, runs⟩)
    · exact ⟨.error failure, events, [], by simp, run, .done _⟩
    · exact ⟨.ok value, first, rest, rfl, run, runs⟩

/-- What is done about a failure comes after it. -/
theorem runs_orElse_iff {action : Action α} {f : Failure → Action α} {events : List Event}
    {result : Except Failure α} :
    Runs (action.orElse f) events result ↔
      (∃ value, result = .ok value ∧ Runs action events (.ok value)) ∨
      ∃ failure first rest, events = first ++ rest ∧ Runs action first (.error failure) ∧
        Runs (f failure) rest result := by
  rw [orElse_eq_followed, runs_followed_iff]
  constructor
  · rintro ⟨given, first, rest, rfl, run, runs⟩
    cases given with
    | ok value =>
      obtain ⟨rfl, rfl⟩ := runs_pure_iff.mp runs
      exact .inl ⟨value, rfl, by simpa using run⟩
    | error failure => exact .inr ⟨failure, first, rest, rfl, run, runs⟩
  · rintro (⟨value, rfl, run⟩ | ⟨failure, first, rest, rfl, run, runs⟩)
    · exact ⟨.ok value, events, [], by simp, run, .done _⟩
    · exact ⟨.error failure, first, rest, rfl, run, runs⟩

/-- What an action comes to when every question has one answer. -/
def outcome (action : Action α) (answers : Answers) : Except Failure α :=
  Id.run (action.run (fun query => pure (answers query)) fun _ => pure ())

section Outcome

variable (answers : Answers)

@[simp] theorem outcome_pure (value : α) :
    (pure value : Action α).outcome answers = .ok value := rfl

@[simp] theorem outcome_fail (failure : Failure) :
    (fail failure : Action α).outcome answers = .error failure := rfl

@[simp] theorem outcome_ofExcept (result : Except Failure α) :
    (ofExcept result).outcome answers = result := rfl

@[simp] theorem outcome_note (entry : Log.Entry) (next : Action α) :
    (note entry next).outcome answers = next.outcome answers := rfl

@[simp] theorem outcome_get (query : Query) : (get query).outcome answers = answers query := rfl

theorem outcome_followed (action : Action α) (f : Except Failure α → Action β) :
    (action.followed f).outcome answers = (f (action.outcome answers)).outcome answers := by
  induction action with
  | done result => rfl
  | note entry next ih => exact ih
  | ask query next ih => exact ih (answers query)

theorem outcome_bind (action : Action α) (f : α → Action β) :
    (action >>= f).outcome answers =
      (action.outcome answers).bind fun value => (f value).outcome answers := by
  rw [bind_eq_followed, outcome_followed]
  cases action.outcome answers <;> rfl

@[simp] theorem outcome_noting (code : String) (message : Failure → String) (action : Action α) :
    (action.noting code message).outcome answers = action.outcome answers := by
  unfold noting
  rw [orElse_eq_followed, outcome_followed]
  cases action.outcome answers <;> rfl

variable {answers}

theorem outcome_bind_eq_ok {action : Action α} {f : α → Action β} {value : β} :
    (action >>= f).outcome answers = .ok value ↔
      ∃ first, action.outcome answers = .ok first ∧ (f first).outcome answers = .ok value := by
  rw [outcome_bind]
  cases action.outcome answers with
  | ok first => simp [Except.bind]
  | error failure => simp [Except.bind]

end Outcome

end Action

/-- Services that answer from a state of their own, which a question may change. -/
structure Services where
  State : Type
  answer : (query : Query) → State → Except Failure query.Answer × State

namespace Services

/-- Services without a state, which answer a question always in the same way. -/
def steady (answers : Answers) : Services := ⟨Unit, fun query state => (answers query, state)⟩

variable {α β : Type} (services : Services)

/-- An action carried out with these services, keeping the events. -/
def play (action : Action α) : StateM (services.State × List Event) (Except Failure α) :=
  action.run
    (fun query before =>
      let (answer, state) := services.answer query before.1
      (answer, state, before.2 ++ [.asked query answer]))
    (fun entry before => ((), before.1, before.2 ++ [.noted entry]))

/-- The log that an action leaves when the services start in a given state. -/
def log (action : Action α) (start : services.State) : List Log.Entry :=
  Event.entries (services.play action (start, [])).2.2

/-- What an action ends with when the services start in a given state. -/
def result (action : Action α) (start : services.State) : Except Failure α :=
  (services.play action (start, [])).1

/-- The questions that an action asks when the services start in a given state. -/
def asked (action : Action α) (start : services.State) : List Query :=
  (services.play action (start, [])).2.2.filterMap Event.query?

theorem play_note (entry : Log.Entry) (next : Action α) (state : services.State)
    (events : List Event) :
    services.play (.note entry next) (state, events) =
      services.play next (state, events ++ [.noted entry]) := rfl

theorem play_ask (query : Query) (next : Except Failure query.Answer → Action α)
    (state : services.State) (events : List Event) :
    services.play (.ask query next) (state, events) =
      services.play (next (services.answer query state).1) ((services.answer query state).2,
        events ++ [.asked query (services.answer query state).1]) := rfl

/-- What follows an action starts where the action ended. -/
theorem play_followed (action : Action α) (f : Except Failure α → Action β)
    (before : services.State × List Event) :
    services.play (action.followed f) before =
      services.play (f (services.play action before).1) (services.play action before).2 := by
  obtain ⟨state, events⟩ := before
  induction action generalizing state events with
  | done result => rfl
  | note entry next ih => rw [Action.followed, play_note, play_note, ih]
  | ask query next ih => rw [Action.followed, play_ask, play_ask, ih]

theorem play_bind_ok {action : Action α} {before : services.State × List Event} {value : α}
    (h : (services.play action before).1 = .ok value) (f : α → Action β) :
    services.play (action >>= f) before =
      services.play (f value) (services.play action before).2 := by
  rw [Action.bind_eq_followed, play_followed, h]

theorem play_bind_error {action : Action α} {before : services.State × List Event}
    {failure : Failure} (h : (services.play action before).1 = .error failure)
    (f : α → Action β) :
    services.play (action >>= f) before = (.error failure, (services.play action before).2) := by
  rw [Action.bind_eq_followed, play_followed, h]
  rfl

/-- Whatever is proved of all runs holds of an action that services carry out. -/
theorem runs_play (action : Action α) (state : services.State) (before : List Event) :
    ∃ events, (services.play action (state, before)).2.2 = before ++ events ∧
      action.Runs events (services.play action (state, before)).1 := by
  induction action generalizing state before with
  | done result => exact ⟨[], by rw [List.append_nil]; rfl, .done result⟩
  | note entry next ih =>
    rw [play_note]
    obtain ⟨events, he, run⟩ := ih state (before ++ [.noted entry])
    exact ⟨.noted entry :: events, by simpa using he, .note run⟩
  | ask query next ih =>
    rw [play_ask]
    obtain ⟨events, he, run⟩ := ih (services.answer query state).1 (services.answer query state).2
      (before ++ [.asked query (services.answer query state).1])
    exact ⟨.asked query (services.answer query state).1 :: events, by simpa using he, .ask _ run⟩

end Services

end ReleaseGate
