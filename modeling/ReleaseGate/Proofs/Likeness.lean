import Mathlib.Data.List.Forall2
import ReleaseGate.Proofs.Run

/-! Two actions side by side. Actions that are alike and are answered alike leave logs that are
alike and end alike, whatever happens on the way. -/

namespace ReleaseGate

/-- In what two actions may differ. `asks` tells which questions may stand for each other, and which
answers to them count as alike. -/
structure Likeness where
  asks : (one other : Query) →
    (Except Failure one.Answer → Except Failure other.Answer → Prop) → Prop
  notes : Log.Entry → Log.Entry → Prop
  failures : Failure → Failure → Prop

namespace Likeness

variable {α β γ δ : Type} (like : Likeness)

/-- Both end well, with values alike, or both fail alike. -/
inductive Results (values : α → β → Prop) : Except Failure α → Except Failure β → Prop
  | ok {one : α} {other : β} : values one other → Results values (.ok one) (.ok other)
  | error {one other : Failure} :
      like.failures one other → Results values (.error one) (.error other)

/-- The actions take the same steps, and the steps are alike. -/
inductive Actions (values : α → β → Prop) : Action α → Action β → Prop
  | done {one : Except Failure α} {other : Except Failure β} :
      like.Results values one other → Actions values (.done one) (.done other)
  | note {one other : Log.Entry} {next : Action α} {next' : Action β} :
      like.notes one other → Actions values next next' →
      Actions values (.note one next) (.note other next')
  | ask {one other : Query}
      {answers : Except Failure one.Answer → Except Failure other.Answer → Prop}
      {next : Except Failure one.Answer → Action α}
      {next' : Except Failure other.Answer → Action β} :
      like.asks one other answers →
      (∀ answer answer', answers answer answer' → Actions values (next answer) (next' answer')) →
      Actions values (.ask one next) (.ask other next')

/-- Everything is like itself. -/
structure Reflexive : Prop where
  asks : ∀ query, like.asks query query (· = ·)
  notes : ∀ entry, like.notes entry entry
  failures : ∀ failure, like.failures failure failure

variable {like} {values : α → β → Prop} {others : γ → δ → Prop}

theorem Actions.followed {one : Action α} {other : Action β} {f : Except Failure α → Action γ}
    {g : Except Failure β → Action δ} (h : like.Actions values one other)
    (after : ∀ result result', like.Results values result result' →
      like.Actions others (f result) (g result')) :
    like.Actions others (one.followed f) (other.followed g) := by
  induction h with
  | done results => exact after _ _ results
  | note notes _ ih => exact .note notes ih
  | ask asks _ ih => exact .ask asks ih

theorem Actions.bind {one : Action α} {other : Action β} {f : α → Action γ} {g : β → Action δ}
    (h : like.Actions values one other)
    (after : ∀ value value', values value value' → like.Actions others (f value) (g value')) :
    like.Actions others (one >>= f) (other >>= g) := by
  rw [Action.bind_eq_followed, Action.bind_eq_followed]
  apply h.followed
  intro result result' results
  cases results with
  | ok same => exact after _ _ same
  | error same => exact .done (.error same)

theorem Actions.orElse {one other : Action α} {same : α → α → Prop} {f g : Failure → Action α}
    (h : like.Actions same one other)
    (after : ∀ failure failure', like.failures failure failure' →
      like.Actions same (f failure) (g failure')) :
    like.Actions same (one.orElse f) (other.orElse g) := by
  rw [Action.orElse_eq_followed, Action.orElse_eq_followed]
  apply h.followed
  intro result result' results
  cases results with
  | ok same => exact .done (.ok same)
  | error same => exact after _ _ same

theorem Actions.mono {one : Action α} {other : Action β} {wider : α → β → Prop}
    (h : like.Actions values one other)
    (le : ∀ value value', values value value' → wider value value') :
    like.Actions wider one other := by
  induction h with
  | done results =>
    cases results with
    | ok same => exact .done (.ok (le _ _ same))
    | error same => exact .done (.error same)
  | note notes _ ih => exact .note notes ih
  | ask asks _ ih => exact .ask asks ih

theorem Actions.refl (like : Likeness) (h : like.Reflexive) (action : Action α) :
    like.Actions (· = ·) action action := by
  induction action with
  | done result =>
    cases result with
    | ok value => exact .done (.ok rfl)
    | error failure => exact .done (.error (h.failures failure))
  | note entry next ih => exact .note (h.notes entry) ih
  | ask query next ih =>
    apply Actions.ask (h.asks query)
    rintro answer _ rfl
    exact ih answer

/-- Two companies of services that answer alike what is asked alike, as long as their states are
alike. -/
structure Companies (like : Likeness) (one other : Services)
    (states : one.State → other.State → Prop) : Prop where
  answers : ∀ {query query' : Query} {answers}, like.asks query query' answers →
    ∀ state state', states state state' →
      answers (one.answer query state).1 (other.answer query' state').1 ∧
      states (one.answer query state).2 (other.answer query' state').2

theorem Companies.steady {one other : Answers}
    (h : ∀ {query query' : Query} {answers}, like.asks query query' answers →
      answers (one query) (other query')) :
    Companies like (.steady one) (.steady other) fun state state' : Unit => state = state' :=
  ⟨fun asks _ _ same => ⟨h asks, same⟩⟩

/-- Entries that are alike, or questions that may stand for each other with answers alike. -/
inductive Events : Event → Event → Prop
  | noted {one other : Log.Entry} : like.notes one other → Events (.noted one) (.noted other)
  | asked {query query' : Query} {answers} {answer : Except Failure query.Answer}
      {answer' : Except Failure query'.Answer} : like.asks query query' answers →
      answers answer answer' → Events (.asked query answer) (.asked query' answer')

theorem entries_alike {events events' : List Event} (h : List.Forall₂ like.Events events events') :
    List.Forall₂ like.notes (Event.entries events) (Event.entries events') := by
  induction h with
  | nil => exact .nil
  | cons alike _ ih =>
    cases alike with
    | noted notes => exact .cons notes ih
    | asked => exact ih

/-- What is alike before two actions that are alike is alike after them. -/
theorem Actions.play {one other : Services} {states : one.State → other.State → Prop}
    (companies : Companies like one other states) {action : Action α} {action' : Action β}
    (h : like.Actions values action action') {state : one.State} {state' : other.State}
    {events events' : List Event} (hs : states state state')
    (he : List.Forall₂ like.Events events events') :
    like.Results values (one.play action (state, events)).1
      (other.play action' (state', events')).1 ∧
    states (one.play action (state, events)).2.1 (other.play action' (state', events')).2.1 ∧
    List.Forall₂ like.Events (one.play action (state, events)).2.2
      (other.play action' (state', events')).2.2 := by
  induction h generalizing state state' events events' with
  | done results => exact ⟨results, hs, he⟩
  | note notes _ ih =>
    rw [Services.play_note, Services.play_note]
    exact ih hs (List.rel_append he (.cons (.noted notes) .nil))
  | ask asks _ ih =>
    rw [Services.play_ask, Services.play_ask]
    obtain ⟨same, next⟩ := companies.answers asks state state' hs
    exact ih _ _ same next (List.rel_append he (.cons (.asked asks same) .nil))

end Likeness

end ReleaseGate
