import ReleaseGate.Action.Basic

/-! Actions are a lawful monad, and running one follows its steps. -/

namespace ReleaseGate.Action

variable {α β γ : Type}

theorem bind_eq (action : Action α) (f : α → Action β) : action >>= f = action.bind f := rfl

theorem bind_assoc_steps (action : Action α) (f : α → Action β) (g : β → Action γ) :
    (action.bind f).bind g = action.bind fun value => (f value).bind g := by
  induction action with
  | done result => cases result <;> rfl
  | note entry next ih => simp only [bind, ih]
  | ask query next ih => simp only [bind, ih]

theorem bind_pure_steps (action : Action α) :
    action.bind (fun value => done (.ok value)) = action := by
  induction action with
  | done result => cases result <;> rfl
  | note entry next ih => simp only [bind, ih]
  | ask query next ih => simp only [bind, ih]

instance : LawfulMonad Action :=
  LawfulMonad.mk' Action
    (fun action => by
      simp only [Functor.map, Function.comp_def, id]
      exact bind_pure_steps action)
    (fun _ _ => rfl)
    (fun action f g => bind_assoc_steps action f g)

variable {m : Type → Type} [Monad m] [LawfulMonad m]
  (answer : (query : Query) → m (Except Failure query.Answer)) (log : Log.Entry → m Unit)

/-- Running two actions in turn is running the first and then, unless it failed, the second. -/
theorem run_bind (action : Action α) (f : α → Action β) :
    (action >>= f).run answer log = (action.run answer log >>= fun
      | .ok value => (f value).run answer log
      | .error failure => pure (.error failure)) := by
  rw [bind_eq]
  induction action with
  | done result => cases result <;> simp only [bind, run, pure_bind]
  | note entry next ih => simp only [bind, run, ih, bind_assoc]
  | ask query next ih => simp only [bind, run, ih, bind_assoc]

/-- What is done about a failure is done after it, and nothing is done after success. -/
theorem run_orElse (action : Action α) (f : Failure → Action α) :
    (action.orElse f).run answer log = (action.run answer log >>= fun
      | .ok value => pure (.ok value)
      | .error failure => (f failure).run answer log) := by
  induction action with
  | done result => cases result <;> simp only [orElse, run, pure_bind]
  | note entry next ih => simp only [orElse, run, ih, bind_assoc]
  | ask query next ih => simp only [orElse, run, ih, bind_assoc]

end ReleaseGate.Action
