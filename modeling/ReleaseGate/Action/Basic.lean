import ReleaseGate.Action.Query
import ReleaseGate.Log

namespace ReleaseGate

/-- Work that asks the services behind the gateway, keeps a log, and ends with a value or a
failure. -/
inductive Action (α : Type) where
  | done (result : Except Failure α)
  | note (entry : Log.Entry) (next : Action α)
  | ask (query : Query) (next : Except Failure query.Answer → Action α)

namespace Action

variable {α β : Type}

/-- A failure ends the work. -/
def bind : Action α → (α → Action β) → Action β
  | done (.ok value), f => f value
  | done (.error failure), _ => done (.error failure)
  | note entry next, f => note entry (next.bind f)
  | ask query next, f => ask query fun answer => (next answer).bind f

instance : Monad Action where
  pure value := done (.ok value)
  bind := bind

def fail (failure : Failure) : Action α := done (.error failure)

def ofExcept (result : Except Failure α) : Action α := done result

/-- What to do about a failure. -/
def orElse : Action α → (Failure → Action α) → Action α
  | done (.ok value), _ => done (.ok value)
  | done (.error failure), f => f failure
  | note entry next, f => note entry (next.orElse f)
  | ask query next, f => ask query fun answer => (next answer).orElse f

def info (code message : String) : Action Unit := note ⟨.info, code, message⟩ (pure ())

def warn (code message : String) : Action Unit := note ⟨.warn, code, message⟩ (pure ())

def error (code message : String) : Action Unit := note ⟨.error, code, message⟩ (pure ())

def debug (code message : String) : Action Unit := note ⟨.debug, code, message⟩ (pure ())

/-- The answer to a question. -/
def get (query : Query) : Action query.Answer := ask query ofExcept

/-- A failure is logged on its way. -/
def noting (code : String) (message : Failure → String) (action : Action α) : Action α :=
  action.orElse fun failure => do
    error code (message failure)
    fail failure

/-- The work done by `answer`, which answers the questions, and `log`, which keeps the log. -/
def run {m : Type → Type} [Monad m] (answer : (query : Query) → m (Except Failure query.Answer))
    (log : Log.Entry → m Unit) : Action α → m (Except Failure α)
  | done result => pure result
  | note entry next => do
    log entry
    next.run answer log
  | ask query next => do
    let result ← answer query
    (next result).run answer log

end Action

end ReleaseGate
