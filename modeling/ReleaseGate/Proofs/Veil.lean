import ReleaseGate.Proofs.Leeway

/-! What a caller learns of a failure. The detail that a service gives of one goes to the log. -/

namespace ReleaseGate

/-- Failures of one service, or of the file system, that differ in their detail at most. -/
inductive Failure.Veiled : Failure → Failure → Prop
  | same (failure : Failure) : Veiled failure failure
  | backend (name detail detail' : String) : Veiled (.backend name detail) (.backend name detail')
  | io (detail detail' : String) : Veiled (.io detail) (.io detail')

/-- A caller cannot tell such failures apart. -/
theorem Failure.Veiled.answer_eq {one other : Failure} (h : Veiled one other) :
    one.answer = other.answer := by
  cases h <;> rfl

/-- The services answer the same, but for the detail of failures, and for bodies that are alike. -/
def Leeway.detail (bodies : Body → Body → Prop) : Leeway where
  failures := Failure.Veiled
  credentials := (· = ·)
  installations := (· = ·)
  bodies := bodies
  notes _ _ := True

theorem Leeway.detail_lawful (bodies : Body → Body → Prop) : (detail bodies).Lawful :=
  ⟨.same, fun _ => trivial, fun _ _ _ _ => trivial⟩

namespace Gateway

variable {gateway : Gateway} {one other : Services} {states : one.State → other.State → Prop}

/-- Two runs of a task whose services differ in the detail of their failures, and in the bodies of
artifacts, are one to the caller: both end well, with values that differ in such bodies at most, or
both fail, and the caller is told the same. -/
theorem detail_hidden (bodies : Body → Body → Prop)
    (companies : Likeness.Companies (Leeway.detail bodies).likeness one other states)
    {start : one.State} {start' : other.State} (h : states start start') (task : Task) :
    (∃ value value', one.result (gateway.carryOut task) start = .ok value ∧
      other.result (gateway.carryOut task) start' = .ok value' ∧
      (Leeway.detail bodies).Values task value value') ∨
    ∃ failure failure', one.result (gateway.carryOut task) start = .error failure ∧
      other.result (gateway.carryOut task) start' = .error failure' ∧
      failure.answer = failure'.answer := by
  have results := (Leeway.play_carryOut_alike (Leeway.detail_lawful bodies) gateway companies h
    task).1
  generalize one.result (gateway.carryOut task) start = result at results ⊢
  generalize other.result (gateway.carryOut task) start' = result' at results ⊢
  cases results with
  | ok alike => exact .inl ⟨_, _, rfl, rfl, alike⟩
  | error veiled => exact .inr ⟨_, _, rfl, rfl, Failure.Veiled.answer_eq veiled⟩

def catalogFailed (detail : String) : Failure := .backend "upstream catalog" detail

/-- A remote catalog that knows the latest release of every product, and can list none. -/
def unlisted (detail : String) : Answers
  | .latestVersion .. => .ok "18.2.7"
  | .versions .. => .error (catalogFailed detail)
  | _ => .error .noCandidates

theorem unlisted_companies (detail detail' : String) (bodies : Body → Body → Prop) :
    Likeness.Companies (Leeway.detail bodies).likeness (.steady (unlisted detail))
      (.steady (unlisted detail')) fun state state' : Unit => state = state' := by
  apply Likeness.Companies.steady
  intro query query' answers asks
  cases asks with
  | @common query common =>
    cases query with
    | latestVersion => rfl
    | versions => exact .backend ..
    | customers | portalDownload | assumeRole | object => cases common
    | _ => exact .same _
  | customers | portalDownload | assumeRole | object => exact .same _

def chefLatest : Task := .request .latestVersion "" { channel := .stable, product := "chef" }

/-- What the task comes to when it is the opensource persona's. -/
def runUnlisted (detail : String) (task : Task) : Except Failure task.Answer :=
  (Services.steady (unlisted detail)).result ((plain .opensource).carryOut task) ()

/-- The latest release is hidden from the opensource persona, and the listing that is to replace it
fails: why it does is not told. -/
theorem listing_detail_hidden :
    runUnlisted "reset" chefLatest = .error (catalogFailed "reset") ∧
      runUnlisted "timed out" chefLatest = .error (catalogFailed "timed out") ∧
      (catalogFailed "reset").answer = (catalogFailed "timed out").answer := by
  have failed : runUnlisted "reset" chefLatest = .error (catalogFailed "reset") := rfl
  have failed' : runUnlisted "timed out" chefLatest = .error (catalogFailed "timed out") := rfl
  obtain ⟨_, _, ended, _⟩ | ⟨_, _, ended, ended', told⟩ :=
    @detail_hidden (plain .opensource) _ _ _ (fun _ _ => True)
      (unlisted_companies "reset" "timed out" _) () () rfl chefLatest
  · cases failed.symm.trans ended
  · obtain rfl := Except.error.inj (failed.symm.trans ended)
    obtain rfl := Except.error.inj (failed'.symm.trans ended')
    exact ⟨failed, failed', told⟩

end Gateway

end ReleaseGate
