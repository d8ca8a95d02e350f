import ContractSuite.Scan

namespace ContractSuite

variable {σ α β : Type}

theorem eq_ok_of_toOption {ε : Type} {answer : Except ε α} {a : α} (found : answer.toOption = some a) :
    answer = .ok a := by
  cases answer with
  | error => cases found
  | ok =>
    cases found
    rfl

/-- What an action answers when it begins in a state, and the state that it leaves behind. -/
def Act.runAt (act : Act σ α) (s : σ) : Except SuiteError α × σ :=
  act.run.run s

namespace Act

@[simp] theorem runAt_pure (a : α) (s : σ) : runAt (pure a) s = (.ok a, s) := rfl

@[simp] theorem runAt_throw (error : SuiteError) (s : σ) :
    runAt (throw error : Act σ α) s = (.error error, s) := rfl

@[simp] theorem runAt_get (s : σ) : runAt (get : Act σ σ) s = (.ok s, s) := rfl

@[simp] theorem runAt_lift (x : Except SuiteError α) (s : σ) :
    runAt (liftM x : Act σ α) s = (x, s) := rfl

theorem runAt_bind (act : Act σ α) (next : α → Act σ β) (s : σ) :
    runAt (act >>= next) s = match runAt act s with
      | (.ok a, t) => runAt (next a) t
      | (.error error, t) => (.error error, t) := by
  unfold runAt ExceptT.run StateT.run
  simp only [bind, ExceptT.bind, ExceptT.mk, StateT.bind, ExceptT.bindCont]
  cases act s with
  | mk answer t => cases answer <;> rfl

theorem runAt_bind_of_ok {act : Act σ α} {next : α → Act σ β} {s t : σ} {a : α}
    (run : runAt act s = (.ok a, t)) : runAt (act >>= next) s = runAt (next a) t := by
  rw [runAt_bind, run]

theorem runAt_bind_of_error {act : Act σ α} {next : α → Act σ β} {s t : σ} {error : SuiteError}
    (run : runAt act s = (.error error, t)) : runAt (act >>= next) s = (.error error, t) := by
  rw [runAt_bind, run]

theorem runAt_map (f : α → β) (act : Act σ α) (s : σ) :
    runAt (f <$> act) s = ((runAt act s).1.map f, (runAt act s).2) := by
  rw [← bind_pure_comp, runAt_bind]
  rcases runAt act s with ⟨_ | _, t⟩ <;> rfl

end Act

end ContractSuite
