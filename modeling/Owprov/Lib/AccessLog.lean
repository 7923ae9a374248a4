import Mathlib.Data.List.Basic

/-!
# Logs of accessed records

A computation that may fail, with the records that it has accessed by then.  A failure keeps the
log; the records of a sequence are those of its parts, as far as it comes.
-/

namespace AccessLog

structure Logged (ε ρ α : Type) where
  result : Except ε α
  accessed : List ρ

variable {ε ρ α β : Type}

instance : Monad (Logged ε ρ) where
  pure value := ⟨.ok value, []⟩
  bind first next :=
    match first.result with
    | .error failure => ⟨.error failure, first.accessed⟩
    | .ok value => ⟨(next value).result, first.accessed ++ (next value).accessed⟩

/-- Steps that access nothing. -/
instance : MonadLift (Except ε) (Logged ε ρ) where
  monadLift step := ⟨step, []⟩

/-- A failure, which a handler may catch; what was accessed before stays in the log. -/
instance : MonadExceptOf ε (Logged ε ρ) where
  throw failure := ⟨.error failure, []⟩
  tryCatch attempt handler :=
    match attempt.result with
    | .ok _ => attempt
    | .error failure =>
        ⟨(handler failure).result, attempt.accessed ++ (handler failure).accessed⟩

/-- The records are accessed. -/
def touch (records : List ρ) : Logged ε ρ Unit :=
  ⟨.ok (), records⟩

/-- A lookup, which accesses the record that it finds. -/
def look (record : α → ρ) (found : Option α) : Logged ε ρ (Option α) :=
  ⟨.ok found, (found.map record).toList⟩

@[simp]
theorem result_pure (value : α) : (pure value : Logged ε ρ α).result = .ok value := rfl

@[simp]
theorem result_throw (failure : ε) : (throw failure : Logged ε ρ α).result = .error failure := rfl

end AccessLog
