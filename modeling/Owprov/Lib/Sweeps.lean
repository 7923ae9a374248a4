import Mathlib.Algebra.BigOperators.Group.List.Basic
import Mathlib.Algebra.GroupWithZero.Nat
import Mathlib.Data.List.Perm.Basic

/-!
# Sweeps over running work

A thread starts pieces of work one by one.  After each start it sweeps up the pieces that it sees
over, and it sweeps once more when nothing runs any longer.  What a sweep takes out goes into a
tally.
-/

namespace Sweeps

variable {σ τ : Type*}

/-- One sweep over the running pieces. -/
def sweep (isOver : σ → Bool) (add : τ → σ → τ) : List σ → τ → List σ × τ
  | [], tally => ([], tally)
  | piece :: running, tally =>
      if isOver piece then
        sweep isOver add running (add tally piece)
      else
        let (kept, swept) := sweep isOver add running tally
        (piece :: kept, swept)

/-- Each piece is started and followed by a sweep. -/
def startAll (isOver : ℕ → σ → Bool) (add : τ → σ → τ) : ℕ → List σ → List σ → τ → List σ × τ
  | _, [], running, tally => (running, tally)
  | pass, piece :: waiting, running, tally =>
      let (kept, swept) := sweep (isOver pass) add (running ++ [piece]) tally
      startAll isOver add (pass + 1) waiting kept swept

/-- All pieces are started, and the last sweep takes out what it can. -/
def run (isOver : ℕ → σ → Bool) (last : σ → Bool) (add : τ → σ → τ) (pieces : List σ)
    (start : τ) : List σ × τ :=
  let started := startAll isOver add 0 pieces [] start
  sweep last add started.1 started.2

section Runs

variable {add : τ → σ → τ}

end Runs

/-! ## What a tally holds -/

section Tallies

variable {α : Type*} (add : τ → σ → τ) (taken : List σ) (start : τ)

end Tallies

end Sweeps
