import SchemaScope.Repository

/-!
Repositories that answer from a script. No function of the program reaches this
module: only a test driver uses it.
-/

namespace SchemaScope.Simulation

/-- What a script says about a question. -/
inductive Reply (α : Type) where
  /-- Nothing: the repository answers no more than it must. -/
  | silent
  /-- Whoever asks is broken off. -/
  | brokenOff
  | answered (outcome : Outcome α)

/-- A script: what is replied to each question, and which questions wait at a
gate first. -/
structure Script where
  dialect : Dialect := .postgres
  gated : Call → Bool
  reply : (call : Call) → Reply call.Answer

end SchemaScope.Simulation
