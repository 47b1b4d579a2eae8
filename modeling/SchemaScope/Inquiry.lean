import SchemaScope.Repository

/-!
Inquiries: sequences of questions to a repository, in which the next question
may depend on the answers so far. An inquiry that has been given some answers is
again an inquiry.
-/

namespace SchemaScope

/-- A sequence of questions that ends in a result. -/
inductive Inquiry (α : Type) where
  | done (result : Outcome α)
  | ask (call : Call) (next : Outcome call.Answer → Inquiry α)

namespace Inquiry

variable {α β : Type}

/-- Go on with the value of an inquiry. An error ends it. -/
def bind : Inquiry α → (α → Inquiry β) → Inquiry β
  | done (.ok a), f => f a
  | done (.error e), _ => done (.error e)
  | ask call next, f => ask call fun outcome => (next outcome).bind f

instance : Monad Inquiry where
  pure a := done (.ok a)
  bind := bind

def question (call : Call) : Inquiry call.Answer := ask call done

/-- Ask a question that need not be offered. -/
def optional (call : Call) : Inquiry (Option call.Answer) :=
  ask call fun
    | .ok a => done (.ok (some a))
    | .error e =>
      if e.isNotImplemented then done (.ok none) else done (.error e)

def run (answer : (c : Call) → Outcome c.Answer) : Inquiry α → Outcome α
  | done result => result
  | ask call next => (next (answer call)).run answer

/-- The questions that are asked, in order. -/
def calls (answer : (c : Call) → Outcome c.Answer) : Inquiry α → List Call
  | done _ => []
  | ask call next => call :: (next (answer call)).calls answer

theorem run_bind (answer : (c : Call) → Outcome c.Answer) (q : Inquiry α)
    (f : α → Inquiry β) :
    (q.bind f).run answer =
      match q.run answer with
      | .ok a => (f a).run answer
      | .error e => .error e := by
  induction q with
  | done result => cases result <;> rfl
  | ask call next ih => exact ih (answer call)

end Inquiry

end SchemaScope
