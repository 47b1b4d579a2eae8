import SchemaScope.Proofs.Inquiry

/-!
What is asked to learn the topology of a database: five questions in a fixed
order, until an answer leaves nothing to go on with. Main statement: whatever
has been answered so far, either none of it was fatal and the next question
follows, or only the last answer was fatal and its error is the result.
-/

namespace SchemaScope

namespace Inquiry

variable {α : Type}

/-- The error of a reply that ends the questions about a topology. The names
of databases need not be offered. -/
def Reply.fatal? : Reply → Option SchemaError
  | ⟨.currentDatabase, .error e⟩ | ⟨.databases, .error e⟩ =>
    if e.isNotImplemented then none else some e
  | ⟨_, .error e⟩ => some e
  | ⟨_, .ok _⟩ => none

/-- The inquiry asks these questions in this order, and an answer that is fatal
ends it with its error. -/
inductive Asks : List Call → Inquiry α → Prop where
  | done (a : α) : Asks [] (.done (.ok a))
  | ask {call : Call} {rest : List Call}
      {next : Outcome call.Answer → Inquiry α}
      (fatal : ∀ outcome e, Reply.fatal? ⟨call, outcome⟩ = some e →
        next outcome = .done (.error e))
      (onward : ∀ outcome, Reply.fatal? ⟨call, outcome⟩ = none →
        Asks rest (next outcome)) :
      Asks (call :: rest) (.ask call next)

/-- Where some replies have led: to the questions that are left, none of them
having been fatal, or to the error of the last one. -/
inductive Reached (questions : List Call) (replies : List Reply) :
    Inquiry α → Prop where
  | onward {remaining : List Call} {next : Inquiry α}
      (order : replies.map Reply.call ++ remaining = questions)
      (survived : ∀ reply ∈ replies, reply.fatal? = none)
      (asks : Asks remaining next) : Reached questions replies next
  | failed (earlier : List Reply) (last : Reply) {remaining : List Call}
      {e : SchemaError} (split : replies = earlier ++ [last])
      (order : replies.map Reply.call ++ remaining = questions)
      (survived : ∀ reply ∈ earlier, reply.fatal? = none)
      (fatal : last.fatal? = some e) :
      Reached questions replies (.done (.error e))

theorem Reached.cons {questions : List Call} {replies : List Reply}
    {next : Inquiry α} {reply : Reply} (h : Reached questions replies next)
    (hreply : reply.fatal? = none) :
    Reached (reply.call :: questions) (reply :: replies) next := by
  cases h with
  | onward order survived asks =>
      exact .onward (congrArg (reply.call :: ·) order)
        (List.forall_mem_cons.2 ⟨hreply, survived⟩) asks
  | failed earlier last split order survived fatal =>
      exact .failed (reply :: earlier) last (congrArg (reply :: ·) split)
        (congrArg (reply.call :: ·) order)
        (List.forall_mem_cons.2 ⟨hreply, survived⟩) fatal

theorem Reached.of_ask {questions : List Call} {replies : List Reply}
    {call : Call} {next : Outcome call.Answer → Inquiry α}
    (h : Reached questions replies (.ask call next)) :
    (∀ reply ∈ replies, reply.fatal? = none) ∧
      replies.map Reply.call ++ [call] <+: questions := by
  cases h with
  | onward order survived asks =>
      cases asks with
      | @ask _ rest _ _ =>
          exact ⟨survived, rest, by rw [← order, List.append_assoc]; rfl⟩

theorem Reached.of_ok {questions : List Call} {replies : List Reply} {a : α}
    (h : Reached questions replies (.done (.ok a))) :
    (∀ reply ∈ replies, reply.fatal? = none) ∧
      replies.map Reply.call = questions := by
  cases h with
  | onward order survived asks =>
      cases asks
      exact ⟨survived, by rw [← order, List.append_nil]⟩

theorem Reached.of_error {questions : List Call} {replies : List Reply}
    {e : SchemaError}
    (h : Reached questions replies (.done (.error e) : Inquiry α)) :
    replies.map Reply.call <+: questions ∧
      ∃ earlier reply, replies = earlier ++ [reply] ∧
        (∀ reply ∈ earlier, reply.fatal? = none) ∧ reply.fatal? = some e := by
  cases h with
  | onward _ _ asks => cases asks
  | @failed earlier last remaining _ split order survived fatal =>
      exact ⟨⟨remaining, order⟩, earlier, last, split, survived, fatal⟩

/-- The induction is on the questions; a fatal reply is the last one because
a finished inquiry takes no answers. -/
theorem Asks.reached {questions : List Call} {inquiry next : Inquiry α}
    {replies : List Reply} (h : Asks questions inquiry)
    (hnext : inquiry.resumeAll? replies = some next) :
    Reached questions replies next := by
  induction h generalizing replies with
  | done a =>
      obtain ⟨rfl, rfl⟩ := resumeAll?_done hnext
      exact .onward rfl (by simp) (.done a)
  | @ask call rest following fatal onward ih =>
      cases replies with
      | nil =>
          cases hnext
          exact .onward rfl (by simp) (.ask fatal onward)
      | cons reply later =>
          rw [resumeAll?_cons] at hnext
          obtain ⟨middle, hmiddle, hlater⟩ := Option.bind_eq_some_iff.1 hnext
          obtain ⟨asked, outcome⟩ := reply
          obtain ⟨rfl, rfl⟩ := exists_of_resume?_ask hmiddle
          cases hfatal : Reply.fatal? ⟨asked, outcome⟩ with
          | none => exact (ih outcome hfatal hlater).cons hfatal
          | some e =>
              simp only [fatal outcome e hfatal] at hlater
              obtain ⟨rfl, rfl⟩ := resumeAll?_done hlater
              exact .failed [] ⟨asked, outcome⟩ rfl rfl (by simp) hfatal

theorem asks_question_bind {call : Call} {rest : List Call}
    {f : call.Answer → Inquiry α}
    (hcall : ∀ e, Reply.fatal? ⟨call, .error e⟩ = some e)
    (hok : ∀ a, Reply.fatal? ⟨call, .ok a⟩ = none)
    (hf : ∀ a, Asks rest (f a)) :
    Asks (call :: rest) ((question call).bind f) := by
  refine .ask ?_ ?_
  · rintro (error | a) e hfatal
    · rw [hcall] at hfatal
      cases hfatal
      rfl
    · rw [hok] at hfatal
      cases hfatal
  · rintro (error | a) hfatal
    · rw [hcall] at hfatal
      cases hfatal
    · exact hf a

theorem asks_optional_bind {call : Call} {rest : List Call}
    {f : Option call.Answer → Inquiry α}
    (hcall : ∀ e, Reply.fatal? ⟨call, .error e⟩ =
      if e.isNotImplemented then none else some e)
    (hok : ∀ a, Reply.fatal? ⟨call, .ok a⟩ = none)
    (hf : ∀ a, Asks rest (f a)) :
    Asks (call :: rest) ((optional call).bind f) := by
  refine .ask ?_ ?_
  · rintro (error | a) e hfatal
    · rw [hcall] at hfatal
      split at hfatal
      · cases hfatal
      · rename_i hoffered
        cases hfatal
        simp only [if_neg hoffered]
        rfl
    · rw [hok] at hfatal
      cases hfatal
  · rintro (error | a) hfatal
    · rw [hcall] at hfatal
      split at hfatal
      · rename_i hlacking
        simp only [if_pos hlacking]
        exact hf none
      · cases hfatal
    · exact hf (some a)

/-- An inquiry that has got a value was told one by its first question. -/
theorem exists_of_question_bind {call : Call} {f : call.Answer → Inquiry α}
    {replies : List Reply} {a : α}
    (h : ((question call).bind f).resumeAll? replies = some (.done (.ok a))) :
    ∃ answer rest, replies = ⟨call, .ok answer⟩ :: rest ∧
      (f answer).resumeAll? rest = some (.done (.ok a)) := by
  obtain ⟨outcome, rest, rfl, hrest⟩ := exists_of_resumeAll?_ask h
  cases outcome with
  | error e =>
      obtain ⟨_, heq⟩ := resumeAll?_done hrest
      cases heq
  | ok answer => exact ⟨answer, rest, rfl, hrest⟩

/-- An inquiry that has got a value was told one by its first question, or that
the question is not offered. -/
theorem exists_of_optional_bind {call : Call}
    {f : Option call.Answer → Inquiry α} {replies : List Reply} {a : α}
    (h : ((optional call).bind f).resumeAll? replies = some (.done (.ok a))) :
    ∃ outcome rest, replies = ⟨call, outcome⟩ :: rest ∧
      (f outcome.toOption).resumeAll? rest = some (.done (.ok a)) := by
  obtain ⟨outcome, rest, rfl, hrest⟩ := exists_of_resumeAll?_ask h
  refine ⟨outcome, rest, rfl, ?_⟩
  cases outcome with
  | ok answer => exact hrest
  | error e =>
      by_cases hlacking : e.isNotImplemented = true
      · simp only [if_pos hlacking] at hrest
        exact hrest
      · simp only [if_neg hlacking] at hrest
        obtain ⟨_, heq⟩ := resumeAll?_done hrest
        cases heq

theorem run_question_bind {answer : (call : Call) → Outcome call.Answer}
    {call : Call} {f : call.Answer → Inquiry α} {a : call.Answer}
    (h : answer call = .ok a) :
    ((question call).bind f).run answer = (f a).run answer := by
  rw [run_bind, question, run, h]
  rfl

theorem run_optional_bind {answer : (call : Call) → Outcome call.Answer}
    {call : Call} {f : Option call.Answer → Inquiry α} {a : call.Answer}
    (h : answer call = .ok a) :
    ((optional call).bind f).run answer = (f (some a)).run answer := by
  rw [run_bind, optional, run, h]
  rfl

theorem exists_of_run_question_bind
    {answer : (call : Call) → Outcome call.Answer} {call : Call}
    {f : call.Answer → Inquiry α} {result : α}
    (h : ((question call).bind f).run answer = .ok result) :
    ∃ a, answer call = .ok a ∧ (f a).run answer = .ok result := by
  rw [run_bind, question, run, run] at h
  cases ha : answer call with
  | error e =>
      rw [ha] at h
      cases h
  | ok a =>
      rw [ha] at h
      exact ⟨a, rfl, h⟩

theorem exists_of_run_optional_bind
    {answer : (call : Call) → Outcome call.Answer} {call : Call}
    {f : Option call.Answer → Inquiry α} {result : α}
    (h : ((optional call).bind f).run answer = .ok result) :
    ∃ a, (f a).run answer = .ok result := by
  rw [run_bind] at h
  split at h
  · rename_i a _
    exact ⟨a, h⟩
  · cases h

end Inquiry

namespace Topology

/-- The questions about a topology, in order. -/
def questions : List Call :=
  [.currentDatabase, .databases, .currentSchema, .schemas, .schemaTables]

theorem asks_inquiry : Inquiry.Asks questions inquiry := by
  refine Inquiry.asks_optional_bind (fun _ => rfl) (fun _ => rfl) fun _ => ?_
  refine Inquiry.asks_optional_bind (fun _ => rfl) (fun _ => rfl) fun _ => ?_
  refine Inquiry.asks_question_bind (fun _ => rfl) (fun _ => rfl) fun _ => ?_
  refine Inquiry.asks_question_bind (fun _ => rfl) (fun _ => rfl) fun _ => ?_
  refine Inquiry.asks_question_bind (fun _ => rfl) (fun _ => rfl) fun _ => ?_
  exact .done _

/-- Replies that have led to a topology, and the topology that they describe.
A name of the database that is not offered is missing from it, and names of
databases that are not offered are no names. -/
theorem exists_of_inquiry {replies : List Inquiry.Reply} {topology : Topology}
    (h : inquiry.resumeAll? replies = some (.done (.ok topology))) :
    ∃ currentDatabase databases currentSchema schemas tables,
      replies = [⟨.currentDatabase, currentDatabase⟩, ⟨.databases, databases⟩,
        ⟨.currentSchema, .ok currentSchema⟩, ⟨.schemas, .ok schemas⟩,
        ⟨.schemaTables, .ok tables⟩] ∧
      topology = ofAnswers currentDatabase.toOption
        (databases.toOption.getD []) currentSchema schemas tables := by
  obtain ⟨currentDatabase, _, rfl, h₁⟩ := Inquiry.exists_of_optional_bind h
  obtain ⟨databases, _, rfl, h₂⟩ := Inquiry.exists_of_optional_bind h₁
  obtain ⟨currentSchema, _, rfl, h₃⟩ := Inquiry.exists_of_question_bind h₂
  obtain ⟨schemas, _, rfl, h₄⟩ := Inquiry.exists_of_question_bind h₃
  obtain ⟨tables, _, rfl, h₅⟩ := Inquiry.exists_of_question_bind h₄
  obtain ⟨rfl, heq⟩ := Inquiry.resumeAll?_done h₅
  cases heq
  exact ⟨currentDatabase, databases, currentSchema, schemas, tables, rfl, rfl⟩

/-- A repository that answers all questions about its topology. -/
theorem run_inquiry {answer : (call : Call) → Outcome call.Answer}
    {currentDatabase currentSchema : String} {databases schemas : List String}
    {tables : List (String × List String)}
    (hcurrentDatabase : answer .currentDatabase = .ok currentDatabase)
    (hdatabases : answer .databases = .ok databases)
    (hcurrentSchema : answer .currentSchema = .ok currentSchema)
    (hschemas : answer .schemas = .ok schemas)
    (htables : answer .schemaTables = .ok tables) :
    inquiry.run answer = .ok (ofAnswers (some currentDatabase) databases
      currentSchema schemas tables) := by
  refine (Inquiry.run_optional_bind hcurrentDatabase).trans ?_
  refine (Inquiry.run_optional_bind hdatabases).trans ?_
  refine (Inquiry.run_question_bind hcurrentSchema).trans ?_
  refine (Inquiry.run_question_bind hschemas).trans ?_
  exact Inquiry.run_question_bind htables

/-- A topology has not been learnt without knowing the tables. -/
theorem exists_tables_of_run_inquiry
    {answer : (call : Call) → Outcome call.Answer} {topology : Topology}
    (h : inquiry.run answer = .ok topology) :
    ∃ tables, answer .schemaTables = .ok tables := by
  obtain ⟨currentDatabase, h⟩ := Inquiry.exists_of_run_optional_bind h
  obtain ⟨databases, h⟩ := Inquiry.exists_of_run_optional_bind h
  obtain ⟨currentSchema, _, h⟩ := Inquiry.exists_of_run_question_bind h
  obtain ⟨schemas, _, h⟩ := Inquiry.exists_of_run_question_bind h
  obtain ⟨tables, htables, _⟩ := Inquiry.exists_of_run_question_bind h
  exact ⟨tables, htables⟩

end Topology

end SchemaScope
