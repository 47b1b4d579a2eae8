import SchemaScope.Worker.Step

/-!
What a repository has to answer for an index to come out: all columns at once,
or the columns of every schema in turn, and the foreign keys of every schema in
turn.
-/

namespace SchemaScope

namespace Inquiry

variable {α : Type}

/-- A question that has been answered. -/
structure Reply where
  call : Call
  outcome : Outcome call.Answer

/-- Give an inquiry several answers, one after the other. -/
def resumeAll? (inquiry : Inquiry α) (replies : List Reply) :
    Option (Inquiry α) :=
  replies.foldlM
    (fun inquiry reply => inquiry.resume? reply.call reply.outcome) inquiry

@[simp] theorem resumeAll?_nil (inquiry : Inquiry α) :
    inquiry.resumeAll? [] = some inquiry := rfl

theorem resumeAll?_cons (inquiry : Inquiry α) (reply : Reply)
    (rest : List Reply) :
    inquiry.resumeAll? (reply :: rest) =
      (inquiry.resume? reply.call reply.outcome).bind (·.resumeAll? rest) :=
  List.foldlM_cons

theorem resumeAll?_concat {inquiry middle next : Inquiry α}
    {replies : List Reply} {call : Call} {outcome : Outcome call.Answer}
    (hmiddle : inquiry.resumeAll? replies = some middle)
    (hnext : middle.resume? call outcome = some next) :
    inquiry.resumeAll? (replies ++ [⟨call, outcome⟩]) = some next := by
  rw [resumeAll?] at hmiddle ⊢
  rw [List.foldlM_append, hmiddle]
  change (some middle >>= fun inquiry => _) = some next
  simpa using hnext

/-- A finished inquiry takes no answers. -/
theorem resumeAll?_done {result : Outcome α} {replies : List Reply}
    {next : Inquiry α} (h : (done result).resumeAll? replies = some next) :
    replies = [] ∧ next = done result := by
  cases replies with
  | nil => exact ⟨rfl, (Option.some.inj h).symm⟩
  | cons reply rest =>
      rw [resumeAll?_cons] at h
      cases h

/-- An inquiry takes no answer but one to the question it is asking. -/
theorem exists_of_resume?_ask {asked : Call}
    {next : Outcome asked.Answer → Inquiry α} {call : Call}
    {outcome : Outcome call.Answer} {inquiry : Inquiry α}
    (h : (ask asked next).resume? call outcome = some inquiry) :
    ∃ heq : call = asked, inquiry = next (heq ▸ outcome) := by
  simp only [resume?] at h
  split at h
  · rename_i heq
    exact ⟨heq, (Option.some.inj h).symm⟩
  · cases h

/-- An inquiry that has come to an end has got the answer to its first
question first. -/
theorem exists_of_resumeAll?_ask {call : Call}
    {next : Outcome call.Answer → Inquiry α} {replies : List Reply}
    {result : Outcome α}
    (h : (ask call next).resumeAll? replies = some (done result)) :
    ∃ outcome rest, replies = ⟨call, outcome⟩ :: rest ∧
      (next outcome).resumeAll? rest = some (done result) := by
  cases replies with
  | nil => cases h
  | cons reply rest =>
      rw [resumeAll?_cons] at h
      obtain ⟨middle, hmiddle, hrest⟩ := Option.bind_eq_some_iff.1 h
      obtain ⟨asked, outcome⟩ := reply
      obtain ⟨rfl, rfl⟩ := exists_of_resume?_ask hmiddle
      exact ⟨outcome, rest, rfl, hrest⟩

/-- As long as it is answered as by one that gives always the same answers, an
inquiry has the result that it has with that one. -/
theorem run_of_resumeAll? {answer : (call : Call) → Outcome call.Answer}
    {inquiry next : Inquiry α} {replies : List Reply}
    (h : inquiry.resumeAll? replies = some next)
    (hreplies : ∀ reply ∈ replies, reply.outcome = answer reply.call) :
    next.run answer = inquiry.run answer := by
  induction replies generalizing inquiry with
  | nil =>
      cases h
      rfl
  | cons reply rest ih =>
      obtain ⟨hreply, hrest⟩ := List.forall_mem_cons.1 hreplies
      rw [resumeAll?_cons] at h
      obtain ⟨middle, hmiddle, hlater⟩ := Option.bind_eq_some_iff.1 h
      rw [ih hlater hrest]
      cases inquiry with
      | done result => cases hmiddle
      | ask asked following =>
          obtain ⟨call, outcome⟩ := reply
          obtain ⟨rfl, rfl⟩ := exists_of_resume?_ask hmiddle
          obtain rfl : outcome = answer call := hreply
          rfl

end Inquiry

namespace ColumnIndex

/-- The columns of a schema, as a reply. -/
def schemaReply (schema : String) (columns : List Column) : Inquiry.Reply :=
  ⟨.schemaColumns schema, .ok columns⟩

/-- Replies that describe the columns of all schemas, and the index that
files them. The schemas are asked for one by one only if the repository does
not describe all columns at once. -/
inductive LearntFrom (schemas : List String) :
    List Inquiry.Reply → ColumnIndex → Prop where
  | atOnce (columns : List Column) :
      LearntFrom schemas [⟨.databaseColumns, .ok columns⟩] (ofColumns columns)
  | bySchema (operation : String) (answers : List (List Column))
      (hlength : answers.length = schemas.length) :
      LearntFrom schemas
        (⟨.databaseColumns, .error (.notImplemented operation)⟩ ::
          List.zipWith schemaReply schemas answers)
        (ofColumns answers.flatten)

theorem insertAll_append (index : ColumnIndex) (first last : List Column) :
    index.insertAll (first ++ last) = (index.insertAll first).insertAll last :=
  List.foldl_append

theorem exists_of_inquireSchemas {schemas : List String}
    {index result : ColumnIndex} {replies : List Inquiry.Reply}
    (h : (inquireSchemas index schemas).resumeAll? replies =
      some (.done (.ok result))) :
    ∃ answers : List (List Column), answers.length = schemas.length ∧
      replies = List.zipWith schemaReply schemas answers ∧
      result = index.insertAll answers.flatten := by
  induction schemas generalizing index replies with
  | nil =>
      obtain ⟨rfl, heq⟩ := Inquiry.resumeAll?_done h
      cases heq
      exact ⟨[], rfl, rfl, rfl⟩
  | cons schema rest ih =>
      obtain ⟨outcome, later, rfl, hlater⟩ := Inquiry.exists_of_resumeAll?_ask h
      cases outcome with
      | error e =>
          obtain ⟨_, heq⟩ := Inquiry.resumeAll?_done hlater
          cases heq
      | ok columns =>
          obtain ⟨answers, hlength, rfl, rfl⟩ := ih hlater
          refine ⟨columns :: answers, congrArg (· + 1) hlength, rfl, ?_⟩
          rw [List.flatten_cons, insertAll_append]

/-- An index that an inquiry has led to describes all the schemas. -/
theorem learntFrom_of_inquiry {schemas : List String} {index : ColumnIndex}
    {replies : List Inquiry.Reply}
    (h : (inquiry schemas).resumeAll? replies = some (.done (.ok index))) :
    LearntFrom schemas replies index := by
  obtain ⟨outcome, later, rfl, hlater⟩ := Inquiry.exists_of_resumeAll?_ask h
  cases outcome with
  | ok columns =>
      obtain ⟨rfl, heq⟩ := Inquiry.resumeAll?_done hlater
      cases heq
      exact .atOnce columns
  | error e =>
      cases e with
      | notImplemented operation =>
          obtain ⟨answers, hlength, rfl, rfl⟩ := exists_of_inquireSchemas hlater
          exact .bySchema operation answers hlength
      | _ =>
          obtain ⟨_, heq⟩ := Inquiry.resumeAll?_done hlater
          cases heq

end ColumnIndex

namespace ForeignKeyIndex

/-- The foreign keys of a schema, as a reply. -/
def schemaReply (schema : String) (relations : List Relation) :
    Inquiry.Reply :=
  ⟨.schemaForeignKeys schema, .ok relations⟩

theorem exists_insertAll? (schema : String) {relations : List Relation}
    (h : ∀ relation ∈ relations, relation.pairs ≠ [])
    (index : ForeignKeyIndex) :
    ∃ filed, index.insertAll? schema relations = some filed := by
  induction relations generalizing index with
  | nil => exact ⟨index, rfl⟩
  | cons relation rest ih =>
      obtain ⟨pair, hpair⟩ : ∃ pair, relation.pairs.head? = some pair :=
        ⟨_, List.head?_eq_some_head (h relation List.mem_cons_self)⟩
      have hinsert : ∃ next, insert? schema index relation = some next :=
        ⟨_, by rw [insert?, Relation.table?, hpair]; rfl⟩
      obtain ⟨next, hnext⟩ := hinsert
      obtain ⟨filed, hfiled⟩ :=
        ih (fun other hother => h other (List.mem_cons_of_mem _ hother)) next
      refine ⟨filed, ?_⟩
      rw [insertAll?, List.foldlM_cons, hnext]
      exact hfiled

theorem insertAll?_eq_none (schema : String) {relations : List Relation}
    (h : ∃ relation ∈ relations, relation.pairs = [])
    (index : ForeignKeyIndex) : index.insertAll? schema relations = none := by
  induction relations generalizing index with
  | nil => simp at h
  | cons relation rest ih =>
      rw [insertAll?, List.foldlM_cons]
      obtain ⟨other, hother, hpairs⟩ := h
      rcases List.mem_cons.1 hother with rfl | hrest
      · rw [insert?, Relation.table?, hpairs]
        rfl
      · cases insert? schema index relation with
        | none => rfl
        | some next => exact ih ⟨other, hrest, hpairs⟩ next

/-- File the relations of several schemas. -/
def insertSchemas? (index : ForeignKeyIndex)
    (described : List (String × List Relation)) : Option ForeignKeyIndex :=
  described.foldlM (fun index part => index.insertAll? part.1 part.2) index

/-- Replies that describe the foreign keys of all schemas, and the index that
files them. -/
inductive LearntFrom (schemas : List String) :
    List Inquiry.Reply → ForeignKeyIndex → Prop where
  | bySchema (answers : List (List Relation)) (index : ForeignKeyIndex)
      (hlength : answers.length = schemas.length)
      (hindex : empty.insertSchemas? (schemas.zip answers) = some index) :
      LearntFrom schemas (List.zipWith schemaReply schemas answers) index

theorem exists_of_inquireSchemas {schemas : List String}
    {index result : ForeignKeyIndex} {replies : List Inquiry.Reply}
    (h : (inquireSchemas index schemas).resumeAll? replies =
      some (.done (.ok (some result)))) :
    ∃ answers : List (List Relation), answers.length = schemas.length ∧
      replies = List.zipWith schemaReply schemas answers ∧
      index.insertSchemas? (schemas.zip answers) = some result := by
  induction schemas generalizing index replies with
  | nil =>
      obtain ⟨rfl, heq⟩ := Inquiry.resumeAll?_done h
      cases heq
      exact ⟨[], rfl, rfl, rfl⟩
  | cons schema rest ih =>
      obtain ⟨outcome, later, rfl, hlater⟩ := Inquiry.exists_of_resumeAll?_ask h
      cases outcome with
      | error e =>
          obtain ⟨_, heq⟩ := Inquiry.resumeAll?_done hlater
          cases heq
      | ok relations =>
          simp only [Inquiry.bind] at hlater
          cases hfiled : index.insertAll? schema relations with
          | none =>
              rw [hfiled] at hlater
              obtain ⟨_, heq⟩ := Inquiry.resumeAll?_done hlater
              cases heq
          | some filed =>
              rw [hfiled] at hlater
              obtain ⟨answers, hlength, rfl, hresult⟩ := ih hlater
              refine ⟨relations :: answers, congrArg (· + 1) hlength, rfl, ?_⟩
              simpa [insertSchemas?, hfiled] using hresult

/-- An index that an inquiry has led to describes all the schemas. -/
theorem learntFrom_of_inquiry {schemas : List String}
    {index : ForeignKeyIndex} {replies : List Inquiry.Reply}
    (h : (inquiry schemas).resumeAll? replies =
      some (.done (.ok (some index)))) :
    LearntFrom schemas replies index := by
  obtain ⟨answers, hlength, rfl, hindex⟩ := exists_of_inquireSchemas h
  exact .bySchema answers index hlength hindex

end ForeignKeyIndex

end SchemaScope
