import SchemaScope.Proofs.Topology.Questions

/-!
What a refresh learns, and what it asks for it, told by the answers alone.
Columns are described all at once, or by every schema in turn; foreign keys by
every schema in turn. Whoever is asked in turn is not asked any more after the
first one without an answer, and then nothing is learnt at all. Main statements:
this is what the inquiries of the two indexes do.
-/

namespace SchemaScope

namespace Inquiry

section Questions

variable {α : Type} {answer : (call : Call) → Outcome call.Answer}
  {call : Call} {f : call.Answer → Inquiry α}

theorem run_question_bind_of_error {e : SchemaError}
    (h : answer call = .error e) :
    ((question call).bind f).run answer = .error e := by
  rw [run_bind, question, run, h]
  rfl

theorem calls_question_bind {a : call.Answer} (h : answer call = .ok a) :
    ((question call).bind f).calls answer = call :: (f a).calls answer := by
  simp only [question, bind, calls, h]

theorem calls_question_bind_of_error {e : SchemaError}
    (h : answer call = .error e) :
    ((question call).bind f).calls answer = [call] := by
  simp only [question, bind, calls, h]

end Questions

variable {α : Type} {answer : String → Outcome α}

/-- What all the schemas answer, if each of them does. -/
def answers? (answer : String → Outcome α) (schemas : List String) :
    Option (List α) :=
  schemas.mapM fun schema => (answer schema).toOption

/-- The schemas up to the first one that does not answer. -/
def asked (answer : String → Outcome α) : List String → List String
  | [] => []
  | schema :: rest =>
    match answer schema with
    | .ok _ => schema :: asked answer rest
    | .error _ => [schema]

theorem answers?_cons_of_ok {schema : String} {a : α}
    (h : answer schema = .ok a) (rest : List String) :
    answers? answer (schema :: rest) =
      (answers? answer rest).map fun more => a :: more := by
  rw [answers?, List.mapM_cons, h, answers?]
  cases rest.mapM fun schema => (answer schema).toOption <;> rfl

theorem answers?_cons_of_error {schema : String} {e : SchemaError}
    (h : answer schema = .error e) (rest : List String) :
    answers? answer (schema :: rest) = none := by
  rw [answers?, List.mapM_cons, h]
  rfl

theorem asked_cons_of_ok {schema : String} {a : α}
    (h : answer schema = .ok a) (rest : List String) :
    asked answer (schema :: rest) = schema :: asked answer rest := by
  rw [asked, h]

theorem asked_cons_of_error {schema : String} {e : SchemaError}
    (h : answer schema = .error e) (rest : List String) :
    asked answer (schema :: rest) = [schema] := by
  rw [asked, h]

theorem toOption_mapM (answer : String → Outcome α) (schemas : List String) :
    (schemas.mapM answer).toOption = answers? answer schemas := by
  induction schemas with
  | nil => rfl
  | cons schema rest ih =>
      rw [List.mapM_cons]
      cases h : answer schema with
      | error e => exact (answers?_cons_of_error h rest).symm
      | ok a =>
          rw [answers?_cons_of_ok h, ← ih]
          cases rest.mapM answer <;> rfl

end Inquiry

variable {answer : (call : Call) → Outcome call.Answer}

namespace ColumnIndex

/-- The columns after a refresh: those that are described all at once, or, if
that is not offered, by all the schemas; else the previous ones. -/
def refreshed (all : Outcome (List Column))
    (bySchema : String → Outcome (List Column)) (schemas : List String)
    (previous : ColumnIndex) : ColumnIndex :=
  match all with
  | .ok columns => ofColumns columns
  | .error (.notImplemented _) =>
    match Inquiry.answers? bySchema schemas with
    | some answers => ofColumns answers.flatten
    | none => previous
  | .error _ => previous

/-- What is asked about columns. -/
def questions (all : Outcome (List Column))
    (bySchema : String → Outcome (List Column)) (schemas : List String) :
    List Call :=
  match all with
  | .error (.notImplemented _) =>
    .databaseColumns :: (Inquiry.asked bySchema schemas).map .schemaColumns
  | _ => [.databaseColumns]

/-- The induction is on the schemas that are left to ask; the index may already
hold anything. -/
theorem run_inquireSchemas_eq (index : ColumnIndex) (schemas : List String) :
    (inquireSchemas index schemas).run answer =
      (schemas.mapM fun schema => answer (.schemaColumns schema)).map
        fun answers => index.insertAll answers.flatten := by
  induction schemas generalizing index with
  | nil => rfl
  | cons schema rest ih =>
      rw [inquireSchemas, List.mapM_cons]
      cases h : answer (.schemaColumns schema) with
      | error e => exact Inquiry.run_question_bind_of_error h
      | ok columns =>
          refine (Inquiry.run_question_bind h).trans ?_
          rw [ih]
          cases rest.mapM fun schema => answer (.schemaColumns schema) with
          | error e => rfl
          | ok answers =>
              exact congrArg Except.ok
                (insertAll_append index columns answers.flatten).symm

theorem run_inquireSchemas (index : ColumnIndex) (schemas : List String) :
    ((inquireSchemas index schemas).run answer).toOption =
      (Inquiry.answers? (fun schema => answer (.schemaColumns schema))
        schemas).map fun answers => index.insertAll answers.flatten := by
  rw [run_inquireSchemas_eq, ← Inquiry.toOption_mapM]
  cases schemas.mapM fun schema => answer (.schemaColumns schema) <;> rfl

theorem calls_inquireSchemas (index : ColumnIndex) (schemas : List String) :
    (inquireSchemas index schemas).calls answer =
      (Inquiry.asked (fun schema => answer (.schemaColumns schema))
        schemas).map .schemaColumns := by
  induction schemas generalizing index with
  | nil => rfl
  | cons schema rest ih =>
      cases h : answer (.schemaColumns schema) with
      | ok columns =>
          rw [Inquiry.asked_cons_of_ok h, inquireSchemas, List.map_cons, ← ih]
          exact Inquiry.calls_question_bind h
      | error e =>
          rw [Inquiry.asked_cons_of_error h, inquireSchemas]
          exact Inquiry.calls_question_bind_of_error h

theorem run_inquiry (schemas : List String) (previous : ColumnIndex) :
    ((inquiry schemas).run answer).toOption.getD previous =
      refreshed (answer .databaseColumns)
        (fun schema => answer (.schemaColumns schema)) schemas previous := by
  rw [inquiry, Inquiry.run]
  cases h : answer .databaseColumns with
  | ok columns => rfl
  | error e =>
      cases e with
      | notImplemented operation =>
          refine (congrArg (Option.getD · previous)
            (run_inquireSchemas empty schemas)).trans ?_
          rw [refreshed]
          cases Inquiry.answers? _ schemas <;> rfl
      | _ => rfl

theorem calls_inquiry (schemas : List String) :
    (inquiry schemas).calls answer =
      questions (answer .databaseColumns)
        (fun schema => answer (.schemaColumns schema)) schemas := by
  rw [inquiry, Inquiry.calls]
  cases h : answer .databaseColumns with
  | ok columns => rfl
  | error e =>
      cases e with
      | notImplemented operation =>
          exact congrArg (Call.databaseColumns :: ·)
            (calls_inquireSchemas empty schemas)
      | _ => rfl

end ColumnIndex

namespace ForeignKeyIndex

/-- Every relation that a schema answers has a pair, as all relations do that
are put together column by column. -/
def Filable (bySchema : String → Outcome (List Relation))
    (schemas : List String) : Prop :=
  ∀ schema ∈ schemas, ∀ relations, bySchema schema = .ok relations →
    ∀ relation ∈ relations, relation.pairs ≠ []

/-- These are asked, of all schemas, until a relation turns up that has no
pairs: the last of them answers one, and those in front of it do not. -/
inductive Unfilable (bySchema : String → Outcome (List Relation)) :
    (schemas asked : List String) → Prop where
  | here {schema : String} {relations : List Relation}
      (hrelations : bySchema schema = .ok relations)
      (hpairs : ∃ relation ∈ relations, relation.pairs = [])
      (rest : List String) : Unfilable bySchema (schema :: rest) [schema]
  | later {schema : String} {relations : List Relation}
      {rest asked : List String} (hrelations : bySchema schema = .ok relations)
      (hpairs : ∀ relation ∈ relations, relation.pairs ≠ [])
      (hrest : Unfilable bySchema rest asked) :
      Unfilable bySchema (schema :: rest) (schema :: asked)

/-- The foreign keys after a refresh: those of all the schemas, if each of them
describes its own; else the previous ones. There are none if a relation cannot
be filed. -/
def refreshed? (bySchema : String → Outcome (List Relation))
    (schemas : List String) (previous : ForeignKeyIndex) :
    Option ForeignKeyIndex :=
  match Inquiry.answers? bySchema schemas with
  | some answers => empty.insertSchemas? (schemas.zip answers)
  | none => some previous

/-- What is asked about foreign keys. -/
def questions (bySchema : String → Outcome (List Relation))
    (schemas : List String) : List Call :=
  (Inquiry.asked bySchema schemas).map .schemaForeignKeys

section Filing

variable {bySchema : String → Outcome (List Relation)} {schemas : List String}

theorem Filable.tail {schema : String}
    (h : Filable bySchema (schema :: schemas)) : Filable bySchema schemas :=
  fun other hother => h other (List.mem_cons_of_mem schema hother)

/-- The relations of the first schema can be filed. -/
theorem Filable.head {schema : String} {relations : List Relation}
    (h : Filable bySchema (schema :: schemas))
    (hrelations : bySchema schema = .ok relations) (index : ForeignKeyIndex) :
    ∃ filed, index.insertAll? schema relations = some filed :=
  exists_insertAll? schema (h schema List.mem_cons_self relations hrelations)
    index

theorem exists_insertSchemas? (h : Filable bySchema schemas)
    {answers : List (List Relation)}
    (hanswers : Inquiry.answers? bySchema schemas = some answers)
    (index : ForeignKeyIndex) :
    ∃ filed, index.insertSchemas? (schemas.zip answers) = some filed := by
  induction schemas generalizing index answers with
  | nil => exact ⟨index, rfl⟩
  | cons schema rest ih =>
      cases hschema : bySchema schema with
      | error e =>
          rw [Inquiry.answers?_cons_of_error hschema] at hanswers
          cases hanswers
      | ok relations =>
          rw [Inquiry.answers?_cons_of_ok hschema] at hanswers
          obtain ⟨more, hmore, rfl⟩ := Option.map_eq_some_iff.1 hanswers
          obtain ⟨next, hnext⟩ := h.head hschema index
          obtain ⟨filed, hfiled⟩ := ih h.tail hmore next
          refine ⟨filed, ?_⟩
          rw [insertSchemas?, List.zip_cons_cons, List.foldlM_cons, hnext]
          exact hfiled

theorem exists_refreshed? (h : Filable bySchema schemas)
    (previous : ForeignKeyIndex) :
    ∃ index, refreshed? bySchema schemas previous = some index := by
  rw [refreshed?]
  cases hanswers : Inquiry.answers? bySchema schemas with
  | none => exact ⟨previous, rfl⟩
  | some answers => exact exists_insertSchemas? h hanswers empty

end Filing

/-- When a schema has answered and its relations have been filed, the next one
is asked. -/
theorem inquireSchemas_cons {schema : String} {relations : List Relation}
    {index filed : ForeignKeyIndex}
    (hschema : answer (.schemaForeignKeys schema) = .ok relations)
    (hfiled : index.insertAll? schema relations = some filed)
    (rest : List String) :
    (inquireSchemas index (schema :: rest)).run answer =
        (inquireSchemas filed rest).run answer ∧
      (inquireSchemas index (schema :: rest)).calls answer =
        .schemaForeignKeys schema ::
          (inquireSchemas filed rest).calls answer := by
  rw [inquireSchemas]
  constructor
  · refine (Inquiry.run_question_bind hschema).trans ?_
    rw [hfiled]
  · refine (Inquiry.calls_question_bind hschema).trans ?_
    rw [hfiled]

theorem run_inquireSchemas {schemas : List String}
    (h : Filable (fun schema => answer (.schemaForeignKeys schema)) schemas)
    (index : ForeignKeyIndex) :
    ((inquireSchemas index schemas).run answer).toOption =
      (Inquiry.answers? (fun schema => answer (.schemaForeignKeys schema))
        schemas).map fun answers =>
          index.insertSchemas? (schemas.zip answers) := by
  induction schemas generalizing index with
  | nil => rfl
  | cons schema rest ih =>
      cases hschema : answer (.schemaForeignKeys schema) with
      | ok relations =>
          obtain ⟨filed, hfiled⟩ := h.head hschema index
          rw [(inquireSchemas_cons hschema hfiled rest).1, ih h.tail,
            Inquiry.answers?_cons_of_ok hschema, Option.map_map]
          congr 1
          funext answers
          rw [Function.comp, insertSchemas?, insertSchemas?, List.zip_cons_cons,
            List.foldlM_cons, hfiled]
          rfl
      | error e =>
          rw [Inquiry.answers?_cons_of_error hschema, inquireSchemas]
          exact congrArg Except.toOption
            (Inquiry.run_question_bind_of_error hschema)

theorem calls_inquireSchemas {schemas : List String}
    (h : Filable (fun schema => answer (.schemaForeignKeys schema)) schemas)
    (index : ForeignKeyIndex) :
    (inquireSchemas index schemas).calls answer =
      questions (fun schema => answer (.schemaForeignKeys schema)) schemas := by
  induction schemas generalizing index with
  | nil => rfl
  | cons schema rest ih =>
      rw [questions]
      cases hschema : answer (.schemaForeignKeys schema) with
      | ok relations =>
          obtain ⟨filed, hfiled⟩ := h.head hschema index
          rw [(inquireSchemas_cons hschema hfiled rest).2, ih h.tail,
            Inquiry.asked_cons_of_ok hschema, List.map_cons, questions]
      | error e =>
          rw [Inquiry.asked_cons_of_error hschema, inquireSchemas]
          exact Inquiry.calls_question_bind_of_error hschema

theorem run_inquiry {schemas : List String}
    (h : Filable (fun schema => answer (.schemaForeignKeys schema)) schemas)
    (previous : ForeignKeyIndex) :
    ((inquiry schemas).run answer).toOption.getD (some previous) =
      refreshed? (fun schema => answer (.schemaForeignKeys schema)) schemas
        previous := by
  rw [inquiry, run_inquireSchemas h, refreshed?]
  cases Inquiry.answers? _ schemas <;> rfl

theorem calls_inquiry {schemas : List String}
    (h : Filable (fun schema => answer (.schemaForeignKeys schema)) schemas) :
    (inquiry schemas).calls answer =
      questions (fun schema => answer (.schemaForeignKeys schema)) schemas :=
  calls_inquireSchemas h empty

/-- A relation without pairs ends the questions, and there is no index. -/
theorem Unfilable.inquireSchemas_eq {schemas asked : List String}
    (h : Unfilable (fun schema => answer (.schemaForeignKeys schema)) schemas
      asked) (index : ForeignKeyIndex) :
    (inquireSchemas index schemas).run answer = .ok none ∧
      (inquireSchemas index schemas).calls answer =
        asked.map .schemaForeignKeys := by
  induction h generalizing index with
  | @here schema relations hrelations hpairs rest =>
      have hfiled := insertAll?_eq_none schema hpairs index
      rw [inquireSchemas]
      constructor
      · refine (Inquiry.run_question_bind hrelations).trans ?_
        rw [hfiled]
        rfl
      · refine (Inquiry.calls_question_bind hrelations).trans ?_
        rw [hfiled]
        rfl
  | @later schema relations rest asked hrelations hpairs hrest ih =>
      obtain ⟨filed, hfiled⟩ := exists_insertAll? schema hpairs index
      have hcons := inquireSchemas_cons hrelations hfiled rest
      rw [hcons.1, hcons.2, (ih filed).1, (ih filed).2]
      exact ⟨rfl, rfl⟩

/-- There is no index for no other reason. -/
theorem exists_unfilable {schemas : List String} {index : ForeignKeyIndex}
    (h : (inquireSchemas index schemas).run answer = .ok none) :
    ∃ asked, Unfilable (fun schema => answer (.schemaForeignKeys schema))
      schemas asked := by
  induction schemas generalizing index with
  | nil => cases h
  | cons schema rest ih =>
      cases hschema : answer (.schemaForeignKeys schema) with
      | error e =>
          rw [inquireSchemas] at h
          cases (Inquiry.run_question_bind_of_error hschema).symm.trans h
      | ok relations =>
          by_cases hpairs : ∃ relation ∈ relations, relation.pairs = []
          · exact ⟨[schema], .here hschema hpairs rest⟩
          · have hpairs : ∀ relation ∈ relations, relation.pairs ≠ [] :=
              fun relation hmem heq => hpairs ⟨relation, hmem, heq⟩
            obtain ⟨filed, hfiled⟩ := exists_insertAll? schema hpairs index
            rw [(inquireSchemas_cons hschema hfiled rest).1] at h
            obtain ⟨asked, hasked⟩ := ih h
            exact ⟨schema :: asked, .later hschema hpairs hasked⟩

end ForeignKeyIndex

end SchemaScope
