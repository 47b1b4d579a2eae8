import Mathlib.Data.List.Induction
import SchemaScope.Proofs.Session.Runs

/-!
The texts of documents. Main statement: whatever else an editor says, the text
in which completions are looked for is what the notifications about its document
have made of it, where of several changes in one notification the first one
counts.
-/

namespace SchemaScope

/-- The text of a document after a notification, if it is open. `apply` says
what the changes of one notification make of a text. -/
def ClientMessage.textAfter (apply : String → List String → String) (uri : Uri)
    (text : Option String) : ClientMessage → Option String
  | .opened other new => if uri = other then some new else text
  | .changed other changes =>
    if uri = other then text.map (apply · changes) else text
  | .closed other => if uri = other then none else text
  | _ => text

namespace Document

/-- The text of a document after some messages, if it is open. -/
def textOf (apply : String → List String → String) (uri : Uri)
    (messages : List ClientMessage) : Option String :=
  messages.foldl (ClientMessage.textAfter apply uri) none

/-- All changes one after the other, each of which is the whole text. -/
def everyChange (text : String) (changes : List String) : String :=
  changes.foldl (fun _ new => new) text

/-- Only the first change. -/
def firstChange (text : String) (changes : List String) : String :=
  changes.headD text

/-- Only documents that are open are changed. -/
def ChangesOpen (messages : List ClientMessage) : Prop :=
  ∀ n uri changes, messages[n]? = some (.changed uri changes) →
    (textOf everyChange uri (messages.take n)).isSome

theorem textOf_concat (apply : String → List String → String) (uri : Uri)
    (messages : List ClientMessage) (message : ClientMessage) :
    textOf apply uri (messages ++ [message]) =
      message.textAfter apply uri (textOf apply uri messages) := by
  simp [textOf]

theorem everyChange_eq (text : String) (changes : List String) :
    everyChange text changes = changes.getLastD text := by
  induction changes generalizing text with
  | nil => rfl
  | cons change rest ih =>
      rw [List.getLastD_cons]
      exact ih change

theorem firstChange_eq_everyChange {changes : List String}
    (h : changes.head? = changes.getLast?) (text : String) :
    firstChange text changes = everyChange text changes := by
  rw [everyChange_eq, firstChange, List.headD_eq_head?_getD,
    List.getLastD_eq_getLast?, h]

/-- Which documents are open does not depend on what changes make of their
texts. -/
theorem isSome_textOf (apply apply' : String → List String → String)
    (uri : Uri) (messages : List ClientMessage) :
    (textOf apply uri messages).isSome =
      (textOf apply' uri messages).isSome := by
  induction messages using List.reverseRecOn with
  | nil => rfl
  | append_singleton messages message ih =>
      rw [textOf_concat, textOf_concat]
      cases message with
      | opened other new | closed other =>
          simp only [ClientMessage.textAfter]
          split
          · rfl
          · exact ih
      | changed other changes =>
          simp only [ClientMessage.textAfter]
          split
          · rw [Option.isSome_map, Option.isSome_map, ih]
          · exact ih
      | _ => exact ih

theorem ChangesOpen.init {messages : List ClientMessage}
    {message : ClientMessage} (h : ChangesOpen (messages ++ [message])) :
    ChangesOpen messages := by
  intro n uri changes hn
  obtain ⟨hlt, _⟩ := List.getElem?_eq_some_iff.1 hn
  have hopen := h n uri changes (by rw [List.getElem?_append_left hlt, hn])
  rwa [List.take_append_of_le_length (Nat.le_of_lt hlt)] at hopen

theorem ChangesOpen.last {messages : List ClientMessage} {uri : Uri}
    {changes : List String}
    (h : ChangesOpen (messages ++ [.changed uri changes]))
    (apply : String → List String → String) :
    (textOf apply uri messages).isSome := by
  have hopen := h messages.length uri changes (by simp)
  rw [List.take_left] at hopen
  rwa [isSome_textOf apply everyChange]

/-- The first change and all of them make the same of the texts if no
notification ends with another text than it begins with. -/
theorem textOf_firstChange {uri : Uri} {messages : List ClientMessage}
    (h : ∀ changes, .changed uri changes ∈ messages →
      changes.head? = changes.getLast?) :
    textOf firstChange uri messages = textOf everyChange uri messages := by
  induction messages using List.reverseRecOn with
  | nil => rfl
  | append_singleton messages message ih =>
      have hinit := ih fun changes hmem => h changes (by simp [hmem])
      rw [textOf_concat, textOf_concat, hinit]
      cases message with
      | changed other changes =>
          simp only [ClientMessage.textAfter]
          split
          · rename_i heq
            have hends := h changes (by simp [heq])
            simp only [firstChange_eq_everyChange hends]
          · rfl
      | _ => rfl

end Document

namespace Session

open Document

/-- What a message makes of the text of a document. -/
theorem get?_documents_handle (world : World) (s : Session)
    (message : ClientMessage) (uri : Uri)
    (hopen : ∀ other changes, message = .changed other changes →
      (s.documents.get? other).isSome) :
    (s.handle world message).1.documents.get? uri =
      message.textAfter firstChange uri (s.documents.get? uri) := by
  rw [documents_handle]
  cases message with
  | start | configure =>
      rw [documents_receive world s rfl]
      rfl
  | opened other new => exact OrderedMap.get?_insert _ _ _ _
  | closed other => exact OrderedMap.get?_erase _ _ _
  | changed other changes =>
      obtain ⟨text, htext⟩ :=
        Option.isSome_iff_exists.1 (hopen other changes rfl)
      cases changes with
      | nil =>
          simp only [receive, ClientMessage.textAfter]
          split
          · simp [firstChange]
          · rfl
      | cons change rest =>
          simp only [receive, ClientMessage.textAfter]
          rw [OrderedMap.get?_insert]
          split
          · rename_i heq
            rw [heq, htext]
            rfl
          · rfl
  | _ => rfl

theorem get?_documents_after (history : List (World × ClientMessage))
    (uri : Uri) (hopen : ChangesOpen (history.map Prod.snd)) :
    (({} : Session).after history).documents.get? uri =
      textOf firstChange uri (history.map Prod.snd) := by
  induction history using List.reverseRecOn generalizing uri with
  | nil => rfl
  | append_singleton history last ih =>
      obtain ⟨world, message⟩ := last
      rw [List.map_append, List.map_singleton] at hopen ⊢
      have hbefore := fun other => ih other hopen.init
      rw [after_append, textOf_concat, ← hbefore uri]
      refine get?_documents_handle world _ message uri ?_
      rintro other changes rfl
      rw [hbefore other]
      exact hopen.last firstChange

/-- Completions of a document are looked for in the text that the notifications
about it have made, and in none if it is closed. Of several changes in one
notification the first one counts, so the text is the one that all changes make
if no notification ends with another text than it begins with. -/
theorem completionsAt_after (history : List (World × ClientMessage))
    (uri : Uri) (hopen : ChangesOpen (history.map Prod.snd)) :
    ((({} : Session).after history).documents.get? uri =
        textOf firstChange uri (history.map Prod.snd) ∧
      ∀ position, (({} : Session).after history).completionsAt uri position =
        (({} : Session).after history).turns.worker.cache?.bind fun cache =>
          (textOf firstChange uri (history.map Prod.snd)).bind fun text =>
            if (Completion.completeAt cache text position).isEmpty then none
            else some (Completion.completeAt cache text position)) ∧
      ((∀ changes, .changed uri changes ∈ history.map Prod.snd →
          changes.head? = changes.getLast?) →
        textOf firstChange uri (history.map Prod.snd) =
          textOf everyChange uri (history.map Prod.snd)) := by
  have htext := get?_documents_after history uri hopen
  refine ⟨⟨htext, ?_⟩, textOf_firstChange⟩
  intro position
  rw [← htext]
  rfl

namespace DocumentWitness

/-- A world without anything in it. -/
def world : World where
  environment := ⟨[]⟩
  files _ := .absent
  userDirectory := ""
  database _ := .ok Sqlite.Catalog.new

def query : Uri := ⟨"file:///query.sql"⟩

def notes : Uri := ⟨"file:///notes.sql"⟩

/-- Two documents are edited at the same time, and one of them is closed. -/
def edited : List (World × ClientMessage) :=
  [.opened query "u", .opened notes "n", .changed query ["us"],
    .changed query [], .changed notes ["no"], .closed notes].map (world, ·)

/-- A notification carries two changes. -/
def overwritten : List (World × ClientMessage) :=
  [.opened query "u", .changed query ["us", "o"]].map (world, ·)

theorem changesOpen_edited : ChangesOpen (edited.map Prod.snd) := by
  intro n uri changes hn
  rcases n with _ | _ | _ | _ | _ | _ | n
  · cases hn
  · cases hn
  · cases hn
    rfl
  · cases hn
    rfl
  · cases hn
    rfl
  · cases hn
  · cases hn

theorem completionsAt_after_edited :
    ChangesOpen (edited.map Prod.snd) ∧
      (({} : Session).after edited).documents.get? query = some "us" ∧
      (({} : Session).after edited).documents.get? notes = none ∧
      textOf everyChange query (edited.map Prod.snd) = some "us" := by
  obtain ⟨⟨hquery, _⟩, hends⟩ :=
    completionsAt_after edited query changesOpen_edited
  obtain ⟨⟨hnotes, _⟩, _⟩ := completionsAt_after edited notes changesOpen_edited
  have hsame := hends fun changes hmem => by
    simp [edited, query, notes] at hmem
    rcases hmem with rfl | rfl
    · rfl
    · rfl
  exact ⟨changesOpen_edited, hquery, hnotes, hsame.symm.trans rfl⟩

/-- Of two changes in one notification the first one stays. -/
theorem documents_after_overwritten :
    ChangesOpen (overwritten.map Prod.snd) ∧
      (({} : Session).after overwritten).documents.get? query = some "us" ∧
      textOf everyChange query (overwritten.map Prod.snd) = some "o" := by
  refine ⟨?_, rfl, rfl⟩
  intro n uri changes hn
  rcases n with _ | _ | n
  · cases hn
  · cases hn
    rfl
  · cases hn

end DocumentWitness

end Session

end SchemaScope
