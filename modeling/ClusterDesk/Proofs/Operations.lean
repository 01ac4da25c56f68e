import ClusterDesk.Proofs.Conversation
import ClusterDesk.Service

/-!
What each operation on resources asks of its backend and what it makes of the answers, whatever
the backend is. An operation puts one call, or the two calls of a reading, and its value depends on
nothing but the answers.
-/

namespace ClusterDesk

def Call.succeeded {Raw Other E : Type} : (call : Call Raw) → Call.Answer Raw Other E call → Bool
  | .get _, answer => answer.isOk
  | .secondary _, answer => answer.isOk
  | .list _, answer => answer.isOk
  | .create _ _, answer => answer.isOk
  | .update _ _, answer => answer.isOk
  | .delete _, answer => answer.isOk

namespace Service

open Program

variable {Raw Other Model E σ : Type}

/-- An answer as the value of an operation: a failed call fails the operation. -/
def told {α : Type} (operation : Operation) (message : String) (answer : Except E α) :
    Result E α :=
  answer.mapError fun cause => ⟨operation, message, cause⟩

section Reading

variable [Failure E]

def reading (converter : Converter Raw Other Model) (id : ResourceId) (primary : Except E Raw)
    (other : Except E (Option Other)) : Result E Model :=
  match primary with
  | .ok raw => .ok (converter.toModel raw (other.toOption.join))
  | .error cause =>
    if Failure.notFound cause then .ok (converter.defaultModel id)
    else .error ⟨.retrieve, converter.messages.get, cause⟩

theorem result?_settle (converter : Converter Raw Other Model) (id : ResourceId)
    (primary : Except E Raw) (other : Except E (Option Other)) :
    (settle converter id primary other).result? = some (reading converter id primary other) := by
  cases primary with
  | error cause =>
    by_cases absent : Failure.notFound cause = true
    · simp only [settle, reading, absent, if_true]
      rfl
    · simp only [settle, reading, absent]
      rfl
  | ok raw => cases other <;> rfl

variable (converter : Converter Raw Other Model)
  (answer : (call : Call Raw) → σ → Call.Answer Raw Other E call × σ) (state : σ)

theorem value_get (id : ResourceId) :
    ((get converter id).run answer state).value =
      reading converter id (answer (.get id) state).1
        (answer (.secondary id) (answer (.get id) state).2).1 :=
  value_run_of_result? answer (result?_settle converter id _ _) _

theorem state_get (id : ResourceId) :
    ((get converter id).run answer state).state =
      (answer (.secondary id) (answer (.get id) state).2).2 :=
  state_run_of_result? answer (result?_settle converter id _ _) _

theorem exchanges_get (id : ResourceId) :
    (get converter id).exchanges answer state =
      [⟨.get id, (answer (.get id) state).1⟩,
        ⟨.secondary id, (answer (.secondary id) (answer (.get id) state).2).1⟩] := by
  have silent := exchanges_of_result? answer
    (result?_settle converter id (answer (.get id) state).1
      (answer (.secondary id) (answer (.get id) state).2).1)
    (answer (.secondary id) (answer (.get id) state).2).2
  exact congrArg (fun rest => _ :: _ :: rest) silent

end Reading

section Drafts

variable (converter : Converter Raw Other Model) (model : Model)

theorem draft_of_persisted {model : Model} (known : converter.isPersisted model = true) :
    draft converter model = .existing model := by
  rw [draft, if_pos known]

theorem draft_of_not_persisted {model : Model} (unknown : converter.isPersisted model = false) :
    draft converter model = .new model := by
  rw [draft, if_neg (Bool.eq_false_iff.mp unknown)]

theorem isNew_draft : (draft converter model).isNew = !converter.isPersisted model := by
  cases known : converter.isPersisted model <;> simp [draft, known, Draft.isNew]

theorem model_draft : (draft converter model).model = model := by
  cases known : converter.isPersisted model <;> simp [draft, known, Draft.model]

end Drafts

section Calls

variable (converter : Converter Raw Other Model)

theorem list_puts (scope : Option String) :
    Puts (Call.list scope) (fun answer =>
        (told .retrieve converter.messages.list answer).map
          (List.map fun raw => converter.toModel raw none))
      (list converter scope : Session Raw Other E _) := by
  refine .note _ _ (.ask _ fun reply => ?_)
  cases reply <;> rfl

def creation (model : Model) : Call Raw :=
  .create (converter.identity model).scope (converter.createPayload model)

def replacement (model : Model) : Call Raw :=
  .update (converter.identity model) (converter.updatePayload model)

theorem create_puts (model : Model) :
    Puts (creation converter model) (fun answer =>
        (told .create converter.messages.create answer).map (converter.toModel · none))
      (create converter model : Session Raw Other E _) := by
  refine .note _ _ (.ask _ fun reply => ?_)
  cases reply <;> rfl

theorem update_puts (model : Model) :
    Puts (replacement converter model) (fun answer =>
        (told .update converter.messages.update answer).map (converter.toModel · none))
      (update converter (.existing model) : Session Raw Other E _) := by
  refine .note _ _ (.ask _ fun reply => ?_)
  cases reply <;> rfl

theorem delete_puts (model : Model) :
    Puts (Call.delete (converter.identity model))
      (fun answer => told .delete converter.messages.delete answer)
      (delete converter model : Session Raw Other E _) := by
  refine .note _ _ (.ask _ fun reply => ?_)
  cases reply <;> rfl

end Calls

end Service

end ClusterDesk
