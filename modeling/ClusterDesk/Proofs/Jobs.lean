import ClusterDesk.Proofs.Operations

/-!
Operations on resources as jobs, each told by the one call that decides how it ends. Main
statements: a job fails exactly if that call does, with its cause, unless what was read by its name
is not there; every model that a job answers with is made of an answer, or stands for the absence
of what was asked for.
-/

namespace ClusterDesk

section Answers

variable {Raw Other E : Type}

def failureOf {α : Type} : Except E α → Option E
  | .ok _ => none
  | .error cause => some cause

/-- The cause of a failed call. -/
def Call.failure? : (call : Call Raw) → Call.Answer Raw Other E call → Option E
  | .get _, answer => failureOf answer
  | .secondary _, answer => failureOf answer
  | .list _, answer => failureOf answer
  | .create _ _, answer => failureOf answer
  | .update _ _, answer => failureOf answer
  | .delete _, answer => failureOf answer

/-- The operation that a call belongs to. -/
def Call.operation : Call Raw → Operation
  | .get _ | .secondary _ | .list _ => .retrieve
  | .create _ _ => .create
  | .update _ _ => .update
  | .delete _ => .delete

/-- What to tell when a call fails. -/
def Messages.of (messages : Messages) : Call Raw → String
  | .get _ | .secondary _ => messages.get
  | .list _ => messages.list
  | .create _ _ => messages.create
  | .update _ _ => messages.update
  | .delete _ => messages.delete

end Answers

namespace Service

open Program

/-- An operation, with what it is given. -/
inductive Job (Model : Type) where
  | get (id : ResourceId)
  | fetch (scope name : Option String)
  | list (scope : Option String)
  | create (model : Model)
  | update (draft : Draft Model)
  | delete (model : Model)

variable {Raw Other Model E σ α β : Type}

namespace Job

abbrev Value : Job Model → Type
  | get _ | create _ | update _ => Model
  | fetch _ _ => Fetched Model
  | list _ => List Model
  | delete _ => Unit

def session [Failure E] (converter : Converter Raw Other Model) :
    (job : Job Model) → Session Raw Other E (Result E job.Value)
  | get id => Service.get converter id
  | fetch scope name => Service.fetch converter scope name
  | list scope => Service.list converter scope
  | create model => Service.create converter model
  | update draft => Service.update converter draft
  | delete model => Service.delete converter model

/-- The call that decides how the job ends. -/
def primary (converter : Converter Raw Other Model) : Job Model → Call Raw
  | get id => .get id
  | fetch scope (some name) => .get ⟨scope, name⟩
  | fetch scope none => .list scope
  | list scope => .list scope
  | create model | update (.new model) => creation converter model
  | update (.existing model) => replacement converter model
  | delete model => .delete (converter.identity model)

/-- What is answered when there is no resource of the name asked for; nothing for jobs that do not
ask for one by its name. -/
def absent? (converter : Converter Raw Other Model) : (job : Job Model) → Option job.Value
  | get id => some (converter.defaultModel id)
  | fetch scope (some name) => some (.one (converter.defaultModel ⟨scope, name⟩))
  | fetch _ none | list _ | create _ | update _ | delete _ => none

/-- The models in a value. -/
def shown : (job : Job Model) → job.Value → List Model
  | get _, model | create _, model | update _, model => [model]
  | fetch _ _, .one model => [model]
  | fetch _ _, .many models => models
  | list _, models => models
  | delete _, _ => []

/-- How the job ends when `reply` answers the deciding call, and `other` the call for the other
form if there is one. -/
def outcome [Failure E] (converter : Converter Raw Other Model) :
    (job : Job Model) → Call.Answer Raw Other E (job.primary converter) →
      Except E (Option Other) → Result E job.Value
  | get id, reply, other => reading converter id reply other
  | fetch scope (some name), reply, other =>
    (reading converter ⟨scope, name⟩ reply other).map .one
  | fetch _ none, reply, _ =>
    (told .retrieve converter.messages.list reply).map fun raws =>
      .many (raws.map fun raw => converter.toModel raw none)
  | list _, reply, _ =>
    (told .retrieve converter.messages.list reply).map
      (List.map fun raw => converter.toModel raw none)
  | create _, reply, _ | update (.new _), reply, _ =>
    (told .create converter.messages.create reply).map (converter.toModel · none)
  | update (.existing _), reply, _ =>
    (told .update converter.messages.update reply).map (converter.toModel · none)
  | delete _, reply, _ => told .delete converter.messages.delete reply

end Job

/-- The call is put first, and all else that is asked for is another form; `holds` of its reply and
of the value. -/
def Decides (call : Call Raw) (holds : Call.Answer Raw Other E call → α → Prop)
    (talk : List (Exchange (Call Raw) (Call.Answer Raw Other E))) (value : α) : Prop :=
  ∃ reply rest, talk = ⟨call, reply⟩ :: rest ∧ (∀ step ∈ rest, ∃ id, step.1 = .secondary id) ∧
    holds reply value

section Runs

variable (answer : (call : Call Raw) → σ → Call.Answer Raw Other E call × σ) (state : σ)

namespace Decides

variable {call : Call Raw} {holds : Call.Answer Raw Other E call → α → Prop}
  {program : Session Raw Other E α}

theorem of_puts {make : Call.Answer Raw Other E call → α} (puts : Puts call make program)
    (made : ∀ reply, holds reply (make reply)) :
    Decides call holds (program.exchanges answer state) (program.run answer state).value := by
  rw [puts.exchanges_eq, puts.value_run]
  exact ⟨_, [], rfl, fun _ member => (List.not_mem_nil member).elim, made _⟩

theorem of_get [Failure E] (converter : Converter Raw Other Model) (id : ResourceId) :
    Decides (.get id) (fun reply result => ∃ other, result = reading converter id reply other)
      ((get converter id).exchanges answer state) ((get converter id).run answer state).value := by
  rw [exchanges_get, value_get]
  refine ⟨_, _, rfl, ?_, _, rfl⟩
  intro step member
  rw [List.mem_singleton.mp member]
  exact ⟨id, rfl⟩

variable {answer state}

theorem map (change : α → β) {after : Call.Answer Raw Other E call → β → Prop}
    (kept : ∀ reply value, holds reply value → after reply (change value))
    (decides : Decides call holds (program.exchanges answer state)
      (program.run answer state).value) :
    Decides call after ((program.bind fun value => .done (change value)).exchanges answer state)
      ((program.bind fun value => .done (change value)).run answer state).value := by
  obtain ⟨reply, rest, talk, others, held⟩ := decides
  rw [exchanges_bind, value_run_bind, talk]
  exact ⟨reply, rest, List.append_nil _, others, kept reply _ held⟩

end Decides

variable [Failure E] (converter : Converter Raw Other Model)

theorem decides_job (job : Job Model) :
    Decides (job.primary converter)
      (fun reply result => ∃ other, result = job.outcome converter reply other)
      ((job.session converter).exchanges answer state)
      ((job.session converter).run answer state).value := by
  cases job with
  | get id => exact .of_get answer state converter id
  | fetch scope name =>
    cases name with
    | some name =>
      have read := Decides.of_get answer state converter ⟨scope, name⟩
      refine Decides.map (Except.map Fetched.one) ?_ read
      rintro reply _ ⟨other, rfl⟩
      exact ⟨other, rfl⟩
    | none =>
      have listed := Decides.of_puts answer state (list_puts converter scope) fun _ => rfl
      refine Decides.map (Except.map Fetched.many) ?_ listed
      rintro reply _ rfl
      exact ⟨.ok none, by cases reply <;> rfl⟩
  | list scope => exact .of_puts answer state (list_puts converter scope) fun _ => ⟨.ok none, rfl⟩
  | create model =>
    exact .of_puts answer state (create_puts converter model) fun _ => ⟨.ok none, rfl⟩
  | update draft =>
    cases draft with
    | new model =>
      exact .of_puts answer state (create_puts converter model) fun _ => ⟨.ok none, rfl⟩
    | existing model =>
      exact .of_puts answer state (update_puts converter model) fun _ => ⟨.ok none, rfl⟩
  | delete model =>
    exact .of_puts answer state (delete_puts converter model) fun _ => ⟨.ok none, rfl⟩

end Runs

section Verdicts

variable [Failure E]

/-- What a call that failed with `cause` is told as. -/
def blame (converter : Converter Raw Other Model) (call : Call Raw) (cause : E) : ServiceError E :=
  ⟨call.operation, converter.messages.of call, cause⟩

/-- A job fails exactly if the call does that decides how it ends, and is told as that call. Only
the absence of what was asked for by its name is answered with what stands for it. -/
structure Verdict (converter : Converter Raw Other Model) (job : Job Model)
    (reply : Call.Answer Raw Other E (job.primary converter)) (result : Result E job.Value) :
    Prop where
  failing : ∀ error, result = .error error ↔
    ∃ cause, (job.primary converter).failure? reply = some cause ∧
      ¬ (Failure.notFound cause = true ∧ (job.absent? converter).isSome = true) ∧
      error = blame converter (job.primary converter) cause
  absent : ∀ cause value, (job.primary converter).failure? reply = some cause →
    Failure.notFound cause = true → job.absent? converter = some value → result = .ok value

namespace Verdict

variable {converter : Converter Raw Other Model} {job : Job Model}
  {reply : Call.Answer Raw Other E (job.primary converter)} {result : Result E job.Value}

theorem of_cases
    (done : (job.primary converter).failure? reply = none → result.isOk = true)
    (lost : ∀ cause, (job.primary converter).failure? reply = some cause →
      ¬ (Failure.notFound cause = true ∧ (job.absent? converter).isSome = true) →
      result = .error (blame converter (job.primary converter) cause))
    (absent : ∀ cause value, (job.primary converter).failure? reply = some cause →
      Failure.notFound cause = true → job.absent? converter = some value → result = .ok value) :
    Verdict converter job reply result := by
  refine ⟨fun error => ⟨?_, ?_⟩, absent⟩
  · rintro rfl
    cases failed : (job.primary converter).failure? reply with
    | none => cases done failed
    | some cause =>
      by_cases spared : Failure.notFound cause = true ∧ (job.absent? converter).isSome = true
      · obtain ⟨value, stands⟩ := Option.isSome_iff_exists.mp spared.2
        cases absent cause value failed spared.1 stands
      · exact ⟨cause, rfl, spared, Except.error.inj (lost cause failed spared)⟩
  · rintro ⟨cause, failed, spared, rfl⟩
    exact lost cause failed spared

theorem of_told {answer : Except E α} {make : α → job.Value}
    (unnamed : job.absent? converter = none)
    (failed : (job.primary converter).failure? reply = failureOf answer)
    (same : result = (told (job.primary converter).operation
      (converter.messages.of (job.primary converter)) answer).map make) :
    Verdict converter job reply result := by
  subst same
  refine of_cases ?_ ?_ ?_ <;> rw [failed]
  · intro done
    cases answer with
    | ok value => rfl
    | error cause => cases done
  · rintro cause lost -
    cases answer with
    | ok value => cases lost
    | error other =>
      cases lost
      rfl
  · intro cause value _ _ stands
    rw [unnamed] at stands
    cases stands

theorem of_reading {id : ResourceId} {answer : Except E Raw} {other : Except E (Option Other)}
    {make : Model → job.Value} (call : job.primary converter = .get id)
    (named : job.absent? converter = some (make (converter.defaultModel id)))
    (failed : (job.primary converter).failure? reply = failureOf answer)
    (same : result = (reading converter id answer other).map make) :
    Verdict converter job reply result := by
  subst same
  refine of_cases ?_ ?_ ?_ <;> rw [failed]
  · intro done
    cases answer with
    | ok raw => rfl
    | error cause => cases done
  · intro cause lost kept
    cases answer with
    | ok raw => cases lost
    | error other =>
      cases lost
      have found : ¬ Failure.notFound cause = true := by
        intro absent
        exact kept ⟨absent, Option.isSome_iff_exists.mpr ⟨_, named⟩⟩
      rw [reading, if_neg found, call]
      rfl
  · intro cause value lost missing stands
    cases answer with
    | ok raw => cases lost
    | error other =>
      cases lost
      rw [reading, if_pos missing]
      exact congrArg Except.ok (Option.some.inj (named.symm.trans stands))

end Verdict

variable (converter : Converter Raw Other Model)

theorem verdict_outcome (job : Job Model)
    (reply : Call.Answer Raw Other E (job.primary converter)) (other : Except E (Option Other)) :
    Verdict converter job reply (job.outcome converter reply other) := by
  cases job with
  | get id =>
    have same := congrFun Except.map_id (reading converter id reply other)
    exact .of_reading rfl rfl rfl same.symm
  | fetch scope name =>
    cases name with
    | some name => exact .of_reading rfl rfl rfl rfl
    | none => exact .of_told rfl rfl rfl
  | list scope => exact .of_told rfl rfl rfl
  | create model => exact .of_told rfl rfl rfl
  | update draft =>
    cases draft with
    | new model => exact .of_told rfl rfl rfl
    | existing model => exact .of_told rfl rfl rfl
  | delete model =>
    have same := congrFun Except.map_id (told .delete converter.messages.delete reply)
    exact .of_told rfl rfl same.symm

/-- Whatever the backend answers, a job ends as the deciding call does; to save a new model is the
same as to create it. -/
theorem failures_follow_calls :
    (∀ {σ : Type} (answer : (call : Call Raw) → σ → Call.Answer Raw Other E call × σ) (state : σ)
        (job : Job Model),
      Decides (job.primary converter) (Verdict converter job)
        ((job.session converter).exchanges answer state)
        ((job.session converter).run answer state).value) ∧
    ∀ model : Model, (Job.update (.new model)).session converter =
      ((Job.create model).session converter : Session Raw Other E _) := by
  refine ⟨fun answer state job => ?_, fun model => rfl⟩
  obtain ⟨reply, rest, talk, others, other, same⟩ := decides_job answer state converter job
  refine ⟨reply, rest, talk, others, ?_⟩
  rw [same]
  exact verdict_outcome converter job reply other

end Verdicts

section Models

variable (converter : Converter Raw Other Model)

/-- What an answer was turned into, or what stands for the absence of a resource. -/
def Made (model : Model) : Prop :=
  (∃ raw form, model = converter.toModel raw form) ∨ ∃ id, model = converter.defaultModel id

private theorem map_eq_ok {result : Result E α} {make : α → β} {value : β}
    (done : result.map make = .ok value) : ∃ inner, result = .ok inner ∧ value = make inner := by
  cases result with
  | ok inner => exact ⟨inner, rfl, (Except.ok.inj done).symm⟩
  | error error => cases done

variable [Failure E]

theorem made_of_reading {id : ResourceId} {primary : Except E Raw}
    {other : Except E (Option Other)} {model : Model}
    (found : reading converter id primary other = .ok model) : Made converter model := by
  cases primary with
  | ok raw =>
    cases found
    exact .inl ⟨raw, _, rfl⟩
  | error cause =>
    rw [reading] at found
    split at found
    · cases found
      exact .inr ⟨id, rfl⟩
    · cases found

theorem made_of_outcome (job : Job Model)
    (reply : Call.Answer Raw Other E (job.primary converter)) (other : Except E (Option Other))
    (value : job.Value) (done : job.outcome converter reply other = .ok value) :
    ∀ model ∈ job.shown value, Made converter model := by
  have single (raw : Raw) : ∀ model ∈ [converter.toModel raw none], Made converter model := by
    intro model member
    exact .inl ⟨raw, none, List.mem_singleton.mp member⟩
  have several (raws : List Raw) :
      ∀ model ∈ raws.map (converter.toModel · none), Made converter model := by
    intro model member
    obtain ⟨raw, -, rfl⟩ := List.mem_map.mp member
    exact .inl ⟨raw, none, rfl⟩
  have read {id : ResourceId} {primary : Except E Raw} {found : Model}
      (ok : reading converter id primary other = .ok found) :
      ∀ model ∈ [found], Made converter model := by
    intro model member
    rw [List.mem_singleton.mp member]
    exact made_of_reading converter ok
  cases job with
  | get id => exact read done
  | fetch scope name =>
    cases name with
    | some name =>
      obtain ⟨model, found, rfl⟩ := map_eq_ok done
      exact read found
    | none =>
      obtain ⟨raws, -, rfl⟩ := map_eq_ok done
      exact several raws
  | list scope =>
    obtain ⟨raws, -, rfl⟩ := map_eq_ok done
    exact several raws
  | create model =>
    obtain ⟨raw, -, rfl⟩ := map_eq_ok done
    exact single raw
  | update draft =>
    cases draft with
    | new model =>
      obtain ⟨raw, -, rfl⟩ := map_eq_ok done
      exact single raw
    | existing model =>
      obtain ⟨raw, -, rfl⟩ := map_eq_ok done
      exact single raw
  | delete model => exact fun _ member => (List.not_mem_nil member).elim

theorem made_of_run (answer : (call : Call Raw) → σ → Call.Answer Raw Other E call × σ) (state : σ)
    (job : Job Model) (value : job.Value)
    (done : ((job.session converter).run answer state).value = .ok value) :
    ∀ model ∈ job.shown value, Made converter model := by
  obtain ⟨reply, -, -, -, other, same⟩ := decides_job answer state converter job
  exact made_of_outcome converter job reply other value (same.symm.trans done)

end Models

end Service

end ClusterDesk
