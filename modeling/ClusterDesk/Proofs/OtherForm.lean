import ClusterDesk.Namespace
import ClusterDesk.Proofs.Operations

/-!
What the other form of a resource can do to a reading, however long the answers take and in whatever
order they come. Main statement: `other_form_is_text`: it decides on nothing but the text in which
the resource is shown.
-/

namespace ClusterDesk

namespace Future

variable {α β : Type}

theorem suspensions_bind (future : Future α) (next : α → Future β) :
    (future.bind next).suspensions = future.suspensions + (next future.outcome).suspensions := by
  induction future with
  | settled value => exact (Nat.zero_add _).symm
  | suspended rest ih =>
    simp only [bind, suspensions, outcome, ih]
    omega

@[simp] theorem suspensions_map (future : Future α) (change : α → β) :
    (future.map change).suspensions = future.suspensions := by
  rw [map, suspensions_bind]
  rfl

end Future

namespace Program

variable {Q : Type} {A : Q → Type} {α σ : Type}

/-- A program that asks nothing waits for nothing. -/
theorem suspensions_of_result? {program : Program Q A α} {value : α}
    (settled : program.result? = some value)
    (answer : (question : Q) → σ → Future (A question) × σ) (state : σ) :
    (program.runDelayed answer state).suspensions = 0 := by
  induction program with
  | done other => rfl
  | note record rest ih =>
    rw [runDelayed, Future.suspensions_map]
    exact ih settled
  | ask question rest ih => cases settled
  | both first second rest ih => cases settled

end Program

namespace Service

open Program

/-- Where the models of one kind keep the text in which a resource is shown: what its other form
was, or else a text made of the resource itself. -/
structure Caption {Raw Model : Type} (converter : Converter Raw String Model) where
  render : Raw → String
  text : Model → String
  withText : Model → String → Model
  text_toModel : ∀ raw form, text (converter.toModel raw form) = form.getD (render raw)
  toModel_eq : ∀ raw form other, converter.toModel raw other =
    withText (converter.toModel raw form) (other.getD (render raw))

/-- Backends whose answers take their time. -/
abbrev Deferred (Raw Other E σ : Type) : Type :=
  (call : Call Raw) → σ → Future (Call.Answer Raw Other E call) × σ

section Readings

variable {Raw Other Model E σ τ : Type} [Failure E]

/-- A reading takes as long as the slower one of its two answers, and each is asked for once. -/
structure AsksBoth (converter : Converter Raw Other Model) (id : ResourceId)
    (answer : Deferred Raw Other E σ) (state : σ) : Prop where
  asked : ((get converter id).runDelayed answer state).outcome.asked = [.get id, .secondary id]
  waited : ((get converter id).runDelayed answer state).suspensions =
    max (answer (.get id) state).1.suspensions
      (answer (.secondary id) (answer (.get id) state).2).1.suspensions

/-- Two readings of a resource, told `primary` of the resource itself, and of its other form `form`
the one and `other` the other. -/
structure Alike {converter : Converter Raw String Model} (caption : Caption converter)
    (id : ResourceId) (primary : Except E Raw) (form other : Except E (Option String))
    (first second : Result E Model) : Prop where
  failing : ∀ error, first = .error error ↔ second = .error error
  lost : ∀ cause, primary = .error cause → Failure.notFound cause = false →
    first = .error ⟨.retrieve, converter.messages.get, cause⟩
  absent : ∀ cause, primary = .error cause → Failure.notFound cause = true →
    first = .ok (converter.defaultModel id) ∧ second = .ok (converter.defaultModel id)
  found : ∀ raw, primary = .ok raw → ∃ one two, first = .ok one ∧ second = .ok two ∧
    two = caption.withText one (caption.text two) ∧
    caption.text one = form.toOption.join.getD (caption.render raw) ∧
    caption.text two = other.toOption.join.getD (caption.render raw)

/-- Two readings of a resource, the one told by `answer` and the other by `again`. -/
structure TextAlone {converter : Converter Raw String Model} (caption : Caption converter)
    (id : ResourceId) (answer : Deferred Raw String E σ) (state : σ)
    (again : Deferred Raw String E τ) (later : τ) : Prop where
  first : AsksBoth converter id answer state
  second : AsksBoth converter id again later
  alike : Alike caption id (answer (.get id) state).1.outcome
    (answer (.secondary id) (answer (.get id) state).2).1.outcome
    (again (.secondary id) (again (.get id) later).2).1.outcome
    ((get converter id).runDelayed answer state).outcome.value
    ((get converter id).runDelayed again later).outcome.value

section Timing

variable (converter : Converter Raw Other Model) (id : ResourceId)
  (answer : Deferred Raw Other E σ) (state : σ)

theorem asksBoth : AsksBoth converter id answer state where
  asked := by
    rw [outcome_runDelayed, asked_run, exchanges_get]
    rfl
  waited := by
    show Future.suspensions (Future.map _ (Future.bind (Future.pair _ _) fun values =>
      Future.map _ ((settle converter id values.1 values.2).runDelayed answer _))) = _
    -- Once both answers are there, only a value is left to settle on.
    have settled := suspensions_of_result? (result?_settle converter id
      (answer (.get id) state).1.outcome
      (answer (.secondary id) (answer (.get id) state).2).1.outcome) answer
    rw [Future.suspensions_map, Future.suspensions_bind, Future.suspensions_map,
      Future.suspensions_pair, Future.outcome_pair, settled, Nat.add_zero]

theorem value_get_delayed :
    ((get converter id).runDelayed answer state).outcome.value =
      reading converter id (answer (.get id) state).1.outcome
        (answer (.secondary id) (answer (.get id) state).2).1.outcome := by
  rw [outcome_runDelayed, value_get]

end Timing

theorem alike_reading {converter : Converter Raw String Model} (caption : Caption converter)
    (id : ResourceId) (primary : Except E Raw) (form other : Except E (Option String)) :
    Alike caption id primary form other (reading converter id primary form)
      (reading converter id primary other) := by
  cases primary with
  | ok raw =>
    refine ⟨fun error => ?_, fun cause same => ?_, fun cause same => ?_, fun found same => ?_⟩
    · simp only [reading, reduceCtorEq]
    · cases same
    · cases same
    · cases same
      refine ⟨_, _, rfl, rfl, ?_, caption.text_toModel raw _, caption.text_toModel raw _⟩
      rw [caption.text_toModel]
      exact caption.toModel_eq raw _ _
  | error cause =>
    -- What fails does not look at the other form at all.
    refine ⟨fun error => Iff.rfl, fun other same lost => ?_, fun other same absent => ?_,
      fun raw same => by cases same⟩
    · cases same
      rw [reading, if_neg (Bool.eq_false_iff.mp lost)]
    · cases same
      have stands : reading converter id (.error cause) form = .ok (converter.defaultModel id) :=
        if_pos absent
      exact ⟨stands, stands⟩

theorem textAlone {converter : Converter Raw String Model} (caption : Caption converter)
    (id : ResourceId) (answer : Deferred Raw String E σ) (again : Deferred Raw String E τ)
    (state : σ) (later : τ)
    (same : (answer (.get id) state).1.outcome = (again (.get id) later).1.outcome) :
    TextAlone caption id answer state again later where
  first := asksBoth converter id answer state
  second := asksBoth converter id again later
  alike := by
    rw [value_get_delayed, value_get_delayed, ← same]
    exact alike_reading caption id _ _ _

end Readings

end Service

open Service

def ConfigMap.caption : Caption ConfigMap.converter where
  render manifest := Yaml.print manifest.write
  text := ConfigMap.yaml
  withText map text := { map with yaml := text }
  text_toModel _ _ := rfl
  toModel_eq _ _ _ := rfl

def Namespace.caption (reserved : Reserved) : Caption (Namespace.converter reserved) where
  render manifest := Yaml.print manifest.write
  text := Namespace.yaml
  withText space text := { space with yaml := text }
  text_toModel _ _ := rfl
  toModel_eq _ _ _ := rfl

namespace Service

/-- Two backends that tell the same of a resource, each in its own time, and what they like of its
other form: both are asked for both forms, and the readings differ in the text at most. -/
theorem other_form_is_text {E σ τ : Type} [Failure E] (id : ResourceId) (state : σ) (later : τ) :
    (∀ (answer : Deferred (Manifest Entries) String E σ)
        (again : Deferred (Manifest Entries) String E τ),
      (answer (.get id) state).1.outcome = (again (.get id) later).1.outcome →
        TextAlone ConfigMap.caption id answer state again later) ∧
    ∀ (reserved : Reserved) (answer : Deferred (Manifest LifeCycle) String E σ)
        (again : Deferred (Manifest LifeCycle) String E τ),
      (answer (.get id) state).1.outcome = (again (.get id) later).1.outcome →
        TextAlone (Namespace.caption reserved) id answer state again later :=
  ⟨fun answer again same => textAlone ConfigMap.caption id answer again state later same,
    fun reserved answer again same =>
      textAlone (Namespace.caption reserved) id answer again state later same⟩

private def shared : Manifest Entries :=
  ⟨{ name := some "app", scope := some "prod", uid := some "uid-0" }, {}⟩

/-- Answers with the resource itself after some suspensions, and its other form after others. -/
private def pacing (turns otherTurns : Nat) (form : Except Cause (Option String)) :
    Deferred (Manifest Entries) String Cause Unit
  | .get _, _ => (.after (.ok shared) turns, ())
  | .secondary _, _ => (.after form otherTurns, ())
  | .list _, _ => (.settled (.ok []), ())
  | .create _ payload, _ | .update _ payload, _ => (.settled (.ok payload), ())
  | .delete _, _ => (.settled (.ok ()), ())

/-- A text that comes before the resource, and the late news that there is none. -/
theorem other_form_is_text_missing :
    let reading := fun answer =>
      (get ConfigMap.converter (.namespaced "prod" "app")).runDelayed answer ()
    let prompt := pacing 2 0 (.ok (some "kind: ConfigMap\n"))
    let missing := pacing 0 3 (.error (.status 404 "status 404"))
    (reading missing).suspensions = 3 ∧
      ∃ one two, (reading prompt).outcome.value = .ok one ∧
        (reading missing).outcome.value = .ok two ∧ two = { one with yaml := two.yaml } ∧
        one.yaml = "kind: ConfigMap\n" ∧ two.yaml = Yaml.print shared.write := by
  intro reading prompt missing
  have same : (prompt (.get (.namespaced "prod" "app")) ()).1.outcome =
      (missing (.get (.namespaced "prod" "app")) ()).1.outcome := by
    simp only [prompt, missing, pacing, Future.outcome_after]
  have alone := (other_form_is_text (.namespaced "prod" "app") () ()).1 prompt missing same
  have waited : (reading missing).suspensions = max 0 3 := by
    refine alone.second.waited.trans ?_
    simp only [missing, pacing, Future.suspensions_after]
  exact ⟨waited, alone.alike.found shared rfl⟩

end Service

end ClusterDesk
