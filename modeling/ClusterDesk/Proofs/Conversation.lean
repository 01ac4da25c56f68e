import ClusterDesk.Program

/-!
Conversations: what is asked and answered in a run, in order. Main statements: the questions of a
conversation are those of the run and make of the state what the run leaves, the conversation of a
sequence is that of its parts one after another, and a program that asks nothing more, or one thing
only, is known by its value.
-/

namespace ClusterDesk.Program

variable {Q : Type} {A : Q → Type} {α β σ : Type}

abbrev Exchange (Q : Type) (A : Q → Type) : Type := (question : Q) × A question

/-- What is asked and answered when the surroundings answer from `state`. -/
def exchanges (answer : (question : Q) → σ → A question × σ) :
    Program Q A α → σ → List (Exchange Q A)
  | done _, _ => []
  | note _ next, state => next.exchanges answer state
  | ask question next, state =>
    let (reply, later) := answer question state
    ⟨question, reply⟩ :: (next reply).exchanges answer later
  | both first second next, state =>
    let (one, middle) := answer first state
    let (two, later) := answer second middle
    ⟨first, one⟩ :: ⟨second, two⟩ :: (next one two).exchanges answer later

/-- Answers one question. Of two that are put at once either may be answered first: the second one
if `later`. -/
def advance (answer : (question : Q) → σ → A question × σ) (later : Bool) :
    Program Q A α → σ → Program Q A α × σ
  | done value, state => (done value, state)
  | note _ next, state => next.advance answer later state
  | ask question next, state =>
    let (reply, after) := answer question state
    (next reply, after)
  | both first second next, state =>
    if later then
      let (two, after) := answer second state
      (ask first fun one => next one two, after)
    else
      let (one, after) := answer first state
      (ask second fun two => next one two, after)

/-- The value of a program that asks nothing more. -/
def result? : Program Q A α → Option α
  | done value => some value
  | note _ next => next.result?
  | ask _ _ | both _ _ _ => none

/-- Asks one question and nothing else; `make` turns its answer into the value. -/
inductive Puts (question : Q) (make : A question → α) : Program Q A α → Prop
  | note (record next) (rest : Puts question make next) : Puts question make (.note record next)
  | ask (next) (settled : ∀ reply, (next reply).result? = some (make reply)) :
    Puts question make (.ask question next)

theorem bind_eq (program : Program Q A α) (next : α → Program Q A β) :
    program >>= next = program.bind next := rfl

/-- A step of a sequence is its last one, or comes before it. -/
theorem split_concat {front before after : List α} {final step : α}
    (split : front ++ [final] = before ++ step :: after) :
    (front = before ∧ final = step ∧ after = []) ∨
      ∃ middle, after = middle ++ [final] ∧ front = before ++ step :: middle := by
  rcases List.eq_nil_or_concat after with rfl | ⟨middle, last, rfl⟩
  · obtain ⟨same, single⟩ := List.append_inj' split rfl
    exact .inl ⟨same, List.singleton_inj.mp single, rfl⟩
  · rw [List.concat_eq_append, ← List.cons_append, ← List.append_assoc] at split
    obtain ⟨same, single⟩ := List.append_inj' split rfl
    cases List.singleton_inj.mp single
    exact .inr ⟨middle, List.concat_eq_append, same⟩

section Runs

variable (answer : (question : Q) → σ → A question × σ)

theorem asked_run (program : Program Q A α) (state : σ) :
    (program.run answer state).asked = (program.exchanges answer state).map (·.1) := by
  induction program generalizing state with
  | done value => rfl
  | note record next ih => exact ih state
  | ask question next ih =>
    have rest := ih (answer question state).1 (answer question state).2
    simp only [run, exchanges, List.map_cons, rest]
  | both first second next ih =>
    have rest := ih (answer first state).1 (answer second (answer first state).2).1
      (answer second (answer first state).2).2
    simp only [run, exchanges, List.map_cons, rest]

/-- The first answer is given in the state at the start. -/
theorem answered_first {program : Program Q A α} {state : σ} {step : Exchange Q A}
    {rest : List (Exchange Q A)} (talk : program.exchanges answer state = step :: rest) :
    (answer step.1 state).1 = step.2 := by
  induction program with
  | done value => cases talk
  | note record next ih => exact ih talk
  | ask question next _ =>
    cases (List.cons.inj talk).1
    rfl
  | both first second next _ =>
    cases (List.cons.inj talk).1
    rfl

/-- The state at the end is what the questions have made of it, one after another. -/
theorem state_run_eq_foldl (program : Program Q A α) (state : σ) :
    (program.run answer state).state =
      (program.exchanges answer state).foldl (fun later step => (answer step.1 later).2) state := by
  induction program generalizing state with
  | done value => rfl
  | note record next ih => exact ih state
  | ask question next ih => exact ih _ _
  | both first second next ih => exact ih _ _ _

theorem value_run_bind (program : Program Q A α) (next : α → Program Q A β) (state : σ) :
    ((program.bind next).run answer state).value =
      ((next (program.run answer state).value).run answer
        (program.run answer state).state).value := by
  rw [run_bind]

theorem state_run_bind (program : Program Q A α) (next : α → Program Q A β) (state : σ) :
    ((program.bind next).run answer state).state =
      ((next (program.run answer state).value).run answer
        (program.run answer state).state).state := by
  rw [run_bind]

theorem exchanges_bind (program : Program Q A α) (next : α → Program Q A β) (state : σ) :
    (program.bind next).exchanges answer state =
      program.exchanges answer state ++
        (next (program.run answer state).value).exchanges answer
          (program.run answer state).state := by
  induction program generalizing state with
  | done value => rfl
  | note record rest ih => exact ih state
  | ask question rest ih =>
    have later := ih (answer question state).1 (answer question state).2
    simp only [bind, exchanges, run, later, List.cons_append]
  | both first second rest ih =>
    have later := ih (answer first state).1 (answer second (answer first state).2).1
      (answer second (answer first state).2).2
    simp only [bind, exchanges, run, later, List.cons_append]

/-- Whatever is told was answered, in some state on the way. -/
theorem answered_of_mem (program : Program Q A α) (state : σ) {step : Exchange Q A}
    (told : step ∈ program.exchanges answer state) :
    ∃ asked : σ, (answer step.1 asked).1 = step.2 := by
  induction program generalizing state with
  | done value => cases told
  | note record next ih => exact ih state told
  | ask question next ih =>
    rcases List.mem_cons.mp told with rfl | later
    · exact ⟨state, rfl⟩
    · exact ih _ _ later
  | both first second next ih =>
    rcases List.mem_cons.mp told with rfl | rest
    · exact ⟨state, rfl⟩
    · rcases List.mem_cons.mp rest with rfl | later
      · exact ⟨_, rfl⟩
      · exact ih _ _ _ later

end Runs

section Settled

variable {program : Program Q A α} {value : α}

theorem result?_bind (next : α → Program Q A β) (settled : program.result? = some value) :
    (program.bind next).result? = (next value).result? := by
  induction program with
  | done other =>
    cases Option.some.inj settled
    rfl
  | note record rest ih => exact ih settled
  | ask question rest ih => cases settled
  | both first second rest ih => cases settled

theorem value_run_of_result? (answer : (question : Q) → σ → A question × σ)
    (settled : program.result? = some value) (state : σ) :
    (program.run answer state).value = value := by
  induction program with
  | done other => exact Option.some.inj settled
  | note record rest ih => exact ih settled
  | ask question rest ih => cases settled
  | both first second rest ih => cases settled

theorem state_run_of_result? (answer : (question : Q) → σ → A question × σ)
    (settled : program.result? = some value) (state : σ) :
    (program.run answer state).state = state := by
  induction program with
  | done other => rfl
  | note record rest ih => exact ih settled
  | ask question rest ih => cases settled
  | both first second rest ih => cases settled

theorem advance_of_result? (answer : (question : Q) → σ → A question × σ)
    (settled : program.result? = some value) (later : Bool) (state : σ) :
    (program.advance answer later state).1.result? = some value ∧
      (program.advance answer later state).2 = state := by
  induction program with
  | done other => exact ⟨settled, rfl⟩
  | note record rest ih => exact ih settled
  | ask question rest ih => cases settled
  | both first second rest ih => cases settled

theorem exchanges_of_result? (answer : (question : Q) → σ → A question × σ)
    (settled : program.result? = some value) (state : σ) :
    program.exchanges answer state = [] := by
  induction program with
  | done other => rfl
  | note record rest ih => exact ih settled
  | ask question rest ih => cases settled
  | both first second rest ih => cases settled

end Settled

namespace Puts

variable {program : Program Q A α} {question : Q} {make : A question → α}

theorem bind {next : α → Program Q A β} {more : α → β} (puts : Puts question make program)
    (settled : ∀ value, (next value).result? = some (more value)) :
    Puts question (fun reply => more (make reply)) (program.bind next) := by
  induction puts with
  | note record rest _ ih => exact .note record _ ih
  | ask rest ready =>
    refine .ask _ fun reply => ?_
    rw [result?_bind next (ready reply)]
    exact settled (make reply)

theorem after {first : Program Q A β} {value : β} {next : β → Program Q A α}
    (settled : first.result? = some value) (puts : Puts question make (next value)) :
    Puts question make (first.bind next) := by
  induction first with
  | done other =>
    cases Option.some.inj settled
    exact puts
  | note record rest ih => exact .note record _ (ih settled)
  | ask other rest ih => cases settled
  | both first second rest ih => cases settled

theorem value_run (puts : Puts question make program)
    (answer : (question : Q) → σ → A question × σ) (state : σ) :
    (program.run answer state).value = make (answer question state).1 := by
  induction puts with
  | note record rest _ ih => exact ih
  | ask rest ready => exact value_run_of_result? answer (ready _) _

theorem state_run (puts : Puts question make program)
    (answer : (question : Q) → σ → A question × σ) (state : σ) :
    (program.run answer state).state = (answer question state).2 := by
  induction puts with
  | note record rest _ ih => exact ih
  | ask rest ready => exact state_run_of_result? answer (ready _) _

theorem run_of_answer (puts : Puts question make program)
    {answer : (question : Q) → σ → A question × σ} {state later : σ} {reply : A question}
    (answered : answer question state = (reply, later)) :
    (program.run answer state).value = make reply ∧ (program.run answer state).state = later := by
  rw [puts.value_run, puts.state_run, answered]
  exact ⟨rfl, rfl⟩

theorem unsettled (puts : Puts question make program) : program.result? = none := by
  induction puts with
  | note record rest _ ih => exact ih
  | ask rest ready => rfl

theorem advance_eq (puts : Puts question make program)
    (answer : (question : Q) → σ → A question × σ) (later : Bool) (state : σ) :
    (program.advance answer later state).1.result? = some (make (answer question state).1) ∧
      (program.advance answer later state).2 = (answer question state).2 := by
  induction puts with
  | note record rest _ ih => exact ih
  | ask rest ready => exact ⟨ready _, rfl⟩

theorem exchanges_eq (puts : Puts question make program)
    (answer : (question : Q) → σ → A question × σ) (state : σ) :
    program.exchanges answer state = [⟨question, (answer question state).1⟩] := by
  induction puts with
  | note record rest _ ih => exact ih
  | ask rest ready =>
    exact congrArg (⟨question, (answer question state).1⟩ :: ·)
      (exchanges_of_result? answer (ready _) _)

end Puts

end ClusterDesk.Program
