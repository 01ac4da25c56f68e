import ClusterDesk.Future
import ClusterDesk.Log

/-!
Programs that put questions to their surroundings. A program is a finite tree of questions and
log records; what it does is decided by whoever answers. Main statements: running answers the
questions in the order in which they are asked, and the time an answer takes changes nothing.
-/

namespace ClusterDesk

/-- Asks questions of type `Q`; the question `q` is answered by a value of type `A q`. -/
inductive Program (Q : Type) (A : Q → Type) (α : Type) where
  | done (value : α)
  | note (record : Log.Record) (next : Program Q A α)
  | ask (question : Q) (next : A question → Program Q A α)
  /-- Two questions at once, each answered on its own. -/
  | both (first second : Q) (next : A first → A second → Program Q A α)

namespace Program

variable {Q R : Type} {A : Q → Type} {B : R → Type} {α β σ : Type}

def bind : Program Q A α → (α → Program Q A β) → Program Q A β
  | done value, next => next value
  | note record rest, next => note record (rest.bind next)
  | ask question rest, next => ask question fun answer => (rest answer).bind next
  | both first second rest, next => both first second fun a b => (rest a b).bind next

instance : Monad (Program Q A) where
  pure := done
  bind := bind

/-- Puts one question and returns its answer. -/
def query (question : Q) : Program Q A (A question) := ask question done

/-- Puts two questions at once and returns both answers. -/
def queryBoth (first second : Q) : Program Q A (A first × A second) :=
  both first second fun a b => done (a, b)

def log (level : Log.Level) (source : Log.Source) (text : String) : Program Q A Unit :=
  note ⟨level, source, text⟩ (done ())

/-- What a run leaves behind: its value, the records and the questions in order, the final
surroundings. -/
structure Run (Q σ α : Type) where
  value : α
  records : List Log.Record
  asked : List Q
  state : σ

/-- Answers every question from the surroundings `state`, one after another. -/
def run (answer : (question : Q) → σ → A question × σ) : Program Q A α → σ → Run Q σ α
  | done value, state => ⟨value, [], [], state⟩
  | note record next, state =>
    let rest := next.run answer state
    { rest with records := record :: rest.records }
  | ask question next, state =>
    let (reply, later) := answer question state
    let rest := (next reply).run answer later
    { rest with asked := question :: rest.asked }
  | both first second next, state =>
    let (one, middle) := answer first state
    let (two, later) := answer second middle
    let rest := (next one two).run answer later
    { rest with asked := first :: second :: rest.asked }

/-- Answers that may take their time; two questions put at once are waited for together. -/
def runDelayed (answer : (question : Q) → σ → Future (A question) × σ) :
    Program Q A α → σ → Future (Run Q σ α)
  | done value, state => .settled ⟨value, [], [], state⟩
  | note record next, state =>
    (next.runDelayed answer state).map fun rest => { rest with records := record :: rest.records }
  | ask question next, state =>
    let (reply, later) := answer question state
    reply.bind fun value =>
      ((next value).runDelayed answer later).map fun rest =>
        { rest with asked := question :: rest.asked }
  | both first second next, state =>
    let (one, middle) := answer first state
    let (two, later) := answer second middle
    (Future.pair one two).bind fun values =>
      ((next values.1 values.2).runDelayed answer later).map fun rest =>
        { rest with asked := first :: second :: rest.asked }

/-- Runs the program in a monad that knows the answers. -/
def perform {m : Type → Type} [Monad m] (answer : (question : Q) → m (A question))
    (log : Log.Record → m Unit) : Program Q A α → m α
  | done value => pure value
  | note record next => log record >>= fun _ => next.perform answer log
  | ask question next => answer question >>= fun reply => (next reply).perform answer log
  | both first second next =>
    answer first >>= fun one => answer second >>= fun two => (next one two).perform answer log

/-- Answers the questions by programs over other questions, keeping surroundings `state`. -/
def translate (answer : (question : Q) → σ → Program R B (A question × σ)) :
    Program Q A α → σ → Program R B (α × σ)
  | done value, state => done (value, state)
  | note record next, state => note record (next.translate answer state)
  | ask question next, state =>
    (answer question state).bind fun reply => (next reply.1).translate answer reply.2
  | both first second next, state =>
    (answer first state).bind fun one =>
      (answer second one.2).bind fun two => (next one.1 two.1).translate answer two.2

/-- Puts every question in the words of another asker. -/
def relay (ask : Q → R) (answer : (question : Q) → B (ask question) → A question) :
    Program Q A α → Program R B α
  | done value => done value
  | note record next => note record (next.relay ask answer)
  | .ask question next =>
    .ask (ask question) fun reply => (next (answer question reply)).relay ask answer
  | both first second next =>
    both (ask first) (ask second) fun one two =>
      (next (answer first one) (answer second two)).relay ask answer

theorem bind_done (program : Program Q A α) : program.bind done = program := by
  induction program with
  | done value => rfl
  | note record next ih => simp [bind, ih]
  | ask question next ih => simp [bind, ih]
  | both first second next ih => simp [bind, ih]

theorem bind_assoc {γ : Type} (program : Program Q A α) (f : α → Program Q A β)
    (g : β → Program Q A γ) : (program.bind f).bind g = program.bind fun a => (f a).bind g := by
  induction program with
  | done value => rfl
  | note record next ih => simp [bind, ih]
  | ask question next ih => simp [bind, ih]
  | both first second next ih => simp [bind, ih]

instance : LawfulMonad (Program Q A) :=
  LawfulMonad.mk' (Program Q A) (fun program => bind_done program) (fun _ _ => rfl)
    (fun program f g => bind_assoc program f g)

/-- A run of a sequence is the run of its first part followed by the run of the rest. -/
theorem run_bind (answer : (question : Q) → σ → A question × σ) (program : Program Q A α)
    (next : α → Program Q A β) (state : σ) :
    (program.bind next).run answer state =
      let first := program.run answer state
      let second := (next first.value).run answer first.state
      ⟨second.value, first.records ++ second.records, first.asked ++ second.asked,
        second.state⟩ := by
  induction program generalizing state with
  | done value => simp [bind, run]
  | note record rest ih => simp [bind, run, ih]
  | ask question rest ih => simp [bind, run, ih]
  | both first second rest ih => simp [bind, run, ih]

/-- However long the answers take, the outcome is that of answering at once. -/
theorem outcome_runDelayed (answer : (question : Q) → σ → Future (A question) × σ)
    (program : Program Q A α) (state : σ) :
    (program.runDelayed answer state).outcome =
      program.run (fun question state => ((answer question state).1.outcome,
        (answer question state).2)) state := by
  induction program generalizing state with
  | done value => rfl
  | note record next ih => simp [runDelayed, run, Future.map, Future.outcome, ih]
  | ask question next ih => simp [runDelayed, run, Future.map, Future.outcome, ih]
  | both first second next ih => simp [runDelayed, run, Future.map, Future.outcome, ih]

end Program

end ClusterDesk
