import ClusterDesk.Proofs.Overlap
import Mathlib.Data.List.Chain

/-!
The flag by which an editor tells of an action in progress, when saves of one editor overlap. There
is one flag for all of them: each raises it when it begins and lowers it when it returns, whether or
not others go on. Main statement: `flag_follows_turns`.
-/

namespace ClusterDesk.Overlap

open Program Editor

/-- The editor whose save a client is waiting in. -/
def serving (waiting : Nat → Option Waiting) : Nat → Option Nat := Option.map Waiting.editor ∘ waiting

/-- A save of the editor has begun and not returned. -/
def Engaged (waiting : Nat → Option Waiting) (editor : Nat) : Prop :=
  ∃ client, serving waiting client = some editor

/-- Whether a save of the editor begins or returns. -/
def turn? (editor : Nat) : Occurrence → Option Bool
  | .begun other _ => if other = editor then some true else none
  | .returned other _ _ => if other = editor then some false else none
  | .kept _ _ | .taken _ _ => none

/-- No save of the editor has begun before the one begun last had returned. -/
def OneByOne (editor : Nat) (log : List Occurrence) : Prop :=
  (log.filterMap (turn? editor)).IsChain fun before after => before = true → after = false

structure FollowsTurns (editor : Nat) (flag : Bool) (serving : Nat → Option Nat)
    (log : List Occurrence) : Prop where
  flag : flag = (latest (turn? editor) log).getD false
  engaged : latest (turn? editor) log = some true → ∃ client, serving client = some editor
  sole : OneByOne editor log → ∀ client, serving client = some editor →
    latest (turn? editor) log = some true ∧
      ∀ other, serving other = some editor → other = client

namespace FollowsTurns

variable {editor client : Nat} {flag : Bool} {serving : Nat → Option Nat} {log : List Occurrence}

theorem flag_iff (follows : FollowsTurns editor flag serving log) :
    flag = true ↔ latest (turn? editor) log = some true := by
  rw [follows.flag]
  cases latest (turn? editor) log <;> simp

/-- Nothing in this is a turn of the editor. -/
theorem aside (follows : FollowsTurns editor flag serving log) {now : Nat → Option Nat}
    (same : ∀ client, now client = some editor ↔ serving client = some editor)
    {more : List Occurrence} (silent : more.filterMap (turn? editor) = []) :
    FollowsTurns editor flag now (log ++ more) := by
  have turns : (log ++ more).filterMap (turn? editor) = log.filterMap (turn? editor) := by
    rw [List.filterMap_append, silent, List.append_nil]
  constructor
  · rw [latest, turns]
    exact follows.flag
  · rw [latest, turns]
    simp only [same]
    exact follows.engaged
  · rw [OneByOne, latest, turns]
    simp only [same]
    exact follows.sole

theorem begun (follows : FollowsTurns editor flag serving log) (client : Nat) :
    FollowsTurns editor true (Function.update serving client (some editor))
      (log ++ [.begun editor client]) := by
  have turns : (log ++ [Occurrence.begun editor client]).filterMap (turn? editor) =
      log.filterMap (turn? editor) ++ [true] := by
    simp [turn?]
  have last : latest (turn? editor) (log ++ [.begun editor client]) = some true := by
    rw [latest, turns, List.getLast?_concat]
  refine ⟨?_, fun _ => ⟨client, Function.update_self ..⟩, fun apart => ?_⟩
  · rw [last]
    rfl
  · rw [OneByOne, turns] at apart
    obtain ⟨before, -, ends⟩ := List.isChain_append.mp apart
    -- Were another save of the editor under way, the turn before this would be a beginning.
    have free : ∀ other, serving other ≠ some editor := by
      intro other held
      have up := (follows.sole before other held).1
      exact Bool.noConfusion (ends true up true rfl rfl)
    have own : ∀ other, Function.update serving client (some editor) other = some editor →
        other = client := by
      intro other held
      by_contra apart
      rw [Function.update_of_ne apart] at held
      exact free other held
    exact fun holder held => ⟨last, fun other found => (own other found).trans (own holder held).symm⟩

theorem returned (follows : FollowsTurns editor flag serving log)
    (held : serving client = some editor) (outcome : Outcome) :
    FollowsTurns editor false (Function.update serving client none)
      (log ++ [.returned editor client outcome]) := by
  have turns : (log ++ [Occurrence.returned editor client outcome]).filterMap (turn? editor) =
      log.filterMap (turn? editor) ++ [false] := by
    simp [turn?]
  have last : latest (turn? editor) (log ++ [.returned editor client outcome]) = some false := by
    rw [latest, turns, List.getLast?_concat]
  refine ⟨?_, fun up => ?_, fun apart other found => ?_⟩
  · rw [last]
    rfl
  · cases last.symm.trans up
  · rw [OneByOne, turns] at apart
    have alone := (follows.sole apart.left_of_append client held).2
    by_cases same : other = client
    · rw [same, Function.update_self] at found
      cases found
    · rw [Function.update_of_ne same] at found
      exact absurd (alone other found) same

end FollowsTurns

/-- The flag of every editor follows the turns of that editor. -/
def Sight.FollowsTurns (sight : Sight) : Prop :=
  ∀ editor, Overlap.FollowsTurns editor (sight.inProgress editor) (serving sight.waiting) sight.log

namespace Sight.FollowsTurns

variable {sight next : Sight} {client editor : Nat} {visit : Waiting}

theorem serving_found (found : sight.waiting client = some visit) :
    serving sight.waiting client = some visit.editor :=
  congrArg (Option.map Waiting.editor) found

/-- A step that is neither a beginning nor a return. -/
theorem between (follows : sight.FollowsTurns) (found : sight.waiting client = some visit)
    (after : Waiting) (same : after.editor = visit.editor) (log : List Occurrence)
    (silent : ∀ editor, log.filterMap (turn? editor) = []) :
    (sight.now client (some after) log).FollowsTurns := by
  have unmoved : serving (Function.update sight.waiting client (some after)) =
      serving sight.waiting := by
    rw [serving, Function.comp_update, Option.map_some, same, ← serving_found found]
    exact Function.update_eq_self ..
  refine fun editor => (follows editor).aside (fun client => ?_) (silent editor)
  exact iff_of_eq (congrArg (· = some editor) (congrFun unmoved client))

/-- A step that is a beginning or a return, of which other editors see nothing. -/
theorem turned (follows : sight.FollowsTurns) {flag : Bool} {after : Option Waiting}
    {event : Occurrence}
    (own : Overlap.FollowsTurns editor flag
      (Function.update (serving sight.waiting) client (after.map Waiting.editor))
      (sight.log ++ [event]))
    (others : ∀ other, other ≠ editor → turn? other event = none ∧
      serving sight.waiting client ≠ some other ∧ after.map Waiting.editor ≠ some other) :
    ((sight.flagged editor flag).now client after [event]).FollowsTurns := by
  intro other
  show Overlap.FollowsTurns other (Function.update sight.inProgress editor flag other)
    (serving (Function.update sight.waiting client after)) (sight.log ++ [event])
  rw [serving, Function.comp_update]
  by_cases same : other = editor
  · subst same
    rw [Function.update_self]
    exact own
  · obtain ⟨silent, before, now⟩ := others other same
    rw [Function.update_of_ne same]
    refine (follows other).aside (fun holder => ?_) (by simp [silent])
    by_cases here : holder = client
    · subst here
      rw [Function.update_self]
      exact iff_of_false now before
    · rw [Function.update_of_ne here]
      rfl

theorem begun (follows : sight.FollowsTurns) (idle : sight.waiting client = none)
    (own : visit.editor = editor) :
    ((sight.flagged editor true).now client (some visit) [.begun editor client]).FollowsTurns := by
  have idle : serving sight.waiting client = none := congrArg (Option.map Waiting.editor) idle
  subst own
  refine follows.turned ((follows visit.editor).begun client) fun other apart => ?_
  simp [turn?, idle, Ne.symm apart]

theorem returned (follows : sight.FollowsTurns) (found : sight.waiting client = some visit)
    (own : visit.editor = editor) (outcome : Outcome) :
    ((sight.flagged editor false).now client none
      [.returned editor client outcome]).FollowsTurns := by
  have held : serving sight.waiting client = some editor := own ▸ serving_found found
  refine follows.turned ((follows editor).returned held outcome) fun other apart => ?_
  simp [turn?, held, Ne.symm apart]

theorem passes (passes : sight.Passes next) (follows : sight.FollowsTurns) :
    next.FollowsTurns := by
  cases passes with
  | begun client editor view idle => exact follows.begun idle rfl
  | kept client editor view stored asks =>
    have stated : FollowsTurns { sight with stored } := follows
    exact stated.between asks (writing editor view (some (.ok stored))) rfl [.kept client stored]
      fun _ => rfl
  | refused client editor view cause asks =>
    exact follows.between asks (writing editor view (some (.error cause))) rfl [] fun _ => rfl
  | read client editor view reply asks =>
    exact follows.between asks (reading editor view (some reply)) rfl [] fun _ => rfl
  | taken client editor view stored told =>
    have stated : FollowsTurns { sight with state := .ofSettings stored } := follows
    exact stated.between told (reading editor view none) rfl [.taken client stored] fun _ => rfl
  | unwritten client editor view stored problem told =>
    have stated : FollowsTurns { sight with state := .ofSettings stored } := follows
    have taken := stated.between told (reading editor view none) rfl [.taken client stored]
      fun _ => rfl
    have waits : Function.update sight.waiting client (some (reading editor view none)) client =
        some (reading editor view none) := Function.update_self ..
    have ended := taken.returned waits rfl (.error problem, view)
    rwa [now_flagged_now] at ended
  | failed client editor view cause problem told => exact follows.returned told rfl _
  | ended client editor view reply outcome told => exact follows.returned told rfl _

end Sight.FollowsTurns

/-- Whatever the order in which saves begin, requests are handled and answers arrive: the flag of an
editor is raised exactly if the last turn of its saves was a beginning. Hence it is down whenever
none is under way; and when they come one by one it is up as long as one is. -/
theorem flag_follows_turns (shared : Shared) (down : ∀ editor, shared.inProgress editor = false)
    (moves : List Move) (editor : Nat) :
    let traffic := Traffic.run { shared } moves
    (traffic.shared.inProgress editor = true ↔
        latest (turn? editor) traffic.log = some true) ∧
      (¬ Engaged traffic.waiting editor → traffic.shared.inProgress editor = false) ∧
      (OneByOne editor traffic.log →
        (traffic.shared.inProgress editor = true ↔ Engaged traffic.waiting editor)) := by
  have start : (Traffic.sight { shared }).FollowsTurns := fun editor =>
    ⟨down editor, fun up => (nomatch up), fun _ client held => (nomatch held)⟩
  have follows := run_upholds Sight.FollowsTurns.passes (fun _ => rfl) start moves editor
  have flag : (Traffic.run { shared } moves).shared.inProgress editor = true ↔
      latest (turn? editor) (Traffic.run { shared } moves).log = some true := follows.flag_iff
  refine ⟨flag, fun none => ?_, fun apart => ⟨fun up => follows.engaged (flag.mp up), ?_⟩⟩
  · exact Bool.eq_false_iff.mpr fun up => none (follows.engaged (flag.mp up))
  · rintro ⟨client, held⟩
    exact flag.mpr (follows.sole apart client held).1

def successive : List Move :=
  [.begin 0 0 {}, .handle 0, .deliver 0, .handle 0, .deliver 0, .begin 1 0 {}]

theorem flag_follows_turns_successive :
    (∀ editor, Shared.inProgress {} editor = false) ∧
      OneByOne 0 (Traffic.run {} successive).log ∧
      ((Traffic.run {} successive).shared.inProgress 0 = true ↔
        Engaged (Traffic.run {} successive).waiting 0) := by
  have apart : OneByOne 0 (Traffic.run {} successive).log := by
    unfold OneByOne
    decide +kernel
  exact ⟨fun _ => rfl, apart, (flag_follows_turns {} (fun _ => rfl) successive 0).2.2 apart⟩

/-- The save that begins first returns, and lowers the flag, while the other waits for the server. -/
def overlapping : List Move :=
  [.begin 0 0 {}, .begin 1 0 {}, .handle 0, .deliver 0, .handle 0, .deliver 0]

theorem overlapping_save_uncovered :
    Engaged (Traffic.run {} overlapping).waiting 0 ∧
      (Traffic.run {} overlapping).shared.inProgress 0 = false :=
  ⟨⟨1, by decide +kernel⟩, by decide +kernel⟩

end ClusterDesk.Overlap
