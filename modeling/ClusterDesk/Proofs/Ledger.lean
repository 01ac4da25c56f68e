import ClusterDesk.Proofs.Locking
import Mathlib.Logic.Function.Basic

/-!
A backend with optimistic locking, held in memory. It takes an update in the stored version only,
and gives every write a version of its own.
-/

namespace ClusterDesk.Locking

def strokes (number : Nat) : String := String.ofList (List.replicate number 'i')

theorem strokes_injective {first second : Nat} (same : strokes first = strokes second) :
    first = second := by
  have lengths := congrArg (fun text => text.toList.length) same
  simpa [strokes] using lengths

/-- Config maps in memory, whose versions are counted in strokes. -/
structure Ledger where
  items : Key → Option (Manifest Entries) := fun _ => none
  count : Nat := 0
  identified : ∀ key item, items key = some item → Identified key item := by
    intro _ _ kept
    cases kept
  tagged : ∀ key item, items key = some item →
    ∃ number < count, item.metadata.resourceVersion = some (strokes number) := by
    intro _ _ kept
    cases kept

namespace Ledger

variable (ledger : Ledger) (key : Key) (payload : Manifest Entries)

def admitted : Manifest Entries :=
  { payload with
    metadata :=
      { payload.metadata with
        uid := some (strokes ledger.count)
        scope := some key.scope
        name := some key.name
        resourceVersion := some (strokes ledger.count) } }

def keep : Ledger where
  items := Function.update ledger.items key (some (ledger.admitted key payload))
  count := ledger.count + 1
  identified other item kept := by
    by_cases same : other = key
    · subst same
      rw [Function.update_self] at kept
      cases kept
      exact ⟨rfl, rfl, rfl⟩
    · rw [Function.update_of_ne same] at kept
      exact ledger.identified other item kept
  tagged other item kept := by
    by_cases same : other = key
    · subst same
      rw [Function.update_self] at kept
      cases kept
      exact ⟨ledger.count, Nat.lt_succ_self _, rfl⟩
    · rw [Function.update_of_ne same] at kept
      obtain ⟨number, below, version⟩ := ledger.tagged other item kept
      exact ⟨number, Nat.lt_succ_of_lt below, version⟩

def refused (code : Nat) : Except Cause (Manifest Entries) := .error (.status code "")

def keyOf (id : ResourceId) : Key := ⟨id.scope.getD "", id.name⟩

def get (id : ResourceId) : Except Cause (Manifest Entries) :=
  match ledger.items (keyOf id) with
  | some item => .ok item
  | none => refused 404

def create (id : ResourceId) : Except Cause (Manifest Entries) × Ledger :=
  match ledger.items (keyOf id) with
  | some _ => (refused 409, ledger)
  | none => (.ok (ledger.admitted (keyOf id) payload), ledger.keep (keyOf id) payload)

def update (id : ResourceId) : Except Cause (Manifest Entries) × Ledger :=
  match ledger.items (keyOf id) with
  | none => (refused 404, ledger)
  | some old =>
    if payload.metadata.resourceVersion = old.metadata.resourceVersion then
      (.ok (ledger.admitted (keyOf id) payload), ledger.keep (keyOf id) payload)
    else (refused 409, ledger)

def answer (call : Call (Manifest Entries)) (ledger : Ledger) :
    Call.Answer (Manifest Entries) String Cause call × Ledger :=
  match call with
  | .get id => (ledger.get id, ledger)
  | .secondary _ => (.ok none, ledger)
  | .list _ => (.error (.status 405 ""), ledger)
  | .create scope payload => ledger.create payload ⟨scope, payload.metadata.name.getD ""⟩
  | .update id payload => ledger.update payload id
  | .delete _ => (.error (.status 405 ""), ledger)

theorem wrote_keep :
    Wrote items (fun ledger _ version => ∃ number < ledger.count, version = strokes number) key
      payload ledger (ledger.keep key payload) where
  fresh := by
    refine ⟨ledger.admitted key payload, strokes ledger.count, ?_, ⟨rfl, rfl⟩, rfl, ?_⟩
    · exact Function.update_self ..
    · rintro ⟨number, below, same⟩
      rw [strokes_injective same] at below
      exact Nat.lt_irrefl _ below
  others other differs := Function.update_of_ne differs ..

theorem state_answer (call : Call (Manifest Entries)) :
    (answer call ledger).2 = ledger ∨
      ∃ key payload, (answer call ledger).2 = ledger.keep key payload := by
  cases call with
  | get | secondary | list | delete => exact .inl rfl
  | create scope payload =>
    simp only [answer, create]
    split
    · exact .inl rfl
    · exact .inr ⟨_, payload, rfl⟩
  | update id payload =>
    simp only [answer, update]
    split
    · exact .inl rfl
    · split
      · exact .inr ⟨_, payload, rfl⟩
      · exact .inl rfl

theorem create_ok {id : ResourceId} {raw : Manifest Entries}
    (done : (ledger.create payload id).1 = .ok raw) :
    ledger.items (keyOf id) = none ∧
      (ledger.create payload id).2 = ledger.keep (keyOf id) payload := by
  unfold create at done ⊢
  cases kept : ledger.items (keyOf id) with
  | some item =>
    rw [kept] at done
    cases done
  | none => exact ⟨rfl, rfl⟩

theorem update_ok {id : ResourceId} {raw : Manifest Entries}
    (done : (ledger.update payload id).1 = .ok raw) :
    (∃ old, ledger.items (keyOf id) = some old ∧
        payload.metadata.resourceVersion = old.metadata.resourceVersion) ∧
      (ledger.update payload id).2 = ledger.keep (keyOf id) payload := by
  unfold update at done ⊢
  cases kept : ledger.items (keyOf id) with
  | none =>
    rw [kept] at done
    cases done
  | some old =>
    rw [kept] at done
    by_cases agreed : payload.metadata.resourceVersion = old.metadata.resourceVersion
    · exact ⟨⟨old, rfl, agreed⟩, by simp only [if_pos agreed]⟩
    · simp only [if_neg agreed] at done
      cases done

theorem state_of_refused (call : Call (Manifest Entries))
    (failed : call.succeeded (answer call ledger).1 = false) : (answer call ledger).2 = ledger := by
  cases call with
  | get | secondary | list | delete => rfl
  | create scope payload =>
    simp only [answer, create] at failed ⊢
    split at failed
    · rfl
    · cases failed
  | update id payload =>
    simp only [answer, update] at failed ⊢
    split at failed
    · rfl
    · split at failed
      · cases failed
      · rename_i old kept differs
        rw [if_neg differs]

def backend : Backend where
  State := Ledger
  answer := answer
  stored := items
  issued ledger _ version := ∃ number < ledger.count, version = strokes number
  identified kept := Ledger.identified _ _ _ kept
  tagged := by
    intro ledger key item kept
    obtain ⟨number, below, version⟩ := ledger.tagged key item kept
    exact ⟨_, version, number, below, rfl⟩
  lasting := by
    rintro call ledger _ _ ⟨number, below, rfl⟩
    rcases ledger.state_answer call with same | ⟨key, payload, kept⟩
    · exact ⟨number, by rw [same]; exact below, rfl⟩
    · exact ⟨number, by rw [kept]; exact Nat.lt_succ_of_lt below, rfl⟩
  reads := by
    intro call ledger still
    cases call with
    | get | secondary | list => rfl
    | create | update | delete => cases still
  refusals call ledger failed := congrArg items (ledger.state_of_refused call failed)
  gets := by
    intro key ledger raw done
    have found : ledger.get key.id = .ok raw := done
    unfold get at found
    cases kept : ledger.items (keyOf key.id) with
    | none =>
      rw [kept] at found
      cases found
    | some item =>
      rw [kept] at found
      cases found
      exact kept
  creates := by
    intro key payload ledger raw named done
    have same : keyOf ⟨some key.scope, payload.metadata.name.getD ""⟩ = key := by
      rw [named]
      rfl
    obtain ⟨absent, kept⟩ := ledger.create_ok payload done
    rw [same] at absent kept
    refine ⟨absent, ?_⟩
    have wrote := ledger.wrote_keep key payload
    rw [← kept] at wrote
    exact wrote
  updates := by
    intro key payload ledger raw done
    obtain ⟨⟨old, found, agreed⟩, kept⟩ := ledger.update_ok payload done
    have wrote := ledger.wrote_keep key payload
    refine ⟨⟨old, found, .inr agreed⟩, ?_⟩
    rw [show keyOf key.id = key from rfl] at kept
    rw [← kept] at wrote
    exact wrote

end Ledger

end ClusterDesk.Locking
