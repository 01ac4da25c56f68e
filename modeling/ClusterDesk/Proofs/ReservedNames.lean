import ClusterDesk.Config
import ClusterDesk.Proofs.Jobs
import ClusterDesk.Proofs.WriteSafety

/-!
Reserved names of namespaces, from the configuration to the calls of commands. Main statement:
`reserved_names_kept`: no command has a namespace of a reserved name deleted, whatever the backend
answers, since every model that an operation answers with is flagged by its own name.
-/

namespace ClusterDesk

namespace Config

theorem mem_merge {names added : List String} {name : String} :
    name ∈ merge names added ↔ name ∈ names ∨ name ∈ added := by
  unfold merge
  induction added generalizing names with
  | nil => simp
  | cons first rest ih =>
    rw [List.foldl_cons, ih]
    by_cases known : names.contains first = true
    · have inside : first ∈ names := List.contains_iff_mem.mp known
      rw [if_pos known, List.mem_cons]
      constructor
      · exact Or.imp_right .inr
      · rintro (old | rfl | new)
        · exact .inl old
        · exact .inl inside
        · exact .inr new
    · rw [if_neg known, List.mem_append, List.mem_singleton, List.mem_cons, or_assoc]

/-- The names that are reserved from the start, by the file, or by what takes precedence over it. -/
def reservedNames (file : FileConfig) (overrides : Overrides) : List String :=
  Reserved.usual ++ file.systemNamespaces ++ overrides.systemNamespaces

variable {file : FileConfig} {overrides : Overrides} {config : Config}

theorem systemNamespaces_of_resolve (resolved : resolve file overrides = .ok config) :
    config.systemNamespaces =
      merge Reserved.usual (file.systemNamespaces ++ overrides.systemNamespaces) := by
  unfold resolve at resolved
  generalize overrides.settingsUrl.or file.settingsUrl = address at resolved
  cases address with
  | none =>
    cases resolved
    rfl
  | some text =>
    dsimp only at resolved
    split at resolved
    · cases resolved
      rfl
    · cases resolved

theorem isSystem_reserved (resolved : resolve file overrides = .ok config) (name : String) :
    config.reserved.isSystem name = decide (name ∈ reservedNames file overrides) := by
  have union : name ∈ config.systemNamespaces ↔ name ∈ reservedNames file overrides := by
    rw [systemNamespaces_of_resolve resolved, mem_merge, reservedNames, List.mem_append,
      List.mem_append, List.mem_append, or_assoc]
  rw [← decide_eq_decide.mpr union]
  exact List.contains_eq_mem name config.systemNamespaces

end Config

namespace Namespaces

open Program Service WriteSafety

/-- Whether a namespace is told as one of the system goes by its name alone. -/
def Flagged (reserved : Reserved) (space : Namespace) : Prop :=
  space.isSystem = reserved.isSystem space.name

theorem flagged_of_made {reserved : Reserved} {space : Namespace}
    (made : Made (Namespace.converter reserved) space) : Flagged reserved space := by
  rcases made with ⟨raw, form, rfl⟩ | ⟨id, rfl⟩
  · rfl
  · rfl

/-- What a command may do to the backend once `space` has been read: delete just that, if it is not
told as one of the system. -/
def Spares (space : Namespace) : Call (Manifest LifeCycle) → Prop
  | .delete id => id = space.identity ∧ space.isSystem = false
  | _ => False

section Runs

variable {σ : Type} (reserved : Reserved) (answer : (call : Call (Manifest LifeCycle)) → σ →
    Call.Answer (Manifest LifeCycle) String Cause call × σ) (state : σ)

theorem course_delete (name : String) :
    Course (Namespace.converter reserved) (.cluster name) Spares
      ((session reserved (.delete name)).exchanges answer state)
      ((session reserved (.delete name)).run answer state).value := by
  refine Course.of_get answer state fun space later => ?_
  cases kept : space.isSystem with
  | true => exact Tail.of_result? rfl answer later
  | false => exact Tail.of_delete _ space answer later ⟨rfl, kept⟩ fun _ => rfl

/-- Only a namespace that is not reserved is ever deleted, by whichever command. -/
theorem isSystem_of_deleted (command : NamespaceCommand) {id : ResourceId} {reply}
    (deleted : ⟨.delete id, reply⟩ ∈ (session reserved command).exchanges answer state) :
    reserved.isSystem id.name = false := by
  obtain ⟨name, rfl⟩ :=
    (space_writes_safely reserved answer state command).2.2.deleting id reply deleted
  obtain ⟨space, ⟨_, _, _, _, _, found⟩, rfl, spared⟩ :=
    (course_delete reserved answer state name).permitted_of_mem deleted rfl
  have flagged : Flagged reserved space := flagged_of_made (made_of_reading _ found)
  exact flagged.symm.trans spared

end Runs

/-- A namespace is flagged by its name in whatever an operation answers with, and no command has one
of a reserved name deleted. -/
theorem reserved_names_kept (file : FileConfig) (overrides : Overrides) (config : Config)
    (resolved : Config.resolve file overrides = .ok config) :
    (∀ {σ : Type} (answer : (call : Call (Manifest LifeCycle)) → σ →
          Call.Answer (Manifest LifeCycle) String Cause call × σ)
        (state : σ) (command : NamespaceCommand) (id : ResourceId) (reply),
      ⟨.delete id, reply⟩ ∈ (session config.reserved command).exchanges answer state →
        id.name ∉ Config.reservedNames file overrides) ∧
    ∀ {E σ : Type} [Failure E] (answer : (call : Call (Manifest LifeCycle)) → σ →
          Call.Answer (Manifest LifeCycle) String E call × σ)
        (state : σ) (job : Job Namespace) (value : job.Value),
      ((job.session (Namespace.converter config.reserved)).run answer state).value = .ok value →
        ∀ space ∈ job.shown value,
          space.isSystem = decide (space.name ∈ Config.reservedNames file overrides) := by
  refine ⟨fun answer state command id reply deleted => ?_,
    fun answer state job value done space member => ?_⟩
  · have free := isSystem_of_deleted config.reserved answer state command deleted
    rw [Config.isSystem_reserved resolved] at free
    exact of_decide_eq_false free
  · have made := made_of_run _ answer state job value done space member
    rw [← Config.isSystem_reserved resolved]
    exact flagged_of_made made

private def platform : FileConfig := { systemNamespaces := ["platform"] }

private def monitoring : Overrides := { systemNamespaces := ["monitoring"] }

private def guarded : Config :=
  ⟨["kube-system", "kube-public", "kube-node-lease", "platform", "monitoring"], none, none, none⟩

/-- A backend that answers every reading with a namespace of one name, whichever is asked for. -/
private def answering (name : String) (call : Call (Manifest LifeCycle)) (_ : Unit) :
    Call.Answer (Manifest LifeCycle) String Cause call × Unit :=
  match call with
  | .get _ => (.ok ⟨{ name := some name }, {}⟩, ())
  | .secondary _ => (.error (.status 500 "status 500"), ())
  | .list _ => (.ok [], ())
  | .create _ payload | .update _ payload => (.ok payload, ())
  | .delete _ => (.ok (), ())

/-- A namespace of the file that is shown in place of the one asked for is flagged and stays, and
one that nobody has reserved goes. -/
theorem reserved_names_kept_impostor :
    let told := fun name => (session guarded.reserved (.delete "app")).exchanges (answering name) ()
    let shown := Namespace.ofManifest guarded.reserved ⟨{ name := some "platform" }, {}⟩ none
    Config.resolve platform monitoring = .ok guarded ∧
      ((Service.get (Namespace.converter guarded.reserved) (.cluster "app")).run
        (answering "platform") ()).value = .ok shown ∧
      shown.isSystem = decide ("platform" ∈ Config.reservedNames platform monitoring) ∧
      (told "platform").map (·.1.name) = ["get", "secondary"] ∧
      ⟨.delete (.cluster "app"), .ok ()⟩ ∈ told "app" ∧
      "app" ∉ Config.reservedNames platform monitoring := by
  intro told shown
  have resolved : Config.resolve platform monitoring = .ok guarded := rfl
  have deleted : ⟨.delete (.cluster "app"), .ok ()⟩ ∈ told "app" := .tail _ (.tail _ (.head _))
  obtain ⟨kept, flagged⟩ := reserved_names_kept platform monitoring guarded resolved
  refine ⟨resolved, rfl, ?_, rfl, deleted, kept (answering "app") () _ _ _ deleted⟩
  exact flagged (answering "platform") () (.get (.cluster "app")) shown rfl shown (.head _)

end Namespaces

end ClusterDesk
