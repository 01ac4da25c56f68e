import ClusterDesk.Proofs.ReservedNames
import Mathlib.Data.List.Basic

/-!
Reserved names, gathered from the defaults, a file, and what takes precedence over the file. Adding a
name keeps what has been gathered in step with its sources, so the outcome has every name of theirs
once, where it first occurs. Main statement: `names_merged`, with what it means for telling the
namespaces of the system from others.
-/

namespace ClusterDesk.Config

/-- The names are those of the sources, in the order in which they first occur there. -/
structure Gathers (sources names : List String) : Prop where
  same : ∀ name, name ∈ names ↔ name ∈ sources
  ordered : names.Pairwise fun first second => sources.idxOf first < sources.idxOf second

section Merging

variable {sources names : List String}

theorem Gathers.nodup (gathers : Gathers sources names) : names.Nodup :=
  gathers.ordered.imp fun before same => Nat.ne_of_lt before (congrArg sources.idxOf same)

theorem prefix_merge (names added : List String) : names <+: merge names added := by
  induction added generalizing names with
  | nil => exact List.prefix_rfl
  | cons name rest ih =>
    have first : names <+: merge names [name] := by
      unfold merge
      rw [List.foldl_cons, List.foldl_nil]
      split
      · exact List.prefix_rfl
      · exact List.prefix_append names [name]
    exact first.trans (ih (merge names [name]))

/-- One more name: nothing changes if it is there already, and else it comes last. -/
theorem Gathers.add (gathers : Gathers sources names) (name : String) :
    Gathers (sources ++ [name]) (merge names [name]) := by
  have kept : names.Pairwise fun first second =>
      (sources ++ [name]).idxOf first < (sources ++ [name]).idxOf second := by
    refine gathers.ordered.imp_of_mem fun {first second} one two before => ?_
    rw [List.idxOf_append_of_mem ((gathers.same first).mp one),
      List.idxOf_append_of_mem ((gathers.same second).mp two)]
    exact before
  refine ⟨fun other => ?_, ?_⟩
  · rw [mem_merge, List.mem_append, gathers.same]
  · unfold merge
    rw [List.foldl_cons, List.foldl_nil]
    split
    · exact kept
    · next new =>
      have absent : name ∉ sources := fun member =>
        new (List.contains_iff_mem.mpr ((gathers.same name).mpr member))
      refine List.pairwise_append.mpr ⟨kept, List.pairwise_singleton .., ?_⟩
      intro first member last here
      rw [List.mem_singleton.mp here]
      have inside : first ∈ sources := (gathers.same first).mp member
      rw [List.idxOf_append_of_mem inside, List.idxOf_append_of_notMem absent]
      exact Nat.lt_of_lt_of_le (List.idxOf_lt_length_of_mem inside) (Nat.le_add_right ..)

theorem Gathers.merge (gathers : Gathers sources names) (added : List String) :
    Gathers (sources ++ added) (merge names added) := by
  induction added generalizing sources names with
  | nil => rwa [List.append_nil]
  | cons name rest ih =>
    rw [List.append_cons]
    exact ih (gathers.add name)

end Merging

theorem gathers_usual : Gathers Reserved.usual Reserved.usual := ⟨fun _ => Iff.rfl, by decide⟩

/-- The address of the settings server can be read, if there is one. -/
def Resolvable (file : FileConfig) (overrides : Overrides) : Prop :=
  ∀ text, overrides.settingsUrl.or file.settingsUrl = some text →
    ∃ url, Url.parse text = .ok url

section Resolving

variable {file : FileConfig} {overrides : Overrides} {config : Config}

theorem resolve_iff :
    (∃ config, resolve file overrides = .ok config) ↔ Resolvable file overrides := by
  unfold Resolvable resolve
  cases overrides.settingsUrl.or file.settingsUrl with
  | none =>
    refine iff_of_true ⟨_, rfl⟩ ?_
    intro text given
    cases given
  | some text =>
    cases read : Url.parse text with
    | ok url =>
      refine iff_of_true ?_ ?_
      · simp only [read]
        exact ⟨_, rfl⟩
      · intro other given
        cases given
        exact ⟨url, read⟩
    | error fault =>
      refine iff_of_false ?_ ?_
      · rintro ⟨config, resolved⟩
        simp only [read] at resolved
        cases resolved
      · intro readable
        obtain ⟨url, found⟩ := readable text rfl
        cases read.symm.trans found

theorem gathers_of_resolve (resolved : resolve file overrides = .ok config) :
    Gathers (reservedNames file overrides) config.systemNamespaces := by
  rw [systemNamespaces_of_resolve resolved, reservedNames, List.append_assoc]
  exact gathers_usual.merge _

theorem isSystem_iff (resolved : resolve file overrides = .ok config) (name : String) :
    config.reserved.isSystem name = true ↔ name ∈ reservedNames file overrides := by
  rw [isSystem_reserved resolved, decide_eq_true_eq]

theorem classify_eq (resolved : resolve file overrides = .ok config) (name : String) :
    config.reserved.classify name =
      if name ∈ reservedNames file overrides then .system else .user := by
  simp only [Reserved.classify, isSystem_iff resolved]

end Resolving

/-- What the sources come to: their names, each once and where it first occurs, behind the defaults
as they are. -/
structure Merged (file : FileConfig) (overrides : Overrides) (config : Config) : Prop where
  first : Reserved.usual <+: config.systemNamespaces
  once : config.systemNamespaces.Nodup
  gathers : Gathers (reservedNames file overrides) config.systemNamespaces
  told : ∀ name, config.reserved.isSystem name = true ↔ name ∈ reservedNames file overrides

/-- A configuration can be made exactly if the address in it can be read. Its reserved names are
those of all sources, merged; so sources with the same names tell namespaces apart alike, and sources
with more names leave none to the users that was of the system. -/
theorem names_merged (file : FileConfig) (overrides : Overrides) :
    ((∃ config, resolve file overrides = .ok config) ↔ Resolvable file overrides) ∧
    ∀ config, resolve file overrides = .ok config →
      Merged file overrides config ∧
      ∀ (other : FileConfig) (others : Overrides) (wider : Config),
        resolve other others = .ok wider →
        reservedNames file overrides ⊆ reservedNames other others →
          (∀ name, config.reserved.classify name = .system →
            wider.reserved.classify name = .system) ∧
          (reservedNames other others ⊆ reservedNames file overrides →
            wider.reserved.classify = config.reserved.classify) := by
  refine ⟨resolve_iff, fun config resolved => ⟨?_, ?_⟩⟩
  · have gathers := gathers_of_resolve resolved
    refine ⟨?_, gathers.nodup, gathers, isSystem_iff resolved⟩
    rw [systemNamespaces_of_resolve resolved]
    exact prefix_merge _ _
  · intro other others wider widened more
    refine ⟨fun name => ?_, fun fewer => funext fun name => ?_⟩
    · rw [classify_eq resolved, classify_eq widened]
      by_cases member : name ∈ reservedNames file overrides
      · rw [if_pos member, if_pos (more member)]
        exact id
      · rw [if_neg member]
        exact Standing.noConfusion
    · have same : name ∈ reservedNames other others ↔ name ∈ reservedNames file overrides :=
        ⟨@fewer name, @more name⟩
      rw [classify_eq resolved, classify_eq widened]
      simp only [same]

private def crowded : FileConfig where
  systemNamespaces := ["platform", "kube-public", "platform"]
  settingsUrl := some "no address"

private def flagged : Overrides where
  systemNamespaces := ["monitoring", "platform", "kube-system"]
  settingsUrl := some "unix:/run/desk"

private def address : Url := { scheme := "unix", path := .rooted ["run", "desk"] }

/-- The names given, the other way round and each once. -/
private def turned : FileConfig := { systemNamespaces := ["monitoring", "platform"] }

/-- Names come several times, in several places and among the defaults. The address of the file
cannot be read, and is not the one that is taken. -/
theorem names_merged_crowded :
    let merged : Config :=
      ⟨["kube-system", "kube-public", "kube-node-lease", "platform", "monitoring"], some address,
        none, none⟩
    let plain : Config := ⟨Reserved.usual ++ ["monitoring", "platform"], none, none, none⟩
    resolve crowded flagged = .ok merged ∧ Resolvable crowded flagged ∧
      Merged crowded flagged merged ∧ resolve turned {} = .ok plain ∧
      plain.reserved.classify = merged.reserved.classify ∧
      merged.reserved.classify "platform" = .system ∧ merged.reserved.classify "web" = .user := by
  intro merged plain
  have resolved : resolve crowded flagged = .ok merged := rfl
  have again : resolve turned {} = .ok plain := rfl
  obtain ⟨readable, outcome⟩ := names_merged crowded flagged
  obtain ⟨whole, others⟩ := outcome merged resolved
  have alike := others turned {} plain again (by decide)
  exact ⟨resolved, readable.mp ⟨merged, resolved⟩, whole, again, alike.2 (by decide), rfl, rfl⟩

end ClusterDesk.Config
