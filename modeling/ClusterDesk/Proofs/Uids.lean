import ClusterDesk.Proofs.HeldDrafts
import Mathlib.Data.List.Perm.Subperm

/-!
The uids that a store in memory gives. The uid of a new item is the number of items there are, so a
removal sets the numbers back and a later creation can meet a uid that is in use. Uids stay apart as
long as every creation is of a number that neither an item nor a model still held has. Main
statement: `uids_follow_counts`, for config maps and for namespaces.
-/

namespace ClusterDesk.Uids

open HeldDrafts
open HeldDrafts.Desk (Throughout)
open Store (admitted matching others)

variable {Body Model : Type} {converter : Converter (Manifest Body) String Model}
  {desk next : Desk Body Model}

def uidText (count : Nat) : String := "uid-" ++ toString count

theorem uidText_injective : Function.Injective uidText := by
  intro first second same
  have digits : Nat.toDigits 10 first = Nat.toDigits 10 second := by
    rw [← Nat.toList_repr, ← Nat.toList_repr]
    exact congrArg String.toList ((String.append_right_inj _).mp same)
  have read (number : Nat) : Nat.ofDigitChars 10 (Nat.toDigits 10 number) 0 = number :=
    Nat.ofDigitChars_toDigits (by decide) (by decide)
  rw [← read first, digits, read]

/-- An item or a model that is held has the uid. -/
def Sighted (converter : Converter (Manifest Body) String Model) (desk : Desk Body Model)
    (uid : String) : Prop :=
  (∃ item ∈ desk.store.items, item.metadata.uid = some uid) ∨
    ∃ model ∈ desk.seen, uid? converter model = some uid

def Grows (desk next : Desk Body Model) : Prop := desk.count ≤ next.count

def Shrinks (desk next : Desk Body Model) : Prop := next.count ≤ desk.count

instance : DecidableRel (Grows : Desk Body Model → Desk Body Model → Prop) :=
  fun desk next => inferInstanceAs (Decidable (desk.count ≤ next.count))

instance : DecidableRel (Shrinks : Desk Body Model → Desk Body Model → Prop) :=
  fun desk next => inferInstanceAs (Decidable (next.count ≤ desk.count))

def Renews (converter : Converter (Manifest Body) String Model) (desk next : Desk Body Model) :
    Prop :=
  desk.count < next.count → ¬ Sighted converter desk (uidText desk.count)

theorem sighted_seeing {model : Model} {uid : String}
    (sighted : Sighted converter (desk.seeing model) uid) :
    Sighted converter desk uid ∨ uid? converter model = some uid := by
  obtain item | ⟨other, member, same⟩ := sighted
  · exact .inl (.inl item)
  · obtain held | rfl := mem_concat member
    · exact .inl (.inr ⟨other, held, same⟩)
    · exact .inr same

/-- Only a creation brings a uid that was not there. -/
theorem sighted_of_moved (tracks : Tracks converter) (moved : Moved converter desk next)
    {uid : String} (sighted : Sighted converter next uid) :
    Sighted converter desk uid ∨ uid = uidText desk.count ∧ next.count = desk.count + 1 := by
  cases moved with
  | idle => exact .inl sighted
  | blank id =>
    obtain before | shown := sighted_seeing sighted
    · exact .inl before
    · rw [tracks.blank] at shown
      cases shown
  | found id item form first =>
    obtain before | shown := sighted_seeing sighted
    · exact .inl before
    · rw [tracks.read] at shown
      exact .inl (.inl ⟨item, List.mem_of_find?_eq_some first, shown⟩)
  | added model =>
    obtain ⟨item, member, same⟩ | held := sighted
    · obtain old | rfl := mem_concat member
      · exact .inl (.inl ⟨item, old, same⟩)
      · exact .inr ⟨(Option.some.inj same).symm, List.length_append⟩
    · exact .inl (.inr held)
  | replaced model known payload old front rest held sends sent bears split earlier first =>
    refine .inl ?_
    obtain ⟨item, member, same⟩ | shown := sighted
    · obtain rfl | kept := mem_of_mem_replaced member
      · exact .inr ⟨model, held, sends.trans (sent.symm.trans same)⟩
      · exact .inl ⟨item, split ▸ mem_of_mem_kept kept, same⟩
    · exact .inr shown
  | removed model present =>
    obtain ⟨item, member, same⟩ | held := sighted
    · exact .inl (.inl ⟨item, List.mem_of_mem_filter member, same⟩)
    · exact .inl (.inr held)

/-- No two items share a uid, and a model that is held is of the identity that has its uid, if any
item has it. -/
structure Apart (converter : Converter (Manifest Body) String Model) (desk : Desk Body Model) :
    Prop where
  distinct : desk.uids.Nodup
  owner : ∀ model ∈ desk.seen, ∀ uid, uid? converter model = some uid →
    ∀ item ∈ desk.store.items, item.metadata.uid = some uid →
      desk.store.items.find? (matching (converter.identity model)) = some item
  agree : ∀ first ∈ desk.seen, ∀ second ∈ desk.seen, ∀ uid, uid? converter first = some uid →
    uid? converter second = some uid → converter.identity first = converter.identity second

theorem Apart.blank (tracks : Tracks converter) (apart : Apart converter desk) (id : ResourceId) :
    Apart converter (desk.seeing (converter.defaultModel id)) := by
  obtain ⟨distinct, owner, agree⟩ := apart
  have persisted {model : Model} (member : model ∈ desk.seen ++ [converter.defaultModel id])
      {uid : String} (known : uid? converter model = some uid) : model ∈ desk.seen := by
    obtain held | rfl := mem_concat member
    · exact held
    · rw [tracks.blank] at known
      cases known
  refine ⟨distinct, fun model member uid known => ?_,
    fun first one second two uid known same => ?_⟩
  · exact owner model (persisted member known) uid known
  · exact agree first (persisted one known) second (persisted two same) uid known same

theorem Apart.found (tracks : Tracks converter) (sound : Sound converter desk)
    (apart : Apart converter desk) {id : ResourceId} {item : Manifest Body}
    (form : Option String) (first : desk.store.items.find? (matching id) = some item) :
    Apart converter (desk.seeing (converter.toModel item form)) := by
  obtain ⟨distinct, owner, agree⟩ := apart
  have stored := List.mem_of_find?_eq_some first
  have shown : converter.identity (converter.toModel item form) = id := by
    obtain ⟨model, bears⟩ := sound.named item stored
    rw [tracks.identity model item form bears]
    exact Store.matching_unique bears.matching (List.find?_some first)
  -- A model that was held before has the uid of the item only if it is of the same identity.
  have identity (model : Model) (member : model ∈ desk.seen ++ [converter.toModel item form])
      (uid : String) (known : uid? converter model = some uid)
      (same : item.metadata.uid = some uid) : converter.identity model = id := by
    obtain held | rfl := mem_concat member
    · exact Store.matching_unique (List.find?_some (owner model held uid known item stored same))
        (List.find?_some first)
    · exact shown
  have held (model : Model) (member : model ∈ desk.seen ++ [converter.toModel item form])
      (uid : String) (known : uid? converter model = some uid)
      (other : item.metadata.uid ≠ some uid) : model ∈ desk.seen := by
    obtain held | rfl := mem_concat member
    · exact held
    · exact absurd ((tracks.read item form).symm.trans known) other
  refine ⟨distinct, fun model member uid known other present shared => ?_,
    fun one held_one two held_two uid known agreed => ?_⟩
  · by_cases same : item.metadata.uid = some uid
    · have alone := List.inj_on_of_nodup_map distinct stored present (same.trans shared.symm)
      rw [identity model member uid known same, ← alone]
      exact first
    · exact owner model (held model member uid known same) uid known other present shared
  · by_cases same : item.metadata.uid = some uid
    · rw [identity one held_one uid known same, identity two held_two uid agreed same]
    · exact agree one (held one held_one uid known same) two (held two held_two uid agreed same) uid
        known agreed

theorem Apart.added (apart : Apart converter desk) {item : Manifest Body}
    (given : item.metadata.uid = some (uidText desk.count))
    (fresh : ¬ Sighted converter desk (uidText desk.count)) :
    Apart converter (desk.holding (desk.store.items ++ [item])) := by
  obtain ⟨distinct, owner, agree⟩ := apart
  refine ⟨?_, fun model held uid known other present shared => ?_, agree⟩
  · show ((desk.store.items ++ [item]).map _).Nodup
    rw [List.map_append, List.nodup_append]
    refine ⟨distinct, List.nodup_singleton _, fun one member two new same => ?_⟩
    obtain ⟨old, stored, rfl⟩ := List.mem_map.mp member
    exact fresh (.inl ⟨old, stored, (same.trans (List.mem_singleton.mp new)).trans given⟩)
  · show (desk.store.items ++ [item]).find? _ = _
    obtain old | rfl := mem_concat present
    · rw [List.find?_append, owner model held uid known other old shared]
      rfl
    · exact absurd (.inr ⟨model, held, known.trans (shared.symm.trans given)⟩) fresh

theorem find?_replaced {id : ResourceId} {old : Manifest Body} {front : List (Manifest Body)}
    (earlier : ∀ item ∈ front, matching id item = false) (first : matching id old = true)
    (rest : List (Manifest Body)) : (front ++ old :: rest).find? (matching id) = some old := by
  rw [List.find?_append, List.find?_eq_none.mpr, List.find?_cons, first]
  · rfl
  · intro item member
    rw [earlier item member]
    exact Bool.false_ne_true

theorem Apart.replaced (apart : Apart converter desk) {model : Model} {uid : String}
    {payload old : Manifest Body} {front rest : List (Manifest Body)} (held : model ∈ desk.seen)
    (known : uid? converter model = some uid) (sent : payload.metadata.uid = some uid)
    (bears : Bears (converter.identity model) payload)
    (split : desk.store.items = front ++ old :: rest)
    (earlier : ∀ item ∈ front, matching (converter.identity model) item = false)
    (first : matching (converter.identity model) old = true) :
    Apart converter (desk.holding (front ++ payload :: rest)) := by
  obtain ⟨distinct, owner, agree⟩ := apart
  have found := find?_replaced earlier first rest
  rw [Desk.uids, split, nodup_map_replaced] at distinct
  rw [split] at owner
  -- No other item has the uid of a model of that identity, for it would be the first of them.
  have unshared (other : Model) (member : other ∈ desk.seen) (uid : String)
      (has : uid? converter other = some uid)
      (same : converter.identity other = converter.identity model) :
      ∀ item ∈ front ++ rest, item.metadata.uid ≠ some uid := by
    intro item kept shared
    have owned := owner other member uid has item (mem_of_mem_kept kept) shared
    rw [same, found] at owned
    rw [Option.some.inj owned] at distinct
    exact distinct.1 (List.mem_map_of_mem kept)
  refine ⟨?_, fun other member shown has item present shared => ?_, agree⟩
  · refine (nodup_map_replaced _).mpr ⟨fun member => ?_, distinct.2⟩
    obtain ⟨item, kept, same⟩ := List.mem_map.mp member
    exact unshared model held uid known rfl item kept (same.trans sent)
  · show (front ++ payload :: rest).find? _ = _
    obtain rfl | kept := mem_of_mem_replaced present
    · rw [agree other member model held shown has (known.trans (sent.symm.trans shared))]
      exact find?_replaced earlier bears.matching rest
    · have different : converter.identity other ≠ converter.identity model :=
        fun same => unshared other member shown has same item kept shared
      rw [← Store.find?_others different, Store.others_replaced first bears.matching,
        Store.find?_others different]
      exact owner other member shown has item (mem_of_mem_kept kept) shared

theorem Apart.removed (apart : Apart converter desk) (id : ResourceId) :
    Apart converter (desk.holding (others id desk.store.items)) := by
  obtain ⟨distinct, owner, agree⟩ := apart
  refine ⟨?_, fun model held uid known item present shared => ?_, agree⟩
  · exact (List.filter_sublist.map _).nodup distinct
  · show (others id desk.store.items).find? _ = _
    have owned := owner model held uid known item (List.mem_of_mem_filter present) shared
    have different : converter.identity model ≠ id := by
      rintro rfl
      have stays := List.of_mem_filter present
      rw [List.find?_some owned] at stays
      cases stays
    rw [Store.find?_others different, owned]

theorem Apart.moved (tracks : Tracks converter) (sound : Sound converter desk)
    (apart : Apart converter desk) (moved : Moved converter desk next)
    (renews : Renews converter desk next) : Apart converter next := by
  cases moved with
  | idle => exact apart
  | blank id => exact apart.blank tracks id
  | found id item form first => exact apart.found tracks sound form first
  | added model =>
    refine apart.added rfl (renews ?_)
    show desk.store.items.length < (desk.store.items ++ _).length
    rw [List.length_append]
    exact Nat.lt_succ_self _
  | replaced model uid payload old front rest held known sent bears split earlier first =>
    exact apart.replaced held known sent bears split earlier first
  | removed model present => exact apart.removed (converter.identity model)

theorem not_sighted_empty (uid : String) : ¬ Sighted converter ({} : Desk Body Model) uid := by
  rintro (⟨item, member, -⟩ | ⟨model, member, -⟩)
  · cases member
  · cases member

theorem apart_empty : Apart converter ({} : Desk Body Model) :=
  ⟨List.nodup_nil, fun _ member => (nomatch member), fun _ member => (nomatch member)⟩

def Below (converter : Converter (Manifest Body) String Model) (desk : Desk Body Model) : Prop :=
  ∀ uid, Sighted converter desk uid → ∃ number < desk.count, uid = uidText number

theorem Below.fresh (below : Below converter desk) :
    ¬ Sighted converter desk (uidText desk.count) := by
  intro sighted
  obtain ⟨number, less, same⟩ := below _ sighted
  exact less.ne' (uidText_injective same)

theorem Below.moved (tracks : Tracks converter) (below : Below converter desk)
    (moved : Moved converter desk next) (grows : Grows desk next) : Below converter next := by
  intro uid sighted
  obtain before | ⟨rfl, more⟩ := sighted_of_moved tracks moved sighted
  · obtain ⟨number, less, rfl⟩ := below uid before
    exact ⟨number, less.trans_le grows, rfl⟩
  · exact ⟨desk.count, more ▸ Nat.lt_succ_self _, rfl⟩

def Labelled (converter : Converter (Manifest Body) String Model) (desk : Desk Body Model) : Prop :=
  ∀ uid, Sighted converter desk uid → ∃ number, uid = uidText number

theorem Labelled.moved (tracks : Tracks converter) (labelled : Labelled converter desk)
    (moved : Moved converter desk next) : Labelled converter next := by
  intro uid sighted
  obtain before | ⟨given, -⟩ := sighted_of_moved tracks moved sighted
  · exact labelled uid before
  · exact ⟨desk.count, given⟩

section Runs

variable (deeds : List (Deed converter))

theorem apart_run (tracks : Tracks converter) (renews : Throughout (Renews converter) {} deeds) :
    Apart converter (Desk.run {} deeds) :=
  (kept_along (S := fun _ _ => True) deeds tracks
    (fun sound moved apart renews => ⟨apart.moved tracks sound moved renews, trivial⟩)
    sound_empty apart_empty renews).2.1

theorem below_run (tracks : Tracks converter) (grows : Throughout Grows {} deeds) :
    Below converter (Desk.run {} deeds) ∧ Throughout (Renews converter) {} deeds :=
  (kept_along deeds tracks
    (fun _ moved below grows => ⟨below.moved tracks moved grows, fun _ => below.fresh⟩)
    sound_empty (fun uid sighted => absurd sighted (not_sighted_empty uid)) grows).2

theorem renews_of_shrinks (tracks : Tracks converter) (sound : Sound converter desk)
    (shrinks : Throughout Shrinks desk deeds) : Throughout (Renews converter) desk deeds :=
  (kept_along (P := fun _ => True) deeds tracks
    (fun _ _ _ shrinks => ⟨trivial, fun more => absurd more (Nat.not_lt.mpr shrinks)⟩)
    sound trivial shrinks).2.2

theorem labelled_run (tracks : Tracks converter) : Labelled converter (Desk.run {} deeds) :=
  (kept_along (R := fun _ _ => True) (S := fun _ _ => True) deeds tracks
    (fun _ moved labelled _ => ⟨labelled.moved tracks moved, trivial⟩) sound_empty
    (fun uid sighted => absurd sighted (not_sighted_empty uid))
    (throughout_of_forall deeds fun _ _ => trivial)).2.1

end Runs

theorem added_of_moved (moved : Moved converter desk next) (more : desk.count < next.count) :
    ∃ item, next.store.items = desk.store.items ++ [item] ∧
      item.metadata.uid = some (uidText desk.count) := by
  cases moved with
  | idle | blank | found => exact absurd more (Nat.lt_irrefl _)
  | added model => exact ⟨_, rfl, rfl⟩
  | replaced model uid payload old front rest held known sent bears split earlier first =>
    have same : (desk.holding (front ++ payload :: rest)).count = desk.count := by
      rw [Desk.count, Desk.count, split]
      simp [Desk.holding]
    rw [same] at more
    exact absurd more (Nat.lt_irrefl _)
  | removed model present => exact absurd more (Nat.not_lt.mpr (List.length_filter_le _ _))

theorem uids_of_moved (moved : Moved converter desk next) (more : desk.count < next.count) :
    next.uids = desk.uids ++ [some (uidText desk.count)] := by
  obtain ⟨item, added, given⟩ := added_of_moved moved more
  rw [Desk.uids, added, List.map_append, List.map_singleton, given]
  rfl

def numbered (count : Nat) : List (Option String) :=
  (List.range count).map fun number => some (uidText number)

theorem nodup_numbered (count : Nat) : (numbered count).Nodup :=
  List.nodup_range.map fun _ _ same => uidText_injective (Option.some.inj same)

def creations (converter : Converter (Manifest Body) String Model) (models : List Model) :
    List (Deed converter) :=
  models.map .create

theorem count_step_create (tracks : Tracks converter) (sound : Sound converter desk)
    (model : Model) : (desk.step (.create model : Deed converter)).count = desk.count + 1 := by
  rw [step_create tracks sound.healthy]
  exact List.length_append

theorem uids_run_creations (tracks : Tracks converter) (sound : Sound converter desk)
    (models : List Model) :
    (desk.run (creations converter models)).uids =
      desk.uids ++
        (List.range models.length).map fun more => some (uidText (desk.count + more)) := by
  induction models generalizing desk with
  | nil => exact (List.append_nil _).symm
  | cons model rest ih =>
    have moved := moved_step tracks sound.healthy (.create model)
    have count := count_step_create tracks sound model
    have later := ih (sound.moved tracks moved)
    rw [uids_of_moved moved (count ▸ Nat.lt_succ_self _), count, List.append_assoc] at later
    refine later.trans ?_
    rw [List.length_cons, List.range_succ_eq_map, List.map_cons, List.map_map]
    simp only [Function.comp_def, Nat.succ_eq_add_one, Nat.add_zero, Nat.add_assoc, Nat.add_comm 1,
      List.singleton_append]

theorem numbered_add (count more : Nat) :
    numbered (count + more) =
      numbered count ++ (List.range more).map fun later => some (uidText (count + later)) := by
  rw [numbered, List.range_add, List.map_append, List.map_map]
  rfl

theorem lasting_iff (tracks : Tracks converter) (sound : Sound converter desk)
    (labelled : Labelled converter desk) :
    (∀ models, (desk.run (creations converter models)).uids.Nodup) ↔
      desk.uids.Perm (numbered desk.count) := by
  have after := uids_run_creations tracks sound
  constructor
  · intro lasting
    have distinct : desk.uids.Nodup := lasting []
    refine (List.subperm_of_subset distinct fun entry member => ?_).perm_of_length_le ?_
    · obtain ⟨item, stored, rfl⟩ := List.mem_map.mp member
      obtain ⟨uid, given⟩ := sound.given item stored
      obtain ⟨number, rfl⟩ := labelled uid (.inl ⟨item, stored, given⟩)
      rw [given] at member ⊢
      refine List.mem_map.mpr ⟨number, List.mem_range.mpr ?_, rfl⟩
      -- Otherwise the creation that reaches the number gives it again.
      refine Nat.lt_of_not_le fun above => ?_
      obtain ⟨more, rfl⟩ := Nat.exists_eq_add_of_le above
      have again := lasting (List.replicate (more + 1) (converter.defaultModel default))
      rw [after, List.length_replicate] at again
      refine (List.nodup_append.mp again).2.2 _ member _ ?_ rfl
      exact List.mem_map.mpr ⟨more, List.mem_range.mpr (Nat.lt_succ_self more), rfl⟩
    · rw [numbered, List.length_map, List.length_range, Desk.uids, List.length_map]
      exact Nat.le_refl _
  · intro perm models
    rw [after, (perm.append_right _).nodup_iff, ← numbered_add]
    exact nodup_numbered _

/-- What the uids are after a run from an empty store, and what becomes of them. -/
structure Counted (deeds : List (Deed converter)) : Prop where
  created : ∀ model : Model,
    let desk := Desk.run {} deeds
    (desk.step (.create model : Deed converter)).count = desk.count + 1
  given : ∀ deed : Deed converter,
    let desk := Desk.run {} deeds
    desk.count < (desk.step deed).count →
      (∃ item, (desk.step deed).store.items = desk.store.items ++ [item] ∧
        item.metadata.uid = some (uidText desk.count)) ∧
      ((desk.step deed).uids.Nodup ↔ desk.uids.Nodup ∧ some (uidText desk.count) ∉ desk.uids)
  renewed : Throughout (Renews converter) {} deeds → (Desk.run {} deeds).uids.Nodup
  orderly : Throughout Grows {} deeds →
    let desk := Desk.run {} deeds
    some (uidText desk.count) ∉ desk.uids ∧
      ∀ later : List (Deed converter), Throughout Shrinks desk later → (desk.run later).uids.Nodup
  lasting :
    let desk := Desk.run {} deeds
    (∀ models, (desk.run (creations converter models)).uids.Nodup) ↔
      desk.uids.Perm (numbered desk.count)

theorem counted_of_tracks (tracks : Tracks converter) (deeds : List (Deed converter)) :
    Counted deeds where
  created model := count_step_create tracks (sound_run deeds tracks) model
  given deed := by
    intro desk more
    have moved := moved_step tracks (sound_run deeds tracks).healthy deed
    refine ⟨added_of_moved moved more, ?_⟩
    rw [uids_of_moved moved more, ← List.concat_eq_append, List.nodup_concat, and_comm]
  renewed renews := (apart_run deeds tracks renews).distinct
  orderly grows := by
    obtain ⟨below, renews⟩ := below_run deeds tracks grows
    refine ⟨fun member => ?_, fun later shrinks => ?_⟩
    · obtain ⟨item, stored, given⟩ := List.mem_map.mp member
      exact below.fresh (.inl ⟨item, stored, given⟩)
    · have still := renews_of_shrinks later tracks (sound_run deeds tracks) shrinks
      have whole := apart_run (deeds ++ later) tracks (throughout_append deeds renews still)
      rw [Desk.run, List.foldl_append] at whole
      exact whole.distinct
  lasting := lasting_iff tracks (sound_run deeds tracks) (labelled_run deeds tracks)

/-- A new item is numbered by the items that are there. Its uid is a new one, and all uids stay
apart, in every run that creates nothing once it has deleted something; and in any other run as long
as no creation reaches a uid that an item or a model still held has. Creations alone keep them apart
from some point on exactly if the numbers in use are those from 0 on. -/
theorem uids_follow_counts (maps : List (Deed ConfigMap.converter)) (reserved : Reserved)
    (spaces : List (Deed (Namespace.converter reserved))) : Counted maps ∧ Counted spaces :=
  ⟨counted_of_tracks tracks_configMaps maps,
    counted_of_tracks (tracks_namespaces reserved) spaces⟩

private def bare (name : String) : ConfigMap := { name, scope := "prod" }

private def filling : List (Deed ConfigMap.converter) :=
  [.create (bare "a"), .create (bare "b"), .read (.namespaced "prod" "b"), .create (bare "c"),
    .save 0 (.ofEdits [.set "key" "text"])]

private def clearing : List (Deed ConfigMap.converter) :=
  [.delete (bare "a"), .save 0 (.ofEdits [.remove "key"])]

/-- Uids stay with their items through saves and deletions. -/
theorem uids_follow_counts_orderly :
    let desk := Desk.run {} filling
    Throughout Grows {} filling ∧ Throughout Shrinks desk clearing ∧
      some "uid-3" ∉ desk.uids ∧ (desk.run clearing).uids = [some "uid-1", some "uid-2"] ∧
      (desk.run clearing).uids.Nodup := by
  intro desk
  have grows : Throughout Grows {} filling := by decide
  have shrinks : Throughout Shrinks desk clearing := by decide
  obtain ⟨fresh, distinct⟩ := (uids_follow_counts filling ⟨Reserved.usual⟩ []).1.orderly grows
  exact ⟨grows, shrinks, fresh, rfl, distinct clearing shrinks⟩

private def thinned : Desk Entries ConfigMap :=
  Desk.run {}
    ([.create (bare "a"), .create (bare "b"), .delete (bare "a")] : List (Deed ConfigMap.converter))

/-- Of two items the first is deleted, and the next to be created gets the uid of the second. -/
theorem uid_given_twice :
    let next := thinned.step (.create (bare "c") : Deed ConfigMap.converter)
    thinned.uids = [some "uid-1"] ∧ next.uids = [some "uid-1", some "uid-1"] ∧
      ¬ next.uids.Nodup := by
  decide

private def reopened : List (Deed ConfigMap.converter) :=
  [.create (bare "a"), .create (bare "b"), .read (.namespaced "prod" "b"), .delete (bare "b"),
    .create (bare "c"), .create (bare "b"), .save 0 (.ofEdits [])]

/-- Each of these creations is of a number that no item has; but a draft that was held all along
brings back the uid of an item that was deleted. -/
example : (Desk.run {} reopened).uids = [some "uid-0", some "uid-1", some "uid-1"] := by decide

end ClusterDesk.Uids
