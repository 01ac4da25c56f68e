import ClusterDesk.Proofs.Editing
import ClusterDesk.Proofs.Registers
import Mathlib.Data.Finset.Card

/-!
The entries of a config map over the edits made to it. A key is a register: it holds what the last
edit that names it has left there, a text or nothing, and until then what it held before, be that a
text or bytes. Main statement: `edited_entries_apart`: no key comes to have both, in the model or in
a payload, and the edits account for every key and for all that a setting or a removal tells.
-/

namespace ClusterDesk

namespace ConfigMap

/-- No key has both a text and bytes. -/
def Apart (data : Dict String) (binaryData : Dict (List UInt8)) : Prop :=
  data.keys.Disjoint binaryData.keys

instance (data : Dict String) (binaryData : Dict (List UInt8)) :
    Decidable (Apart data binaryData) :=
  decidable_of_iff (∀ key ∈ data.keys, key ∉ binaryData.keys) Iff.rfl

/-- The keys of all entries, each once. -/
def keys (map : ConfigMap) : Finset String := map.data.keys.toFinset ∪ map.binaryData.keys.toFinset

/-- The text and the bytes under a key. -/
def held (map : ConfigMap) (key : String) : Option String × Option (List UInt8) :=
  (map.data.find? key, map.binaryData.find? key)

/-- What an edit leaves under a key that it names. -/
def Edit.left : Edit → Option String × Option (List UInt8)
  | set _ value => (some value, none)
  | remove _ | own _ => (none, none)

/-- The last of the edits that name a key. -/
def lastOn (key : String) (edits : List Edit) : Option Edit :=
  (edits.filter fun edit => edit.key? = some key).getLast?

section Registers

variable (map : ConfigMap) (edit : Edit) (edits : List Edit) (key : String)

theorem held_apply : (edit.apply map).held key =
    if edit.key? = some key then edit.left else map.held key := by
  split
  · next named =>
    cases edit with
    | set other value =>
      cases named
      exact Prod.ext (Dict.find?_insert_self ..) ((Dict.find?_erase ..).trans (if_pos rfl))
    | remove other =>
      cases named
      exact Prod.ext ((Dict.find?_erase ..).trans (if_pos rfl))
        ((Dict.find?_erase ..).trans (if_pos rfl))
    | own owner => cases named
  · next unnamed =>
    obtain ⟨text, bytes⟩ := Editable.find?_apply map.editable edit key unnamed
    cases edit <;> exact Prod.ext text bytes

/-- A key holds what the last edit that names it has left there. -/
theorem held_edit :
    (map.edit edits).held key = ((lastOn key edits).map Edit.left).getD (map.held key) := by
  have written := last_written (fun map edit => Edit.apply edit map) (fun map => map.held key)
    (fun edit => if edit.key? = some key then some edit.left else none)
    (fun map edit => by rw [held_apply]; split <;> rfl) map edits
  have named : edits.filterMap (fun edit => if edit.key? = some key then some edit.left else none) =
      (edits.filter fun edit => edit.key? = some key).map Edit.left := by
    simp [← List.filterMap_eq_map, List.filterMap_filter]
  rw [named, List.getLast?_map] at written
  exact written

end Registers

theorem lastOn_names {key : String} {edits : List Edit} {edit : Edit}
    (last : lastOn key edits = some edit) :
    (∃ value, edit = .set key value) ∨ edit = .remove key := by
  have named := List.of_mem_filter (List.mem_of_getLast? last)
  cases edit with
  | set other value =>
    cases of_decide_eq_true named
    exact .inl ⟨value, rfl⟩
  | remove other =>
    cases of_decide_eq_true named
    exact .inr rfl
  | own owner => cases named

theorem lastOn_eq_none {key : String} {edits : List Edit} :
    lastOn key edits = none ↔ ∀ edit ∈ edits, edit.key? ≠ some key := by
  simp [lastOn]

theorem apart_iff {data : Dict String} {binaryData : Dict (List UInt8)} :
    Apart data binaryData ↔ ∀ key, data.find? key = none ∨ binaryData.find? key = none := by
  simp only [Apart, List.Disjoint, Dict.mem_keys, Option.isSome_iff_ne_none]
  refine forall_congr' fun key => ?_
  rw [imp_iff_not_or, imp_false, not_not, not_not]

section Entries

variable {map : ConfigMap} {edits : List Edit} {key : String}

theorem mem_keys_iff : key ∈ map.keys ↔ map.held key ≠ (none, none) := by
  simp only [keys, Finset.mem_union, List.mem_toFinset, Dict.mem_keys, Option.isSome_iff_ne_none,
    held, ne_eq, Prod.mk.injEq]
  tauto

theorem hasEntry_iff : map.hasEntry key = true ↔ key ∈ map.keys := by
  simp only [hasEntry, Dict.contains, Bool.or_eq_true, keys, Finset.mem_union, List.mem_toFinset,
    Dict.mem_keys]

/-- A removal changes something exactly if it tells that there was an entry. -/
theorem dropEntry_ne_iff : (map.dropEntry key).2 ≠ map ↔ (map.dropEntry key).1 = true := by
  have told : (map.dropEntry key).1 = true ↔ key ∈ map.keys := hasEntry_iff
  have removed : key ∉ (map.dropEntry key).2.keys := by
    rw [mem_keys_iff, not_not]
    exact (held_apply map (.remove key) key).trans (if_pos rfl)
  rw [told]
  constructor
  · intro changed
    by_contra absent
    refine changed ?_
    rw [mem_keys_iff, not_not] at absent
    obtain ⟨text, bytes⟩ := Prod.mk.inj absent
    rw [dropEntry, Dict.erase_of_absent text, Dict.erase_of_absent bytes]
  · intro present same
    rw [same] at removed
    exact removed present

theorem edit_concat (map : ConfigMap) (before : List Edit) (edit : Edit) :
    map.edit (before ++ [edit]) = edit.apply (map.edit before) :=
  List.foldl_concat ..

theorem entryCount_eq_card (apart : Apart map.data map.binaryData) :
    map.entryCount = map.keys.card := by
  have disjoint := List.disjoint_toFinset_iff_disjoint.mpr apart
  have texts := List.toFinset_card_of_nodup map.data.nodup_keys
  have bytes := List.toFinset_card_of_nodup map.binaryData.nodup_keys
  rw [keys, Finset.card_union_of_disjoint disjoint, texts, bytes, Dict.length_keys,
    Dict.length_keys]
  rfl

theorem held_edit_set (map : ConfigMap) {value : String}
    (last : lastOn key edits = some (.set key value)) :
    (map.edit edits).held key = (some value, none) := by
  rw [held_edit, last]
  rfl

theorem held_edit_remove (map : ConfigMap) (last : lastOn key edits = some (.remove key)) :
    (map.edit edits).held key = (none, none) := by
  rw [held_edit, last]
  rfl

theorem held_edit_unnamed (map : ConfigMap) (unnamed : lastOn key edits = none) :
    (map.edit edits).held key = map.held key := by
  rw [held_edit, unnamed]
  rfl

theorem mem_keys_edit : key ∈ (map.edit edits).keys ↔
    (∃ value, lastOn key edits = some (.set key value)) ∨
      lastOn key edits = none ∧ key ∈ map.keys := by
  cases last : lastOn key edits with
  | none => simp [mem_keys_iff, held_edit_unnamed map last]
  | some edit =>
    obtain ⟨value, rfl⟩ | rfl := lastOn_names last
    · simp [mem_keys_iff, held_edit_set map last]
    · simp [mem_keys_iff, held_edit_remove map last]

theorem apart_edit (apart : Apart map.data map.binaryData) (edits : List Edit) :
    Apart (map.edit edits).data (map.edit edits).binaryData := by
  rw [apart_iff] at apart ⊢
  intro key
  cases last : lastOn key edits with
  | none =>
    obtain ⟨text, bytes⟩ := Prod.mk.inj (held_edit_unnamed map last)
    rw [text, bytes]
    exact apart key
  | some edit =>
    obtain ⟨value, rfl⟩ | rfl := lastOn_names last
    · exact .inr (congrArg Prod.snd (held_edit_set map last))
    · exact .inr (congrArg Prod.snd (held_edit_remove map last))

end Entries

/-- The entries after some edits, and what each of these tells. -/
structure Accounted (map : ConfigMap) (edits : List Edit) (edited : ConfigMap) : Prop where
  apart : Apart edited.data edited.binaryData
  count : edited.entryCount = edited.keys.card
  present : ∀ key, key ∈ edited.keys ↔
    (∃ value, lastOn key edits = some (.set key value)) ∨
      lastOn key edits = none ∧ key ∈ map.keys
  entered : ∀ key value, lastOn key edits = some (.set key value) →
    edited.held key = (some value, none)
  kept : ∀ key, lastOn key edits = none → edited.held key = map.held key
  dropped : ∀ before key after, edits = before ++ .remove key :: after →
    let drop := (map.edit before).dropEntry key
    drop.2 = map.edit (before ++ [.remove key]) ∧
      (drop.1 = true ↔ key ∈ (map.edit before).keys) ∧
      (drop.2 ≠ map.edit before ↔ drop.1 = true)
  replaced : ∀ before key value after, edits = before ++ .set key value :: after →
    let put := (map.edit before).putEntry key value
    put.2 = map.edit (before ++ [.set key value]) ∧
      put.1 = (((lastOn key before).map Edit.left).getD (map.held key)).1
  sent : ∀ payload ∈ [edited.createPayload, edited.updatePayload],
    Apart (payload.body.data.getD Dict.empty) (payload.body.binaryData.getD Dict.empty)

/-- If no key has both a text and bytes, then none has after any edits. A key is there exactly if it
was set last, as the text it was set to, or if it was there and is not named, as it was; a removal
tells whether the key was there, and so whether it takes anything away, and a setting tells which
text it replaces. -/
theorem edited_entries_apart (map : ConfigMap) (edits : List Edit)
    (apart : Apart map.data map.binaryData) : Accounted map edits (map.edit edits) := by
  have edited := apart_edit apart edits
  refine ⟨edited, entryCount_eq_card edited, fun key => mem_keys_edit,
    fun key value => held_edit_set map, fun key => held_edit_unnamed map, ?_, ?_, ?_⟩
  · intro before key after _
    exact ⟨(edit_concat map before (.remove key)).symm, hasEntry_iff, dropEntry_ne_iff⟩
  · intro before key value after _
    refine ⟨(edit_concat map before (.set key value)).symm, ?_⟩
    rw [← held_edit]
    rfl
  · have sent : Apart (map.edit edits).data
        ((map.edit edits).updatePayload.body.binaryData.getD Dict.empty) := by
      rw [binaryData_updatePayload]
      exact edited
    intro payload made
    rcases List.mem_pair.mp made with rfl | rfl
    · exact sent
    · exact sent

private def mixed : ConfigMap where
  data := Dict.ofList [("level", "info")]
  binaryData := Dict.ofList [("cert", [1, 2, 3]), ("seal", [4])]

/-- Bytes become a text, and a text goes, comes back and goes again. -/
private def turns : List Edit :=
  [.set "cert" "none", .remove "level", .own (some "web"), .remove "level", .set "level" "debug",
    .remove "level"]

theorem edited_entries_apart_turns :
    Apart mixed.data mixed.binaryData ∧ (mixed.edit turns).entryCount = 2 ∧
      (mixed.edit turns).held "cert" = (some "none", none) ∧
      (mixed.edit turns).held "seal" = (none, some [4]) ∧ "level" ∉ (mixed.edit turns).keys ∧
      (mixed.putEntry "cert" "none").1 = none ∧
      (mixed.putEntry "level" "debug").1 = some "info" ∧
      ((mixed.edit (turns.take 1)).dropEntry "level").1 = true ∧
      ((mixed.edit (turns.take 3)).dropEntry "level").1 = false ∧
      Accounted mixed turns (mixed.edit turns) := by
  have apart : Apart mixed.data mixed.binaryData := by decide
  have accounted := edited_entries_apart mixed turns apart
  refine ⟨apart, by decide, accounted.entered "cert" "none" rfl, accounted.kept "seal" rfl,
    by decide, by decide, by decide, by decide, by decide, accounted⟩

end ConfigMap

end ClusterDesk
