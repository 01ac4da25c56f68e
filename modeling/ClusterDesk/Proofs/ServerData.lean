import ClusterDesk.Proofs.SettingsCodec

/-!
What becomes of a server's settings that are read and written back. Members without a field are
kept at every depth; so are those with a field, except that of a filtered label nothing is kept but
its name and its value. Main statement: `kept_iff_plain`.
-/

namespace ClusterDesk.Settings

open Json
open Dict (lookup)

/-- Every part of one tree is in another, at the same place and with the same value. -/
def Kept (before after : Json) : Prop :=
  ∀ path part, path ≠ [] → before.at? path = some part → after.at? path = some part

/-- An object without members other than a name and a value. -/
def PlainLabel (json : Json) : Prop :=
  ∃ members, json = .obj members ∧ ∀ member ∈ members, member.1 = "name" ∨ member.1 = "value"

section Labels

variable {json : Json} {label : FilteredLabel}

theorem plainLabel_writeLabel (label : FilteredLabel) : PlainLabel (writeLabel label) := by
  refine ⟨_, rfl, ?_⟩
  intro member inside
  simp only [List.mem_cons, List.not_mem_nil, or_false] at inside
  rcases inside with rfl | rfl
  · exact .inl rfl
  · exact .inr rfl

theorem lookup_of_required? {α : Type} {name : String} {read : Json → Option α} {value : α}
    {members : List (String × Json)} (distinct : (members.map (·.1)).Nodup)
    (found : required? name read members = some value) :
    ∃ part, lookup name members = some part ∧ read part = some value := by
  rw [required?, named_eq_lookup distinct] at found
  cases there : lookup name members with
  | none =>
    rw [there] at found
    cases found
  | some part =>
    rw [there] at found
    exact ⟨part, rfl, found⟩

theorem lookup_of_readLabel {members : List (String × Json)} (distinct : (members.map (·.1)).Nodup)
    (found : readLabel (.obj members) = some label) :
    lookup "name" members = some (.str label.name) ∧
      lookup "value" members = some (.str label.value) := by
  obtain ⟨name, hasName, later⟩ := Option.bind_eq_some_iff.mp found
  obtain ⟨value, hasValue, same⟩ := Option.bind_eq_some_iff.mp later
  cases same
  obtain ⟨named, there, isText⟩ := lookup_of_required? distinct hasName
  obtain ⟨valued, also, alsoText⟩ := lookup_of_required? distinct hasValue
  rw [text?_eq_some_iff] at isText alsoText
  subst isText alsoText
  exact ⟨there, also⟩

/-- A plain label is written as it was read. -/
theorem writeLabel_of_plain (valued : IsValue json) (plain : PlainLabel json)
    (found : readLabel json = some label) : writeLabel label = json := by
  obtain ⟨members, rfl, only⟩ := plain
  have ascending := (isValue_obj.mp valued).1
  obtain ⟨name, value⟩ := lookup_of_readLabel ascending.nodup found
  have sorted := (isValue_obj.mp (isValue_writeLabel label)).1
  refine congrArg Json.obj (Dict.entries_ext sorted ascending ?_)
  intro key
  by_cases isName : key = "name"
  · subst isName
    rw [name]
    rfl
  · by_cases isValue : key = "value"
    · subst isValue
      rw [value]
      rfl
    · have absent : lookup key members = none := by
        rw [Dict.lookup_eq_none]
        intro inside
        obtain ⟨member, there, rfl⟩ := List.mem_map.mp inside
        rcases only member there with same | same
        · exact isName same
        · exact isValue same
      rw [absent]
      simp [lookup, Ne.symm isName, Ne.symm isValue]

theorem map_writeLabel_of_plain {items : List Json} {labels : List FilteredLabel}
    (read : List.Forall₂ (fun item label => readLabel item = some label) items labels)
    (valued : ∀ item ∈ items, IsValue item) (plain : ∀ item ∈ items, PlainLabel item) :
    labels.map writeLabel = items := by
  induction read with
  | nil => rfl
  | @cons item label rest others found _ ih =>
    have first := writeLabel_of_plain (valued item List.mem_cons_self)
      (plain item List.mem_cons_self) found
    have later := ih (fun other inside => valued other (List.mem_cons_of_mem _ inside))
      fun other inside => plain other (List.mem_cons_of_mem _ inside)
    rw [List.map_cons, first, later]

end Labels

section Members

variable {members : List (String × Json)} {settings : Settings}

theorem at?_obj (distinct : (members.map (·.1)).Nodup) (name : String) (rest : List Step) :
    (Json.obj members).at? (.member name :: rest) = (lookup name members).bind (at? rest) := by
  rw [Json.at?, member?, Dict.lookup_reverse distinct]

theorem mem_writeFields_of_once? {α : Type} {name : String} {default value : α}
    {read : Json → Option α} {part written : Json} (distinct : (members.map (·.1)).Nodup)
    (there : lookup name members = some part) (found : once? name default read members = some value)
    (exact : read part = some value → part = written)
    (field : (name, written) ∈ settings.writeFields) : (name, part) ∈ settings.writeFields := by
  rw [once?_of_lookup distinct there] at found
  rw [exact found]
  exact field

theorem field_kept {name : String} {part : Json} (distinct : (members.map (·.1)).Nodup)
    (reads : Reads members settings) (there : lookup name members = some part)
    (field : name ∈ names) (other : name ≠ "BlackListedLabels") :
    (name, part) ∈ settings.writeFields := by
  have text : ∀ {default value}, once? name default text? members = some value →
      (name, Json.str value) ∈ settings.writeFields → (name, part) ∈ settings.writeFields :=
    fun found => mem_writeFields_of_once? distinct there found text?_eq_some_iff.mp
  have flag : ∀ {default value}, once? name default bool? members = some value →
      (name, Json.bool value) ∈ settings.writeFields → (name, part) ∈ settings.writeFields :=
    fun found => mem_writeFields_of_once? distinct there found bool?_eq_some_iff.mp
  have interval : ∀ {default value}, once? name default seconds? members = some value →
      (name, Json.int value.toNat) ∈ settings.writeFields → (name, part) ∈ settings.writeFields :=
    fun found => mem_writeFields_of_once? distinct there found seconds?_eq_some_iff.mp
  simp only [names, List.mem_cons, List.not_mem_nil, or_false] at field
  rcases field with rfl | rfl | rfl | rfl | rfl | rfl | rfl | rfl | rfl | rfl | rfl | rfl | rfl |
    rfl
  · exact text reads.logoUrl (by simp [writeFields])
  · exact absurd rfl other
  · exact text reads.snapshotInterval (by simp [writeFields])
  · exact interval reads.checkinInterval (by simp [writeFields])
  · exact flag reads.allowBindMounts (by simp [writeFields])
  · exact flag reads.allowPrivilegedMode (by simp [writeFields])
  · exact flag reads.allowVolumeBrowser (by simp [writeFields])
  · exact flag reads.enableHostManagement (by simp [writeFields])
  · exact flag reads.enableEdgeCompute (by simp [writeFields])
  · exact flag reads.allowHostNamespace (by simp [writeFields])
  · exact flag reads.allowDeviceMapping (by simp [writeFields])
  · exact flag reads.allowStackManagement (by simp [writeFields])
  · exact flag reads.allowContainerCapabilities (by simp [writeFields])
  · exact flag reads.enableTelemetry (by simp [writeFields])

theorem find?_extra {name : String} (distinct : (members.map (·.1)).Nodup)
    (values : ∀ member ∈ members, IsValue member.2) (reads : Reads members settings)
    (other : name ∉ names) : settings.extra.find? name = lookup name members := by
  obtain ⟨extra, read, found⟩ := readExtra_of_values distinct fun member inside _ =>
    values member inside
  have same : extra = settings.extra := Option.some.inj (read.symm.trans reads.extra)
  rw [← same, found, if_neg other]

/-- Every member is kept that is not the list of filtered labels. -/
theorem lookup_kept {name : String} {part : Json} (distinct : (members.map (·.1)).Nodup)
    (values : ∀ member ∈ members, IsValue member.2) (reads : Reads members settings)
    (there : lookup name members = some part) (other : name ≠ "BlackListedLabels") :
    lookup name settings.members = some part := by
  by_cases field : name ∈ names
  · have apart := (readExtra_eq_some reads.extra).1
    exact lookup_field apart (field_kept distinct reads there field other)
  · rw [lookup_other field, find?_extra distinct values reads field, there]

theorem labels_read {part : Json} (distinct : (members.map (·.1)).Nodup)
    (reads : Reads members settings) (there : lookup "BlackListedLabels" members = some part) :
    ∃ items, part = .arr items ∧ List.Forall₂ (fun item label => readLabel item = some label) items
      settings.filteredLabels := by
  have found := reads.filteredLabels
  rw [once?_of_lookup distinct there] at found
  exact list?_eq_some_iff.mp found

end Members

section Trees

variable {json : Json} {settings : Settings}

/-- The object that was read, with what is known of its members. -/
structure Source (json : Json) (settings : Settings) (members : List (String × Json)) : Prop where
  object : json = .obj members
  distinct : (members.map (·.1)).Nodup
  values : ∀ member ∈ members, IsValue member.2
  reads : Reads members settings
  apart : settings.ExtraApart

theorem source_of_read (valued : IsValue json) (found : read json = some settings) :
    ∃ members, Source json settings members := by
  obtain ⟨members, rfl, reads⟩ := read_eq_some_iff.mp found
  obtain ⟨ascending, values⟩ := isValue_obj.mp valued
  exact ⟨members, rfl, ascending.nodup, values, reads, (extra_of_read found).1⟩

theorem Source.at? {members : List (String × Json)} (source : Source json settings members)
    (name : String) (rest : List Step) :
    json.at? (.member name :: rest) = (lookup name members).bind (Json.at? rest) ∧
      settings.write.at? (.member name :: rest) =
        (lookup name settings.members).bind (Json.at? rest) := by
  rw [source.object]
  exact ⟨at?_obj source.distinct name rest, at?_obj (distinct_members source.apart) name rest⟩

theorem lookup_labels (apart : settings.ExtraApart) :
    lookup "BlackListedLabels" settings.members =
      some (.arr (settings.filteredLabels.map writeLabel)) := by
  have field : ("BlackListedLabels", .arr (settings.filteredLabels.map writeLabel)) ∈
      settings.writeFields := by simp [writeFields]
  exact lookup_field apart field

theorem kept_elsewhere {members : List (String × Json)} (source : Source json settings members)
    {path : List Step} {part : Json} (inside : path ≠ [])
    (elsewhere : path.head? ≠ some (.member "BlackListedLabels"))
    (found : json.at? path = some part) : settings.write.at? path = some part := by
  cases path with
  | nil => exact absurd rfl inside
  | cons step rest =>
    cases step with
    | item index =>
      rw [source.object] at found
      cases found
    | member name =>
      obtain ⟨before, after⟩ := source.at? name rest
      rw [before] at found
      obtain ⟨whole, there, later⟩ := Option.bind_eq_some_iff.mp found
      have other : name ≠ "BlackListedLabels" := by
        rintro rfl
        exact elsewhere rfl
      rw [after, lookup_kept source.distinct source.values source.reads there other]
      exact later

theorem forall₂_getElem? {items : List Json} {labels : List FilteredLabel} {index : Nat}
    {item : Json}
    (read : List.Forall₂ (fun item label => readLabel item = some label) items labels)
    (there : items[index]? = some item) :
    ∃ label, labels[index]? = some label ∧ readLabel item = some label := by
  induction read generalizing index with
  | nil => simp at there
  | @cons first label rest others found _ ih =>
    cases index with
    | zero =>
      cases there
      exact ⟨label, rfl, found⟩
    | succ index => exact ih there

/-- What is found in the list of labels that was read, and in the one that is written. -/
theorem at?_label {members : List (String × Json)} (source : Source json settings members)
    {index : Nat} {rest : List Step} {part : Json}
    (found : json.at? (.member "BlackListedLabels" :: .item index :: rest) = some part) :
    ∃ item label, json.at? [.member "BlackListedLabels", .item index] = some item ∧
      IsValue item ∧ item.at? rest = some part ∧ readLabel item = some label ∧
      settings.write.at? (.member "BlackListedLabels" :: .item index :: rest) =
        (writeLabel label).at? rest := by
  obtain ⟨before, after⟩ := source.at? "BlackListedLabels" (.item index :: rest)
  rw [before] at found
  obtain ⟨whole, there, later⟩ := Option.bind_eq_some_iff.mp found
  obtain ⟨items, rfl, read⟩ := labels_read source.distinct source.reads there
  obtain ⟨item, listed, inner⟩ := Option.bind_eq_some_iff.mp later
  obtain ⟨label, placed, isLabel⟩ := forall₂_getElem? read listed
  have valued : IsValue (.arr items) := source.values _ (Dict.mem_of_lookup_eq_some there)
  refine ⟨item, label, ?_, ?_, inner, isLabel, ?_⟩
  · rw [(source.at? "BlackListedLabels" [.item index]).1, there]
    simp [Json.at?, listed]
  · exact isValue_arr.mp valued item (List.mem_of_getElem? listed)
  · rw [after, lookup_labels source.apart]
    simp [Json.at?, placed]

theorem kept_of_plain {members : List (String × Json)} (source : Source json settings members)
    (plain : ∀ index label, json.at? [.member "BlackListedLabels", .item index] = some label →
      PlainLabel label) : Kept json settings.write := by
  intro path part inside found
  by_cases elsewhere : path.head? = some (.member "BlackListedLabels")
  · obtain ⟨rest, rfl⟩ : ∃ rest, path = .member "BlackListedLabels" :: rest :=
      List.head?_eq_some_iff.mp elsewhere
    obtain ⟨before, after⟩ := source.at? "BlackListedLabels" rest
    rw [before] at found
    obtain ⟨whole, there, later⟩ := Option.bind_eq_some_iff.mp found
    obtain ⟨items, rfl, read⟩ := labels_read source.distinct source.reads there
    have valued : IsValue (.arr items) := source.values _ (Dict.mem_of_lookup_eq_some there)
    have same : settings.filteredLabels.map writeLabel = items := by
      refine map_writeLabel_of_plain read (isValue_arr.mp valued) ?_
      intro item listed
      obtain ⟨index, placed⟩ := List.mem_iff_getElem?.mp listed
      refine plain index item ?_
      rw [(source.at? "BlackListedLabels" [.item index]).1, there]
      simp [Json.at?, placed]
    rw [after, lookup_labels source.apart, same]
    exact later
  · exact kept_elsewhere source inside elsewhere found

theorem plain_of_kept {members : List (String × Json)} (source : Source json settings members)
    (kept : Kept json settings.write) {index : Nat} {label : Json}
    (found : json.at? [.member "BlackListedLabels", .item index] = some label) :
    PlainLabel label := by
  obtain ⟨item, known, -, -, -, -, written⟩ := at?_label source found
  have same := kept _ label (List.cons_ne_nil _ _) found
  rw [written] at same
  cases same
  exact plainLabel_writeLabel known

theorem label_kept {members : List (String × Json)} (source : Source json settings members)
    {index : Nat} {name : String} {part : Json} (named : name = "name" ∨ name = "value")
    (found : json.at? [.member "BlackListedLabels", .item index, .member name] = some part) :
    settings.write.at? [.member "BlackListedLabels", .item index, .member name] = some part := by
  obtain ⟨item, label, -, valued, inner, isLabel, written⟩ := at?_label source found
  rw [written]
  cases item with
  | obj fields =>
    have distinct := (isValue_obj.mp valued).1.nodup
    rw [at?_obj distinct] at inner
    obtain ⟨text, there, same⟩ := Option.bind_eq_some_iff.mp inner
    cases same
    obtain ⟨hasName, hasValue⟩ := lookup_of_readLabel distinct isLabel
    rcases named with rfl | rfl
    · rw [hasName] at there
      exact there
    · rw [hasValue] at there
      exact there
  | _ => cases inner

end Trees

/-- A server's settings that are read and written back keep every member at every depth exactly if
no filtered label is more than a name and a value. Whatever a label is, all that is not in the list
of labels is kept, and so are the names and the values in it. -/
theorem kept_iff_plain (json : Json) (settings : Settings) (valued : IsValue json)
    (found : read json = some settings) :
    (Kept json settings.write ↔
      ∀ index label, json.at? [.member "BlackListedLabels", .item index] = some label →
        PlainLabel label) ∧
    (∀ path part, path ≠ [] → path.head? ≠ some (.member "BlackListedLabels") →
      json.at? path = some part → settings.write.at? path = some part) ∧
    ∀ index name part, name = "name" ∨ name = "value" →
      json.at? [.member "BlackListedLabels", .item index, .member name] = some part →
      settings.write.at? [.member "BlackListedLabels", .item index, .member name] = some part := by
  obtain ⟨members, source⟩ := source_of_read valued found
  refine ⟨⟨?_, ?_⟩, ?_, ?_⟩
  · intro kept index label there
    exact plain_of_kept source kept there
  · intro plain
    exact kept_of_plain source plain
  · intro path part inside elsewhere there
    exact kept_elsewhere source inside elsewhere there
  · intro index name part named there
    exact label_kept source named there

/-- Unknown members are kept with all that is in them, beside a label that is plain. -/
theorem kept_nested_member :
    let json : Json := .obj
      [("AuthenticationMethod", .obj [("ldap", .arr [.int 1, .null])]),
        ("BlackListedLabels", .arr [.obj [("name", .str "team"), ("value", .str "ops")]])]
    ∃ settings, IsValue json ∧ read json = some settings ∧ Kept json settings.write ∧
      settings.write.at? [.member "AuthenticationMethod", .member "ldap", .item 0] =
        some (.int 1) := by
  intro json
  have valued : IsValue json := by decide
  have found : read json = some {
      filteredLabels := [⟨"team", "ops"⟩]
      extra := Dict.ofList [("AuthenticationMethod", .obj [("ldap", .arr [.int 1, .null])])] } := by
    decide
  have plain : ∀ index label, json.at? [.member "BlackListedLabels", .item index] = some label →
      PlainLabel label := by
    intro index label there
    cases index with
    | zero =>
      cases there
      exact plainLabel_writeLabel ⟨"team", "ops"⟩
    | succ index => cases there
  have kept := (kept_iff_plain json _ valued found).1.mpr plain
  exact ⟨_, valued, found, kept, kept _ _ (List.cons_ne_nil _ _) rfl⟩

/-- A further member of a label is lost. -/
theorem label_member_lost :
    let json : Json := .obj
      [("BlackListedLabels", .arr
        [.obj [("color", .str "red"), ("name", .str "team"), ("value", .str "ops")]])]
    let color : List Step := [.member "BlackListedLabels", .item 0, .member "color"]
    IsValue json ∧ json.at? color = some (.str "red") ∧
      ∃ settings, read json = some settings ∧ settings.write.at? color = none ∧
        ¬ Kept json settings.write := by
  intro json color
  have present : json.at? color = some (.str "red") := by decide
  have found : read json = some { filteredLabels := [⟨"team", "ops"⟩] } := by decide
  have lost : (write { filteredLabels := [⟨"team", "ops"⟩] }).at? color = none := by decide
  refine ⟨by decide, present, _, found, lost, ?_⟩
  intro kept
  have same := kept color (.str "red") (List.cons_ne_nil _ _) present
  rw [lost] at same
  cases same

end ClusterDesk.Settings
