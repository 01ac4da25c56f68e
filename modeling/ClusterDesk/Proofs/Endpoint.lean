import ClusterDesk.Proofs.AddressForm
import ClusterDesk.Settings.Remote

/-!
Where the settings are, seen from the address of their server. The segments of a path and its text
determine each other as long as segments have no slash, so what is done to the segments can be told
as what becomes of the text. Main statement: `endpoint_extends_base`.
-/

namespace ClusterDesk

namespace Split

variable {separator : Char} {word : List Char}

theorem pieces_of_free (free : separator ∉ word) : pieces separator word = [word] := by
  induction word with
  | nil => rfl
  | cons c rest ih =>
    obtain ⟨other, free⟩ := not_or.mp (mt List.mem_cons.mpr free)
    rw [pieces_cons, ih free, add, if_neg (Ne.symm other)]

theorem pieces_append (free : separator ∉ word) (rest : List Char) :
    pieces separator (word ++ separator :: rest) = word :: pieces separator rest := by
  induction word with
  | nil => exact (pieces_cons ..).trans (if_pos rfl)
  | cons c word ih =>
    obtain ⟨other, free⟩ := not_or.mp (mt List.mem_cons.mpr free)
    rw [List.cons_append, pieces_cons, ih free, add, if_neg (Ne.symm other)]

end Split

namespace Url

section Texts

variable {segments first second init : List String} {last : String}

theorem toList_text_rooted :
    (Path.rooted segments).text.toList = segments.flatMap fun segment => '/' :: segment.toList := by
  simp [Path.text, String.toList_join, List.flatMap_map]

theorem text_append :
    (Path.rooted (first ++ second)).text = (Path.rooted first).text ++ (Path.rooted second).text := by
  apply String.toList_injective
  rw [String.toList_append, toList_text_rooted, toList_text_rooted, toList_text_rooted,
    List.flatMap_append]

theorem pieces_text {word : List Char} (free : '/' ∉ word) (flat : Flat segments) :
    Split.pieces '/' (word ++ segments.flatMap fun segment => '/' :: segment.toList) =
      word :: segments.map String.toList := by
  induction segments generalizing word with
  | nil => simpa using Split.pieces_of_free free
  | cons segment rest ih =>
    obtain ⟨clear, flat⟩ := List.forall_mem_cons.mp flat
    rw [List.flatMap_cons, List.cons_append, Split.pieces_append free, ih clear flat,
      List.map_cons]

/-- The text of a path tells its segments. -/
theorem rooted_text_inj (one : Flat first) (two : Flat second)
    (same : (Path.rooted first).text = (Path.rooted second).text) : first = second := by
  have pieces := congrArg (Split.pieces '/' ·.toList) same
  have blank : '/' ∉ ([] : List Char) := List.not_mem_nil
  simp only [toList_text_rooted] at pieces
  have heads := (pieces_text blank one).symm.trans (pieces.trans (pieces_text blank two))
  exact List.map_injective_iff.mpr (fun _ _ => String.toList_injective) (List.cons.inj heads).2

/-- The text without a slash at its end. -/
def unslashed (text : String) : String :=
  if text.toList.getLast? = some '/' then String.ofList text.toList.dropLast else text

theorem unslashed_slash (text : String) : unslashed (text ++ "/") = text := by
  have letters : (text ++ "/").toList = text.toList ++ ['/'] := String.toList_append
  simp [unslashed, letters]

theorem unslashed_of_last (filled : last ≠ "") (flat : '/' ∉ last.toList) (text : String) :
    unslashed (text ++ last) = text ++ last := by
  refine if_neg fun slash => ?_
  have letters : last.toList ≠ [] := fun bare => filled (String.toList_eq_nil_iff.mp bare)
  rw [String.toList_append, List.getLast?_append_of_ne_nil _ letters] at slash
  exact flat (List.mem_of_getLast? slash)

theorem text_concat : (Path.rooted (init ++ [last])).text = (Path.rooted init).text ++ "/" ++ last := by
  rw [text_append, String.append_assoc]
  rfl

theorem stem_slash (regular : "" ∉ init) : stem (init ++ [""]) = init := by
  cases init with
  | nil => rfl
  | cons segment rest =>
    have several : 1 < (segment :: rest ++ [""]).length := by simp
    have other : segment :: rest ≠ [""] := by
      rintro same
      rw [same] at regular
      exact regular List.mem_cons_self
    have ends : (segment :: rest ++ [""]).getLast? = some "" := List.getLast?_concat
    simp only [stem, several, ends, and_self, if_true, List.dropLast_concat, if_neg other]

theorem stem_of_last (filled : last ≠ "") : stem (init ++ [last]) = init ++ [last] := by
  have other : init ++ [last] ≠ [""] := by
    intro same
    have ends := congrArg List.getLast? same
    rw [List.getLast?_concat] at ends
    exact filled (Option.some.inj ends)
  have ends : ¬ (1 < (init ++ [last]).length ∧ (init ++ [last]).getLast? = some "") := by
    rw [List.getLast?_concat]
    exact fun blank => filled (Option.some.inj blank.2)
  simp only [stem, if_neg ends, if_neg other]

theorem blank_not_mem_stem (regular : "" ∉ segments.dropLast) : "" ∉ stem segments := by
  obtain rfl | ⟨init, last, rfl⟩ := List.eq_nil_or_concat' segments
  · exact List.not_mem_nil
  · rw [List.dropLast_concat] at regular
    by_cases blank : last = ""
    · rwa [blank, stem_slash regular]
    · rw [stem_of_last blank, List.mem_append, List.mem_singleton]
      exact not_or_intro regular (Ne.symm blank)

/-- The segments to which others are added have the text without a slash at its end. -/
theorem text_stem (flat : Flat segments) (regular : "" ∉ segments.dropLast) :
    (Path.rooted (stem segments)).text = unslashed (Path.rooted segments).text := by
  obtain rfl | ⟨init, last, rfl⟩ := List.eq_nil_or_concat' segments
  · rfl
  · rw [List.dropLast_concat] at regular
    by_cases blank : last = ""
    · subst blank
      rw [stem_slash regular, text_concat, String.append_empty, unslashed_slash]
    · have clear := flat last (List.mem_append_right init List.mem_cons_self)
      rw [stem_of_last blank, text_concat, unslashed_of_last blank clear]

/-- A slash at the end of a path makes no difference to what others are added to. -/
theorem stem_slash_eq (regular : "" ∉ segments) : stem (segments ++ [""]) = stem segments := by
  rw [stem_slash regular]
  obtain rfl | ⟨init, last, rfl⟩ := List.eq_nil_or_concat' segments
  · rfl
  · have filled : last ≠ "" := by
      rintro rfl
      exact regular (List.mem_append_right init List.mem_cons_self)
    exact (stem_of_last filled).symm

end Texts

/-- A slash follows the colon of the scheme, so that something can be relative to the address. -/
def CanBeBase (url : Url) : Prop := ∃ rest, url.text = url.scheme ++ ":/" ++ rest

/-- No segment is empty, but possibly the last one. -/
def Path.Regular (path : Path) : Prop :=
  ∀ segments, path = .rooted segments → "" ∉ segments.dropLast

/-- What follows the colon of the scheme. -/
def behindScheme (url : Url) : String :=
  url.authority ++ url.guard ++ url.target ++ url.fragment.elim "" ("#" ++ ·)

theorem text_eq (url : Url) : url.text = url.scheme ++ (":" ++ url.behindScheme) := by
  simp only [text, behindScheme, String.append_assoc]

theorem canBeBase_iff_head {url : Url} : url.CanBeBase ↔ url.behindScheme.toList.head? = some '/' := by
  unfold CanBeBase
  rw [text_eq]
  constructor
  · rintro ⟨rest, same⟩
    rw [String.append_assoc] at same
    have letters := congrArg String.toList same
    simp only [String.toList_append, List.append_cancel_left_eq] at letters
    have colon : ":/".toList = ":".toList ++ ['/'] := rfl
    rw [colon, List.append_assoc, List.append_cancel_left_eq] at letters
    rw [letters]
    rfl
  · intro slash
    obtain ⟨rest, letters⟩ := List.head?_eq_some_iff.mp slash
    refine ⟨String.ofList rest, String.toList_injective ?_⟩
    simp [letters]

theorem canBeBase_iff {url : Url} (formed : Formed url) :
    url.CanBeBase ↔ ∃ segments, url.path = .rooted segments := by
  rw [canBeBase_iff_head]
  cases path : url.path with
  | rootless text =>
    refine iff_of_false ?_ (fun ⟨segments, same⟩ => nomatch same)
    have nowhere : url.host = none := formed.hosted text path
    have other : (Path.rootless text).Separated := path ▸ formed.separated
    have behind : url.behindScheme =
        text ++ url.query.elim "" ("?" ++ ·) ++ url.fragment.elim "" ("#" ++ ·) := by
      simp [behindScheme, authority, guard, target, nowhere, path, Path.text]
    rw [behind, String.toList_append, String.toList_append]
    cases letters : text.toList with
    | nil => cases url.query <;> cases url.fragment <;> simp
    | cons c rest => simpa [Path.Separated, letters] using other
  | rooted segments =>
    refine iff_of_true ?_ ⟨segments, rfl⟩
    cases place : url.host with
    | some host => simp [behindScheme, authority, place]
    | none =>
      cases segments with
      | nil => exact absurd place (formed.unhosted path)
      | cons segment rest =>
        have text : url.path.text.toList = '/' :: (segment.toList ++ (Path.rooted rest).text.toList) := by
          rw [path, toList_text_rooted, toList_text_rooted]
          rfl
        have guarded : url.guard = "" ∨ url.guard = "/." := by
          unfold guard
          split
          · exact .inr rfl
          · exact .inl rfl
        rcases guarded with plain | kept
        · simp [behindScheme, authority, target, place, plain, text]
        · simp [behindScheme, authority, place, kept]

theorem guard_of_regular {url : Url} (regular : url.path.Regular) : url.guard = "" := by
  unfold guard
  split
  · next next rest _ path =>
    exact absurd List.mem_cons_self (regular ("" :: next :: rest) path)
  · rfl

/-- The address is the base with more at the end of its path, and is printed so. -/
structure Extends (base : Url) (ending : String) (url : Url) : Prop where
  rest : url = { base with path := url.path }
  path : url.path.text = unslashed base.path.text ++ ending
  text : ∃ before after, base.text = before ++ base.path.text ++ after ∧
    url.text = before ++ unslashed base.path.text ++ ending ++ after

variable {base other : Url}

/-- What is printed behind the path. -/
def behindPath (url : Url) : String :=
  url.query.elim "" ("?" ++ ·) ++ url.fragment.elim "" ("#" ++ ·)

theorem text_of_regular {url : Url} (regular : url.path.Regular) :
    url.text = url.scheme ++ ":" ++ url.authority ++ url.path.text ++ url.behindPath := by
  simp only [text, guard_of_regular regular, target, behindPath, String.append_assoc,
    String.append_empty]

theorem below_eq {segments : List String} (path : base.path = .rooted segments)
    (names : List String) :
    base.below names = .ok { base with path := .rooted (stem segments ++ names) } := by
  rw [below, path]

theorem Formed.flat (formed : Formed base) {segments : List String}
    (path : base.path = .rooted segments) : Flat segments := by
  have separated := formed.separated
  rwa [path] at separated

theorem extends_below (formed : Formed base) (able : base.CanBeBase)
    (regular : base.path.Regular) {names : List String} (named : "" ∉ names) :
    ∃ url, base.below names = .ok url ∧ Extends base (Path.rooted names).text url := by
  obtain ⟨segments, path⟩ := (canBeBase_iff formed).mp able
  have flat := formed.flat path
  have clear := regular segments path
  have extended : (Path.rooted (stem segments ++ names)).text =
      unslashed base.path.text ++ (Path.rooted names).text := by
    rw [text_append, text_stem flat clear, path]
  have still : (Path.rooted (stem segments ++ names)).Regular := by
    rintro _ ⟨⟩ blank
    rcases List.mem_append.mp (List.dropLast_subset _ blank) with old | new
    · exact blank_not_mem_stem clear old
    · exact named new
  refine ⟨_, below_eq path names, rfl, extended, ?_⟩
  refine ⟨base.scheme ++ ":" ++ base.authority, base.behindPath, text_of_regular regular, ?_⟩
  refine (text_of_regular still).trans ?_
  show base.scheme ++ ":" ++ base.authority ++ (Path.rooted (stem segments ++ names)).text ++
    base.behindPath = _
  rw [extended, ← String.append_assoc]

/-- With a slash at the end of its path or without, an address has the same addresses below it. -/
theorem below_slash (formed : Formed base) (formed' : Formed other) (able : base.CanBeBase)
    (able' : other.CanBeBase) (regular : other.path.Regular)
    (rest : other = { base with path := other.path })
    (slash : other.path.text = base.path.text ++ "/") (names : List String) :
    other.below names = base.below names := by
  obtain ⟨segments, path⟩ := (canBeBase_iff formed).mp able
  obtain ⟨more, path'⟩ := (canBeBase_iff formed').mp able'
  have flat := formed.flat path
  have flat' := formed'.flat path'
  have longer : more = segments ++ [""] := by
    refine rooted_text_inj flat' (flat.append (by decide)) ?_
    rw [← path', slash, path, text_concat, String.append_empty]
  have clear : "" ∉ segments := by
    have last := regular more path'
    rwa [longer, List.dropLast_concat] at last
  rw [below_eq path, below_eq path', longer, stem_slash_eq clear, rest]

/-- An address that was read from some text. -/
def Parsed (url : Url) : Prop := ∃ text, parse text = .ok url

theorem Parsed.formed (parsed : Parsed base) : Formed base :=
  parsed.elim fun _ read => .of_parse read

end Url

namespace SettingsRemote

open Url (Parsed Extends)

theorem ofBase_eq (base : Url) (token : Option String) :
    ofBase base token = (base.below ["api", "settings"]).map fun endpoint => { endpoint, token } := by
  unfold ofBase
  cases base.below ["api", "settings"] <;> rfl

/-- The settings are below the base, whose path may end with a slash or not, and all else of the
address is that of the base. There are none to be had where nothing can be relative to the base. -/
theorem endpoint_extends_base (base : Url) (parsed : Parsed base) (token : Option String) :
    (base.CanBeBase → base.path.Regular →
      ∃ endpoint, ofBase base token = .ok { endpoint, token } ∧
        Extends base "/api/settings" endpoint) ∧
    (base.CanBeBase → ∀ other, Parsed other → other.CanBeBase → other.path.Regular →
      other = { base with path := other.path } → other.path.text = base.path.text ++ "/" →
        ofBase other token = ofBase base token) ∧
    (¬ base.CanBeBase → ofBase base token = .error .rootless) := by
  refine ⟨fun able regular => ?_, fun able other parsed' able' regular rest slash => ?_,
    fun unable => ?_⟩
  · have named : "" ∉ ["api", "settings"] := by decide
    obtain ⟨endpoint, found, extended⟩ := Url.extends_below parsed.formed able regular named
    refine ⟨endpoint, ?_, extended⟩
    rw [ofBase_eq, found]
    rfl
  · rw [ofBase_eq, ofBase_eq,
      Url.below_slash parsed.formed parsed'.formed able able' regular rest slash]
  · rw [Url.canBeBase_iff parsed.formed] at unable
    cases path : base.path with
    | rootless text => rw [ofBase_eq, Url.below, path]; rfl
    | rooted segments => exact absurd ⟨segments, path⟩ unable

private def desk : Url where
  scheme := "http"
  host := some (.ipv6 [0, 0, 0, 0, 0, 0, 0, 1])
  port := some 9000
  path := .rooted ["apps", "desk"]
  query := some "page=1"

private def deskFolder : Url := { desk with path := .rooted ["apps", "desk", ""] }

private def mailbox : Url := { scheme := "mailto", path := .rootless "admin@example.com" }

/-- A base with a path and a query, as it is and with a slash, and an address that is no base. -/
theorem endpoint_extends_base_desk :
    Url.parse "http://[::1]:9000/apps/desk?page=1" = .ok desk ∧
      Url.parse "http://[::1]:9000/apps/desk/?page=1" = .ok deskFolder ∧
      desk.CanBeBase ∧ desk.path.Regular ∧ deskFolder.path.Regular ∧
      (∃ endpoint, ofBase desk none = .ok { endpoint } ∧ Extends desk "/api/settings" endpoint ∧
        endpoint.path.text = "/apps/desk/api/settings") ∧
      ofBase deskFolder none = ofBase desk none ∧
      Url.parse "mailto:admin@example.com" = .ok mailbox ∧ ¬ mailbox.CanBeBase ∧
      ofBase mailbox none = .error .rootless := by
  have read : Url.parse "http://[::1]:9000/apps/desk?page=1" = .ok desk := rfl
  have read' : Url.parse "http://[::1]:9000/apps/desk/?page=1" = .ok deskFolder := rfl
  have readable : Url.parse "mailto:admin@example.com" = .ok mailbox := rfl
  have able : desk.CanBeBase := (Url.canBeBase_iff (.of_parse read)).mpr ⟨_, rfl⟩
  have able' : deskFolder.CanBeBase := (Url.canBeBase_iff (.of_parse read')).mpr ⟨_, rfl⟩
  have unable : ¬ mailbox.CanBeBase := by
    rw [Url.canBeBase_iff (.of_parse readable)]
    exact fun ⟨segments, path⟩ => nomatch path
  have regular : desk.path.Regular := by
    rintro _ ⟨⟩
    decide
  have regular' : deskFolder.path.Regular := by
    rintro _ ⟨⟩
    decide
  obtain ⟨found, same, -⟩ := endpoint_extends_base desk ⟨_, read⟩ none
  obtain ⟨endpoint, done, extended⟩ := found able regular
  refine ⟨read, read', able, regular, regular', ⟨endpoint, done, extended, extended.path⟩, ?_,
    readable, unable, (endpoint_extends_base mailbox ⟨_, readable⟩ none).2.2 unable⟩
  exact same able deskFolder ⟨_, read'⟩ able' regular' rfl rfl

end SettingsRemote

end ClusterDesk
