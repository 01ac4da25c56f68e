/-!
Texts divided at a character, and texts without the characters at their ends. The pieces of a
text, joined again, are the text, and no piece contains the character that divides them.
-/

namespace ClusterDesk.Split

def add (separator c : Char) (pieces : List (List Char)) : List (List Char) :=
  if c = separator then [] :: pieces
  else match pieces with
    | [] => [[c]]
    | piece :: rest => (c :: piece) :: rest

/-- There is always one more piece than separators. -/
def pieces (separator : Char) (text : List Char) : List (List Char) :=
  text.foldr (add separator) [[]]

def texts (separator : Char) (text : String) : List String :=
  (pieces separator text.toList).map String.ofList

def trim (outer : Char → Bool) (text : List Char) : List Char :=
  ((text.dropWhile outer).reverse.dropWhile outer).reverse

theorem pieces_cons (separator c : Char) (text : List Char) :
    pieces separator (c :: text) = add separator c (pieces separator text) := rfl

theorem length_pieces (separator : Char) (text : List Char) :
    (pieces separator text).length = text.count separator + 1 := by
  induction text with
  | nil => rfl
  | cons c rest ih =>
    rw [pieces_cons]
    by_cases hit : c = separator
    · simp [add, hit, ih]
    · cases found : pieces separator rest with
      | nil => simp [found] at ih
      | cons piece others => simpa [add, hit, found, List.count_cons] using ih

theorem joined_pieces (separator : Char) (text : List Char) :
    [separator].intercalate (pieces separator text) = text := by
  induction text with
  | nil => rfl
  | cons c rest ih =>
    rw [pieces_cons]
    have count := length_pieces separator rest
    cases found : pieces separator rest with
    | nil => simp [found] at count
    | cons piece others =>
      rw [found] at ih
      by_cases hit : c = separator
      · cases others <;> simp_all [add, List.intercalate]
      · cases others <;> simp_all [add, List.intercalate]

theorem separator_not_mem (separator : Char) (text : List Char) :
    ∀ piece ∈ pieces separator text, separator ∉ piece := by
  induction text with
  | nil => simp [pieces]
  | cons c rest ih =>
    rw [pieces_cons]
    by_cases hit : c = separator
    · simpa [add, hit] using ih
    · cases found : pieces separator rest with
      | nil => simp [add, hit, Ne.symm hit]
      | cons piece others =>
        rw [found] at ih
        simpa [add, hit, Ne.symm hit] using ih

end ClusterDesk.Split
