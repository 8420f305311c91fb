import PasswordPackage.Common.Run

/-!
# Search suggestions

Every change of the search text rebuilds `resultDataArray`, but the suggestion table is reloaded
only when the array is not empty, and goes on showing what it showed before otherwise. A text
without matches that follows a text with matches leaves rows in the table that the array no longer
has.
-/

namespace PasswordPackage.SearchItem

open Machine

/-! ## Texts -/

/-- The operations of `NSString` that the search uses. No string contains the empty one. -/
structure StringSearch where
  lowercaseString : String → String
  containsString : String → String → Bool
  lowercaseString_empty : lowercaseString "" = ""
  containsString_empty : ∀ string, containsString string "" = false

/-- The search for texts of ASCII characters. -/
def StringSearch.ascii : StringSearch where
  lowercaseString string := String.ofList (string.toList.map Char.toLower)
  containsString string text := text ≠ "" ∧ text.toList <:+: string.toList
  lowercaseString_empty := rfl
  containsString_empty _ := rfl

/-- `[[item lowercaseString] containsString:[searchText lowercaseString]]`. -/
def StringSearch.contains (search : StringSearch) (searchText item : String) : Bool :=
  search.containsString (search.lowercaseString item) (search.lowercaseString searchText)

theorem StringSearch.contains_empty (search : StringSearch) (item : String) :
    search.contains "" item = false := by
  rw [contains, search.lowercaseString_empty, search.containsString_empty]

/-! ## The search screen -/

/-- The controller's arrays, the text of the search bar, and the rows the suggestion table was last
loaded with. -/
structure Suggestions where
  searchDataArray : List String
  resultDataArray : List String
  searchText : String
  rows : List String
deriving DecidableEq

/-- The screen before any text is entered. -/
def openSearch (searchDataArray : List String) : Suggestions where
  searchDataArray := searchDataArray
  resultDataArray := []
  searchText := ""
  rows := []

/-- `[searchSuggestionView reloadData]`. -/
def Suggestions.reloadData (s : Suggestions) : Suggestions :=
  { s with rows := s.resultDataArray }

/-- `searchViewController:searchTextDidChange:searchText:`. -/
def searchTextDidChange (search : StringSearch) (s : Suggestions) (searchText : String) :
    Suggestions :=
  let s := { s with searchText := searchText }
  if searchText = "" then s
  else
    let s := { s with resultDataArray := s.searchDataArray.filter (search.contains searchText) }
    if s.resultDataArray.length > 0 then s.reloadData else s

/-- The rows that can be seen: the table is hidden while it has none, and while there is no text. -/
def Suggestions.displayed (s : Suggestions) : List String :=
  if s.searchText = "" ∨ s.rows.length = 0 then [] else s.rows

/-- `didSelectSearchSuggestionAtIndexPath:` reads `resultDataArray[indexPath.row]`. -/
def didSelectSearchSuggestion (s : Suggestions) (row : ℕ) : Option String :=
  s.resultDataArray[row]?

/-- The rows are the names that contain the text, and tapping one stays inside the array. -/
structure Consistent (search : StringSearch) (s : Suggestions) : Prop where
  rows : s.displayed = s.searchDataArray.filter (search.contains s.searchText)
  tap : ∀ row < s.displayed.length, (didSelectSearchSuggestion s row).isSome = true

/-! ## Steps -/

variable {search : StringSearch} {s : Suggestions} {searchText : String}

/-- A text that is empty, or has matches. -/
def Found (search : StringSearch) (names : List String) (searchText : String) : Prop :=
  searchText = "" ∨ names.filter (search.contains searchText) ≠ []

/-- The table shows the array, which is what the text asks for. -/
structure Loaded (search : StringSearch) (s : Suggestions) : Prop where
  rows : s.rows = s.resultDataArray
  result : s.searchText ≠ "" →
    s.resultDataArray = s.searchDataArray.filter (search.contains s.searchText)

/-- What a change of the text does: nothing, a reload, or a rebuilt array that is not shown. -/
theorem searchTextDidChange_cases (search : StringSearch) (s : Suggestions) (searchText : String) :
    (searchText = "" ∧ searchTextDidChange search s searchText = { s with searchText := "" }) ∨
      (searchText ≠ "" ∧ s.searchDataArray.filter (search.contains searchText) ≠ [] ∧
        searchTextDidChange search s searchText =
          { s with
            searchText := searchText
            resultDataArray := s.searchDataArray.filter (search.contains searchText)
            rows := s.searchDataArray.filter (search.contains searchText) }) ∨
      (searchText ≠ "" ∧ s.searchDataArray.filter (search.contains searchText) = [] ∧
        searchTextDidChange search s searchText =
          { s with searchText := searchText, resultDataArray := [] }) := by
  unfold searchTextDidChange
  by_cases hempty : searchText = ""
  · exact Or.inl ⟨hempty, by rw [if_pos hempty, hempty]⟩
  · rw [if_neg hempty]
    by_cases hnone : s.searchDataArray.filter (search.contains searchText) = []
    · exact Or.inr (Or.inr ⟨hempty, hnone, by simp [hnone]⟩)
    · refine Or.inr (Or.inl ⟨hempty, hnone, ?_⟩)
      rw [if_pos (List.length_pos_iff.mpr hnone)]
      rfl

theorem loaded_openSearch (names : List String) : Loaded search (openSearch names) where
  rows := rfl
  result h := absurd rfl h

/-- A loaded table shows the names that contain the text. -/
theorem Loaded.consistent (h : Loaded search s) : Consistent search s := by
  have hrows : s.displayed = s.searchDataArray.filter (search.contains s.searchText) := by
    unfold Suggestions.displayed
    by_cases hempty : s.searchText = ""
    · rw [if_pos (Or.inl hempty), hempty, eq_comm, List.filter_eq_nil_iff]
      intro item _
      rw [search.contains_empty]
      exact Bool.false_ne_true
    · have hrows : s.rows = s.searchDataArray.filter (search.contains s.searchText) :=
        h.rows.trans (h.result hempty)
      rw [← hrows]
      split
      · next hhidden =>
        exact (List.length_eq_zero_iff.mp (hhidden.resolve_left hempty)).symm
      · rfl
  refine ⟨hrows, fun row hrow => ?_⟩
  rw [didSelectSearchSuggestion, Option.isSome_iff_ne_none, ne_eq, List.getElem?_eq_none_iff,
    not_le]
  apply lt_of_lt_of_le hrow
  rw [← h.rows, Suggestions.displayed]
  split
  · exact Nat.zero_le _
  · exact le_refl _

/-- A text that is found loads the table, and so does any text while the table has no rows. -/
theorem Loaded.step (h : Loaded search s)
    (hfound : s.rows ≠ [] → Found search s.searchDataArray searchText) :
    Loaded search (searchTextDidChange search s searchText) := by
  rcases searchTextDidChange_cases search s searchText with
    ⟨_, heq⟩ | ⟨_, _, heq⟩ | ⟨hempty, hnone, heq⟩
  · rw [heq]
    exact ⟨h.rows, fun hne => absurd rfl hne⟩
  · rw [heq]
    exact ⟨rfl, fun _ => rfl⟩
  · have hrows : s.rows = [] := by
      by_contra hne
      exact (hfound hne).elim hempty fun hsome => hsome hnone
    rw [heq]
    exact ⟨hrows, fun _ => hnone.symm⟩

/-- A text that is not found leaves the old rows on the screen. -/
theorem not_consistent_step (hrows : s.rows ≠ [])
    (hfound : ¬ Found search s.searchDataArray searchText) :
    ¬ Consistent search (searchTextDidChange search s searchText) := by
  intro hconsistent
  obtain ⟨hempty, hsome⟩ := not_or.mp hfound
  have hnone := not_not.mp hsome
  rcases searchTextDidChange_cases search s searchText with
    ⟨heq, -⟩ | ⟨-, hne, -⟩ | ⟨-, -, heq⟩
  · exact hempty heq
  · exact hne hnone
  · have hshown := hconsistent.rows
    rw [heq, Suggestions.displayed, if_neg (not_or.mpr ⟨hempty, by simpa using hrows⟩)] at hshown
    exact hrows (hshown.trans hnone)

/-! ## Runs -/

/-- No text without matches comes after a text with matches. -/
def NoneAfterSome (search : StringSearch) (names : List String) (texts : List String) : Prop :=
  texts.Pairwise fun earlier later =>
    names.filter (search.contains earlier) ≠ [] → Found search names later

/-- The rows of the table, as far as the guards care. -/
theorem guarded_iff_noneAfterSome (search : StringSearch) (s : Suggestions) (texts : List String) :
    Guarded (searchTextDidChange search)
        (fun s text => s.rows ≠ [] → Found search s.searchDataArray text) s texts ↔
      (s.rows ≠ [] → ∀ text ∈ texts, Found search s.searchDataArray text) ∧
        NoneAfterSome search s.searchDataArray texts := by
  induction texts generalizing s with
  | nil => simp [Guarded, NoneAfterSome]
  | cons text texts ih =>
      have hdata : (searchTextDidChange search s text).searchDataArray = s.searchDataArray := by
        rcases searchTextDidChange_cases search s text with ⟨-, heq⟩ | ⟨-, -, heq⟩ | ⟨-, -, heq⟩
        all_goals rw [heq]
      rw [Guarded, ih, hdata, NoneAfterSome, NoneAfterSome, List.pairwise_cons,
        List.forall_mem_cons]
      rcases searchTextDidChange_cases search s text with
        ⟨hempty, heq⟩ | ⟨hne, hsome, heq⟩ | ⟨hne, hnone, heq⟩
      · -- an empty text leaves no rows
        have hnil : s.searchDataArray.filter (search.contains text) = [] := by
          rw [List.filter_eq_nil_iff]
          intro item _
          rw [hempty, search.contains_empty]
          exact Bool.false_ne_true
        rw [heq]
        have hfound : Found search s.searchDataArray text := Or.inl hempty
        simp only [hfound, hnil, ne_eq, not_true_eq_false, false_implies, implies_true, true_and]
      · -- a text with results leaves rows, so the next ones must have results
        have hfound : Found search s.searchDataArray text := Or.inr hsome
        rw [heq]
        simp only [hfound, hsome, ne_eq, not_false_eq_true, true_implies, implies_true, true_and]
        constructor
        · rintro ⟨hall, hrest⟩
          exact ⟨fun _ => hall, hall, hrest⟩
        · rintro ⟨-, hall, hrest⟩
          exact ⟨hall, hrest⟩
      · -- a text without results must not find rows
        have hfound : ¬ Found search s.searchDataArray text :=
          not_or.mpr ⟨hne, not_not.mpr hnone⟩
        rw [heq]
        simp only [hfound, hnone, ne_eq, not_true_eq_false, false_implies, implies_true, true_and]
        constructor
        · rintro ⟨hrows, -, hrest⟩
          exact ⟨fun hne' => absurd hne' hrows, hrest⟩
        · rintro ⟨hrows, hrest⟩
          exact ⟨fun hne' => (hrows hne').1, fun hne' => (hrows hne').2, hrest⟩

/-- The suggestions are consistent in every state of a run exactly when no text without matches
comes after a text with matches. -/
theorem always_consistent_iff (search : StringSearch) (names texts : List String) :
    Always (searchTextDidChange search) (Consistent search) (openSearch names) texts ↔
      NoneAfterSome search names texts := by
  have hguard := guarded_iff_noneAfterSome search (openSearch names) texts
  have hguard' : Guarded (searchTextDidChange search)
      (fun s text => s.rows ≠ [] → Found search s.searchDataArray text) (openSearch names) texts ↔
        NoneAfterSome search names texts :=
    hguard.trans (and_iff_right fun hne => absurd rfl hne)
  rw [← hguard']
  apply always_iff_guarded
  · exact fun s text h hfound => Loaded.step h hfound
  · intro s text _ hbreaks
    obtain ⟨hrows, hfound⟩ := Classical.not_imp.mp hbreaks
    exact not_consistent_step hrows hfound
  · exact fun s h => Loaded.consistent h
  · exact loaded_openSearch names

/-- `Github` is found for `g`, and stays on the screen for `gx`, where tapping it fails. -/
theorem not_always_consistent_stale :
    ¬ Always (searchTextDidChange .ascii) (Consistent .ascii) (openSearch ["Baidu", "Github"])
      ["g", "gx"] := by
  rintro ⟨-, -, hconsistent⟩
  have htap := hconsistent.tap 0 (by decide +kernel)
  exact absurd htap (by decide +kernel)

end PasswordPackage.SearchItem
