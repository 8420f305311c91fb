import Mathlib.Algebra.Order.Floor.Ring
import Mathlib.Data.Rat.Floor
import Mathlib.Tactic.Linarith
import PasswordPackage.Site.Directory

/-!
# The layout of the site directory

The table of the site directory, its sections with their headers, rows and footers, and the letters of
the index over its right edge. The index asks the table for the section at the top, and for the
letter under a point. Coordinates are rational numbers, where the code has floating point ones.
-/

namespace PasswordPackage.SCIndexView

open SearchItem

/-! ## The layout of the table -/

/-- The height of `tableHeaderView`. -/
def tableHeaderHeight : ℕ := 64

/-- `tableView:heightForHeaderInSection:`. -/
def heightForHeaderInSection : ℕ := 15

/-- `rowHeight`. -/
def rowHeight : ℕ := 64

/-- The height of the footers, from the storyboard. -/
def sectionFooterHeight : ℕ := 18

/-- The height of a section with `n` rows. -/
def sectionHeight (n : ℕ) : ℕ :=
  heightForHeaderInSection + rowHeight * n + sectionFooterHeight

/-- Where the table lies. The index reckons with a navigation bar below the status bar, which is lower
than a row. -/
structure Display where
  statusBarHeight : ℚ
  adjustedInsetBottom : ℚ
  boundsHeight : ℚ
  statusBarHeight_nonneg : 0 ≤ statusBarHeight
  statusBarHeight_lt : statusBarHeight < 64
  lt_boundsHeight : statusBarHeight + 44 + adjustedInsetBottom < boundsHeight

/-- The letters of the index, and the rows of each section. -/
structure Screen extends Display where
  dataSource : List Name
  rows : List ℕ
  dataSource_ne_nil : dataSource ≠ []
  length_rows : rows.length = dataSource.length + 1
  rows_pos : ∀ n ∈ rows, 0 < n

/-- The inset of the table, which begins 44 points above the safe area. -/
def adjustedInsetTop : ℚ := 44

namespace Screen

variable (screen : Screen)

/-- `kSCIndexViewInsetTop`, for a translucent navigation bar. -/
def insetTop : ℚ :=
  screen.statusBarHeight + 44

/-- `numberOfRowsInSection:`. -/
def rowsIn (sec : ℕ) : ℕ :=
  screen.rows.getD sec 0

/-- `rectForSection:`, its upper edge and its height. -/
def rectForSection (sec : ℕ) : ℕ × ℕ :=
  (tableHeaderHeight + ((screen.rows.take sec).map sectionHeight).sum,
    sectionHeight (screen.rowsIn sec))

/-- The upper edge of a row. -/
def rowMinY (sec row : ℕ) : ℕ :=
  (screen.rectForSection sec).1 + heightForHeaderInSection + rowHeight * row

/-- The row lies in the bounds of the table. -/
def isVisible (contentOffset : ℚ) (sec row : ℕ) : Bool :=
  contentOffset < (screen.rowMinY sec row + rowHeight : ℕ) ∧
    (screen.rowMinY sec row : ℚ) < contentOffset + screen.boundsHeight

/-- `indexPathsForVisibleRows.firstObject.section`, which is 0 when there is no object. -/
def firstVisibleSection (contentOffset : ℚ) : ℕ :=
  ((List.range screen.rows.length).find? fun sec =>
    (List.range (screen.rowsIn sec)).any (screen.isVisible contentOffset sec)).getD 0

/-- The test of the loop in `configCurrentSection`. -/
def isBelowTop (contentOffset : ℚ) (sec : ℕ) : Bool :=
  screen.insetTop <
    ((screen.rectForSection sec).1 + (screen.rectForSection sec).2 : ℕ) - contentOffset

/-- The first section, from the first visible one on, that passes the test. -/
def sectionFromVisible (contentOffset : ℚ) : Option ℕ :=
  ((List.range screen.rows.length).drop (screen.firstVisibleSection contentOffset)).find?
    (screen.isBelowTop contentOffset)

/-- The height of all the sections. -/
def contentHeight : ℕ :=
  (screen.rectForSection screen.rows.length).1

/-- The content offset at which the table ends. -/
def bottomOffset : ℚ :=
  max (-adjustedInsetTop)
    (screen.contentHeight + screen.adjustedInsetBottom - screen.boundsHeight)

/-- `scrollToRowAtIndexPath:atScrollPosition:` for the first row of a section, to the top. -/
def scrollToRow (sec : ℕ) : ℚ :=
  min (screen.rowMinY sec 0 - adjustedInsetTop) screen.bottomOffset

end Screen

/-! ## The positions of the letters -/

/-- `kSCIndexViewSpace`. -/
def indexViewSpace : ℚ := 15

/-- `kSCIndexViewMargin`. -/
def indexViewMargin (screen : Screen) : ℚ :=
  (screen.boundsHeight - indexViewSpace * screen.dataSource.length) / 2

def SCGetTextLayerCenterY (position : ℕ) (margin space : ℚ) : ℚ :=
  margin + (position + 1 / 2) * space

def SCPositionOfTextLayerInY (y margin space : ℚ) : ℕ :=
  let position := (y - margin) / space - 1 / 2
  if position ≤ 0 then 0
  else
    let bigger := ⌈position⌉₊
    let smaller := bigger - 1
    let biggerCenterY := SCGetTextLayerCenterY bigger margin space
    let smallerCenterY := SCGetTextLayerCenterY smaller margin space
    if 2 * y < biggerCenterY + smallerCenterY then smaller else bigger

/-! ## The section at the top -/

namespace Screen

variable {screen : Screen} {offset offset' : ℚ} {i j : ℕ}

/-- The upper edge of a section. -/
def minY (screen : Screen) (i : ℕ) : ℕ :=
  (screen.rectForSection i).1

/-- The first of all sections that ends below the top of the table. -/
def topSection (screen : Screen) (offset : ℚ) : Option ℕ :=
  (List.range screen.rows.length).find? (screen.isBelowTop offset)

theorem rowsIn_eq (hi : i < screen.rows.length) : screen.rowsIn i = screen.rows[i] := by
  rw [rowsIn, List.getD_eq_getElem?_getD, List.getElem?_eq_getElem hi, Option.getD_some]

theorem rowsIn_pos (hi : i < screen.rows.length) : 0 < screen.rowsIn i := by
  rw [rowsIn_eq hi]
  exact screen.rows_pos _ (List.getElem_mem hi)

theorem minY_succ (hi : i < screen.rows.length) :
    screen.minY (i + 1) = screen.minY i + sectionHeight (screen.rowsIn i) := by
  have htake : screen.rows.take (i + 1) = screen.rows.take i ++ [screen.rowsIn i] := by
    rw [List.take_add_one, List.getElem?_eq_getElem hi, Option.toList_some, rowsIn_eq hi]
  rw [minY, minY, rectForSection, rectForSection, htake, List.map_append, List.sum_append,
    List.map_singleton, List.sum_singleton]
  omega

theorem minY_mono (h : i ≤ j) : screen.minY i ≤ screen.minY j := by
  induction h with
  | refl => exact le_rfl
  | @step m _ ih =>
      apply ih.trans
      rw [minY, minY, rectForSection, rectForSection, List.take_add_one, List.map_append,
        List.sum_append]
      omega

theorem rowMinY_eq (screen : Screen) (i row : ℕ) :
    screen.rowMinY i row = screen.minY i + 15 + 64 * row := rfl

/-- The last row of a section ends where its footer begins. -/
theorem rowMinY_last (hi : i < screen.rows.length) :
    screen.rowMinY i (screen.rowsIn i - 1) + 82 = screen.minY (i + 1) := by
  have hpos := rowsIn_pos hi
  rw [rowMinY_eq, minY_succ hi, sectionHeight, heightForHeaderInSection, rowHeight,
    sectionFooterHeight]
  omega

theorem le_insetTop (screen : Screen) : 44 ≤ screen.insetTop := by
  have h := screen.statusBarHeight_nonneg
  unfold insetTop
  linarith

theorem isBelowTop_iff (hi : i < screen.rows.length) :
    screen.isBelowTop offset i = true ↔ offset + screen.insetTop < screen.minY (i + 1) := by
  have hedge : (screen.rectForSection i).1 + (screen.rectForSection i).2 = screen.minY (i + 1) :=
    (minY_succ hi).symm
  rw [isBelowTop, hedge, decide_eq_true_eq, lt_sub_iff_add_lt']

/-- The section at the top begins at it or above, and ends below it. -/
theorem topSection_eq_some_iff :
    screen.topSection offset = some i ↔
      i < screen.rows.length ∧ offset + screen.insetTop < screen.minY (i + 1) ∧
        (i = 0 ∨ screen.minY i ≤ offset + screen.insetTop) := by
  rw [topSection, List.find?_range_eq_some, List.mem_range]
  constructor
  · rintro ⟨hbelow, hi, habove⟩
    refine ⟨hi, (isBelowTop_iff hi).mp hbelow, ?_⟩
    rcases i with _ | i
    · exact Or.inl rfl
    · right
      by_contra hlt
      have hprev := (isBelowTop_iff (by omega)).mpr (not_le.mp hlt)
      have hnot := habove i (by omega)
      rw [hprev] at hnot
      exact absurd hnot (by decide)
  · rintro ⟨hi, hbelow, habove⟩
    refine ⟨(isBelowTop_iff hi).mpr hbelow, hi, fun j hj => ?_⟩
    have hmin : (screen.minY (j + 1) : ℚ) ≤ screen.minY i := by
      exact_mod_cast minY_mono (by omega)
    have hle := habove.resolve_left (by omega)
    rw [Bool.not_eq_true', Bool.eq_false_iff, ne_eq, isBelowTop_iff (by omega), not_lt]
    linarith

/-- No section before the first visible one ends below the top: the footer of a section is lower than
the bar that covers the top of the table. -/
theorem not_isBelowTop_of_lt (hj : j < screen.firstVisibleSection offset)
    (hlt : j < screen.rows.length) : screen.isBelowTop offset j = false := by
  rw [Bool.eq_false_iff, ne_eq, isBelowTop_iff hlt]
  intro hbelow
  cases hfirst : (List.range screen.rows.length).find? fun i =>
      (List.range (screen.rowsIn i)).any (screen.isVisible offset i) with
  | none =>
      rw [firstVisibleSection, hfirst] at hj
      exact absurd hj (by simp)
  | some first =>
      rw [firstVisibleSection, hfirst, Option.getD_some] at hj
      obtain ⟨hvisible, -, hbefore⟩ := List.find?_range_eq_some.mp hfirst
      obtain ⟨row, -, hrow⟩ := List.any_eq_true.mp hvisible
      have hrowTop : (screen.rowMinY first row : ℚ) < offset + screen.boundsHeight :=
        (of_decide_eq_true hrow).2
      have hnot := hbefore j hj
      rw [Bool.not_eq_true', List.any_eq_false] at hnot
      have hpos := rowsIn_pos hlt
      have hlast := hnot (screen.rowsIn j - 1) (List.mem_range.mpr (by omega))
      rw [isVisible, decide_eq_true_eq, not_and, not_lt] at hlast
      have hedge := rowMinY_last hlt
      -- the last row of the earlier section is not above the bounds, so it is below them
      have hunder : offset < (screen.rowMinY j (screen.rowsIn j - 1) + rowHeight : ℕ) := by
        have hcast : ((screen.rowMinY j (screen.rowsIn j - 1) + rowHeight : ℕ) : ℚ) + 18 =
            screen.minY (j + 1) := by
          rw [← hedge, rowHeight]
          push_cast
          ring
        have hinset := screen.le_insetTop
        linarith
      have horder : screen.rowMinY j (screen.rowsIn j - 1) ≤ screen.rowMinY first row := by
        have hmono : screen.minY (j + 1) ≤ screen.minY first := minY_mono hj
        rw [rowMinY_eq screen first]
        omega
      have hcast : (screen.rowMinY j (screen.rowsIn j - 1) : ℚ) ≤ screen.rowMinY first row := by
        exact_mod_cast horder
      have hfar := hlast hunder
      linarith

/-- Starting at the first visible section finds the same section as starting at the first one. -/
theorem sectionFromVisible_eq (screen : Screen) (offset : ℚ) :
    screen.sectionFromVisible offset = screen.topSection offset := by
  have hsplit := List.take_append_drop (screen.firstVisibleSection offset)
    (List.range screen.rows.length)
  have hnone : ((List.range screen.rows.length).take (screen.firstVisibleSection offset)).find?
      (screen.isBelowTop offset) = none := by
    rw [List.find?_eq_none]
    intro j hj
    rw [List.take_range, List.mem_range, lt_min_iff] at hj
    rw [not_isBelowTop_of_lt hj.1 hj.2]
    exact Bool.false_ne_true
  have hfind := congrArg (List.find? (screen.isBelowTop offset)) hsplit
  rwa [List.find?_append, hnone, Option.none_or] at hfind

theorem topSection_mono (h : offset ≤ offset') (hi : screen.topSection offset = some i)
    (hj : screen.topSection offset' = some j) : i ≤ j := by
  obtain ⟨-, -, habove⟩ := topSection_eq_some_iff.mp hi
  obtain ⟨-, hbelow, -⟩ := topSection_eq_some_iff.mp hj
  rcases habove with rfl | habove
  · exact Nat.zero_le j
  · by_contra hlt
    have hmin : (screen.minY (j + 1) : ℚ) ≤ screen.minY i := by
      exact_mod_cast minY_mono (by omega)
    linarith

theorem topSection_min (hi : screen.topSection offset = some i)
    (hj : screen.topSection offset' = some j) :
    screen.topSection (min offset offset') = some (min i j) := by
  rcases le_total offset offset' with h | h
  · rw [min_eq_left h, min_eq_left (topSection_mono h hi hj), hi]
  · rw [min_eq_right h, min_eq_right (topSection_mono h hj hi), hj]

/-! ## Scrolling to a section -/

/-- The sections end below the top, wherever the table ends. -/
theorem exists_topSection_bottomOffset (screen : Screen) :
    ∃ i, screen.topSection screen.bottomOffset = some i := by
  have hlength := screen.length_rows
  have hlast : screen.rows.length - 1 < screen.rows.length := by omega
  have hcontent : screen.minY (screen.rows.length - 1 + 1) = screen.contentHeight := by
    rw [Nat.sub_add_cancel (by omega)]
    rfl
  have hbelow : screen.isBelowTop screen.bottomOffset (screen.rows.length - 1) = true := by
    rw [isBelowTop_iff hlast, hcontent, ← lt_sub_iff_add_lt, bottomOffset, max_lt_iff, insetTop]
    constructor
    · have hheader : (64 : ℚ) ≤ screen.contentHeight := by
        exact_mod_cast Nat.le_add_right tableHeaderHeight _
      have hbar := screen.statusBarHeight_lt
      unfold adjustedInsetTop
      linarith
    · have hroom := screen.lt_boundsHeight
      linarith
  apply Option.isSome_iff_exists.mp
  rw [topSection, List.find?_isSome]
  exact ⟨_, List.mem_range.mpr hlast, hbelow⟩

/-- The section at the top when the table is scrolled to its end. -/
def lastTopSection (screen : Screen) : ℕ :=
  (screen.topSection screen.bottomOffset).getD 0

theorem topSection_bottomOffset (screen : Screen) :
    screen.topSection screen.bottomOffset = some screen.lastTopSection := by
  obtain ⟨i, hi⟩ := screen.exists_topSection_bottomOffset
  rw [lastTopSection, hi, Option.getD_some]

/-- Scrolling to a section brings it to the top, unless the table ends before that. -/
theorem topSection_scrollToRow (hi : i < screen.rows.length) :
    screen.topSection (screen.scrollToRow i) = some (min i screen.lastTopSection) := by
  apply topSection_min ?_ screen.topSection_bottomOffset
  have hpos := rowsIn_pos hi
  have hnonneg := screen.statusBarHeight_nonneg
  have hlt := screen.statusBarHeight_lt
  have hnext : screen.rowMinY i 0 + 82 ≤ screen.minY (i + 1) := by
    rw [← rowMinY_last hi, rowMinY_eq, rowMinY_eq]
    omega
  have hcast : (screen.rowMinY i 0 : ℚ) + 82 ≤ screen.minY (i + 1) := by exact_mod_cast hnext
  have hfirst : (screen.rowMinY i 0 : ℚ) = screen.minY i + 15 := by
    rw [rowMinY_eq]
    push_cast
    ring
  refine topSection_eq_some_iff.mpr ⟨hi, ?_, Or.inr ?_⟩ <;>
  · unfold insetTop adjustedInsetTop
    linarith

end Screen

/-! ## The letter under a finger -/

/-- The position of a point is the number of whole letters above it. -/
theorem SCPositionOfTextLayerInY_eq (y margin : ℚ) {space : ℚ} (hspace : 0 < space) :
    SCPositionOfTextLayerInY y margin space = ⌊(y - margin) / space⌋₊ := by
  obtain ⟨p, rfl⟩ : ∃ p, y = margin + p * space :=
    ⟨(y - margin) / space, by rw [div_mul_cancel₀ _ hspace.ne']; ring⟩
  have hp : (margin + p * space - margin) / space = p := by
    rw [add_sub_cancel_left, mul_div_cancel_right₀ _ hspace.ne']
  unfold SCPositionOfTextLayerInY SCGetTextLayerCenterY
  dsimp only
  rw [hp]
  by_cases hnonpos : p - 1 / 2 ≤ 0
  · rw [if_pos hnonpos]
    exact (Nat.floor_eq_zero.mpr (by linarith)).symm
  · rw [if_neg hnonpos]
    have hceil : 0 < ⌈p - 1 / 2⌉₊ := Nat.ceil_pos.mpr (not_le.mp hnonpos)
    obtain ⟨n, hn⟩ : ∃ n, ⌈p - 1 / 2⌉₊ = n + 1 := ⟨_, (Nat.sub_add_cancel hceil).symm⟩
    have hlower : (n : ℚ) < p - 1 / 2 := Nat.lt_ceil.mp (by omega)
    have hupper : p - 1 / 2 ≤ ((n + 1 : ℕ) : ℚ) := hn ▸ Nat.le_ceil (p - 1 / 2)
    push_cast at hupper
    rw [hn, Nat.add_sub_cancel]
    -- the two centers are as far from the edge between the letters
    have hmiddle : 2 * (margin + p * space) < margin + (((n + 1 : ℕ) : ℚ) + 1 / 2) * space +
        (margin + ((n : ℚ) + 1 / 2) * space) ↔ p < n + 1 := by
      refine Iff.trans ?_ (mul_lt_mul_iff_left₀ hspace)
      push_cast
      constructor <;> intro h <;> linarith
    by_cases hbelow : p < n + 1
    · rw [if_pos (hmiddle.mpr hbelow)]
      exact ((Nat.floor_eq_iff (by linarith)).mpr ⟨by linarith, hbelow⟩).symm
    · rw [if_neg fun h => hbelow (hmiddle.mp h)]
      refine ((Nat.floor_eq_iff (by linarith)).mpr ⟨?_, ?_⟩).symm
      · push_cast
        exact not_lt.mp hbelow
      · push_cast
        linarith

/-! ## The screen of a folder -/

/-- No section of the directory is empty. -/
theorem length_objectForKey_pos {isMark : Char → Bool} {folder : WebsiteFolder} {vc : Controller}
    (hvc : vc.dataDictionary = folderDictionary isMark folder) {key : Name}
    (hkey : key ∈ (folderDictionary isMark folder).keys) : 0 < (vc.objectForKey key).length := by
  rw [Controller.objectForKey, hvc, lookup_folderDictionary, List.length_append]
  rcases mem_keys_folderDictionary.mp hkey with rfl | ⟨name, hname, rfl⟩
  · rw [if_pos rfl]
    exact Nat.lt_of_lt_of_le (by decide) (Nat.le_add_right inCommonUseArray.length _)
  · apply Nat.lt_of_lt_of_le ?_ (Nat.le_add_left _ _)
    rw [List.length_map, List.length_pos_iff_exists_mem]
    exact ⟨name, List.mem_filter.mpr ⟨hname, decide_eq_true rfl⟩⟩

/-- The directory of a folder with a name under a letter is laid out as a screen, on any display. -/
theorem exists_screen {isMark : Char → Bool} (hmark : isMark '@' = false) (folder : WebsiteFolder)
    (order : KeyOrder) (hletters : folder.letterNames ≠ []) (display : Display) :
    ∃ vc, directoryDidLoad isMark order folder.paths = some vc ∧
      ∃ screen : Screen, screen.toDisplay = display ∧
        screen.dataSource = vc.indexViewDataSource ∧ vc.numberOfSections = screen.rows.length ∧
        ∀ order' sec, vc.numberOfRows order' sec = screen.rows[sec]? := by
  obtain ⟨letters, -, -, hstart, -, hkeys, hsorted⟩ := sortedArray_folderDictionary isMark folder
  have hload := directoryDidLoad_eq_some hmark folder order (hsorted order)
  refine ⟨_, hload, ?_⟩
  generalize hvc : Controller.mk _ _ _ _ = vc
  have hdictionary : vc.dataDictionary = folderDictionary isMark folder := by rw [← hvc]
  have hdata : vc.indexViewDataSource = letters.map fun c => [c] := by rw [← hvc]; rfl
  obtain ⟨name, hname⟩ := List.exists_mem_of_ne_nil _ hletters
  -- the sections are the keys of the dictionary, none of which is empty
  refine ⟨{
    toDisplay := display
    dataSource := vc.indexViewDataSource
    rows := (inCommonUse :: letters.map fun c => [c]).map fun key => (vc.objectForKey key).length
    dataSource_ne_nil := ?_
    length_rows := ?_
    rows_pos := ?_ }, rfl, rfl, ?_, fun order' sec => ?_⟩
  · rw [hdata]
    exact List.ne_nil_of_mem (hstart name hname)
  · rw [hdata, List.length_map, List.length_cons]
  · intro n hn
    obtain ⟨key, hkey, rfl⟩ := List.mem_map.mp hn
    apply length_objectForKey_pos hdictionary
    exact (perm_of_paixuWith (hsorted .same)).mem_iff.mp hkey
  · rw [Controller.numberOfSections, hdictionary, hkeys, List.length_map, List.length_cons,
      List.length_map]
  · rw [Controller.numberOfRows, hdictionary, hsorted, Option.bind_some, List.getElem?_map]

end PasswordPackage.SCIndexView
