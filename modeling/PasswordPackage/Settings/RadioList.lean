import Mathlib.Logic.Function.Basic
import PasswordPackage.Pasteboard.ClearPasteboard
import PasswordPackage.Settings.SaveConfig

/-!
# Radio lists

Four settings are chosen from a table of rows, one of which is selected. The controllers share their
code: the rows are dictionaries in `dataArray`, and `lastSelectedCell` is the table cell in which
the selected row was shown last. A tap reads the value to deselect from that cell, but the table
view gives the cells of rows that leave the screen to other rows.
-/

namespace PasswordPackage.RadioList

open Machine Settings

/-! ## Lists with one flagged entry -/

section Only

variable {α : Type*} {p : α → Bool} {i j : ℕ} {l : List α}

/-- The entry at `i` satisfies `p`, and no other. -/
def Only (p : α → Bool) (i : ℕ) (l : List α) : Prop :=
  i < l.length ∧ ∀ k a, l[k]? = some a → (p a = true ↔ k = i)

/-- One entry is added to those that satisfy `p`, and those with `q` are removed. The added one is
alone if it was there before, or if the old one is removed. -/
theorem Only.map_iff (h : Only p i l) (hj : j < l.length) {f : α → α} {q : α → Prop}
    (hf : ∀ k a, l[k]? = some a → (p (f a) = true ↔ k = j ∨ (p a = true ∧ ¬ q a))) :
    Only p j (l.map f) ↔ j = i ∨ ∃ a, l[i]? = some a ∧ q a := by
  obtain ⟨hi, honly⟩ := h
  have hget : l[i]? = some l[i] := List.getElem?_eq_getElem hi
  constructor
  · rintro ⟨-, hmap⟩
    by_cases hij : j = i
    · exact Or.inl hij
    · refine Or.inr ⟨l[i], hget, ?_⟩
      by_contra hq
      -- the old entry would still be there
      have hflag := (hf i l[i] hget).mpr (Or.inr ⟨(honly i l[i] hget).mpr rfl, hq⟩)
      have hmapped : (l.map f)[i]? = some (f l[i]) := by rw [List.getElem?_map, hget]; rfl
      exact hij ((hmap i _ hmapped).mp hflag).symm
  · intro hcase
    refine ⟨by rwa [List.length_map], ?_⟩
    intro k b hb
    rw [List.getElem?_map] at hb
    obtain ⟨a, ha, rfl⟩ := Option.map_eq_some_iff.mp hb
    rw [hf k a ha]
    constructor
    · rintro (hk | ⟨hflag, hq⟩)
      · exact hk
      · have hk := (honly k a ha).mp hflag
        rcases hcase with rfl | ⟨a', ha', hq'⟩
        · exact hk
        · rw [hk, ha'] at ha
          exact absurd (Option.some.inj ha ▸ hq') hq
    · exact Or.inl

end Only

/-! ## The screens -/

instance (setting : Setting) : DecidableEq setting.Value :=
  match setting with
  | .isSharkFeedBack | .userSystemLock => inferInstanceAs (DecidableEq Bool)
  | .mainTheme => inferInstanceAs (DecidableEq ℕ)
  | .autoLockDuration | .clearPasteboardDuration | .lastUploadTimeStamp
  | .lastDownloadTimeStamp => inferInstanceAs (DecidableEq ℤ)
  | .iconFileName => inferInstanceAs (DecidableEq (Option String))

/-- What the four controllers do differently. `absent` is read from a cell that is nil, `isStrong`
says that `lastSelectedCell` keeps its cell alive, and `fromCell` that the confirm button saves the
value of that cell. -/
structure Screen (setting : Setting) where
  values : List setting.Value
  absent : setting.Value
  configured : AppConfig.File → setting.Value
  isStrong : Bool
  fromCell : Bool
  write : setting.Value → AppConfig.File → AppConfig.File
  nodup : values.Nodup
  get_write : ∀ value file, get (AppConfig.config (write value file)) setting = value

/-- `SetAutoLockViewController`. -/
def setAutoLock : Screen .autoLockDuration where
  values := [0, 10, 30, 60, 300, 600]
  absent := (0 : ℤ)
  configured file := (AppConfig.config file).autoLockDuration
  isStrong := false
  fromCell := false
  write := setAutoLockConfirm
  nodup := by decide
  get_write _ file := get_config_modifyConfig _ file _

/-- `ClearPasteboardViewController`. -/
def clearPasteboard : Screen .clearPasteboardDuration where
  values := [10, 30, 60, 120, 300, Pasteboard.neverToDoTag]
  absent := (0 : ℤ)
  configured file := (AppConfig.config file).clearPasteboardDuration
  isStrong := false
  fromCell := false
  write := clearPasteboardConfirm
  nodup := by decide
  get_write _ file := get_config_modifyConfig _ file _

/-- `SelectThemeViewController`, with the raw values of `PPTheme`. -/
def selectTheme : Screen .mainTheme where
  values := [0, 1, 2, 3, 4, 5]
  absent := (0 : ℕ)
  configured file := (AppConfig.config file).mainTheme
  isStrong := false
  fromCell := false
  write := selectThemeConfirm
  nodup := by decide
  get_write _ file := get_config_modifyConfig _ file _

/-- The file names of the icons, from `viewDidLoad`. -/
def iconFileNames : List (Option String) :=
  (List.range' 1 7).map fun i => some (toString i ++ "Icon-App-60x60")

/-- `SelectIconViewController`. A nil name is equal to none of the rows. -/
def selectIcon : Screen .iconFileName where
  values := iconFileNames
  absent := (none : Option String)
  configured file :=
    let lastIconFileName := (AppConfig.config file).iconFileName
    if lastIconFileName = none ∨ lastIconFileName = some "" then some "7Icon-App-60x60"
    else lastIconFileName
  isStrong := true
  fromCell := true
  write := selectIconComplet
  nodup := by decide
  get_write _ file := get_config_modifyConfig _ file _

/-- The screens with a radio list. -/
inductive RadioScreen where
  | setAutoLock
  | clearPasteboard
  | selectTheme
  | selectIcon
deriving DecidableEq

/-- The setting a screen is for. -/
abbrev RadioScreen.setting : RadioScreen → Setting
  | .setAutoLock => .autoLockDuration
  | .clearPasteboard => .clearPasteboardDuration
  | .selectTheme => .mainTheme
  | .selectIcon => .iconFileName

def RadioScreen.screen : (r : RadioScreen) → Screen r.setting
  | .setAutoLock => RadioList.setAutoLock
  | .clearPasteboard => RadioList.clearPasteboard
  | .selectTheme => RadioList.selectTheme
  | .selectIcon => RadioList.selectIcon

/-! ## The controllers -/

/-- A dictionary of `dataArray`. -/
structure Entry (V : Type) where
  value : V
  selected : Bool
deriving DecidableEq

/-- A controller and its table view. `dataDictionary` is what a cell holds, `shown` the cell in
which the table view shows a row, and `value` the property next to `dataArray`: `autoLockValue`,
`clearPasteboardValue`, `lastTheme` or `lastIconFileName`. -/
structure Controller (V : Type) where
  dataArray : List (Entry V)
  dataDictionary : ℕ → Option (Entry V)
  shown : ℕ → Option ℕ
  lastSelectedCell : Option ℕ
  value : V

variable {setting : Setting} (screen : Screen setting)

/-- `viewDidLoad`. No two rows have one value, so it makes no difference that some controllers stop
at the first match. -/
def viewDidLoad (file : AppConfig.File) : Controller setting.Value where
  dataArray := screen.values.map fun value => ⟨value, decide (value = screen.configured file)⟩
  dataDictionary _ := none
  shown _ := none
  lastSelectedCell := none
  value := screen.configured file

/-- `cell.dataDictionary[@"value"]`. -/
def cellValue (c : Controller setting.Value) (cell : Option ℕ) : setting.Value :=
  match cell.bind c.dataDictionary with
  | some entry => entry.value
  | none => screen.absent

variable {V : Type}

/-- `tableView:cellForRowAtIndexPath:`. The queue gives a new cell or a used one, but none that
shows a row. -/
def cellForRow (row cell : ℕ) (c : Controller V) : Controller V :=
  match c.dataArray[row]? with
  | none => c
  | some entry =>
      if ∃ row' < c.dataArray.length, c.shown row' = some cell then c
      else
        { c with
          dataDictionary := Function.update c.dataDictionary cell (some entry)
          shown := Function.update c.shown row (some cell)
          lastSelectedCell := if entry.selected then some cell else c.lastSelectedCell }

/-- The body of the loop in `tableView:didSelectRowAtIndexPath:`. -/
def Entry.choose [DecidableEq V] (lastValue newValue : V) (entry : Entry V) : Entry V :=
  let tempDict := if entry.value = lastValue then { entry with selected := false } else entry
  if tempDict.value = newValue then { tempDict with selected := true } else tempDict

/-- All cells go back to the queue, until the rows are asked for again. -/
def reloadData (c : Controller V) : Controller V :=
  { c with shown := fun _ => none }

/-- `tableView:didSelectRowAtIndexPath:`, for a row that is on the screen. -/
def didSelectRow (row : ℕ) (c : Controller setting.Value) : Controller setting.Value :=
  if c.shown row = none then c
  else
    let lastValue := cellValue screen c c.lastSelectedCell
    let newValue := cellValue screen c (c.shown row)
    reloadData
      { c with
        dataArray := c.dataArray.map (Entry.choose lastValue newValue)
        lastSelectedCell := c.shown row
        value := newValue }

/-- A row leaves the screen, and its cell goes back to the queue. -/
def endDisplaying (row : ℕ) (c : Controller V) : Controller V :=
  { c with shown := Function.update c.shown row none }

/-- The queue drops a cell. A weak reference to it becomes nil. -/
def dropCell (cell : ℕ) (c : Controller setting.Value) : Controller setting.Value :=
  if screen.isStrong = true ∨ ∃ row < c.dataArray.length, c.shown row = some cell then c
  else if c.lastSelectedCell = some cell then { c with lastSelectedCell := none }
  else c

/-- What the confirm button saves. -/
def savedValue (c : Controller setting.Value) : setting.Value :=
  if screen.fromCell then cellValue screen c c.lastSelectedCell else c.value

/-! ## Sessions -/

inductive Event where
  | cellForRow (row cell : ℕ)
  | endDisplaying (row : ℕ)
  | dropCell (cell : ℕ)
  | reloadData
  | didSelectRow (row : ℕ)
  | confirm
deriving DecidableEq

/-- A controller, the row that was tapped last (at first the selected one), and the file of the
configuration. -/
structure Session (V : Type) where
  controller : Controller V
  tapped : ℕ
  file : AppConfig.File

/-- The screen is opened. -/
def start (file : AppConfig.File) : Session setting.Value where
  controller := viewDidLoad screen file
  tapped := screen.values.idxOf (screen.configured file)
  file := file

def step (s : Session setting.Value) : Event → Session setting.Value
  | .cellForRow row cell => { s with controller := cellForRow row cell s.controller }
  | .endDisplaying row => { s with controller := endDisplaying row s.controller }
  | .dropCell cell => { s with controller := dropCell screen cell s.controller }
  | .reloadData => { s with controller := reloadData s.controller }
  | .didSelectRow row =>
      { s with
        controller := didSelectRow screen row s.controller
        tapped := if s.controller.shown row = none then s.tapped else row }
  | .confirm => { s with file := screen.write (savedValue screen s.controller) s.file }

/-- After the step the row tapped last is flagged, and no other; the confirm button saves its
value. -/
def Faithful (s : Session setting.Value) (e : Event) : Prop :=
  Only Entry.selected (step screen s e).tapped (step screen s e).controller.dataArray ∧
    (e = .confirm →
      screen.values[s.tapped]? = some (get (AppConfig.config (step screen s e).file) setting))

/-- A row that is not the selected one is tapped only while `lastSelectedCell` holds the dictionary
of the selected row, and likewise for the confirm button where it reads that cell. -/
def CellKept (s : Session setting.Value) : Event → Prop
  | .didSelectRow row =>
      s.controller.shown row ≠ none → row ≠ s.tapped →
        screen.values[s.tapped]? =
          some (cellValue screen s.controller s.controller.lastSelectedCell)
  | .confirm =>
      screen.fromCell = true →
        screen.values[s.tapped]? =
          some (cellValue screen s.controller s.controller.lastSelectedCell)
  | _ => True

/-! ## Invariant -/

@[simp] theorem value_choose [DecidableEq V] (lastValue newValue : V) (entry : Entry V) :
    (entry.choose lastValue newValue).value = entry.value := by
  simp only [Entry.choose]
  repeat' split
  all_goals rfl

theorem selected_choose [DecidableEq V] (lastValue newValue : V) (entry : Entry V) :
    (entry.choose lastValue newValue).selected = true ↔
      entry.value = newValue ∨ (entry.selected = true ∧ ¬ entry.value = lastValue) := by
  simp only [Entry.choose]
  split_ifs <;> simp_all

/-- A request for a row changes nothing, or shows the row in a cell that was free. -/
theorem cellForRow_cases (row cell : ℕ) (c : Controller V) :
    cellForRow row cell c = c ∨
      ∃ entry, c.dataArray[row]? = some entry ∧
        (∀ row' < c.dataArray.length, c.shown row' ≠ some cell) ∧
        cellForRow row cell c =
          { c with
            dataDictionary := Function.update c.dataDictionary cell (some entry)
            shown := Function.update c.shown row (some cell)
            lastSelectedCell := if entry.selected then some cell else c.lastSelectedCell } := by
  unfold cellForRow
  split
  · exact Or.inl rfl
  · next entry hentry =>
    by_cases hbusy : ∃ row' < c.dataArray.length, c.shown row' = some cell
    · rw [if_pos hbusy]
      exact Or.inl rfl
    · rw [if_neg hbusy]
      exact Or.inr ⟨entry, hentry, fun row' hlt heq => hbusy ⟨row', hlt, heq⟩, rfl⟩

/-- The rows keep their values, one of them is flagged, and the cells on the screen show them. -/
structure Inv (s : Session setting.Value) : Prop where
  values : s.controller.dataArray.map Entry.value = screen.values
  only : Only Entry.selected s.tapped s.controller.dataArray
  shows : ∀ row cell, s.controller.shown row = some cell →
    screen.values[row]? = some (cellValue screen s.controller (some cell))
  value : screen.values[s.tapped]? = some s.controller.value

variable {screen} {s : Session setting.Value}

theorem Inv.getElem?_values (hinv : Inv screen s) (row : ℕ) :
    screen.values[row]? = s.controller.dataArray[row]?.map Entry.value := by
  rw [← hinv.values, List.getElem?_map]

theorem Inv.cellForRow (hinv : Inv screen s) (row cell : ℕ) :
    Inv screen { s with controller := cellForRow row cell s.controller } := by
  rcases cellForRow_cases row cell s.controller with hsame | ⟨entry, hentry, hfree, hnew⟩
  · rw [hsame]
    exact hinv
  · rw [hnew]
    refine ⟨hinv.values, hinv.only, ?_, hinv.value⟩
    intro row' cell' hshown
    change Function.update s.controller.shown row (some cell) row' = some cell' at hshown
    by_cases hrow : row' = row
    · subst hrow
      rw [Function.update_self] at hshown
      rw [← Option.some.inj hshown, hinv.getElem?_values, hentry]
      simp [cellValue]
    · rw [Function.update_of_ne hrow] at hshown
      have hvalue := hinv.shows row' cell' hshown
      have hlt : row' < s.controller.dataArray.length := by
        rw [hinv.getElem?_values] at hvalue
        obtain ⟨entry', hentry', -⟩ := Option.map_eq_some_iff.mp hvalue
        exact (List.getElem?_eq_some_iff.mp hentry').1
      -- a cell that shows a row is not given to another one
      have hcell : cell' ≠ cell := by
        rintro rfl
        exact hfree row' hlt hshown
      rw [hvalue]
      simp [cellValue, Function.update_of_ne hcell]

/-- A tap leaves one flagged row exactly when the selected row is the tapped one or the one that
`lastSelectedCell` holds. -/
theorem Inv.only_didSelectRow (hinv : Inv screen s) {row cell : ℕ}
    (hshown : s.controller.shown row = some cell) :
    Only Entry.selected row (didSelectRow screen row s.controller).dataArray ↔
      row = s.tapped ∨ screen.values[s.tapped]? =
        some (cellValue screen s.controller s.controller.lastSelectedCell) := by
  have hrow := hinv.shows row cell hshown
  have hlt : row < s.controller.dataArray.length := by
    rw [← List.length_map Entry.value, hinv.values]
    exact (List.getElem?_eq_some_iff.mp hrow).1
  -- the entry of the last cell is deselected, and that of the tapped one selected
  have hdata : (didSelectRow screen row s.controller).dataArray =
      s.controller.dataArray.map
        (Entry.choose (cellValue screen s.controller s.controller.lastSelectedCell)
          (cellValue screen s.controller (some cell))) := by
    simp [didSelectRow, hshown, reloadData]
  -- values do not repeat, so the entry with the value of the tapped cell is its row
  have hflag : ∀ k entry, s.controller.dataArray[k]? = some entry →
      ((entry.choose (cellValue screen s.controller s.controller.lastSelectedCell)
          (cellValue screen s.controller (some cell))).selected = true ↔
        k = row ∨ (entry.selected = true ∧
          ¬ entry.value = cellValue screen s.controller s.controller.lastSelectedCell)) := by
    intro k entry hentry
    have hk : screen.values[k]? = some entry.value := by
      rw [hinv.getElem?_values, hentry]
      rfl
    have hklt := (List.getElem?_eq_some_iff.mp hk).1
    have hsame : entry.value = cellValue screen s.controller (some cell) ↔ k = row := by
      rw [← List.getElem?_inj hklt screen.nodup, hk, hrow, Option.some.injEq]
    rw [selected_choose, hsame]
  rw [hdata, hinv.only.map_iff hlt hflag, hinv.getElem?_values, Option.map_eq_some_iff]

theorem Inv.endDisplaying (hinv : Inv screen s) (row : ℕ) :
    Inv screen { s with controller := endDisplaying row s.controller } := by
  refine ⟨hinv.values, hinv.only, ?_, hinv.value⟩
  intro row' cell hshown
  change Function.update s.controller.shown row none row' = some cell at hshown
  by_cases hrow : row' = row
  · subst hrow
    rw [Function.update_self] at hshown
    exact absurd hshown (by simp)
  · rw [Function.update_of_ne hrow] at hshown
    exact hinv.shows row' cell hshown

theorem Inv.dropCell (hinv : Inv screen s) (cell : ℕ) :
    Inv screen { s with controller := dropCell screen cell s.controller } := by
  unfold RadioList.dropCell
  split_ifs
  · exact hinv
  · exact ⟨hinv.values, hinv.only, hinv.shows, hinv.value⟩
  · exact hinv

theorem Inv.reloadData (hinv : Inv screen s) :
    Inv screen { s with controller := reloadData s.controller } :=
  ⟨hinv.values, hinv.only, fun _ _ hshown => absurd hshown (by simp [RadioList.reloadData]),
    hinv.value⟩

theorem Inv.didSelectRow (hinv : Inv screen s) {row cell : ℕ}
    (hshown : s.controller.shown row = some cell)
    (honly : Only Entry.selected row (didSelectRow screen row s.controller).dataArray) :
    Inv screen
      { s with controller := didSelectRow screen row s.controller, tapped := row } := by
  have hrow := hinv.shows row cell hshown
  refine ⟨?_, honly, ?_, ?_⟩
  · rw [← hinv.values]
    simp [RadioList.didSelectRow, hshown, RadioList.reloadData, Function.comp_def]
  · intro row' cell' hshown'
    exact absurd hshown' (by simp [RadioList.didSelectRow, hshown, RadioList.reloadData])
  · simpa [RadioList.didSelectRow, hshown, RadioList.reloadData] using hrow

theorem step_didSelectRow {row cell : ℕ} (hshown : s.controller.shown row = some cell) :
    step screen s (.didSelectRow row) =
      { s with controller := didSelectRow screen row s.controller, tapped := row } := by
  rw [step, if_neg (by simp [hshown])]

theorem step_didSelectRow_of_none {row : ℕ} (hshown : s.controller.shown row = none) :
    step screen s (.didSelectRow row) = s := by
  rw [step, if_pos hshown, didSelectRow, if_pos hshown]

/-- The value that the confirm button saves is that of the selected row. -/
theorem Inv.savedValue_iff (hinv : Inv screen s) :
    screen.values[s.tapped]? = some (savedValue screen s.controller) ↔
      CellKept screen s .confirm := by
  unfold savedValue CellKept
  by_cases hcell : screen.fromCell = true
  · simp [hcell]
  · simp [hcell, hinv.value]

theorem Inv.step (hinv : Inv screen s) {e : Event} (hkept : CellKept screen s e) :
    Inv screen (step screen s e) := by
  rcases e with ⟨row, cell⟩ | row | cell | _ | row | _
  · exact hinv.cellForRow row cell
  · exact hinv.endDisplaying row
  · exact hinv.dropCell cell
  · exact hinv.reloadData
  · rcases hshown : s.controller.shown row with _ | cell
    · rw [step_didSelectRow_of_none hshown]
      exact hinv
    · rw [step_didSelectRow hshown]
      apply hinv.didSelectRow hshown
      rw [hinv.only_didSelectRow hshown, or_iff_not_imp_left]
      exact hkept (by simp [hshown])
  · exact ⟨hinv.values, hinv.only, hinv.shows, hinv.value⟩

theorem Inv.faithful_iff (hinv : Inv screen s) (e : Event) :
    Faithful screen s e ↔ CellKept screen s e := by
  constructor
  · rintro ⟨honly, hsaved⟩
    rcases e with ⟨row, cell⟩ | row | cell | _ | row | _
    · trivial
    · trivial
    · trivial
    · trivial
    · intro hshown
      obtain ⟨cell, hcell⟩ := Option.ne_none_iff_exists'.mp hshown
      rw [step_didSelectRow hcell] at honly
      exact or_iff_not_imp_left.mp ((hinv.only_didSelectRow hcell).mp honly)
    · apply hinv.savedValue_iff.mp
      rw [hsaved rfl]
      exact congrArg some (screen.get_write _ _)
  · intro hkept
    refine ⟨(hinv.step hkept).only, ?_⟩
    rintro rfl
    rw [hinv.savedValue_iff.mpr hkept]
    exact congrArg some (screen.get_write _ _).symm

theorem inv_start {file : AppConfig.File} (hstart : screen.configured file ∈ screen.values) :
    Inv screen (start screen file) := by
  have hlt : screen.values.idxOf (screen.configured file) < screen.values.length :=
    List.idxOf_lt_length_of_mem hstart
  have hget : screen.values[screen.values.idxOf (screen.configured file)]? =
      some (screen.configured file) := List.getElem?_idxOf hstart
  refine ⟨?_, ⟨?_, ?_⟩, ?_, hget⟩
  · simp [start, viewDidLoad, Function.comp_def]
  · simpa [start, viewDidLoad] using hlt
  · intro k entry hentry
    rw [start, viewDidLoad, List.getElem?_map] at hentry
    obtain ⟨value, hvalue, rfl⟩ := Option.map_eq_some_iff.mp hentry
    have hk := (List.getElem?_eq_some_iff.mp hvalue).1
    rw [decide_eq_true_eq, start, ← List.getElem?_inj hk screen.nodup, hvalue, hget,
      Option.some.injEq]
  · intro row cell hshown
    exact absurd hshown (by simp [start, viewDidLoad])

/-! ## Radio lists -/

/-- On each screen that opens with a selected row, and for every sequence of events, the row tapped
last is always the only selected one and its value is saved, exactly when each tap on another row
(and, for the icons, each confirmation) finds the selected row in `lastSelectedCell`. -/
theorem guarded_faithful_iff (r : RadioScreen) (file : AppConfig.File)
    (hstart : r.screen.configured file ∈ r.screen.values) (es : List Event) :
    Guarded (step r.screen) (Faithful r.screen) (start r.screen file) es ↔
      Guarded (step r.screen) (CellKept r.screen) (start r.screen file) es :=
  guarded_congr (fun _ _ hinv hkept => Inv.step hinv hkept)
    (fun _ e hinv => Inv.faithful_iff hinv e) (inv_start hstart)

/-- Two rows that are not recycled before the tap. -/
theorem guarded_faithful_tapped :
    Guarded (step setAutoLock) (Faithful setAutoLock) (start setAutoLock none)
      [.cellForRow 0 0, .cellForRow 1 1, .didSelectRow 1, .confirm] := by
  apply (guarded_faithful_iff .setAutoLock none (by decide) _).mpr
  exact ⟨trivial, trivial, fun _ _ => by decide, fun hcell => absurd hcell (by decide), trivial⟩

/-- A tap when the cell of row 0 shows row 2 leaves rows 0 and 1 selected. The confirm button of the
icons, pressed when row 6 has not been on the screen, saves no icon. -/
theorem not_guarded_faithful_recycled :
    ¬ Guarded (step setAutoLock) (Faithful setAutoLock) (start setAutoLock none)
        [.cellForRow 0 0, .cellForRow 1 1, .endDisplaying 0, .cellForRow 2 0, .didSelectRow 1] ∧
      ¬ Guarded (step selectIcon) (Faithful selectIcon) (start selectIcon none)
        [.cellForRow 0 0, .confirm] := by
  constructor
  · rintro ⟨-, -, -, -, ⟨honly, -⟩, -⟩
    have hflag := (honly.2 0 ⟨(0 : ℤ), true⟩ (by decide)).mp rfl
    exact absurd hflag (by decide)
  · rintro ⟨-, ⟨-, hsaved⟩, -⟩
    exact absurd (hsaved rfl) (by decide)

end PasswordPackage.RadioList
