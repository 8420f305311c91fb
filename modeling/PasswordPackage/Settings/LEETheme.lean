import Mathlib.Data.List.Basic
import Mathlib.Data.List.Induction
import Mathlib.Data.Nat.Notation
import Mathlib.Logic.Function.Basic
import PasswordPackage.Common.Run

/-!
# Themes of views

A view is given a colour for each theme. It takes those of the current theme at once, and when
another theme is started it is told so and changes in a later turn of the main queue, unless it has
the colours of that theme already.
-/

namespace PasswordPackage.LEETheme

open Machine

variable {Color : Type}

/-! ## Views -/

/-- A colour that a view is to have under a theme, by the setter that takes it. -/
structure Setting (Color : Type) where
  selector : String
  tag : String
  color : Color
deriving DecidableEq

/-- `modelThemeSelectorConfigInfo` and `modelCurrentThemeTag` of a view, and what its setters were
last called with. -/
structure View (Color : Type) where
  settings : List (Setting Color)
  currentThemeTag : Option String
  colors : String → Option Color

/-- A view without a theme. -/
def plainView : View Color where
  settings := []
  currentThemeTag := none
  colors := fun _ => none

/-- The setter of a setting is called. -/
def invoke (colors : String → Option Color) (setting : Setting Color) : String → Option Color :=
  Function.update colors setting.selector (some setting.color)

/-- `changeThemeConfig`. -/
def changeThemeConfig (current : Option String) (view : View Color) : View Color :=
  { view with
    currentThemeTag := current
    colors :=
      (view.settings.filter fun setting => some setting.tag = current).foldl invoke view.colors }

/-- `LeeAddSelectorAndValueArray`. A value that is there already moves to the end. -/
def addSelectorAndColor [DecidableEq Color] (current : Option String) (view : View Color)
    (setting : Setting Color) : View Color :=
  let view := { view with settings := view.settings.filter (· ≠ setting) ++ [setting] }
  if current = some setting.tag then changeThemeConfig current view else view

/-- `isChangeTheme`. -/
def isChangeTheme (current : Option String) (view : View Color) : Bool :=
  view.currentThemeTag = none ∨ view.currentThemeTag ≠ current

/-! ## The manager -/

/-- The current tag in memory and in the user defaults, the views, and the views whose turn to change
is on the main queue. -/
structure Manager (Color : Type) where
  currentTag : Option String
  storedTag : Option String
  views : List (View Color)
  mainQueue : List ℕ

/-- `currentThemeTag`. -/
def Manager.currentThemeTag (m : Manager Color) : Option String :=
  m.currentTag.or m.storedTag

/-- `setCurrentTag:`. -/
def setCurrentTag (m : Manager Color) (tag : String) : Manager Color :=
  { m with currentTag := some tag, storedTag := some tag }

/-- `defaultTheme:`. -/
def defaultTheme (m : Manager Color) (tag : String) : Manager Color :=
  if m.currentTag = none ∧ m.storedTag = none then setCurrentTag m tag else m

/-- `startTheme:`. Every view observes the change. -/
def startTheme (m : Manager Color) (tag : String) : Manager Color :=
  { setCurrentTag m tag with mainQueue := m.mainQueue ++ List.range m.views.length }

/-- A view is made and given its settings. -/
def load [DecidableEq Color] (m : Manager Color) (settings : List (Setting Color)) :
    Manager Color :=
  { m with views := m.views ++
      [settings.foldl (addSelectorAndColor m.currentThemeTag) plainView] }

/-- A turn of the main queue: the block of `leeTheme_ChangeThemeConfigNotify:`. -/
def nextBlock (m : Manager Color) : Manager Color :=
  match m.mainQueue with
  | [] => m
  | id :: rest =>
      { m with
        mainQueue := rest
        views := m.views.modify id fun view =>
          if isChangeTheme m.currentThemeTag view then changeThemeConfig m.currentThemeTag view
          else view }

/-- The app is started with what the user defaults hold. -/
def launch (storedTag : Option String) (tag : String) : Manager Color :=
  defaultTheme { currentTag := none, storedTag := storedTag, views := [], mainQueue := [] } tag

/-! ## The colours of a theme -/

/-- The colour given last to a setter for a theme. -/
def lastColor (settings : List (Setting Color)) (tag selector : String) : Option Color :=
  ((settings.filter fun setting => setting.tag = tag ∧ setting.selector = selector).getLast?).map
    Setting.color

/-- The view has the colours that it was given for a theme. -/
def Shows (tag : String) (view : View Color) : Prop :=
  ∀ selector color, lastColor view.settings tag selector = some color →
    view.colors selector = some color

/-- What the setters have been called with, one after the other. -/
theorem foldl_invoke (settings : List (Setting Color)) (colors : String → Option Color)
    (selector : String) :
    settings.foldl invoke colors selector =
      (((settings.filter fun setting => setting.selector = selector).getLast?).map
        Setting.color).or (colors selector) := by
  induction settings using List.reverseRecOn with
  | nil => rfl
  | append_singleton settings setting ih =>
      rw [List.foldl_concat, List.filter_append, invoke]
      by_cases h : setting.selector = selector
      · subst h
        simp
      · rw [Function.update_of_ne (Ne.symm h), ih]
        simp [h]

theorem shows_changeThemeConfig (tag : String) (view : View Color) :
    Shows tag (changeThemeConfig (some tag) view) := by
  intro selector color hlast
  show (view.settings.filter fun setting => some setting.tag = some tag).foldl invoke view.colors
    selector = some color
  have hfilter : ((view.settings.filter fun setting => some setting.tag = some tag).filter
      fun setting => setting.selector = selector) =
      view.settings.filter fun setting => setting.tag = tag ∧ setting.selector = selector := by
    rw [List.filter_filter]
    apply List.filter_congr
    intro setting _
    simp [and_comm]
  have hcolor : (view.settings.filter fun setting => setting.tag = tag ∧
      setting.selector = selector).getLast?.map Setting.color = some color := hlast
  rw [foldl_invoke, hfilter, hcolor, Option.some_or]

/-- A setting for another theme does not matter. -/
theorem lastColor_add_of_ne [DecidableEq Color] {settings : List (Setting Color)}
    {setting : Setting Color} {tag : String} (h : setting.tag ≠ tag) (selector : String) :
    lastColor (settings.filter (· ≠ setting) ++ [setting]) tag selector =
      lastColor settings tag selector := by
  have hkeeps : (settings.filter (· ≠ setting)).filter
      (fun setting => setting.tag = tag ∧ setting.selector = selector) =
      settings.filter fun setting => setting.tag = tag ∧ setting.selector = selector := by
    rw [List.filter_filter]
    apply List.filter_congr
    intro setting' _
    by_cases htag : setting'.tag = tag
    · have hne : setting' ≠ setting := fun heq => h (heq ▸ htag)
      simp [hne]
    · simp [htag]
  rw [lastColor, List.filter_append, hkeeps]
  simp [lastColor, h]

/-! ## The settings of a view -/

theorem mem_settings_add [DecidableEq Color] (current : Option String) (view : View Color)
    (setting setting' : Setting Color) :
    setting' ∈ (addSelectorAndColor current view setting).settings ↔
      setting' ∈ view.settings ∨ setting' = setting := by
  have hsettings : (addSelectorAndColor current view setting).settings =
      view.settings.filter (· ≠ setting) ++ [setting] := by
    unfold addSelectorAndColor
    split <;> rfl
  rw [hsettings, List.mem_append, List.mem_filter, List.mem_singleton]
  by_cases heq : setting' = setting
  · simp [heq]
  · simp [heq]

/-- A view keeps what it was given, each setting once. -/
theorem mem_settings_load [DecidableEq Color] (current : Option String) (view : View Color)
    (settings : List (Setting Color)) (setting : Setting Color) :
    setting ∈ (settings.foldl (addSelectorAndColor current) view).settings ↔
      setting ∈ view.settings ∨ setting ∈ settings := by
  induction settings generalizing view with
  | nil => simp
  | cons first settings ih =>
      rw [List.foldl_cons, ih, mem_settings_add, List.mem_cons, or_assoc]

/-- The main queue gives no settings. -/
theorem settings_nextBlock (m : Manager Color) :
    (nextBlock m).views.map View.settings = m.views.map View.settings := by
  unfold nextBlock
  split
  · rfl
  · apply List.ext_getElem?
    intro id
    rw [List.getElem?_map, List.getElem?_map, List.getElem?_modify]
    cases m.views[id]? with
    | none => rfl
    | some view =>
        dsimp only [Option.map_eq_map, Option.map_some]
        split_ifs <;> rfl

/-! ## What every view keeps -/

/-- A view has the colours of the theme that it changed to last. -/
def Settled (view : View Color) : Prop :=
  ∀ tag ∈ view.currentThemeTag, Shows tag view

/-- A view that is given its settings under a theme has the colours that it was given for it, and
has not been under another theme. -/
structure Loading (current : String) (view : View Color) : Prop where
  shows : Shows current view
  currentThemeTag : view.currentThemeTag = none ∨ view.currentThemeTag = some current

theorem Loading.settled {current : String} {view : View Color} (h : Loading current view) :
    Settled view := by
  intro tag htag
  rcases h.currentThemeTag with hnone | hcurrent
  · rw [hnone] at htag
    cases htag
  · obtain rfl : current = tag := Option.some.inj (hcurrent.symm.trans htag)
    exact h.shows

theorem loading_plainView (current : String) : Loading current (plainView : View Color) where
  shows := fun _ _ h => by cases h
  currentThemeTag := Or.inl rfl

theorem Loading.add [DecidableEq Color] {current : String} {view : View Color}
    (h : Loading current view) (setting : Setting Color) :
    Loading current (addSelectorAndColor (some current) view setting) := by
  unfold addSelectorAndColor
  split
  · exact ⟨shows_changeThemeConfig current _, Or.inr rfl⟩
  · next hother =>
      have hne : setting.tag ≠ current := fun heq => hother (congrArg some heq.symm)
      refine ⟨fun selector color hlast => ?_, h.currentThemeTag⟩
      exact h.shows selector color ((lastColor_add_of_ne hne selector).symm.trans hlast)

theorem loading_load [DecidableEq Color] (current : String) (settings : List (Setting Color)) :
    Loading current (settings.foldl (addSelectorAndColor (some current)) plainView) := by
  have hstep : ∀ (view : View Color) (setting : Setting Color), Loading current view →
      Loading current (addSelectorAndColor (some current) view setting) :=
    fun view setting h => h.add setting
  exact run_invariant hstep (loading_plainView current) settings

theorem settled_changeThemeConfig (current : Option String) (view : View Color) :
    Settled (changeThemeConfig current view) := by
  intro tag htag
  obtain rfl : current = some tag := htag
  exact shows_changeThemeConfig tag view

/-! ## What every manager keeps -/

/-- There is a current theme, the views have the colours of the themes they changed to, and those
that do not have the colours of the current theme are on the main queue. -/
structure Inv (m : Manager Color) : Prop where
  current : m.currentThemeTag ≠ none
  settled : ∀ view ∈ m.views, Settled view
  waits : ∀ id view, m.views[id]? = some view → id ∉ m.mainQueue →
    ∀ tag ∈ m.currentThemeTag, Shows tag view

variable {m : Manager Color}

theorem inv_launch (storedTag : Option String) (tag : String) :
    Inv (launch storedTag tag : Manager Color) := by
  refine ⟨?_, ?_, ?_⟩
  · cases storedTag <;> simp [launch, defaultTheme, setCurrentTag, Manager.currentThemeTag]
  · intro view hview
    cases storedTag <;> exact absurd hview List.not_mem_nil
  · intro id view hview
    cases storedTag <;> cases hview

theorem inv_startTheme (h : Inv m) (tag : String) : Inv (startTheme m tag) where
  current := Option.some_ne_none tag
  settled := h.settled
  waits := by
    intro id view hview hid
    have hlt := (List.getElem?_eq_some_iff.mp hview).1
    exact absurd (List.mem_append_right _ (List.mem_range.mpr hlt)) hid

theorem inv_load [DecidableEq Color] (h : Inv m) (settings : List (Setting Color)) :
    Inv (load m settings) := by
  obtain ⟨current, hcurrent⟩ := Option.ne_none_iff_exists'.mp h.current
  have hloading := loading_load current settings
  have hviews : (load m settings).views =
      m.views ++ [settings.foldl (addSelectorAndColor (some current)) plainView] := by
    rw [load, hcurrent]
  refine ⟨h.current, fun view hview => ?_, fun id view hview hid tag htag => ?_⟩
  · rw [hviews] at hview
    rcases List.mem_append.mp hview with hold | hnew
    · exact h.settled view hold
    · rw [List.mem_singleton.mp hnew]
      exact hloading.settled
  · rw [hviews, List.getElem?_append] at hview
    split at hview
    · exact h.waits id view hview hid tag htag
    · have hmem := List.mem_singleton.mp (List.mem_of_getElem? hview)
      obtain rfl : current = tag := Option.some.inj (hcurrent.symm.trans htag)
      rw [hmem]
      exact hloading.shows

/-- A block leaves a view with the colours of the current theme. -/
theorem shows_block {current : String} {view : View Color} (h : Settled view) :
    let next := if isChangeTheme (some current) view then changeThemeConfig (some current) view
      else view
    Settled next ∧ Shows current next := by
  dsimp only
  split
  · exact ⟨settled_changeThemeConfig _ _, shows_changeThemeConfig current view⟩
  · next hsame =>
      have htag : view.currentThemeTag = some current := by
        by_contra hne
        exact hsame (decide_eq_true (Or.inr hne))
      exact ⟨h, h current htag⟩

theorem inv_nextBlock (h : Inv m) : Inv (nextBlock m) := by
  obtain ⟨current, hcurrent⟩ := Option.ne_none_iff_exists'.mp h.current
  unfold nextBlock
  split
  · exact h
  · next id rest hqueue =>
      rw [hcurrent]
      refine ⟨h.current, fun view hview => ?_, fun id' view hview hid' tag htag => ?_⟩
      · -- the view of the block gets its colours, and the others keep theirs
        obtain ⟨id', hid'⟩ := List.mem_iff_getElem?.mp hview
        rw [List.getElem?_modify] at hid'
        obtain ⟨old, hold, rfl⟩ := Option.map_eq_some_iff.mp hid'
        have hsettled := h.settled old (List.mem_of_getElem? hold)
        split
        · exact (shows_block hsettled).1
        · exact hsettled
      · rw [List.getElem?_modify] at hview
        obtain ⟨old, hold, rfl⟩ := Option.map_eq_some_iff.mp hview
        -- a view without a block on the queue has the current colours
        obtain rfl : current = tag := Option.some.inj (hcurrent.symm.trans htag)
        split
        · exact (shows_block (h.settled old (List.mem_of_getElem? hold))).2
        · next hne =>
            refine h.waits id' old hold (fun hmem => ?_) current hcurrent
            rw [hqueue] at hmem
            rcases List.mem_cons.mp hmem with rfl | hrest
            · exact hne rfl
            · exact hid' hrest

/-- When nothing is left on the main queue, every view has the colours that it was given for the
current theme. -/
theorem Inv.shows_of_dry (h : Inv m) (hdry : m.mainQueue = []) {view : View Color}
    (hview : view ∈ m.views) : ∀ tag ∈ m.currentThemeTag, Shows tag view := by
  obtain ⟨id, hid⟩ := List.mem_iff_getElem?.mp hview
  refine h.waits id view hid ?_
  rw [hdry]
  exact List.not_mem_nil

end PasswordPackage.LEETheme
