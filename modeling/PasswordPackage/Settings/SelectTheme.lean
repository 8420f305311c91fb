import PasswordPackage.Settings.LEETheme
import PasswordPackage.Settings.RadioList

/-!
# The theme of the app

The theme is kept in three places: `AppConfig` saves its number, `LEETheme` its tag in the user
defaults, and the appearance of the navigation bar its colour. `SelectThemeViewController` changes
all three, and the views change one by one in later turns of the main queue.
-/

namespace PasswordPackage.SelectTheme

open Machine LEETheme Settings

/-! ## Tags and colours -/

def kThemeDefault : String := "kThemeDefault"
def kThemeRed : String := "kThemeRed"
def kThemeBlue : String := "kThemeBlue"
def kThemeGreen : String := "kThemeGreen"
def kThemePurple : String := "kThemePurple"
def kThemeYellow : String := "kThemeYellow"

/-- `SYSTEM_COLOR` and `LEEColorHex`. -/
inductive Color where
  | systemColor
  | hex (code : String)
deriving DecidableEq

def kColorThemeRed : String := "ff0066"
def kColorThemeBlue : String := "00ccff"
def kColorThemeGreen : String := "66ff99"
def kColorThemePurple : String := "9900ff"
def kColorThemeYellow : String := "ffff66"

/-- `navigationTitleColorOfTheme:`. -/
def navigationTitleColorOfTheme (theme : String) : Color :=
  if theme = kThemeGreen then .hex kColorThemeGreen
  else if theme = kThemeRed then .hex kColorThemeRed
  else if theme = kThemeBlue then .hex kColorThemeBlue
  else if theme = kThemePurple then .hex kColorThemePurple
  else if theme = kThemeYellow then .hex kColorThemeYellow
  else .systemColor

/-- `themeDescriptionOfEnum:`, with the raw value of a `PPTheme`. -/
def themeDescriptionOfEnum (theme : ℕ) : Option String :=
  if theme = 0 then some kThemeDefault
  else if theme = 1 then some kThemeRed
  else if theme = 2 then some kThemeBlue
  else if theme = 3 then some kThemeGreen
  else if theme = 4 then some kThemePurple
  else if theme = 5 then some kThemeYellow
  else none

/-- What every view of the app is given after `lee_theme`, for one of its setters. -/
def palette (selector : String) : List (LEETheme.Setting Color) :=
  [⟨selector, kThemeDefault, .systemColor⟩, ⟨selector, kThemeRed, .hex kColorThemeRed⟩,
    ⟨selector, kThemeBlue, .hex kColorThemeBlue⟩, ⟨selector, kThemeGreen, .hex kColorThemeGreen⟩,
    ⟨selector, kThemePurple, .hex kColorThemePurple⟩,
    ⟨selector, kThemeYellow, .hex kColorThemeYellow⟩]

/-! ## The app -/

/-- The themes of the views, the saved configuration, the colour of the titles in the navigation
bar, and `lastTheme` of the screen for the theme while that is open. -/
structure App where
  theme : Manager Color
  file : AppConfig.File
  titleColor : Color
  lastTheme : Option ℕ

/-- `application:didFinishLaunchingWithOptions:`, with what the user defaults and the file hold. -/
def didFinishLaunching (storedTag : Option String) (file : AppConfig.File) : App :=
  let theme := launch storedTag kThemeDefault
  let currentTag :=
    if theme.currentThemeTag = none ∨ theme.currentThemeTag = some "" then some kThemeDefault
    else theme.currentThemeTag
  { theme := theme
    file := file
    titleColor := navigationTitleColorOfTheme (currentTag.getD "")
    lastTheme := none }

/-- A view is made with the setters that follow the theme. -/
def loadView (selectors : List String) (app : App) : App :=
  { app with theme := load app.theme (selectors.flatMap palette) }

/-- `viewDidLoad` of `SelectThemeViewController`. -/
def viewDidLoad (app : App) : App :=
  let app := loadView ["setTintColor:"] (loadView ["setTintColor:"]
    (loadView ["setTextColor:"] app))
  { app with lastTheme := some (AppConfig.config app.file).mainTheme }

/-- `tableView:didSelectRowAtIndexPath:`, with the value of the row. -/
def didSelectRow (row : ℕ) (app : App) : App :=
  match app.lastTheme, RadioList.selectTheme.values[row]? with
  | some _, some newValue => { app with lastTheme := some newValue }
  | _, _ => app

/-- `pressedConfirmButton:`. -/
def pressedConfirmButton (app : App) : App :=
  match app.lastTheme with
  | none => app
  | some lastTheme =>
      let themeDes := (themeDescriptionOfEnum lastTheme).getD ""
      let app :=
        if themeDes.length > 0 then
          { app with
            titleColor := navigationTitleColorOfTheme themeDes
            theme := startTheme app.theme themeDes }
        else app
      { app with file := selectThemeConfirm lastTheme app.file, lastTheme := none }

/-- The writers of the other settings. -/
abbrev OtherOperation : Type :=
  { operation : Operation // ∀ lastTheme, operation ≠ .selectTheme lastTheme }

/-- What happens in the app. -/
inductive Event where
  | loadView (selectors : List String)
  | nextBlock
  | selectThemeAction
  | didSelectRow (row : ℕ)
  | pressedCancelButton
  | pressedConfirmButton
  | saveConfig (operation : OtherOperation)
  | relaunch
deriving DecidableEq

def step (app : App) : Event → App
  | .loadView selectors => loadView selectors app
  | .nextBlock => { app with theme := nextBlock app.theme }
  | .selectThemeAction => viewDidLoad app
  | .didSelectRow row => didSelectRow row app
  | .pressedCancelButton => { app with lastTheme := none }
  | .pressedConfirmButton => pressedConfirmButton app
  | .saveConfig operation => { app with file := Settings.step app.file operation.val }
  | .relaunch => didFinishLaunching app.theme.storedTag app.file

/-- The number of the saved theme. -/
def App.mainTheme (app : App) : ℕ :=
  (AppConfig.config app.file).mainTheme

/-- The saved number stands for the stored tag, which is the current one, the titles have its colour,
and once the main queue is dry so has every view, by each setter that follows the theme. -/
structure Agrees (app : App) : Prop where
  mainTheme : themeDescriptionOfEnum app.mainTheme = app.theme.storedTag
  storedTag : app.theme.storedTag = app.theme.currentThemeTag
  titleColor : app.theme.currentThemeTag.map navigationTitleColorOfTheme = some app.titleColor
  views : app.theme.mainQueue = [] → ∀ view ∈ app.theme.views, ∀ setting ∈ view.settings,
    view.colors setting.selector = some app.titleColor

/-! ## The colours of the views -/

/-- Each setter has the colour of the titles for every theme, and no other. -/
structure Dyed (settings : List (LEETheme.Setting Color)) : Prop where
  color : ∀ setting ∈ settings, setting.color = navigationTitleColorOfTheme setting.tag
  tags : ∀ setting ∈ settings, ∀ theme tag, themeDescriptionOfEnum theme = some tag →
    ⟨setting.selector, tag, navigationTitleColorOfTheme tag⟩ ∈ settings

/-- The tags of the six themes. -/
theorem mem_of_themeDescriptionOfEnum {theme : ℕ} {tag : String}
    (h : themeDescriptionOfEnum theme = some tag) :
    tag ∈ [kThemeDefault, kThemeRed, kThemeBlue, kThemeGreen, kThemePurple, kThemeYellow] := by
  unfold themeDescriptionOfEnum at h
  repeat' split at h
  all_goals first
    | cases h
      simp
    | cases h

theorem mem_palette_iff {selector : String} {setting : LEETheme.Setting Color} :
    setting ∈ palette selector ↔
      setting.tag ∈ [kThemeDefault, kThemeRed, kThemeBlue, kThemeGreen, kThemePurple,
        kThemeYellow] ∧
      setting = ⟨selector, setting.tag, navigationTitleColorOfTheme setting.tag⟩ := by
  have hcolors : palette selector =
      [kThemeDefault, kThemeRed, kThemeBlue, kThemeGreen, kThemePurple, kThemeYellow].map
        fun tag => ⟨selector, tag, navigationTitleColorOfTheme tag⟩ := rfl
  rw [hcolors, List.mem_map]
  constructor
  · rintro ⟨tag, htag, rfl⟩
    exact ⟨htag, rfl⟩
  · rintro ⟨htag, heq⟩
    exact ⟨setting.tag, htag, heq.symm⟩

theorem dyed_of_mem_iff {settings : List (LEETheme.Setting Color)} {selectors : List String}
    (h : ∀ setting, setting ∈ settings ↔ setting ∈ selectors.flatMap palette) :
    Dyed settings := by
  refine ⟨fun setting hmem => ?_, fun setting hmem theme tag htag => ?_⟩
  · obtain ⟨selector, -, hpalette⟩ := List.mem_flatMap.mp ((h setting).mp hmem)
    rw [(mem_palette_iff.mp hpalette).2]
  · obtain ⟨selector, hselector, hpalette⟩ := List.mem_flatMap.mp ((h setting).mp hmem)
    have heq := (mem_palette_iff.mp hpalette).2
    rw [heq]
    apply (h _).mpr
    apply List.mem_flatMap.mpr
    exact ⟨selector, hselector,
      mem_palette_iff.mpr ⟨mem_of_themeDescriptionOfEnum htag, rfl⟩⟩

/-- The colour of a theme is the only one that a setter has for it. -/
theorem Dyed.lastColor_eq {settings : List (LEETheme.Setting Color)} (h : Dyed settings)
    {setting : LEETheme.Setting Color} (hmem : setting ∈ settings) {theme : ℕ} {tag : String}
    (htag : themeDescriptionOfEnum theme = some tag) :
    lastColor settings tag setting.selector = some (navigationTitleColorOfTheme tag) := by
  have hgiven := h.tags setting hmem theme tag htag
  have hne : (settings.filter fun s => s.tag = tag ∧ s.selector = setting.selector) ≠ [] := by
    apply List.ne_nil_of_mem
    exact List.mem_filter.mpr ⟨hgiven, by simp⟩
  rw [lastColor, List.getLast?_eq_some_getLast hne, Option.map_some]
  obtain ⟨hlast, hboth⟩ := List.mem_filter.mp (List.getLast_mem hne)
  rw [h.color _ hlast, (of_decide_eq_true hboth).1]

/-! ## What every run keeps -/

/-- The saved number stands for the saved tag, which is the current one. -/
structure Inv (app : App) : Prop where
  theme : LEETheme.Inv app.theme
  currentThemeTag : app.theme.currentThemeTag = app.theme.storedTag
  mainTheme : themeDescriptionOfEnum app.mainTheme = app.theme.storedTag
  titleColor : app.theme.storedTag.map navigationTitleColorOfTheme = some app.titleColor
  lastTheme : ∀ theme ∈ app.lastTheme, (themeDescriptionOfEnum theme).isSome
  dyed : ∀ view ∈ app.theme.views, Dyed view.settings

theorem Inv.agrees {app : App} (h : Inv app) : Agrees app where
  mainTheme := h.mainTheme
  storedTag := h.currentThemeTag.symm
  titleColor := by rw [h.currentThemeTag, h.titleColor]
  views := by
    intro hdry view hview setting hsetting
    obtain ⟨tag, htag, hcolor⟩ := Option.map_eq_some_iff.mp h.titleColor
    have hshows := h.theme.shows_of_dry hdry hview tag (h.currentThemeTag.trans htag)
    rw [← hcolor]
    apply hshows
    exact (h.dyed view hview).lastColor_eq hsetting (h.mainTheme.trans htag)

variable {app : App}

theorem Inv.mainTheme_isSome (h : Inv app) :
    (themeDescriptionOfEnum (AppConfig.config app.file).mainTheme).isSome := by
  obtain ⟨tag, htag, -⟩ := Option.map_eq_some_iff.mp h.titleColor
  rw [show themeDescriptionOfEnum (AppConfig.config app.file).mainTheme = some tag from
    h.mainTheme.trans htag]
  rfl

theorem inv_loadView (h : Inv app) (selectors : List String) : Inv (loadView selectors app) := by
  refine ⟨inv_load h.theme _, h.currentThemeTag, h.mainTheme, h.titleColor, h.lastTheme, ?_⟩
  intro view hview
  rcases List.mem_append.mp hview with hold | hnew
  · exact h.dyed view hold
  · rw [List.mem_singleton.mp hnew]
    apply dyed_of_mem_iff
    intro setting
    rw [mem_settings_load]
    exact or_iff_right List.not_mem_nil

theorem inv_nextBlock_app (h : Inv app) : Inv { app with theme := nextBlock app.theme } := by
  have htags : (nextBlock app.theme).currentThemeTag = app.theme.currentThemeTag ∧
      (nextBlock app.theme).storedTag = app.theme.storedTag := by
    unfold nextBlock
    split <;> exact ⟨rfl, rfl⟩
  refine ⟨LEETheme.inv_nextBlock h.theme, ?_, ?_, ?_, h.lastTheme, ?_⟩
  · exact htags.1.trans (h.currentThemeTag.trans htags.2.symm)
  · exact h.mainTheme.trans htags.2.symm
  · exact (congrArg _ htags.2).trans h.titleColor
  · intro view hview
    have hmem := List.mem_map_of_mem (f := View.settings) hview
    rw [settings_nextBlock] at hmem
    obtain ⟨old, hold, hsettings⟩ := List.mem_map.mp hmem
    exact hsettings ▸ h.dyed old hold

theorem inv_viewDidLoad (h : Inv app) : Inv (viewDidLoad app) := by
  have hloaded := inv_loadView (inv_loadView (inv_loadView h ["setTextColor:"])
    ["setTintColor:"]) ["setTintColor:"]
  refine { hloaded with lastTheme := ?_ }
  intro theme htheme
  rw [← Option.some.inj htheme]
  exact hloaded.mainTheme_isSome

/-- Every row of the screen has the number of a theme. -/
theorem isSome_of_row {row theme : ℕ} (h : RadioList.selectTheme.values[row]? = some theme) :
    (themeDescriptionOfEnum theme).isSome := by
  have hvalues : ∀ value ∈ RadioList.selectTheme.values,
      (themeDescriptionOfEnum value).isSome = true := by decide
  exact hvalues theme (List.mem_of_getElem? h)

theorem inv_didSelectRow (h : Inv app) (row : ℕ) : Inv (didSelectRow row app) := by
  unfold didSelectRow
  split
  · next newValue _ hrow =>
      refine { h with lastTheme := ?_ }
      intro theme htheme
      rw [← Option.some.inj htheme]
      exact isSome_of_row hrow
  · exact h

theorem length_pos_of_themeDescriptionOfEnum {theme : ℕ} {tag : String}
    (h : themeDescriptionOfEnum theme = some tag) : tag.length > 0 := by
  have hlengths : ∀ tag ∈ [kThemeDefault, kThemeRed, kThemeBlue, kThemeGreen, kThemePurple,
      kThemeYellow], tag.length > 0 := by decide
  exact hlengths tag (mem_of_themeDescriptionOfEnum h)

theorem mainTheme_selectThemeConfirm (lastTheme : ℕ) (file : AppConfig.File) :
    (AppConfig.config (selectThemeConfirm lastTheme file)).mainTheme = lastTheme :=
  get_config_modifyConfig _ file .mainTheme

theorem inv_pressedConfirmButton (h : Inv app) : Inv (pressedConfirmButton app) := by
  unfold pressedConfirmButton
  split
  · exact h
  · next lastTheme hlast =>
      obtain ⟨tag, htag⟩ := Option.isSome_iff_exists.mp (h.lastTheme lastTheme hlast)
      dsimp only
      rw [htag, Option.getD_some, if_pos (length_pos_of_themeDescriptionOfEnum htag)]
      refine ⟨inv_startTheme h.theme tag, rfl, ?_, rfl, (fun _ hnone => by cases hnone), h.dyed⟩
      exact (congrArg _ (mainTheme_selectThemeConfirm lastTheme app.file)).trans htag

/-- The other settings leave the theme alone. -/
theorem mainTheme_saveConfig (file : AppConfig.File) (operation : OtherOperation) :
    (AppConfig.config (Settings.step file operation.val)).mainTheme =
      (AppConfig.config file).mainTheme := by
  have hwrites : LastWrite.lastWrite Settings.Setting.mainTheme operation.val.writes = none := by
    obtain ⟨operation, hother⟩ := operation
    rcases operation with _ | _ | _ | _ | lastTheme | _ | ⟨error, _⟩ | ⟨error, retrieveResult, _⟩
    case selectTheme => exact absurd rfl (hother lastTheme)
    case backUp => cases error <;> rfl
    case down => cases error <;> cases retrieveResult <;> rfl
    all_goals rfl
  have hstep := get_config_step file operation.val .mainTheme
  rw [hwrites] at hstep
  exact hstep

theorem inv_saveConfig (h : Inv app) (operation : OtherOperation) :
    Inv { app with file := Settings.step app.file operation.val } :=
  { h with mainTheme := (congrArg _ (mainTheme_saveConfig app.file operation)).trans h.mainTheme }

/-- A launch goes by what the configuration and the user defaults hold, if both stand for the same
theme. -/
theorem inv_didFinishLaunching {storedTag : Option String} {file : AppConfig.File}
    (h : themeDescriptionOfEnum (AppConfig.config file).mainTheme =
      some (storedTag.getD kThemeDefault)) :
    Inv (didFinishLaunching storedTag file) := by
  have hne : (storedTag.getD kThemeDefault).length > 0 :=
    length_pos_of_themeDescriptionOfEnum h
  have htags : (launch storedTag kThemeDefault : Manager Color).currentThemeTag =
      some (storedTag.getD kThemeDefault) ∧
      (launch storedTag kThemeDefault : Manager Color).storedTag =
        some (storedTag.getD kThemeDefault) := by
    cases storedTag <;> exact ⟨rfl, rfl⟩
  refine ⟨inv_launch storedTag kThemeDefault, htags.1.trans htags.2.symm, h.trans htags.2.symm,
    ?_, (fun _ hnone => by cases hnone), ?_⟩
  · show Option.map _ (launch storedTag kThemeDefault : Manager Color).storedTag = _
    have hshown : some (storedTag.getD kThemeDefault) ≠ some "" := by
      intro heq
      rw [Option.some.inj heq] at hne
      exact absurd hne (by decide)
    simp only [didFinishLaunching, htags.1, htags.2, Option.map_some, reduceCtorEq, false_or,
      if_neg hshown, Option.getD_some]
  · intro view hview
    cases storedTag <;> exact absurd hview List.not_mem_nil

theorem inv_step (app : App) (e : Event) (h : Inv app) : Inv (step app e) := by
  cases e with
  | loadView selectors => exact inv_loadView h selectors
  | nextBlock => exact inv_nextBlock_app h
  | selectThemeAction => exact inv_viewDidLoad h
  | didSelectRow row => exact inv_didSelectRow h row
  | pressedCancelButton => exact { h with lastTheme := fun _ hnone => by cases hnone }
  | pressedConfirmButton => exact inv_pressedConfirmButton h
  | saveConfig operation => exact inv_saveConfig h operation
  | relaunch =>
      obtain ⟨tag, htag, -⟩ := Option.map_eq_some_iff.mp h.titleColor
      apply inv_didFinishLaunching
      rw [htag, Option.getD_some, ← htag]
      exact h.mainTheme

/-! ## One theme -/

/-- From the first launch on, and for every order of presses, views, turns of the main queue, other
settings and relaunches, the app has one theme: the saved one. The configuration and the user
defaults are written each time. -/
theorem always_agrees (es : List Event) :
    Always step Agrees (didFinishLaunching none none) es := by
  apply always_iff_run.mpr
  intro pre _
  have hstart : Inv (didFinishLaunching none none) := inv_didFinishLaunching rfl
  exact (run_invariant inv_step hstart pre).agrees

end PasswordPackage.SelectTheme
