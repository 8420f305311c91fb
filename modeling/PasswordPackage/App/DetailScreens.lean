import Mathlib.Algebra.GroupWithZero.Nat
import Mathlib.Logic.Function.Basic
import PasswordPackage.Pasteboard.CopyActions

/-!
# The detail screens

The screens of a website and of a bank card hide the secrets of the record behind dots, until the
menu of a row asks for the text or copies it. What they disclose is stated for two records at once:
what one record shows on the screen and leaves on the pasteboard is what the other one does, exactly
when they agree in what is shown from the start, in the lengths of the secrets, and in the secrets
that were asked for.
-/

namespace PasswordPackage.DetailScreens

open Pasteboard (World)

/-! ## Dots -/

/-- `length` of a string: a character beyond the basic plane counts twice. -/
def length (string : String) : ℕ :=
  (string.toList.map fun c => if c.toNat < 65536 then 1 else 2).sum

/-- `getDotStingWithString:`, and the loop in `viewDidLoad` of the website screen. -/
def getDotSting (string : Option String) : String :=
  (List.range (length (string.getD ""))).foldl (fun place _ => place ++ "•") ""

theorem toList_dots (n : ℕ) :
    ((List.range n).foldl (fun place _ => place ++ "•") "").toList = List.replicate n '•' := by
  induction n with
  | zero => rfl
  | succ n ih =>
      rw [List.range_succ, List.foldl_append, List.foldl_cons, List.foldl_nil, String.toList_append,
        ih, List.replicate_succ']
      rfl

/-- The dots tell the length and nothing else. -/
theorem getDotSting_eq_iff {string string' : Option String} :
    getDotSting string = getDotSting string' ↔
      length (string.getD "") = length (string'.getD "") := by
  constructor
  · intro h
    have hlist := congrArg (fun s => s.toList.length) h
    dsimp only [getDotSting] at hlist
    rwa [toList_dots, toList_dots, List.length_replicate, List.length_replicate] at hlist
  · intro h
    rw [getDotSting, getDotSting, h]

/-! ## The controllers -/

/-- What the two controllers do differently. `plain` are the texts (and the address of the picture)
that are shown from the start, `item` the text behind a row, and `masked` the rows whose labels start
as dots. A tap on some rows sets `currentSelectedIndex`; `shows` is the row that `showAction`
uncovers then, and `copies` says whether `copyAction` copies. -/
structure Controller (ρ : Type) where
  plain : ρ → List (Option String)
  item : ρ → ℤ → Option String
  masked : List ℤ
  selects : ℤ → Bool
  shows : ℤ → Option ℤ
  copies : ℤ → Bool
  copyAction : ρ → ℤ → World → World
  shows_masked : ∀ index row, shows index = some row → row ∈ masked
  string_copyAction : ∀ record index world, (copyAction record index world).string =
    if copies index then item record index else world.string

/-- `ShowWebSiteViewController`. Its `showAction` does not look at the selected row. -/
def showWebSite : Controller PPWebsiteModel where
  plain websiteModel :=
    [websiteModel.link, websiteModel.title, websiteModel.account, websiteModel.describe]
  item websiteModel row :=
    if row = 0 then websiteModel.title
    else if row = 1 then websiteModel.link
    else if row = 2 then websiteModel.account
    else if row = 3 then websiteModel.password
    else if row = 4 then websiteModel.describe
    else none
  masked := [3]
  selects _ := true
  shows _ := some 3
  copies index := decide (0 ≤ index ∧ index ≤ 4)
  copyAction := Pasteboard.ShowWebSiteViewController.copyAction
  shows_masked _ row h := by
    rw [← Option.some.inj h]
    exact List.mem_singleton_self 3
  string_copyAction websiteModel index world := by
    unfold Pasteboard.ShowWebSiteViewController.copyAction
    split
    · rfl
    · rfl
    · rfl
    · rfl
    · rfl
    · next h0 h1 h2 h3 h4 =>
        have hother : ¬ (0 ≤ index ∧ index ≤ 4) := by
          rintro ⟨hlow, hhigh⟩
          have hrow : index = 0 ∨ index = 1 ∨ index = 2 ∨ index = 3 ∨ index = 4 := by omega
          exact hrow.elim h0 fun h => h.elim h1 fun h => h.elim h2 fun h => h.elim h3 h4
        rw [if_neg (by rwa [decide_eq_true_eq])]

/-- The text of `typeLabel`, `none` when it keeps that of the storyboard. -/
def typeText (type : ℕ) : Option String :=
  if type = 0 then some "储蓄卡"
  else if type = 1 then some "信用卡"
  else none

/-- `ShowBankCardViewController`. The labels on the picture of the card have no outlets. -/
def showBankCard : Controller PPBankCardModel where
  plain bankCardModel :=
    [bankCardModel.account, bankCardModel.expireDate, typeText bankCardModel.type,
      bankCardModel.describe, bankCardModel.logoImageUrl]
  item bankCardModel row :=
    match row with
    | 1 => bankCardModel.password
    | 2 => bankCardModel.pin
    | 3 => bankCardModel.cvvCode
    | _ => none
  masked := [1, 2, 3]
  selects row := decide (row = 1 ∨ row = 2 ∨ row = 3)
  shows index := if 1 ≤ index ∧ index ≤ 3 then some index else none
  copies index := decide (1 ≤ index ∧ index ≤ 3)
  copyAction := Pasteboard.ShowBankCardViewController.copyAction
  shows_masked index row h := by
    split_ifs at h with hrow
    rw [← Option.some.inj h]
    simp only [List.mem_cons, List.not_mem_nil, or_false]
    omega
  string_copyAction bankCardModel index world := by
    unfold Pasteboard.ShowBankCardViewController.copyAction
    split
    · rfl
    · rfl
    · rfl
    · next h1 h2 h3 =>
        have hother : ¬ (1 ≤ index ∧ index ≤ 3) := by
          rintro ⟨hlow, hhigh⟩
          have hrow : index = 1 ∨ index = 2 ∨ index = 3 := by omega
          exact hrow.elim h1 fun h => h.elim h2 h3
        rw [if_neg (by rwa [decide_eq_true_eq])]

/-! ## The screen -/

/-- The selected row, the labels of the masked rows, and the pasteboard. -/
structure Screen where
  currentSelectedIndex : ℤ
  labels : ℤ → Option String
  world : World

inductive Event where
  | didSelectRow (row : ℤ)
  | copyAction
  | showAction
  | foreign (string : Option String)
deriving DecidableEq

variable {ρ : Type} (c : Controller ρ)

/-- `viewDidLoad`. -/
def viewDidLoad (record : ρ) (world : World) : Screen where
  currentSelectedIndex := -1
  labels row := some (getDotSting (c.item record row))
  world := world

/-- What happens on the screen, or on the pasteboard by another app. -/
def step (record : ρ) (s : Screen) : Event → Screen
  | .didSelectRow row => if c.selects row then { s with currentSelectedIndex := row } else s
  | .copyAction =>
      if s.currentSelectedIndex = -1 then s
      else { s with world := c.copyAction record s.currentSelectedIndex s.world }
  | .showAction =>
      match c.shows s.currentSelectedIndex with
      | some row => { s with labels := Function.update s.labels row (c.item record row) }
      | none => s
  | .foreign string => { s with world := s.world.foreign string }

/-- What is seen of the labels, and what is on the pasteboard. -/
def observe (record : ρ) (s : Screen) : List String × Option String :=
  ((c.plain record ++ c.masked.map s.labels).map fun text => text.getD "", s.world.string)

/-- What is observed after each event. -/
def trace (record : ρ) : Screen → List Event → List (List String × Option String)
  | _, [] => []
  | s, e :: es => observe c record (step c record s e) :: trace record (step c record s e) es

/-- What is observed of a record from the opening of its screen on. -/
def observations (record : ρ) (world : World) (es : List Event) :
    List (List String × Option String) :=
  observe c record (viewDidLoad c record world) :: trace c record (viewDidLoad c record world) es

/-! ## What is asked for -/

/-- A text that is uncovered, or copied. -/
inductive Request where
  | shown (row : ℤ)
  | copied (row : ℤ)
deriving DecidableEq

/-- The row selected after an event. -/
def select (index : ℤ) : Event → ℤ
  | .didSelectRow row => if c.selects row then row else index
  | .copyAction | .showAction | .foreign _ => index

/-- What an event asks for. -/
def request (index : ℤ) : Event → Option Request
  | .copyAction => if index ≠ -1 ∧ c.copies index then some (.copied index) else none
  | .showAction => (c.shows index).map .shown
  | .didSelectRow _ | .foreign _ => none

/-- What is asked for by a list of events. -/
def requests (index : ℤ) : List Event → List Request
  | [] => []
  | e :: es => (request c index e).toList ++ requests (select c index e) es

/-- Two records have the same answer. A nil text is seen as an empty one. -/
def Agrees (record record' : ρ) : Request → Prop
  | .shown row => (c.item record row).getD "" = (c.item record' row).getD ""
  | .copied row => c.item record row = c.item record' row

/-! ## Two screens side by side -/

variable {c} {record record' : ρ} {s s' : Screen}

/-- Two screens have the same row selected, and show the same. -/
structure Alike (c : Controller ρ) (record record' : ρ) (s s' : Screen) : Prop where
  index : s.currentSelectedIndex = s'.currentSelectedIndex
  observe : observe c record s = observe c record' s'

@[simp] theorem currentSelectedIndex_step (record : ρ) (s : Screen) (e : Event) :
    (step c record s e).currentSelectedIndex = select c s.currentSelectedIndex e := by
  cases e with
  | didSelectRow row =>
      dsimp only [step, select]
      split_ifs <;> rfl
  | copyAction =>
      dsimp only [step, select]
      split_ifs <;> rfl
  | showAction =>
      dsimp only [step, select]
      split <;> rfl
  | foreign string => rfl

/-- Screens show the same if their plain texts, labels and pasteboards do. -/
theorem observe_eq_iff :
    observe c record s = observe c record' s' ↔
      (c.plain record).map (fun text => text.getD "") =
          (c.plain record').map (fun text => text.getD "") ∧
        (∀ row ∈ c.masked, (s.labels row).getD "" = (s'.labels row).getD "") ∧
        s.world.string = s'.world.string := by
  have hlength : ∀ s : Screen, ((c.masked.map s.labels).map fun text => text.getD "").length =
      c.masked.length := by
    intro s
    rw [List.length_map, List.length_map]
  rw [observe, observe, Prod.mk.injEq, List.map_append, List.map_append, ← and_assoc]
  apply and_congr_left'
  constructor
  · intro h
    obtain ⟨hplain, hmasked⟩ := List.append_inj' h ((hlength s).trans (hlength s').symm)
    rw [List.map_map, List.map_map] at hmasked
    exact ⟨hplain, fun row hrow => List.map_inj_left.mp hmasked row hrow⟩
  · rintro ⟨hplain, hmasked⟩
    rw [hplain, List.map_map, List.map_map]
    apply congrArg
    exact List.map_inj_left.mpr hmasked

/-- After an event two screens go on showing the same exactly if the records have the same answer to
what the event asks for. -/
theorem Alike.observe_step_iff (h : Alike c record record' s s') (e : Event) :
    DetailScreens.observe c record (step c record s e) =
        DetailScreens.observe c record' (step c record' s' e) ↔
      ∀ q ∈ (request c s.currentSelectedIndex e).toList, Agrees c record record' q := by
  obtain ⟨hplain, hlabels, hstring⟩ := observe_eq_iff.mp h.observe
  have hnothing : ∀ q ∈ ([] : List Request), Agrees c record record' q :=
    fun _ hq => absurd hq List.not_mem_nil
  rw [observe_eq_iff, and_iff_right hplain]
  cases e with
  | didSelectRow row =>
      -- selecting a row shows a menu, and neither a text nor the pasteboard changes
      have hkeeps : ∀ (record : ρ) (s : Screen),
          (step c record s (.didSelectRow row)).labels = s.labels ∧
            (step c record s (.didSelectRow row)).world = s.world := by
        intro record s
        dsimp only [step]
        split_ifs <;> exact ⟨rfl, rfl⟩
      rw [(hkeeps record s).1, (hkeeps record' s').1, (hkeeps record s).2, (hkeeps record' s').2]
      exact iff_of_true ⟨hlabels, hstring⟩ hnothing
  | copyAction =>
      dsimp only [step, request]
      rw [← h.index]
      by_cases hnone : s.currentSelectedIndex = -1
      · rw [if_pos hnone, if_pos hnone, if_neg fun hcopies => hcopies.1 hnone]
        exact iff_of_true ⟨hlabels, hstring⟩ hnothing
      · rw [if_neg hnone, if_neg hnone, and_iff_right hlabels]
        dsimp only
        rw [c.string_copyAction, c.string_copyAction, hstring]
        -- the row decides whether its text is what goes to the pasteboard
        by_cases hcopies : c.copies s.currentSelectedIndex = true
        · rw [if_pos hcopies, if_pos hcopies, if_pos ⟨hnone, hcopies⟩, Option.toList_some,
            List.forall_mem_singleton]
          exact Iff.rfl
        · rw [if_neg hcopies, if_neg hcopies, if_neg fun hboth => hcopies hboth.2]
          exact iff_of_true rfl hnothing
  | showAction =>
      dsimp only [step, request]
      rw [← h.index]
      cases hshows : c.shows s.currentSelectedIndex with
      | none => exact iff_of_true ⟨hlabels, hstring⟩ hnothing
      | some row =>
          dsimp only
          rw [and_iff_left hstring]
          refine Iff.trans ?_ List.forall_mem_singleton.symm
          -- the uncovered label is the only one that changes
          constructor
          · intro hall
            have hrow := hall row (c.shows_masked _ row hshows)
            rwa [Function.update_self, Function.update_self] at hrow
          · intro hagrees row' hrow'
            by_cases heq : row' = row
            · rw [heq, Function.update_self, Function.update_self]
              exact hagrees
            · rw [Function.update_of_ne heq, Function.update_of_ne heq]
              exact hlabels row' hrow'
  | foreign string => exact iff_of_true ⟨hlabels, rfl⟩ hnothing

/-- The same for a list of events. -/
theorem Alike.trace_eq_iff (h : Alike c record record' s s') (es : List Event) :
    trace c record s es = trace c record' s' es ↔
      ∀ q ∈ requests c s.currentSelectedIndex es, Agrees c record record' q := by
  induction es generalizing s s' with
  | nil => exact iff_of_true rfl fun q hq => absurd hq List.not_mem_nil
  | cons e es ih =>
      rw [trace, trace, List.cons.injEq, requests, List.forall_mem_append,
        ← h.observe_step_iff e]
      apply and_congr_right
      intro hobserve
      have hindex : (step c record s e).currentSelectedIndex =
          (step c record' s' e).currentSelectedIndex := by
        rw [currentSelectedIndex_step, currentSelectedIndex_step, h.index]
      rw [ih ⟨hindex, hobserve⟩, currentSelectedIndex_step]

/-! ## What is disclosed -/

/-- Whatever is tapped, uncovered and copied, two records cannot be told apart by their screen and
the pasteboard exactly when they agree in what is shown from the start, in the lengths of the masked
texts, and in the texts that were asked for. -/
theorem observations_eq_iff (c : Controller ρ) (record record' : ρ) (world : World)
    (es : List Event) :
    observations c record world es = observations c record' world es ↔
      (c.plain record).map (fun text => text.getD "") =
          (c.plain record').map (fun text => text.getD "") ∧
        (∀ row ∈ c.masked,
          length ((c.item record row).getD "") = length ((c.item record' row).getD "")) ∧
        ∀ q ∈ requests c (-1) es, Agrees c record record' q := by
  rw [observations, observations, List.cons.injEq, observe_eq_iff, and_assoc, and_assoc]
  apply and_congr_right
  intro hplain
  have hdots : (∀ row ∈ c.masked, ((viewDidLoad c record world).labels row).getD "" =
      ((viewDidLoad c record' world).labels row).getD "") ↔
      ∀ row ∈ c.masked,
        length ((c.item record row).getD "") = length ((c.item record' row).getD "") :=
    forall₂_congr fun _ _ => getDotSting_eq_iff
  rw [hdots]
  apply and_congr_right
  intro hlength
  have hstring : (viewDidLoad c record world).world.string =
      (viewDidLoad c record' world).world.string := rfl
  rw [and_iff_right hstring]
  have halike : Alike c record record' (viewDidLoad c record world) (viewDidLoad c record' world) :=
    ⟨rfl, observe_eq_iff.mpr ⟨hplain, hdots.mpr hlength, rfl⟩⟩
  exact halike.trace_eq_iff es

end PasswordPackage.DetailScreens
