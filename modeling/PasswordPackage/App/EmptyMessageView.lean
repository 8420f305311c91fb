import Mathlib.Data.List.Basic
import Mathlib.Data.List.Nodup
import Mathlib.Data.Nat.Notation
import PasswordPackage.Common.Run

/-!
# The message over an empty list

Both lists cover themselves with a message view while they are empty. The view is found again by its
tag, but `showAtView:hudType:` puts off adding it to a later turn of the main queue, so a refresh
that comes before does not find it. On the main screen one more block brings the group button in
front of the new view.
-/

namespace PasswordPackage.EmptyMessageView

open Machine

/-! ## Views and blocks -/

/-- The subviews that matter: the group button, and message views, which all have the tag 999. -/
inductive Subview where
  | groupButton
  | hud (id : ℕ)
deriving DecidableEq

/-- A block on the main queue, with the message view that it has captured. -/
inductive Block where
  | hide (id : ℕ)
  | add (id : ℕ)
  | bringSubviewToFront (id : ℕ)
deriving DecidableEq

/-- The subviews from back to front, the main queue, the number of the next message view, and the
number of records that the list shows. -/
structure View where
  subviews : List Subview
  mainQueue : List Block
  nextHud : ℕ
  count : ℕ
deriving DecidableEq

/-- The screens with such a list. -/
inductive Controller where
  | mainViewController
  | bankCardViewController
deriving DecidableEq

def Subview.isHud : Subview → Bool
  | .groupButton => false
  | .hud _ => true

/-- `viewWithTag:` with the tag 999. -/
def View.viewWithTag (v : View) : Option Subview :=
  v.subviews.find? Subview.isHud

/-- `showAtView:hudType:`: both of its blocks are dispatched. -/
def showAtView (id : ℕ) : List Block :=
  [.hide id, .add id]

/-- What `showEmptyMessageView` dispatches for a new message view. -/
def dispatched (controller : Controller) (id : ℕ) : List Block :=
  match controller with
  | .mainViewController => showAtView id ++ [.bringSubviewToFront id]
  | .bankCardViewController => showAtView id

/-- `showEmptyMessageView`. -/
def showEmptyMessageView (controller : Controller) (v : View) : View :=
  match v.viewWithTag with
  | some _ => v
  | none =>
      { v with
        mainQueue := v.mainQueue ++ dispatched controller v.nextHud
        nextHud := v.nextHud + 1 }

/-- `hiddenEmptyMessageView`. -/
def hiddenEmptyMessageView (v : View) : View :=
  match v.viewWithTag with
  | some hud => { v with subviews := v.subviews.erase hud }
  | none => v

/-- The part of `refreshData` that follows the query. -/
def refreshData (controller : Controller) (count : ℕ) (v : View) : View :=
  if count = 0 then showEmptyMessageView controller { v with count := count }
  else hiddenEmptyMessageView { v with count := count }

/-- A block of the main queue. A view that is added or brought to the front becomes the last
subview; a message view that was removed has no superview. -/
def runBlock (v : View) : Block → View
  | .hide id => { v with subviews := v.subviews.erase (.hud id) }
  | .add id => { v with subviews := v.subviews.erase (.hud id) ++ [.hud id] }
  | .bringSubviewToFront id =>
      if .hud id ∈ v.subviews then
        { v with subviews := v.subviews.erase .groupButton ++ [.groupButton] }
      else v

/-- A turn of the main queue. -/
def nextBlock (v : View) : View :=
  match v.mainQueue with
  | [] => v
  | block :: rest => runBlock { v with mainQueue := rest } block

/-- What happens to a list: it is read anew, or the main queue takes its next turn. -/
inductive Event where
  | refreshData (count : ℕ)
  | nextBlock
deriving DecidableEq

def step (controller : Controller) (v : View) : Event → View
  | .refreshData count => refreshData controller count v
  | .nextBlock => nextBlock v

/-- The subviews before the first refresh. -/
def loaded : Controller → View
  | .mainViewController =>
      { subviews := [.groupButton], mainQueue := [], nextHud := 0, count := 0 }
  | .bankCardViewController =>
      { subviews := [], mainQueue := [], nextHud := 0, count := 0 }

/-- The list after its first refresh. -/
def opened (controller : Controller) (count : ℕ) : View :=
  refreshData controller count (loaded controller)

/-! ## Views on the screen and on their way -/

def Block.isAdd : Block → Bool
  | .add _ => true
  | .hide _ | .bringSubviewToFront _ => false

/-- The message views on the screen. -/
def View.shown (v : View) : ℕ :=
  v.subviews.countP Subview.isHud

/-- The message views that wait to be added. -/
def View.coming (v : View) : ℕ :=
  v.mainQueue.countP Block.isAdd

/-- An empty list has one message view, on the screen or on its way, and any other list has none. -/
def Matches (v : View) : Prop :=
  v.shown + v.coming = if v.count = 0 then 1 else 0

/-- The list is not read anew while a message view is on its way. -/
def Quiet (v : View) : Event → Prop
  | .refreshData _ => v.coming = 0
  | .nextBlock => True

instance : DecidablePred Matches :=
  fun v => inferInstanceAs (Decidable (v.shown + v.coming = if v.count = 0 then 1 else 0))

instance (v : View) : (e : Event) → Decidable (Quiet v e)
  | .refreshData _ => inferInstanceAs (Decidable (v.coming = 0))
  | .nextBlock => isTrue trivial

/-! ## The order of the blocks -/

def Block.id : Block → ℕ
  | .hide id | .add id | .bringSubviewToFront id => id

/-- The blocks of a message view come in this order, after those of the views before it. -/
def Block.key : Block → ℕ
  | .hide id => 3 * id
  | .add id => 3 * id + 1
  | .bringSubviewToFront id => 3 * id + 2

/-- The main queue is in order, and a message view is not on the screen before it is added. -/
structure Inv (v : View) : Prop where
  sorted : v.mainQueue.Pairwise fun block block' => block.key < block'.key
  numbered : ∀ block ∈ v.mainQueue, block.id < v.nextHud
  fresh : ∀ id, .hud id ∈ v.subviews → id < v.nextHud
  absent : ∀ id, .hide id ∈ v.mainQueue ∨ .add id ∈ v.mainQueue → .hud id ∉ v.subviews
  nodup : v.subviews.Nodup

variable {controller : Controller} {v : View} {id : ℕ} {rest : List Block}

theorem key_lt_iff {block block' : Block} (h : block.id < block'.id) : block.key < block'.key := by
  cases block <;> cases block' <;> simp only [Block.id, Block.key] at h ⊢ <;> omega

theorem id_of_mem_dispatched {block : Block} (h : block ∈ dispatched controller id) :
    block.id = id := by
  cases controller <;> simp only [dispatched, showAtView, List.cons_append, List.nil_append,
    List.mem_cons, List.not_mem_nil, or_false] at h
  · rcases h with rfl | rfl | rfl <;> rfl
  · rcases h with rfl | rfl <;> rfl

theorem sorted_dispatched (controller : Controller) (id : ℕ) :
    (dispatched controller id).Pairwise fun block block' => block.key < block'.key := by
  cases controller <;> simp [dispatched, showAtView, Block.key]

theorem countP_isAdd_dispatched (controller : Controller) (id : ℕ) :
    (dispatched controller id).countP Block.isAdd = 1 := by
  cases controller <;> rfl

/-! ## What the operations do -/

theorem isHud_of_viewWithTag {hud : Subview} (h : v.viewWithTag = some hud) :
    hud ∈ v.subviews ∧ hud.isHud = true :=
  ⟨List.mem_of_find?_eq_some h, List.find?_some h⟩

theorem viewWithTag_eq_none_iff : v.viewWithTag = none ↔ v.shown = 0 := by
  rw [View.viewWithTag, View.shown, List.find?_eq_none, List.countP_eq_zero]

theorem inv_showEmptyMessageView (h : Inv v) : Inv (showEmptyMessageView controller v) := by
  unfold showEmptyMessageView
  split
  · exact h
  · refine ⟨?_, ?_, ?_, ?_, h.nodup⟩
    · refine List.pairwise_append.mpr ⟨h.sorted, sorted_dispatched _ _, ?_⟩
      intro block hblock block' hblock'
      apply key_lt_iff
      rw [id_of_mem_dispatched hblock']
      exact h.numbered block hblock
    · intro block hblock
      rcases List.mem_append.mp hblock with hold | hnew
      · exact Nat.lt_succ_of_lt (h.numbered block hold)
      · rw [id_of_mem_dispatched hnew]
        exact Nat.lt_succ_self _
    · exact fun id hid => Nat.lt_succ_of_lt (h.fresh id hid)
    · intro id hid hmem
      have hlt := h.fresh id hmem
      simp only [List.mem_append] at hid
      rcases hid with (hold | hnew) | (hold | hnew)
      · exact h.absent id (Or.inl hold) hmem
      · exact absurd (id_of_mem_dispatched hnew) (Nat.ne_of_lt hlt)
      · exact h.absent id (Or.inr hold) hmem
      · exact absurd (id_of_mem_dispatched hnew) (Nat.ne_of_lt hlt)

theorem inv_hiddenEmptyMessageView (h : Inv v) : Inv (hiddenEmptyMessageView v) := by
  unfold hiddenEmptyMessageView
  split
  · exact ⟨h.sorted, h.numbered, fun id hid => h.fresh id (List.mem_of_mem_erase hid),
      fun id hid hmem => h.absent id hid (List.mem_of_mem_erase hmem), h.nodup.erase _⟩
  · exact h

theorem inv_refreshData (h : Inv v) (count : ℕ) : Inv (refreshData controller count v) := by
  have hcount : Inv { v with count := count } :=
    ⟨h.sorted, h.numbered, h.fresh, h.absent, h.nodup⟩
  unfold refreshData
  split
  · exact inv_showEmptyMessageView hcount
  · exact inv_hiddenEmptyMessageView hcount

/-- The turn of a message view to be hidden comes before it is on the screen. -/
theorem runBlock_hide (h : Inv { v with mainQueue := .hide id :: rest }) :
    runBlock { v with mainQueue := rest } (.hide id) = { v with mainQueue := rest } := by
  have habsent := h.absent id (Or.inl List.mem_cons_self)
  simp only [runBlock, List.erase_of_not_mem habsent]

/-- A message view that is added was not on the screen. -/
theorem runBlock_add (h : Inv { v with mainQueue := .add id :: rest }) :
    runBlock { v with mainQueue := rest } (.add id) =
      { v with mainQueue := rest, subviews := v.subviews ++ [.hud id] } := by
  have habsent := h.absent id (Or.inr List.mem_cons_self)
  simp only [runBlock, List.erase_of_not_mem habsent]

theorem inv_tail {block : Block} (h : Inv { v with mainQueue := block :: rest }) :
    Inv { v with mainQueue := rest } where
  sorted := (List.pairwise_cons.mp h.sorted).2
  numbered := fun block' hblock => h.numbered block' (List.mem_cons_of_mem _ hblock)
  fresh := h.fresh
  absent := fun id' hid =>
    h.absent id' (hid.imp (List.mem_cons_of_mem _) (List.mem_cons_of_mem _))
  nodup := h.nodup

theorem inv_runBlock {block : Block} (h : Inv { v with mainQueue := block :: rest }) :
    Inv (runBlock { v with mainQueue := rest } block) := by
  have htail := inv_tail h
  cases block with
  | hide id =>
      rw [runBlock_hide h]
      exact htail
  | add id =>
      rw [runBlock_add h]
      -- nothing on the queue has the number of the view that is added
      have hlater := (List.pairwise_cons.mp h.sorted).1
      refine ⟨htail.sorted, htail.numbered, ?_, ?_, ?_⟩
      · intro id' hid'
        rcases List.mem_append.mp hid' with hold | hnew
        · exact h.fresh id' hold
        · obtain rfl : id' = id := Subview.hud.inj (List.mem_singleton.mp hnew)
          exact h.numbered _ List.mem_cons_self
      · intro id' hid' hmem
        rcases List.mem_append.mp hmem with hold | hnew
        · exact htail.absent id' hid' hold
        · obtain rfl : id' = id := Subview.hud.inj (List.mem_singleton.mp hnew)
          -- what is left on the queue comes after this block
          rcases hid' with hhide | hadd
          · have hlt := hlater _ hhide
            simp only [Block.key] at hlt
            omega
          · exact Nat.lt_irrefl _ (hlater _ hadd)
      · refine List.nodup_append.mpr ⟨h.nodup, List.nodup_singleton _, ?_⟩
        rintro hud hhud _ hnew rfl
        rw [List.mem_singleton.mp hnew] at hhud
        exact h.absent id (Or.inr List.mem_cons_self) hhud
  | bringSubviewToFront id =>
      simp only [runBlock]
      split
      · -- the group button is put last, and no message view changes
        refine ⟨htail.sorted, htail.numbered, ?_, ?_, ?_⟩
        · intro id' hid'
          rcases List.mem_append.mp hid' with hold | hnew
          · exact h.fresh id' (List.mem_of_mem_erase hold)
          · exact absurd (List.mem_singleton.mp hnew) (by simp)
        · intro id' hid' hmem
          rcases List.mem_append.mp hmem with hold | hnew
          · exact htail.absent id' hid' (List.mem_of_mem_erase hold)
          · exact absurd (List.mem_singleton.mp hnew) (by simp)
        · refine List.nodup_append.mpr ⟨h.nodup.erase _, List.nodup_singleton _, ?_⟩
          rintro hud hhud _ hnew rfl
          rw [List.mem_singleton.mp hnew] at hhud
          exact h.nodup.not_mem_erase hhud
      · exact htail

theorem inv_nextBlock (h : Inv v) : Inv (nextBlock v) := by
  unfold nextBlock
  split
  · exact h
  · next block rest hqueue =>
      apply inv_runBlock
      rw [← hqueue]
      exact h

theorem inv_step (h : Inv v) (e : Event) : Inv (step controller v e) := by
  cases e with
  | refreshData count => exact inv_refreshData h count
  | nextBlock => exact inv_nextBlock h

theorem inv_loaded (controller : Controller) : Inv (loaded controller) := by
  cases controller
  · exact ⟨.nil, by simp [loaded], by simp [loaded], by simp [loaded], by simp [loaded]⟩
  · exact ⟨.nil, by simp [loaded], by simp [loaded], by simp [loaded], by simp [loaded]⟩

/-! ## Counting message views -/

theorem countP_erase {subviews : List Subview} {subview : Subview} (h : subview ∈ subviews) :
    subviews.countP Subview.isHud =
      (subviews.erase subview).countP Subview.isHud + if subview.isHud then 1 else 0 := by
  rw [(List.perm_cons_erase h).countP_eq, List.countP_cons]

/-- Bringing the group button to the front moves no message view off the screen. -/
theorem countP_bringToFront (subviews : List Subview) :
    (subviews.erase .groupButton ++ [Subview.groupButton]).countP Subview.isHud =
      subviews.countP Subview.isHud := by
  rw [List.countP_append]
  by_cases h : Subview.groupButton ∈ subviews
  · exact (countP_erase h).symm
  · rw [List.erase_of_not_mem h]
    rfl

/-- A turn of the main queue at most moves a message view from the queue to the screen. -/
theorem shown_add_coming_nextBlock (h : Inv v) :
    (nextBlock v).shown + (nextBlock v).coming = v.shown + v.coming := by
  unfold nextBlock
  split
  · rfl
  · next block rest hqueue =>
      have hcoming : v.coming = rest.countP Block.isAdd + if block.isAdd then 1 else 0 := by
        rw [View.coming, hqueue, List.countP_cons]
      have hinv : Inv { v with mainQueue := block :: rest } := by
        rw [← hqueue]
        exact h
      rw [hcoming]
      cases block with
      | hide id =>
          -- a view that is hidden before it is added is not there to be removed
          rw [runBlock_hide hinv]
          rfl
      | add id =>
          -- the view that was on its way is shown
          rw [runBlock_add hinv]
          have hshown : (v.subviews ++ [Subview.hud id]).countP Subview.isHud = v.shown + 1 := by
            rw [List.countP_append]
            rfl
          show (v.subviews ++ [Subview.hud id]).countP Subview.isHud + rest.countP Block.isAdd =
            v.shown + (rest.countP Block.isAdd + 1)
          rw [hshown]
          omega
      | bringSubviewToFront id =>
          simp only [runBlock]
          split
          · -- the group button is not a message view
            exact congrArg (· + rest.countP Block.isAdd) (countP_bringToFront v.subviews)
          · rfl

/-- A refresh that finds no record adds a message view unless one is on the screen. -/
theorem shown_add_coming_refreshData_zero (controller : Controller) (v : View) :
    (refreshData controller 0 v).shown + (refreshData controller 0 v).coming =
      if v.shown = 0 then v.coming + 1 else v.shown + v.coming := by
  rw [refreshData, if_pos rfl, showEmptyMessageView]
  split
  · next hud hfind =>
      have hshown : v.shown ≠ 0 := fun hzero => by
        rw [show View.viewWithTag { v with count := 0 } = none from
          viewWithTag_eq_none_iff.mpr hzero] at hfind
        cases hfind
      rw [if_neg hshown]
      rfl
  · next hfind =>
      have hshown : v.shown = 0 := viewWithTag_eq_none_iff.mp hfind
      have hcoming : (v.mainQueue ++ dispatched controller v.nextHud).countP Block.isAdd =
          v.coming + 1 := by
        rw [List.countP_append, countP_isAdd_dispatched]
        rfl
      rw [if_pos hshown]
      show v.shown + (v.mainQueue ++ dispatched controller v.nextHud).countP Block.isAdd = _
      rw [hcoming, hshown, Nat.zero_add]

/-- A refresh that finds records removes a message view, if one is on the screen. -/
theorem shown_add_coming_refreshData_succ (controller : Controller) (v : View) {count : ℕ}
    (hcount : count ≠ 0) :
    (refreshData controller count v).shown + (refreshData controller count v).coming =
      v.shown - 1 + v.coming := by
  rw [refreshData, if_neg hcount, hiddenEmptyMessageView]
  split
  · next hud hfind =>
      obtain ⟨hmem, hhud⟩ := isHud_of_viewWithTag hfind
      have hshown : v.shown = (v.subviews.erase hud).countP Subview.isHud + 1 := by
        have hcount := countP_erase hmem
        rw [if_pos hhud] at hcount
        exact hcount
      rw [hshown, Nat.add_sub_cancel]
      rfl
  · next hfind =>
      have hshown : v.shown = 0 := viewWithTag_eq_none_iff.mp hfind
      rw [hshown]
      exact congrArg (· + v.coming) hshown

theorem count_refreshData (controller : Controller) (count : ℕ) (v : View) :
    (refreshData controller count v).count = count := by
  unfold refreshData showEmptyMessageView hiddenEmptyMessageView
  split <;> split <;> rfl

/-- A refresh keeps the number of message views right exactly when none is on its way. -/
theorem matches_refreshData_iff (controller : Controller) (count : ℕ) (h : Matches v) :
    Matches (refreshData controller count v) ↔ v.coming = 0 := by
  have hle : v.shown + v.coming ≤ 1 := by
    rw [h]
    split <;> omega
  unfold Matches
  rw [count_refreshData]
  by_cases hzero : count = 0
  · subst hzero
    rw [shown_add_coming_refreshData_zero, if_pos rfl]
    split <;> omega
  · rw [shown_add_coming_refreshData_succ controller v hzero, if_neg hzero]
    omega

theorem matches_nextBlock (hinv : Inv v) (h : Matches v) : Matches (nextBlock v) := by
  have hcount : (nextBlock v).count = v.count := by
    unfold nextBlock runBlock
    split
    · rfl
    · split
      · rfl
      · rfl
      · split <;> rfl
  rw [Matches, shown_add_coming_nextBlock hinv, hcount]
  exact h

theorem matches_opened (controller : Controller) (count : ℕ) :
    Matches (opened controller count) := by
  have hshown : (loaded controller).shown = 0 := by cases controller <;> rfl
  have hcoming : (loaded controller).coming = 0 := by cases controller <;> rfl
  unfold Matches opened
  rw [count_refreshData]
  by_cases hzero : count = 0
  · subst hzero
    rw [shown_add_coming_refreshData_zero, if_pos hshown, hcoming, if_pos rfl]
  · rw [shown_add_coming_refreshData_succ controller _ hzero, if_neg hzero, hshown, hcoming]

/-- When nothing is left on the main queue, the message view is there exactly if the list is empty. -/
theorem Matches.shown_eq (h : Matches v) (hdry : v.mainQueue = []) :
    v.shown = if v.count = 0 then 1 else 0 := by
  have hcoming : v.coming = 0 := by rw [View.coming, hdry, List.countP_nil]
  rw [← h, hcoming, Nat.add_zero]

/-! ## Runs -/

/-- There is the right number of message views throughout exactly when no refresh comes while one is
on its way. -/
theorem matches_iff_quiet (controller : Controller) (count : ℕ) (es : List Event) :
    Always (step controller) Matches (opened controller count) es ↔
      Guarded (step controller) Quiet (opened controller count) es := by
  have hspec : ∀ v e, Inv v ∧ Matches v → (Matches (step controller v e) ↔ Quiet v e) := by
    rintro v e ⟨hinv, hmatches⟩
    cases e with
    | refreshData count => exact matches_refreshData_iff controller count hmatches
    | nextBlock => exact iff_of_true (matches_nextBlock hinv hmatches) trivial
  have hkeeps : ∀ v e, Inv v ∧ Matches v → Quiet v e →
      Inv (step controller v e) ∧ Matches (step controller v e) :=
    fun v e h hquiet => ⟨inv_step h.1 e, (hspec v e h).mpr hquiet⟩
  have hbad : ∀ v e, Inv v ∧ Matches v → ¬ Quiet v e → ¬ Matches (step controller v e) :=
    fun v e h hquiet hmatches => hquiet ((hspec v e h).mp hmatches)
  exact always_iff_guarded hkeeps hbad (fun v h => h.2)
    ⟨inv_refreshData (inv_loaded controller) count, matches_opened controller count⟩

/-- Read anew before its message view was added, a list that has a record by then keeps the view. -/
example : ¬ Matches (run (step .bankCardViewController) (opened .bankCardViewController 0)
    [.nextBlock, .refreshData 1, .nextBlock]) := by decide

/-! ## The group button -/

/-- Every message view in front of the group button has a block on the queue that brings the button
to the front. -/
def Covered (v : View) : Prop :=
  ∃ back front, v.subviews = back ++ .groupButton :: front ∧
    ∀ hud ∈ front, ∃ id, hud = .hud id ∧ .bringSubviewToFront id ∈ v.mainQueue

/-- On the main screen, every block that adds a message view is followed by the one that brings the
group button to the front. -/
def Followed (v : View) : Prop :=
  ∀ id, .add id ∈ v.mainQueue → .bringSubviewToFront id ∈ v.mainQueue

theorem followed_show (h : Followed v) :
    Followed (showEmptyMessageView .mainViewController v) := by
  unfold showEmptyMessageView
  split
  · exact h
  · intro id hid
    rcases List.mem_append.mp hid with hold | hnew
    · exact List.mem_append_left _ (h id hold)
    · obtain rfl := id_of_mem_dispatched hnew
      exact List.mem_append_right _ (by simp [dispatched, showAtView])

theorem covered_show (h : Covered v) : Covered (showEmptyMessageView controller v) := by
  obtain ⟨back, front, hsubviews, hfront⟩ := h
  unfold showEmptyMessageView
  split
  · exact ⟨back, front, hsubviews, hfront⟩
  · refine ⟨back, front, hsubviews, fun hud hhud => ?_⟩
    obtain ⟨id, rfl, hid⟩ := hfront hud hhud
    exact ⟨id, rfl, List.mem_append_left _ hid⟩

/-- Removing a message view keeps the others where they are. -/
theorem covered_erase (h : Covered v) {hud : Subview} (hhud : hud ≠ .groupButton) :
    Covered { v with subviews := v.subviews.erase hud } := by
  obtain ⟨back, front, hsubviews, hfront⟩ := h
  by_cases hmem : hud ∈ back
  · refine ⟨back.erase hud, front, ?_, hfront⟩
    show v.subviews.erase hud = _
    rw [hsubviews, List.erase_append_left _ hmem]
  · refine ⟨back, front.erase hud, ?_, fun hud' hhud' => hfront hud' (List.mem_of_mem_erase hhud')⟩
    show v.subviews.erase hud = _
    rw [hsubviews, List.erase_append_right _ hmem, List.erase_cons_tail]
    simpa using hhud.symm

theorem covered_hidden (h : Covered v) : Covered (hiddenEmptyMessageView v) := by
  unfold hiddenEmptyMessageView
  split
  · next hud hfind =>
      obtain ⟨-, hhud⟩ := isHud_of_viewWithTag hfind
      apply covered_erase h
      rintro rfl
      cases hhud
  · exact h

/-- A turn of the main queue keeps what its block has brought to the front, or was going to. -/
theorem covered_runBlock {block : Block} (hinv : Inv { v with mainQueue := block :: rest })
    (hfollowed : Followed { v with mainQueue := block :: rest })
    (h : Covered { v with mainQueue := block :: rest }) :
    Covered (runBlock { v with mainQueue := rest } block) := by
  obtain ⟨back, front, hsubviews, hfront⟩ := h
  have hnodup : (back ++ Subview.groupButton :: front).Nodup := hsubviews ▸ hinv.nodup
  cases block with
  | hide id =>
      rw [runBlock_hide hinv]
      refine ⟨back, front, hsubviews, fun hud hhud => ?_⟩
      obtain ⟨id', rfl, hid⟩ := hfront hud hhud
      exact ⟨id', rfl, List.mem_of_ne_of_mem (by simp) hid⟩
  | add id =>
      rw [runBlock_add hinv]
      refine ⟨back, front ++ [.hud id], ?_, fun hud hhud => ?_⟩
      · show v.subviews ++ [.hud id] = _
        rw [hsubviews, List.append_assoc, List.cons_append]
      · rcases List.mem_append.mp hhud with hold | hnew
        · obtain ⟨id', rfl, hid⟩ := hfront hud hold
          exact ⟨id', rfl, List.mem_of_ne_of_mem (by simp) hid⟩
        · have hbring := hfollowed id List.mem_cons_self
          exact ⟨id, List.mem_singleton.mp hnew, List.mem_of_ne_of_mem (by simp) hbring⟩
  | bringSubviewToFront id =>
      have hback : Subview.groupButton ∉ back := fun hmem =>
        (List.nodup_append.mp hnodup).2.2 _ hmem _ List.mem_cons_self rfl
      simp only [runBlock]
      split
      · refine ⟨back ++ front, [], ?_, fun hud hhud => absurd hhud List.not_mem_nil⟩
        show v.subviews.erase .groupButton ++ [.groupButton] = _
        rw [hsubviews, List.erase_append_right _ hback, List.erase_cons_head]
      · next hnone =>
          refine ⟨back, front, hsubviews, fun hud hhud => ?_⟩
          obtain ⟨id', rfl, hid⟩ := hfront hud hhud
          refine ⟨id', rfl, List.mem_of_ne_of_mem ?_ hid⟩
          -- the view of this block is no longer on the screen
          intro heq
          obtain rfl := Block.bringSubviewToFront.inj heq
          apply hnone
          show Subview.hud id' ∈ v.subviews
          rw [hsubviews]
          exact List.mem_append_right _ (List.mem_cons_of_mem _ hhud)

theorem followed_runBlock {block : Block} (hinv : Inv { v with mainQueue := block :: rest })
    (h : Followed { v with mainQueue := block :: rest }) :
    Followed (runBlock { v with mainQueue := rest } block) := by
  have hqueue : (runBlock { v with mainQueue := rest } block).mainQueue = rest := by
    unfold runBlock
    split
    · rfl
    · rfl
    · split <;> rfl
  have hlater := (List.pairwise_cons.mp hinv.sorted).1
  intro id hid
  rw [hqueue] at hid ⊢
  have hbring := h id (List.mem_cons_of_mem _ hid)
  refine List.mem_of_ne_of_mem ?_ hbring
  -- the block that has run comes before all that are left
  rintro rfl
  have hlt := hlater _ hid
  simp only [Block.key] at hlt
  omega

/-- Whatever is on the main queue and on the screen, no message view in front of the group button
stays there. -/
structure Reachable (v : View) : Prop where
  inv : Inv v
  followed : Followed v
  covered : Covered v

theorem reachable_step (h : Reachable v) (e : Event) :
    Reachable (step .mainViewController v e) := by
  refine ⟨inv_step h.inv e, ?_, ?_⟩
  · -- a block that adds a view is followed by one for the group button
    cases e with
    | refreshData count =>
        show Followed (EmptyMessageView.refreshData _ count v)
        unfold EmptyMessageView.refreshData
        split
        · exact followed_show h.followed
        · unfold hiddenEmptyMessageView
          split <;> exact h.followed
    | nextBlock =>
        show Followed (EmptyMessageView.nextBlock v)
        unfold EmptyMessageView.nextBlock
        split
        · exact h.followed
        · next block rest hqueue =>
            apply followed_runBlock <;> rw [← hqueue]
            · exact h.inv
            · exact h.followed
  · -- a view in front of the group button waits for the block that puts it behind
    cases e with
    | refreshData count =>
        show Covered (EmptyMessageView.refreshData _ count v)
        unfold EmptyMessageView.refreshData
        split
        · exact covered_show h.covered
        · exact covered_hidden h.covered
    | nextBlock =>
        show Covered (EmptyMessageView.nextBlock v)
        unfold EmptyMessageView.nextBlock
        split
        · exact h.covered
        · next block rest hqueue =>
            apply covered_runBlock <;> rw [← hqueue]
            · exact h.inv
            · exact h.followed
            · exact h.covered

theorem reachable_loaded : Reachable (loaded .mainViewController) where
  inv := inv_loaded _
  followed := fun _ hid => absurd hid List.not_mem_nil
  covered := ⟨[], [], rfl, fun _ hhud => absurd hhud List.not_mem_nil⟩

/-- On the main screen the group button is in front of every message view whenever the main queue
has run dry, however refreshes and turns of the queue follow each other. -/
theorem groupButton_in_front (es : List Event)
    (hdry : (run (step .mainViewController) (loaded .mainViewController) es).mainQueue = []) :
    (run (step .mainViewController) (loaded .mainViewController) es).subviews.getLast? =
      some .groupButton := by
  have hstep : ∀ v e, Reachable v → Reachable (step .mainViewController v e) :=
    fun v e h => reachable_step h e
  obtain ⟨back, front, hsubviews, hfront⟩ :=
    (run_invariant hstep reachable_loaded es).covered
  cases front with
  | nil => rw [hsubviews, List.getLast?_append, List.getLast?_singleton, Option.some_or]
  | cons hud front =>
      obtain ⟨id, -, hid⟩ := hfront hud List.mem_cons_self
      rw [hdry] at hid
      exact absurd hid List.not_mem_nil

/-- Two refreshes before the queue runs leave two message views, both behind the group button. -/
theorem groupButton_in_front_twice :
    (run (step .mainViewController) (loaded .mainViewController)
      ([.refreshData 0, .refreshData 0] ++ List.replicate 6 .nextBlock)).subviews.getLast? =
      some .groupButton :=
  groupButton_in_front _ rfl

end PasswordPackage.EmptyMessageView
