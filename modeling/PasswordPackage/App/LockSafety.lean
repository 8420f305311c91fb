import PasswordPackage.App.AppDelegate
import PasswordPackage.Common.Run

/-!
# What takes the lock away, and what puts it up

A lock screen is presented by the tab bar controller and presents nothing, so it is the whole
presentation chain. That makes it safe against every event but one: a quick action dismisses what
the tab bar controller presents, and that is the lock. At launch the lock is always put up; when the
app returns to the foreground it never is.
-/

namespace PasswordPackage.AppDelegate

open Machine GesturesUnlock

/-! ## The presented locks -/

/-- The type of a presented lock screen. -/
def Presented.unlockType (p : Presented) : Option WUUnlockType :=
  match p.screen with
  | .lock vc => some vc.unlockType
  | .other _ => none

@[simp] theorem unlockType_lock (i : ℕ) (vc : Controller) :
    Presented.unlockType ⟨i, .lock vc⟩ = some vc.unlockType := rfl

@[simp] theorem unlockType_other (i : ℕ) (name : String) :
    Presented.unlockType ⟨i, .other name⟩ = none := rfl

/-- The validate-type lock screen is presented. -/
def App.Locked (a : App) : Prop :=
  ∃ p ∈ a.chain, p.unlockType = some .validatePwd

/-- The validate-type lock screen is what the user sees. -/
def App.LockedOnTop (a : App) : Prop :=
  a.top.bind Presented.unlockType = some .validatePwd

instance (a : App) : Decidable a.Locked :=
  inferInstanceAs (Decidable (∃ p ∈ a.chain, p.unlockType = some .validatePwd))

instance (a : App) : Decidable a.LockedOnTop :=
  inferInstanceAs (Decidable (_ = _))

theorem modifyLock_unlockType {f : Controller → Controller}
    (hf : ∀ vc, (f vc).unlockType = vc.unlockType) (ident : ℕ) (p : Presented) :
    (modifyLock ident f p).unlockType = p.unlockType := by
  obtain ⟨i, screen⟩ := p
  cases screen with
  | other name => rfl
  | lock vc =>
      show (if i = ident then (⟨ident, .lock (f vc)⟩ : Presented) else _).unlockType = _
      split_ifs
      · exact congrArg some (hf vc)
      · rfl

@[simp] theorem removeSystemLockView_unlockType (vc : Controller) :
    (removeSystemLockView vc).unlockType = vc.unlockType := rfl

@[simp] theorem resetGesturePassword_unlockType (vc : Controller) :
    (resetGesturePassword vc).unlockType = vc.unlockType := by
  unfold resetGesturePassword
  split_ifs <;> rfl

@[simp] theorem viewDidLoad_unlockType (config : AppConfig) (biometry : Biometry)
    (vc : Controller) : (viewDidLoad config biometry vc).1.unlockType = vc.unlockType := by
  unfold viewDidLoad
  split_ifs <;> rfl

/-! ## The invariant -/

/-- A presented lock screen is the whole chain; a validate-type one was put up because a password is
stored; and no completion block is about to store an empty password. -/
structure Inv (a : App) : Prop where
  alone : Presentation.Alone (fun p => p.unlockType ≠ none) a.chain
  stored : a.Locked → a.hasPassword = true
  completions : ∀ pwd, .addGesturesPassword pwd ∈ a.completions → pwd.length ≠ 0

/-- Events that leave the presented screens and the password alone keep the invariant. -/
theorem Inv.congr {a a' : App} (h : Inv a) (hchain : a'.chain = a.chain)
    (hshared : a'.shared = a.shared) (hcompletions : a'.completions = a.completions) : Inv a' where
  alone := hchain ▸ h.alone
  stored := by
    intro hlocked
    unfold App.Locked at hlocked
    unfold App.hasPassword
    rw [hchain] at hlocked
    rw [hshared]
    exact h.stored hlocked
  completions := hcompletions ▸ h.completions

theorem Inv.dismiss {a : App} (h : Inv a) (p : Presented → Bool) :
    Inv { a with chain := Presentation.dismiss p a.chain } where
  alone := h.alone.dismiss p
  stored := by
    rintro ⟨q, hq, hvalidate⟩
    exact h.stored ⟨q, (Presentation.dismiss_prefix p a.chain).subset hq, hvalidate⟩
  completions := h.completions

theorem Inv.modifyLock {a : App} (h : Inv a) (ident : ℕ) {f : Controller → Controller}
    (hf : ∀ vc, (f vc).unlockType = vc.unlockType) :
    Inv { a with chain := a.chain.map (modifyLock ident f) } where
  alone := h.alone.map _ fun p hp => by rwa [modifyLock_unlockType hf] at hp
  stored := by
    rintro ⟨q, hq, hvalidate⟩
    obtain ⟨p, hp, rfl⟩ := List.mem_map.mp hq
    rw [modifyLock_unlockType hf] at hvalidate
    exact h.stored ⟨p, hp, hvalidate⟩
  completions := h.completions

/-- The base may present anything, as long as a validate-type lock comes with a stored password. -/
theorem Inv.present {a : App} (h : Inv a) (p : Presented) (n : ℕ)
    (evaluations : List (ℕ × Evaluation))
    (hp : p.unlockType = some .validatePwd → a.hasPassword = true) :
    Inv { a with
      chain := Presentation.presentFromBase p a.chain
      nextIdent := n
      evaluations := evaluations } where
  alone := h.alone.presentFromBase p
  stored := by
    rintro ⟨q, hq, hvalidate⟩
    rcases Presentation.mem_presentFromBase hq with rfl | hold
    · exact hp hvalidate
    · exact h.stored ⟨q, hold, hvalidate⟩
  completions := h.completions

theorem Inv.presentFromBase {a : App} (h : Inv a) (name : String) :
    Inv (presentFromBase name a) :=
  h.present _ _ a.evaluations (by simp)

theorem Inv.ite {c : Prop} [Decidable c] {a b : App} (ha : Inv a) (hb : Inv b) :
    Inv (if c then a else b) := by
  split_ifs
  · exact ha
  · exact hb

theorem Inv.shortCutActionWithName {a : App} (h : Inv a) (name : String) :
    Inv (shortCutActionWithName name a) := by
  unfold AppDelegate.shortCutActionWithName
  refine Inv.ite (Inv.presentFromBase ?_ _) ?_
  all_goals
    refine Inv.ite (Inv.presentFromBase ?_ _) ?_
    all_goals exact Inv.ite (h.presentFromBase _) h

/-! ## Launching -/

theorem hasPassword_iff (a : App) :
    a.hasPassword = true ↔
      ¬ (a.shared.gesturesPassword = none ∨ (a.shared.gesturesPassword.getD "").length = 0) := by
  unfold App.hasPassword
  cases a.shared.gesturesPassword <;> simp [Nat.pos_iff_ne_zero]

theorem Inv.presentLock {a : App} (h : Inv a) {unlockType : WUUnlockType}
    (hstored : unlockType = .validatePwd → a.hasPassword = true) (biometry : Biometry) :
    Inv (presentLock unlockType biometry a) := by
  have htype : Presented.unlockType ⟨a.nextIdent,
      .lock (viewDidLoad a.config biometry (initWithUnlockType unlockType)).1⟩ =
        some unlockType := by
    rw [unlockType_lock, viewDidLoad_unlockType]
    rfl
  exact h.present _ _ _ fun hvalidate => hstored (Option.some.inj (htype.symm.trans hvalidate))

theorem inv_newProcess (gesturesPassword : Option String) (enterBackgroundTime : Option ℤ)
    (configFile : AppConfig.File) :
    Inv (newProcess gesturesPassword enterBackgroundTime configFile) where
  alone := Presentation.alone_nil
  stored := by simp [App.Locked, newProcess]
  completions := by simp [newProcess]

theorem Inv.didFinishLaunching {a : App} (h : Inv a) (options : LaunchOptions) :
    Inv (didFinishLaunching options a) := by
  have hpresent : Inv (if a.lockDue options.timeStamp then
      presentLoginViewController options.keyWindow options.biometry a else a) := by
    refine Inv.ite ?_ h
    unfold presentLoginViewController
    split_ifs with hstored
    · exact h.presentLock (fun _ => hstored) _
    · exact h
    · exact h
  unfold AppDelegate.didFinishLaunching
  cases options.shortcutItem with
  | none => exact hpresent
  | some type => exact Inv.ite hpresent (hpresent.congr rfl rfl rfl)

theorem Inv.mainViewDidLoad {a : App} (h : Inv a) (biometry : Biometry) :
    Inv (mainViewDidLoad biometry a) := by
  unfold AppDelegate.mainViewDidLoad
  split_ifs with hnone
  · exact h.presentLock (by simp) biometry
  · exact h.presentLock (fun _ => (hasPassword_iff a).mpr hnone) biometry

/-- A launched app satisfies the invariant, whatever the last process left behind. -/
theorem inv_launch (gesturesPassword : Option String) (enterBackgroundTime : Option ℤ)
    (configFile : AppConfig.File) (options : LaunchOptions) :
    Inv (launch gesturesPassword enterBackgroundTime configFile options) :=
  ((inv_newProcess gesturesPassword enterBackgroundTime configFile).didFinishLaunching
    options).mainViewDidLoad options.biometry

/-! ## The invariant along a run -/

/-- The lock screen on top is all there is. -/
theorem Inv.chain_eq {a : App} (h : Inv a) {ident : ℕ} {vc : Controller}
    (htop : a.top = some ⟨ident, .lock vc⟩) : a.chain = [⟨ident, .lock vc⟩] :=
  h.alone _ (List.mem_of_getLast? htop) (by simp)

theorem drawRectFinished_addGesturesPassword {shared : Shared} {vc : Controller}
    {g pwd : String}
    (h : (drawRectFinished shared vc g).2.2 = .dismiss (.addGesturesPassword pwd)) :
    pwd.length ≠ 0 := by
  unfold drawRectFinished at h
  split at h
  · obtain ⟨hpwd, -, hlength⟩ := createGesturesPassword_dismiss h
    rw [Completion.addGesturesPassword.inj hpwd]
    exact hlength
  · exact absurd (validateGesturesPassword_dismiss.mp h).2 (by simp)

theorem Inv.stroke {a : App} (h : Inv a) (g : String) : Inv (stroke g a) := by
  unfold AppDelegate.stroke
  split
  · next ident vc htop =>
      -- the lock on top is the whole chain, so the stroke changes nothing else
      have hchain := h.chain_eq htop
      split_ifs
      · exact h
      · have hdrawn : Inv
            { a with
              shared := (drawRectFinished a.shared vc g).1
              chain := a.chain.map
                (AppDelegate.modifyLock ident fun _ => (drawRectFinished a.shared vc g).2.1)
              completions :=
                a.completions ++ (drawRectFinished a.shared vc g).2.2.completions } := by
          refine ⟨?_, ?_, ?_⟩
          · rw [hchain]
            exact Presentation.alone_singleton _
          · rintro ⟨p, hp, hvalidate⟩
            have hp' : p = ⟨ident, .lock (drawRectFinished a.shared vc g).2.1⟩ := by
              simpa [hchain, AppDelegate.modifyLock] using hp
            rw [hp', unlockType_lock, drawRectFinished_unlockType] at hvalidate
            have hstored := h.stored ⟨_, List.mem_of_getLast? htop, hvalidate⟩
            simpa [App.hasPassword] using hstored
          · intro pwd hpwd
            rcases List.mem_append.mp hpwd with hold | hnew
            · exact h.completions pwd hold
            · exact drawRectFinished_addGesturesPassword (Outcome.mem_completions.mp hnew)
        dsimp only
        split
        · exact hdrawn.dismiss _
        · exact hdrawn
  · exact h

theorem Inv.completion {a : App} (h : Inv a) : Inv (completion a) := by
  unfold AppDelegate.completion
  split
  · exact h
  · next c rest hc =>
      refine ⟨h.alone, fun hlocked => ?_, fun pwd hpwd => h.completions pwd (by simp [hc, hpwd])⟩
      cases c with
      | resetErrorCount => exact h.stored hlocked
      | addGesturesPassword pwd =>
          -- what is stored is not empty, so a validate-type lock still has a password
          have hlength := h.completions pwd (by simp [hc])
          simpa [App.hasPassword, Completion.run, Nat.pos_iff_ne_zero] using hlength

theorem Inv.evaluationReply {a : App} (h : Inv a) (i : ℕ) (reply : LAReply) :
    Inv (evaluationReply i reply a) := by
  unfold AppDelegate.evaluationReply
  split
  · exact h
  · next ident evaluation _ =>
      have herase : Inv { a with evaluations := a.evaluations.eraseIdx i } :=
        h.congr rfl rfl rfl
      dsimp only
      split
      · exact herase.dismiss _
      · exact herase.modifyLock ident removeSystemLockView_unlockType
      · exact herase.congr rfl rfl rfl
      · exact herase

theorem Inv.performAction {a : App} (h : Inv a) (type : String) :
    Inv (performActionForShortcutItem type a) := by
  have hbase : Inv { a with selectedIndex := 0, pushed := [] } := h.congr rfl rfl rfl
  have hfirst := Inv.ite (c := a.chain ≠ []) (hbase.dismiss fun _ => true) hbase
  exact hfirst.shortCutActionWithName type

theorem not_unlockType_of_lockOnTop {a : App} (h : Inv a) (htop : a.lockOnTop = false) :
    ∀ p ∈ a.chain, ¬ p.unlockType ≠ none := by
  intro p hp hlock
  have hchain := h.alone p hp hlock
  obtain ⟨ident, screen⟩ := p
  cases screen with
  | other name => exact hlock rfl
  | lock vc => simp [App.lockOnTop, App.top, hchain] at htop

theorem Inv.presentScreen {a : App} (h : Inv a) (name : String) :
    Inv (presentScreen name a) := by
  unfold AppDelegate.presentScreen
  split_ifs with htop
  · exact h
  · have hnone := not_unlockType_of_lockOnTop h (by simpa using htop)
    refine ⟨Presentation.Alone.concat hnone (by simp), ?_, h.completions⟩
    rintro ⟨p, hp, hvalidate⟩
    rcases List.mem_append.mp hp with hold | hnew
    · exact h.stored ⟨p, hold, hvalidate⟩
    · simp [List.mem_singleton.mp hnew] at hvalidate

/-- Every event keeps the invariant. -/
theorem Inv.step {a : App} (h : Inv a) (e : Event) : Inv (step a e) := by
  cases e with
  | launch options => exact inv_launch _ _ _ options
  | stroke g => exact h.stroke g
  | completion => exact h.completion
  | resetGesture =>
      -- the controls of a lock screen leave its type alone
      show Inv (AppDelegate.resetGesture a)
      unfold AppDelegate.resetGesture
      split
      · exact Inv.ite h (h.modifyLock _ resetGesturePassword_unlockType)
      · exact h
  | pressedSystemLockButton biometry =>
      show Inv (AppDelegate.pressedSystemLockButton biometry a)
      unfold AppDelegate.pressedSystemLockButton
      split
      · exact Inv.ite (h.congr rfl rfl rfl) h
      · exact h
  | pressedGestureUnlockButton =>
      show Inv (AppDelegate.pressedGestureUnlockButton a)
      unfold AppDelegate.pressedGestureUnlockButton
      split
      · exact h.modifyLock _ removeSystemLockView_unlockType
      · exact h
  | evaluationReply i reply => exact h.evaluationReply i reply
  | applicationDidEnterBackground timeStamp => exact h.congr rfl rfl rfl
  | applicationWillEnterForeground timeStamp =>
      exact Inv.ite (h.congr rfl rfl rfl) (h.congr rfl rfl rfl)
  | performActionForShortcutItem type => exact h.performAction type
  | shortCutTimer =>
      show Inv (AppDelegate.shortCutTimer a)
      unfold AppDelegate.shortCutTimer
      split
      · exact h
      · next name _ =>
          -- the delayed action runs as if it were pressed now
          have hfired : Inv { a with shortCutActionName := none } := h.congr rfl rfl rfl
          exact hfired.shortCutActionWithName name
  | presentScreen name => exact h.presentScreen name
  | dismissScreen =>
      show Inv (AppDelegate.dismissScreen a)
      unfold AppDelegate.dismissScreen
      split
      · exact h.dismiss _
      · exact h
  | confirmAutoLock autoLockValue =>
      show Inv (AppDelegate.confirmAutoLock autoLockValue a)
      unfold AppDelegate.confirmAutoLock
      split
      · -- the configuration is saved, and the screen goes away
        have hsaved (configFile : AppConfig.File) : Inv { a with configFile := configFile } :=
          h.congr rfl rfl rfl
        exact (hsaved _).dismiss _
      · exact h
  | setUserSystemLock isOn => exact Inv.ite (h.congr rfl rfl rfl) h
  | selectTab index => exact Inv.ite (h.congr rfl rfl rfl) h
  | pushScreen name => exact Inv.ite (h.congr rfl rfl rfl) h

/-! ## The lock goes up at launch -/

theorem App.LockedOnTop.locked {a : App} (h : a.LockedOnTop) : a.Locked := by
  obtain ⟨p, hp, hvalidate⟩ := Option.bind_eq_some_iff.mp h
  exact ⟨p, List.mem_of_getLast? hp, hvalidate⟩

theorem presentLock_chain (unlockType : WUUnlockType) (biometry : Biometry) (a : App) :
    (presentLock unlockType biometry a).chain = Presentation.presentFromBase ⟨a.nextIdent,
      .lock (viewDidLoad a.config biometry (initWithUnlockType unlockType)).1⟩ a.chain := rfl

/-- The tab bar controller shows the validate-type lock, unless it already presents something. -/
theorem lockedOnTop_presentLock {a : App} (h : a.chain = [] ∨ a.LockedOnTop)
    (biometry : Biometry) : (presentLock .validatePwd biometry a).LockedOnTop := by
  unfold App.LockedOnTop App.top
  rw [presentLock_chain]
  rcases h with hnil | hlocked
  · simp only [hnil, Presentation.presentFromBase, List.getLast?_singleton, Option.bind_some,
      unlockType_lock, viewDidLoad_unlockType]
    rfl
  · unfold App.LockedOnTop App.top at hlocked
    obtain ⟨p, hp, -⟩ := Option.bind_eq_some_iff.mp hlocked
    rwa [Presentation.presentFromBase_of_mem _ (List.mem_of_getLast? hp)]

/-- The quick action an app is opened with is only noted at this point. -/
theorem didFinishLaunching_eq (options : LaunchOptions) (a : App) :
    ∃ name, didFinishLaunching options a =
      { (if a.lockDue options.timeStamp then
          presentLoginViewController options.keyWindow options.biometry a else a) with
        shortCutActionName := name } := by
  unfold didFinishLaunching
  cases options.shortcutItem with
  | none => exact ⟨_, rfl⟩
  | some type =>
      dsimp only
      by_cases hempty : type.length = 0
      · rw [if_pos hempty]
        exact ⟨_, rfl⟩
      · rw [if_neg hempty]
        exact ⟨some type, rfl⟩

theorem didFinishLaunching_shared (options : LaunchOptions) (a : App) :
    (didFinishLaunching options a).shared = a.shared := by
  obtain ⟨name, heq⟩ := didFinishLaunching_eq options a
  rw [heq]
  unfold presentLoginViewController
  split_ifs <;> rfl

theorem didFinishLaunching_chain (options : LaunchOptions) {a : App} (h : a.chain = []) :
    (didFinishLaunching options a).chain = [] ∨ (didFinishLaunching options a).LockedOnTop := by
  obtain ⟨name, heq⟩ := didFinishLaunching_eq options a
  rw [heq]
  unfold presentLoginViewController
  split_ifs
  · exact Or.inr (lockedOnTop_presentLock (Or.inl h) options.biometry)
  all_goals exact Or.inl h

/-- A launch with a stored password shows the validate-type lock, whatever the clock says. -/
theorem lockedOnTop_launch (gesturesPassword : Option String) (enterBackgroundTime : Option ℤ)
    (configFile : AppConfig.File) (options : LaunchOptions)
    (h : (launch gesturesPassword enterBackgroundTime configFile options).hasPassword = true) :
    (launch gesturesPassword enterBackgroundTime configFile options).LockedOnTop := by
  have hchain := didFinishLaunching_chain options
    (a := newProcess gesturesPassword enterBackgroundTime configFile) rfl
  unfold launch mainViewDidLoad at h ⊢
  split_ifs at h ⊢ with hnone
  · have hstored : (didFinishLaunching options
        (newProcess gesturesPassword enterBackgroundTime configFile)).hasPassword = true := h
    exact absurd hnone ((hasPassword_iff _).mp hstored)
  · exact lockedOnTop_presentLock hchain options.biometry

theorem launch_shared (gesturesPassword : Option String) (enterBackgroundTime : Option ℤ)
    (configFile : AppConfig.File) (options : LaunchOptions) :
    (launch gesturesPassword enterBackgroundTime configFile options).shared =
      { gesturesPassword := gesturesPassword, errorCount := kUnlockTryCount } := by
  refine Eq.trans ?_ (didFinishLaunching_shared options
    (newProcess gesturesPassword enterBackgroundTime configFile))
  unfold launch mainViewDidLoad
  split_ifs <;> rfl

/-! ## The lock against every event -/

/-- The event carries the stored password, or the success of an evaluation that unlocks. -/
def Authenticates (a : App) : Event → Prop
  | .stroke g => some g = a.shared.gesturesPassword
  | .evaluationReply i reply =>
      ∃ ident evaluation, a.evaluations[i]? = some (ident, evaluation) ∧
        evaluation ≠ .touchIdIsLocked ∧ reply = .success
  | _ => False

/-- A quick action is delivered to the running app. -/
def Event.IsQuickAction : Event → Prop
  | .performActionForShortcutItem _ => True
  | _ => False

theorem reply_eq_dismiss {evaluation : Evaluation} {reply : LAReply}
    (h : evaluation.reply reply = .dismiss) : evaluation ≠ .touchIdIsLocked ∧ reply = .success := by
  unfold Evaluation.reply at h
  split at h <;> simp_all

/-- The locked chain is the lock screen alone. -/
theorem Inv.chain_of_locked {a : App} (h : Inv a) (hlocked : a.Locked) :
    ∃ ident vc, a.chain = [⟨ident, .lock vc⟩] ∧ vc.unlockType = .validatePwd := by
  obtain ⟨⟨ident, screen⟩, hp, hvalidate⟩ := hlocked
  have hchain := h.alone _ hp (by simp [hvalidate])
  cases screen with
  | other name => exact absurd hvalidate (by simp)
  | lock vc => exact ⟨ident, vc, hchain, Option.some.inj hvalidate⟩

theorem App.Locked.modifyLock {a : App} (h : a.Locked) (ident : ℕ)
    {f : Controller → Controller} (hf : ∀ vc, (f vc).unlockType = vc.unlockType) :
    App.Locked { a with chain := a.chain.map (modifyLock ident f) } := by
  obtain ⟨p, hp, hvalidate⟩ := h
  exact ⟨_, List.mem_map_of_mem hp, (modifyLock_unlockType hf ident p).trans hvalidate⟩

/-- Nothing is presented from the base while a lock is up. -/
theorem App.Locked.shortCutActionWithName {a : App} (h : a.Locked) (name : String) :
    (shortCutActionWithName name a).Locked := by
  have hpresent {c : Prop} [Decidable c] {b : App} (screen : String) (hb : b.Locked) :
      (if c then presentFromBase screen b else b).Locked := by
    split_ifs
    · obtain ⟨p, hp, hvalidate⟩ := hb
      have hrefused := Presentation.presentFromBase_of_mem ⟨b.nextIdent, .other screen⟩ hp
      exact ⟨p, by rwa [presentFromBase, hrefused], hvalidate⟩
    · exact hb
  exact hpresent _ (hpresent _ (hpresent _ h))

/-- The lock survives a stroke that is not the stored password. -/
theorem Inv.locked_stroke {a : App} (h : Inv a) (hlocked : a.Locked) {g : String}
    (hwrong : some g ≠ a.shared.gesturesPassword) : (AppDelegate.stroke g a).Locked := by
  obtain ⟨ident, vc, hchain, htype⟩ := h.chain_of_locked hlocked
  have htop : a.top = some ⟨ident, .lock vc⟩ := by simp [App.top, hchain]
  unfold AppDelegate.stroke
  simp only [htop]
  split_ifs
  · exact hlocked
  · have hdrawn : drawRectFinished a.shared vc g = validateGesturesPassword a.shared vc g := by
      rw [drawRectFinished, htype]
    rw [hdrawn]
    split
    · next completion hdismiss =>
        exact absurd (validateGesturesPassword_dismiss.mp hdismiss).1 hwrong
    · refine ⟨⟨ident, .lock (validateGesturesPassword a.shared vc g).2.1⟩, ?_, ?_⟩
      · simp [hchain, AppDelegate.modifyLock]
      · rw [unlockType_lock, validateGesturesPassword_unlockType, htype]

/-- The lock survives a reply that is not a success. -/
theorem locked_evaluationReply {a : App} (hlocked : a.Locked) {i : ℕ} {reply : LAReply}
    (hfail : ¬ Authenticates a (.evaluationReply i reply)) :
    (evaluationReply i reply a).Locked := by
  unfold evaluationReply
  split
  · exact hlocked
  · next ident evaluation hpending =>
      dsimp only
      split
      · next hdismiss => exact absurd ⟨ident, evaluation, hpending, reply_eq_dismiss hdismiss⟩ hfail
      · exact App.Locked.modifyLock (a := { a with evaluations := a.evaluations.eraseIdx i })
          hlocked ident removeSystemLockView_unlockType
      · exact hlocked
      · exact hlocked

/-- The screens of the quick actions are not lock screens. -/
theorem mem_shortCutActionWithName {a : App} {name : String} {p : Presented}
    (hp : p ∈ (shortCutActionWithName name a).chain) (hlock : p.unlockType ≠ none) :
    p ∈ a.chain := by
  have hpresent {c : Prop} [Decidable c] {b : App} {screen : String}
      (h : p ∈ (if c then presentFromBase screen b else b).chain) : p ∈ b.chain := by
    split_ifs at h
    · rcases Presentation.mem_presentFromBase h with rfl | hold
      · exact absurd (unlockType_other _ _) hlock
      · exact hold
    · exact h
  exact hpresent (hpresent (hpresent hp))

/-- A quick action removes the lock. -/
theorem Inv.not_locked_performAction {a : App} (h : Inv a) (hlocked : a.Locked) (type : String) :
    ¬ (performActionForShortcutItem type a).Locked := by
  obtain ⟨ident, vc, hchain, -⟩ := h.chain_of_locked hlocked
  rintro ⟨p, hp, hvalidate⟩
  have hbase := mem_shortCutActionWithName hp (by simp [hvalidate])
  simp [hchain, presentingViewController, dismissPresented] at hbase

theorem App.lockOnTop_of_lock {a : App} {ident : ℕ} {vc : Controller}
    (h : a.chain = [⟨ident, .lock vc⟩]) : a.lockOnTop = true := by
  simp [App.lockOnTop, App.top, h]

/-- No event but a quick action removes the lock without authentication. -/
theorem Inv.locked_step {a : App} (h : Inv a) (hlocked : a.Locked) {e : Event}
    (hquick : ¬ e.IsQuickAction) (hauth : ¬ Authenticates a e) : (AppDelegate.step a e).Locked := by
  obtain ⟨ident, vc, hchain, -⟩ := h.chain_of_locked hlocked
  have htop : a.top = some ⟨ident, .lock vc⟩ := by simp [App.top, hchain]
  have hne : a.chain ≠ [] := by simp [hchain]
  -- the lock is on top and alone: what the user does elsewhere needs another top or an empty chain
  cases e with
  | launch options =>
      -- the password outlives the process, and a launch with a password puts the lock up
      have hstored := h.stored hlocked
      refine (lockedOnTop_launch _ _ _ options ?_).locked
      simpa only [App.hasPassword, launch_shared] using hstored
  | stroke g => exact h.locked_stroke hlocked hauth
  | completion =>
      show (AppDelegate.completion a).Locked
      unfold AppDelegate.completion
      split <;> exact hlocked
  | resetGesture =>
      simp only [AppDelegate.step, resetGesture, htop]
      split_ifs
      · exact hlocked
      · exact hlocked.modifyLock ident resetGesturePassword_unlockType
  | pressedSystemLockButton biometry =>
      simp only [AppDelegate.step, AppDelegate.pressedSystemLockButton, htop]
      split_ifs <;> exact hlocked
  | pressedGestureUnlockButton =>
      simp only [AppDelegate.step, AppDelegate.pressedGestureUnlockButton, htop]
      exact hlocked.modifyLock ident removeSystemLockView_unlockType
  | evaluationReply i reply => exact locked_evaluationReply hlocked hauth
  | applicationDidEnterBackground timeStamp => exact hlocked
  | applicationWillEnterForeground timeStamp =>
      simp only [AppDelegate.step, applicationWillEnterForeground, ite_self]
      exact hlocked
  | performActionForShortcutItem type => exact absurd trivial hquick
  | shortCutTimer =>
      show (AppDelegate.shortCutTimer a).Locked
      unfold AppDelegate.shortCutTimer
      split
      · exact hlocked
      · next name _ =>
          exact App.Locked.shortCutActionWithName (a := { a with shortCutActionName := none })
            hlocked name
  | presentScreen name =>
      simp only [AppDelegate.step, AppDelegate.presentScreen, App.lockOnTop_of_lock hchain,
        if_true]
      exact hlocked
  | dismissScreen =>
      simp only [AppDelegate.step, AppDelegate.dismissScreen, htop]
      exact hlocked
  | confirmAutoLock autoLockValue =>
      simp only [AppDelegate.step, AppDelegate.confirmAutoLock, htop]
      exact hlocked
  | setUserSystemLock isOn =>
      simp only [AppDelegate.step, AppDelegate.setUserSystemLock, if_neg hne]
      exact hlocked
  | selectTab index =>
      simp only [AppDelegate.step, AppDelegate.selectTab, if_neg hne]
      exact hlocked
  | pushScreen name =>
      simp only [AppDelegate.step, AppDelegate.pushScreen, if_neg hne]
      exact hlocked

/-! ## Lock safety -/

/-- If the step takes the validate-type lock away, it carries an authentication. -/
def LockSafeStep (a : App) (e : Event) : Prop :=
  a.Locked → ¬ (step a e).Locked → Authenticates a e

/-- Every step of the run after a launch is safe. -/
def LockSafe (gesturesPassword : Option String) (enterBackgroundTime : Option ℤ)
    (configFile : AppConfig.File) (options : LaunchOptions) (es : List Event) : Prop :=
  Guarded step LockSafeStep (launch gesturesPassword enterBackgroundTime configFile options) es

/-- The lock is safe exactly in the runs that deliver no quick action while it is up. -/
theorem lockSafe_iff (gesturesPassword : Option String) (enterBackgroundTime : Option ℤ)
    (configFile : AppConfig.File) (options : LaunchOptions) (es : List Event) :
    LockSafe gesturesPassword enterBackgroundTime configFile options es ↔
      Guarded step (fun a e => e.IsQuickAction → ¬ a.Locked)
        (launch gesturesPassword enterBackgroundTime configFile options) es := by
  refine guarded_congr (fun _ e h _ => h.step e) (fun a e h => ?_) (inv_launch _ _ _ options)
  constructor
  · intro hsafe hquick hlocked
    cases e with
    | performActionForShortcutItem type =>
        -- a safe step would have to carry an authentication, and a quick action carries none
        exact hsafe hlocked (h.not_locked_performAction hlocked type)
    | _ => exact hquick
  · intro hguard hlocked hunlocked
    by_contra hauth
    exact hunlocked (h.locked_step hlocked (fun hquick => hguard hquick hlocked) hauth)

/-- The app is opened with a stored password, and a quick action arrives at its lock. -/
def quickActionAtLock : List Event :=
  [.performActionForShortcutItem "Create"]

/-- A launch a minute into the epoch, on a device without biometrics. -/
def plainLaunch : LaunchOptions :=
  { timeStamp := 60, keyWindow := true, biometry := .none, shortcutItem := none }

theorem not_lockSafe_quickActionAtLock :
    ¬ LockSafe (some "0124") none none plainLaunch quickActionAtLock := by
  intro h
  have hlocked : (launch (some "0124") none none plainLaunch).Locked := by decide
  exact h.1 hlocked (by decide)

/-! ## Auto-lock -/

/-- When the app last entered the background, in a history that starts with what the user defaults
say. -/
def lastBackground (enterBackgroundTime : Option ℤ) (es : List Event) : Option ℤ :=
  es.foldl (fun last e =>
    match e with
    | .applicationDidEnterBackground timeStamp => some timeStamp
    | _ => last) enterBackgroundTime

/-- When an event opens the app. -/
def Event.opensAt : Event → Option ℤ
  | .launch options => some options.timeStamp
  | .applicationWillEnterForeground timeStamp => some timeStamp
  | _ => none

/-- The app, left at `last` and opened at `now`, is due to be locked. -/
def App.Due (a : App) (last : Option ℤ) (now : ℤ) : Prop :=
  a.hasPassword = true ∧ ∃ t, last = some t ∧ now - t ≥ a.config.autoLockDuration

/-- Whenever the app is opened and due to be locked, the user sees the lock. -/
def AutoLocked (gesturesPassword : Option String) (enterBackgroundTime : Option ℤ)
    (configFile : AppConfig.File) (options : LaunchOptions) (es : List Event) : Prop :=
  let a := launch gesturesPassword enterBackgroundTime configFile options
  (a.Due enterBackgroundTime options.timeStamp → a.LockedOnTop) ∧
    ∀ before e after now, es = before ++ e :: after → e.opensAt = some now →
      (run step a (before ++ [e])).Due (lastBackground enterBackgroundTime before) now →
        (run step a (before ++ [e])).LockedOnTop

/-- The app is locked on time exactly when every return to the foreground that is due finds the lock
still up: a launch puts it up, a return never does. -/
theorem autoLocked_iff (gesturesPassword : Option String) (enterBackgroundTime : Option ℤ)
    (configFile : AppConfig.File) (options : LaunchOptions) (es : List Event) :
    AutoLocked gesturesPassword enterBackgroundTime configFile options es ↔
      ∀ before now after, es = before ++ .applicationWillEnterForeground now :: after →
        let a := run step (launch gesturesPassword enterBackgroundTime configFile options) before
        a.Due (lastBackground enterBackgroundTime before) now → a.LockedOnTop := by
  -- a return changes the cover view only, so the lock has to be there before it
  have hforeground : ∀ (a : App) (now : ℤ),
      step a (.applicationWillEnterForeground now) = { a with coverView := false } := by
    intro a now
    simp only [step, applicationWillEnterForeground, ite_self]
  constructor
  · rintro ⟨-, hopens⟩ before now after heq a hdue
    have hopen := hopens before _ after now heq rfl
    rw [run_append] at hopen
    simp only [run_cons, run_nil, hforeground] at hopen
    exact hopen hdue
  · intro hreturns
    refine ⟨fun hdue => lockedOnTop_launch _ _ _ options hdue.1, ?_⟩
    intro before e after now heq hopens hdue
    rw [run_append] at hdue ⊢
    cases e with
    | launch options' => exact lockedOnTop_launch _ _ _ options' hdue.1
    | applicationWillEnterForeground timeStamp =>
        obtain rfl := Option.some.inj hopens
        simp only [run_cons, run_nil, hforeground] at hdue ⊢
        exact hreturns before timeStamp after heq hdue
    | _ => exact absurd hopens (by simp [Event.opensAt])

/-- The user unlocks the app with the stored gesture, leaves it for an hour, and returns. -/
def returnAfterAnHour : List Event :=
  [.pressedGestureUnlockButton, .stroke "0124", .completion, .applicationDidEnterBackground 100,
    .applicationWillEnterForeground 3700]

theorem not_autoLocked_returnAfterAnHour :
    ¬ AutoLocked (some "0124") none none plainLaunch returnAfterAnHour := by
  rintro ⟨-, h⟩
  have hlocked := h (returnAfterAnHour.take 4) (.applicationWillEnterForeground 3700) [] 3700
    rfl rfl ⟨by decide, 100, rfl, by decide⟩
  revert hlocked
  decide

end PasswordPackage.AppDelegate
