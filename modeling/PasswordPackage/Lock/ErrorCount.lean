import PasswordPackage.Lock.GesturesUnlock

/-!
# The counter of remaining tries

`errorCount` is static, so it counts across lock screens: down with every wrong stroke, back to five
with the alert and with the completion block of a right one. It agrees with the history of strokes
as long as that block runs before the next stroke.
-/

namespace PasswordPackage.GesturesUnlock

open Machine

/-! ## Histories -/

/-- A stroke, and what came of it. -/
structure Attempt where
  gesture : String
  outcome : Outcome
deriving DecidableEq

/-- A session with the attempts so far, the latest first. -/
structure Counted where
  session : Session
  attempts : List Attempt
deriving DecidableEq

def Outcome.isAlert : Outcome → Bool
  | .alert _ _ => true
  | _ => false

/-- A wrong attempt that did not raise the alert. -/
def Attempt.isCounted (gesturesPassword : Option String) (attempt : Attempt) : Bool :=
  some attempt.gesture ≠ gesturesPassword && !attempt.outcome.isAlert

/-- The number of wrong attempts since the last right one or the last alert. -/
def wrongSince (gesturesPassword : Option String) (attempts : List Attempt) : ℕ :=
  (attempts.takeWhile (Attempt.isCounted gesturesPassword)).length

/-- Strokes are recorded. -/
def countedStep (c : Counted) (e : Event) : Counted where
  session := step c.session e
  attempts :=
    match e with
    | .stroke g => ⟨g, outcome c.session g⟩ :: c.attempts
    | _ => c.attempts

/-- The app is launched and shows the lock screen. -/
def countedSession (gesturesPassword : Option String) : Counted where
  session := validateSession gesturesPassword
  attempts := []

/-- The completion blocks of earlier strokes have run. -/
def Ready (c : Counted) : Event → Prop
  | .stroke _ => c.session.completions = []
  | _ => True

def CountInRange (c : Counted) : Prop :=
  1 ≤ c.session.shared.errorCount ∧ c.session.shared.errorCount ≤ 5

/-- A wrong attempt raises the alert if it is the fifth since the last right one or the last alert,
and shows the number of tries that are left otherwise. -/
def CountsTries (gesturesPassword : Option String) (c : Counted) : Event → Prop
  | .stroke g =>
      ((outcome c.session g).isAlert = true ↔
          some g ≠ gesturesPassword ∧ wrongSince gesturesPassword c.attempts + 1 = 5) ∧
        (some g ≠ gesturesPassword → (outcome c.session g).isAlert = false →
          ∃ tries : ℤ,
            tries = 5 - wrongSince gesturesPassword (countedStep c (.stroke g)).attempts ∧
              1 ≤ tries ∧
              (countedStep c (.stroke g)).session.controller.statusLabel =
                s!"密码错误，还可以再输入{tries}次")
  | _ => True

/-! ## One attempt -/

theorem validateGesturesPassword_cases (shared : Shared) (vc : Controller) (g : String) :
    (some g = shared.gesturesPassword ∧
        validateGesturesPassword shared vc g = (shared, vc, .dismiss .resetErrorCount)) ∨
      (some g ≠ shared.gesturesPassword ∧ shared.errorCount = 1 ∧
        validateGesturesPassword shared vc g =
          ({ shared with errorCount := kUnlockTryCount }, vc,
            .alert "手势密码已失效" "请重新登陆")) ∨
      (some g ≠ shared.gesturesPassword ∧ shared.errorCount ≠ 1 ∧
        validateGesturesPassword shared vc g =
          ({ shared with errorCount := shared.errorCount - 1 },
            { vc with statusLabel := s!"密码错误，还可以再输入{shared.errorCount - 1}次" },
            .shake)) := by
  unfold validateGesturesPassword
  by_cases hstored : some g = shared.gesturesPassword
  · exact Or.inl ⟨hstored, if_pos hstored⟩
  · rw [if_neg hstored]
    by_cases hone : shared.errorCount - 1 = 0
    · exact Or.inr (Or.inl ⟨hstored, by omega, if_pos hone⟩)
    · exact Or.inr (Or.inr ⟨hstored, by omega, if_neg hone⟩)

theorem wrongSince_cons (gesturesPassword : Option String) (attempt : Attempt)
    (attempts : List Attempt) :
    wrongSince gesturesPassword (attempt :: attempts) =
      if attempt.isCounted gesturesPassword then wrongSince gesturesPassword attempts + 1
      else 0 := by
  unfold wrongSince
  rw [List.takeWhile_cons]
  split_ifs <;> rfl

/-- What a stroke does in a validate-mode session. -/
theorem stroke_cases {gesturesPassword : Option String} {s : Session}
    (h : Validating gesturesPassword s) (g : String) :
    (some g = gesturesPassword ∧ outcome s g = .dismiss .resetErrorCount ∧
        step s (.stroke g) = { s with completions := s.completions ++ [.resetErrorCount] }) ∨
      (some g ≠ gesturesPassword ∧ s.shared.errorCount = 1 ∧
        outcome s g = .alert "手势密码已失效" "请重新登陆" ∧
        step s (.stroke g) = { s with shared.errorCount := kUnlockTryCount }) ∨
      (some g ≠ gesturesPassword ∧ s.shared.errorCount ≠ 1 ∧ outcome s g = .shake ∧
        step s (.stroke g) =
          { s with
            shared.errorCount := s.shared.errorCount - 1
            controller.statusLabel :=
              s!"密码错误，还可以再输入{s.shared.errorCount - 1}次" }) := by
  have hdraw := h.drawRectFinished g
  have hstep : ∀ shared controller out,
      validateGesturesPassword s.shared s.controller g = (shared, controller, out) →
        outcome s g = out ∧
          step s (.stroke g) = ⟨shared, controller, s.completions ++ out.completions⟩ := by
    intro shared controller out hv
    constructor
    · rw [outcome, hdraw, hv]
    · simp only [step]
      rw [hdraw, hv]
  rw [← h.gesturesPassword]
  -- the password, the last wrong try, and an earlier one
  rcases validateGesturesPassword_cases s.shared s.controller g with
    ⟨hg, hv⟩ | ⟨hg, hone, hv⟩ | ⟨hg, hone, hv⟩
  · exact Or.inl ⟨hg, (hstep _ _ _ hv).1, (hstep _ _ _ hv).2⟩
  · refine Or.inr (Or.inl ⟨hg, hone, (hstep _ _ _ hv).1, (hstep _ _ _ hv).2.trans ?_⟩)
    simp [Outcome.completions]
  · refine Or.inr (Or.inr ⟨hg, hone, (hstep _ _ _ hv).1, (hstep _ _ _ hv).2.trans ?_⟩)
    simp [Outcome.completions]

/-! ## Runs of attempts -/

/-- The counter is what the history leaves of five tries, except between a right stroke and its
completion block. -/
structure CountInv (gesturesPassword : Option String) (c : Counted) : Prop where
  validating : Validating gesturesPassword c.session
  range : CountInRange c
  idle : c.session.completions = [] →
    c.session.shared.errorCount = 5 - wrongSince gesturesPassword c.attempts
  pending : c.session.completions ≠ [] → wrongSince gesturesPassword c.attempts = 0

section

variable {gesturesPassword : Option String} {c : Counted} {e : Event}

theorem CountInv.of_count
    (hvalid : Validating gesturesPassword c.session)
    (hcount : c.session.shared.errorCount = 5 - wrongSince gesturesPassword c.attempts)
    (hlt : wrongSince gesturesPassword c.attempts < 5)
    (hpending : c.session.completions ≠ [] → wrongSince gesturesPassword c.attempts = 0) :
    CountInv gesturesPassword c where
  validating := hvalid
  range := ⟨by omega, by omega⟩
  idle _ := hcount
  pending := hpending

theorem countInv_countedSession (gesturesPassword : Option String) :
    CountInv gesturesPassword (countedSession gesturesPassword) :=
  CountInv.of_count (validating_validateSession gesturesPassword) rfl
    (Nat.zero_lt_succ 4) fun _ => rfl

/-- A right stroke starts the count again, and so does the alert. -/
theorem wrongSince_stroke (gesturesPassword : Option String) (c : Counted) (g : String) :
    wrongSince gesturesPassword (countedStep c (.stroke g)).attempts =
      if some g ≠ gesturesPassword ∧ (outcome c.session g).isAlert = false then
        wrongSince gesturesPassword c.attempts + 1
      else 0 := by
  refine (wrongSince_cons gesturesPassword ⟨g, outcome c.session g⟩ c.attempts).trans ?_
  apply if_congr _ rfl rfl
  simp [Attempt.isCounted]

theorem countInv_step (h : CountInv gesturesPassword c) (hready : Ready c e) :
    CountInv gesturesPassword (countedStep c e) := by
  have hvalid : Validating gesturesPassword (countedStep c e).session := h.validating.step e
  cases e with
  | stroke g =>
      have hcount := h.idle hready
      have hsince := wrongSince_stroke gesturesPassword c g
      obtain ⟨hlow, hhigh⟩ := h.range
      rcases stroke_cases h.validating g with
        ⟨hg, -, hstep⟩ | ⟨-, -, hout, hstep⟩ | ⟨hg, hone, hout, hstep⟩
      · -- the counter waits for the completion block
        rw [if_neg fun hcounted => hcounted.1 hg] at hsince
        have hsession : (countedStep c (.stroke g)).session = _ := hstep
        refine ⟨hvalid, ?_, fun hidle => ?_, fun _ => hsince⟩
        · rw [CountInRange, hsession]
          exact ⟨hlow, hhigh⟩
        · simp [hsession] at hidle
      · -- the alert starts the count anew
        rw [hout, if_neg fun hcounted => Bool.noConfusion hcounted.2] at hsince
        apply CountInv.of_count hvalid _ (by omega) fun _ => hsince
        rw [hsince]
        exact congrArg (fun s : Session => s.shared.errorCount) hstep
      · -- one try fewer is left
        rw [hout, if_pos ⟨hg, rfl⟩] at hsince
        apply CountInv.of_count hvalid _ (by omega)
        · intro hpending
          refine absurd ?_ hpending
          exact (congrArg Session.completions hstep).trans hready
        · have herror : (countedStep c (.stroke g)).session.shared.errorCount =
              c.session.shared.errorCount - 1 :=
            congrArg (fun s : Session => s.shared.errorCount) hstep
          omega
  | completion =>
      cases hc : c.session.completions with
      | nil =>
          have hsame : countedStep c .completion = c := by
            simp [countedStep, step, hc]
          rwa [hsame]
      | cons first rest =>
          -- the block belongs to the password, so nothing is counted since
          have hfirst : first = .resetErrorCount :=
            h.validating.completions first (by simp [hc])
          have hzero : wrongSince gesturesPassword c.attempts = 0 := h.pending (by simp [hc])
          have herror : (countedStep c .completion).session.shared.errorCount = 5 := by
            simp [countedStep, step, hc, hfirst, Completion.run, kUnlockTryCount]
          have hsince : wrongSince gesturesPassword (countedStep c .completion).attempts = 0 :=
            hzero
          exact CountInv.of_count hvalid (by omega) (by omega) fun _ => hsince
  | resetGesturePassword => exact ⟨hvalid, h.range, h.idle, h.pending⟩
  | present => exact ⟨hvalid, h.range, h.idle, h.pending⟩

/-- The text a stroke shows and the alert it raises are read off the count. -/
theorem CountInv.countsTries (h : CountInv gesturesPassword c) (hready : Ready c e) :
    CountsTries gesturesPassword c e := by
  cases e with
  | stroke g =>
      have hcount := h.idle hready
      have hsince := wrongSince_stroke gesturesPassword c g
      obtain ⟨hlow, hhigh⟩ := h.range
      rcases stroke_cases h.validating g with
        ⟨hg, hout, hstep⟩ | ⟨hg, hone, hout, hstep⟩ | ⟨hg, hone, hout, hstep⟩
      · -- the password is no wrong try
        refine ⟨?_, fun hwrong => absurd hg hwrong⟩
        rw [hout]
        exact ⟨fun halert => Bool.noConfusion halert, fun hwrong => absurd hg hwrong.1⟩
      · -- the fifth one shows the alert, and no number
        refine ⟨?_, fun _ halert => ?_⟩
        · rw [hout]
          exact ⟨fun _ => ⟨hg, by omega⟩, fun _ => rfl⟩
        · rw [hout] at halert
          exact Bool.noConfusion halert
      · -- an earlier one shows how many are left
        refine ⟨?_, fun _ _ => ?_⟩
        · rw [hout]
          exact ⟨fun halert => Bool.noConfusion halert, fun hwrong => by omega⟩
        · rw [hsince, hout, if_pos ⟨hg, rfl⟩]
          refine ⟨c.session.shared.errorCount - 1, by omega, by omega, ?_⟩
          show (step c.session (.stroke g)).controller.statusLabel = _
          rw [hstep]
  | completion => trivial
  | resetGesturePassword => trivial
  | present => trivial

end

/-- In every run that lets the completion block of a dismissal run before the next stroke, the
counter stays between one and five, and texts and alerts follow the history of strokes. -/
theorem errorCount_counts_tries (gesturesPassword : Option String) (es : List Event)
    (hready : Guarded countedStep Ready (countedSession gesturesPassword) es) :
    Always countedStep CountInRange (countedSession gesturesPassword) es ∧
      Guarded countedStep (CountsTries gesturesPassword) (countedSession gesturesPassword) es := by
  have hinit := countInv_countedSession gesturesPassword
  constructor
  · exact (hready.always (fun _ _ h => countInv_step h) hinit).mono fun _ h => h.range
  · exact hready.imp (fun _ _ h => countInv_step h) (fun _ _ h => h.countsTries) hinit

/-- Two wrong strokes and the right one, then five wrong ones on the next lock screen. -/
def wrongRightWrong : List Event :=
  [.stroke "3210", .stroke "012", .stroke "0124", .completion, .present, .stroke "3210",
    .stroke "3210", .stroke "3210", .stroke "3210", .stroke "3210"]

theorem errorCount_counts_tries_wrongRightWrong :
    Guarded countedStep Ready (countedSession (some "0124")) wrongRightWrong ∧
      Always countedStep CountInRange (countedSession (some "0124")) wrongRightWrong ∧
      Guarded countedStep (CountsTries (some "0124")) (countedSession (some "0124"))
        wrongRightWrong := by
  have hready : Guarded countedStep Ready (countedSession (some "0124")) wrongRightWrong := by
    simp only [Guarded, wrongRightWrong]
    exact ⟨rfl, rfl, rfl, trivial, trivial, rfl, rfl, rfl, rfl, rfl, trivial⟩
  exact ⟨hready, errorCount_counts_tries (some "0124") wrongRightWrong hready⟩

/-- The last of them raises the alert. -/
example : outcome (run countedStep (countedSession (some "0124")) wrongRightWrong.dropLast).session
    "3210" = .alert "手势密码已失效" "请重新登陆" := by decide

end PasswordPackage.GesturesUnlock
