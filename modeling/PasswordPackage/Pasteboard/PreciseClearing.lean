import Mathlib.Algebra.Group.Int.Defs
import PasswordPackage.Common.Run
import PasswordPackage.Pasteboard.ClearPasteboard

/-!
# Precise clearing

If every copy were followed by `clearPasteboardWithTargetString:`, a block would clear the
pasteboard whenever it finds its string there. It does not know of later copies of the same string,
and `never` is only a large number of seconds.
-/

namespace PasswordPackage.Clearing

open Machine Pasteboard

/-! ## Schedules -/

/-- The world, and the strings that the app has copied, with their times, the latest first. -/
structure History where
  world : World
  copies : List (String × ℤ)
deriving DecidableEq

inductive Event where
  | copy (secret : String)
  | foreign (string : Option String)
  | fire (i : ℕ)
  | wait (nanoseconds : ℕ)
deriving DecidableEq

/-- A copy is followed by a call of the utility at once. -/
def copy (h : History) (secret : String) : History where
  world := clearPasteboardWithTargetString (some secret) (h.world.setString (some secret))
  copies := (secret, h.world.now) :: h.copies

def step (h : History) : Event → History
  | .copy secret => copy h secret
  | .foreign string => { h with world := h.world.foreign string }
  | .fire i => { h with world := h.world.fire i }
  | .wait nanoseconds => { h with world := h.world.wait nanoseconds }

/-- The app is launched. -/
def launch (file : AppConfig.File) (now : ℤ) (string : Option String) : History where
  world := { file := file, now := now, string := string, copiedAt := none, tasks := [] }
  copies := []

/-- The time of the latest copy of a string. -/
def History.lastCopy (h : History) (secret : String) : Option ℤ :=
  (h.copies.find? fun copy => copy.1 = secret).map Prod.snd

/-- The configured duration in nanoseconds. -/
def delay (w : World) : ℤ :=
  w.clearPasteboardDuration * nsecPerSec

/-! ## Erasing -/

/-- The block runs, and finds its string. -/
def Erases (w : World) (task : ClearTask) : Prop :=
  task.due ≤ w.now ∧ isEqualToString w.string task.targetString = true

/-- A block of the queue erases its string, finds another one and leaves, or does not run yet. -/
theorem fire_cases (w : World) (i : ℕ) :
    (∃ task, w.tasks[i]? = some task ∧ Erases w task ∧
      w.fire i = { w with tasks := w.tasks.eraseIdx i, string := some "", copiedAt := none }) ∨
    (∃ task, w.tasks[i]? = some task ∧ task.due ≤ w.now ∧ ¬ Erases w task ∧
      w.fire i = { w with tasks := w.tasks.eraseIdx i }) ∨
    w.fire i = w := by
  cases hi : w.tasks[i]? with
  | none =>
      refine Or.inr (Or.inr ?_)
      simp only [World.fire, hi]
  | some task =>
      by_cases hdue : task.due ≤ w.now
      · have hfire : w.fire i = task.run { w with tasks := w.tasks.eraseIdx i } := by
          simp only [World.fire, hi, if_pos hdue]
        by_cases hequal : isEqualToString w.string task.targetString = true
        · exact Or.inl ⟨task, rfl, ⟨hdue, hequal⟩, hfire.trans (if_pos hequal)⟩
        · refine Or.inr (Or.inl ⟨task, rfl, hdue, fun h => hequal h.2, ?_⟩)
          exact hfire.trans (if_neg hequal)
      · refine Or.inr (Or.inr ?_)
        simp only [World.fire, hi, if_neg hdue]

/-- A step erases the pasteboard only when clearing is not set to never, the pasteboard holds a
string that was copied, and the duration has passed since its latest copy. -/
def Precise (h : History) : Event → Prop
  | .fire i =>
      ∀ task, h.world.tasks[i]? = some task → Erases h.world task →
        h.world.clearPasteboardDuration ≠ neverToDoTag ∧
          ∃ secret copiedAt, h.world.string = some secret ∧ h.lastCopy secret = some copiedAt ∧
            copiedAt + delay h.world ≤ h.world.now
  | _ => True

/-- A block that finds its string runs only when clearing is not set to never, and no block for the
same string waits that is not due. -/
def NoneWaits (h : History) : Event → Prop
  | .fire i =>
      ∀ task, h.world.tasks[i]? = some task → Erases h.world task →
        h.world.clearPasteboardDuration ≠ neverToDoTag ∧
          ∀ task' ∈ h.world.tasks, task'.targetString = task.targetString →
            task'.due ≤ h.world.now
  | _ => True

/-! ## Copies and blocks -/

/-- The waiting blocks belong to copies, and the blocks of young copies wait. -/
structure Inv (h : History) : Prop where
  fits : (delay h.world).bmod (2 ^ 64) = delay h.world
  past : ∀ copy ∈ h.copies, copy.2 ≤ h.world.now
  ordered : h.copies.Pairwise fun later earlier => earlier.2 ≤ later.2
  waits : ∀ copy ∈ h.copies, h.world.now < copy.2 + delay h.world →
    ⟨some copy.1, copy.2 + delay h.world⟩ ∈ h.world.tasks
  origin : ∀ task ∈ h.world.tasks, ∃ copy ∈ h.copies,
    task = ⟨some copy.1, copy.2 + delay h.world⟩

variable {h : History}

/-- A copy adds a block, unless the string is not to be cleared at all. -/
theorem Inv.world_copy (hinv : Inv h) (secret : String) :
    (Clearing.copy h secret).world =
      { h.world.setString (some secret) with
        tasks := h.world.tasks ++
          if h.world.clearPasteboardDuration = 0 then []
          else [⟨some secret, h.world.now + delay h.world⟩] } := by
  have hduration : (h.world.setString (some secret)).clearPasteboardDuration =
      h.world.clearPasteboardDuration := rfl
  have hfits := hinv.fits
  rw [Clearing.copy, clearPasteboardWithTargetString, hduration]
  by_cases hzero : h.world.clearPasteboardDuration = 0
  · rw [if_pos hzero, if_pos hzero, List.append_nil]
    rfl
  · unfold delay at hfits ⊢
    rw [if_neg hzero, if_neg hzero, hfits]
    rfl

theorem Inv.copy (hinv : Inv h) (secret : String) : Inv (copy h secret) := by
  have hpast : ∀ copy ∈ (Clearing.copy h secret).copies, copy.2 ≤ h.world.now := by
    intro copy hcopy
    rcases List.mem_cons.mp hcopy with rfl | hold
    · exact Int.le_refl _
    · exact hinv.past copy hold
  have hworld := hinv.world_copy secret
  refine ⟨?_, ?_, List.pairwise_cons.mpr ⟨hinv.past, hinv.ordered⟩, ?_, ?_⟩
  · rw [hworld]
    exact hinv.fits
  · rw [hworld]
    exact hpast
  · rw [hworld]
    intro copy hcopy hlt
    rcases List.mem_cons.mp hcopy with rfl | hold
    · have hzero : h.world.clearPasteboardDuration ≠ 0 := by
        intro hzero
        -- without a delay no copy is young
        have hlt' : h.world.now < h.world.now + delay h.world := hlt
        rw [delay, hzero, Int.zero_mul, Int.add_zero] at hlt'
        exact absurd hlt' (Int.lt_irrefl _)
      rw [if_neg hzero]
      exact List.mem_append_right _ (List.mem_singleton.mpr rfl)
    · exact List.mem_append_left _ (hinv.waits copy hold hlt)
  · rw [hworld]
    intro task htask
    rcases List.mem_append.mp htask with hold | hnew
    · obtain ⟨copy, hcopy, heq⟩ := hinv.origin task hold
      exact ⟨copy, List.mem_cons_of_mem _ hcopy, heq⟩
    · split_ifs at hnew with hzero
      · exact absurd hnew List.not_mem_nil
      · exact ⟨(secret, h.world.now), List.mem_cons_self, List.mem_singleton.mp hnew⟩

/-- A run block was due, and leaves the queue. -/
theorem tasks_fire (w : World) (i : ℕ) :
    (w.fire i).tasks = w.tasks ∨
      ∃ task, w.tasks[i]? = some task ∧ task.due ≤ w.now ∧
        (w.fire i).tasks = w.tasks.eraseIdx i := by
  rcases fire_cases w i with ⟨task, hi, herases, heq⟩ | ⟨task, hi, hdue, -, heq⟩ | heq
  · exact Or.inr ⟨task, hi, herases.1, by rw [heq]⟩
  · exact Or.inr ⟨task, hi, hdue, by rw [heq]⟩
  · exact Or.inl (by rw [heq])

theorem file_fire (w : World) (i : ℕ) : (w.fire i).file = w.file := by
  rcases fire_cases w i with ⟨_, -, -, heq⟩ | ⟨_, -, -, -, heq⟩ | heq <;> rw [heq]

theorem now_fire (w : World) (i : ℕ) : (w.fire i).now = w.now := by
  rcases fire_cases w i with ⟨_, -, -, heq⟩ | ⟨_, -, -, -, heq⟩ | heq <;> rw [heq]

theorem delay_fire (w : World) (i : ℕ) : delay (w.fire i) = delay w := by
  rw [delay, delay, World.clearPasteboardDuration, file_fire, World.clearPasteboardDuration]

theorem Inv.fire (hinv : Inv h) (i : ℕ) : Inv { h with world := h.world.fire i } := by
  refine ⟨?_, ?_, hinv.ordered, ?_, ?_⟩
  · rw [delay_fire]
    exact hinv.fits
  · rw [now_fire]
    exact hinv.past
  · intro copy hcopy hlt
    rw [now_fire, delay_fire] at hlt
    rw [delay_fire]
    have hwaits := hinv.waits copy hcopy hlt
    rcases tasks_fire h.world i with hsame | ⟨task, hi, hdue, herase⟩
    · rw [hsame]
      exact hwaits
    · rw [herase]
      -- the block that leaves was due, and this one is not
      obtain ⟨j, hj⟩ := List.mem_iff_getElem?.mp hwaits
      have hij : j ≠ i := by
        rintro rfl
        rw [hi] at hj
        rw [Option.some.inj hj] at hdue
        exact absurd hdue (Int.not_le.mpr hlt)
      exact List.mem_eraseIdx_iff_getElem?.mpr ⟨j, hij, hj⟩
  · rw [delay_fire]
    intro task htask
    rcases tasks_fire h.world i with hsame | ⟨_, _, _, herase⟩
    · rw [hsame] at htask
      exact hinv.origin task htask
    · rw [herase] at htask
      exact hinv.origin task (List.mem_of_mem_eraseIdx htask)

theorem Inv.wait (hinv : Inv h) (nanoseconds : ℕ) :
    Inv { h with world := h.world.wait nanoseconds } := by
  have hnow : h.world.now ≤ (h.world.wait nanoseconds).now :=
    Int.le_add_of_nonneg_right (Int.natCast_nonneg nanoseconds)
  refine ⟨hinv.fits, ?_, hinv.ordered, ?_, hinv.origin⟩
  · intro copy hcopy
    exact Int.le_trans (hinv.past copy hcopy) hnow
  · intro copy hcopy hlt
    exact hinv.waits copy hcopy (Int.lt_of_le_of_lt hnow hlt)

theorem Inv.foreign (hinv : Inv h) (string : Option String) :
    Inv { h with world := h.world.foreign string } :=
  ⟨hinv.fits, hinv.past, hinv.ordered, hinv.waits, hinv.origin⟩

theorem Inv.step (hinv : Inv h) (e : Event) : Inv (step h e) := by
  rcases e with secret | string | i | nanoseconds
  · exact hinv.copy secret
  · exact hinv.foreign string
  · exact hinv.fire i
  · exact hinv.wait nanoseconds

theorem Inv.launch {file : AppConfig.File} (now : ℤ) (string : Option String)
    (hmin : -2 ^ 31 ≤ (AppConfig.config file).clearPasteboardDuration)
    (hmax : (AppConfig.config file).clearPasteboardDuration < 2 ^ 31) :
    Inv (launch file now string) := by
  refine ⟨?_, ?_, List.Pairwise.nil, ?_, ?_⟩
  · have hdelay : delay (Clearing.launch file now string).world =
        (AppConfig.config file).clearPasteboardDuration * 1000000000 := rfl
    rw [hdelay]
    apply Int.bmod_eq_of_le
    · omega
    · omega
  · exact fun _ hcopy => absurd hcopy List.not_mem_nil
  · exact fun _ hcopy => absurd hcopy List.not_mem_nil
  · exact fun _ htask => absurd htask List.not_mem_nil

/-- The latest copy of a string comes first. -/
theorem Inv.lastCopy (hinv : Inv h) {secret : String} {t : ℤ} (hcopy : (secret, t) ∈ h.copies) :
    ∃ latest, h.lastCopy secret = some latest ∧ t ≤ latest ∧ (secret, latest) ∈ h.copies := by
  have hordered := hinv.ordered
  unfold History.lastCopy
  revert hcopy hordered
  generalize h.copies = copies
  intro hcopy hordered
  induction copies with
  | nil => exact absurd hcopy List.not_mem_nil
  | cons first rest ih =>
      obtain ⟨hfirst, hrest⟩ := List.pairwise_cons.mp hordered
      -- copies are listed from the latest on
      by_cases hsecret : first.1 = secret
      · refine ⟨first.2, ?_, ?_, ?_⟩
        · rw [List.find?_cons_of_pos (by simpa using hsecret)]
          rfl
        · rcases List.mem_cons.mp hcopy with rfl | hold
          · exact Int.le_refl _
          · exact hfirst _ hold
        · rw [← hsecret]
          exact List.mem_cons_self
      · have hold : (secret, t) ∈ rest := by
          rcases List.mem_cons.mp hcopy with rfl | hold
          · exact absurd rfl hsecret
          · exact hold
        obtain ⟨latest, hlatest, hle, hmem⟩ := ih hold hrest
        refine ⟨latest, ?_, hle, List.mem_cons_of_mem _ hmem⟩
        rw [List.find?_cons_of_neg (by simpa using hsecret)]
        exact hlatest

/-! ## Precision -/

theorem isEqualToString_iff {current target : Option String} :
    isEqualToString current target = true ↔ ∃ s, current = some s ∧ target = some s := by
  rcases current with _ | current
  · simp [isEqualToString]
  · rcases target with _ | target
    · simp [isEqualToString]
    · simp only [isEqualToString, beq_iff_eq, Option.some.injEq, exists_eq_left']
      exact eq_comm

/-- Young copies have waiting blocks, so the clock need not be compared with the copies. -/
theorem Inv.precise_iff (hinv : Inv h) (e : Event) : Precise h e ↔ NoneWaits h e := by
  rcases e with secret | string | i | nanoseconds
  · exact Iff.rfl
  · exact Iff.rfl
  · refine forall_congr' fun task => forall_congr' fun hi => forall_congr' fun herases => ?_
    apply and_congr_right
    intro _
    constructor
    · -- every block belongs to a copy, the latest of which is old enough
      rintro ⟨secret, copiedAt, hstring, hlast, hpassed⟩ task' htask' htarget
      obtain ⟨copy, hcopy, rfl⟩ := hinv.origin task' htask'
      obtain ⟨s, hs, hs'⟩ := isEqualToString_iff.mp herases.2
      have hsecret : copy.1 = secret := by
        apply Option.some.inj
        rw [← hstring, hs, ← hs', ← htarget]
      obtain ⟨latest, hlatest, hle, -⟩ := hinv.lastCopy hcopy
      rw [hsecret, hlast] at hlatest
      rw [← Option.some.inj hlatest] at hle
      exact Int.le_trans (Int.add_le_add_right hle _) hpassed
    · -- a young copy would have a block that waits
      intro hnone
      obtain ⟨copy, hcopy, rfl⟩ := hinv.origin task (List.mem_of_getElem? hi)
      obtain ⟨s, hs, hs'⟩ := isEqualToString_iff.mp herases.2
      have hsecret : s = copy.1 := (Option.some.inj hs').symm
      obtain ⟨latest, hlatest, -, hmem⟩ := hinv.lastCopy hcopy
      refine ⟨copy.1, latest, by rw [hs, hsecret], hlatest, ?_⟩
      apply Int.not_lt.mp
      intro hyoung
      have hwaits := hinv.waits _ hmem hyoung
      exact absurd (hnone _ hwaits rfl) (Int.not_le.mpr hyoung)
  · exact Iff.rfl

/-- The settings save durations of 32 bits. In every schedule clearing is precise exactly when a
block that finds its string runs only while no other one for the same string waits to become due,
and never under `never`. -/
theorem guarded_precise_iff (file : AppConfig.File) (now : ℤ) (string : Option String)
    (hmin : -2 ^ 31 ≤ (AppConfig.config file).clearPasteboardDuration)
    (hmax : (AppConfig.config file).clearPasteboardDuration < 2 ^ 31) (es : List Event) :
    Guarded step Precise (launch file now string) es ↔
      Guarded step NoneWaits (launch file now string) es :=
  guarded_congr (fun _ e hinv _ => Inv.step hinv e) (fun _ e hinv => Inv.precise_iff hinv e)
    (Inv.launch now string hmin hmax)

/-- A copy that is cleared after the default of 300 seconds. -/
theorem guarded_precise_single :
    Guarded step Precise (launch none 0 none)
      [.copy "secret", .wait 300000000000, .fire 0] := by
  apply (guarded_precise_iff none 0 none (by decide) (by decide) _).mpr
  refine ⟨trivial, trivial, ?_, trivial⟩
  intro task hi _
  obtain rfl : (⟨some "secret", 300000000000⟩ : ClearTask) = task := Option.some.inj hi
  exact ⟨by decide, by decide⟩

/-- The configuration after the choice of `never`. -/
def neverFile : AppConfig.File :=
  AppConfig.saveConfig { AppConfig.init with clearPasteboardDuration := neverToDoTag }

/-- A second copy is cleared with the first one, and `never` clears after 999999 seconds. -/
theorem not_guarded_precise_recopied :
    ¬ Guarded step Precise (launch none 0 none)
        [.copy "secret", .wait 200000000000, .copy "secret", .wait 100000000000, .fire 0] ∧
      ¬ Guarded step Precise (launch neverFile 0 none)
        [.copy "secret", .wait 999999000000000, .fire 0] := by
  constructor
  · rintro ⟨-, -, -, -, hfire, -⟩
    obtain ⟨-, secret, copiedAt, hstring, hlast, hpassed⟩ :=
      hfire ⟨some "secret", 300000000000⟩ rfl ⟨by decide, by decide⟩
    obtain rfl : "secret" = secret := Option.some.inj hstring
    obtain rfl : (200000000000 : ℤ) = copiedAt := Option.some.inj hlast
    exact absurd hpassed (by decide)
  · rintro ⟨-, -, hfire, -⟩
    obtain ⟨hnever, -⟩ := hfire ⟨some "secret", 999999000000000⟩ rfl ⟨by decide, by decide⟩
    exact hnever (by decide)

end PasswordPackage.Clearing
