import Mathlib.Algebra.Group.Int.Defs
import Mathlib.Data.Nat.Find
import Mathlib.Order.Bounds.Basic
import Mathlib.Tactic.SplitIfs

/-!
# How long ago the last backup was

The settings table shows the time of the last upload and of the last download as
`timeDescriptionWithTimeStamp:` words it. The wording stands for the largest of seven marks that has
passed, but six of the marks themselves fall between the tests.
-/

namespace PasswordPackage.SettingViewController

/-! ## The description -/

/-- An `NSDateFormatter` set to `MM-dd HH:mm:ss`, in the time zone of the device. The format has
colons of its own. -/
structure DateFormatter where
  stringFromDate : ℤ → String
  colon : ∀ timestamp, ':' ∈ (stringFromDate timestamp).toList

/-- `timeDescriptionWithTimeStamp:`. -/
def timeDescriptionWithTimeStamp (dateFormatter : DateFormatter)
    (currentTimeStamp timestamp : ℤ) : String :=
  let duration := currentTimeStamp - timestamp
  if duration < 60 then "刚刚"
  else if duration > 60 ∧ duration < 120 then "1分钟以前"
  else if duration > 120 ∧ duration < 300 then "2分钟以前"
  else if duration > 300 ∧ duration < 600 then "5分钟以前"
  else if duration > 600 ∧ duration < 60 * 30 then "10分钟以前"
  else if duration > 60 * 30 ∧ duration < 60 * 60 then "30分钟以前"
  else if duration > 60 * 60 ∧ duration < 60 * 60 * 2 then "1小时前"
  else if currentTimeStamp = duration then "从未"
  else dateFormatter.stringFromDate timestamp

/-! ## What it says -/

/-- The relative descriptions, with the age in minutes that each of them names. -/
def relativeTexts : List (String × ℕ) :=
  [("刚刚", 0), ("1分钟以前", 1), ("2分钟以前", 2), ("5分钟以前", 5), ("10分钟以前", 10),
    ("30分钟以前", 30), ("1小时前", 60)]

/-- The age a text names, if it is a relative description. -/
def describedAge (text : String) : Option ℕ := relativeTexts.lookup text

/-- The ages that can be named. -/
def marks : List ℕ := relativeTexts.map Prod.snd

/-- The marks a duration in seconds has passed. -/
def Passed (duration : ℤ) : Set ℕ := {mark | mark ∈ marks ∧ 60 * (mark : ℤ) ≤ duration}

/-- The duration is a mark, but not zero. -/
def OnMark (duration : ℤ) : Prop := duration ≠ 0 ∧ ∃ mark ∈ marks, duration = 60 * (mark : ℤ)

theorem forall_mem_marks {P : ℕ → Prop} :
    (∀ mark ∈ marks, P mark) ↔ P 0 ∧ P 1 ∧ P 2 ∧ P 5 ∧ P 10 ∧ P 30 ∧ P 60 := by
  simp [marks, relativeTexts]

theorem onMark_iff {duration : ℤ} :
    OnMark duration ↔ duration = 60 ∨ duration = 120 ∨ duration = 300 ∨ duration = 600 ∨
      duration = 1800 ∨ duration = 3600 := by
  have hmarks : (∃ mark ∈ marks, duration = 60 * (mark : ℤ)) ↔ duration = 0 ∨ duration = 60 ∨
      duration = 120 ∨ duration = 300 ∨ duration = 600 ∨ duration = 1800 ∨ duration = 3600 := by
    simp [marks, relativeTexts]
  rw [OnMark, hmarks]
  omega

theorem passed_mono {duration duration' : ℤ} (h : duration ≤ duration') :
    Passed duration ⊆ Passed duration' :=
  fun _ hpassed => ⟨hpassed.1, hpassed.2.trans h⟩

theorem isGreatest_passed {duration : ℤ} {mark : ℕ} (hmark : mark ∈ marks)
    (hpassed : 60 * (mark : ℤ) ≤ duration)
    (hnext : ∀ next ∈ marks, mark < next → duration < 60 * (next : ℤ)) :
    IsGreatest (Passed duration) mark := by
  refine ⟨⟨hmark, hpassed⟩, fun mark' h => ?_⟩
  by_contra hlt
  have hlater := hnext mark' h.1 (by omega)
  have hmark' := h.2
  omega

theorem exists_isGreatest_passed {duration : ℤ} (hpast : 0 ≤ duration) :
    ∃ mark, IsGreatest (Passed duration) mark := by
  have hle : ∀ mark ∈ marks, mark ≤ 60 := by decide
  have hzero : 0 ∈ marks ∧ 60 * ((0 : ℕ) : ℤ) ≤ duration := ⟨by decide, by omega⟩
  let P := fun mark : ℕ => mark ∈ marks ∧ 60 * (mark : ℤ) ≤ duration
  refine ⟨Nat.findGreatest P 60, Nat.findGreatest_spec (Nat.zero_le 60) hzero, ?_⟩
  intro mark hmark
  exact Nat.le_findGreatest (hle mark hmark.1) hmark

/-- A date is not a relative description. -/
theorem describedAge_stringFromDate (dateFormatter : DateFormatter) (timestamp : ℤ) :
    describedAge (dateFormatter.stringFromDate timestamp) = none := by
  have hcolon : ∀ entry ∈ relativeTexts, ':' ∉ entry.1.toList := by decide
  apply List.lookup_eq_none_iff.mpr
  intro entry hentry
  rw [bne_iff_ne]
  intro heq
  exact hcolon entry hentry (heq ▸ dateFormatter.colon timestamp)

/-- A test that holds names its mark: the duration lies strictly between it and the next one. -/
theorem describedAge_between {text : String} {duration : ℤ} {age : ℕ} (mark : ℕ)
    (htext : describedAge text = some mark) (hmark : mark ∈ marks) (hpast : 0 ≤ duration)
    (hpassed : mark ≠ 0 → 60 * (mark : ℤ) < duration)
    (hnext : ∀ next ∈ marks, mark < next → duration < 60 * (next : ℤ)) :
    describedAge text = some age ↔
      ¬ OnMark duration ∧ IsGreatest (Passed duration) age := by
  have hgreatest : IsGreatest (Passed duration) mark := isGreatest_passed hmark (by omega) hnext
  have hoff : ¬ OnMark duration := by
    rintro ⟨hne, mark', hmark', heq⟩
    have hle : mark' ≤ mark := hgreatest.2 ⟨hmark', heq.ge⟩
    omega
  rw [htext]
  constructor
  · intro h
    exact ⟨hoff, Option.some.inj h ▸ hgreatest⟩
  · intro h
    exact congrArg some (hgreatest.unique h.2)

/-- On the marks themselves no test holds. -/
theorem describedAge_onMark {text : String} {duration : ℤ} {age : ℕ}
    (htext : describedAge text = none) (hmark : OnMark duration) :
    describedAge text = some age ↔
      ¬ OnMark duration ∧ IsGreatest (Passed duration) age := by
  rw [htext]
  exact ⟨nofun, fun h => absurd hmark h.1⟩

/-- In the first two hours the description names the largest mark that has passed, off the marks. -/
theorem describedAge_eq_some_iff (dateFormatter : DateFormatter) {currentTimeStamp timestamp : ℤ}
    {age : ℕ} (hpast : timestamp ≤ currentTimeStamp)
    (hrange : currentTimeStamp - timestamp < 7200) :
    describedAge (timeDescriptionWithTimeStamp dateFormatter currentTimeStamp timestamp) =
        some age ↔
      ¬ OnMark (currentTimeStamp - timestamp) ∧
        IsGreatest (Passed (currentTimeStamp - timestamp)) age := by
  unfold timeDescriptionWithTimeStamp
  dsimp only
  generalize hduration : currentTimeStamp - timestamp = duration at *
  have hpast' : 0 ≤ duration := by omega
  -- between two marks the text names the mark that was passed last
  split
  · exact describedAge_between 0 rfl (by decide) hpast' (by omega)
      (forall_mem_marks.mpr (by omega))
  split
  · exact describedAge_between 1 rfl (by decide) hpast' (by omega)
      (forall_mem_marks.mpr (by omega))
  split
  · exact describedAge_between 2 rfl (by decide) hpast' (by omega)
      (forall_mem_marks.mpr (by omega))
  split
  · exact describedAge_between 5 rfl (by decide) hpast' (by omega)
      (forall_mem_marks.mpr (by omega))
  split
  · exact describedAge_between 10 rfl (by decide) hpast' (by omega)
      (forall_mem_marks.mpr (by omega))
  split
  · exact describedAge_between 30 rfl (by decide) hpast' (by omega)
      (forall_mem_marks.mpr (by omega))
  split
  · exact describedAge_between 60 rfl (by decide) hpast' (by omega)
      (forall_mem_marks.mpr (by omega))
  split
  · -- on a mark neither comparison holds
    exact describedAge_onMark rfl (onMark_iff.mpr (by omega))
  · exact describedAge_onMark (describedAge_stringFromDate dateFormatter timestamp)
      (onMark_iff.mpr (by omega))

/-! ## A device in Greenwich -/

/-- Two digits. -/
def twoDigits (n : ℤ) : String := toString (n / 10) ++ toString (n % 10)

/-- The month and the day of a day number, counted from the first of January 1970. -/
def monthDay (days : ℤ) : ℤ × ℤ :=
  -- the year starts in March, so that the leap day comes last
  let days := days + 719468
  let dayOfEra := days % 146097
  let yearOfEra := (dayOfEra - dayOfEra / 1460 + dayOfEra / 36524 - dayOfEra / 146096) / 365
  let dayOfYear := dayOfEra - (365 * yearOfEra + yearOfEra / 4 - yearOfEra / 100)
  let month := (5 * dayOfYear + 2) / 153
  (if month < 10 then month + 3 else month - 9, dayOfYear - (153 * month + 2) / 5 + 1)

/-- The formatter of a device that is set to Greenwich time. -/
def greenwich : DateFormatter where
  stringFromDate timestamp :=
    let (month, day) := monthDay (timestamp / 86400)
    let second := timestamp % 86400
    twoDigits month ++ "-" ++ twoDigits day ++ " " ++ twoDigits (second / 3600) ++ ":" ++
      twoDigits (second / 60 % 60) ++ ":" ++ twoDigits (second % 60)
  colon timestamp := by simp [String.toList_append]

example : timeDescriptionWithTimeStamp greenwich 1709300000 1709200000 = "02-29 09:46:40" := by
  decide

/-! ## Older and newer -/

/-- Both descriptions are relative, and the older one is not the more recent of the two. -/
def DescribesInOrder (dateFormatter : DateFormatter) (currentTimeStamp older newer : ℤ) : Prop :=
  ∃ olderAge newerAge,
    describedAge (timeDescriptionWithTimeStamp dateFormatter currentTimeStamp older) =
        some olderAge ∧
      describedAge (timeDescriptionWithTimeStamp dateFormatter currentTimeStamp newer) =
        some newerAge ∧
      newerAge ≤ olderAge

/-- In the first two hours that is so exactly when neither timestamp lies on a mark. -/
theorem describesInOrder_iff (dateFormatter : DateFormatter) {currentTimeStamp older newer : ℤ}
    (hpast : newer ≤ currentTimeStamp) (hrange : currentTimeStamp - older < 7200)
    (hle : older ≤ newer) :
    DescribesInOrder dateFormatter currentTimeStamp older newer ↔
      ¬ OnMark (currentTimeStamp - older) ∧ ¬ OnMark (currentTimeStamp - newer) := by
  have hpast' : older ≤ currentTimeStamp := hle.trans hpast
  have hrange' : currentTimeStamp - newer < 7200 := by omega
  unfold DescribesInOrder
  simp only [describedAge_eq_some_iff dateFormatter hpast hrange',
    describedAge_eq_some_iff dateFormatter hpast' hrange]
  constructor
  · rintro ⟨olderAge, newerAge, holder, hnewer, -⟩
    exact ⟨holder.1, hnewer.1⟩
  · rintro ⟨holder, hnewer⟩
    obtain ⟨olderAge, holderAge⟩ := exists_isGreatest_passed (Int.sub_nonneg.mpr hpast')
    obtain ⟨newerAge, hnewerAge⟩ := exists_isGreatest_passed (Int.sub_nonneg.mpr hpast)
    have hmono : Passed (currentTimeStamp - newer) ⊆ Passed (currentTimeStamp - older) :=
      passed_mono (by omega)
    exact ⟨olderAge, newerAge, ⟨holder, holderAge⟩, ⟨hnewer, hnewerAge⟩,
      hnewerAge.mono holderAge hmono⟩

theorem describesInOrder_two_hours :
    DescribesInOrder greenwich 1709207199 1709200000 1709207199 ↔
      ¬ OnMark (1709207199 - 1709200000) ∧ ¬ OnMark (1709207199 - 1709207199) :=
  describesInOrder_iff greenwich (by decide) (by decide) (by decide)

/-- A minute after an upload the table shows the date of it. -/
theorem not_describesInOrder_one_minute :
    (0 : ℤ) ≤ 1709200060 - 1709200000 ∧ (1709200060 - 1709200000 : ℤ) < 7200 ∧
      timeDescriptionWithTimeStamp greenwich 1709200060 1709200000 = "02-29 09:46:40" ∧
      ¬ DescribesInOrder greenwich 1709200060 1709200000 1709200000 := by
  have hdate : timeDescriptionWithTimeStamp greenwich 1709200060 1709200000 =
      "02-29 09:46:40" := by decide
  refine ⟨by decide, by decide, hdate, ?_⟩
  rintro ⟨olderAge, newerAge, holder, -⟩
  have hnone : describedAge "02-29 09:46:40" = none := by decide
  rw [hdate, hnone] at holder
  cases holder

end PasswordPackage.SettingViewController
