import Mathlib.Data.Bool.AllAny
import Mathlib.Tactic.IntervalCases
import PasswordPackage.BankCard.InputCart
import PasswordPackage.Common.Chunks
import PasswordPackage.Common.Run

/-!
# The grouping fields

The account field groups its digits by four between spaces, the expiry field by two between slashes.
Every edit strips the separators, closes each full group with one and trims the end, so that a text
is always the grouping of what was typed. The character set of both fields contains the backspace
character next to the digits.
-/

namespace PasswordPackage.InputCart

open Machine Chunks

/-! ## Canonical texts -/

/-- The digits in groups of `size`, of which only the last may be shorter, between single
separators. -/
def IsGrouping (separator : Char) (size : ℕ) (digits text : List Char) : Prop :=
  ∃ groups : List (List Char), groups.flatten = digits ∧ text = [separator].intercalate groups ∧
    (∀ group ∈ groups, group ≠ [] ∧ group.length ≤ size) ∧
    ∀ group ∈ groups.dropLast, group.length = size

/-- A grouping of at most `max` characters, all of which are `ok`. -/
def Canonical (separator : Char) (size max : ℕ) (ok : Char → Prop) (text : List Char) : Prop :=
  ∃ digits, IsGrouping separator size digits text ∧ (∀ c ∈ digits, ok c) ∧ digits.length ≤ max

/-- A grouping is determined by its digits. -/
theorem isGrouping_iff {separator : Char} {size : ℕ} (hsize : 0 < size) {digits text : List Char} :
    IsGrouping separator size digits text ↔ text = joined separator size digits := by
  constructor
  · rintro ⟨groups, rfl, rfl, hgroups, hfull⟩
    rw [joined, chunks_flatten hsize hgroups hfull]
  · rintro rfl
    obtain ⟨hgroups, hfull⟩ := length_of_mem_chunks hsize digits
    exact ⟨chunks size digits, flatten_chunks hsize digits, rfl, hgroups, hfull⟩

theorem Canonical.mono {separator : Char} {size max : ℕ} {ok ok' : Char → Prop} {text : List Char}
    (h : Canonical separator size max ok text) (hok : ∀ c, ok c → ok' c) :
    Canonical separator size max ok' text := by
  obtain ⟨digits, hgrouping, hdigits, hmax⟩ := h
  exact ⟨digits, hgrouping, fun c hc => hok c (hdigits c hc), hmax⟩

/-! ## The regrouping loop -/

theorem take_min_length (text : List Char) (size : ℕ) :
    text.take (min text.length size) = text.take size := by
  rw [List.take_eq_take_iff]
  omega

theorem drop_min_length (text : List Char) (size : ℕ) :
    text.drop (min text.length size) = text.drop size := by
  by_cases hle : size ≤ text.length
  · rw [min_eq_right hle]
  · rw [List.drop_eq_nil_of_le (by omega), List.drop_eq_nil_of_le (by omega)]

/-- The loop closes every full group with a separator. -/
theorem groupLoop_newString (separator : Char) {size : ℕ} (hsize : 0 < size) {turns : ℕ}
    {text : List Char} (hturns : text.length ≤ turns) (newString : List Char) :
    (groupLoop separator size turns text newString).2 =
      newString ++ closed separator size text := by
  induction turns generalizing text newString with
  | zero =>
      have hnil : text = [] := List.length_eq_zero_iff.mp (Nat.le_zero.mp hturns)
      rw [hnil, closed_nil hsize, List.append_nil]
      rfl
  | succ turns ih =>
      by_cases hnil : text = []
      · subst hnil
        rw [closed_nil hsize, List.append_nil]
        rfl
      · have hpos := List.length_pos_iff.mpr hnil
        rw [groupLoop, if_pos hpos]
        simp only [groupTurn, take_min_length, drop_min_length]
        rw [ih (by rw [List.length_drop]; omega), closed_eq_append hsize hnil]
        split_ifs <;> simp

/-! ## Trimming -/

/-- A text that begins and ends inside the set loses nothing but what follows it. -/
theorem trim_append {text rest : List Char} (hhead : ∀ c ∈ text.head?, inCharacterSet c)
    (hlast : ∀ c ∈ text.getLast?, inCharacterSet c) (hrest : ∀ c ∈ rest, ¬ inCharacterSet c) :
    trim (text ++ rest) = text := by
  have hdrop : (text ++ rest).rdropWhile (fun c => !inCharacterSet c) = text := by
    induction rest using List.reverseRecOn with
    | nil =>
        rw [List.append_nil, List.rdropWhile_eq_self_iff]
        intro hne
        simpa using hlast _ (List.getLast_mem_getLast? hne)
    | append_singleton rest c ih =>
        rw [← List.append_assoc, List.rdropWhile_concat_pos]
        · exact ih fun c hc => hrest c (List.mem_append_left _ hc)
        · simpa using hrest c (by simp)
  rcases text with _ | ⟨c, text⟩
  · have hnil : rest.dropWhile (fun c => !inCharacterSet c) = [] :=
      List.dropWhile_eq_nil_iff.mpr fun c hc => by simpa using hrest c hc
    rw [trim, List.nil_append, hnil]
    rfl
  · have hc : inCharacterSet c := hhead c rfl
    rw [trim, List.cons_append, List.dropWhile_cons_of_neg (by simpa using hc)]
    exact hdrop

/-- Trimming leaves the grouping. -/
theorem trim_closed {separator : Char} {size : ℕ} (hsize : 0 < size)
    (hseparator : ¬ inCharacterSet separator) {digits : List Char}
    (hdigits : ∀ c ∈ digits, inCharacterSet c) :
    trim (closed separator size digits) = joined separator size digits := by
  have hhead : ∀ c ∈ (joined separator size digits).head?, inCharacterSet c := by
    rw [head?_joined hsize]
    exact fun c hc => hdigits c (List.mem_of_mem_head? hc)
  have hlast : ∀ c ∈ (joined separator size digits).getLast?, inCharacterSet c := by
    rw [getLast?_joined hsize]
    exact fun c hc => hdigits c (List.mem_of_mem_getLast? hc)
  have hcases : closed separator size digits = joined separator size digits ∨
      closed separator size digits = joined separator size digits ++ [separator] :=
    closed_eq hsize digits
  rcases hcases with hclosed | hclosed
  · have htrim : trim (joined separator size digits ++ []) = joined separator size digits :=
      trim_append hhead hlast fun c hc => absurd hc List.not_mem_nil
    rw [List.append_nil] at htrim
    rw [hclosed, htrim]
  · rw [hclosed]
    exact trim_append hhead hlast (by simpa using hseparator)

/-! ## One edit -/

/-- The characters of an edited text that are not separators. -/
def editedDigits (separator : Char) (text : List Char) (range : NSRange) (string : List Char) :
    List Char :=
  (text.take range.location).filter (· ≠ separator) ++ string.filter (· ≠ separator) ++
    (text.drop (range.location + range.length)).filter (· ≠ separator)

theorem mem_of_mem_editedDigits {separator : Char} {text : List Char} {range : NSRange}
    {string : List Char} {c : Char} (hc : c ∈ editedDigits separator text range string) :
    c ≠ separator ∧ (c ∈ text ∨ c ∈ string) := by
  simp only [editedDigits, List.mem_append, List.mem_filter, decide_eq_true_iff] at hc
  rcases hc with (⟨hbefore, hne⟩ | ⟨hstring, hne⟩) | ⟨hafter, hne⟩
  · exact ⟨hne, Or.inl (List.mem_of_mem_take hbefore)⟩
  · exact ⟨hne, Or.inr hstring⟩
  · exact ⟨hne, Or.inl (List.mem_of_mem_drop hafter)⟩

/-- An edit outside the set, or with too many characters, is ignored. Any other one gives the
grouping of the edited characters. -/
theorem regroup_eq {separator : Char} {size : ℕ} (hsize : 0 < size)
    (hseparator : ¬ inCharacterSet separator) (limit : ℕ) {text : List Char}
    (htext : ∀ c ∈ text, c = separator ∨ inCharacterSet c) (range : NSRange) (string : List Char) :
    regroup separator size limit text range string =
      if (string.filter (· ≠ separator)).all inCharacterSet then
        if (editedDigits separator text range string).length < limit then
          joined separator size (editedDigits separator text range string)
        else text
      else text := by
  unfold regroup
  by_cases hall : (string.filter (· ≠ separator)).all inCharacterSet = true
  · -- what the loop groups
    have hdigits : (replaceRange text range (string.filter (· ≠ separator))).filter
        (· ≠ separator) = editedDigits separator text range string := by
      simp [replaceRange, editedDigits, List.filter_filter]
    -- none of it is trimmed, and none of it is a separator
    have hmem : ∀ c ∈ editedDigits separator text range string, inCharacterSet c := by
      intro c hc
      obtain ⟨hne, htyped | hstring⟩ := mem_of_mem_editedDigits hc
      · exact (htext c htyped).resolve_left hne
      · exact List.all_eq_true.mp hall c (List.mem_filter.mpr ⟨hstring, decide_eq_true hne⟩)
    have hnot : separator ∉ editedDigits separator text range string :=
      fun h => (mem_of_mem_editedDigits h).1 rfl
    rw [if_pos hall, if_neg (by rw [hall]; decide)]
    simp only [hdigits, groupLoop_newString separator hsize (le_refl _), List.nil_append,
      trim_closed hsize hseparator hmem, filter_joined hsize hnot]
    split_ifs <;> first | rfl | omega
  · rw [if_neg hall, if_pos (by rw [Bool.eq_false_of_not_eq_true hall]; decide)]

theorem Canonical.mem {separator : Char} {size max : ℕ} {ok : Char → Prop} {text : List Char}
    (hsize : 0 < size) (h : Canonical separator size max ok text) {c : Char} (hc : c ∈ text) :
    c = separator ∨ ok c := by
  obtain ⟨digits, hgrouping, hdigits, -⟩ := h
  rw [(isGrouping_iff hsize).mp hgrouping] at hc
  exact (mem_of_mem_joined hsize hc).imp_right (hdigits c)

/-- An edit keeps a text canonical, for characters that include those it types. -/
theorem Canonical.regroup {separator : Char} {size max : ℕ} {ok : Char → Prop} {text : List Char}
    (hsize : 0 < size) (hseparator : ¬ inCharacterSet separator)
    (hok : ∀ c, ok c → inCharacterSet c) (h : Canonical separator size max ok text)
    (range : NSRange) {string : List Char} (hstring : ∀ c ∈ string, inCharacterSet c → ok c) :
    Canonical separator size max ok
      (InputCart.regroup separator size (max + 1) text range string) := by
  rw [regroup_eq hsize hseparator (max + 1) fun c hc => (h.mem hsize hc).imp_right (hok c)]
  split_ifs with hall hlen
  · refine ⟨_, (isGrouping_iff hsize).mpr rfl, ?_, by omega⟩
    intro c hc
    obtain ⟨hne, htext | htyped⟩ := mem_of_mem_editedDigits hc
    · exact (h.mem hsize htext).resolve_left hne
    · have hset : inCharacterSet c :=
        List.all_eq_true.mp hall c (List.mem_filter.mpr ⟨htyped, decide_eq_true hne⟩)
      exact hstring c htyped hset
  · exact h
  · exact h

/-! ## The character set -/

theorem inCharacterSet_of_isDigit {c : Char} (h : c.isDigit = true) : inCharacterSet c := by
  have hbounds : 48 ≤ c.toNat ∧ c.toNat ≤ 57 := by
    simpa [Char.isDigit, UInt32.le_iff_toNat_le] using h
  obtain ⟨hlo, hhi⟩ := hbounds
  have hself := Char.ofNat_toNat c
  generalize c.toNat = n at hlo hhi hself
  rw [← hself]
  interval_cases n <;> decide

/-- The set is the digits and the backspace character. -/
theorem inCharacterSet_iff {c : Char} :
    inCharacterSet c = true ↔ c.isDigit = true ∨ c = '\x08' := by
  constructor
  · intro h
    have hmem := List.mem_of_elem_eq_true h
    simp only [List.mem_cons, List.not_mem_nil, or_false] at hmem
    rcases hmem with rfl | rfl | rfl | rfl | rfl | rfl | rfl | rfl | rfl | rfl | rfl
    all_goals decide
  · rintro (hdigit | rfl)
    · exact inCharacterSet_of_isDigit hdigit
    · decide

/-! ## Runs of edits -/

/-- An edit of a text field. -/
structure Edit where
  field : TextField
  range : NSRange
  string : String
deriving DecidableEq

def edit (form : Form) (e : Edit) : Form :=
  changeCharacters form e.field e.range e.string

/-- Both grouping fields are canonical. -/
structure CanonicalFields (ok : TextField → Char → Prop) (form : Form) : Prop where
  account : Canonical ' ' 4 19 (ok .account) form.accountTF.toList
  expireDate : Canonical '/' 2 4 (ok .expireDate) form.expireDateTF.toList

/-- The decimal digits, and the backspace character once an edit of the field contains it. -/
def Typed (edits : List Edit) (field : TextField) (c : Char) : Prop :=
  c.isDigit = true ∨ c = '\x08' ∧ ∃ e ∈ edits, e.field = field ∧ c ∈ e.string.toList

theorem CanonicalFields.edit {ok : TextField → Char → Prop} {form : Form}
    (hok : ∀ field c, ok field c → inCharacterSet c) (h : CanonicalFields ok form) {e : Edit}
    (he : ∀ c ∈ e.string.toList, inCharacterSet c → ok e.field c) :
    CanonicalFields ok (InputCart.edit form e) := by
  obtain ⟨field, range, string⟩ := e
  unfold InputCart.edit changeCharacters
  rcases field with _ | _ | _ | _ | _
  · refine ⟨?_, h.expireDate⟩
    rw [String.toList_ofList]
    exact h.account.regroup (by decide) (by decide) (hok .account) range he
  · exact ⟨h.account, h.expireDate⟩
  · exact ⟨h.account, h.expireDate⟩
  · exact ⟨h.account, h.expireDate⟩
  · refine ⟨h.account, ?_⟩
    rw [String.toList_ofList]
    exact h.expireDate.regroup (by decide) (by decide) (hok .expireDate) range he

theorem Typed.inCharacterSet {edits : List Edit} {field : TextField} {c : Char}
    (h : Typed edits field c) : InputCart.inCharacterSet c :=
  inCharacterSet_iff.mpr (h.imp_right And.left)

theorem canonical_nil (separator : Char) (size max : ℕ) (ok : Char → Prop) :
    Canonical separator size max ok [] :=
  ⟨[], ⟨[], rfl, rfl, by simp, by simp⟩, by simp, by simp⟩

theorem canonicalFields_viewDidLoad (ok : TextField → Char → Prop) :
    CanonicalFields ok (viewDidLoad none) :=
  ⟨canonical_nil _ _ _ _, canonical_nil _ _ _ _⟩

/-- The fields stay canonical over every run of edits. -/
theorem always_canonicalFields {form : Form}
    (hform : CanonicalFields (fun _ c => c.isDigit = true) form) (es : List Edit) :
    Always edit (CanonicalFields (Typed es)) form es := by
  have hguard : Guarded edit (fun _ e => e ∈ es) form es := by
    rw [guarded_iff_split]
    rintro pre e post rfl
    simp
  have hstart : CanonicalFields (Typed es) form :=
    ⟨hform.account.mono fun _ => Or.inl, hform.expireDate.mono fun _ => Or.inl⟩
  apply hguard.always _ hstart
  intro form e h he
  apply h.edit fun _ _ => Typed.inCharacterSet
  intro c hc hset
  exact (inCharacterSet_iff.mp hset).imp_right fun hbackspace => ⟨hbackspace, e, he, rfl, hc⟩

/-- Digits are typed, pasted and deleted. -/
theorem always_canonicalFields_viewDidLoad :
    Always edit (CanonicalFields (Typed
        [⟨.account, ⟨0, 0⟩, "62220"⟩, ⟨.account, ⟨4, 2⟩, "1 1"⟩, ⟨.expireDate, ⟨0, 0⟩, "12/25"⟩]))
      (viewDidLoad none)
      [⟨.account, ⟨0, 0⟩, "62220"⟩, ⟨.account, ⟨4, 2⟩, "1 1"⟩, ⟨.expireDate, ⟨0, 0⟩, "12/25"⟩] :=
  always_canonicalFields (canonicalFields_viewDidLoad _) _

/-- A backspace character that is pasted stays in the account. -/
theorem not_always_digits_backspace :
    CanonicalFields (fun _ c => c.isDigit = true) (viewDidLoad none) ∧
      ¬ Always edit (CanonicalFields fun _ c => c.isDigit = true) (viewDidLoad none)
        [⟨.account, ⟨0, 0⟩, "\x08"⟩] := by
  refine ⟨canonicalFields_viewDidLoad _, ?_⟩
  rintro ⟨-, hfields⟩
  have hmem : '\x08' ∈ (edit (viewDidLoad none) ⟨.account, ⟨0, 0⟩, "\x08"⟩).accountTF.toList := by
    decide
  exact absurd (hfields.account.mem (by decide) hmem) (by decide)

/-! ## Reformatting -/

def digitsOf (text : List Char) : List Char :=
  text.filter Char.isDigit

/-- The text after an edit: the loop has come to its end, and the digits before the range, of the
replacement and after the range are grouped, or left alone when there are too many. -/
structure Reformatted (separator : Char) (size max : ℕ) (text : List Char) (range : NSRange)
    (string text' : List Char) : Prop where
  loop : ∀ digits,
    digits = (replaceRange text range (string.filter (· ≠ separator))).filter (· ≠ separator) →
      (groupLoop separator size digits.length digits []).1 = []
  result : ∀ digits,
    digits = digitsOf (text.take range.location) ++ digitsOf string ++
        digitsOf (text.drop (range.location + range.length)) →
      if digits.length ≤ max then IsGrouping separator size digits text' else text' = text

/-- What is not a separator is a digit. -/
theorem filter_separator {separator : Char} (hseparator : ¬ inCharacterSet separator)
    {text : List Char} (htext : ∀ c ∈ text, c = separator ∨ c.isDigit = true) :
    text.filter (· ≠ separator) = digitsOf text := by
  apply List.filter_congr
  intro c hc
  rcases htext c hc with rfl | hdigit
  · have hnot : c.isDigit = false :=
      Bool.eq_false_of_not_eq_true fun h => hseparator (inCharacterSet_of_isDigit h)
    simp [hnot]
  · have hne : c ≠ separator := fun heq =>
      hseparator (heq ▸ inCharacterSet_of_isDigit hdigit)
    simp [hne, hdigit]

theorem reformatted_regroup {separator : Char} {size max : ℕ} (hsize : 0 < size)
    (hseparator : ¬ inCharacterSet separator) {text : List Char}
    (htext : Canonical separator size max (fun c => c.isDigit = true) text) (range : NSRange)
    {string : List Char} (hstring : ∀ c ∈ string, c.isDigit = true ∨ c = separator) :
    Reformatted separator size max text range string
      (regroup separator size (max + 1) text range string) where
  loop := fun digits _ => groupLoop_text separator hsize (le_refl _) []
  result := by
    rintro digits rfl
    have hchars : ∀ c ∈ text, c = separator ∨ c.isDigit = true := fun c hc => htext.mem hsize hc
    have hset : ∀ c ∈ text, c = separator ∨ inCharacterSet c := fun c hc =>
      (hchars c hc).imp_right inCharacterSet_of_isDigit
    -- in a canonical text whatever is not a digit is a separator
    have hedited : editedDigits separator text range string =
        digitsOf (text.take range.location) ++ digitsOf string ++
          digitsOf (text.drop (range.location + range.length)) := by
      rw [editedDigits, filter_separator hseparator fun c hc => hchars c (List.mem_of_mem_take hc),
        filter_separator hseparator fun c hc => (hstring c hc).symm,
        filter_separator hseparator fun c hc => hchars c (List.mem_of_mem_drop hc)]
    -- so nothing that was typed is refused
    have hall : (string.filter (· ≠ separator)).all inCharacterSet = true := by
      rw [filter_separator hseparator fun c hc => (hstring c hc).symm, List.all_eq_true]
      exact fun c hc => inCharacterSet_of_isDigit (List.mem_filter.mp hc).2
    rw [regroup_eq hsize hseparator (max + 1) hset, if_pos hall, hedited]
    split_ifs with hle hlt hlt
    · exact (isGrouping_iff hsize).mpr rfl
    · omega
    · omega
    · rfl

/-- Both fields group exactly the digits of the edited text, in their order. -/
theorem reformatted_fields (text : List Char) (range : NSRange) (string : List Char) :
    (Canonical ' ' 4 19 (fun c => c.isDigit = true) text →
        (∀ c ∈ string, c.isDigit = true ∨ c = ' ') →
        Reformatted ' ' 4 19 text range string (regroupAccount text range string)) ∧
      (Canonical '/' 2 4 (fun c => c.isDigit = true) text →
        (∀ c ∈ string, c.isDigit = true ∨ c = '/') →
        Reformatted '/' 2 4 text range string (regroupExpireDate text range string)) :=
  ⟨fun htext hstring => reformatted_regroup (by decide) (by decide) htext range hstring,
    fun htext hstring => reformatted_regroup (by decide) (by decide) htext range hstring⟩

/-- A range that cuts through a space is replaced, and an expiry date is pasted. -/
theorem reformatted_fields_pasted :
    Reformatted ' ' 4 19 "6222 02".toList ⟨3, 2⟩ "9 9".toList
        (regroupAccount "6222 02".toList ⟨3, 2⟩ "9 9".toList) ∧
      Reformatted '/' 2 4 [] ⟨0, 0⟩ "1225".toList (regroupExpireDate [] ⟨0, 0⟩ "1225".toList) :=
  ⟨(reformatted_fields "6222 02".toList ⟨3, 2⟩ "9 9".toList).1
      ⟨"622202".toList, ⟨["6222".toList, "02".toList], by decide, by decide, by decide, by decide⟩,
        List.all_iff_forall_prop.mp (by decide), by decide⟩
      (List.all_iff_forall_prop.mp (by decide)),
    (reformatted_fields [] ⟨0, 0⟩ "1225".toList).2 (canonical_nil _ _ _ _)
      (List.all_iff_forall_prop.mp (by decide))⟩

end PasswordPackage.InputCart
