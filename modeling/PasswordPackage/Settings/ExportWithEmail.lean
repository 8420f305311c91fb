import Mathlib.Data.Bool.AllAny
import Mathlib.Tactic.SplitIfs
import PasswordPackage.Common.Removal
import PasswordPackage.Data.Model

/-!
# Exporting by mail

`exportWithEmail` prints every record into one text and mails it. A field that is nil prints as
`(null)`, and the printed text is cleared of `(null)` as a whole, so that a field whose own text
contains it loses that part.
-/

namespace PasswordPackage.SettingViewController

open Removal

/-! ## The text -/

/-- What `%@` prints for nil. -/
def nullText : String := "(null)"

/-- The line of a website, with a text for the fields that are nil. -/
def websiteTag (null : String) (i : ℕ) (model : PPWebsiteModel) : String :=
  toString (i + 1) ++ ". 名称:" ++ model.title.getD null ++ " 账号:" ++ model.account.getD null ++
    " 密码:" ++ model.password.getD null ++ " 地址:" ++ model.link.getD null ++
    " 描述:" ++ model.describe.getD null ++ " \n"

/-- The name of a card type. -/
def typeName (type : ℕ) : String :=
  if type = 1 then "信用卡" else if type = 0 then "储蓄卡" else ""

/-- The line of a card. -/
def bankTag (null : String) (i : ℕ) (model : PPBankCardModel) : String :=
  toString (i + 1) ++ ". 账号:" ++ model.account.getD null ++ " 密码:" ++ model.password.getD null ++
    " pin码:" ++ model.pin.getD null ++ " cvv码:" ++ model.cvvCode.getD null ++
    " 过期时间:" ++ model.expireDate.getD null ++ " 类型:" ++ typeName model.type ++
    " 描述:" ++ model.describe.getD null ++ "\n"

/-- A loop that appends the line of each element, numbered from 0. -/
def appendTags {α : Type} (tag : ℕ → α → String) (models : List α) : String :=
  models.zipIdx.foldl (fun string (model, i) => string ++ tag i model) ""

/-- `exportString`, with a text for the fields that are nil. -/
def exportString (null : String) (siteArray : List PPWebsiteModel)
    (bankCardArray : List PPBankCardModel) : String :=
  "网站账户信息: \n" ++ appendTags (websiteTag null) siteArray ++ " \n银行账户信息:\n" ++
    appendTags (bankTag null) bankCardArray

/-! ## The mail -/

/-- What the export ends in. -/
inductive Export where
  | alert (title detail : String)
  | mail (messageBody subject : String)
deriving DecidableEq

/-- `stringByReplacingOccurrencesOfString:@"(null)" withString:@""`. The search does not take a
character apart from the marks that combine with it. -/
def removeNull (isMark : Char → Bool) (text : String) : String :=
  String.ofList (removing nullText.toList isMark text.toList)

def subject (displayName : Option String) : String :=
  "'" ++ displayName.getD nullText ++ "'导出数据"

/-- `exportWithEmail`. -/
def exportWithEmail (canSendMail : Bool) (isMark : Char → Bool) (displayName : Option String)
    (siteArray : List PPWebsiteModel) (bankCardArray : List PPBankCardModel) : Export :=
  if canSendMail = false then .alert "提示" "请先在设备中开启邮件服务"
  else
    .mail (removeNull isMark (exportString nullText siteArray bankCardArray)) (subject displayName)

/-! ## Fields and what stands between them -/

/-- A field of a record, and the format up to the next field. -/
structure Slot where
  field : Option String
  label : String

def Slot.print (null : String) (slot : Slot) : List Char :=
  (slot.field.getD null).toList ++ slot.label.toList

def websiteSlots (i : ℕ) (model : PPWebsiteModel) : List Slot :=
  [⟨some "", toString (i + 1) ++ ". 名称:"⟩, ⟨model.title, " 账号:"⟩, ⟨model.account, " 密码:"⟩,
    ⟨model.password, " 地址:"⟩, ⟨model.link, " 描述:"⟩, ⟨model.describe, " \n"⟩]

def bankSlots (i : ℕ) (model : PPBankCardModel) : List Slot :=
  [⟨some "", toString (i + 1) ++ ". 账号:"⟩, ⟨model.account, " 密码:"⟩, ⟨model.password, " pin码:"⟩,
    ⟨model.pin, " cvv码:"⟩, ⟨model.cvvCode, " 过期时间:"⟩,
    ⟨model.expireDate, " 类型:" ++ typeName model.type ++ " 描述:"⟩, ⟨model.describe, "\n"⟩]

theorem toList_websiteTag (null : String) (i : ℕ) (model : PPWebsiteModel) :
    (websiteTag null i model).toList = (websiteSlots i model).flatMap (Slot.print null) := by
  unfold websiteTag websiteSlots
  simp only [Slot.print, List.flatMap_cons, List.flatMap_nil,
    String.toList_append, String.toList_empty, Option.getD_some, List.append_assoc,
    List.append_nil, List.nil_append]

theorem toList_bankTag (null : String) (i : ℕ) (model : PPBankCardModel) :
    (bankTag null i model).toList = (bankSlots i model).flatMap (Slot.print null) := by
  unfold bankTag bankSlots
  simp only [Slot.print, List.flatMap_cons, List.flatMap_nil,
    String.toList_append, String.toList_empty, Option.getD_some, List.append_assoc,
    List.append_nil, List.nil_append]

/-- The fields of the whole text, after its heading. -/
def exportSlots (siteArray : List PPWebsiteModel) (bankCardArray : List PPBankCardModel) :
    List Slot :=
  siteArray.zipIdx.flatMap (fun (model, i) => websiteSlots i model) ++
    ⟨some "", " \n银行账户信息:\n"⟩ ::
      bankCardArray.zipIdx.flatMap (fun (model, i) => bankSlots i model)

theorem toList_appendTags {α : Type} {null : String} {tag : ℕ → α → String}
    {slots : ℕ → α → List Slot}
    (htag : ∀ i model, (tag i model).toList = (slots i model).flatMap (Slot.print null))
    (models : List α) :
    (appendTags tag models).toList =
      (models.zipIdx.flatMap fun (model, i) => slots i model).flatMap (Slot.print null) := by
  have hfold (entries : List (α × ℕ)) (string : String) :
      (entries.foldl (fun string (model, i) => string ++ tag i model) string).toList =
        string.toList ++
          (entries.flatMap fun (model, i) => slots i model).flatMap (Slot.print null) := by
    induction entries generalizing string with
    | nil => simp
    | cons entry entries ih =>
        rw [List.foldl_cons, ih, String.toList_append, htag, List.flatMap_cons,
          List.flatMap_append, List.append_assoc]
  rw [appendTags, hfold, String.toList_empty, List.nil_append]

theorem toList_exportString (null : String) (siteArray : List PPWebsiteModel)
    (bankCardArray : List PPBankCardModel) :
    (exportString null siteArray bankCardArray).toList =
      "网站账户信息: \n".toList ++
        (exportSlots siteArray bankCardArray).flatMap (Slot.print null) := by
  have hsites := toList_appendTags (toList_websiteTag null) siteArray
  have hcards := toList_appendTags (toList_bankTag null) bankCardArray
  unfold exportString exportSlots
  rw [String.toList_append, String.toList_append, String.toList_append, hsites, hcards,
    List.flatMap_append, List.flatMap_cons, Slot.print, Option.getD_some,
    String.toList_empty, List.nil_append, List.append_assoc, List.append_assoc]

/-! ## Clearing the text -/

/-- The format after a field begins with a character that no occurrence of `(null)` reaches over,
and does not contain one. -/
structure Slot.Delimited (isMark : Char → Bool) (slot : Slot) : Prop where
  delimiter : ∃ c rest, slot.label.toList = c :: rest ∧ c ∉ nullText.toList.tail ∧ isMark c = false
  opening : '(' ∉ slot.label.toList

/-- Every field is cleared on its own. -/
theorem removing_slots {isMark : Char → Bool} {slots : List Slot}
    (hslots : ∀ slot ∈ slots, slot.Delimited isMark) (null : String) :
    removing nullText.toList isMark (slots.flatMap (Slot.print null)) =
      slots.flatMap fun slot =>
        removing nullText.toList isMark (slot.field.getD null).toList ++ slot.label.toList := by
  induction slots with
  | nil => rfl
  | cons slot slots ih =>
      have hslot := hslots slot List.mem_cons_self
      obtain ⟨c, rest, hlabel, hc, hmark⟩ := hslot.delimiter
      rw [List.flatMap_cons, List.flatMap_cons, Slot.print, List.append_assoc, hlabel,
        List.cons_append, removing_append hc hmark, ← List.cons_append, ← hlabel,
        removing_append_of_notMem rfl hslot.opening,
        ih fun slot' hslot' => hslots slot' (List.mem_cons_of_mem slot hslot'), List.append_assoc]

/-- A nil field is cleared, and any other one stays as it is unless it contains `(null)`. -/
theorem removing_field_eq_iff {isMark : Char → Bool} {field : Option String} :
    removing nullText.toList isMark (field.getD nullText).toList = (field.getD "").toList ↔
      ∀ string, field = some string → ¬ Occurs nullText.toList isMark string.toList := by
  have hnull : nullText.toList ≠ [] := by decide
  rcases field with _ | string
  · exact iff_of_true (removing_self hnull) fun string h => by cases h
  · rw [Option.getD_some, Option.getD_some, removing_eq_self_iff hnull]
    constructor
    · rintro h string' heq
      obtain rfl := Option.some.inj heq
      exact h
    · exact fun h => h string rfl

theorem length_removing_field_le (isMark : Char → Bool) (field : Option String) :
    (removing nullText.toList isMark (field.getD nullText).toList).length ≤
      (field.getD "").toList.length := by
  rcases field with _ | string
  · have hnull : removing nullText.toList isMark nullText.toList = [] :=
      removing_self (by decide)
    rw [Option.getD_none, hnull]
    exact Nat.zero_le _
  · exact (removing_sublist _).length_le

/-- The cleared text is the faithful one exactly when no field contains `(null)`. -/
theorem removing_slots_eq_iff {isMark : Char → Bool} {slots : List Slot}
    (hslots : ∀ slot ∈ slots, slot.Delimited isMark) :
    removing nullText.toList isMark (slots.flatMap (Slot.print nullText)) =
        slots.flatMap (Slot.print "") ↔
      ∀ slot ∈ slots, ∀ string, slot.field = some string →
        ¬ Occurs nullText.toList isMark string.toList := by
  rw [removing_slots hslots, flatMap_eq_flatMap_iff]
  · apply forall₂_congr
    intro slot _
    rw [Slot.print, List.append_left_inj, removing_field_eq_iff]
  · intro slot _
    have hle := length_removing_field_le isMark slot.field
    rw [Slot.print, List.length_append, List.length_append]
    omega

/-! ## Every field is delimited -/

section Delimited

variable {isMark : Char → Bool} (hmark : ∀ c : Char, c.toNat < 128 → isMark c = false)

include hmark

theorem delimited_of_head {field : Option String} {label : String} {c : Char}
    (hhead : label.toList.head? = some c) (hascii : c.toNat < 128) (hc : c ∉ nullText.toList.tail)
    (hopening : '(' ∉ label.toList) : Slot.Delimited isMark ⟨field, label⟩ := by
  obtain ⟨rest, hrest⟩ := List.head?_eq_some_iff.mp hhead
  exact ⟨⟨c, rest, hrest, hc, hmark c hascii⟩, hopening⟩

/-- The number of a line delimits what is before it. -/
theorem delimited_number (i : ℕ) {label : String} (hopening : '(' ∉ label.toList) :
    Slot.Delimited isMark ⟨some "", toString (i + 1) ++ label⟩ := by
  have hdigits : (toString (i + 1) ++ label).toList = Nat.toDigits 10 (i + 1) ++ label.toList := by
    rw [String.toList_append]
    exact congrArg (· ++ label.toList) Nat.toList_repr
  have hdigit : ∀ c ∈ Nat.toDigits 10 (i + 1), c.isDigit = true := fun c hc =>
    Nat.isDigit_of_mem_toDigits (by decide) (by decide) hc
  obtain ⟨c, rest, hcons⟩ := List.exists_cons_of_ne_nil
    (Nat.toDigits_ne_nil : Nat.toDigits 10 (i + 1) ≠ [])
  have hc := hdigit c (hcons ▸ List.mem_cons_self)
  apply delimited_of_head hmark (c := c)
  · rw [hdigits, hcons]
    rfl
  · simp only [Char.isDigit, Bool.and_eq_true, decide_eq_true_iff, UInt32.le_iff_toNat_le] at hc
    exact lt_of_le_of_lt hc.2 (by decide)
  · have hnot : ∀ d ∈ nullText.toList.tail, d.isDigit = false :=
      List.all_iff_forall_prop.mp (by decide)
    exact fun hmem => absurd hc (by rw [hnot c hmem]; decide)
  · rw [hdigits, List.mem_append]
    rintro (hmem | hmem)
    · exact absurd (hdigit '(' hmem) (by decide)
    · exact hopening hmem

theorem delimited_websiteSlots (i : ℕ) (model : PPWebsiteModel) :
    ∀ slot ∈ websiteSlots i model, slot.Delimited isMark := by
  simp only [websiteSlots, List.forall_mem_cons]
  refine ⟨delimited_number hmark i (by decide), ?_, ?_, ?_, ?_, ?_, by simp⟩
  all_goals exact delimited_of_head hmark (c := ' ') rfl (by decide) (by decide) (by decide)

theorem delimited_bankSlots (i : ℕ) (model : PPBankCardModel) :
    ∀ slot ∈ bankSlots i model, slot.Delimited isMark := by
  have htype : '(' ∉ (" 类型:" ++ typeName model.type ++ " 描述:").toList := by
    unfold typeName
    split_ifs <;> decide
  simp only [bankSlots, List.forall_mem_cons]
  refine ⟨delimited_number hmark i (by decide), ?_, ?_, ?_, ?_, ?_, ?_, by simp⟩
  · exact delimited_of_head hmark (c := ' ') rfl (by decide) (by decide) (by decide)
  · exact delimited_of_head hmark (c := ' ') rfl (by decide) (by decide) (by decide)
  · exact delimited_of_head hmark (c := ' ') rfl (by decide) (by decide) (by decide)
  · exact delimited_of_head hmark (c := ' ') rfl (by decide) (by decide) (by decide)
  · refine delimited_of_head hmark (c := ' ') ?_ (by decide) (by decide) htype
    rw [String.toList_append, String.toList_append]
    rfl
  · exact delimited_of_head hmark (c := '\n') rfl (by decide) (by decide) (by decide)

theorem delimited_exportSlots (siteArray : List PPWebsiteModel)
    (bankCardArray : List PPBankCardModel) :
    ∀ slot ∈ exportSlots siteArray bankCardArray, slot.Delimited isMark := by
  unfold exportSlots
  simp only [List.forall_mem_append, List.forall_mem_cons, List.forall_mem_flatMap]
  refine ⟨?_, ?_, ?_⟩
  · exact fun entry _ => delimited_websiteSlots hmark entry.2 entry.1
  · exact delimited_of_head hmark (c := ' ') rfl (by decide) (by decide) (by decide)
  · exact fun entry _ => delimited_bankSlots hmark entry.2 entry.1

end Delimited

/-! ## When the export is faithful -/

/-- The fields of a website that are exported. -/
def websiteFields (model : PPWebsiteModel) : List (Option String) :=
  [model.title, model.account, model.password, model.link, model.describe]

/-- The fields of a card that are exported. -/
def bankFields (model : PPBankCardModel) : List (Option String) :=
  [model.account, model.password, model.pin, model.cvvCode, model.expireDate, model.describe]

def exportFields (siteArray : List PPWebsiteModel) (bankCardArray : List PPBankCardModel) :
    List (Option String) :=
  siteArray.flatMap websiteFields ++ bankCardArray.flatMap bankFields

theorem map_fst_flatMap_zipIdx {α β : Type} (models : List α) (f : α → List β) :
    (models.zipIdx.flatMap fun entry => f entry.1) = models.flatMap f := by
  conv_rhs => rw [← List.zipIdx_map_fst 0 models, List.flatMap_map]

/-- The slots hold the exported fields, and empty texts. -/
theorem mem_exportSlots_iff {siteArray : List PPWebsiteModel}
    {bankCardArray : List PPBankCardModel} {string : String} :
    (∃ slot ∈ exportSlots siteArray bankCardArray, slot.field = some string) ↔
      string = "" ∨ some string ∈ exportFields siteArray bankCardArray := by
  have hfields : (exportSlots siteArray bankCardArray).map Slot.field =
      siteArray.flatMap (fun model => some "" :: websiteFields model) ++
        some "" :: bankCardArray.flatMap fun model => some "" :: bankFields model := by
    rw [exportSlots, List.map_append, List.map_cons, List.map_flatMap, List.map_flatMap,
      ← map_fst_flatMap_zipIdx siteArray, ← map_fst_flatMap_zipIdx bankCardArray]
    rfl
  rw [← List.mem_map, hfields]
  simp only [exportFields, List.mem_append, List.mem_cons, List.mem_flatMap, Option.some.injEq]
  constructor
  · rintro (⟨model, hmem, rfl | hfield⟩ | rfl | ⟨model, hmem, rfl | hfield⟩)
    · exact Or.inl rfl
    · exact Or.inr (Or.inl ⟨model, hmem, hfield⟩)
    · exact Or.inl rfl
    · exact Or.inl rfl
    · exact Or.inr (Or.inr ⟨model, hmem, hfield⟩)
  · rintro (rfl | ⟨model, hmem, hfield⟩ | ⟨model, hmem, hfield⟩)
    · exact Or.inr (Or.inl rfl)
    · exact Or.inl ⟨model, hmem, Or.inr hfield⟩
    · exact Or.inr (Or.inr ⟨model, hmem, Or.inr hfield⟩)

/-- The mail is the faithful text, with every field that is not nil as it is and every nil field
empty, exactly when no field that is not nil contains `(null)`. -/
theorem exportWithEmail_eq_iff {isMark : Char → Bool}
    (hmark : ∀ c : Char, c.toNat < 128 → isMark c = false) (displayName : Option String)
    (siteArray : List PPWebsiteModel) (bankCardArray : List PPBankCardModel) :
    exportWithEmail true isMark displayName siteArray bankCardArray =
        .mail (exportString "" siteArray bankCardArray) (subject displayName) ↔
      ∀ string, some string ∈ exportFields siteArray bankCardArray →
        ¬ Occurs nullText.toList isMark string.toList := by
  have hheading : '(' ∉ "网站账户信息: \n".toList := by decide
  -- the heading cannot be part of a placeholder, so only the slots matter
  have hbody : removeNull isMark (exportString nullText siteArray bankCardArray) =
        exportString "" siteArray bankCardArray ↔
      removing nullText.toList isMark
          ((exportSlots siteArray bankCardArray).flatMap (Slot.print nullText)) =
        (exportSlots siteArray bankCardArray).flatMap (Slot.print "") := by
    rw [removeNull, ← String.toList_inj, String.toList_ofList, toList_exportString,
      toList_exportString, removing_append_of_notMem rfl hheading, List.append_right_inj]
  have hmail : exportWithEmail true isMark displayName siteArray bankCardArray =
      .mail (removeNull isMark (exportString nullText siteArray bankCardArray))
        (subject displayName) := rfl
  rw [hmail, Export.mail.injEq, and_iff_left rfl, hbody,
    removing_slots_eq_iff (delimited_exportSlots hmark siteArray bankCardArray)]
  constructor
  · intro h string hstring
    obtain ⟨slot, hslot, hfield⟩ := mem_exportSlots_iff.mpr (Or.inr hstring)
    exact h slot hslot string hfield
  · intro h slot hslot string hfield
    rcases mem_exportSlots_iff.mp ⟨slot, hslot, hfield⟩ with rfl | hstring
    · exact not_occurs_nil (by decide)
    · exact h string hstring

/-- The combining diacritical marks. -/
def isDiacriticalMark (c : Char) : Bool :=
  0x300 ≤ c.toNat && c.toNat ≤ 0x36F

theorem isDiacriticalMark_of_ascii (c : Char) (hc : c.toNat < 128) :
    isDiacriticalMark c = false := by
  rw [isDiacriticalMark, Bool.and_eq_false_iff]
  exact Or.inl (decide_eq_false (by omega))

/-- A website with a title and nothing else but what is required. -/
def titled (title : String) : PPWebsiteModel where
  aId := some 1
  iconImg := none
  account := some "account"
  password := some "password"
  title := some title
  link := none
  describe := none
  cTime := 0

/-- A website with an ordinary title is exported as it is. -/
theorem exportWithEmail_titled :
    exportWithEmail true isDiacriticalMark none [titled "mail"] [] =
      .mail (exportString "" [titled "mail"] []) (subject none) := by
  apply (exportWithEmail_eq_iff isDiacriticalMark_of_ascii none [titled "mail"] []).mpr
  intro string hstring
  rw [← removing_eq_self_iff (by decide)]
  simp only [exportFields, websiteFields, titled, List.flatMap_cons, List.flatMap_nil,
    List.append_nil, List.mem_cons, List.not_mem_nil, Option.some.injEq, reduceCtorEq, or_false]
    at hstring
  rcases hstring with rfl | rfl | rfl <;> decide

/-- A website called `(null)` is exported without its title. -/
theorem exportWithEmail_titled_null :
    exportWithEmail true isDiacriticalMark none [titled "(null)"] [] ≠
      .mail (exportString "" [titled "(null)"] []) (subject none) := by
  decide +kernel

end PasswordPackage.SettingViewController
