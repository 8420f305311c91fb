import Mathlib.Data.List.Basic

/-!
# Names of sites

`SearchItemViewController` shows some of the bundled sites under their Chinese names.
-/

namespace PasswordPackage.SearchItem

/-- The names that `descriptionWithName:` rewrites. -/
def descriptions : List (String × String) :=
  [("Wechat", "微信"), ("Taobao", "淘宝"), ("Zhihu", "知乎"), ("Baidu", "百度"), ("Weibo", "微博"),
    ("jingdong", "京东"), ("Yinxiang", "印象笔记"), ("douban", "豆瓣"), ("zhifubao", "支付宝")]

/-- `descriptionWithName:`. -/
def descriptionWithName (name : String) : String :=
  (descriptions.lookup name).getD name

/-- A name is kept exactly when it is not one of the names to rewrite. -/
theorem descriptionWithName_eq_self_iff {name : String} :
    descriptionWithName name = name ↔ ∀ p ∈ descriptions, p.1 ≠ name := by
  unfold descriptionWithName
  cases hlookup : descriptions.lookup name with
  | none =>
      have hne := List.lookup_eq_none_iff.mp hlookup
      refine iff_of_true rfl fun p hp heq => ?_
      exact absurd (hne p hp) (by simp [heq])
  | some description =>
      obtain ⟨before, after, heq, -⟩ := List.lookup_eq_some_iff.mp hlookup
      have hmem : (name, description) ∈ descriptions := by
        rw [heq]
        exact List.mem_append_right _ List.mem_cons_self
      have hchanged : ∀ p ∈ descriptions, p.2 ≠ p.1 := by decide
      exact iff_of_false (hchanged _ hmem) fun h => h _ hmem rfl

end PasswordPackage.SearchItem
