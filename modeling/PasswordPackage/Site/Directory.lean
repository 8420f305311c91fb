import Mathlib.Data.Char
import Mathlib.Data.List.Sort
import Mathlib.Tactic.IntervalCases
import PasswordPackage.Common.Grouping
import PasswordPackage.Common.Removal

/-!
# The site directory

`viewDidLoad` groups the images of a folder by the first letter of their names, next to a fixed
list of sites in common use. The table's callbacks sort the keys of the dictionary again each time,
and move the last one, which is that of the fixed list, to the front. The name of an image is its
path without any `@2x.png`, wherever that stands.
-/

namespace PasswordPackage.SearchItem

open Grouping Removal

/-! ## Texts -/

/-- A path, a name or a key, as the list of its characters. -/
abbrev Name := List Char

/-- `@"@2x.png"`. -/
def imageSuffix : Name := ['@', '2', 'x', '.', 'p', 'n', 'g']

/-- `hasSuffix:@"@2x.png"`. -/
def isImage (path : Name) : Bool :=
  imageSuffix.isSuffixOf path

/-- `substringToIndex:1`, which an empty text does not have. -/
def substringToIndexOne (name : Name) : Option Name :=
  name.head?.map fun c => [c]

/-- `uppercaseString`, for ASCII characters. -/
def uppercaseString (name : Name) : Name :=
  name.map Char.toUpper

/-- `theStringIsAllNumbers:`. The scanner skips white space, and reads an integer with a sign. -/
def theStringIsAllNumbers (str : Name) : Bool :=
  let str := str.dropWhile Char.isWhitespace
  let digits :=
    match str with
    | '+' :: digits => digits
    | '-' :: digits => digits
    | _ => str
  let rest := digits.dropWhile Char.isDigit
  rest.length < digits.length && rest.all Char.isWhitespace

/-! ## Grouping -/

abbrev Dictionary := AList fun _ : Name => List Name

/-- `@"常用"`. -/
def inCommonUse : Name := ['常', '用']

def inCommonUseArray : List Name :=
  ["Wechat", "QQ", "Taobao", "Zhihu", "Baidu", "Weibo", "163", "Github", "jingdong", "Yinxiang",
    "douban", "12306", "zhifubao"].map String.toList

/-- One turn of the loop over the folder: `searchDataArray` and `dataDictionary`. -/
def groupPath (isMark : Char → Bool) (s : List Name × Dictionary) (path : Name) :
    Option (List Name × Dictionary) :=
  if isImage path = false then some s
  else
    let webSiteName := removing imageSuffix isMark path
    let searchDataArray := s.1 ++ [webSiteName]
    (substringToIndexOne webSiteName).map fun start =>
      let startCharacter := uppercaseString start
      if theStringIsAllNumbers startCharacter then (searchDataArray, s.2)
      else
        match s.2.lookup startCharacter with
        | none => (searchDataArray, s.2.insert startCharacter [webSiteName])
        | some array => (searchDataArray, s.2.insert startCharacter (array ++ [webSiteName]))

/-- The character that `paixuWith:` compares by. No key is empty. -/
def firstCharacter (node : Name) : Char :=
  node.headD ' '

/-- `paixuWith:`. An empty array has no last object to insert. -/
def paixuWith (array : List Name) : Option (List Name) :=
  let array := array.insertionSort fun node1 node2 => firstCharacter node1 ≤ firstCharacter node2
  array.getLast?.map fun lastObject => (lastObject :: array).dropLast

/-- The order in which a call of `allKeys` gives the keys. -/
structure KeyOrder where
  list : List Name → List Name
  perm : ∀ keys, (list keys).Perm keys

/-- The keys as the dictionary lists them. -/
def KeyOrder.same : KeyOrder where
  list := id
  perm _ := List.Perm.refl _

structure Controller where
  searchDataArray : List Name
  dataDictionary : Dictionary
  indexViewDataSource : List Name
  startSection : ℕ

/-- `paixuWith:` of the keys. -/
def sortedArray (dataDictionary : Dictionary) (order : KeyOrder) : Option (List Name) :=
  paixuWith (order.list dataDictionary.keys)

/-- The dictionary before the loop. -/
def commonDictionary : Dictionary :=
  (∅ : Dictionary).insert inCommonUse inCommonUseArray

/-- `viewDidLoad`, for the paths of the folder. -/
def directoryDidLoad (isMark : Char → Bool) (order : KeyOrder) (paths : List Name) :
    Option Controller := do
  let (searchDataArray, dataDictionary) ← paths.foldlM (groupPath isMark) ([], commonDictionary)
  let sortedArray ← sortedArray dataDictionary order
  return {
    searchDataArray := searchDataArray
    dataDictionary := dataDictionary
    indexViewDataSource := sortedArray.eraseIdx 0
    startSection := 0 }

/-! ## Callbacks -/

namespace Controller

variable (vc : Controller) (order : KeyOrder) (sec row : ℕ)

/-- `objectForKey:`. -/
def objectForKey (key : Name) : List Name :=
  (vc.dataDictionary.lookup key).getD []

/-- `numberOfSectionsInTableView:`. -/
def numberOfSections : ℕ :=
  vc.dataDictionary.keys.length

/-- `tableView:titleForHeaderInSection:`. -/
def titleForHeader : Option Name :=
  (sortedArray vc.dataDictionary order).bind (·[sec]?)

/-- `tableView:numberOfRowsInSection:`. -/
def numberOfRows : Option ℕ :=
  ((sortedArray vc.dataDictionary order).bind (·[sec]?)).map fun key =>
    (vc.objectForKey key).length

/-- `tableView:cellForRowAtIndexPath:`, which shows the name it returns. -/
def cellForRow : Option Name :=
  ((sortedArray vc.dataDictionary order).bind (·[sec]?)).bind fun key =>
    (vc.objectForKey key)[row]?

/-- The section that tapping the `i`-th entry of the index scrolls to. -/
def sectionOfIndex (i : ℕ) : ℕ :=
  i + vc.startSection

end Controller

/-! ## Characters -/

/-- A letter is in upper case after `uppercaseString`, and a digit stays what it is. -/
theorem toUpper_spec {c : Char} (hc : c.isAlphanum = true) :
    (c.toUpper.isUpper = true ∧ c.isAlpha = true ∧ c.isDigit = false) ∨
      (c.toUpper = c ∧ c.isDigit = true ∧ c.isAlpha = false) := by
  have hself := Char.ofNat_toNat c
  have hbounds : (65 ≤ c.toNat ∧ c.toNat ≤ 90) ∨ (97 ≤ c.toNat ∧ c.toNat ≤ 122) ∨
      (48 ≤ c.toNat ∧ c.toNat ≤ 57) := by
    have hkind : (c.isUpper || c.isLower || c.isDigit) = true := hc
    rw [Bool.or_eq_true, Bool.or_eq_true] at hkind
    rcases hkind with (hupper | hlower) | hdigit
    · exact Or.inl (of_decide_eq_true hupper)
    · obtain ⟨hlo, hhi⟩ := Bool.and_eq_true_iff.mp hlower
      exact Or.inr (Or.inl ⟨of_decide_eq_true hlo, of_decide_eq_true hhi⟩)
    · obtain ⟨hlo, hhi⟩ := Bool.and_eq_true_iff.mp hdigit
      exact Or.inr (Or.inr ⟨of_decide_eq_true hlo, of_decide_eq_true hhi⟩)
  generalize c.toNat = n at hself hbounds
  rw [← hself]
  rcases hbounds with ⟨hlo, hhi⟩ | ⟨hlo, hhi⟩ | ⟨hlo, hhi⟩
  all_goals interval_cases n <;> decide

theorem toUpper_of_isAlpha {c : Char} (hc : c.isAlpha = true) :
    c.toUpper.isUpper = true ∧ c.isDigit = false := by
  have halphanum : c.isAlphanum = true := by rw [Char.isAlphanum, hc, Bool.true_or]
  rcases toUpper_spec halphanum with ⟨hupper, -, hdigit⟩ | ⟨-, -, hnot⟩
  · exact ⟨hupper, hdigit⟩
  · rw [hc] at hnot
    exact absurd hnot (by decide)

theorem not_isDigit_of_isUpper {c : Char} (hc : c.isUpper = true) : c.isDigit = false := by
  have hbounds : 65 ≤ c.toNat ∧ c.toNat ≤ 90 := of_decide_eq_true hc
  simp only [Char.isDigit, Bool.and_eq_false_iff, decide_eq_false_iff_not, UInt32.le_iff_toNat_le,
    ge_iff_le, not_le]
  exact Or.inr (lt_of_lt_of_le (by decide) hbounds.1)

/-- A single character is a number when it is a digit. -/
theorem theStringIsAllNumbers_singleton {c : Char} (hwhite : c.isWhitespace = false)
    (hplus : c ≠ '+') (hminus : c ≠ '-') : theStringIsAllNumbers [c] = c.isDigit := by
  have hskip : [c].dropWhile Char.isWhitespace = [c] :=
    List.dropWhile_cons_of_neg (by rw [hwhite]; decide)
  unfold theStringIsAllNumbers
  rw [hskip]
  dsimp only
  split
  · next heq => exact absurd (List.cons.inj heq).1 hplus
  · next heq => exact absurd (List.cons.inj heq).1 hminus
  · cases hdigit : c.isDigit <;> simp [hdigit]

/-- An ASCII letter or digit begins a number only as a digit. -/
theorem theStringIsAllNumbers_of_isAlphanum {c : Char} (hc : c.isAlphanum = true) :
    theStringIsAllNumbers [c] = c.isDigit := by
  have hnot {d : Char} (hd : d.isAlphanum = false) : c ≠ d := by
    rintro rfl
    exact absurd hc (by rw [hd]; decide)
  refine theStringIsAllNumbers_singleton ?_ (hnot (by decide)) (hnot (by decide))
  rw [Char.isWhitespace]
  simp [hnot (d := ' ') (by decide), hnot (d := '\t') (by decide),
    hnot (d := '\r') (by decide), hnot (d := '\n') (by decide)]

/-! ## Names of images -/

/-- What comes before the suffix. -/
def imageName (path : Name) : Name :=
  path.take (path.length - imageSuffix.length)

def imageNames (paths : List Name) : List Name :=
  (paths.filter isImage).map imageName

theorem imageName_append (name : Name) : imageName (name ++ imageSuffix) = name := by
  rw [imageName, List.length_append, Nat.add_sub_cancel]
  exact List.take_left

def startsWithLetter (name : Name) : Bool :=
  name.head?.any Char.isAlpha

def startsWithDigit (name : Name) : Bool :=
  name.head?.any Char.isDigit

/-- The name begins with an ASCII letter or digit. -/
def startsAlphanum (name : Name) : Bool :=
  name.head?.any Char.isAlphanum

theorem eq_cons_of_startsAlphanum {name : Name} (h : startsAlphanum name = true) :
    ∃ c rest, c.isAlphanum = true ∧ name = c :: rest := by
  rcases name with _ | ⟨c, rest⟩
  · exact absurd h (by decide)
  · exact ⟨c, rest, h, rfl⟩

/-- A folder as the app ships it: other files may be in it, but the images have distinct names that
begin with an ASCII letter or digit. -/
structure WebsiteFolder where
  paths : List Name
  distinct : (paths.filter isImage).Nodup
  alphanum : ∀ path ∈ paths, isImage path = true → startsAlphanum (imageName path) = true

def WebsiteFolder.names (folder : WebsiteFolder) : List Name :=
  imageNames folder.paths

theorem append_imageName {path : Name} (h : isImage path = true) :
    imageName path ++ imageSuffix = path := by
  obtain ⟨name, rfl⟩ := List.isSuffixOf_iff_suffix.mp h
  rw [imageName_append]

theorem WebsiteFolder.nodup_names (folder : WebsiteFolder) : folder.names.Nodup := by
  refine List.Nodup.map_on ?_ folder.distinct
  intro path hpath path' hpath' heq
  rw [← append_imageName (List.mem_filter.mp hpath).2, heq,
    append_imageName (List.mem_filter.mp hpath').2]

theorem WebsiteFolder.startsAlphanum_of_mem (folder : WebsiteFolder) :
    ∀ name ∈ folder.names, startsAlphanum name = true := by
  intro name hname
  obtain ⟨path, hpath, rfl⟩ := List.mem_map.mp hname
  obtain ⟨hmem, himage⟩ := List.mem_filter.mp hpath
  exact folder.alphanum path hmem himage

/-! ## One image -/

/-- `webSiteName`, from the name of the image. -/
def webSiteName (isMark : Char → Bool) (name : Name) : Name :=
  removing imageSuffix isMark name

/-- `startCharacter`, from the name of the image. -/
def startCharacter (name : Name) : Name :=
  uppercaseString (name.take 1)

/-- What the dictionary is to hold: the names that begin with a letter, by their letters. -/
def letterEntries (isMark : Char → Bool) (names : List Name) : List (Name × Name) :=
  (names.filter startsWithLetter).map fun name => (startCharacter name, webSiteName isMark name)

section Marks

variable {isMark : Char → Bool} (hmark : isMark '@' = false)

include hmark

/-- The suffix is removed, and with it every other `@2x.png` of the name. -/
theorem removing_path (name : Name) :
    removing imageSuffix isMark (name ++ imageSuffix) = removing imageSuffix isMark name := by
  have hself : removing imageSuffix isMark imageSuffix = [] := removing_self (by decide)
  have hcut : removing imageSuffix isMark (name ++ imageSuffix) =
      removing imageSuffix isMark name ++ removing imageSuffix isMark imageSuffix :=
    removing_append (by decide) hmark name imageSuffix.tail
  rw [hcut, hself, List.append_nil]

omit hmark in
/-- The first character of a name stays. -/
theorem removing_cons {c : Char} (hc : c ≠ '@') (rest : Name) :
    removing imageSuffix isMark (c :: rest) = c :: removing imageSuffix isMark rest :=
  removing_append_of_notMem rfl (show '@' ∉ [c] from fun h => hc (List.mem_singleton.mp h).symm)
    rest

/-- What the loop does for an image. -/
theorem groupPath_image {path : Name} (himage : isImage path = true)
    (hname : startsAlphanum (imageName path) = true) (s : List Name × Dictionary) :
    groupPath isMark s path =
      some (s.1 ++ [webSiteName isMark (imageName path)],
        if startsWithLetter (imageName path) then
          s.2.insert (startCharacter (imageName path))
            ((s.2.lookup (startCharacter (imageName path))).getD [] ++
              [webSiteName isMark (imageName path)])
        else s.2) := by
  obtain ⟨c, rest, hc, hcons⟩ := eq_cons_of_startsAlphanum hname
  have hat : c ≠ '@' := by
    rintro rfl
    exact absurd hc (by decide)
  -- the path loses the suffix like its name
  have hstrip : removing imageSuffix isMark path =
      removing imageSuffix isMark (imageName path) := by
    conv_lhs => rw [← append_imageName himage]
    exact removing_path hmark _
  unfold groupPath webSiteName startCharacter
  rw [if_neg (by rw [himage]; decide), hstrip, hcons, removing_cons hat]
  simp only [substringToIndexOne, List.head?_cons, Option.map_some, uppercaseString, List.map_cons,
    List.map_nil, List.take_succ_cons, List.take_zero, startsWithLetter, Option.any_some,
    Option.some.injEq]
  -- the name goes under its first letter, and under none after a digit
  rcases toUpper_spec hc with ⟨hupper, halpha, -⟩ | ⟨hself, hdigit, halpha⟩
  · have hupper' : c.toUpper.isAlphanum = true := by
      have hkind : c.toUpper.isAlphanum =
          (c.toUpper.isUpper || c.toUpper.isLower || c.toUpper.isDigit) := rfl
      rw [hkind, hupper, Bool.true_or, Bool.true_or]
    rw [theStringIsAllNumbers_of_isAlphanum hupper', not_isDigit_of_isUpper hupper, halpha,
      if_neg (by decide), if_pos rfl]
    rcases s.2.lookup ([c].map Char.toUpper) with _ | array <;> rfl
  · rw [hself, theStringIsAllNumbers_of_isAlphanum hc, hdigit, halpha, if_pos rfl,
      if_neg (by decide)]

/-- The letters of the folder, under their keys. -/
theorem foldlM_groupPath (paths : List Name)
    (hpaths : ∀ path ∈ paths, isImage path = true → startsAlphanum (imageName path) = true)
    (s : List Name × Dictionary) :
    paths.foldlM (groupPath isMark) s =
      some (s.1 ++ (imageNames paths).map (webSiteName isMark),
        insertAll s.2 (letterEntries isMark (imageNames paths))) := by
  induction paths generalizing s with
  | nil => simp [imageNames, letterEntries, insertAll]
  | cons path paths ih =>
      have htail := ih fun path' hmem => hpaths path' (List.mem_cons_of_mem path hmem)
      rw [List.foldlM_cons]
      -- a path that is no image is skipped
      by_cases himage : isImage path = true
      · have hnames : imageNames (path :: paths) = imageName path :: imageNames paths := by
          rw [imageNames, List.filter_cons_of_pos himage]
          rfl
        rw [groupPath_image hmark himage (hpaths path List.mem_cons_self himage), hnames]
        refine (htail _).trans ?_
        unfold letterEntries
        rw [List.map_cons, List.append_assoc, List.singleton_append, List.filter_cons]
        split_ifs <;> rfl
      · have hnames : imageNames (path :: paths) = imageNames paths := by
          rw [imageNames, List.filter_cons_of_neg himage]
          rfl
        have hskip : groupPath isMark s path = some s :=
          if_pos (Bool.eq_false_of_not_eq_true himage)
        rw [hskip, hnames]
        exact htail s

end Marks

/-! ## The order of the sections -/

/-- The key of the fixed list comes after every letter. -/
theorem not_common_le {c : Char} (hc : c.isUpper = true) :
    ¬ firstCharacter inCommonUse ≤ firstCharacter [c] := by
  have hbounds : 65 ≤ c.toNat ∧ c.toNat ≤ 90 := of_decide_eq_true hc
  have hle : c ≤ 'Z' := hbounds.2
  exact fun h => absurd (le_trans h hle) (by decide)

/-- Sorting sets the key of the fixed list behind the letters. -/
theorem insertionSort_keys {keys : List Name} (hnodup : keys.Nodup) (hcommon : inCommonUse ∈ keys)
    (hkeys : ∀ key ∈ keys, key = inCommonUse ∨ ∃ c : Char, c.isUpper = true ∧ key = [c]) :
    ∃ front : List Name,
      keys.insertionSort (fun node1 node2 => firstCharacter node1 ≤ firstCharacter node2) =
        front ++ [inCommonUse] ∧
      front.Pairwise (fun a b => firstCharacter a ≤ firstCharacter b) ∧ front.Nodup ∧
      ∀ key ∈ front, ∃ c : Char, c.isUpper = true ∧ key = [c] := by
  let r : Name → Name → Prop := fun a b => firstCharacter a ≤ firstCharacter b
  have htotal : Std.Total r := ⟨fun a b => le_total (firstCharacter a) (firstCharacter b)⟩
  have htrans : IsTrans Name r := ⟨fun a b c hab hbc => le_trans hab hbc⟩
  have hsorted := List.pairwise_insertionSort r keys
  have hperm := List.perm_insertionSort r keys
  have hdistinct : (keys.insertionSort r).Nodup := hperm.nodup_iff.mpr hnodup
  obtain ⟨front, back, hsplit⟩ := List.append_of_mem (hperm.mem_iff.mpr hcommon)
  have hmem (key : Name) (hkey : key ∈ front ++ inCommonUse :: back) : key ∈ keys := by
    rw [← hsplit, hperm.mem_iff] at hkey
    exact hkey
  rw [hsplit] at hsorted hdistinct
  obtain ⟨hfront, hback, -⟩ := List.pairwise_append.mp hsorted
  obtain ⟨hdistinctFront, hdistinctBack, hdisjoint⟩ := List.nodup_append.mp hdistinct
  have hnil : back = [] := by
    rcases back with _ | ⟨key, back⟩
    · rfl
    · -- a letter behind the fixed list would be out of order
      have hne : key ≠ inCommonUse := fun heq =>
        (List.nodup_cons.mp hdistinctBack).1 (heq ▸ List.mem_cons_self)
      obtain ⟨c, hc, rfl⟩ := (hkeys key (hmem key (by simp))).resolve_left hne
      exact absurd ((List.pairwise_cons.mp hback).1 [c] List.mem_cons_self) (not_common_le hc)
  subst hnil
  refine ⟨front, hsplit, hfront, hdistinctFront, fun key hkey => ?_⟩
  refine (hkeys key (hmem key (List.mem_append_left _ hkey))).resolve_left ?_
  exact hdisjoint key hkey inCommonUse List.mem_cons_self

/-- Moving the last key to the front leads with the fixed list; the letters follow in order. -/
theorem paixuWith_eq_some {keys : List Name} (hnodup : keys.Nodup) (hcommon : inCommonUse ∈ keys)
    (hkeys : ∀ key ∈ keys, key = inCommonUse ∨ ∃ c : Char, c.isUpper = true ∧ key = [c]) :
    ∃ letters : List Char, letters.Pairwise (· < ·) ∧
      (∀ c, c ∈ letters ↔ c.isUpper = true ∧ [c] ∈ keys) ∧
      paixuWith keys = some (inCommonUse :: letters.map fun c => [c]) := by
  obtain ⟨front, hsplit, hfront, hdistinct, hletter⟩ := insertionSort_keys hnodup hcommon hkeys
  have hmem (key : Name) : key ∈ front ++ [inCommonUse] ↔ key ∈ keys := by
    rw [← hsplit, (List.perm_insertionSort _ keys).mem_iff]
  -- a key in front is the letter it is sorted by
  have hself : ∀ key ∈ front, [firstCharacter key] = key := by
    intro key hkey
    obtain ⟨c, -, rfl⟩ := hletter key hkey
    rfl
  have htitles : (front.map firstCharacter).map (fun c => [c]) = front := by
    rw [List.map_map]
    conv_rhs => rw [← List.map_id front]
    exact List.map_congr_left hself
  refine ⟨front.map firstCharacter, ?_, ?_, ?_⟩
  · refine List.pairwise_map.mpr ((hfront.and hdistinct).imp_of_mem ?_)
    intro a b ha hb hab
    refine lt_of_le_of_ne hab.1 fun heq => hab.2 ?_
    rw [← hself a ha, ← hself b hb, heq]
  · intro c
    rw [List.mem_map, ← hmem]
    constructor
    · rintro ⟨key, hkey, rfl⟩
      obtain ⟨c, hc, rfl⟩ := hletter key hkey
      exact ⟨hc, List.mem_append_left _ hkey⟩
    · rintro ⟨-, hkey⟩
      rcases List.mem_append.mp hkey with hkey | hkey
      · exact ⟨[c], hkey, rfl⟩
      · exact absurd (List.mem_singleton.mp hkey) (by simp [inCommonUse])
  · rw [htitles]
    -- the fixed list is put in front, and dropped at the end
    have hlast : paixuWith keys = some ((inCommonUse :: (front ++ [inCommonUse])).dropLast) := by
      rw [paixuWith, hsplit, List.getLast?_concat]
      rfl
    rw [hlast, ← List.cons_append, List.dropLast_concat]

/-- Sorting and rotating neither adds nor drops a key. -/
theorem perm_of_paixuWith {array sorted : List Name} (h : paixuWith array = some sorted) :
    sorted.Perm array := by
  obtain ⟨last, hlast, rfl⟩ := Option.map_eq_some_iff.mp h
  obtain ⟨front, hfront⟩ := List.getLast?_eq_some_iff.mp hlast
  have hperm := List.perm_insertionSort
    (fun node1 node2 : Name => firstCharacter node1 ≤ firstCharacter node2) array
  rw [hfront] at hperm ⊢
  rw [← List.cons_append, List.dropLast_concat]
  exact (List.perm_append_singleton last front).symm.trans hperm

/-- Every call of `allKeys` leads to the same sections. -/
theorem sortedArray_eq_some {d : Dictionary} (hcommon : inCommonUse ∈ d.keys)
    (hkeys : ∀ key ∈ d.keys, key = inCommonUse ∨ ∃ c : Char, c.isUpper = true ∧ key = [c]) :
    ∃ letters : List Char, letters.Pairwise (· < ·) ∧
      (∀ c, c ∈ letters ↔ c.isUpper = true ∧ [c] ∈ d.keys) ∧
      ∀ order, sortedArray d order = some (inCommonUse :: letters.map fun c => [c]) := by
  have hsorted (order : KeyOrder) : ∃ letters : List Char, letters.Pairwise (· < ·) ∧
      (∀ c, c ∈ letters ↔ c.isUpper = true ∧ [c] ∈ d.keys) ∧
      sortedArray d order = some (inCommonUse :: letters.map fun c => [c]) := by
    have hperm := order.perm d.keys
    have hmem (key : Name) : key ∈ order.list d.keys ↔ key ∈ d.keys := hperm.mem_iff
    have hpaixu := paixuWith_eq_some (hperm.nodup_iff.mpr d.keys_nodup) ((hmem _).mpr hcommon)
      fun key hkey => hkeys key ((hmem key).mp hkey)
    simp only [hmem] at hpaixu
    exact hpaixu
  obtain ⟨letters, hlt, hletters, -⟩ := hsorted .same
  refine ⟨letters, hlt, hletters, fun order => ?_⟩
  obtain ⟨letters', hlt', hletters', heq⟩ := hsorted order
  have hperm : letters'.Perm letters :=
    (List.perm_ext_iff_of_nodup (hlt'.imp ne_of_lt) (hlt.imp ne_of_lt)).mpr fun c => by
      rw [hletters, hletters']
  have hsame : letters' = letters :=
    hperm.eq_of_pairwise (fun a b _ _ hab hba => absurd hba (lt_asymm hab)) hlt' hlt
  rw [heq, hsame]

/-! ## The dictionary of a folder -/

/-- The names that begin with a letter. -/
def WebsiteFolder.letterNames (folder : WebsiteFolder) : List Name :=
  folder.names.filter startsWithLetter

def folderDictionary (isMark : Char → Bool) (folder : WebsiteFolder) : Dictionary :=
  insertAll commonDictionary (letterEntries isMark folder.names)

/-- The key of a name that begins with a letter. -/
theorem startCharacter_of_mem {folder : WebsiteFolder} {name : Name}
    (hname : name ∈ folder.letterNames) :
    ∃ c : Char, ∃ rest, name = c :: rest ∧ c.isAlpha = true ∧ c.toUpper.isUpper = true ∧
      startCharacter name = [c.toUpper] := by
  obtain ⟨hmem, hletter⟩ := List.mem_filter.mp hname
  obtain ⟨c, rest, -, rfl⟩ := eq_cons_of_startsAlphanum (folder.startsAlphanum_of_mem name hmem)
  have halpha : c.isAlpha = true := hletter
  exact ⟨c, rest, rfl, halpha, (toUpper_of_isAlpha halpha).1, rfl⟩

theorem mem_keys_folderDictionary {isMark : Char → Bool} {folder : WebsiteFolder} {key : Name} :
    key ∈ (folderDictionary isMark folder).keys ↔
      key = inCommonUse ∨ ∃ name ∈ folder.letterNames, startCharacter name = key := by
  rw [← AList.mem_keys, folderDictionary, mem_insertAll, commonDictionary, AList.mem_insert,
    letterEntries]
  simp only [List.mem_map, AList.notMem_empty, or_false, exists_exists_and_eq_and]
  rfl

theorem startCharacter_ne_inCommonUse {folder : WebsiteFolder} {name : Name}
    (hname : name ∈ folder.letterNames) : startCharacter name ≠ inCommonUse := by
  obtain ⟨c, rest, -, -, -, hstart⟩ := startCharacter_of_mem hname
  rw [hstart]
  simp [inCommonUse]

/-- What is under a key: the fixed list, or the names that begin with the letter. -/
theorem lookup_folderDictionary (isMark : Char → Bool) (folder : WebsiteFolder) (key : Name) :
    ((folderDictionary isMark folder).lookup key).getD [] =
      (if key = inCommonUse then inCommonUseArray else []) ++
        (folder.letterNames.filter fun name => startCharacter name = key).map
          (webSiteName isMark) := by
  have hcommon : (commonDictionary.lookup key).getD [] =
      if key = inCommonUse then inCommonUseArray else [] := by
    unfold commonDictionary
    split_ifs with hkey
    · rw [hkey, AList.lookup_insert, Option.getD_some]
    · rw [AList.lookup_insert_ne hkey, AList.lookup_empty, Option.getD_none]
  rw [folderDictionary, lookup_insertAll, hcommon, letterEntries, List.filter_map, List.map_map]
  rfl

/-- The sections of a folder: the fixed list, and the letters of its names in their order. -/
theorem sortedArray_folderDictionary (isMark : Char → Bool) (folder : WebsiteFolder) :
    ∃ letters : List Char, letters.Pairwise (· < ·) ∧ (∀ c ∈ letters, c.isUpper = true) ∧
      (∀ name ∈ folder.letterNames, startCharacter name ∈ letters.map fun c => [c]) ∧
      (folder.letterNames = [] → letters = []) ∧
      (folderDictionary isMark folder).keys.length = letters.length + 1 ∧
      ∀ order, sortedArray (folderDictionary isMark folder) order =
        some (inCommonUse :: letters.map fun c => [c]) := by
  -- the keys are the fixed list and the first letters of the names
  have hkeys : ∀ key ∈ (folderDictionary isMark folder).keys,
      key = inCommonUse ∨ ∃ c : Char, c.isUpper = true ∧ key = [c] := by
    intro key hkey
    refine (mem_keys_folderDictionary.mp hkey).imp_right ?_
    rintro ⟨name, hname, rfl⟩
    obtain ⟨c, -, -, -, hupper, hstart⟩ := startCharacter_of_mem hname
    exact ⟨c.toUpper, hupper, hstart⟩
  have hcommon : inCommonUse ∈ (folderDictionary isMark folder).keys :=
    mem_keys_folderDictionary.mpr (Or.inl rfl)
  obtain ⟨letters, hlt, hletters, hsorted⟩ := sortedArray_eq_some hcommon hkeys
  refine ⟨letters, hlt, fun c hc => ((hletters c).mp hc).1, ?_, ?_, ?_, hsorted⟩
  · intro name hname
    obtain ⟨c, -, -, -, hupper, hstart⟩ := startCharacter_of_mem hname
    rw [hstart]
    refine List.mem_map_of_mem ((hletters _).mpr ⟨hupper, ?_⟩)
    exact mem_keys_folderDictionary.mpr (Or.inr ⟨name, hname, hstart⟩)
  · intro hnone
    refine List.eq_nil_iff_forall_not_mem.mpr fun c hc => ?_
    rcases mem_keys_folderDictionary.mp ((hletters c).mp hc).2 with heq | ⟨name, hname, -⟩
    · simp [inCommonUse] at heq
    · rw [hnone] at hname
      exact absurd hname List.not_mem_nil
  · -- the sorted keys are as many as the keys
    have hperm := perm_of_paixuWith (hsorted .same)
    have hlen := hperm.length_eq
    rw [List.length_cons, List.length_map] at hlen
    exact hlen.symm

/-! ## The screen of a folder -/

theorem directoryDidLoad_eq_some {isMark : Char → Bool} (hmark : isMark '@' = false)
    (folder : WebsiteFolder) (order : KeyOrder) {titles : List Name}
    (htitles : sortedArray (folderDictionary isMark folder) order = some titles) :
    directoryDidLoad isMark order folder.paths =
      some
        { searchDataArray := folder.names.map (webSiteName isMark)
          dataDictionary := folderDictionary isMark folder
          indexViewDataSource := titles.eraseIdx 0
          startSection := 0 } := by
  have hloop := foldlM_groupPath hmark folder.paths folder.alphanum ([], commonDictionary)
  rw [List.nil_append] at hloop
  unfold directoryDidLoad
  rw [hloop]
  change (sortedArray (folderDictionary isMark folder) order).bind _ = _
  rw [htitles]
  rfl

/-- The rows of the letter sections, one section after the other. -/
def Controller.letterRows (vc : Controller) (order : KeyOrder) : List Name :=
  ((sortedArray vc.dataDictionary order).getD []).tail.flatMap vc.objectForKey

/-- The sections begin with the fixed list and go on with the letters, the callbacks agree on them,
and every name that begins with a letter is in the section of its letter and nowhere else among the
letters. -/
structure Grouped (folder : WebsiteFolder) (vc : Controller) : Prop where
  titles : ∃ letters : List Char, letters.Pairwise (· < ·) ∧ (∀ c ∈ letters, c.isUpper = true) ∧
    vc.numberOfSections = letters.length + 1 ∧
    ∀ order sec, vc.titleForHeader order sec = (inCommonUse :: letters.map fun c => [c])[sec]?
  common : vc.objectForKey inCommonUse = inCommonUseArray
  callbacks : ∀ order order' order'' sec title, vc.titleForHeader order sec = some title →
    vc.numberOfRows order' sec = some (vc.objectForKey title).length ∧
      ∀ row, vc.cellForRow order'' sec row = (vc.objectForKey title)[row]?
  once : ∀ order, ∀ name ∈ folder.names, startsWithLetter name = true →
    name ∈ vc.objectForKey (startCharacter name) ∧ (vc.letterRows order).count name = 1
  digits : ∀ order, ∀ name ∈ vc.letterRows order, startsWithDigit name = false

/-- Every entry of the index is the title of the section that tapping it scrolls to. -/
def IndexBar (vc : Controller) : Prop :=
  ∀ order i title, vc.indexViewDataSource[i]? = some title →
    vc.titleForHeader order (vc.sectionOfIndex i) = some title

/-- The letter sections hold the names that begin with a letter, as the loop has cut them. -/
theorem letterRows_perm {isMark : Char → Bool} {folder : WebsiteFolder} {vc : Controller}
    (hvc : vc.dataDictionary = folderDictionary isMark folder) (order : KeyOrder) :
    (vc.letterRows order).Perm (folder.letterNames.map (webSiteName isMark)) := by
  obtain ⟨letters, hlt, -, hstart, -, -, hsorted⟩ := sortedArray_folderDictionary isMark folder
  have hkey (c : Char) : vc.objectForKey [c] =
      (folder.letterNames.filter fun name => startCharacter name = [c]).map
        (webSiteName isMark) := by
    rw [Controller.objectForKey, hvc, lookup_folderDictionary, if_neg (by simp [inCommonUse]),
      List.nil_append]
  have hnodup : (letters.map fun c => [c]).Nodup :=
    List.Nodup.map (fun a b h => (List.cons.inj h).1) (hlt.imp ne_of_lt)
  have hperm := (flatMap_filter_perm hnodup hstart).map (webSiteName isMark)
  refine List.Perm.trans (List.Perm.of_eq ?_) hperm
  rw [Controller.letterRows, hvc, hsorted, Option.getD_some, List.tail_cons, List.flatMap_map,
    List.map_flatMap, List.flatMap_map]
  exact List.flatMap_congr fun c _ => hkey c

/-- A name that contains no `@2x.png` is what the loop makes of it. -/
theorem webSiteName_eq_self_iff {isMark : Char → Bool} {name : Name} :
    webSiteName isMark name = name ↔ ¬ Occurs imageSuffix isMark name :=
  removing_eq_self_iff (by decide)

/-- The names under the letters are all there once exactly when the loop cuts none of them. -/
theorem once_iff {isMark : Char → Bool} {folder : WebsiteFolder} {vc : Controller}
    (hvc : vc.dataDictionary = folderDictionary isMark folder) :
    (∀ order, ∀ name ∈ folder.names, startsWithLetter name = true →
        name ∈ vc.objectForKey (startCharacter name) ∧ (vc.letterRows order).count name = 1) ↔
      ∀ name ∈ folder.names, startsWithLetter name = true →
        ¬ Occurs imageSuffix isMark name := by
  have hnodup : folder.letterNames.Nodup := folder.nodup_names.filter _
  have hmem {name : Name} : name ∈ folder.letterNames ↔
      name ∈ folder.names ∧ startsWithLetter name = true := List.mem_filter
  constructor
  · intro h
    have hreach : folder.letterNames ⊆ folder.letterNames.map (webSiteName isMark) := by
      intro name hname
      obtain ⟨hin, hletter⟩ := hmem.mp hname
      have hcount := (h KeyOrder.same name hin hletter).2
      rw [(letterRows_perm hvc _).count_eq] at hcount
      exact List.count_pos_iff.mp (by omega)
    -- no name can take the place of a longer one, so none is cut
    have hsize := size_eq_of_subset_map hnodup hreach fun name _ =>
      (removing_sublist name).length_le
    intro name hname hletter
    have hlen := hsize name (hmem.mpr ⟨hname, hletter⟩)
    exact webSiteName_eq_self_iff.mp ((removing_sublist name).eq_of_length hlen)
  · intro h order name hname hletter
    have hself : ∀ name ∈ folder.letterNames, webSiteName isMark name = name := fun name hname =>
      webSiteName_eq_self_iff.mpr (h name (hmem.mp hname).1 (hmem.mp hname).2)
    have hnames := hmem.mpr ⟨hname, hletter⟩
    constructor
    · rw [Controller.objectForKey, hvc, lookup_folderDictionary]
      refine List.mem_append_right _ (List.mem_map.mpr ⟨name, ?_, hself name hnames⟩)
      exact List.mem_filter.mpr ⟨hnames, decide_eq_true rfl⟩
    · rw [(letterRows_perm hvc order).count_eq, List.map_congr_left hself, List.map_id']
      exact List.count_eq_one_of_mem hnodup hnames

/-- No name that begins with a digit is under a letter. -/
theorem not_startsWithDigit_of_mem_letterRows {isMark : Char → Bool} {folder : WebsiteFolder}
    {vc : Controller} (hvc : vc.dataDictionary = folderDictionary isMark folder) {order : KeyOrder}
    {name : Name} (hname : name ∈ vc.letterRows order) : startsWithDigit name = false := by
  obtain ⟨name', hmem, rfl⟩ := List.mem_map.mp ((letterRows_perm hvc order).mem_iff.mp hname)
  obtain ⟨c, rest, rfl, halpha, -, -⟩ := startCharacter_of_mem hmem
  have hat : c ≠ '@' := by
    rintro rfl
    exact absurd halpha (by decide)
  rw [webSiteName, removing_cons hat]
  exact (toUpper_of_isAlpha halpha).2

/-- The directory groups a folder as it should exactly when no name under a letter contains
`@2x.png`. -/
theorem grouped_iff {isMark : Char → Bool} (hmark : isMark '@' = false) (folder : WebsiteFolder)
    (order : KeyOrder) :
    (∃ vc, directoryDidLoad isMark order folder.paths = some vc ∧ Grouped folder vc) ↔
      ∀ name ∈ folder.names, startsWithLetter name = true →
        ¬ Occurs imageSuffix isMark name := by
  obtain ⟨letters, hlt, hupper, -, -, hcount, hsorted⟩ := sortedArray_folderDictionary isMark folder
  have hload := directoryDidLoad_eq_some hmark folder order (hsorted order)
  constructor
  · rintro ⟨vc, hvc, hgrouped⟩
    obtain rfl := Option.some.inj (hload.symm.trans hvc)
    exact (once_iff rfl).mp hgrouped.once
  · intro h
    -- the sections do not depend on the order of the keys
    refine ⟨_, hload, ?_, ?_, ?_, (once_iff rfl).mpr h, ?_⟩
    · refine ⟨letters, hlt, hupper, hcount, fun order' sec => ?_⟩
      rw [Controller.titleForHeader, hsorted, Option.bind_some]
    · have hnone : folder.letterNames.filter (fun name => startCharacter name = inCommonUse) = [] :=
        List.filter_eq_nil_iff.mpr fun name hname =>
          by simpa using startCharacter_ne_inCommonUse hname
      rw [Controller.objectForKey, lookup_folderDictionary, if_pos rfl, hnone, List.map_nil,
        List.append_nil]
    · intro order₁ order₂ order₃ sec title htitle
      rw [Controller.titleForHeader, hsorted, Option.bind_some] at htitle
      refine ⟨?_, fun row => ?_⟩
      · rw [Controller.numberOfRows, hsorted, Option.bind_some, htitle, Option.map_some]
      · rw [Controller.cellForRow, hsorted, Option.bind_some, htitle, Option.bind_some]
    · exact fun order' name hname => not_startsWithDigit_of_mem_letterRows rfl hname

/-- A folder with two sites and another file. -/
def smallFolder : WebsiteFolder where
  paths := ["Github@2x.png".toList, "README".toList, "163@2x.png".toList]
  distinct := by decide
  alphanum := by decide

/-- The small folder is grouped as it should be. -/
theorem grouped_smallFolder :
    ∃ vc, directoryDidLoad (fun _ => false) .same smallFolder.paths = some vc ∧
      Grouped smallFolder vc := by
  apply (grouped_iff rfl smallFolder .same).mpr
  have hself : ∀ name ∈ smallFolder.names, webSiteName (fun _ => false) name = name := by decide
  exact fun name hname _ => webSiteName_eq_self_iff.mp (hself name hname)

/-- A folder with a name that contains the suffix once more. -/
def suffixFolder : WebsiteFolder where
  paths := ["ab@2x.png".toList, "a@2x.pngb@2x.png".toList]
  distinct := by decide
  alphanum := by decide

/-- Both names of the folder are listed as `ab`. -/
theorem not_grouped_suffixFolder :
    ¬ ∃ vc, directoryDidLoad (fun _ => false) .same suffixFolder.paths = some vc ∧
      Grouped suffixFolder vc := by
  rintro ⟨vc, hvc, hgrouped⟩
  have hcount : (directoryDidLoad (fun _ => false) .same suffixFolder.paths).map
      (fun vc => (vc.letterRows .same).count "ab".toList) = some 2 := by
    decide +kernel
  have honce := (hgrouped.once .same "ab".toList (by decide) (by decide)).2
  rw [hvc, Option.map_some, honce] at hcount
  exact absurd hcount (by decide)

/-- The index leads to the titles it shows exactly when it is empty: there is no name that begins
with a letter. -/
theorem indexBar_iff {isMark : Char → Bool} (hmark : isMark '@' = false) (folder : WebsiteFolder)
    (order : KeyOrder) :
    (∃ vc, directoryDidLoad isMark order folder.paths = some vc ∧ IndexBar vc) ↔
      ∀ name ∈ folder.names, startsWithLetter name = false := by
  obtain ⟨letters, -, hupper, hstart, hnone, -, hsorted⟩ :=
    sortedArray_folderDictionary isMark folder
  have hload := directoryDidLoad_eq_some hmark folder order (hsorted order)
  constructor
  · rintro ⟨vc, hvc, hindex⟩ name hname
    obtain rfl := Option.some.inj (hload.symm.trans hvc)
    by_contra hletter
    have hmem : name ∈ folder.letterNames :=
      List.mem_filter.mpr ⟨hname, Bool.eq_true_of_not_eq_false hletter⟩
    rcases letters with _ | ⟨c, letters⟩
    · exact absurd (hstart name hmem) List.not_mem_nil
    · -- the first entry of the index scrolls to the fixed list
      have hfirst := hindex order 0 [c] rfl
      rw [Controller.titleForHeader, hsorted, Option.bind_some] at hfirst
      have hcommon : inCommonUse = [c] := Option.some.inj hfirst
      simp [inCommonUse] at hcommon
  · intro h
    have hnil : letters = [] :=
      hnone (List.filter_eq_nil_iff.mpr fun name hname => by rw [h name hname]; decide)
    refine ⟨_, hload, ?_⟩
    rw [hnil]
    intro order' i title htitle
    simp at htitle

/-- A folder without letters, where the index is empty. -/
def digitFolder : WebsiteFolder where
  paths := ["163@2x.png".toList, "README".toList]
  distinct := by decide
  alphanum := by decide

theorem indexBar_digitFolder :
    ∃ vc, directoryDidLoad (fun _ => false) .same digitFolder.paths = some vc ∧ IndexBar vc :=
  (indexBar_iff rfl digitFolder .same).mpr (by decide)

/-- The entry for `G` scrolls to the fixed list. -/
theorem not_indexBar_smallFolder :
    ¬ ∃ vc, directoryDidLoad (fun _ => false) .same smallFolder.paths = some vc ∧ IndexBar vc := by
  rintro ⟨vc, hvc, hindex⟩
  have hentry : (directoryDidLoad (fun _ => false) .same smallFolder.paths).map
      (fun vc => (vc.indexViewDataSource[0]?, vc.titleForHeader .same (vc.sectionOfIndex 0))) =
        some (some ['G'], some inCommonUse) := by
    decide +kernel
  rw [hvc, Option.map_some, Option.some.injEq, Prod.mk.injEq] at hentry
  have htitle := hindex .same 0 ['G'] hentry.1
  rw [hentry.2] at htitle
  exact absurd htitle (by decide)

end PasswordPackage.SearchItem
