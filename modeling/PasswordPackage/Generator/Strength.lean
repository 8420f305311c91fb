import Mathlib.Algebra.Order.BigOperators.Group.List
import PasswordPackage.Common.Draws
import PasswordPackage.Generator.Fairness

/-!
# The strength of a password

Every position takes a word of its own, so the words that make a password are counted by a product
of shares. From the product come the passwords that can be made at all, and how far guessing gets.
-/

namespace PasswordPackage.PasswordCreator

/-! ## The words of a password -/

/-- The words that `arc4random` may return for the positions of a password. -/
def words (length : ℕ) : Finset (Fin length → ℕ) :=
  Draws.draws (Fin length) (Finset.range (2 ^ 32))

/-- What `arc4random` returns in each turn of the loop. -/
def stream {length : ℕ} (draw : Fin length → ℕ) (i : ℕ) : UInt32 :=
  if h : i < length then UInt32.ofNat (draw ⟨i, h⟩) else 0

/-- The password that is made of some words. -/
def generated {length : ℕ} (numberType : PPNumberType) (letterType : PPLetterType)
    (isOtherCharacter : Bool) (draw : Fin length → ℕ) : Option String :=
  createPasswordWithLength length numberType letterType isOtherCharacter (stream draw)

/-- How many of the words for a position choose a character. -/
def share (candidates : List Char) (c : Char) : ℕ :=
  if candidates.idxOf c < candidates.length - 1 then
    2 ^ 32 / (candidates.length - 1) +
      if candidates.idxOf c < 2 ^ 32 % (candidates.length - 1) then 1 else 0
  else 0

variable {length : ℕ} {numberType : PPNumberType} {letterType : PPLetterType}
  {isOtherCharacter : Bool} {password : String}

theorem share_eq (numberType : PPNumberType) (letterType : PPLetterType) (isOtherCharacter : Bool)
    (c : Char) :
    share (tempArray numberType letterType isOtherCharacter) c =
      chosenBy 1 numberType letterType isOtherCharacter (fun _ => 0) 0 c :=
  (chosenBy_eq rfl _ (by omega) c).symm

theorem card_pick (c : Char) :
    ((Finset.range (2 ^ 32)).filter fun word =>
      pick (tempArray numberType letterType isOtherCharacter) (UInt32.ofNat word) = some c).card =
      share (tempArray numberType letterType isOtherCharacter) c := by
  have hposition : ((0 : ℕ) : ℤ) < 1 := by omega
  rw [share_eq]
  apply congrArg
  apply Finset.filter_congr
  intro word _
  rw [charAt_eq_pick _ hposition, Function.update_self]

/-- Words make a password exactly if each picks the character at its position. -/
theorem generated_eq_some_iff (draw : Fin length → ℕ) :
    generated numberType letterType isOtherCharacter draw = some password ↔
      password.toList.length = length ∧
        ∀ i : Fin length, pick (tempArray numberType letterType isOtherCharacter)
          (UInt32.ofNat (draw i)) = password.toList[(i : ℕ)]? := by
  obtain ⟨made, hsome, hmap⟩ := createPasswordWithLength_eq_some length numberType letterType
    isOtherCharacter (stream draw)
  rw [Int.toNat_natCast] at hmap
  -- some password is made, and each of its characters is the pick of its own word
  have hlength : made.toList.length = length := by
    have hlength := congrArg List.length hmap
    rwa [List.length_map, List.length_map, List.length_range] at hlength
  have hpick : ∀ i : Fin length, pick (tempArray numberType letterType isOtherCharacter)
      (UInt32.ofNat (draw i)) = made.toList[(i : ℕ)]? := by
    intro i
    have hget := congrArg (fun l => l[(i : ℕ)]?) hmap
    rw [List.getElem?_map, List.getElem?_map, List.getElem?_range i.isLt, Option.map_some, stream,
      dif_pos i.isLt] at hget
    obtain ⟨c, hc, heq⟩ := Option.map_eq_some_iff.mp hget
    rw [hc, heq]
  -- two passwords with the same picks are the same
  rw [generated, hsome, Option.some.injEq]
  constructor
  · rintro rfl
    exact ⟨hlength, hpick⟩
  · rintro ⟨hlength', hpick'⟩
    apply String.toList_inj.mp
    apply List.ext_getElem?
    intro i
    by_cases hi : i < length
    · exact (hpick ⟨i, hi⟩).symm.trans (hpick' ⟨i, hi⟩)
    · rw [List.getElem?_eq_none (by omega), List.getElem?_eq_none (by omega)]

/-- The words that make a password are counted by the product of the shares of its characters. -/
theorem card_generated (length : ℕ) (numberType : PPNumberType) (letterType : PPLetterType)
    (isOtherCharacter : Bool) (password : String) :
    ((words length).filter fun draw =>
      generated numberType letterType isOtherCharacter draw = some password).card =
      if password.toList.length = length then
        (password.toList.map (share (tempArray numberType letterType isOtherCharacter))).prod
      else 0 := by
  split_ifs with hlength
  · subst hlength
    -- the words of a draw are picked from place by place, so their numbers multiply
    let Picks : Fin password.toList.length → ℕ → Prop := fun i word =>
      pick (tempArray numberType letterType isOtherCharacter) (UInt32.ofNat word) =
        some password.toList[(i : ℕ)]
    have hplaces : ∀ draw : Fin password.toList.length → ℕ,
        generated numberType letterType isOtherCharacter draw = some password ↔
          ∀ i, Picks i (draw i) := by
      intro draw
      rw [generated_eq_some_iff, and_iff_right rfl]
      apply forall_congr'
      intro i
      rw [List.getElem?_eq_getElem i.isLt]
    rw [words, Draws.card_filter_draws _ Picks hplaces, ← Fin.prod_univ_fun_getElem]
    apply Finset.prod_congr rfl
    intro i _
    exact card_pick _
  · rw [Finset.card_eq_zero, Finset.filter_eq_empty_iff]
    intro draw _ hgenerated
    exact hlength ((generated_eq_some_iff draw).mp hgenerated).1

/-! ## The passwords that can be made -/

/-- The passwords over an alphabet. -/
def passwordsOver (alphabet : List Char) (length : ℕ) : Finset String :=
  (Draws.draws (Fin length) alphabet.toFinset).image fun draw => String.ofList (List.ofFn draw)

theorem mem_passwordsOver {alphabet : List Char} :
    password ∈ passwordsOver alphabet length ↔
      password.toList.length = length ∧ ∀ c ∈ password.toList, c ∈ alphabet := by
  unfold passwordsOver Draws.draws
  rw [Finset.mem_image]
  constructor
  · rintro ⟨draw, hdraw, rfl⟩
    rw [String.toList_ofList]
    refine ⟨List.length_ofFn, fun c hc => ?_⟩
    obtain ⟨i, rfl⟩ := List.mem_ofFn.mp hc
    exact List.mem_toFinset.mp (Fintype.mem_piFinset.mp hdraw i)
  · rintro ⟨rfl, hmem⟩
    refine ⟨fun i => password.toList[(i : ℕ)], ?_, ?_⟩
    · rw [Fintype.mem_piFinset]
      exact fun i => List.mem_toFinset.mpr (hmem _ (List.getElem_mem i.isLt))
    · rw [List.ofFn_getElem, String.ofList_toList]

theorem card_passwordsOver {alphabet : List Char} (hnodup : alphabet.Nodup) (length : ℕ) :
    (passwordsOver alphabet length).card = alphabet.length ^ length := by
  rw [passwordsOver, Finset.card_image_of_injective, Draws.card_draws,
    List.toFinset_card_of_nodup hnodup, Fintype.card_fin]
  intro draw draw' heq
  exact List.ofFn_injective (String.ofList_injective heq)

/-- No word picks a character exactly if it is not a candidate before the last. -/
theorem share_eq_zero_iff (c : Char) :
    share (tempArray numberType letterType isOtherCharacter) c = 0 ↔
      c ∉ (tempArray numberType letterType isOtherCharacter).dropLast := by
  rw [share_eq]
  exact chosenBy_eq_zero_iff _ (by omega) c

/-- The passwords that some words make are those over the candidates before the last. -/
theorem some_mem_image_generated_iff :
    some password ∈ (words length).image (generated numberType letterType isOtherCharacter) ↔
      password ∈
        passwordsOver (tempArray numberType letterType isOtherCharacter).dropLast length := by
  have hcard := card_generated length numberType letterType isOtherCharacter password
  have hmem : some password ∈
      (words length).image (generated numberType letterType isOtherCharacter) ↔
        ((words length).filter fun draw =>
          generated numberType letterType isOtherCharacter draw = some password).card ≠ 0 := by
    rw [Finset.card_ne_zero, Finset.filter_nonempty_iff, Finset.mem_image]
  rw [hmem, hcard, mem_passwordsOver]
  split_ifs with hlength
  · rw [and_iff_right hlength, ne_eq, List.prod_eq_zero_iff_exists_zero_nat]
    constructor
    · intro hshares c hc
      by_contra hnot
      exact hshares ⟨_, List.mem_map_of_mem hc, (share_eq_zero_iff c).mpr hnot⟩
    · rintro hmem ⟨x, hx, hzero⟩
      obtain ⟨c, hc, rfl⟩ := List.mem_map.mp hx
      exact (share_eq_zero_iff c).mp hzero (hmem c hc)
  · exact iff_of_false (fun h => h rfl) fun h => hlength h.1

/-- One character is never picked, and when upper case letters are asked for another one is missing:
there are that many fewer at every position. -/
theorem card_image_generated (length : ℕ) (numberType : PPNumberType) (letterType : PPLetterType)
    (isOtherCharacter : Bool) :
    ((words length).image (generated numberType letterType isOtherCharacter)).card =
      ((fullAlphabet numberType letterType isOtherCharacter).length -
        if numberType ≠ .allNumber ∧ letterType ≠ .lowLetter then 2 else 1) ^ length := by
  -- no draw fails, and every password over the pickable candidates is made
  have himage : (words length).image (generated numberType letterType isOtherCharacter) =
      (passwordsOver (tempArray numberType letterType isOtherCharacter).dropLast length).image
        some := by
    ext made
    rcases made with _ | password
    · refine iff_of_false (fun h => ?_) fun h => ?_
      · obtain ⟨draw, -, hnone⟩ := Finset.mem_image.mp h
        obtain ⟨password, hsome, -⟩ := createPasswordWithLength_eq_some length numberType
          letterType isOtherCharacter (stream draw)
        exact absurd (hsome.symm.trans hnone) (by simp)
      · obtain ⟨password, -, hsome⟩ := Finset.mem_image.mp h
        exact absurd hsome (by simp)
    · rw [some_mem_image_generated_iff, Finset.mem_image]
      constructor
      · exact fun h => ⟨password, h, rfl⟩
      · rintro ⟨password', h, heq⟩
        exact Option.some.inj heq ▸ h
  have hnodup := (nodup_tempArray numberType letterType isOtherCharacter).sublist
    (List.dropLast_sublist _)
  rw [himage, Finset.card_image_of_injective _ (Option.some_injective String),
    card_passwordsOver hnodup, List.length_dropLast]
  congr 1
  -- the last candidate is lost, and with the upper-case letters the missing Q
  cases numberType <;> cases letterType <;> cases isOtherCharacter <;> decide

/-! ## Guessing -/

/-- For how many words the password is among the guesses. -/
def guessed (length : ℕ) (numberType : PPNumberType) (letterType : PPLetterType)
    (isOtherCharacter : Bool) (guesses : Finset String) : ℕ :=
  ((words length).filter fun draw =>
    ∃ guess ∈ guesses, generated numberType letterType isOtherCharacter draw = some guess).card

theorem guessed_eq (length : ℕ) (numberType : PPNumberType) (letterType : PPLetterType)
    (isOtherCharacter : Bool) (guesses : Finset String) :
    guessed length numberType letterType isOtherCharacter guesses =
      ((words length).filter fun draw => generated numberType letterType isOtherCharacter draw ∈
        guesses.map Function.Embedding.some).card := by
  refine congrArg Finset.card (Finset.filter_congr fun draw _ => ?_)
  rw [Finset.mem_map]
  exact exists_congr fun guess => and_congr_right fun _ => eq_comm

/-- The largest share of a character. -/
def mostOf (candidates : List Char) : ℕ :=
  2 ^ 32 / (candidates.length - 1) + 1

theorem share_le (candidates : List Char) (c : Char) : share candidates c ≤ mostOf candidates := by
  unfold share mostOf
  split_ifs
  · exact le_rfl
  · exact Nat.le_succ _
  · exact Nat.zero_le _

/-- The first candidates have the largest share. -/
theorem share_of_mem_take {candidates : List Char} (hlength : 2 ≤ candidates.length) {c : Char}
    (hc : c ∈ candidates.take (2 ^ 32 % (candidates.length - 1))) :
    share candidates c = mostOf candidates := by
  have hidx := (List.mem_take_iff_idxOf_lt (List.mem_of_mem_take hc)).mp hc
  have hmod := Nat.mod_lt (2 ^ 32) (show 0 < candidates.length - 1 by omega)
  unfold share mostOf
  rw [if_pos (hidx.trans hmod), if_pos hidx]

/-- Guesses name at most the largest share to the power of the length for each of them, and there are
as many guesses as passwords over the first candidates that name no fewer. -/
theorem guessed_le_and_attained (length : ℕ) (numberType : PPNumberType)
    (letterType : PPLetterType) (isOtherCharacter : Bool) :
    let candidates := tempArray numberType letterType isOtherCharacter
    (∀ guesses : Finset String,
      guessed length numberType letterType isOtherCharacter guesses ≤
        guesses.card * mostOf candidates ^ length) ∧
    ∀ count ≤ (2 ^ 32 % (candidates.length - 1)) ^ length, ∃ guesses : Finset String,
      guesses.card = count ∧
        guessed length numberType letterType isOtherCharacter guesses =
          count * mostOf candidates ^ length := by
  intro candidates
  have hlength : 10 ≤ candidates.length :=
    ten_le_length_tempArray numberType letterType isOtherCharacter
  have hmod := Nat.mod_lt (2 ^ 32) (show 0 < candidates.length - 1 by omega)
  constructor
  · -- a guess is made by at most as many draws as one of the heaviest characters alone
    intro guesses
    rw [guessed_eq, ← guesses.card_map Function.Embedding.some]
    apply Draws.card_guessed_le
    intro made hmade
    obtain ⟨guess, -, rfl⟩ := Finset.mem_map.mp hmade
    have hcard := card_generated length numberType letterType isOtherCharacter guess
    refine hcard.le.trans ?_
    split_ifs with hguess
    · have hshares : (guess.toList.map (share candidates)).length = length := by
        rw [List.length_map, hguess]
      rw [← hshares]
      apply List.prod_le_pow_card
      intro x hx
      obtain ⟨c, -, rfl⟩ := List.mem_map.mp hx
      exact share_le candidates c
    · exact Nat.zero_le _
  · intro count hcount
    -- the passwords over the first candidates, which have one word more than the others
    have hfirst : count ≤ (passwordsOver
        (candidates.take (2 ^ 32 % (candidates.length - 1))) length).card := by
      have hnodup := (nodup_tempArray numberType letterType isOtherCharacter).sublist
        (List.take_sublist (2 ^ 32 % (candidates.length - 1)) _)
      rw [card_passwordsOver hnodup, List.length_take, min_eq_left (hmod.le.trans (Nat.sub_le _ _))]
      exact hcount
    obtain ⟨guesses, hguesses, rfl⟩ := Finset.exists_subset_card_eq hfirst
    refine ⟨guesses, rfl, ?_⟩
    -- each of them is made by as many draws as any guess can be
    rw [guessed_eq, ← guesses.card_map Function.Embedding.some]
    apply Draws.card_guessed_eq
    intro made hmade
    obtain ⟨guess, hguess, rfl⟩ := Finset.mem_map.mp hmade
    obtain ⟨hlength', hmem⟩ := mem_passwordsOver.mp (hguesses hguess)
    have hcard := card_generated length numberType letterType isOtherCharacter guess
    have hshares : (guess.toList.map (share candidates)).length = length := by
      rw [List.length_map, hlength']
    rw [if_pos hlength'] at hcard
    refine hcard.trans ?_
    rw [← hshares]
    apply List.prod_eq_pow_card
    intro x hx
    obtain ⟨c, hc, rfl⟩ := List.mem_map.mp hx
    exact share_of_mem_take (le_trans (by omega) hlength) (hmem c hc)

end PasswordPackage.PasswordCreator
