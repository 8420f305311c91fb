import PasswordPackage.Data.Schema

/-!
# Updates by id

`updateWebsizeWithId:model:` and `updateBackCardWithId:model:` take an id and a model that carries
one of its own. The statement is bound to the second, and an `UPDATE` that finds no row succeeds
too.
-/

namespace PasswordPackage.DataManager

open FMDB KeyedTable

/-! ## What an update is for -/

/-- The row with new values in the named columns. -/
def fill (values : List (String × SqlValue)) (row : Row) : Row :=
  row.map fun (column, value) => (column, (values.lookup column).getD value)

/-- The row that holds the user's fields of the model. -/
def holdWebsite (model : PPWebsiteModel) : Row → Row :=
  fill [("title", textCell model.title), ("iconImg", blobCell model.iconImg),
    ("account", textCell model.account), ("password", textCell model.password),
    ("link", textCell model.link), ("describe", textCell model.describe)]

/-- The row that holds the user's fields of the model. -/
def holdBankCard (model : PPBankCardModel) : Row → Row :=
  fill [("frontImg", blobCell model.frontImg), ("type", .integer model.type),
    ("expireDate", textCell model.expireDate), ("account", textCell model.account),
    ("password", textCell model.password), ("cvvCode", textCell model.cvvCode),
    ("pin", textCell model.pin), ("describe", textCell model.describe),
    ("logoImageUrl", textCell model.logoImageUrl)]

variable {E : Engine Row}

/-- The result of an update by id: `YES` means that the row existed and was changed as it should be,
and no other row was; `NO` means that nothing was changed. -/
structure UpdatesById (aId : ℤ) (hold : Row → Row) (t : E.Table) (result : Option E.Table) :
    Prop where
  found : result.isSome = true → ∃ p ∈ E.rows t, p.1 = aId
  rows : E.rows (result.getD t) =
    if result.isSome then (E.rows t).map fun p => if p.1 = aId then (p.1, hold p.2) else p
    else E.rows t

/-! ## What the statements do -/

/-- No text of the model has a zero character. -/
def WebsiteStorable (model : PPWebsiteModel) : Prop :=
  ∀ s ∈ [model.title, model.account, model.password, model.link, model.describe],
    ∀ t ∈ s, NoNul t

/-- No text of the model has a zero character, and the type fits into 63 bits. -/
def BankCardStorable (model : PPBankCardModel) : Prop :=
  (∀ s ∈ [model.expireDate, model.account, model.password, model.cvvCode, model.pin,
    model.describe, model.logoImageUrl], ∀ t ∈ s, NoNul t) ∧ model.type < 2 ^ 63

/-- A row of the schema is left as it should be exactly when the model can be stored. -/
theorem setWebsite_eq_hold_iff {model : PPWebsiteModel} {row : Row}
    (hrow : row.map Prod.fst = websiteColumns) :
    setWebsite model row = holdWebsite model row ↔ WebsiteStorable model := by
  obtain ⟨cells, rfl⟩ := exists_websiteCells hrow
  have hhold : holdWebsite model cells.row =
      WebsiteCells.row
        { iconImg := blobCell model.iconImg
          title := textCell model.title
          account := textCell model.account
          password := textCell model.password
          link := textCell model.link
          describe := textCell model.describe
          ctime := cells.ctime } := rfl
  rw [setWebsite_row, hhold]
  simp [WebsiteCells.row, updatedWebsite, insertedWebsite, WebsiteStorable, bindObject_data,
    bindObject_string_eq_iff]

theorem setBankCard_eq_hold_iff {model : PPBankCardModel} {row : Row}
    (hrow : row.map Prod.fst = bankcardColumns) :
    setBankCard model row = holdBankCard model row ↔ BankCardStorable model := by
  obtain ⟨cells, rfl⟩ := exists_bankCardCells hrow
  have hhold : holdBankCard model cells.row =
      BankCardCells.row
        { frontImg := blobCell model.frontImg
          type := .integer model.type
          expireDate := textCell model.expireDate
          account := textCell model.account
          password := textCell model.password
          cvvCode := textCell model.cvvCode
          pin := textCell model.pin
          describe := textCell model.describe
          logoImageUrl := textCell model.logoImageUrl
          ctime := cells.ctime } := rfl
  rw [setBankCard_row, hhold]
  simp [BankCardCells.row, updatedBankCard, insertedBankCard, BankCardStorable, bindObject_data,
    bindObject_string_eq_iff, bindObject_natCast_eq_iff, and_comm]

/-- The model carries the id and can be stored; or it carries another one, and there is nothing to
change: the row of the id holds the model's fields already, and so does the row of the model. -/
def RightTarget (aId : ℤ) (modelId : Option ℤ) (storable : Prop) (set hold : Row → Row)
    (t : E.Table) : Prop :=
  (modelId = some aId ∧ storable) ∨
    (modelId ≠ some aId ∧
      ∀ p ∈ E.rows t, (p.1 = aId → hold p.2 = p.2) ∧ (some p.1 = modelId → set p.2 = p.2))

/-- What both updates have in common. -/
theorem updatesById_iff {aId : ℤ} {modelId : Option ℤ} {storable : Prop} {set hold : Row → Row}
    {t : E.Table} {result : Option E.Table}
    (hrows : ∀ t', result = some t' →
      E.rows t' = (E.rows t).map fun p => if some p.1 = modelId then (p.1, set p.2) else p)
    (hset : ∀ p ∈ E.rows t, set p.2 = hold p.2 ↔ storable) :
    UpdatesById aId hold t result ↔
      result = none ∨
        (∃ p ∈ E.rows t, p.1 = aId) ∧ RightTarget aId modelId storable set hold t := by
  cases result with
  | none => exact ⟨fun _ => Or.inl rfl, fun _ => ⟨by simp, rfl⟩⟩
  | some t' =>
      -- two ways to change one row of the table
      have hiff : UpdatesById aId hold t (some t') ↔ (∃ p ∈ E.rows t, p.1 = aId) ∧
          ((E.rows t).map fun p => if some p.1 = modelId then (p.1, set p.2) else p) =
            (E.rows t).map fun p => if p.1 = aId then (p.1, hold p.2) else p :=
        ⟨fun h => ⟨h.found rfl, (hrows t' rfl).symm.trans h.rows⟩,
          fun h => ⟨fun _ => h.1, (hrows t' rfl).trans h.2⟩⟩
      rw [hiff, modify_eq_modify_iff]
      simp only [reduceCtorEq, false_or]
      refine and_congr_right fun ⟨p, hp, hkey⟩ => ?_
      by_cases hid : modelId = some aId
      · subst hid
        constructor
        · -- the row is the right one, so it is about what is written
          intro h
          exact Or.inl ⟨rfl, (hset p hp).mp ((h p hp).1 (congrArg some hkey) hkey)⟩
        · rintro (⟨-, hstorable⟩ | ⟨hne, -⟩) q hq
          · exact ⟨fun _ _ => (hset q hq).mpr hstorable,
              fun hq₁ hq₂ => absurd (Option.some.inj hq₁) hq₂,
              fun hq₁ hq₂ => absurd (congrArg some hq₂) hq₁⟩
          · exact absurd rfl hne
      · -- no row has both ids
        have hapart : ∀ q : ℤ × Row, q.1 = aId → some q.1 ≠ modelId := by
          rintro q rfl heq
          exact hid heq.symm
        constructor
        · intro h
          refine Or.inr ⟨hid, fun q hq => ⟨fun hq₂ => ?_, fun hq₁ => ?_⟩⟩
          · exact (h q hq).2.2 (hapart q hq₂) hq₂
          · exact (h q hq).2.1 hq₁ fun hq₂ => hapart q hq₂ hq₁
        · rintro (⟨heq, -⟩ | ⟨-, h⟩) q hq
          · exact absurd heq hid
          · exact ⟨fun hq₁ hq₂ => absurd hq₁ (hapart q hq₂), fun hq₁ _ => (h q hq).2 hq₁,
              fun _ hq₂ => (h q hq).1 hq₂⟩

/-- A website with the id 1. -/
def firstSite : PPWebsiteModel where
  aId := some 1
  iconImg := none
  account := some "me"
  password := some "secret"
  title := some "site"
  link := some ""
  describe := some ""
  cTime := 0

/-- A bank card with the id 1. -/
def firstCard : PPBankCardModel where
  aId := some 1
  frontImg := none
  backImg := none
  type := 1
  expireDate := some "12/30"
  account := some "6222 0000"
  password := some "123456"
  cvvCode := some ""
  pin := some ""
  describe := some ""
  logoImageUrl := some ""
  cTime := 0

/-- Two websites and a bank card. -/
def twoSites : Database (Engine.memory Row) :=
  [Op.insertWebsite firstSite 0, .insertWebsite firstSite 0, .insertBackCard firstCard 0].foldl next
    (emptyDatabase (Engine.memory Row))

end PasswordPackage.DataManager
