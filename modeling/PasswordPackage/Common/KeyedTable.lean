import Mathlib.Algebra.Order.Group.Int
import Mathlib.Data.Int.Notation
import Mathlib.Data.List.Forall2
import Mathlib.Logic.Function.Basic

/-!
# Tables with an automatic key

A table holds rows in the order of their integer keys. A new row gets the key after the largest one
the table has ever given out, so keys are not used twice. `Represents` says that a list of keyed
rows is a map from keys to values, listed in the order of the keys; the operations on lists and on
maps then go together.
-/

namespace KeyedTable

variable {α β : Type}

/-! ## Lists of keyed rows -/

/-- The rows list the map in the order of the keys. -/
structure Represents (rows : List (ℤ × α)) (m : ℤ → Option α) : Prop where
  sorted : rows.Pairwise fun p q => p.1 < q.1
  mem_iff : ∀ i a, (i, a) ∈ rows ↔ m i = some a

theorem represents_nil : Represents ([] : List (ℤ × α)) fun _ => none where
  sorted := List.Pairwise.nil
  mem_iff := by simp

variable {rows : List (ℤ × α)} {m : ℤ → Option α}

/-- A row with a larger key is added. -/
theorem Represents.concat (h : Represents rows m) {i : ℤ} (hfresh : ∀ p ∈ rows, p.1 < i) (a : α) :
    Represents (rows ++ [(i, a)]) (Function.update m i (some a)) where
  sorted := by
    refine List.pairwise_append.mpr ⟨h.sorted, List.pairwise_singleton _ _, fun p hp q hq => ?_⟩
    rw [List.mem_singleton.mp hq]
    exact hfresh p hp
  mem_iff := by
    intro j b
    rw [List.mem_append, List.mem_singleton, h.mem_iff, Prod.mk.injEq]
    by_cases hj : j = i
    · subst hj
      have hnone : m j ≠ some b := by
        -- a key in use would be smaller than itself
        intro hsome
        exact absurd (hfresh _ ((h.mem_iff j b).mpr hsome)) (lt_irrefl j)
      simp [hnone, eq_comm]
    · simp [hj]

/-- The row with one key is changed. -/
theorem Represents.modify (h : Represents rows m) (i : ℤ) (f : α → α) :
    Represents (rows.map fun p => if p.1 = i then (p.1, f p.2) else p)
      fun j => if j = i then (m j).map f else m j where
  sorted := by
    refine List.pairwise_map.mpr (h.sorted.imp fun {p q} hpq => ?_)
    split_ifs <;> exact hpq
  mem_iff := by
    intro j b
    simp only [List.mem_map, Prod.exists]
    constructor
    · -- a listed row has the value of its key, changed where the key is `i`
      rintro ⟨k, a, ha, heq⟩
      have hsome := (h.mem_iff k a).mp ha
      by_cases hk : k = i
      · rw [if_pos hk] at heq
        obtain ⟨rfl, rfl⟩ := Prod.mk.inj heq
        rw [if_pos hk, hsome, Option.map_some]
      · rw [if_neg hk] at heq
        obtain ⟨rfl, rfl⟩ := Prod.mk.inj heq
        rw [if_neg hk, hsome]
    · -- a value comes from a row, changed where the key is `i`
      intro hsome
      by_cases hj : j = i
      · rw [if_pos hj] at hsome
        obtain ⟨a, ha, rfl⟩ := Option.map_eq_some_iff.mp hsome
        exact ⟨j, a, (h.mem_iff j a).mpr ha, by rw [if_pos hj]⟩
      · rw [if_neg hj] at hsome
        exact ⟨j, b, (h.mem_iff j b).mpr hsome, by rw [if_neg hj]⟩

/-- The row with one key is removed. -/
theorem Represents.erase (h : Represents rows m) (i : ℤ) :
    Represents (rows.filter fun p => decide (p.1 ≠ i)) (Function.update m i none) where
  sorted := h.sorted.filter _
  mem_iff := by
    intro j b
    rw [List.mem_filter, h.mem_iff, decide_eq_true_iff]
    by_cases hj : j = i
    · simp [hj]
    · simp [hj]

/-! ## Rows that an operation leaves alone -/

section Kept

variable {i : Option ℤ} {P : ℤ → Prop} [DecidablePred P]

/-- Changing the row with one key keeps the rows with a property of the key, if it changes none of
them. -/
theorem filter_modify_eq_iff {f : α → α} :
    (rows.map fun p => if some p.1 = i then (p.1, f p.2) else p).filter (fun p => P p.1) =
        rows.filter (fun p => P p.1) ↔
      ∀ p ∈ rows, some p.1 = i → P p.1 → f p.2 = p.2 := by
  induction rows with
  | nil => simp
  | cons p rows ih =>
      obtain ⟨j, a⟩ := p
      rw [List.forall_mem_cons, ← ih, List.map_cons]
      by_cases hj : some j = i <;> by_cases hP : P j <;> simp [hj, hP]

/-- Changing the row with one key keeps all rows, if it does nothing to that row. -/
theorem modify_eq_self_iff {f : α → α} :
    (rows.map fun p => if some p.1 = i then (p.1, f p.2) else p) = rows ↔
      ∀ p ∈ rows, some p.1 = i → f p.2 = p.2 := by
  have hkept : (rows.map fun p => if some p.1 = i then (p.1, f p.2) else p).filter (fun _ => True) =
      rows.filter (fun _ => True) ↔ ∀ p ∈ rows, some p.1 = i → True → f p.2 = p.2 :=
    filter_modify_eq_iff (P := fun _ => True)
  simpa using hkept

/-- Removing the row with one key keeps the rows with a property of the key, if it removes none of
them. -/
theorem filter_erase_eq_iff :
    (rows.filter fun p => decide (some p.1 ≠ i)).filter (fun p => P p.1) =
        rows.filter (fun p => P p.1) ↔
      ∀ p ∈ rows, some p.1 = i → ¬ P p.1 := by
  have hcomm : (rows.filter fun p => decide (some p.1 ≠ i)).filter (fun p => P p.1) =
      (rows.filter fun p => P p.1).filter fun p => decide (some p.1 ≠ i) := by
    simp only [List.filter_filter, Bool.and_comm]
  -- what is left to ask is whether the removal takes anything from the rows that are kept
  rw [hcomm, List.filter_eq_self]
  simp only [List.mem_filter, decide_eq_true_eq]
  constructor
  · exact fun h p hp hkey hP => h p ⟨hp, hP⟩ hkey
  · exact fun h p hp hkey => h p hp.1 hkey hp.2

/-- If the rows with a property are the same before and after, and before all rows had it, then all
rows are the same. -/
theorem eq_of_filter_eq {rows' : List (ℤ × α)}
    (hkeys : ∀ p' ∈ rows', ∃ p ∈ rows, p.1 = p'.1)
    (h : rows'.filter (fun p => P p.1) = rows.filter (fun p => P p.1))
    (hall : ∀ p ∈ rows, P p.1) : rows' = rows := by
  have hrows : rows.filter (fun p => P p.1) = rows :=
    List.filter_eq_self.mpr fun p hp => decide_eq_true (hall p hp)
  have hrows' : rows'.filter (fun p => P p.1) = rows' := by
    refine List.filter_eq_self.mpr fun p' hp' => decide_eq_true ?_
    obtain ⟨p, hp, hkey⟩ := hkeys p' hp'
    exact hkey ▸ hall p hp
  rw [← hrows', h, hrows]

end Kept

/-- The rows under a key after the row with one key has been changed. -/
theorem mem_modify_iff {i : Option ℤ} {f : α → α} {j : ℤ} {b : α} :
    ((j, b) ∈ rows.map fun p => if some p.1 = i then (p.1, f p.2) else p) ↔
      ∃ a, (j, a) ∈ rows ∧ b = if some j = i then f a else a := by
  simp only [List.mem_map, Prod.exists]
  constructor
  · rintro ⟨k, a, hmem, heq⟩
    by_cases hk : some k = i
    · rw [if_pos hk] at heq
      obtain ⟨rfl, rfl⟩ := Prod.mk.inj heq
      exact ⟨a, hmem, by rw [if_pos hk]⟩
    · rw [if_neg hk] at heq
      obtain ⟨rfl, rfl⟩ := Prod.mk.inj heq
      exact ⟨a, hmem, by rw [if_neg hk]⟩
  · rintro ⟨a, hmem, rfl⟩
    exact ⟨j, a, hmem, by split_ifs <;> rfl⟩

/-- In the order of the keys there is one row under a key. -/
theorem eq_of_mem_of_sorted (h : rows.Pairwise fun p q => p.1 < q.1) {j : ℤ} {a b : α}
    (ha : (j, a) ∈ rows) (hb : (j, b) ∈ rows) : a = b := by
  induction rows with
  | nil => exact absurd ha List.not_mem_nil
  | cons p rows ih =>
      obtain ⟨hlt, hrest⟩ := List.pairwise_cons.mp h
      rcases List.mem_cons.mp ha with rfl | ha'
      · rcases List.mem_cons.mp hb with heq | hb'
        · exact (congrArg Prod.snd heq).symm
        · exact absurd (hlt _ hb') (lt_irrefl j)
      · rcases List.mem_cons.mp hb with rfl | hb'
        · exact absurd (hlt _ ha') (lt_irrefl j)
        · exact ih hrest ha' hb'

/-- Changing the row with one key is changing the row with another one exactly when both do the same
where the keys meet, and neither does anything elsewhere. -/
theorem modify_eq_modify_iff {i : Option ℤ} {j : ℤ} {f g : α → α} :
    ((rows.map fun p => if some p.1 = i then (p.1, f p.2) else p) =
        rows.map fun p => if p.1 = j then (p.1, g p.2) else p) ↔
      ∀ p ∈ rows, (some p.1 = i → p.1 = j → f p.2 = g p.2) ∧
        (some p.1 = i → p.1 ≠ j → f p.2 = p.2) ∧ (some p.1 ≠ i → p.1 = j → g p.2 = p.2) := by
  rw [List.map_inj_left]
  refine forall₂_congr fun p _ => ?_
  obtain ⟨k, a⟩ := p
  by_cases hj : k = j
  · subst hj
    by_cases hi : some k = i <;> simp [hi, eq_comm]
  · by_cases hi : some k = i <;> simp [hi, hj]

/-! ## Stored values -/

/-- The rows store the values under the same keys, as `enc` relates rows and values. -/
def Stored {ρ : Type} (enc : ρ → α → Prop) (rows : List (ℤ × ρ)) (values : List (ℤ × α)) : Prop :=
  List.Forall₂ (fun p q => p.1 = q.1 ∧ enc p.2 q.2) rows values

section Stored

variable {ρ : Type} {enc : ρ → α → Prop} {stored : List (ℤ × ρ)} {values : List (ℤ × α)}

theorem Stored.concat (h : Stored enc stored values) {r : ρ} {a : α} (ha : enc r a) (i : ℤ) :
    Stored enc (stored ++ [(i, r)]) (values ++ [(i, a)]) :=
  List.rel_append h (List.Forall₂.cons ⟨rfl, ha⟩ List.Forall₂.nil)

theorem Stored.modify (h : Stored enc stored values) (i : ℤ) {f : ρ → ρ} {g : α → α}
    (hfg : ∀ r a, enc r a → enc (f r) (g a)) :
    Stored enc (stored.map fun p => if p.1 = i then (p.1, f p.2) else p)
      (values.map fun p => if p.1 = i then (p.1, g p.2) else p) := by
  refine List.rel_map ?_ h
  rintro ⟨j, r⟩ ⟨k, a⟩ ⟨hkey, ha⟩
  obtain rfl : j = k := hkey
  dsimp only
  split_ifs
  · exact ⟨rfl, hfg r a ha⟩
  · exact ⟨rfl, ha⟩

theorem Stored.erase (h : Stored enc stored values) (i : ℤ) :
    Stored enc (stored.filter fun p => decide (p.1 ≠ i))
      (values.filter fun p => decide (p.1 ≠ i)) := by
  refine List.rel_filter ?_ h
  rintro ⟨j, r⟩ ⟨k, a⟩ ⟨hkey, -⟩
  obtain rfl : j = k := hkey
  exact Iff.rfl

theorem Stored.keys (h : Stored enc stored values) {P : ℤ → Prop} (hP : ∀ p ∈ stored, P p.1) :
    ∀ q ∈ values, P q.1 := by
  induction h with
  | nil => simp
  | @cons p q stored values hpq _ ih =>
      intro q' hq'
      rcases List.mem_cons.mp hq' with rfl | hrest
      · exact hpq.1 ▸ hP p List.mem_cons_self
      · exact ih (fun p hp => hP p (List.mem_cons_of_mem _ hp)) q' hrest

/-- Reading every row yields every value, in the order of the keys. -/
theorem Stored.read {γ δ : Type} (h : Stored enc stored values) {decode : ℤ × ρ → Option γ}
    {view : γ → δ} {g : ℤ × α → δ}
    (hdecode : ∀ i r a, (i, r) ∈ stored → enc r a → (decode (i, r)).map view = some (g (i, a))) :
    (stored.filterMap decode).map view = values.map g := by
  induction h with
  | nil => rfl
  | @cons p q stored values hpq h ih =>
      obtain ⟨i, r⟩ := p
      obtain ⟨j, a⟩ := q
      obtain ⟨hkey, ha⟩ := hpq
      obtain rfl : i = j := hkey
      obtain ⟨model, hmodel, hview⟩ :=
        Option.map_eq_some_iff.mp (hdecode i r a List.mem_cons_self ha)
      rw [List.filterMap_cons_some hmodel, List.map_cons, List.map_cons, hview,
        ih fun k s b hmem => hdecode k s b (List.mem_cons_of_mem _ hmem)]

end Stored

/-! ## Reading a part of the rows -/

section Part

variable {γ δ : Type} {f : γ → Option δ}

theorem isSome_of_map_eq_map_some {xs : List γ} {ys : List δ} (h : xs.map f = ys.map some) :
    ∀ a ∈ xs, (f a).isSome = true := by
  intro a ha
  have hmem : f a ∈ xs.map f := List.mem_map_of_mem ha
  rw [h] at hmem
  obtain ⟨b, -, hb⟩ := List.mem_map.mp hmem
  rw [← hb]
  rfl

/-- What is read of a part of the rows is all of them exactly when every row can be read and none is
left out. -/
theorem map_eq_map_filterMap_iff {part whole : List γ} (hpart : part <+: whole) :
    whole.map f = (part.filterMap f).map some ↔
      (∀ a ∈ whole, (f a).isSome = true) ∧ part = whole := by
  constructor
  · intro h
    have hlength := congrArg List.length h
    rw [List.length_map, List.length_map] at hlength
    have hle := List.length_filterMap_le f part
    exact ⟨isSome_of_map_eq_map_some h, hpart.eq_of_length_le (by omega)⟩
  · rintro ⟨hall, rfl⟩
    rw [List.map_filterMap_some_eq_filter_map_isSome, eq_comm, List.filter_eq_self]
    intro b hb
    obtain ⟨a, ha, rfl⟩ := List.mem_map.mp hb
    exact hall a ha

end Part

/-! ## Engines -/

/-- An engine for tables of `α`. Its operations may fail and then leave the table as it was; when
they succeed, they do to the rows what the laws say. -/
structure Engine (α : Type) where
  Table : Type
  create : Table
  /-- The rows, as a scan of the table finds them. -/
  rows : Table → List (ℤ × α)
  /-- The largest key the table has given out. -/
  sequence : Table → ℤ
  insert : α → Table → Option Table
  update : ℤ → (α → α) → Table → Option Table
  delete : ℤ → Table → Option Table
  rows_create : rows create = []
  sequence_create : sequence create = 0
  rows_insert : ∀ {a t t'}, insert a t = some t' → rows t' = rows t ++ [(sequence t + 1, a)]
  sequence_insert : ∀ {a t t'}, insert a t = some t' → sequence t' = sequence t + 1
  rows_update : ∀ {i f t t'}, update i f t = some t' →
    rows t' = (rows t).map fun p => if p.1 = i then (p.1, f p.2) else p
  sequence_update : ∀ {i f t t'}, update i f t = some t' → sequence t' = sequence t
  rows_delete : ∀ {i t t'}, delete i t = some t' →
    rows t' = (rows t).filter fun p => decide (p.1 ≠ i)
  sequence_delete : ∀ {i t t'}, delete i t = some t' → sequence t' = sequence t

/-- The engine that keeps the rows and the counter in memory, and never fails. -/
def Engine.memory (α : Type) : Engine α where
  Table := List (ℤ × α) × ℤ
  create := ([], 0)
  rows := Prod.fst
  sequence := Prod.snd
  insert a t := some (t.1 ++ [(t.2 + 1, a)], t.2 + 1)
  update i f t := some (t.1.map fun p => if p.1 = i then (p.1, f p.2) else p, t.2)
  delete i t := some (t.1.filter fun p => decide (p.1 ≠ i), t.2)
  rows_create := rfl
  sequence_create := rfl
  rows_insert := by
    rintro a t t' h
    rw [← Option.some.inj h]
  sequence_insert := by
    rintro a t t' h
    rw [← Option.some.inj h]
  rows_update := by
    rintro i f t t' h
    rw [← Option.some.inj h]
  sequence_update := by
    rintro i f t t' h
    rw [← Option.some.inj h]
  rows_delete := by
    rintro i t t' h
    rw [← Option.some.inj h]
  sequence_delete := by
    rintro i t t' h
    rw [← Option.some.inj h]

/-! ## Updates under a key that may be missing -/

variable {ρ : Type} {E : Engine ρ} {enc : ρ → α → Prop} {t t' : E.Table}

/-- An update of the row with an id, or of none when the id is nil. -/
theorem rows_updateId {id : Option ℤ} {f : ρ → ρ}
    (h : (match id with
      | none => some t
      | some id => E.update id f t) = some t') :
    E.rows t' = (E.rows t).map fun p => if some p.1 = id then (p.1, f p.2) else p := by
  cases id with
  | none =>
      obtain rfl := Option.some.inj h
      simp
  | some id => simpa using E.rows_update h

theorem sequence_updateId {id : Option ℤ} {f : ρ → ρ}
    (h : (match id with
      | none => some t
      | some id => E.update id f t) = some t') : E.sequence t' = E.sequence t := by
  cases id with
  | none => rw [Option.some.inj h]
  | some id => exact E.sequence_update h

/-- Such an update is refused when the engine refuses it for the id. -/
theorem updateId_eq_none_iff {id : Option ℤ} {f : ρ → ρ} :
    (match id with
      | none => some t
      | some id => E.update id f t) = none ↔ ∃ i, id = some i ∧ E.update i f t = none := by
  cases id with
  | none => simp
  | some id => simp

/-! ## A table holds a map -/

/-- The table stores the map, and its keys are among those it has given out. -/
structure Holds (E : Engine ρ) (enc : ρ → α → Prop) (t : E.Table) (m : ℤ → Option α) : Prop where
  stored : ∃ values, Stored enc (E.rows t) values ∧ Represents values m
  keys : ∀ p ∈ E.rows t, 0 < p.1 ∧ p.1 ≤ E.sequence t
  sequence : 0 ≤ E.sequence t

theorem holds_create (E : Engine ρ) (enc : ρ → α → Prop) :
    Holds E enc E.create fun _ => none where
  stored := ⟨[], by rw [E.rows_create]; exact List.Forall₂.nil, represents_nil⟩
  keys := by simp [E.rows_create]
  sequence := by rw [E.sequence_create]

theorem Holds.insert (h : Holds E enc t m) {r : ρ} {a : α} (ha : enc r a)
    (hinsert : E.insert r t = some t') :
    Holds E enc t' (Function.update m (E.sequence t + 1) (some a)) := by
  obtain ⟨values, hstored, hrepresents⟩ := h.stored
  have hsequence := h.sequence
  refine ⟨⟨values ++ [(E.sequence t + 1, a)], ?_, ?_⟩, ?_, ?_⟩
  · rw [E.rows_insert hinsert]
    exact hstored.concat ha _
  · refine hrepresents.concat ?_ a
    refine hstored.keys (P := fun i => i < E.sequence t + 1) fun p hp => ?_
    have hkey := (h.keys p hp).2
    omega
  · intro p hp
    rw [E.rows_insert hinsert] at hp
    rw [E.sequence_insert hinsert]
    rcases List.mem_append.mp hp with hold | hnew
    · have hkey := h.keys p hold
      omega
    · rw [List.mem_singleton.mp hnew]
      dsimp only
      omega
  · rw [E.sequence_insert hinsert]
    omega

theorem Holds.update (h : Holds E enc t m) {i : ℤ} {f : ρ → ρ} {b : α}
    (hf : ∀ r a, enc r a → enc (f r) b) (hupdate : E.update i f t = some t') :
    Holds E enc t' fun j => if j = i then (m j).map fun _ => b else m j := by
  obtain ⟨values, hstored, hrepresents⟩ := h.stored
  refine ⟨⟨_, ?_, hrepresents.modify i fun _ => b⟩, ?_, ?_⟩
  · rw [E.rows_update hupdate]
    exact hstored.modify i hf
  · intro p hp
    rw [E.rows_update hupdate] at hp
    obtain ⟨q, hq, rfl⟩ := List.mem_map.mp hp
    rw [E.sequence_update hupdate]
    split_ifs <;> exact h.keys q hq
  · rw [E.sequence_update hupdate]
    exact h.sequence

theorem Holds.delete (h : Holds E enc t m) {i : ℤ} (hdelete : E.delete i t = some t') :
    Holds E enc t' (Function.update m i none) := by
  obtain ⟨values, hstored, hrepresents⟩ := h.stored
  refine ⟨⟨_, ?_, hrepresents.erase i⟩, ?_, ?_⟩
  · rw [E.rows_delete hdelete]
    exact hstored.erase i
  · intro p hp
    rw [E.rows_delete hdelete] at hp
    rw [E.sequence_delete hdelete]
    exact h.keys p (List.mem_of_mem_filter hp)
  · rw [E.sequence_delete hdelete]
    exact h.sequence

end KeyedTable
