import PasswordPackage.Data.StatementCache

/-!
# Reusing statements

A statement is taken from the cache only when no result set reads it, so no two open result sets
share one, and nothing that is retained is ever closed. Each call keeps this, as long as it brings
an argument for every parameter, whatever becomes of the schema.
-/

namespace PasswordPackage.StatementCache

open FMDB

/-! ## The invariant -/

/-- The statement was compiled from the query and is there to be used. -/
def Compiled (parameters : String → ℕ) (db : FMDatabase) (query : String) (o : ℕ) : Prop :=
  ∃ bindings, bindings.length = parameters query ∧
    (db.statements o).statement = some ⟨query, bindings, false⟩

/-- The number has not been given to a statement yet. -/
def Unused (s : FMStatement) : Prop :=
  s.statement = none ∧ s.inUse = false

/-- A result set that is not closed has a statement of its own, which is in use and not finalized,
and a cached statement was compiled from the query it is cached under. -/
structure Inv (parameters : String → ℕ) (db : FMDatabase) : Prop where
  held : ∀ i o, (db.resultSets i).statement = some o →
    o < db.nextStatement ∧ i < db.nextResultSet ∧ (db.resultSets i).parentDB = true ∧
      i ∈ db.openResultSets ∧ (db.statements o).inUse = true ∧
      (db.statements o).statement ≠ none ∧ db.db ≠ none
  exclusive : ∀ i j o, (db.resultSets i).statement = some o →
    (db.resultSets j).statement = some o → i = j
  cached : ∀ query o, (query, o) ∈ db.cachedStatements.getD [] →
    db.db ≠ none ∧ o < db.nextStatement ∧ Compiled parameters db query o
  inUse : ∀ o, (db.statements o).inUse = true → ∃ i, (db.resultSets i).statement = some o
  live : ∀ o stmt, (db.statements o).statement = some stmt → stmt.finalized = false
  fresh : ∀ o, db.nextStatement ≤ o → Unused (db.statements o)

/-- The cache or a result set retains the statement. -/
def Retained (db : FMDatabase) (o : ℕ) : Prop :=
  (∃ query, (query, o) ∈ db.cachedStatements.getD []) ∨
    ∃ i, (db.resultSets i).statement = some o

/-- Statements that nothing retains are gone. -/
def NoLeak (db : FMDatabase) : Prop :=
  ∀ o, ¬ Retained db o → Unused (db.statements o)

variable {parameters : String → ℕ} {db : FMDatabase} {order : SetOrder}

theorem retained_iff (h : ∀ i o, (db.resultSets i).statement = some o → i < db.nextResultSet)
    (o : ℕ) : db.retained o = true ↔ Retained db o := by
  have hrange : (∃ i, i < db.nextResultSet ∧ (db.resultSets i).statement = some o) ↔
      ∃ i, (db.resultSets i).statement = some o :=
    ⟨fun ⟨i, _, hi⟩ => ⟨i, hi⟩, fun ⟨i, hi⟩ => ⟨i, h i o hi, hi⟩⟩
  simp [FMDatabase.retained, Retained, hrange]

@[simp] theorem statements_setStatement (o o' : ℕ) (s : FMStatement) :
    (db.setStatement o s).statements o' = if o' = o then s else db.statements o' :=
  Function.update_apply ..

/-- Nothing points to a finalized statement. -/
def Live (db : FMDatabase) : Prop :=
  ∀ o stmt, (db.statements o).statement = some stmt → stmt.finalized = false

theorem touch_eq_self (h : Live db) (o : ℕ) : db.touch o = db := by
  have hdangling : db.dangling o = false := by
    unfold FMDatabase.dangling
    cases hstatement : (db.statements o).statement with
    | none => rfl
    | some stmt => exact h o stmt hstatement
  simp [FMDatabase.touch, hdangling]

theorem resetStatement_eq (h : Live db) (o : ℕ) :
    db.resetStatement o = db.setStatement o (db.statements o).reset := by
  rw [FMDatabase.resetStatement, touch_eq_self h]

theorem closeStatement_eq (h : Live db) (o : ℕ) :
    db.closeStatement o = db.setStatement o (db.statements o).close := by
  rw [FMDatabase.closeStatement, touch_eq_self h]

theorem live_setStatement (h : Live db) (o : ℕ) {s : FMStatement}
    (hs : ∀ stmt, s.statement = some stmt → stmt.finalized = false) :
    Live (db.setStatement o s) := by
  intro o' stmt hstatement
  rw [statements_setStatement] at hstatement
  split at hstatement
  · exact hs stmt hstatement
  · exact h o' stmt hstatement

theorem closeStatements_eq (h : Live db) (os : List ℕ) :
    db.closeStatements os = { db with
      statements := fun o => if o ∈ os then (db.statements o).close else db.statements o } := by
  induction os generalizing db with
  | nil => rfl
  | cons o os ih =>
      show (db.closeStatement o).closeStatements os = _
      rw [closeStatement_eq h, ih (live_setStatement h o (fun _ hclosed => by cases hclosed))]
      simp only [FMDatabase.setStatement, FMDatabase.mk.injEq, true_and, and_true]
      funext o'
      by_cases hsame : o' = o
      · subst hsame
        simp [FMStatement.close]
      · simp [hsame]

/-- What deallocating does, when nothing is finalized behind the back of a statement. -/
theorem deallocates_eq (h : Live db) :
    db.deallocates = { db with
      statements := fun o => if o < db.nextStatement ∧ db.retained o = false
        then (db.statements o).close else db.statements o } := by
  simp [FMDatabase.deallocates, closeStatements_eq h]

theorem live_deallocates (h : Live db) : Live db.deallocates := by
  rw [deallocates_eq h]
  intro o stmt hstatement
  dsimp only at hstatement
  split at hstatement
  · cases hstatement
  · exact h o stmt hstatement

/-- The numbers of result sets and statements are below the counters. -/
structure Numbered (db : FMDatabase) : Prop where
  resultSets : ∀ i o, (db.resultSets i).statement = some o → i < db.nextResultSet
  fresh : ∀ o, db.nextStatement ≤ o → Unused (db.statements o)

theorem statements_deallocates (h : Live db) (hnumbered : Numbered db) {o : ℕ}
    (hretained : Retained db o) : db.deallocates.statements o = db.statements o := by
  rw [deallocates_eq h]
  simp [(retained_iff hnumbered.resultSets o).mpr hretained]

theorem noLeak_deallocates (h : Live db) (hnumbered : Numbered db) : NoLeak db.deallocates := by
  intro o hretained
  have hfalse : db.retained o = false := by
    rw [deallocates_eq h] at hretained
    simpa using mt (retained_iff hnumbered.resultSets o).mp hretained
  rw [deallocates_eq h]
  by_cases ho : o < db.nextStatement
  · simp [ho, hfalse, Unused, FMStatement.close]
  · simp only [ho, false_and, if_false]
    exact hnumbered.fresh o (Nat.le_of_not_lt ho)

theorem Inv.numbered (h : Inv parameters db) : Numbered db :=
  ⟨fun i o hi => (h.held i o hi).2.1, h.fresh⟩

/-- Deallocating keeps the invariant: it closes nothing that is held or cached. -/
theorem inv_deallocates (h : Inv parameters db) : Inv parameters db.deallocates := by
  -- what is in the cache or held by a result set is retained
  have hkeep : ∀ o, Retained db o → db.deallocates.statements o = db.statements o :=
    fun _ => statements_deallocates h.live h.numbered
  have hheld : ∀ i o, (db.resultSets i).statement = some o → Retained db o :=
    fun i _ hi => Or.inr ⟨i, hi⟩
  have hcached : ∀ query o, (query, o) ∈ db.cachedStatements.getD [] → Retained db o :=
    fun query _ ho => Or.inl ⟨query, ho⟩
  have hlive := live_deallocates h.live
  have heq := deallocates_eq h.live
  refine ⟨?_, ?_, ?_, ?_, hlive, ?_⟩
  · intro i o hi
    have hi' : (db.resultSets i).statement = some o := by rwa [heq] at hi
    rw [hkeep o (hheld i o hi')]
    rw [heq]
    exact h.held i o hi'
  · intro i j o hi hj
    rw [heq] at hi hj
    exact h.exclusive i j o hi hj
  · intro query o ho
    have ho' : (query, o) ∈ db.cachedStatements.getD [] := by rwa [heq] at ho
    obtain ⟨hopen, hlt, hcompiled⟩ := h.cached query o ho'
    unfold Compiled
    rw [hkeep o (hcached query o ho')]
    rw [heq]
    exact ⟨hopen, hlt, hcompiled⟩
  · -- a statement that is closed is not in use
    intro o hinUse
    have hinUse' : (db.statements o).inUse = true := by
      rw [heq] at hinUse
      dsimp only at hinUse
      split at hinUse
      · cases hinUse
      · exact hinUse
    obtain ⟨i, hi⟩ := h.inUse o hinUse'
    exact ⟨i, by rw [heq]; exact hi⟩
  · intro o ho
    rw [heq] at ho ⊢
    dsimp only
    split
    · exact ⟨rfl, rfl⟩
    · exact h.fresh o ho

/-! ## Calls keep the invariant -/

/-- The invariant, with nothing left over. -/
structure Sound (parameters : String → ℕ) (db : FMDatabase) : Prop where
  inv : Inv parameters db
  noLeak : NoLeak db

theorem sound_emits (h : Sound parameters db) (outputs : List Output) :
    Sound parameters (db.emits outputs) :=
  ⟨⟨h.inv.held, h.inv.exclusive, h.inv.cached, h.inv.inUse, h.inv.live, h.inv.fresh⟩, h.noLeak⟩

theorem not_held (h : Inv parameters db) {o : ℕ} (hfree : (db.statements o).inUse = false) (i : ℕ) :
    (db.resultSets i).statement ≠ some o := by
  intro hi
  have hinUse := (h.held i o hi).2.2.2.2.1
  rw [hfree] at hinUse
  cases hinUse

/-- A statement that is not in use may be bound anew. -/
theorem inv_setStatement (h : Inv parameters db) {o : ℕ} {s : FMStatement} (ho : o < db.nextStatement)
    (hfree : (db.statements o).inUse = false) (hinUse : s.inUse = false)
    (hlive : ∀ stmt, s.statement = some stmt → stmt.finalized = false)
    (hcached : ∀ query, (query, o) ∈ db.cachedStatements.getD [] →
      ∃ bindings, bindings.length = parameters query ∧
        s.statement = some ⟨query, bindings, false⟩) :
    Inv parameters (db.setStatement o s) := by
  refine ⟨?_, h.exclusive, ?_, ?_, live_setStatement h.live o hlive, ?_⟩
  · -- nobody reads the statement that changes
    intro i o' hi
    have hne : o' ≠ o := fun heq => not_held h hfree i (heq ▸ hi)
    rw [statements_setStatement, if_neg hne]
    exact h.held i o' hi
  · intro query o' hentry
    obtain ⟨hopen, ho', hcompiled⟩ := h.cached query o' hentry
    refine ⟨hopen, ho', ?_⟩
    unfold Compiled
    rw [statements_setStatement]
    -- it still has the text it is cached under
    split
    · next heq => exact hcached query (heq ▸ hentry)
    · exact hcompiled
  · intro o' ho'
    rw [statements_setStatement] at ho'
    split at ho'
    · rw [hinUse] at ho'
      cases ho'
    · exact h.inUse o' ho'
  · intro o' ho'
    have hne : o' ≠ o := by
      rintro rfl
      exact absurd ho (Nat.not_lt.mpr ho')
    rw [statements_setStatement, if_neg hne]
    exact h.fresh o' ho'

theorem noLeak_setStatement (h : NoLeak db) {o : ℕ} {s : FMStatement}
    (hretained : Retained db o) : NoLeak (db.setStatement o s) := by
  intro o' ho'
  have hne : o' ≠ o := by
    rintro rfl
    exact ho' hretained
  rw [statements_setStatement, if_neg hne]
  exact h o' ho'

theorem statements_newStatement (stmt : Stmt) (o : ℕ) :
    (db.newStatement stmt).statements o =
      if o = db.nextStatement then ⟨some stmt, false, 0⟩ else db.statements o :=
  Function.update_apply ..

/-- Nobody knows a new statement yet. -/
theorem inv_newStatement (h : Inv parameters db) {stmt : Stmt} (hstmt : stmt.finalized = false) :
    Inv parameters (db.newStatement stmt) := by
  -- the numbers given out before keep their statements
  have hold : ∀ o, o < db.nextStatement →
      (db.newStatement stmt).statements o = db.statements o := by
    intro o ho
    rw [statements_newStatement, if_neg (Nat.ne_of_lt ho)]
  refine ⟨?_, h.exclusive, ?_, ?_, ?_, ?_⟩
  · intro i o hi
    obtain ⟨ho, hrest⟩ := h.held i o hi
    rw [hold o ho]
    exact ⟨Nat.lt_succ_of_lt ho, hrest⟩
  · intro query o hentry
    obtain ⟨hopen, ho, hcompiled⟩ := h.cached query o hentry
    unfold Compiled
    rw [hold o ho]
    exact ⟨hopen, Nat.lt_succ_of_lt ho, hcompiled⟩
  · -- the new statement is not in use, and not finalized
    intro o ho
    rw [statements_newStatement] at ho
    split at ho
    · cases ho
    · exact h.inUse o ho
  · intro o stmt' hstatement
    rw [statements_newStatement] at hstatement
    split at hstatement
    · cases hstatement
      exact hstmt
    · exact h.live o stmt' hstatement
  · intro o ho
    have ho' : db.nextStatement < o := ho
    rw [statements_newStatement, if_neg (by omega)]
    exact h.fresh o (Nat.le_of_lt ho')

theorem mem_setCachedStatement {query query' : String} {o o' : ℕ}
    (hentry : (query', o') ∈ (db.setCachedStatement o query).cachedStatements.getD []) :
    (query', o') ∈ db.cachedStatements.getD [] ∨ query' = query ∧ o' = o := by
  unfold FMDatabase.setCachedStatement at hentry
  cases hcached : db.cachedStatements with
  | none =>
      rw [hcached] at hentry
      cases hentry
  | some entries =>
      rw [hcached] at hentry
      rcases List.mem_append.mp hentry with hold | hnew
      · exact Or.inl hold
      · exact Or.inr (by simpa using hnew)

theorem inv_setCachedStatement (h : Inv parameters db) {query : String} {o : ℕ}
    (hopen : db.db ≠ none) (ho : o < db.nextStatement) (hcompiled : Compiled parameters db query o) :
    Inv parameters (db.setCachedStatement o query) := by
  refine ⟨h.held, h.exclusive, ?_, h.inUse, h.live, h.fresh⟩
  intro query' o' hentry
  rcases mem_setCachedStatement hentry with hold | ⟨rfl, rfl⟩
  · exact h.cached query' o' hold
  · exact ⟨hopen, ho, hcompiled⟩

theorem statements_resultSetWithStatement (o o' : ℕ) :
    (db.resultSetWithStatement o).statements o' =
      if o' = o then { db.statements o with
        inUse := true, useCount := (db.statements o).useCount + 1 }
      else db.statements o' :=
  Function.update_apply ..

theorem resultSets_resultSetWithStatement (o i : ℕ) :
    (db.resultSetWithStatement o).resultSets i =
      if i = db.nextResultSet then ⟨some o, true⟩ else db.resultSets i :=
  Function.update_apply ..

theorem statement_resultSetWithStatement (o o' : ℕ) :
    ((db.resultSetWithStatement o).statements o').statement = (db.statements o').statement := by
  rw [statements_resultSetWithStatement]
  split
  · next heq => rw [heq]
  · rfl

/-- A result set takes a statement that is not in use. -/
theorem inv_resultSetWithStatement (h : Inv parameters db) {o : ℕ} (ho : o < db.nextStatement)
    (hfree : (db.statements o).inUse = false) (hstatement : (db.statements o).statement ≠ none)
    (hopen : db.db ≠ none) : Inv parameters (db.resultSetWithStatement o) := by
  -- the statement was free, so no other result set holds it
  have hnone : ∀ i o', (db.resultSets i).statement = some o' → o' ≠ o :=
    fun i o' hi heq => not_held h hfree i (heq ▸ hi)
  -- the new result set holds it, and the others hold what they held
  have hcases : ∀ i o', ((db.resultSetWithStatement o).resultSets i).statement = some o' →
      (i = db.nextResultSet ∧ o' = o) ∨ (i ≠ db.nextResultSet ∧
        (db.resultSets i).statement = some o') := by
    intro i o' hi
    rw [resultSets_resultSetWithStatement] at hi
    split at hi
    · next heq => exact Or.inl ⟨heq, (Option.some.inj hi).symm⟩
    · next hne => exact Or.inr ⟨hne, hi⟩
  refine ⟨?_, ?_, ?_, ?_, ?_, ?_⟩
  · intro i o' hi
    rw [statement_resultSetWithStatement, statements_resultSetWithStatement,
      resultSets_resultSetWithStatement]
    rcases hcases i o' hi with ⟨rfl, rfl⟩ | ⟨hne, hold⟩
    · rw [if_pos rfl, if_pos rfl]
      exact ⟨ho, Nat.lt_succ_self _, rfl, List.mem_append_right _ (List.mem_singleton_self _), rfl,
        hstatement, hopen⟩
    · rw [if_neg hne, if_neg (hnone i o' hold)]
      obtain ⟨ho', hi', hparent, hmem, hrest⟩ := h.held i o' hold
      exact ⟨ho', Nat.lt_succ_of_lt hi', hparent, List.mem_append_left _ hmem, hrest⟩
  · -- no two result sets share a statement
    intro i j o' hi hj
    rcases hcases i o' hi with ⟨hnew, hsame⟩ | ⟨-, hold⟩
    · rcases hcases j o' hj with ⟨hnew', -⟩ | ⟨-, hold'⟩
      · rw [hnew, hnew']
      · exact absurd hsame (hnone j o' hold')
    · rcases hcases j o' hj with ⟨-, hsame⟩ | ⟨-, hold'⟩
      · exact absurd hsame (hnone i o' hold)
      · exact h.exclusive i j o' hold hold'
  · intro query o' hentry
    obtain ⟨-, ho', bindings, hcount, hcompiled⟩ := h.cached query o' hentry
    refine ⟨hopen, ho', bindings, hcount, ?_⟩
    rw [statement_resultSetWithStatement]
    exact hcompiled
  · -- a statement in use is the new one, or was in use before
    intro o' ho'
    rw [statements_resultSetWithStatement] at ho'
    split at ho'
    · next heq =>
        refine ⟨db.nextResultSet, ?_⟩
        rw [resultSets_resultSetWithStatement, if_pos rfl, heq]
    · obtain ⟨i, hi⟩ := h.inUse o' ho'
      refine ⟨i, ?_⟩
      rw [resultSets_resultSetWithStatement, if_neg (Nat.ne_of_lt (h.held i o' hi).2.1)]
      exact hi
  · intro o' stmt hstmt
    rw [statement_resultSetWithStatement] at hstmt
    exact h.live o' stmt hstmt
  · intro o' ho'
    have hlt : o < o' := Nat.lt_of_lt_of_le ho ho'
    rw [statements_resultSetWithStatement, if_neg (by omega)]
    exact h.fresh o' ho'

/-! ## Acquiring a statement -/

theorem cachedStatementForQuery_spec {query : String} {o : ℕ}
    (h : db.cachedStatementForQuery order query = some o) :
    (query, o) ∈ db.cachedStatements.getD [] ∧ (db.statements o).inUse = false := by
  have hmem := (order.perm _).mem_iff.mp (List.mem_of_find?_eq_some h)
  have hfree := List.find?_some h
  obtain ⟨⟨query', o'⟩, hentry, hsome⟩ := List.mem_filterMap.mp hmem
  dsimp only at hsome
  split at hsome
  · next heq =>
      obtain rfl := Option.some.inj hsome
      exact ⟨heq ▸ hentry, by simpa using hfree⟩
  · cases hsome

/-- The object of a statement after it was reset and bound. -/
def rebound (s : FMStatement) (sql : String) (bindings : List SqlValue) : FMStatement :=
  { s with statement := some ⟨sql, bindings, false⟩, inUse := false }

/-- With enough arguments a call fails only when its text is not accepted; else it works on a
statement bound to its arguments, which is new or was not in use. -/
theorem acquire_cases (h : Inv parameters db) (order : SetOrder) {sql : String}
    {arguments : List (Option NSObject)} (henough : parameters sql ≤ arguments.length) :
    (db.accepts order sql = false ∧ db.acquire parameters order sql arguments = .failed db) ∨
      (db.accepts order sql = true ∧ db.db ≠ none ∧
        ((∃ o, (sql, o) ∈ db.cachedStatements.getD [] ∧ (db.statements o).inUse = false ∧
            db.acquire parameters order sql arguments = .cached (db.setStatement o
              (rebound (db.statements o) sql (boundArguments parameters sql arguments))) o) ∨
          db.acquire parameters order sql arguments =
            .prepared db ⟨sql, boundArguments parameters sql arguments, false⟩)) := by
  unfold FMDatabase.acquire FMDatabase.accepts compiles
  cases hdb : db.db with
  | none => exact Or.inl ⟨rfl, rfl⟩
  | some prepares =>
      dsimp only
      cases hfound : db.cachedStatementForQuery order sql with
      | none =>
          -- the text is prepared, if it can be
          cases hprepares : prepares sql with
          | false => exact Or.inl ⟨by simp [hprepares], rfl⟩
          | true =>
              refine Or.inr ⟨by simp [hprepares], Option.some_ne_none _, Or.inr ?_⟩
              simp [bind_prepared henough]
      | some o =>
          -- what is cached under the text was compiled from it, and is bound anew
          obtain ⟨hentry, hfree⟩ := cachedStatementForQuery_spec hfound
          obtain ⟨-, -, bindings, hlength, hstatement⟩ := h.cached sql o hentry
          refine Or.inr ⟨rfl, Option.some_ne_none _, Or.inl ⟨o, hentry, hfree, ?_⟩⟩
          have hbind := bind_eq (show (Stmt.mk sql bindings false).bindings.length ≤
            arguments.length from hlength.le.trans henough)
          simp [resetStatement_eq h.live, FMStatement.reset, hstatement, hbind, hlength,
            FMDatabase.setStatement, rebound, boundArguments]

end PasswordPackage.StatementCache
