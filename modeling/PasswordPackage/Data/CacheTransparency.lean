import PasswordPackage.Data.DataManager
import PasswordPackage.Data.StatementReuse

/-!
# The cache is not seen

Whatever is cached, every call runs its own text with its own arguments, no finalized statement is
used, and closing the database leaves no statement over. So a run gives the same trace whether
statements are cached or not, up to the first call that finds a cached statement of a text that the
schema has made impossible to prepare. The calls of the data manager bring enough arguments for all
this.
-/

namespace PasswordPackage.StatementCache

open Machine FMDB

variable {parameters : String → ℕ} {db : FMDatabase} {order : SetOrder}

/-! ## The database refines the connection -/

/-- What the statement of a result set would run. -/
def reads (db : FMDatabase) (i : ℕ) : Option (String × List SqlValue) :=
  (db.resultSets i).statement.bind fun o =>
    (db.statements o).statement.map fun stmt => (stmt.sql, stmt.bindings)

structure Refines (parameters : String → ℕ) (db : FMDatabase) (c : Connection) : Prop where
  sound : Sound parameters db
  db_eq : db.db = c.db
  nextResultSet : db.nextResultSet = c.nextResultSet
  trace : db.trace = c.trace
  resultSets : reads db = c.resultSets

variable {c : Connection}

theorem refines_emits (h : Refines parameters db c) (outputs : List Output) :
    Refines parameters (db.emits outputs) (c.emits outputs) where
  sound := sound_emits h.sound outputs
  db_eq := h.db_eq
  nextResultSet := h.nextResultSet
  trace := by rw [FMDatabase.emits, Connection.emits, h.trace]
  resultSets := h.resultSets

theorem reads_congr {db' : FMDatabase}
    (hresultSets : ∀ i, (db'.resultSets i).statement = (db.resultSets i).statement)
    (hstatements : ∀ i o, (db.resultSets i).statement = some o →
      (db'.statements o).statement = (db.statements o).statement) : reads db' = reads db := by
  funext i
  unfold reads
  rw [hresultSets i]
  cases hi : (db.resultSets i).statement with
  | none => rfl
  | some o => rw [Option.bind_some, Option.bind_some, hstatements i o hi]

/-- A statement nobody reads can be changed without being seen. -/
theorem reads_setStatement (h : Inv parameters db) {o : ℕ} (hfree : (db.statements o).inUse = false)
    (s : FMStatement) : reads (db.setStatement o s) = reads db := by
  refine reads_congr (fun _ => rfl) ?_
  intro i o' hi
  have hne : o' ≠ o := fun heq => not_held h hfree i (heq ▸ hi)
  rw [statements_setStatement, if_neg hne]

theorem reads_newStatement (h : Inv parameters db) (stmt : Stmt) :
    reads (db.newStatement stmt) = reads db := by
  refine reads_congr (fun _ => rfl) ?_
  intro i o hi
  rw [statements_newStatement, if_neg (Nat.ne_of_lt (h.held i o hi).1)]

theorem reads_resultSetWithStatement (o : ℕ) :
    reads (db.resultSetWithStatement o) = Function.update (reads db) db.nextResultSet
      ((db.statements o).statement.map fun stmt => (stmt.sql, stmt.bindings)) := by
  funext i
  unfold reads
  rw [resultSets_resultSetWithStatement, Function.update_apply]
  split
  · rw [Option.bind_some, statement_resultSetWithStatement]
  · simp only [statement_resultSetWithStatement]

theorem retained_resultSetWithStatement (h : Inv parameters db) {o o' : ℕ} :
    Retained (db.resultSetWithStatement o) o' ↔ o' = o ∨ Retained db o' := by
  constructor
  · rintro (hcached | ⟨i, hi⟩)
    · exact Or.inr (Or.inl hcached)
    · rw [resultSets_resultSetWithStatement] at hi
      split at hi
      · exact Or.inl (Option.some.inj hi).symm
      · exact Or.inr (Or.inr ⟨i, hi⟩)
  · rintro (rfl | hcached | ⟨i, hi⟩)
    · exact Or.inr ⟨db.nextResultSet, by rw [resultSets_resultSetWithStatement, if_pos rfl]⟩
    · exact Or.inl hcached
    · refine Or.inr ⟨i, ?_⟩
      rw [resultSets_resultSetWithStatement, if_neg (Nat.ne_of_lt (h.held i o' hi).2.1)]
      exact hi

/-- A result set retains its statement, so only the others may be left over. -/
theorem noLeak_resultSetWithStatement (h : Inv parameters db) {o : ℕ}
    (hothers : ∀ o', o' ≠ o → ¬ Retained db o' → Unused (db.statements o')) :
    NoLeak (db.resultSetWithStatement o) := by
  intro o' ho'
  obtain ⟨hne, hretained⟩ := not_or.mp (mt (retained_resultSetWithStatement h).mpr ho')
  rw [statements_resultSetWithStatement, if_neg hne]
  exact hothers o' hne hretained

/-- One statement is cached under one text only. -/
theorem cached_unique (h : Inv parameters db) {query query' : String} {o : ℕ}
    (hentry : (query, o) ∈ db.cachedStatements.getD [])
    (hentry' : (query', o) ∈ db.cachedStatements.getD []) : query' = query := by
  obtain ⟨-, -, bindings, -, hstatement⟩ := h.cached query o hentry
  obtain ⟨-, -, bindings', -, hstatement'⟩ := h.cached query' o hentry'
  rw [hstatement] at hstatement'
  exact (Stmt.mk.inj (Option.some.inj hstatement')).1.symm

section Cached

variable {o : ℕ} {sql : String} {bindings : List SqlValue}

/-- A cached statement is bound anew. -/
theorem sound_rebound (h : Sound parameters db) (hentry : (sql, o) ∈ db.cachedStatements.getD [])
    (hfree : (db.statements o).inUse = false) (hlength : bindings.length = parameters sql) :
    Sound parameters (db.setStatement o (rebound (db.statements o) sql bindings)) := by
  have hretained : Retained db o := Or.inl ⟨sql, hentry⟩
  refine ⟨inv_setStatement h.inv (h.inv.cached sql o hentry).2.1 hfree rfl ?_ ?_,
    noLeak_setStatement h.noLeak hretained⟩
  · intro stmt hstmt
    obtain rfl := Option.some.inj hstmt
    rfl
  · intro query hquery
    obtain rfl := cached_unique h.inv hentry hquery
    exact ⟨bindings, hlength, rfl⟩

end Cached

theorem retained_setCachedStatement_of_retained {o o' : ℕ} {query : String}
    (h : Retained db o') : Retained (db.setCachedStatement o query) o' := by
  rcases h with ⟨query', hentry⟩ | hheld
  · refine Or.inl ⟨query', ?_⟩
    unfold FMDatabase.setCachedStatement
    cases hcached : db.cachedStatements with
    | none =>
        rw [hcached] at hentry
        cases hentry
    | some entries =>
        rw [hcached] at hentry
        exact List.mem_append_left _ hentry
  · exact Or.inr hheld

section Prepared

variable {sql : String} {bindings : List SqlValue}

theorem statements_newStatement_self (stmt : Stmt) :
    (db.newStatement stmt).statements db.nextStatement = ⟨some stmt, false, 0⟩ := by
  rw [statements_newStatement, if_pos rfl]

/-- A new statement is put into the cache. -/
theorem inv_prepared (h : Inv parameters db) (hopen : db.db ≠ none)
    (hlength : bindings.length = parameters sql) :
    Inv parameters
      ((db.newStatement ⟨sql, bindings, false⟩).setCachedStatement db.nextStatement sql) := by
  refine inv_setCachedStatement (inv_newStatement h rfl) hopen (Nat.lt_succ_self _) ?_
  exact ⟨bindings, hlength, by rw [statements_newStatement_self]⟩

theorem unused_prepared (h : NoLeak db) {o : ℕ} (hne : o ≠ db.nextStatement)
    (hretained : ¬ Retained ((db.newStatement ⟨sql, bindings, false⟩).setCachedStatement
      db.nextStatement sql) o) :
    Unused (((db.newStatement ⟨sql, bindings, false⟩).setCachedStatement
      db.nextStatement sql).statements o) := by
  show Unused ((db.newStatement ⟨sql, bindings, false⟩).statements o)
  rw [statements_newStatement, if_neg hne]
  exact h o fun hretained' => hretained (retained_setCachedStatement_of_retained hretained')

end Prepared

theorem refines_executeQuery (h : Refines parameters db c) (order : SetOrder) {sql : String}
    {arguments : List (Option NSObject)} (henough : parameters sql ≤ arguments.length) :
    Refines parameters (db.executeQuery parameters order sql arguments)
      (c.executeQuery parameters (db.accepts order sql) sql arguments) := by
  have hinv := h.sound.inv
  have hlength := length_boundArguments henough
  unfold FMDatabase.executeQuery Connection.executeQuery
  rcases acquire_cases hinv order henough with ⟨hrefused, hfailed⟩ |
    ⟨haccepted, hopen, ⟨o, hentry, hfree, hcached⟩ | hprepared⟩
  · rw [hrefused, hfailed]
    exact refines_emits h _
  · -- the result set takes a cached statement, bound to its arguments
    rw [haccepted, hcached]
    generalize boundArguments parameters sql arguments = bindings at hlength
    have hsound := sound_rebound h.sound hentry hfree hlength
    have hstatement : (db.setStatement o (rebound (db.statements o) sql bindings)).statements o =
        rebound (db.statements o) sql bindings := by
      rw [statements_setStatement, if_pos rfl]
    have hnext : Inv parameters ((db.setStatement o (rebound (db.statements o) sql
        bindings)).resultSetWithStatement o) := by
      apply inv_resultSetWithStatement hsound.inv (hinv.cached sql o hentry).2.1
      · rw [hstatement]
        rfl
      · rw [hstatement]
        exact Option.some_ne_none _
      · exact hopen
    refine ⟨⟨hnext, noLeak_resultSetWithStatement hsound.inv fun o' _ ho' => hsound.noLeak o' ho'⟩,
      h.db_eq, congrArg Nat.succ h.nextResultSet, ?_, ?_⟩
    · show db.trace ++ [.query (some db.nextResultSet)] = _
      rw [h.trace, h.nextResultSet]
      rfl
    · rw [reads_resultSetWithStatement, hstatement, reads_setStatement hinv hfree, h.resultSets]
      show Function.update c.resultSets db.nextResultSet (some (sql, bindings)) = _
      rw [h.nextResultSet]
      rfl
  · -- the result set takes a new statement, which goes into the cache
    rw [haccepted, hprepared]
    generalize boundArguments parameters sql arguments = bindings at hlength
    have hprepare := inv_prepared hinv hopen hlength
    have hstatement := @statements_newStatement_self db ⟨sql, bindings, false⟩
    have hnext : Inv parameters (((db.newStatement ⟨sql, bindings, false⟩).setCachedStatement
        db.nextStatement sql).resultSetWithStatement db.nextStatement) := by
      apply inv_resultSetWithStatement hprepare (Nat.lt_succ_self _)
      · exact congrArg FMStatement.inUse hstatement
      · exact fun hclosed => by cases (congrArg FMStatement.statement hstatement).symm.trans hclosed
      · exact hopen
    refine ⟨⟨hnext, noLeak_resultSetWithStatement hprepare fun o' hne ho' =>
        unused_prepared h.sound.noLeak hne ho'⟩,
      h.db_eq, congrArg Nat.succ h.nextResultSet, ?_, ?_⟩
    · show db.trace ++ [.query (some db.nextResultSet)] = _
      rw [h.trace, h.nextResultSet]
      rfl
    · rw [reads_resultSetWithStatement]
      show Function.update (reads (db.newStatement ⟨sql, bindings, false⟩)) db.nextResultSet
        (((db.newStatement ⟨sql, bindings, false⟩).statements db.nextStatement).statement.map _) = _
      rw [hstatement, reads_newStatement hinv, h.resultSets, h.nextResultSet]
      rfl

theorem stepStatement_eq (h : Live db) {o : ℕ} {stmt : Stmt}
    (hstatement : (db.statements o).statement = some stmt) :
    db.stepStatement o = db.emits [.step stmt.sql stmt.bindings] := by
  unfold FMDatabase.stepStatement
  rw [hstatement, touch_eq_self h]

theorem emits_pair (output output' : Output) :
    c.emits [output, output'] = (c.emits [output]).emits [output'] := by
  simp [Connection.emits]

/-- Counting a use changes nothing that is seen. -/
theorem refines_countUse (h : Refines parameters db c) {o : ℕ} (ho : o < db.nextStatement)
    (hfree : (db.statements o).inUse = false) (hretained : Retained db o) :
    Refines parameters (db.countUse o) c where
  sound := by
    refine ⟨?_, noLeak_setStatement h.sound.noLeak hretained⟩
    exact inv_setStatement h.sound.inv ho hfree hfree
      (fun stmt hstmt => h.sound.inv.live o stmt hstmt)
      (fun query hentry => (h.sound.inv.cached query o hentry).2.2)
  db_eq := h.db_eq
  nextResultSet := h.nextResultSet
  trace := h.trace
  resultSets := (reads_setStatement h.sound.inv hfree _).trans h.resultSets

theorem refines_touch (h : Refines parameters db c) (o : ℕ) : Refines parameters (db.touch o) c := by
  rw [touch_eq_self h.sound.inv.live]
  exact h

theorem refines_executeUpdate (h : Refines parameters db c) (order : SetOrder) {sql : String}
    {arguments : List (Option NSObject)} (done : Bool)
    (henough : parameters sql ≤ arguments.length) :
    Refines parameters (db.executeUpdate parameters order sql arguments done)
      (c.executeUpdate parameters (db.accepts order sql) sql arguments done) := by
  have hinv := h.sound.inv
  have hlength := length_boundArguments henough
  unfold FMDatabase.executeUpdate Connection.executeUpdate
  rcases acquire_cases hinv order henough with ⟨hrefused, hfailed⟩ |
    ⟨haccepted, hopen, ⟨o, hentry, hfree, hcached⟩ | hprepared⟩
  · rw [hrefused, hfailed]
    exact refines_emits h _
  · -- a cached statement is bound, stepped and reset
    rw [haccepted, hcached]
    generalize boundArguments parameters sql arguments = bindings at hlength
    have hrebound : Refines parameters
        (db.setStatement o (rebound (db.statements o) sql bindings)) c :=
      ⟨sound_rebound h.sound hentry hfree hlength, h.db_eq, h.nextResultSet, h.trace,
        (reads_setStatement hinv hfree _).trans h.resultSets⟩
    have hstatement : (db.setStatement o (rebound (db.statements o) sql bindings)).statements o =
        rebound (db.statements o) sql bindings := by
      rw [statements_setStatement, if_pos rfl]
    have hstep := stepStatement_eq hrebound.sound.inv.live
      (congrArg FMStatement.statement hstatement)
    dsimp only
    rw [hstep, if_pos rfl, emits_pair]
    have hstepped := refines_emits hrebound [.step sql bindings]
    refine refines_emits (refines_touch (refines_countUse hstepped ?_ ?_ ?_) o) _
    · exact (hinv.cached sql o hentry).2.1
    · exact congrArg FMStatement.inUse hstatement
    · exact Or.inl ⟨sql, hentry⟩
  · -- a new statement is stepped, and put into the cache when there is one
    rw [haccepted, hprepared]
    generalize boundArguments parameters sql arguments = bindings at hlength
    dsimp only
    rw [if_pos rfl, emits_pair]
    have hstepped := refines_emits h [.step sql bindings]
    cases hcache : (db.emits [.step sql bindings]).cachedStatements with
    | none => exact refines_emits hstepped _
    | some entries =>
        have hcached : Retained (((db.emits [.step sql bindings]).newStatement
            ⟨sql, bindings, false⟩).setCachedStatement db.nextStatement sql) db.nextStatement := by
          refine Or.inl ⟨sql, ?_⟩
          show _ ∈ (Option.map _ (db.emits [.step sql bindings]).cachedStatements).getD []
          rw [hcache]
          exact List.mem_append_right _ (List.mem_singleton_self _)
        have hprepare : Refines parameters (((db.emits [.step sql bindings]).newStatement
            ⟨sql, bindings, false⟩).setCachedStatement db.nextStatement sql)
            (c.emits [.step sql bindings]) := by
          refine ⟨⟨inv_prepared hstepped.sound.inv hopen hlength, ?_⟩, hstepped.db_eq,
            hstepped.nextResultSet, hstepped.trace, ?_⟩
          · intro o ho
            have hne : o ≠ db.nextStatement := fun heq => ho (heq ▸ hcached)
            exact unused_prepared hstepped.sound.noLeak hne ho
          · exact (reads_newStatement hstepped.sound.inv _).trans hstepped.resultSets
        refine refines_emits (refines_touch (refines_countUse hprepare ?_ ?_ hcached) _) _
        · exact Nat.lt_succ_self _
        · exact congrArg FMStatement.inUse (@statements_newStatement_self db _)

/-! ## Closing -/

theorem resetHeld_eq (h : Live db) (i : ℕ) :
    db.resetHeld i = { db with
      statements := fun o => if (db.resultSets i).statement = some o
        then (db.statements o).reset else db.statements o } := by
  unfold FMDatabase.resetHeld
  cases (db.resultSets i).statement with
  | none => rfl
  | some o =>
      dsimp only
      rw [resetStatement_eq h]
      simp only [FMDatabase.setStatement, FMDatabase.mk.injEq, true_and, and_true]
      funext o'
      by_cases hsame : o' = o
      · simp [hsame]
      · simp [hsame, Ne.symm hsame]

/-- A result set that is closed, before anything is deallocated. -/
def released (db : FMDatabase) (i : ℕ) : FMDatabase :=
  { db with
    statements := fun o => if (db.resultSets i).statement = some o
      then (db.statements o).reset else db.statements o
    resultSets := Function.update db.resultSets i { statement := none, parentDB := false }
    openResultSets := if (db.resultSets i).parentDB
      then db.openResultSets.filter (· ≠ i) else db.openResultSets }

theorem closeResultSet_eq (h : Live db) (i : ℕ) :
    db.closeResultSet i = (released db i).deallocates := by
  rw [FMDatabase.closeResultSet, resetHeld_eq h]
  rfl

theorem statement_released (i o : ℕ) :
    ((released db i).statements o).statement = (db.statements o).statement := by
  unfold released
  dsimp only
  split <;> rfl

theorem inUse_released {i o : ℕ} (h : ((released db i).statements o).inUse = true) :
    (db.statements o).inUse = true ∧ (db.resultSets i).statement ≠ some o := by
  unfold released at h
  dsimp only at h
  split at h
  · cases h
  · next hne => exact ⟨h, hne⟩

theorem statements_released_of_ne {i o : ℕ} (h : (db.resultSets i).statement ≠ some o) :
    (released db i).statements o = db.statements o :=
  if_neg h

theorem resultSets_released (i j : ℕ) :
    (released db i).resultSets j = if j = i then ⟨none, false⟩ else db.resultSets j :=
  Function.update_apply ..

theorem inv_released (h : Inv parameters db) (i : ℕ) : Inv parameters (released db i) := by
  -- the other result sets hold what they held
  have hheld : ∀ j o, ((released db i).resultSets j).statement = some o →
      j ≠ i ∧ (db.resultSets j).statement = some o := by
    intro j o hj
    rw [resultSets_released] at hj
    split at hj
    · cases hj
    · next hne => exact ⟨hne, hj⟩
  refine ⟨?_, ?_, ?_, ?_, ?_, ?_⟩
  · intro j o hj
    obtain ⟨hne, hj'⟩ := hheld j o hj
    obtain ⟨ho, hlt, hparent, hmem, hinUse, hstatement, hopen⟩ := h.held j o hj'
    -- no other result set holds the statement that is reset
    have hother : (db.resultSets i).statement ≠ some o :=
      fun hi => hne (h.exclusive j i o hj' hi)
    rw [resultSets_released, if_neg hne, statements_released_of_ne hother]
    refine ⟨ho, hlt, hparent, ?_, hinUse, hstatement, hopen⟩
    unfold released
    dsimp only
    split
    · exact List.mem_filter.mpr ⟨hmem, by simpa using hne⟩
    · exact hmem
  · intro j k o hj hk
    exact h.exclusive j k o (hheld j o hj).2 (hheld k o hk).2
  · intro query o hentry
    unfold Compiled
    rw [statement_released]
    exact h.cached query o hentry
  · -- a statement in use is held by another result set
    intro o ho
    obtain ⟨hinUse, hne⟩ := inUse_released ho
    obtain ⟨j, hj⟩ := h.inUse o hinUse
    have hother : j ≠ i := fun heq => hne (heq ▸ hj)
    refine ⟨j, ?_⟩
    rw [resultSets_released, if_neg hother]
    exact hj
  · intro o stmt hstmt
    rw [statement_released] at hstmt
    exact h.live o stmt hstmt
  · intro o ho
    have hunused := h.fresh o ho
    have hne : (db.resultSets i).statement ≠ some o :=
      fun hi => absurd (h.held i o hi).1 (Nat.not_lt.mpr ho)
    rw [statements_released_of_ne hne]
    exact hunused

/-- Deallocating is not seen. -/
theorem reads_deallocates (h : Inv parameters db) : reads db.deallocates = reads db := by
  refine reads_congr ?_ ?_
  · intro i
    rw [deallocates_eq h.live]
  · intro i o hi
    rw [statements_deallocates h.live h.numbered (Or.inr ⟨i, hi⟩)]

theorem sound_deallocates (h : Inv parameters db) : Sound parameters db.deallocates :=
  ⟨inv_deallocates h, noLeak_deallocates h.live h.numbered⟩

theorem reads_released (i : ℕ) :
    reads (released db i) = Function.update (reads db) i none := by
  funext j
  unfold reads
  rw [resultSets_released, Function.update_apply]
  split
  · rfl
  · simp only [statement_released]

/-- A result set is closed and forgets its statement. -/
theorem refines_closeResultSet (h : Refines parameters db c) (i : ℕ) :
    Refines parameters (db.closeResultSet i) (c.closeResultSet i) := by
  have hinv := inv_released h.sound.inv i
  rw [closeResultSet_eq h.sound.inv.live]
  refine ⟨sound_deallocates hinv, ?_, ?_, ?_, ?_⟩
  · rw [deallocates_eq hinv.live]
    exact h.db_eq
  · rw [deallocates_eq hinv.live]
    exact h.nextResultSet
  · rw [deallocates_eq hinv.live]
    exact h.trace
  · rw [reads_deallocates hinv, reads_released, h.resultSets]
    rfl

theorem refines_next (h : Refines parameters db c) (i : ℕ) (row : Bool) :
    Refines parameters (db.next i row) (c.next i row) := by
  have hreads := congrFun h.resultSets i
  unfold FMDatabase.next Connection.next
  cases hi : (db.resultSets i).statement with
  | none =>
      -- a closed result set is closed again
      have hnone : c.resultSets i = none := by rw [← hreads, reads, hi]; rfl
      have hsame : (c.emits [.next false]).closeResultSet i = c.emits [.next false] := by
        unfold Connection.closeResultSet Connection.emits
        dsimp only
        rw [← hnone, Function.update_eq_self]
      dsimp only
      rw [hnone, ← hsame]
      exact refines_closeResultSet (refines_emits h _) i
  | some o =>
      obtain ⟨-, -, -, -, -, hstatement, -⟩ := h.sound.inv.held i o hi
      obtain ⟨stmt, hstmt⟩ := Option.ne_none_iff_exists'.mp hstatement
      have hsome : c.resultSets i = some (stmt.sql, stmt.bindings) := by
        rw [← hreads, reads, hi, Option.bind_some, hstmt]
        rfl
      dsimp only
      rw [hstmt, hsome]
      dsimp only
      rw [stepStatement_eq h.sound.inv.live hstmt, emits_pair]
      -- the last row closes the result set
      have hstepped := refines_emits (refines_emits h [.step stmt.sql stmt.bindings]) [.next row]
      cases row with
      | true => exact hstepped
      | false => exact refines_closeResultSet hstepped i

theorem refines_setShouldCacheStatements (h : Refines parameters db c) (value : Bool) :
    Refines parameters (db.setShouldCacheStatements value) c := by
  have hinv := h.sound.inv
  unfold FMDatabase.setShouldCacheStatements
  cases value with
  | true =>
      refine ⟨⟨⟨hinv.held, hinv.exclusive, hinv.cached, hinv.inUse, hinv.live, hinv.fresh⟩,
        h.sound.noLeak⟩, h.db_eq, h.nextResultSet, h.trace, h.resultSets⟩
  | false =>
      have hinv' : Inv parameters { db with cachedStatements := none } :=
        ⟨hinv.held, hinv.exclusive, nofun, hinv.inUse, hinv.live, hinv.fresh⟩
      refine ⟨sound_deallocates hinv', ?_, ?_, ?_, ?_⟩
      · simp only [Bool.false_eq_true, if_false]
        rw [deallocates_eq hinv'.live]
        exact h.db_eq
      · simp only [Bool.false_eq_true, if_false]
        rw [deallocates_eq hinv'.live]
        exact h.nextResultSet
      · simp only [Bool.false_eq_true, if_false]
        rw [deallocates_eq hinv'.live]
        exact h.trace
      · simp only [Bool.false_eq_true, if_false]
        rw [reads_deallocates hinv']
        exact h.resultSets

theorem refines_openDatabase (h : Refines parameters db c) (prepares : String → Bool) :
    Refines parameters (db.openDatabase prepares)
      { c with db := some (c.db.getD prepares) } := by
  have hinv := h.sound.inv
  unfold FMDatabase.openDatabase
  cases hdb : db.db with
  | some prepares' =>
      dsimp only
      have hsame : ({ c with db := some (c.db.getD prepares) } : Connection) = c := by
        rw [← h.db_eq, hdb, Option.getD_some, ← hdb, h.db_eq]
      rw [hsame]
      exact h
  | none =>
      -- a closed database has neither result sets nor cached statements
      have hheld : ∀ i o, (db.resultSets i).statement ≠ some o :=
        fun i o hi => (h.sound.inv.held i o hi).2.2.2.2.2.2 hdb
      have hcached : ∀ query o, (query, o) ∉ db.cachedStatements.getD [] :=
        fun query o hentry => (hinv.cached query o hentry).1 hdb
      refine ⟨⟨⟨fun i o hi => absurd hi (hheld i o), hinv.exclusive,
        fun query o hentry => absurd hentry (hcached query o), hinv.inUse, hinv.live, hinv.fresh⟩,
        h.sound.noLeak⟩, ?_, h.nextResultSet, h.trace, h.resultSets⟩
      rw [← h.db_eq, hdb]
      rfl

/-- Another schema changes neither the statements nor what they are bound to. -/
theorem refines_changeSchema (h : Refines parameters db c) (prepares : String → Bool) :
    Refines parameters (db.changeSchema prepares)
      { c with db := c.db.map fun _ => prepares } := by
  have hinv := h.sound.inv
  have hopen : db.db ≠ none → db.db.map (fun _ => prepares) ≠ none :=
    fun hne hnone => hne (Option.map_eq_none_iff.mp hnone)
  refine ⟨⟨⟨?_, hinv.exclusive, ?_, hinv.inUse, hinv.live, hinv.fresh⟩, h.sound.noLeak⟩,
    congrArg (Option.map fun _ => prepares) h.db_eq, h.nextResultSet, h.trace, h.resultSets⟩
  · intro i o hi
    obtain ⟨ho, hlt, hparent, hmem, hinUse, hstatement, hdb⟩ := hinv.held i o hi
    exact ⟨ho, hlt, hparent, hmem, hinUse, hstatement, hopen hdb⟩
  · intro query o hentry
    obtain ⟨hdb, ho, hcompiled⟩ := hinv.cached query o hentry
    exact ⟨hopen hdb, ho, hcompiled⟩

/-! ## Closing the database -/

/-- A database that is being closed: the cache is empty, and some result sets may still hold
statements that were closed with it. -/
structure Closing (db : FMDatabase) : Prop where
  live : Live db
  numbered : Numbered db
  noLeak : NoLeak db
  cached : db.cachedStatements.getD [] = []

theorem numbered_deallocates (h : Live db) (hnumbered : Numbered db) :
    Numbered db.deallocates := by
  rw [deallocates_eq h]
  refine ⟨hnumbered.resultSets, ?_⟩
  intro o ho
  dsimp only
  split
  · exact ⟨rfl, rfl⟩
  · exact hnumbered.fresh o ho

theorem closing_deallocates (h : Live db) (hnumbered : Numbered db)
    (hcached : db.cachedStatements.getD [] = []) : Closing db.deallocates where
  live := live_deallocates h
  numbered := numbered_deallocates h hnumbered
  noLeak := noLeak_deallocates h hnumbered
  cached := by
    rw [deallocates_eq h]
    exact hcached

/-- The cache is emptied, and its statements are closed even if they are in use. -/
theorem clearCachedStatements_spec (h : Inv parameters db) :
    Closing db.clearCachedStatements ∧ db.clearCachedStatements.db = db.db ∧
      db.clearCachedStatements.trace = db.trace ∧
      db.clearCachedStatements.nextResultSet = db.nextResultSet ∧
      db.clearCachedStatements.resultSets = db.resultSets ∧
      db.clearCachedStatements.openResultSets = db.openResultSets := by
  unfold FMDatabase.clearCachedStatements
  rw [closeStatements_eq h.live]
  -- the database with its cache emptied, before anything is deallocated
  generalize hcleared : ({ db with
    statements := fun o => if o ∈ (db.cachedStatements.getD []).map Prod.snd
      then (db.statements o).close else db.statements o
    cachedStatements := db.cachedStatements.map fun _ => [] } : FMDatabase) = cleared
  have hlive : Live cleared := by
    rw [← hcleared]
    intro o stmt hstmt
    dsimp only at hstmt
    split at hstmt
    · cases hstmt
    · exact h.live o stmt hstmt
  have hnumbered : Numbered cleared := by
    rw [← hcleared]
    refine ⟨h.numbered.resultSets, ?_⟩
    intro o ho
    dsimp only
    split
    · exact ⟨rfl, rfl⟩
    · exact h.fresh o ho
  have hempty : cleared.cachedStatements.getD [] = [] := by
    rw [← hcleared]
    cases db.cachedStatements <;> rfl
  refine ⟨closing_deallocates hlive hnumbered hempty, ?_⟩
  rw [deallocates_eq hlive, ← hcleared]
  exact ⟨rfl, rfl, rfl, rfl, rfl⟩

/-- One turn of the loop closes one result set. -/
theorem closeOpenResultSet_spec (h : Closing db) (i : ℕ) :
    Closing (db.closeOpenResultSet i) ∧ (db.closeOpenResultSet i).db = db.db ∧
      (db.closeOpenResultSet i).trace = db.trace ∧
      (db.closeOpenResultSet i).nextResultSet = db.nextResultSet ∧
      ∀ j, ((db.closeOpenResultSet i).resultSets j).statement =
        if j = i then none else (db.resultSets j).statement := by
  -- the result set has been detached from the database, and keeps its statement
  generalize hdetached : ({ db with
    resultSets := Function.update db.resultSets i { db.resultSets i with parentDB := false } } :
      FMDatabase) = detached
  have hlive : Live detached := by
    rw [← hdetached]
    exact h.live
  have hstatement : ∀ j, (detached.resultSets j).statement = (db.resultSets j).statement := by
    intro j
    rw [← hdetached]
    show (Function.update db.resultSets i _ j).statement = _
    rw [Function.update_apply]
    split
    · next heq => rw [heq]
    · rfl
  have hlive' : Live (released detached i) := by
    intro o stmt hstmt
    rw [statement_released] at hstmt
    exact hlive o stmt hstmt
  have hnumbered : Numbered (released detached i) := by
    constructor
    · intro j o hj
      rw [resultSets_released] at hj
      split at hj
      · cases hj
      · rw [hstatement] at hj
        have hlt := h.numbered.resultSets j o hj
        rw [← hdetached]
        exact hlt
    · intro o ho
      have hunused : Unused (detached.statements o) := by
        rw [← hdetached] at ho ⊢
        exact h.numbered.fresh o ho
      unfold released
      dsimp only
      split
      · exact ⟨hunused.1, rfl⟩
      · exact hunused
  -- it is closed, and what nothing retains any more is deallocated
  have hclosing : Closing (released detached i).deallocates := by
    refine closing_deallocates hlive' hnumbered ?_
    rw [← hdetached]
    exact h.cached
  have heq : db.closeOpenResultSet i = { (released detached i).deallocates with
      openResultSets := (released detached i).deallocates.openResultSets.filter (· ≠ i) } := by
    rw [← closeResultSet_eq hlive, ← hdetached]
    rfl
  -- the rest is as before
  refine ⟨?_, ?_⟩
  · rw [heq]
    exact ⟨hclosing.live, ⟨hclosing.numbered.resultSets, hclosing.numbered.fresh⟩,
      hclosing.noLeak, hclosing.cached⟩
  · rw [heq, deallocates_eq hlive', ← hdetached]
    refine ⟨rfl, rfl, rfl, ?_⟩
    intro j
    show ((released _ i).resultSets j).statement = _
    rw [resultSets_released]
    split
    · rfl
    · next hne =>
        show (Function.update db.resultSets i _ j).statement = _
        rw [Function.update_of_ne hne]

theorem closeOpenResultSets_spec (h : Closing db) (open' : List ℕ) :
    Closing (open'.foldl FMDatabase.closeOpenResultSet db) ∧
      (open'.foldl FMDatabase.closeOpenResultSet db).db = db.db ∧
      (open'.foldl FMDatabase.closeOpenResultSet db).trace = db.trace ∧
      (open'.foldl FMDatabase.closeOpenResultSet db).nextResultSet = db.nextResultSet ∧
      ∀ j, ((open'.foldl FMDatabase.closeOpenResultSet db).resultSets j).statement =
        if j ∈ open' then none else (db.resultSets j).statement := by
  induction open' generalizing db with
  | nil => exact ⟨h, rfl, rfl, rfl, fun j => by simp⟩
  | cons i rest ih =>
      obtain ⟨hclosing, hdb, htrace, hnext, hresultSets⟩ := closeOpenResultSet_spec h i
      obtain ⟨hclosing', hdb', htrace', hnext', hresultSets'⟩ := ih hclosing
      refine ⟨hclosing', hdb'.trans hdb, htrace'.trans htrace, hnext'.trans hnext, ?_⟩
      intro j
      rw [List.foldl_cons, hresultSets' j, hresultSets j]
      by_cases hrest : j ∈ rest
      · simp [hrest]
      · by_cases hsame : j = i
        · simp [hsame]
        · simp [hrest, hsame]

/-- Once every result set is closed, there is no statement left for `sqlite3_close` to finalize. -/
theorem sqlite3_close_eq (h : Closing db) (hclosed : ∀ i, (db.resultSets i).statement = none) :
    (∀ o, Unused (db.statements o)) ∧ db.sqlite3_close = { db with db := none } := by
  have hunused : ∀ o, Unused (db.statements o) := by
    intro o
    apply h.noLeak o
    rintro (⟨query, hentry⟩ | ⟨i, hi⟩)
    · rw [h.cached] at hentry
      cases hentry
    · rw [hclosed i] at hi
      cases hi
  refine ⟨hunused, ?_⟩
  have hnone : db.unfinalized = [] := by
    unfold FMDatabase.unfinalized
    rw [List.filter_eq_nil_iff]
    intro o _
    rw [(hunused o).1]
    exact Bool.false_ne_true
  rw [FMDatabase.sqlite3_close, hnone]
  rfl

theorem refines_close (h : Refines parameters db c) :
    Refines parameters db.close { c with db := none, resultSets := fun _ => none } := by
  have hinv := h.sound.inv
  obtain ⟨hclosing, hdb, htrace, hnext, hresultSets, hopen⟩ := clearCachedStatements_spec hinv
  obtain ⟨hclosing', hdb', htrace', hnext', hresultSets'⟩ :=
    closeOpenResultSets_spec hclosing db.clearCachedStatements.openResultSets
  -- the loop is over the open result sets, and no other one holds a statement
  have hclosed : ∀ i, (db.clearCachedStatements.closeOpenResultSets.resultSets i).statement =
      none := by
    intro i
    rw [FMDatabase.closeOpenResultSets, hresultSets' i, hopen, hresultSets]
    split
    · rfl
    · next hmem =>
        cases hi : (db.resultSets i).statement with
        | none => rfl
        | some o => exact absurd (hinv.held i o hi).2.2.2.1 hmem
  obtain ⟨hunused, hsqlite⟩ := sqlite3_close_eq hclosing' hclosed
  -- so `sqlite3_close` finds nothing left over
  have hstate : db.close = { db.clearCachedStatements.closeOpenResultSets with db := none } := by
    unfold FMDatabase.close
    dsimp only
    split
    · next hnone => rw [← hnone]
    · exact hsqlite
  rw [hstate]
  refine ⟨⟨⟨?_, ?_, ?_, ?_, hclosing'.live, hclosing'.numbered.fresh⟩, hclosing'.noLeak⟩, rfl,
    hnext'.trans (hnext.trans h.nextResultSet), htrace'.trans (htrace.trans h.trace), ?_⟩
  · intro i o hi
    cases (hclosed i).symm.trans hi
  · intro i j o hi
    cases (hclosed i).symm.trans hi
  · intro query o hentry
    have hnil : (query, o) ∈ ([] : List (String × ℕ)) := hclosing'.cached ▸ hentry
    cases hnil
  · intro o ho
    cases (hunused o).2.symm.trans ho
  · funext i
    show Option.bind _ _ = none
    rw [hclosed i]
    rfl

/-! ## Whole runs -/

theorem refines_initial (parameters : String → ℕ) :
    Refines parameters initial Connection.initial where
  sound := by
    refine ⟨⟨nofun, nofun, nofun, nofun, nofun, ?_⟩, ?_⟩
    · exact fun _ _ => ⟨rfl, rfl⟩
    · exact fun _ _ => ⟨rfl, rfl⟩
  db_eq := rfl
  nextResultSet := rfl
  trace := rfl
  resultSets := rfl

/-- A call does what it does on a connection that accepts the same texts. -/
theorem refines_call (h : Refines parameters db c) (order : SetOrder) {e : Event}
    (henough : EnoughArguments parameters e) :
    Refines parameters (step parameters order db e) (c.call parameters (db.accepts order) e) := by
  cases e with
  | openDatabase prepares => exact refines_openDatabase h prepares
  | changeSchema prepares => exact refines_changeSchema h prepares
  | close => exact refines_close h
  | setShouldCacheStatements value => exact refines_setShouldCacheStatements h value
  | executeQuery sql arguments => exact refines_executeQuery h order henough
  | executeUpdate sql arguments done => exact refines_executeUpdate h order done henough
  | next i row => exact refines_next h i row
  | closeResultSet i => exact refines_closeResultSet h i

/-- What is never in the trace. -/
def Clean (trace : List Output) : Prop :=
  .misuse ∉ trace ∧ .leaked ∉ trace

/-- A call adds to the trace, and nothing that should not be there. -/
theorem trace_call (parameters : String → ℕ) (c : Connection) (accepts : String → Bool)
    (e : Event) :
    ∃ outputs, (c.call parameters accepts e).trace = c.trace ++ outputs ∧ Clean outputs := by
  have hnone : ∃ outputs, c.trace = c.trace ++ outputs ∧ Clean outputs :=
    ⟨[], (List.append_nil _).symm, by simp [Clean]⟩
  cases e with
  | openDatabase prepares => exact hnone
  | changeSchema prepares => exact hnone
  | close => exact hnone
  | setShouldCacheStatements value => exact hnone
  | closeResultSet i => exact hnone
  | executeQuery sql arguments =>
      simp only [Connection.call, Connection.executeQuery]
      split <;> exact ⟨_, rfl, by simp [Clean]⟩
  | executeUpdate sql arguments done =>
      simp only [Connection.call, Connection.executeUpdate]
      split <;> exact ⟨_, rfl, by simp [Clean]⟩
  | next i row =>
      simp only [Connection.call, Connection.next]
      split
      · exact ⟨_, rfl, by simp [Clean]⟩
      · cases row <;> exact ⟨_, rfl, by simp [Clean]⟩

/-- Every run is one of a connection that accepts some texts, and only adds to the trace. -/
theorem refines_run (h : Refines parameters db c) (order : SetOrder) {es : List Event}
    (henough : ∀ e ∈ es, EnoughArguments parameters e) :
    ∃ c' outputs, Refines parameters (run (step parameters order) db es) c' ∧
      c'.trace = c.trace ++ outputs ∧ Clean outputs := by
  induction es generalizing db c with
  | nil => exact ⟨c, [], h, (List.append_nil _).symm, by simp [Clean]⟩
  | cons e es ih =>
      obtain ⟨he, hrest⟩ := List.forall_mem_cons.mp henough
      obtain ⟨outputs, htrace, hclean⟩ :=
        trace_call parameters c (db.accepts order) e
      obtain ⟨c', outputs', hrefines, htrace', hclean'⟩ := ih (refines_call h order he) hrest
      refine ⟨c', outputs ++ outputs', hrefines, ?_, ?_⟩
      · rw [htrace', htrace, List.append_assoc]
      · exact ⟨by simp [hclean.1, hclean'.1], by simp [hclean.2, hclean'.2]⟩

/-- A connection only adds to its trace. -/
theorem trace_run (parameters : String → ℕ) (c : Connection) (es : List Event) :
    ∃ outputs, (run (Connection.step parameters) c es).trace = c.trace ++ outputs := by
  induction es generalizing c with
  | nil => exact ⟨[], (List.append_nil _).symm⟩
  | cons e es ih =>
      obtain ⟨outputs, htrace, -⟩ := trace_call parameters c (compiles c.db) e
      obtain ⟨outputs', htrace'⟩ := ih (c.step parameters e)
      refine ⟨outputs ++ outputs', ?_⟩
      rw [run_cons, htrace', ← List.append_assoc, ← htrace]
      rfl

/-! ## Up to the first stale statement -/

/-- A text that is not found in the cache is accepted if it compiles. -/
theorem call_of_not_stale (h : Refines parameters db c) {e : Event} (hstale : ¬ Stale order db e) :
    c.call parameters (db.accepts order) e = c.step parameters e := by
  have haccepts : ∀ sql, ¬ ((db.cachedStatementForQuery order sql).isSome ∧
      compiles db.db sql = false) → db.accepts order sql = compiles c.db sql := by
    intro sql hsql
    rw [← h.db_eq]
    unfold FMDatabase.accepts
    cases hdb : db.db with
    | none => rfl
    | some prepares =>
        rw [hdb] at hsql
        by_cases hfound : (db.cachedStatementForQuery order sql).isSome
        · have hcompiles : compiles (some prepares) sql = true := by
            simpa [hfound] using hsql
          rw [hcompiles]
          simp
        · simp [hfound]
  cases e with
  | executeQuery sql arguments =>
      rw [Connection.step, Connection.call, Connection.call, haccepts sql hstale]
  | executeUpdate sql arguments done =>
      rw [Connection.step, Connection.call, Connection.call, haccepts sql hstale]
  | _ => rfl

/-- A stale statement is seen at once: its text would be refused. -/
theorem exists_outputs_of_stale (h : Refines parameters db c) {e : Event}
    (hstale : Stale order db e) :
    ∃ o o' outputs, o ≠ o' ∧
      (c.call parameters (db.accepts order) e).trace = c.trace ++ o :: outputs ∧
        (c.step parameters e).trace = c.trace ++ [o'] := by
  -- the database is open, since something is cached
  have haccepts : ∀ sql, (db.cachedStatementForQuery order sql).isSome →
      compiles db.db sql = false →
      db.accepts order sql = true ∧ compiles c.db sql = false := by
    intro sql hfound hcompiles
    obtain ⟨o, ho⟩ := Option.isSome_iff_exists.mp hfound
    have hopen := (h.sound.inv.cached sql o (cachedStatementForQuery_spec ho).1).1
    refine ⟨?_, h.db_eq ▸ hcompiles⟩
    simp [FMDatabase.accepts, Option.isSome_iff_ne_none.mpr hopen, hfound]
  cases e with
  | executeQuery sql arguments =>
      obtain ⟨haccepted, hrefused⟩ := haccepts sql hstale.1 hstale.2
      refine ⟨.query (some c.nextResultSet), .query none, [], by simp, ?_, ?_⟩
      · rw [Connection.call, haccepted]
        rfl
      · rw [Connection.step, Connection.call, hrefused]
        rfl
  | executeUpdate sql arguments done =>
      obtain ⟨haccepted, hrefused⟩ := haccepts sql hstale.1 hstale.2
      refine ⟨.step sql (boundArguments parameters sql arguments), .update false, [.update done],
        by simp, ?_, ?_⟩
      · rw [Connection.call, haccepted]
        rfl
      · rw [Connection.step, Connection.call, hrefused]
        rfl
  | _ => exact absurd hstale fun h => h

/-- The trace is that of the connection exactly as long as no call finds a stale statement. -/
theorem trace_eq_connection_iff (h : Refines parameters db c) (order : SetOrder) {es : List Event}
    (henough : ∀ e ∈ es, EnoughArguments parameters e) :
    (run (step parameters order) db es).trace = (run (Connection.step parameters) c es).trace ↔
      Guarded (step parameters order) (fun db e => ¬ Stale order db e) db es := by
  induction es generalizing db c with
  | nil => exact iff_of_true h.trace trivial
  | cons e es ih =>
      obtain ⟨he, hrest⟩ := List.forall_mem_cons.mp henough
      have hnext := refines_call h order he
      rw [Guarded, run_cons, run_cons]
      by_cases hstale : Stale order db e
      · refine iff_of_false (fun heq => ?_) fun hguarded => hguarded.1 hstale
        -- the two traces differ where the stale statement is used, and go on from there
        obtain ⟨o, o', outputs, hne, hcall, hstep⟩ := exists_outputs_of_stale h hstale
        obtain ⟨c', outputs', hrefines, htrace, -⟩ := refines_run hnext order hrest
        obtain ⟨outputs'', htrace'⟩ := trace_run parameters (c.step parameters e) es
        rw [hrefines.trace, htrace, htrace', hcall, hstep, List.append_assoc, List.append_assoc]
          at heq
        exact hne (List.cons.inj (List.append_cancel_left heq)).1
      · rw [and_iff_right hstale]
        rw [call_of_not_stale h hstale] at hnext
        exact ih hnext hrest

/-! ## A database that never caches -/

/-- The call, on a database that never caches. -/
def uncached : Event → Event
  | .setShouldCacheStatements _ => .setShouldCacheStatements false
  | e => e

theorem run_uncached (c : Connection) (es : List Event) :
    run (Connection.step parameters) c (es.map uncached) =
      run (Connection.step parameters) c es := by
  have hstep : ∀ (c : Connection) e, c.step parameters (uncached e) = c.step parameters e := by
    intro c e
    cases e <;> rfl
  induction es generalizing c with
  | nil => rfl
  | cons e es ih =>
      rw [List.map_cons, run_cons, run_cons, hstep]
      exact ih (c.step parameters e)

theorem cachedStatements_touch (db : FMDatabase) (o : ℕ) :
    (db.touch o).cachedStatements = db.cachedStatements := by
  unfold FMDatabase.touch
  split <;> rfl

theorem cachedStatements_foldl {f : FMDatabase → ℕ → FMDatabase}
    (hf : ∀ db o, (f db o).cachedStatements = db.cachedStatements) (db : FMDatabase)
    (os : List ℕ) : (os.foldl f db).cachedStatements = db.cachedStatements := by
  induction os generalizing db with
  | nil => rfl
  | cons o os ih => rw [List.foldl_cons, ih, hf]

theorem cachedStatements_deallocates (db : FMDatabase) :
    db.deallocates.cachedStatements = db.cachedStatements := by
  apply cachedStatements_foldl
  intro db o
  exact cachedStatements_touch db o

theorem cachedStatements_closeResultSet (db : FMDatabase) (i : ℕ) :
    (db.closeResultSet i).cachedStatements = db.cachedStatements := by
  rw [FMDatabase.closeResultSet, cachedStatements_deallocates]
  show (db.resetHeld i).cachedStatements = _
  unfold FMDatabase.resetHeld
  split
  · rfl
  · exact cachedStatements_touch db _

theorem cachedStatements_close (h : db.cachedStatements = none) :
    db.close.cachedStatements = none := by
  have hcleared : db.clearCachedStatements.cachedStatements = none := by
    rw [FMDatabase.clearCachedStatements, cachedStatements_deallocates]
    exact Option.map_eq_none_iff.mpr h
  have hclosed : db.clearCachedStatements.closeOpenResultSets.cachedStatements = none := by
    rw [FMDatabase.closeOpenResultSets, cachedStatements_foldl, hcleared]
    intro db i
    exact cachedStatements_closeResultSet _ i
  unfold FMDatabase.close
  dsimp only
  split
  · exact hclosed
  · refine Eq.trans ?_ hclosed
    apply cachedStatements_foldl
    exact fun _ _ => rfl

theorem cachedStatements_stepStatement (db : FMDatabase) (o : ℕ) :
    (db.stepStatement o).cachedStatements = db.cachedStatements := by
  unfold FMDatabase.stepStatement
  split
  · exact cachedStatements_touch db o
  · rfl

theorem cachedStatements_next (db : FMDatabase) (i : ℕ) (row : Bool) :
    (db.next i row).cachedStatements = db.cachedStatements := by
  unfold FMDatabase.next
  split
  · exact cachedStatements_closeResultSet _ i
  · split
    · exact cachedStatements_closeResultSet _ i
    · cases row with
      | true => exact cachedStatements_stepStatement db _
      | false =>
          exact (cachedStatements_closeResultSet _ i).trans (cachedStatements_stepStatement db _)

/-- Without a cache there is nothing to be found in it, and no call makes one. -/
theorem cachedStatements_step (h : Inv parameters db) (order : SetOrder) {e : Event}
    (henough : EnoughArguments parameters e) (hnone : db.cachedStatements = none) :
    (step parameters order db (uncached e)).cachedStatements = none := by
  cases e with
  | openDatabase prepares =>
      show (db.openDatabase prepares).cachedStatements = none
      unfold FMDatabase.openDatabase
      split <;> exact hnone
  | changeSchema prepares => exact hnone
  | close => exact cachedStatements_close hnone
  | setShouldCacheStatements value => exact cachedStatements_deallocates _
  | executeQuery sql arguments =>
      show (db.executeQuery parameters order sql arguments).cachedStatements = none
      unfold FMDatabase.executeQuery
      rcases acquire_cases h order henough with ⟨-, hfailed⟩ | ⟨-, -, ⟨o, -, -, hcached⟩ | hprepared⟩
      · rw [hfailed]
        exact hnone
      · rw [hcached]
        exact hnone
      · -- a new statement is put into the cache only if there is one
        rw [hprepared]
        exact Option.map_eq_none_iff.mpr hnone
  | executeUpdate sql arguments done =>
      show (db.executeUpdate parameters order sql arguments done).cachedStatements = none
      unfold FMDatabase.executeUpdate
      rcases acquire_cases h order henough with ⟨-, hfailed⟩ | ⟨-, -, ⟨o, -, -, hcached⟩ | hprepared⟩
      · rw [hfailed]
        exact hnone
      · rw [hcached]
        exact (cachedStatements_touch _ _).trans ((cachedStatements_stepStatement _ _).trans hnone)
      · rw [hprepared]
        dsimp only
        split
        · exact hnone
        · next hsome => cases hnone.symm.trans hsome
  | next i row => exact (cachedStatements_next db i row).trans hnone
  | closeResultSet i => exact (cachedStatements_closeResultSet db i).trans hnone

theorem not_stale_of_uncached (order : SetOrder) (hnone : db.cachedStatements = none) (e : Event) :
    ¬ Stale order db e := by
  have hfound : ∀ sql, db.cachedStatementForQuery order sql = none := by
    intro sql
    unfold FMDatabase.cachedStatementForQuery
    rw [hnone]
    dsimp only [Option.getD_none, List.filterMap_nil]
    rw [(order.perm []).eq_nil]
    rfl
  intro hstale
  cases e with
  | executeQuery sql arguments =>
      have hsome := hstale.1
      rw [hfound] at hsome
      cases hsome
  | executeUpdate sql arguments done =>
      have hsome := hstale.1
      rw [hfound] at hsome
      cases hsome
  | _ => exact hstale

theorem guarded_uncached (h : Refines parameters db c) (order : SetOrder) {es : List Event}
    (henough : ∀ e ∈ es, EnoughArguments parameters e) (hnone : db.cachedStatements = none) :
    Guarded (step parameters order) (fun db e => ¬ Stale order db e) db (es.map uncached) := by
  induction es generalizing db c with
  | nil => trivial
  | cons e es ih =>
      obtain ⟨he, hrest⟩ := List.forall_mem_cons.mp henough
      have he' : EnoughArguments parameters (uncached e) := by
        cases e <;> exact he
      exact ⟨not_stale_of_uncached order hnone _, ih (refines_call h order he') hrest
        (cachedStatements_step h.sound.inv order he hnone)⟩

/-- Visits the members in the order in which they were added. -/
def addedOrder : SetOrder where
  visit := id
  perm := fun _ => .refl _

/-- A call without its argument finalizes a statement behind the back of the cache, and the next
call of the same text uses it. -/
example :
    .misuse ∈ (run (step (fun _ => 1) addedOrder) initial
      [.openDatabase fun _ => true, .setShouldCacheStatements true,
        .executeUpdate "q" [none] true, .executeUpdate "q" [] true,
        .executeUpdate "q" [none] true]).trace := by decide

/-! ## The calls of the data manager -/

open DataManager

/-- The statements of the data manager. -/
inductive Statement where
  | tableExists
  | createWebsite
  | createBankcard
  | getAllWebsite
  | deleteWebsiteWithId
  | insertWebsiteWithModel
  | updateWebsizeWithId
  | getAllBackCard
  | deleteBackCardWithId
  | insertBackCardWithModel
  | updateBackCardWithId
deriving DecidableEq

/-- The text of a statement, with the name of its table filled in. -/
def Statement.sql : Statement → String
  | .tableExists =>
      "select [sql] from sqlite_master where [type] = 'table' and lower(name) = ?"
  | .createWebsite =>
      "create table if not exists website(id INTEGER PRIMARY KEY AUTOINCREMENT," ++
        "iconImg text ,title text ,account text , password text ,link text ,describe text ," ++
        "ctime integer)"
  | .createBankcard =>
      "create table if not exists bankcard(id INTEGER PRIMARY KEY AUTOINCREMENT,frontImg blob, " ++
        "type integer, expireDate text, account text , password text ,cvvCode text, pin text ," ++
        "describe text ,logoImageUrl text,ctime integer)"
  | .getAllWebsite => "SELECT * FROM website "
  | .deleteWebsiteWithId => "DELETE FROM website WHERE id = ?"
  | .insertWebsiteWithModel =>
      "INSERT INTO website (title,iconImg,account,password,link,describe,ctime) " ++
        "VALUES (?,?,?,?,?,?,?)"
  | .updateWebsizeWithId =>
      "UPDATE website SET title = ?, iconImg = ?, account = ?,password = ?,link = ?," ++
        "describe = ? WHERE id = ?"
  | .getAllBackCard => "SELECT * FROM bankcard "
  | .deleteBackCardWithId => "DELETE FROM bankcard WHERE id = ?"
  | .insertBackCardWithModel =>
      "INSERT INTO bankcard (frontImg,type,expireDate,account,password,cvvCode,pin,describe," ++
        "logoImageUrl,ctime) VALUES (?,?,?,?,?,?,?,?,?,?)"
  | .updateBackCardWithId =>
      "UPDATE bankcard SET frontImg = ?, type = ?, expireDate = ?,account = ?,password = ?," ++
        "cvvCode = ?, pin = ?, describe = ?,logoImageUrl = ? WHERE id = ?"

/-- The calls of the data manager, with what the app passes. A model is bound column by column. -/
inductive Call where
  | tableExists (tableName : String)
  | createWebsite
  | createBankcard
  | getAllWebsite
  | deleteWebsiteWithId (aId : Option ℤ)
  | insertWebsiteWithModel (model : PPWebsiteModel) (cTime : ℤ)
  | updateWebsizeWithId (model : PPWebsiteModel)
  | getAllBackCard
  | deleteBackCardWithId (aId : Option ℤ)
  | insertBackCardWithModel (model : PPBankCardModel) (cTime : ℤ)
  | updateBackCardWithId (model : PPBankCardModel)

def Call.statement : Call → Statement
  | .tableExists _ => .tableExists
  | .createWebsite => .createWebsite
  | .createBankcard => .createBankcard
  | .getAllWebsite => .getAllWebsite
  | .deleteWebsiteWithId _ => .deleteWebsiteWithId
  | .insertWebsiteWithModel _ _ => .insertWebsiteWithModel
  | .updateWebsizeWithId _ => .updateWebsizeWithId
  | .getAllBackCard => .getAllBackCard
  | .deleteBackCardWithId _ => .deleteBackCardWithId
  | .insertBackCardWithModel _ _ => .insertBackCardWithModel
  | .updateBackCardWithId _ => .updateBackCardWithId

/-- The arguments that follow the text. -/
def Call.arguments : Call → List (Option NSObject)
  | .tableExists tableName => [some (.string (lowercaseString tableName))]
  | .createWebsite | .createBankcard | .getAllWebsite | .getAllBackCard => []
  | .deleteWebsiteWithId aId | .deleteBackCardWithId aId => [aId.map .number]
  | .insertWebsiteWithModel model cTime =>
      [model.title.map .string, model.iconImg.map .data, model.account.map .string,
        model.password.map .string, model.link.map .string, model.describe.map .string,
        some (.number cTime)]
  | .updateWebsizeWithId model =>
      [model.title.map .string, model.iconImg.map .data, model.account.map .string,
        model.password.map .string, model.link.map .string, model.describe.map .string,
        model.aId.map .number]
  | .insertBackCardWithModel model cTime =>
      [model.frontImg.map .data, some (.number model.type), model.expireDate.map .string,
        model.account.map .string, model.password.map .string, model.cvvCode.map .string,
        model.pin.map .string, model.describe.map .string, model.logoImageUrl.map .string,
        some (.number cTime)]
  | .updateBackCardWithId model =>
      [model.frontImg.map .data, some (.number model.type), model.expireDate.map .string,
        model.account.map .string, model.password.map .string, model.cvvCode.map .string,
        model.pin.map .string, model.describe.map .string, model.logoImageUrl.map .string,
        model.aId.map .number]

/-- The parameters of a text without quoted question marks. -/
def placeholders (sql : String) : ℕ :=
  sql.toList.count '?'

/-- The number of parameters of each statement. -/
def Statement.parameterCount : Statement → ℕ
  | .createWebsite | .createBankcard | .getAllWebsite | .getAllBackCard => 0
  | .tableExists | .deleteWebsiteWithId | .deleteBackCardWithId => 1
  | .insertWebsiteWithModel | .updateWebsizeWithId => 7
  | .insertBackCardWithModel | .updateBackCardWithId => 10

theorem placeholders_ofList (cs : List Char) : placeholders (String.ofList cs) = cs.count '?' := by
  rw [placeholders, String.toList_ofList]

theorem placeholders_append {a b : String} {m n k : ℕ} (ha : placeholders a = m)
    (hb : placeholders b = n) (hk : m + n = k) : placeholders (a ++ b) = k := by
  rw [placeholders, String.toList_append, List.count_append]
  exact (congrArg₂ (· + ·) ha hb).trans hk

set_option maxRecDepth 4000 in
theorem placeholders_sql (statement : Statement) :
    placeholders statement.sql = statement.parameterCount := by
  cases statement with
  | createWebsite | createBankcard =>
      apply placeholders_append
      · exact placeholders_append (placeholders_ofList _) (placeholders_ofList _) rfl
      · exact placeholders_ofList _
      · rfl
  | insertWebsiteWithModel | updateWebsizeWithId | insertBackCardWithModel
  | updateBackCardWithId =>
      exact placeholders_append (placeholders_ofList _) (placeholders_ofList _) rfl
  | _ => apply placeholders_ofList

theorem length_arguments (call : Call) : call.arguments.length = call.statement.parameterCount := by
  cases call <;> rfl

/-- Only texts of the data manager are run, whatever the file or the schema. -/
def FromDataManager : Event → Prop
  | .executeQuery sql arguments | .executeUpdate sql arguments _ =>
      ∃ call : Call, sql = call.statement.sql ∧ arguments = call.arguments
  | .openDatabase _ | .changeSchema _ | .close | .setShouldCacheStatements _ | .next _ _
  | .closeResultSet _ => True

/-- The data manager always brings an argument for each parameter. -/
theorem enough_of_dataManager
    (hparameters : ∀ statement : Statement, parameters statement.sql = placeholders statement.sql)
    {e : Event} (he : FromDataManager e) : EnoughArguments parameters e := by
  have hcall : ∀ call : Call, parameters call.statement.sql ≤ call.arguments.length := by
    intro call
    rw [hparameters, placeholders_sql, length_arguments]
  cases e with
  | executeQuery sql arguments =>
      obtain ⟨call, rfl, rfl⟩ := he
      exact hcall call
  | executeUpdate sql arguments done =>
      obtain ⟨call, rfl, rfl⟩ := he
      exact hcall call
  | _ => trivial

/-- Whatever the data manager calls, however often its database is closed and opened on another
file, and whatever becomes of the schema, no finalized statement is used and none is left over when
a database is closed; each open result set has a statement of its own. -/
theorem clean_dataManager (order : SetOrder)
    (hparameters : ∀ statement : Statement, parameters statement.sql = placeholders statement.sql)
    {es : List Event} (hes : ∀ e ∈ es, FromDataManager e) :
    Clean (run (step parameters order) initial es).trace ∧
      Sound parameters (run (step parameters order) initial es) := by
  have henough : ∀ e ∈ es, EnoughArguments parameters e :=
    fun e he => enough_of_dataManager hparameters (hes e he)
  obtain ⟨c, outputs, hrefines, htrace, hclean⟩ :=
    refines_run (refines_initial parameters) order henough
  refine ⟨?_, hrefines.sound⟩
  rw [hrefines.trace, htrace]
  exact hclean

/-- A record is deleted while the table is read. -/
theorem clean_dataManager_delete :
    Clean (run (step placeholders addedOrder) initial
      [.openDatabase fun _ => true, .setShouldCacheStatements true,
        .executeQuery Call.getAllWebsite.statement.sql Call.getAllWebsite.arguments,
        .next 0 true,
        .executeUpdate (Call.deleteWebsiteWithId (some 1)).statement.sql
          (Call.deleteWebsiteWithId (some 1)).arguments true, .close]).trace := by
  refine (clean_dataManager addedOrder (fun _ => rfl) ?_).1
  intro e he
  simp only [List.mem_cons, List.not_mem_nil, or_false] at he
  rcases he with rfl | rfl | rfl | rfl | rfl | rfl
  · trivial
  · trivial
  · exact ⟨.getAllWebsite, rfl, rfl⟩
  · trivial
  · exact ⟨.deleteWebsiteWithId (some 1), rfl, rfl⟩
  · trivial

end PasswordPackage.StatementCache
