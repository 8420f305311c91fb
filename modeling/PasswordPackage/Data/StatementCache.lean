import Mathlib.Data.List.Perm.Basic
import PasswordPackage.Common.Run
import PasswordPackage.Data.FMDB

/-!
# Cached statements

With `setShouldCacheStatements:` on, FMDB keeps every prepared statement and takes one that is not
in use when the same text comes again. A statement is bound anew for each call, is in use as long as
a result set reads it, and must outlive its result set but not the database.

`FMDatabase` below follows the code, and `Connection` says what its callers rely on: every call runs
its own text with its own arguments. Both keep a trace of what SQLite and the callers see. How many
parameters a text has is a matter of the text, and whether it compiles one of the current schema,
which a step of a statement or another connection may change: a statement that was prepared before
may be one that SQLite would not prepare any more.
-/

namespace PasswordPackage.StatementCache

open Machine FMDB

/-! ## Statements -/

/-- A `sqlite3_stmt`: its text, the value bound to each parameter, and whether it has been finalized
while something may still point to it. -/
structure Stmt where
  sql : String
  bindings : List SqlValue
  finalized : Bool
deriving DecidableEq

/-- A statement as it is prepared, with `count` parameters. -/
def Stmt.prepared (sql : String) (count : ℕ) : Stmt where
  sql := sql
  bindings := List.replicate count .null
  finalized := false

/-- The loop that binds the arguments, until they or the parameters run out, and whether the count
is right. A parameter without an argument keeps what was bound before. -/
def Stmt.bind (stmt : Stmt) (arguments : List (Option NSObject)) : Stmt × Bool :=
  let queryCount := stmt.bindings.length
  let idx := min arguments.length queryCount
  ({ stmt with
      bindings := (arguments.take queryCount).map bindObject ++ stmt.bindings.drop idx },
    idx = queryCount)

structure FMStatement where
  statement : Option Stmt
  inUse : Bool
  useCount : ℕ
deriving DecidableEq

/-- `close`. -/
def FMStatement.close (s : FMStatement) : FMStatement :=
  { s with statement := none, inUse := false }

/-- `reset`. -/
def FMStatement.reset (s : FMStatement) : FMStatement :=
  { s with inUse := false }

/-- A result set, with the statement it retains and whether it still knows its database. -/
structure FMResultSet where
  statement : Option ℕ
  parentDB : Bool
deriving DecidableEq

/-- What is seen of the database: a step of a statement, the answer to a caller, a finalized
statement that is used, and a statement left over when the database is closed. -/
inductive Output where
  | step (sql : String) (bindings : List SqlValue)
  | query (resultSet : Option ℕ)
  | update (success : Bool)
  | next (row : Bool)
  | misuse
  | leaked
deriving DecidableEq

/-! ## The database -/

/-- `db` says which texts compile with the current schema, and is `none` when the database is not
open. The sets of the dictionary `cachedStatements` are listed under their queries; there is no
dictionary exactly when statements are not cached. Statements and result sets are numbered. -/
structure FMDatabase where
  db : Option (String → Bool)
  cachedStatements : Option (List (String × ℕ))
  statements : ℕ → FMStatement
  nextStatement : ℕ
  resultSets : ℕ → FMResultSet
  nextResultSet : ℕ
  openResultSets : List ℕ
  trace : List Output

/-- The order in which the members of a set are visited. -/
structure SetOrder where
  visit : List ℕ → List ℕ
  perm : ∀ members, (visit members).Perm members

/-- Whether SQLite prepares a text. -/
def compiles (db : Option (String → Bool)) (sql : String) : Bool :=
  db.any fun prepares => prepares sql

namespace FMDatabase

variable (parameters : String → ℕ) (order : SetOrder)

def emits (db : FMDatabase) (outputs : List Output) : FMDatabase :=
  { db with trace := db.trace ++ outputs }

def setStatement (db : FMDatabase) (o : ℕ) (s : FMStatement) : FMDatabase :=
  { db with statements := Function.update db.statements o s }

/-- Whether a statement points to something finalized. -/
def dangling (db : FMDatabase) (o : ℕ) : Bool :=
  match (db.statements o).statement with
  | some stmt => stmt.finalized
  | none => false

/-- SQLite is handed the pointer of a statement. -/
def touch (db : FMDatabase) (o : ℕ) : FMDatabase :=
  if db.dangling o then db.emits [.misuse] else db

/-- `reset`, sent to a statement of the database. -/
def resetStatement (db : FMDatabase) (o : ℕ) : FMDatabase :=
  (db.touch o).setStatement o (db.statements o).reset

/-- `close`, sent to a statement of the database. -/
def closeStatement (db : FMDatabase) (o : ℕ) : FMDatabase :=
  (db.touch o).setStatement o (db.statements o).close

/-- `close`, sent to several statements. -/
def closeStatements (db : FMDatabase) (os : List ℕ) : FMDatabase :=
  os.foldl closeStatement db

/-- Whether the cache or a result set retains the statement. -/
def retained (db : FMDatabase) (o : ℕ) : Bool :=
  (db.cachedStatements.getD []).any (fun entry => entry.2 = o) ||
    (List.range db.nextResultSet).any fun i => (db.resultSets i).statement = some o

/-- Statements that nothing retains are deallocated, and closed by it. -/
def deallocates (db : FMDatabase) : FMDatabase :=
  db.closeStatements ((List.range db.nextStatement).filter fun o => !db.retained o)

/-- `cachedStatementForQuery:`. -/
def cachedStatementForQuery (db : FMDatabase) (query : String) : Option ℕ :=
  let statements := (db.cachedStatements.getD []).filterMap fun entry =>
    if entry.1 = query then some entry.2 else none
  (order.visit statements).find? fun o => !(db.statements o).inUse

/-- `setCachedStatement:forQuery:`. -/
def setCachedStatement (db : FMDatabase) (o : ℕ) (query : String) : FMDatabase :=
  { db with cachedStatements := db.cachedStatements.map fun entries => entries ++ [(query, o)] }

/-- `setShouldCacheStatements:`. -/
def setShouldCacheStatements (db : FMDatabase) (value : Bool) : FMDatabase :=
  if value then { db with cachedStatements := some (db.cachedStatements.getD []) }
  else { db with cachedStatements := none }.deallocates

/-- A new statement object. -/
def newStatement (db : FMDatabase) (stmt : Stmt) : FMDatabase :=
  { db with
    statements := Function.update db.statements db.nextStatement
      { statement := some stmt, inUse := false, useCount := 0 }
    nextStatement := db.nextStatement + 1 }

/-- `resultSetWithStatement:usingParentDatabase:`, and the lines after it. -/
def resultSetWithStatement (db : FMDatabase) (o : ℕ) : FMDatabase :=
  { db with
    statements := Function.update db.statements o
      { db.statements o with inUse := true, useCount := (db.statements o).useCount + 1 }
    resultSets := Function.update db.resultSets db.nextResultSet
      { statement := some o, parentDB := true }
    nextResultSet := db.nextResultSet + 1
    openResultSets := db.openResultSets ++ [db.nextResultSet]
    trace := db.trace ++ [.query (some db.nextResultSet)] }

/-- The lookup, the preparation and the binding that queries and updates begin with. On success it
gives the statement object, which is new and not cached yet, or was found in the cache. -/
inductive Acquired where
  | failed (db : FMDatabase)
  | cached (db : FMDatabase) (o : ℕ)
  | prepared (db : FMDatabase) (stmt : Stmt)

/-- From the check that the database is open to the check of the bind count. A cached statement that
has lost its pointer would be prepared into a local variable only. -/
def acquire (db : FMDatabase) (sql : String) (arguments : List (Option NSObject)) : Acquired :=
  match db.db with
  | none => .failed db
  | some prepares =>
      match db.cachedStatementForQuery order sql with
      | some o =>
          let db := db.resetStatement o
          match (db.statements o).statement with
          | some stmt =>
              let (stmt, bound) := stmt.bind arguments
              let db := db.setStatement o { db.statements o with statement := some stmt }
              if bound then .cached db o
              else .failed (db.setStatement o
                { db.statements o with statement := some { stmt with finalized := true } })
          | none =>
              if prepares sql then
                if ((Stmt.prepared sql (parameters sql)).bind arguments).2 then .cached db o
                else .failed db
              else .failed db
      | none =>
          if prepares sql then
            let (stmt, bound) := (Stmt.prepared sql (parameters sql)).bind arguments
            if bound then .prepared db stmt else .failed db
          else .failed db

/-- `executeQuery:`, and the result set it returns. -/
def executeQuery (db : FMDatabase) (sql : String) (arguments : List (Option NSObject)) :
    FMDatabase :=
  match db.acquire parameters order sql arguments with
  | .failed db => db.emits [.query none]
  | .cached db o => db.resultSetWithStatement o
  | .prepared db stmt =>
      ((db.newStatement stmt).setCachedStatement db.nextStatement sql).resultSetWithStatement
        db.nextStatement

/-- `sqlite3_step` on a statement object. -/
def stepStatement (db : FMDatabase) (o : ℕ) : FMDatabase :=
  match (db.statements o).statement with
  | some stmt => (db.touch o).emits [.step stmt.sql stmt.bindings]
  | none => db

/-- `setUseCount:` with one more use. -/
def countUse (db : FMDatabase) (o : ℕ) : FMDatabase :=
  db.setStatement o { db.statements o with useCount := (db.statements o).useCount + 1 }

/-- `executeUpdate:`; `done` says whether the step ends with `SQLITE_DONE`. A new statement is put
into the cache, and finalized when there is none. -/
def executeUpdate (db : FMDatabase) (sql : String) (arguments : List (Option NSObject))
    (done : Bool) : FMDatabase :=
  match db.acquire parameters order sql arguments with
  | .failed db => db.emits [.update false]
  | .cached db o => (((db.stepStatement o).countUse o).touch o).emits [.update done]
  | .prepared db stmt =>
      let db := db.emits [.step stmt.sql stmt.bindings]
      match db.cachedStatements with
      | none => db.emits [.update done]
      | some _ =>
          let o := db.nextStatement
          let db := (db.newStatement stmt).setCachedStatement o sql
          ((db.countUse o).touch o).emits [.update done]

/-- `reset`, sent to the statement of a result set, which may be nil. -/
def resetHeld (db : FMDatabase) (i : ℕ) : FMDatabase :=
  match (db.resultSets i).statement with
  | none => db
  | some o => db.resetStatement o

/-- A result set forgets its statement and its database, which forgets it in turn. -/
def forgets (db : FMDatabase) (i : ℕ) : FMDatabase :=
  { db with
    resultSets := Function.update db.resultSets i { statement := none, parentDB := false }
    openResultSets := if (db.resultSets i).parentDB
      then db.openResultSets.filter (· ≠ i) else db.openResultSets }

/-- `close` of a result set, also when it is deallocated. -/
def closeResultSet (db : FMDatabase) (i : ℕ) : FMDatabase :=
  ((db.resetHeld i).forgets i).deallocates

/-- `next` of a result set; `row` says whether the step ends with `SQLITE_ROW`. Without a statement
the step is a misuse that SQLite reports. -/
def next (db : FMDatabase) (i : ℕ) (row : Bool) : FMDatabase :=
  match (db.resultSets i).statement with
  | none => (db.emits [.next false]).closeResultSet i
  | some o =>
      match (db.statements o).statement with
      | none => (db.emits [.next false]).closeResultSet i
      | some _ =>
          let db := (db.stepStatement o).emits [.next row]
          if row then db else db.closeResultSet i

/-- `clearCachedStatements`. -/
def clearCachedStatements (db : FMDatabase) : FMDatabase :=
  { db.closeStatements ((db.cachedStatements.getD []).map Prod.snd) with
    cachedStatements := db.cachedStatements.map fun _ => [] }.deallocates

/-- The body of the loop of `closeOpenResultSets`. -/
def closeOpenResultSet (db : FMDatabase) (i : ℕ) : FMDatabase :=
  let db := { db with
    resultSets := Function.update db.resultSets i { db.resultSets i with parentDB := false } }
  let db := db.closeResultSet i
  { db with openResultSets := db.openResultSets.filter (· ≠ i) }

/-- `closeOpenResultSets`, over a copy of the set. -/
def closeOpenResultSets (db : FMDatabase) : FMDatabase :=
  db.openResultSets.foldl closeOpenResultSet db

/-- The statements `sqlite3_next_stmt` finds. -/
def unfinalized (db : FMDatabase) : List ℕ :=
  (List.range db.nextStatement).filter fun o =>
    match (db.statements o).statement with
    | some stmt => !stmt.finalized
    | none => false

/-- `sqlite3_close`, after the statements left over are finalized. -/
def sqlite3_close (db : FMDatabase) : FMDatabase :=
  let db := db.unfinalized.foldl
    (fun db o => (db.setStatement o { db.statements o with
      statement := (db.statements o).statement.map fun stmt => { stmt with finalized := true } })
      |>.emits [.leaked]) db
  { db with db := none }

/-- `close`. -/
def close (db : FMDatabase) : FMDatabase :=
  let db := db.clearCachedStatements.closeOpenResultSets
  match db.db with
  | none => db
  | some _ => db.sqlite3_close

/-- `open`, on a file with the texts that `prepares` compiles. -/
def openDatabase (db : FMDatabase) (prepares : String → Bool) : FMDatabase :=
  match db.db with
  | some _ => db
  | none => { db with db := some prepares }

/-- The schema changes. -/
def changeSchema (db : FMDatabase) (prepares : String → Bool) : FMDatabase :=
  { db with db := db.db.map fun _ => prepares }

/-- Whether a call of the text gets past the preparation: it is skipped for a cached statement. -/
def accepts (db : FMDatabase) (sql : String) : Bool :=
  db.db.isSome && ((db.cachedStatementForQuery order sql).isSome || compiles db.db sql)

end FMDatabase

/-- Calls on one database and its result sets, from one thread. After any of them the schema may be
another one. -/
inductive Event where
  | openDatabase (prepares : String → Bool)
  | changeSchema (prepares : String → Bool)
  | close
  | setShouldCacheStatements (value : Bool)
  | executeQuery (sql : String) (arguments : List (Option NSObject))
  | executeUpdate (sql : String) (arguments : List (Option NSObject)) (done : Bool)
  | next (i : ℕ) (row : Bool)
  | closeResultSet (i : ℕ)

def step (parameters : String → ℕ) (order : SetOrder) (db : FMDatabase) : Event → FMDatabase
  | .openDatabase prepares => db.openDatabase prepares
  | .changeSchema prepares => db.changeSchema prepares
  | .close => db.close
  | .setShouldCacheStatements value => db.setShouldCacheStatements value
  | .executeQuery sql arguments => db.executeQuery parameters order sql arguments
  | .executeUpdate sql arguments done => db.executeUpdate parameters order sql arguments done
  | .next i row => db.next i row
  | .closeResultSet i => db.closeResultSet i

/-- `initWithPath:`. -/
def initial : FMDatabase where
  db := none
  cachedStatements := none
  statements := fun _ => { statement := none, inUse := false, useCount := 0 }
  nextStatement := 0
  resultSets := fun _ => { statement := none, parentDB := false }
  nextResultSet := 0
  openResultSets := []
  trace := []

/-! ## The connection its callers see -/

/-- Open result sets run their text with their arguments. -/
structure Connection where
  db : Option (String → Bool)
  resultSets : ℕ → Option (String × List SqlValue)
  nextResultSet : ℕ
  trace : List Output

/-- The values bound to the parameters of a text. -/
def boundArguments (parameters : String → ℕ) (sql : String) (arguments : List (Option NSObject)) :
    List SqlValue :=
  (arguments.take (parameters sql)).map bindObject

namespace Connection

variable (parameters : String → ℕ)

def emits (c : Connection) (outputs : List Output) : Connection :=
  { c with trace := c.trace ++ outputs }

def closeResultSet (c : Connection) (i : ℕ) : Connection :=
  { c with resultSets := Function.update c.resultSets i none }

def executeQuery (c : Connection) (accepted : Bool) (sql : String)
    (arguments : List (Option NSObject)) : Connection :=
  if accepted then
    { c with
      resultSets := Function.update c.resultSets c.nextResultSet
        (some (sql, boundArguments parameters sql arguments))
      nextResultSet := c.nextResultSet + 1
      trace := c.trace ++ [.query (some c.nextResultSet)] }
  else c.emits [.query none]

def executeUpdate (c : Connection) (accepted : Bool) (sql : String)
    (arguments : List (Option NSObject)) (done : Bool) : Connection :=
  if accepted then c.emits [.step sql (boundArguments parameters sql arguments), .update done]
  else c.emits [.update false]

def next (c : Connection) (i : ℕ) (row : Bool) : Connection :=
  match c.resultSets i with
  | none => c.emits [.next false]
  | some (sql, bindings) =>
      let c := c.emits [.step sql bindings, .next row]
      if row then c else c.closeResultSet i

/-- What a call does, when the texts that `accepts` names get past the preparation. -/
def call (c : Connection) (accepts : String → Bool) : Event → Connection
  | .openDatabase prepares => { c with db := some (c.db.getD prepares) }
  | .changeSchema prepares => { c with db := c.db.map fun _ => prepares }
  | .close => { c with db := none, resultSets := fun _ => none }
  | .setShouldCacheStatements _ => c
  | .executeQuery sql arguments => c.executeQuery parameters (accepts sql) sql arguments
  | .executeUpdate sql arguments done =>
      c.executeUpdate parameters (accepts sql) sql arguments done
  | .next i row => c.next i row
  | .closeResultSet i => c.closeResultSet i

/-- What a call does when every text is prepared anew. -/
def step (c : Connection) (e : Event) : Connection :=
  c.call parameters (compiles c.db) e

def initial : Connection where
  db := none
  resultSets := fun _ => none
  nextResultSet := 0
  trace := []

end Connection

/-- The call brings an argument for each parameter. -/
def EnoughArguments (parameters : String → ℕ) : Event → Prop
  | .executeQuery sql arguments | .executeUpdate sql arguments _ =>
      parameters sql ≤ arguments.length
  | _ => True

/-- The call finds a cached statement of a text that would not be prepared any more. -/
def Stale (order : SetOrder) (db : FMDatabase) : Event → Prop
  | .executeQuery sql _ | .executeUpdate sql _ _ =>
      (db.cachedStatementForQuery order sql).isSome ∧ compiles db.db sql = false
  | _ => False

instance Stale.decidable (order : SetOrder) (db : FMDatabase) : (e : Event) →
    Decidable (Stale order db e)
  | .executeQuery sql _ | .executeUpdate sql _ _ =>
      inferInstanceAs (Decidable ((db.cachedStatementForQuery order sql).isSome ∧
        compiles db.db sql = false))
  | .openDatabase _ | .changeSchema _ | .close | .setShouldCacheStatements _ | .next _ _
  | .closeResultSet _ => isFalse fun h => h

/-! ## Binding -/

theorem bind_eq {stmt : Stmt} {arguments : List (Option NSObject)}
    (h : stmt.bindings.length ≤ arguments.length) :
    stmt.bind arguments =
      ({ stmt with bindings := (arguments.take stmt.bindings.length).map bindObject }, true) := by
  have hidx : min arguments.length stmt.bindings.length = stmt.bindings.length :=
    Nat.min_eq_right h
  simp [Stmt.bind, hidx]

variable {parameters : String → ℕ} {sql : String} {arguments : List (Option NSObject)}

theorem length_boundArguments (h : parameters sql ≤ arguments.length) :
    (boundArguments parameters sql arguments).length = parameters sql := by
  simp [boundArguments, h]

theorem bind_prepared (h : parameters sql ≤ arguments.length) :
    (Stmt.prepared sql (parameters sql)).bind arguments =
      (⟨sql, boundArguments parameters sql arguments, false⟩, true) := by
  have hlength : (Stmt.prepared sql (parameters sql)).bindings.length = parameters sql := by
    simp [Stmt.prepared]
  rw [bind_eq (by rw [hlength]; exact h), hlength]
  rfl

end PasswordPackage.StatementCache
