/-
Module: MandoForge.Policy.ReadOnlySql
Purpose: The check that a query of a tool only reads.  It walks down EXPLAIN, the
  tables of WITH, parentheses and set operations, and takes every SELECT and VALUES
  without looking into it.
Trusted boundary: the parser and the tokenizer are parameters.
Main exports: ensureReadOnlySqlWithPolicy, accepted_only_reads_iff
-/
import MandoForge.Data.Text
import MandoForge.Foundation.Outcome
import MandoForge.Core.Records
import MandoForge.Policy.SqlSyntax

namespace MandoForge

open Foundation

/-! ### The check -/

structure SqlPolicy where
  maxRows : Int
  blockedKeywords : List String
deriving DecidableEq, Repr

/-- `SqlPolicy::default`. -/
def SqlPolicy.default : SqlPolicy where
  maxRows := 500
  blockedKeywords :=
    ["INSERT", "UPDATE", "DELETE", "DROP", "ALTER", "CREATE", "TRUNCATE", "GRANT", "REVOKE",
      "COPY", "CALL", "DO"]

/-- A token of the text: a word, in quotes or not, or anything else. -/
inductive SqlToken where
  | word (value : String) (quoted : Bool)
  | other (text : String)
deriving DecidableEq, Repr

mutual

def ensureQueryIsReadOnly : SqlQuery → Except AppError Unit
  | ⟨cteTables, body, _, locks⟩ => do
      if locks ≠ [] then throw (.badRequest "sql.query does not allow row-locking clauses")
      ensureCtesAreReadOnly cteTables
      ensureSetExprIsReadOnly body

/-- The tables of WITH, one after the other. -/
def ensureCtesAreReadOnly : List SqlCte → Except AppError Unit
  | [] => .ok ()
  | ⟨_, query⟩ :: rest => do
      ensureQueryIsReadOnly query
      ensureCtesAreReadOnly rest

def ensureSetExprIsReadOnly : SqlSetExpr → Except AppError Unit
  | .select _ | .values _ | .table _ => .ok ()
  | .query query => ensureQueryIsReadOnly query
  | .setOperation _ left right => do
      ensureSetExprIsReadOnly left
      ensureSetExprIsReadOnly right
  | .insert _ | .update _ =>
      throw (.badRequest "sql.query only accepts read-only query expressions")

end

def ensureStatementIsReadOnly : SqlStatement → Except AppError Unit
  | .query query => ensureQueryIsReadOnly query
  | .explain analyze statement => do
      if analyze then throw (.badRequest "sql.query does not allow EXPLAIN ANALYZE")
      ensureStatementIsReadOnly statement
  | .other _ =>
      throw (.badRequest ("sql.query only accepts read-only SELECT, WITH, VALUES, TABLE, or " ++
        "non-ANALYZE EXPLAIN"))

/-- The token is a keyword that the policy blocks. -/
def SqlPolicy.blocks (policy : SqlPolicy) : SqlToken → Bool
  | .word value quoted => !quoted && policy.blockedKeywords.any (eqIgnoreAsciiCase value)
  | .other _ => false

section

variable {ParseError : Type} (parseSql : String → Except ParseError (List SqlStatement))
  (tokenize : String → Except ParseError (List SqlToken))

def ensureReadOnlySqlWithPolicy (sql : String) (policy : SqlPolicy) : Except AppError Unit :=
  match parseSql sql with
  | .error _ => .error (.badRequest "sql.query requires parseable read-only SQL")
  | .ok [statement] =>
      match ensureStatementIsReadOnly statement with
      | .error error => .error error
      | .ok _ =>
          match tokenize sql with
          | .error _ => .error (.badRequest "sql.query requires parseable read-only SQL")
          | .ok tokens =>
              if tokens.any policy.blocks then
                .error (.badRequest "sql.query only accepts read-only SQL")
              else .ok ()
  | .ok _ => .error (.badRequest "only one SQL statement is allowed")

end

/-! ### What the check does not look into -/

mutual

/-- Something that writes or locks stands in a part that the check takes unread. -/
inductive SqlStatement.Hides : SqlStatement → Prop where
  | query {query : SqlQuery} (inQuery : query.Hides) : SqlStatement.Hides (.query query)
  | explain {analyze : Bool} {statement : SqlStatement} (inStatement : statement.Hides) :
      SqlStatement.Hides (.explain analyze statement)

inductive SqlQuery.Hides : SqlQuery → Prop where
  | clause {query : SqlQuery} {expr : SqlExpr} (member : expr ∈ query.clauses)
      (inExpr : expr.WritesOrLocks) : SqlQuery.Hides query
  | cte {query : SqlQuery} {table : SqlCte} (member : table ∈ query.cteTables)
      (inTable : table.query.Hides) : SqlQuery.Hides query
  | body {query : SqlQuery} (inBody : query.body.Hides) : SqlQuery.Hides query

inductive SqlSetExpr.Hides : SqlSetExpr → Prop where
  | select {select : SqlSelect} (inSelect : select.WritesOrLocks) :
      SqlSetExpr.Hides (.select select)
  | value {rows : List (List SqlExpr)} {row : List SqlExpr} {expr : SqlExpr}
      (rowMember : row ∈ rows) (member : expr ∈ row) (inExpr : expr.WritesOrLocks) :
      SqlSetExpr.Hides (.values rows)
  | query {query : SqlQuery} (inQuery : query.Hides) : SqlSetExpr.Hides (.query query)
  | left {op : String} {left right : SqlSetExpr} (inLeft : left.Hides) :
      SqlSetExpr.Hides (.setOperation op left right)
  | right {op : String} {left right : SqlSetExpr} (inRight : right.Hides) :
      SqlSetExpr.Hides (.setOperation op left right)

end

mutual

theorem SqlStatement.Hides.writesOrLocks {statement : SqlStatement} :
    statement.Hides → statement.WritesOrLocks
  | .query inQuery => .query inQuery.writesOrLocks
  | .explain inStatement => .explain inStatement.writesOrLocks

theorem SqlQuery.Hides.writesOrLocks {query : SqlQuery} : query.Hides → query.WritesOrLocks
  | .clause member inExpr => .clause member inExpr
  | .cte member inTable => .cte member inTable.writesOrLocks
  | .body inBody => .body inBody.writesOrLocks

theorem SqlSetExpr.Hides.writesOrLocks {body : SqlSetExpr} : body.Hides → body.WritesOrLocks
  | .select inSelect => .select inSelect
  | .value rowMember member inExpr => .value rowMember member inExpr
  | .query inQuery => .query inQuery.writesOrLocks
  | .left inLeft => .left inLeft.writesOrLocks
  | .right inRight => .right inRight.writesOrLocks

end

/-! ### What the check says -/

theorem ensureCtesAreReadOnly_ok {tables : List SqlCte} :
    ensureCtesAreReadOnly tables = .ok () ↔
      ∀ table ∈ tables, ensureQueryIsReadOnly table.query = .ok () := by
  induction tables with
  | nil => simp [ensureCtesAreReadOnly]
  | cons table rest inductionHypothesis =>
      obtain ⟨name, query⟩ := table
      rw [ensureCtesAreReadOnly, then_eq_ok, inductionHypothesis, List.forall_mem_cons]

theorem ensureQueryIsReadOnly_ok {query : SqlQuery} :
    ensureQueryIsReadOnly query = .ok () ↔
      query.locks = [] ∧
        (∀ table ∈ query.cteTables, ensureQueryIsReadOnly table.query = .ok ()) ∧
        ensureSetExprIsReadOnly query.body = .ok () := by
  obtain ⟨cteTables, body, clauses, locks⟩ := query
  rw [ensureQueryIsReadOnly, guardThen_eq_ok, then_eq_ok, ensureCtesAreReadOnly_ok, not_not]

mutual

theorem SqlQuery.WritesOrLocks.hides {query : SqlQuery}
    (accepted : ensureQueryIsReadOnly query = .ok ()) : query.WritesOrLocks → query.Hides
  | .lock member => by
      rw [(ensureQueryIsReadOnly_ok.mp accepted).1] at member
      cases member
  | .cte member inTable =>
      .cte member (inTable.hides ((ensureQueryIsReadOnly_ok.mp accepted).2.1 _ member))
  | .body inBody => .body (inBody.hides (ensureQueryIsReadOnly_ok.mp accepted).2.2)
  | .clause member inExpr => .clause member inExpr

theorem SqlSetExpr.WritesOrLocks.hides {body : SqlSetExpr}
    (accepted : ensureSetExprIsReadOnly body = .ok ()) : body.WritesOrLocks → body.Hides
  | .insert => nomatch accepted
  | .update => nomatch accepted
  | .select inSelect => .select inSelect
  | .query inQuery => .query (inQuery.hides accepted)
  | .left inLeft => .left (inLeft.hides (then_eq_ok.mp accepted).1)
  | .right inRight => .right (inRight.hides (then_eq_ok.mp accepted).2)
  | .value rowMember member inExpr => .value rowMember member inExpr

end

theorem ensureStatementIsReadOnly_explain {analyze : Bool} {statement : SqlStatement} :
    ensureStatementIsReadOnly (.explain analyze statement) = .ok () ↔
      ¬analyze = true ∧ ensureStatementIsReadOnly statement = .ok () := by
  rw [ensureStatementIsReadOnly, guardThen_eq_ok]

theorem SqlStatement.WritesOrLocks.hides {statement : SqlStatement}
    (accepted : ensureStatementIsReadOnly statement = .ok ()) :
    statement.WritesOrLocks → statement.Hides
  | .query inQuery => .query (inQuery.hides accepted)
  | .explain inStatement =>
      .explain (inStatement.hides (ensureStatementIsReadOnly_explain.mp accepted).2)

theorem ensureReadOnlySqlWithPolicy_ok {ParseError : Type}
    {parseSql : String → Except ParseError (List SqlStatement)}
    {tokenize : String → Except ParseError (List SqlToken)} {sql : String} {policy : SqlPolicy}
    (accepted : ensureReadOnlySqlWithPolicy parseSql tokenize sql policy = .ok ()) :
    ∃ statement, parseSql sql = .ok [statement] ∧
      ensureStatementIsReadOnly statement = .ok () := by
  unfold ensureReadOnlySqlWithPolicy at accepted
  split at accepted
  · cases accepted
  · rename_i statement parsed
    refine ⟨statement, parsed, ?_⟩
    cases checked : ensureStatementIsReadOnly statement with
    | error error =>
        rw [checked] at accepted
        cases accepted
    | ok => rfl
  · cases accepted

/-- An accepted text is one statement, and it writes or locks nowhere exactly when no
part that the check takes unread does. -/
theorem accepted_only_reads_iff {ParseError : Type}
    {parseSql : String → Except ParseError (List SqlStatement)}
    {tokenize : String → Except ParseError (List SqlToken)} {sql : String} {policy : SqlPolicy}
    (accepted : ensureReadOnlySqlWithPolicy parseSql tokenize sql policy = .ok ()) :
    ∃ statement, parseSql sql = .ok [statement] ∧
      (¬statement.WritesOrLocks ↔ ¬statement.Hides) := by
  obtain ⟨statement, parsed, checked⟩ := ensureReadOnlySqlWithPolicy_ok accepted
  refine ⟨statement, parsed, not_congr ⟨fun writes => writes.hides checked, fun hides => ?_⟩⟩
  exact hides.writesOrLocks

/-! ### A table made by a SELECT -/

def selectFrom (into : Option String) (relation : SqlTableFactor) : SqlSelect where
  projection := [.leaf "*"]
  into := into
  relations := [⟨relation, []⟩]
  clauses := []

def plainQuery (body : SqlSetExpr) (locks : List SqlLock) : SqlQuery where
  cteTables := []
  body := body
  clauses := []
  locks := locks

/-- `select * into copied from products`. -/
def copyProducts : SqlStatement :=
  .query (plainQuery (.select (selectFrom (some "copied") (.table "products" []))) [])

/-- `select * from (select * from orders for share) as locked`. -/
def lockOrders : SqlStatement :=
  .query (plainQuery (.select (selectFrom none (.derived false
    (plainQuery (.select (selectFrom none (.table "orders" []))) [.share])))) [])

/-- `with daily as (select * from orders) select * from daily`. -/
def readDaily : SqlStatement :=
  .query { plainQuery (.select (selectFrom none (.table "daily" []))) [] with
    cteTables := [⟨"daily", plainQuery (.select (selectFrom none (.table "orders" []))) []⟩] }

/-- The parser on these three texts. -/
def parseThree (sql : String) : Except String (List SqlStatement) :=
  if sql = "select * into copied from products" then .ok [copyProducts]
  else if sql = "select * from (select * from orders for share) as locked" then .ok [lockOrders]
  else if sql = "with daily as (select * from orders) select * from daily" then .ok [readDaily]
  else .error "unexpected"

/-- The words of a text. -/
def tokenizeWords (sql : String) : Except String (List SqlToken) :=
  .ok (((splitChars ' ' sql.toList).map String.ofList).map (.word · false))

theorem daily_only_reads_iff :
    ∃ statement,
      parseThree "with daily as (select * from orders) select * from daily" = .ok [statement] ∧
        (¬statement.WritesOrLocks ↔ ¬statement.Hides) :=
  @accepted_only_reads_iff _ parseThree tokenizeWords _ .default rfl

/-- The default policy accepts a SELECT that creates a table, and one that locks the rows
of a table in FROM. -/
theorem select_into_accepted :
    (ensureReadOnlySqlWithPolicy parseThree tokenizeWords "select * into copied from products"
        .default = .ok () ∧ copyProducts.WritesOrLocks) ∧
      ensureReadOnlySqlWithPolicy parseThree tokenizeWords
        "select * from (select * from orders for share) as locked" .default = .ok () ∧
      lockOrders.WritesOrLocks := by
  refine ⟨⟨rfl, .query (.body (.select (.into rfl)))⟩, rfl, ?_⟩
  refine .query (.body (.select (.relation List.mem_cons_self (.relation (.derived ?_)))))
  exact .lock List.mem_cons_self

end MandoForge
