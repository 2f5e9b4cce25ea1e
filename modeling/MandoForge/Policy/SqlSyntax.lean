/-
Module: MandoForge.Policy.SqlSyntax
Purpose: The statements that the SQL parser answers with, with every place in which a
  query stands inside another one, and what it means that something in a statement
  writes or locks, at any depth.
Trusted boundary: the syntax is the parser's.  Forms of expressions that are made of
  expressions only are one constructor, clauses that hold expressions only are one
  list, and a statement that is neither a query nor an EXPLAIN has no parts.
Main exports: SqlStatement, SqlSetExpr
-/

namespace MandoForge

/-! ### Syntax -/

/-- `FOR UPDATE` or `FOR SHARE`. -/
inductive SqlLock where
  | update
  | share
deriving DecidableEq, Repr

mutual

/-- `Statement`. -/
inductive SqlStatement where
  | query (query : SqlQuery)
  | explain (analyze : Bool) (statement : SqlStatement)
  | other (name : String)

/-- `Query`; the clauses are ORDER BY, LIMIT, OFFSET and FETCH. -/
structure SqlQuery where
  cteTables : List SqlCte
  body : SqlSetExpr
  clauses : List SqlExpr
  locks : List SqlLock

/-- `Cte`: a table of WITH. -/
structure SqlCte where
  aliasName : String
  query : SqlQuery

/-- `SetExpr`. -/
inductive SqlSetExpr where
  | select (select : SqlSelect)
  | query (query : SqlQuery)
  | setOperation (op : String) (left right : SqlSetExpr)
  | values (rows : List (List SqlExpr))
  | insert (statement : SqlStatement)
  | update (statement : SqlStatement)
  | table (name : String)

/-- `Select`; the clauses are all those that hold expressions only: DISTINCT ON, WHERE,
GROUP BY, HAVING, WINDOW and the like. -/
structure SqlSelect where
  projection : List SqlExpr
  into : Option String
  relations : List SqlTableWithJoins
  clauses : List SqlExpr

/-- `TableWithJoins`: one item of FROM. -/
structure SqlTableWithJoins where
  relation : SqlTableFactor
  joins : List SqlJoin

/-- `Join`. -/
structure SqlJoin where
  relation : SqlTableFactor
  constraint : List SqlExpr

/-- `TableFactor`. -/
inductive SqlTableFactor where
  | table (name : String) (args : List SqlExpr)
  | derived (lateral : Bool) (subquery : SqlQuery)
  /-- A table made by a function: TABLE(..), UNNEST, JSON_TABLE and the like. -/
  | function (name : String) (args : List SqlExpr)
  | nestedJoin (tableWithJoins : SqlTableWithJoins)
  | pivot (relation : SqlTableFactor) (operands : List SqlExpr) (valueSource : List SqlQuery)
  /-- UNPIVOT and MATCH_RECOGNIZE. -/
  | reshaped (relation : SqlTableFactor) (operands : List SqlExpr)

/-- `Expr`. -/
inductive SqlExpr where
  | leaf (text : String)
  | form (name : String) (operands : List SqlExpr)
  | subquery (query : SqlQuery)
  | existsIn (negated : Bool) (subquery : SqlQuery)
  | inSubquery (expr : SqlExpr) (negated : Bool) (subquery : SqlQuery)
  /-- The clauses are FILTER, OVER and WITHIN GROUP. -/
  | function (name : String) (parameters args : SqlFunctionArguments) (clauses : List SqlExpr)

/-- `FunctionArguments`. -/
inductive SqlFunctionArguments where
  | none
  | subquery (query : SqlQuery)
  | list (args : List SqlExpr)

end

/-! ### What writes or locks -/

mutual

/-- A data-modifying body, a SELECT that creates a table or a row lock stands in the
statement, at any depth. -/
inductive SqlStatement.WritesOrLocks : SqlStatement → Prop where
  | query {query : SqlQuery} (inQuery : query.WritesOrLocks) :
      SqlStatement.WritesOrLocks (.query query)
  | explain {analyze : Bool} {statement : SqlStatement}
      (inStatement : statement.WritesOrLocks) :
      SqlStatement.WritesOrLocks (.explain analyze statement)

inductive SqlQuery.WritesOrLocks : SqlQuery → Prop where
  | lock {query : SqlQuery} {lock : SqlLock} (member : lock ∈ query.locks) :
      SqlQuery.WritesOrLocks query
  | cte {query : SqlQuery} {table : SqlCte} (member : table ∈ query.cteTables)
      (inTable : table.query.WritesOrLocks) : SqlQuery.WritesOrLocks query
  | body {query : SqlQuery} (inBody : query.body.WritesOrLocks) : SqlQuery.WritesOrLocks query
  | clause {query : SqlQuery} {expr : SqlExpr} (member : expr ∈ query.clauses)
      (inExpr : expr.WritesOrLocks) : SqlQuery.WritesOrLocks query

inductive SqlSetExpr.WritesOrLocks : SqlSetExpr → Prop where
  | insert {statement : SqlStatement} : SqlSetExpr.WritesOrLocks (.insert statement)
  | update {statement : SqlStatement} : SqlSetExpr.WritesOrLocks (.update statement)
  | select {select : SqlSelect} (inSelect : select.WritesOrLocks) :
      SqlSetExpr.WritesOrLocks (.select select)
  | query {query : SqlQuery} (inQuery : query.WritesOrLocks) :
      SqlSetExpr.WritesOrLocks (.query query)
  | left {op : String} {left right : SqlSetExpr} (inLeft : left.WritesOrLocks) :
      SqlSetExpr.WritesOrLocks (.setOperation op left right)
  | right {op : String} {left right : SqlSetExpr} (inRight : right.WritesOrLocks) :
      SqlSetExpr.WritesOrLocks (.setOperation op left right)
  | value {rows : List (List SqlExpr)} {row : List SqlExpr} {expr : SqlExpr}
      (rowMember : row ∈ rows) (member : expr ∈ row) (inExpr : expr.WritesOrLocks) :
      SqlSetExpr.WritesOrLocks (.values rows)

inductive SqlSelect.WritesOrLocks : SqlSelect → Prop where
  | into {select : SqlSelect} {name : String} (isInto : select.into = some name) :
      SqlSelect.WritesOrLocks select
  | projection {select : SqlSelect} {expr : SqlExpr} (member : expr ∈ select.projection)
      (inExpr : expr.WritesOrLocks) : SqlSelect.WritesOrLocks select
  | relation {select : SqlSelect} {tableWithJoins : SqlTableWithJoins}
      (member : tableWithJoins ∈ select.relations)
      (inRelation : tableWithJoins.WritesOrLocks) : SqlSelect.WritesOrLocks select
  | clause {select : SqlSelect} {expr : SqlExpr} (member : expr ∈ select.clauses)
      (inExpr : expr.WritesOrLocks) : SqlSelect.WritesOrLocks select

inductive SqlTableWithJoins.WritesOrLocks : SqlTableWithJoins → Prop where
  | relation {item : SqlTableWithJoins} (inRelation : item.relation.WritesOrLocks) :
      SqlTableWithJoins.WritesOrLocks item
  | joined {item : SqlTableWithJoins} {join : SqlJoin} (member : join ∈ item.joins)
      (inRelation : join.relation.WritesOrLocks) : SqlTableWithJoins.WritesOrLocks item
  | constraint {item : SqlTableWithJoins} {join : SqlJoin} {expr : SqlExpr}
      (joinMember : join ∈ item.joins) (member : expr ∈ join.constraint)
      (inExpr : expr.WritesOrLocks) : SqlTableWithJoins.WritesOrLocks item

inductive SqlTableFactor.WritesOrLocks : SqlTableFactor → Prop where
  | tableArg {name : String} {args : List SqlExpr} {expr : SqlExpr} (member : expr ∈ args)
      (inExpr : expr.WritesOrLocks) : SqlTableFactor.WritesOrLocks (.table name args)
  | derived {lateral : Bool} {subquery : SqlQuery} (inQuery : subquery.WritesOrLocks) :
      SqlTableFactor.WritesOrLocks (.derived lateral subquery)
  | functionArg {name : String} {args : List SqlExpr} {expr : SqlExpr} (member : expr ∈ args)
      (inExpr : expr.WritesOrLocks) : SqlTableFactor.WritesOrLocks (.function name args)
  | nestedJoin {item : SqlTableWithJoins} (inItem : item.WritesOrLocks) :
      SqlTableFactor.WritesOrLocks (.nestedJoin item)
  | pivoted {relation : SqlTableFactor} {operands : List SqlExpr} {source : List SqlQuery}
      (inRelation : relation.WritesOrLocks) :
      SqlTableFactor.WritesOrLocks (.pivot relation operands source)
  | pivotOperand {relation : SqlTableFactor} {operands : List SqlExpr} {source : List SqlQuery}
      {expr : SqlExpr} (member : expr ∈ operands) (inExpr : expr.WritesOrLocks) :
      SqlTableFactor.WritesOrLocks (.pivot relation operands source)
  | pivotSource {relation : SqlTableFactor} {operands : List SqlExpr} {source : List SqlQuery}
      {query : SqlQuery} (member : query ∈ source) (inQuery : query.WritesOrLocks) :
      SqlTableFactor.WritesOrLocks (.pivot relation operands source)
  | reshaped {relation : SqlTableFactor} {operands : List SqlExpr}
      (inRelation : relation.WritesOrLocks) :
      SqlTableFactor.WritesOrLocks (.reshaped relation operands)
  | reshapeOperand {relation : SqlTableFactor} {operands : List SqlExpr} {expr : SqlExpr}
      (member : expr ∈ operands) (inExpr : expr.WritesOrLocks) :
      SqlTableFactor.WritesOrLocks (.reshaped relation operands)

inductive SqlExpr.WritesOrLocks : SqlExpr → Prop where
  | operand {name : String} {operands : List SqlExpr} {expr : SqlExpr}
      (member : expr ∈ operands) (inExpr : expr.WritesOrLocks) :
      SqlExpr.WritesOrLocks (.form name operands)
  | subquery {query : SqlQuery} (inQuery : query.WritesOrLocks) :
      SqlExpr.WritesOrLocks (.subquery query)
  | existsIn {negated : Bool} {subquery : SqlQuery} (inQuery : subquery.WritesOrLocks) :
      SqlExpr.WritesOrLocks (.existsIn negated subquery)
  | inSubquery {expr : SqlExpr} {negated : Bool} {subquery : SqlQuery}
      (inQuery : subquery.WritesOrLocks) :
      SqlExpr.WritesOrLocks (.inSubquery expr negated subquery)
  | inOperand {expr : SqlExpr} {negated : Bool} {subquery : SqlQuery}
      (inExpr : expr.WritesOrLocks) :
      SqlExpr.WritesOrLocks (.inSubquery expr negated subquery)
  | parameter {name : String} {parameters args : SqlFunctionArguments} {clauses : List SqlExpr}
      (inParameters : parameters.WritesOrLocks) :
      SqlExpr.WritesOrLocks (.function name parameters args clauses)
  | argument {name : String} {parameters args : SqlFunctionArguments} {clauses : List SqlExpr}
      (inArgs : args.WritesOrLocks) :
      SqlExpr.WritesOrLocks (.function name parameters args clauses)
  | clause {name : String} {parameters args : SqlFunctionArguments} {clauses : List SqlExpr}
      {expr : SqlExpr} (member : expr ∈ clauses) (inExpr : expr.WritesOrLocks) :
      SqlExpr.WritesOrLocks (.function name parameters args clauses)

inductive SqlFunctionArguments.WritesOrLocks : SqlFunctionArguments → Prop where
  | subquery {query : SqlQuery} (inQuery : query.WritesOrLocks) :
      SqlFunctionArguments.WritesOrLocks (.subquery query)
  | argument {args : List SqlExpr} {expr : SqlExpr} (member : expr ∈ args)
      (inExpr : expr.WritesOrLocks) : SqlFunctionArguments.WritesOrLocks (.list args)

end

end MandoForge
