import SchemaLineage.Sql.Parser
/-
The readers that call one another.

Each level of nesting of the text passes through a `Grammar`, whose readers are those of the level
below; the reader of expressions is built over it in `Sql.Expression` and that of queries in
`Sql.Query`.
-/

namespace SchemaLineage
namespace Sql

structure Grammar where
  dialect : Dialect
  expression : Parser (Option Expr)
  /-- A comparison at most, which is what `NOT` takes. -/
  equality : Parser (Option Expr)
  unary : Parser (Option Expr)
  /-- A query that does not start with a parenthesis, with all that is combined with it. -/
  query : Parser (Option Query)
  /-- A query, in parentheses or not, with nothing combined with it. -/
  operand : Parser (Option Query)
  fromItem : Parser FromItem
  joins : Parser (List Join)
  statement : Parser (Option Statement)

namespace Grammar

/-- The readers for text that is nested too deeply. -/
def refusing (d : Dialect) : Grammar :=
  { dialect := d
    expression := failure
    equality := failure
    unary := failure
    query := failure
    operand := failure
    fromItem := failure
    joins := failure
    statement := failure }

end Grammar
end Sql
end SchemaLineage
