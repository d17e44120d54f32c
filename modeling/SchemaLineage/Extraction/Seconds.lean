import SchemaLineage.Decimal.Shortest
/-
How long a pass may take.
-/

namespace SchemaLineage

/-- A number of seconds, whole or not. -/
inductive Seconds where
  | whole (n : Int)
  | binary (x : Binary64)
  deriving DecidableEq, Repr

namespace Seconds

/-- Only a positive number is a limit. -/
def isLimit : Seconds → Bool
  | whole n => 0 < n
  | binary x => !x.isZero && !x.isNegative

def text : Seconds → String
  | whole n => toString n
  | binary x => x.text .seconds

end Seconds
end SchemaLineage
