import AdminQuery.Filter.ControlToken
import AdminQuery.Filter.TemporalOperator
import AdminQuery.Filter.TextOperator
import AdminQuery.Number.Decimal
import AdminQuery.Schema.StorageType

/-!
# What a filter entry tests

How an operator and a value test a column, by the storage type of the column.  Input that is incomplete
or malformed gives no test.

* `FilterEntry.valuePredicate?`: the test that a value asks for
* `FilterEntry.predicate?`: the test of an entry, control tokens first
* `FilterEntry.atom?`: the test of one column
* `FilterEntry.overflows`: the entries on which the program stops
-/

namespace AdminQuery

namespace Predicate

/-- The test of a truth value. -/
def ofTruthText? (value : String) : Option Predicate :=
  let plain := Text.trim value
  if ["false", "f", "0"].contains plain then some .isFalse
  else if ["true", "t", "1"].contains plain then some (.equals (.boolean true))
  else none

/-- The test of a whole number. -/
def ofIntegerText? (value : String) : Option Predicate :=
  (Number.integer? (Text.trim value)).map fun n => .equals (.integer n)

/-- The test of a finite number. -/
def ofDecimalText? (value : String) : Option Predicate :=
  ((Number.double? (Text.trim value)).filter Double.isFinite).map fun x => .equals (.float x)

end Predicate

namespace FilterEntry

/-- The test that a value asks for on a column of a storage type. -/
def valuePredicate? (entry : FilterEntry) (style : PatternStyle) (type : StorageType)
    (now : Instant) : Option Predicate :=
  match type with
  | .string | .text => style.predicate? (.ofOperator entry.operator) entry.value
  | .boolean => Predicate.ofTruthText? entry.value
  | .integer => Predicate.ofIntegerText? entry.value
  | .float | .decimal => Predicate.ofDecimalText? entry.value
  | .enum => some (.oneOf [entry.value])
  | .date | .datetime | .timestamp =>
    (TemporalOperator.ofOperator entry.operator).predicate? entry.value now
  | .binary => none

/-- The test of an entry: a control token in either slot settles it, else its value does. -/
def predicate? (entry : FilterEntry) (style : PatternStyle) (type : StorageType) (now : Instant) :
    Option Predicate :=
  match entry.controlToken? with
  | some token => token.predicate?
  | none => entry.valuePredicate? style type now

/-- The test of an entry on one column. -/
def atom? (entry : FilterEntry) (style : PatternStyle) (column : String) (type : StorageType)
    (now : Instant) : Option Atom :=
  (entry.predicate? style type now).map fun predicate => ⟨column, predicate⟩

/-- The value of an entry is asked for, and names a week that is not covered as a whole. -/
def overflows (entry : FilterEntry) (type : StorageType) (now : Instant) : Bool :=
  type.isTemporal && entry.controlToken?.isNone &&
    (TemporalOperator.ofOperator entry.operator).overflows now

end FilterEntry

end AdminQuery
