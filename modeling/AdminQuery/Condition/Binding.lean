import AdminQuery.Calendar.Timestamp
import AdminQuery.Json.Value

/-!
# Bound values

* `Binding`: a typed value that stands for one placeholder
* `Binding.toJson`: a bound value in JSON
-/

namespace AdminQuery

/-- A value bound to one placeholder. -/
inductive Binding where
  | text (s : String)
  | integer (n : Int)
  | float (x : Double)
  | boolean (b : Bool)
  | timestamp (t : Instant)
  /-- All values of one `IN (?)`. -/
  | list (values : List String)
  deriving DecidableEq, Repr

namespace Binding

/-- The JSON form, which does not name the type; a double that is not finite becomes `null`. -/
def toJson : Binding → Json.Value
  | text s => .text s
  | integer n => .ofInt n
  | float x => if x.isFinite then .number (.float x) else .null
  | boolean b => .boolean b
  | timestamp t => .text t.render
  | list values => .ofTexts values

end Binding

end AdminQuery
