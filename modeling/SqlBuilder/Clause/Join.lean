import SqlBuilder.Clause.Source
import SqlBuilder.Value.Template

/-!
Joins: a source and a condition, which is a template with its bindings.
-/

namespace SqlBuilder

/-- A source to join, before its condition is filled in. -/
structure Join where
  source : Source
  template : Text
  bindings : Bindings := .empty

namespace Join

def rendered (join : Join) : Joined where
  source := join.source.asExpression
  condition := Template.interpolate join.template join.bindings

end Join

end SqlBuilder
