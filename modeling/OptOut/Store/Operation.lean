/-!
# Store operations by name

The names under which store operations appear in errors and logs.
-/

namespace OptOut

inductive Operation where
  | range
  | cardinality
  | trim
  | upsert
  | remove
  | append
deriving DecidableEq, Repr

def Operation.name : Operation → String
  | range => "range_by_score_desc"
  | cardinality => "cardinality"
  | trim => "trim_lowest_scoring"
  | upsert => "upsert_with_score"
  | remove => "remove_member"
  | append => "append"

end OptOut
