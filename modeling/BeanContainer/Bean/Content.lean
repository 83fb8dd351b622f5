/-!
# Contents of beans

What a bean holds, apart from its identity: plain data that user code computes with.
-/

namespace BeanContainer

/-- What a bean holds. -/
inductive Content where
  | integer (value : Int)
  | truth (value : Bool)
  | unit
  | text (value : String)
  | integers (values : List Int)
  deriving DecidableEq, Repr

end BeanContainer
