import BeanContainer.Bean.Type
import BeanContainer.Derivation.Expansion
import Mathlib.Data.List.Nodup

/-!
# Derived constructors as programs

The function that builds a configuration is a short program: it fetches one bean after the other into
a variable each, and then calls the constructor with variables. Here such programs are taken for
themselves, with the text that they are written as and with what they do when they are run. They may
be run against anything that answers queries, be it with failures, with a state or in any other way.

A program whose variables are all different, and are passed on in the order in which they were bound,
asks each query once, in order, and passes on the answers in the same order.
-/

namespace BeanContainer.Derivation

open Source

/-- What a registry is asked for: a bean under a name, which is a literal, by reference or by value. -/
structure Query where
  access : Access
  type : Forest
  name : String

/-- A statement that binds the answer to a query. -/
structure Fetch where
  target : String
  query : Query

/-- What builds a configuration: fetches, and a call of a constructor with variables. -/
structure Construction where
  fetches : List Fetch
  constructor : Identifier
  arguments : List String
  /-- Whether a failure of the constructor is made one of the configuration. -/
  wrapsFailure : Bool

def Query.method (query : Query) : String :=
  match query.access with
  | .value => "get_bean"
  | .reference => "get_bean_ref"

/-- The statement as it is written. -/
def Fetch.code (fetch : Fetch) : Forest :=
  .word "let" ++ .word fetch.target ++ .marks "=" ++ .word "registry" ++ .marks "." ++
    .word fetch.query.method ++ .marks "::" ++ .marks "<" ++ fetch.query.type ++ .marks ">" ++
    inParentheses (.ofLiteral fetch.query.name) ++ .marks "?" ++ .marks ";"

namespace Construction

variable {α : Type} {m : Type → Type} [Monad m]

def call (construction : Construction) : Forest :=
  .word "Self" ++ .marks "::" ++ .ofIdentifier construction.constructor ++
    inParentheses (.join (construction.arguments.map fun name =>
      .word name ++ .marks ","))

/-- The program as it is written. -/
def code (construction : Construction) : Forest :=
  .join (construction.fetches.map (·.code)) ++
    if construction.wrapsFailure then
      construction.call ++ .marks "." ++ .word "map_err" ++
        inParentheses (.marks "|" ++ .word "err" ++ .marks "|" ++ .enclosed .braces
          (codePath ["beanbag", "config", "ConfigurationError", "construction"] ++
            inParentheses (.marks "<" ++ .word "Self" ++ .word "as" ++
              codePath ["beanbag", "config", "Configuration"] ++ .marks ">" ++ .marks "::" ++
              .word "NAME" ++ .marks "," ++ .word "err" ++ .marks ",")))
    else .word "Ok" ++ inParentheses construction.call

/-- Asks for a bean and binds a variable to it, which hides any other of its name. -/
def perform (ask : Query → m α) (scope : List (String × α)) (fetch : Fetch) :
    m (List (String × α)) := do
  return (fetch.target, ← ask fetch.query) :: scope

def valueOf (scope : List (String × α)) (name : String) : Option α :=
  scope.lookup name

/-- What the constructor is called with. -/
def run (ask : Query → m α) (construction : Construction) : m (List (Option α)) := do
  let scope ← construction.fetches.foldlM (perform ask) []
  return construction.arguments.map (valueOf scope)

theorem lookup_foldlM [LawfulMonad m] (ask : Query → m α) (fetches : List Fetch)
    (scope : List (String × α)) (earlier : List String) (values : List α)
    (bound : earlier.map (valueOf scope) = values.map some)
    (distinct : (earlier ++ fetches.map (·.target)).Nodup) :
    (do
      let scope ← fetches.foldlM (perform ask) scope
      return (earlier ++ fetches.map (·.target)).map (valueOf scope)) =
    (fun beans => (values ++ beans).map some) <$> (fetches.map (·.query)).mapM ask := by
  induction fetches generalizing scope earlier values with
  | nil => simp [bound]
  | cons fetch fetches ih =>
      have fresh : fetch.target ∉ earlier := by
        intro target_mem
        exact (List.nodup_append.mp distinct).2.2 _ target_mem _ (by simp) rfl
      have boundThen : ∀ bean, (earlier ++ [fetch.target]).map
          (valueOf ((fetch.target, bean) :: scope)) = (values ++ [bean]).map some := by
        intro bean
        rw [List.map_append, List.map_append, ← bound]
        congr 1
        · apply List.map_congr_left
          intro name name_mem
          have different : (name == fetch.target) = false := by
            simpa using fun same : name = fetch.target => fresh (same ▸ name_mem)
          simp [valueOf, List.lookup_cons, different]
        · simp [valueOf]
      have distinctThen : (earlier ++ [fetch.target] ++ fetches.map (·.target)).Nodup := by
        simpa using distinct
      have goesOn := fun bean => ih _ _ _ (boundThen bean) distinctThen
      simp only [List.append_assoc, List.cons_append, List.nil_append, List.map_append,
        List.map_cons, List.map_map, bind_pure_comp, List.mapM_map, List.foldlM_cons, perform,
        bind_map_left, map_bind, List.mapM_cons, Functor.map_map] at goesOn ⊢
      simp only [goesOn]

/-- All queries are asked in order, and the answers are passed on in the same order. -/
theorem run_eq [LawfulMonad m] (ask : Query → m α) {construction : Construction}
    (inOrder : construction.arguments = construction.fetches.map (·.target))
    (distinct : construction.arguments.Nodup) :
    construction.run ask =
      (·.map some) <$> (construction.fetches.map (·.query)).mapM ask := by
  rw [inOrder] at distinct
  simpa [run, inOrder] using lookup_foldlM ask construction.fetches [] [] [] rfl distinct

end Construction

end BeanContainer.Derivation
