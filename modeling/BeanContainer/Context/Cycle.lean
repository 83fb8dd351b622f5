/-!
# Cycles of configurations

Configurations that wait for each other's beans are found by a depth-first search over steps. A step
is a configuration and a resource that it needs; it leads on to the steps of the configuration that
provides the resource. If several declare the bean, the last one counts. A step met again on the path
closes a cycle.
-/

namespace BeanContainer

/-- What the search knows of a configuration. -/
structure Node where
  name : String
  resources : List String
  beans : List String
  deriving DecidableEq, Repr

/-- A configuration, by its place, and one of its resources. -/
structure Step where
  node : Nat
  resource : String
  deriving DecidableEq, Repr

/--
The part of a closed path that starts at the first occurrence of its last element. The empty path is
left alone.
-/
def closedPart {α : Type} [BEq α] (path : List α) : List α :=
  match path.getLast? with
  | none => path
  | some last => path.dropWhile (· != last)

namespace Node

/-- The last configuration that declares the bean. -/
def source? (nodes : List Node) (bean : String) : Option Nat :=
  (List.range nodes.length).reverse.find? fun place =>
    nodes[place]?.any fun node => node.beans.contains bean

/-- The steps of a configuration, in the order of its resources. -/
def steps (nodes : List Node) (place : Nat) : List Step :=
  match nodes[place]? with
  | none => []
  | some node => node.resources.map fun resource => ⟨place, resource⟩

/-- Tries the steps one after the other until one closes a cycle, each on the path as it is then. -/
def anyStep (follow : Step → List Step → Bool × List Step) :
    List Step → List Step → Bool × List Step
  | [], path => (false, path)
  | step :: rest, path =>
    match follow step path with
    | (true, path) => (true, path)
    | (false, path) => anyStep follow rest path

/--
Follows a step: tells whether it leads to a cycle, and gives the path at that moment. A step that
leads to no cycle is taken off the path again. No path is longer than the budget, which is the number
of all steps and one more.
-/
def follow (nodes : List Node) : Nat → Step → List Step → Bool × List Step
  | 0, _, path => (false, path)
  | budget + 1, step, path =>
    if path.contains step then (true, path ++ [step])
    else
      match source? nodes step.resource with
      | none => (false, (path ++ [step]).dropLast)
      | some place =>
        match anyStep (follow nodes budget) (steps nodes place) (path ++ [step]) with
        | (true, path) => (true, path)
        | (false, path) => (false, path.dropLast)

/-- The places in the order of the names; equal names stay in the order of their places. -/
def searchOrder (nodes : List Node) : List Nat :=
  let name (place : Nat) : String := (nodes[place]?.map (·.name)).getD ""
  (List.range nodes.length).mergeSort fun left right => !decide (name right < name left)

/-- All steps, in the order in which the search starts from them. -/
def allSteps (nodes : List Node) : List Step :=
  (searchOrder nodes).flatMap (steps nodes)

/-- The first closed path found, cut down to the cycle. -/
def findCycle? (nodes : List Node) : Option (List Step) :=
  let all := allSteps nodes
  match anyStep (follow nodes (all.length + 1)) all [] with
  | (true, path) => some (closedPart path)
  | (false, _) => none

/-- The step in words. -/
def stepText (nodes : List Node) (step : Step) : String :=
  (nodes[step.node]?.map (·.name)).getD "" ++ "::" ++ step.resource

/-- The first cycle found, in words. -/
def cycleTrace? (nodes : List Node) : Option (List String) :=
  (findCycle? nodes).map fun cycle => cycle.map (stepText nodes)

end Node

end BeanContainer
