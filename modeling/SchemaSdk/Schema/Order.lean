import SchemaSdk.Schema.Model

/-!
# Order of models by dependency

A model comes after every model that its fields refer to. Of the models that are ready the one
defined first comes next, so the order is the first of all possible ones when models are compared by
their place in the schema. Types that are no models do not matter. Models that depend on each other
in a cycle have no order; the error names those of the first cyclic group.
-/
namespace SchemaSdk.Schema

/-- A directed graph on the numbers below `size`. -/
structure Graph where
  size : Nat
  edges : List (Nat × Nat)

namespace Graph

/-- The nodes to which an edge leads from a node. -/
def successors (g : Graph) (n : Nat) : List Nat :=
  (g.edges.filter (·.1 == n)).map (·.2)

/-- How many edges lead to a node. -/
def inDegree (g : Graph) (n : Nat) : Nat :=
  g.edges.countP (·.2 == n)

/-- Inserts a number into an ascending list. -/
def insertAscending (n : Nat) : List Nat → List Nat
  | [] => [n]
  | m :: ms => if n ≤ m then n :: m :: ms else m :: insertAscending n ms

/-- How far the ordering of a graph has come: for each node the number of predecessors it still
waits for, the nodes that wait for none in ascending order, and the nodes done, last first. -/
structure Progress where
  waiting : List Nat
  ready : List Nat
  done : List Nat

/-- The start of the ordering. -/
def start (g : Graph) : Progress :=
  let waiting := (List.range g.size).map g.inDegree
  ⟨waiting, (List.range g.size).filter (g.inDegree · == 0), []⟩

/-- Tells a node that one of its predecessors is done. -/
def release (p : Progress) (n : Nat) : Progress :=
  let waiting := p.waiting.modify n (· - 1)
  let ready := if waiting[n]? = some 0 then insertAscending n p.ready else p.ready
  ⟨waiting, ready, p.done⟩

/-- Does the first ready node, if there is one. -/
def step (g : Graph) (p : Progress) : Progress :=
  match p.ready with
  | [] => p
  | n :: ready => (g.successors n).foldl release ⟨p.waiting, ready, n :: p.done⟩

/-- The progress after some steps. -/
def progress (g : Graph) : Nat → Progress
  | 0 => g.start
  | k + 1 => g.step (g.progress k)

/-- The nodes in order; those on or behind a cycle are missing. -/
def order (g : Graph) : List Nat := (g.progress g.size).done.reverse

/-- The nodes that can be reached, given some that are known to be and some to be looked at. The
fuel is at least the number of nodes to be looked at and of edges. -/
def reachedFrom (g : Graph) : Nat → List Nat → List Nat → List Nat
  | _, seen, [] => seen
  | 0, seen, _ => seen
  | fuel + 1, seen, n :: rest =>
    if seen.contains n then g.reachedFrom fuel seen rest
    else g.reachedFrom fuel (n :: seen) (g.successors n ++ rest)

/-- The nodes that a path of one edge or more leads to. -/
def descendants (g : Graph) (n : Nat) : List Nat :=
  g.reachedFrom (2 * g.edges.length) [] (g.successors n)

/-- The strongly connected groups: nodes from each of which a path leads to every other one. -/
def groups (g : Graph) : List (List Nat) :=
  let nodes := List.range g.size
  let after := nodes.map g.descendants
  let leads (n m : Nat) : Bool := (after.getD n []).contains m
  (nodes.map fun n => nodes.filter fun m => m == n || leads n m && leads m n).eraseDups

/-- Whether a group lies on a cycle: it has several nodes, or an edge leads from its node back to
it. -/
def isCyclic (g : Graph) : List Nat → Bool
  | [] => false
  | [n] => g.edges.contains (n, n)
  | _ :: _ :: _ => true

/-- Whether nodes come before others or are the same when they are compared one by one. -/
def precedes : List Nat → List Nat → Bool
  | [], _ => true
  | _ :: _, [] => false
  | a :: as, b :: bs => a < b || a == b && precedes as bs

/-- Nodes in ascending order. -/
def ascending (s : List Nat) : List Nat := s.mergeSort fun m n => m ≤ n

/-- The first cyclic group when each group is in ascending order. -/
def firstCyclic (g : Graph) (groups : List (List Nat)) : List Nat :=
  (((groups.filter g.isCyclic).map ascending).mergeSort precedes).headD []

/-- The nodes that lie on a cycle with the first node that lies on one. -/
def firstCycle (g : Graph) : List Nat := g.firstCyclic g.groups

end Graph

/-- The names of models that depend on each other. -/
structure Cycle where
  models : List String
  deriving DecidableEq

/-- The message for a cycle. -/
def Cycle.message (c : Cycle) : String :=
  "Dependency cycle between models: " ++ " -> ".intercalate c.models

namespace Collection

/-- The place of the model with a name. -/
def indexOf? (c : Collection) (name : String) : Option Nat :=
  c.models.findIdx? (·.name == name)

/-- The graph of models, each known by its place, with an edge from a model to one that refers to
it. -/
def dependencyGraph (c : Collection) : Graph where
  size := c.models.length
  edges := c.models.zipIdx.flatMap fun (m, target) =>
    (m.dependencies.filterMap c.indexOf?).map fun source => (source, target)

/-- The models with the given places. -/
def modelsAt (c : Collection) (places : List Nat) : List Model :=
  places.filterMap (c.models[·]?)

/-- The models, each after those it refers to. -/
def topologicalOrder (c : Collection) : Except Cycle (List Model) :=
  let g := c.dependencyGraph
  let order := g.order
  if order.length < g.size then .error ⟨(c.modelsAt g.firstCycle).map (·.name)⟩
  else .ok (c.modelsAt order)

end Collection
end SchemaSdk.Schema
