/-!
# Trees of words

Alternatives that are all words share their beginnings in a tree. The order of the alternatives
must not get lost: where a word ends, what is added later is kept apart from what was there before,
so the ways on from a node come in stages.
-/

namespace Rulebook

namespace Pattern

/-- A tree of words over bytes. -/
inductive WordTree where
  /-- A node: how many stages are closed, which is how often a word ended here, and the ways on,
  each with its stage and its byte. -/
  | node (closed : Nat) (ways : List ((Nat × Nat) × WordTree))

namespace WordTree

/-- The tree without words. -/
def empty : WordTree := node 0 []

/-- The ways with one of them replaced or added. -/
def put (key : Nat × Nat) (tree : WordTree) :
    List ((Nat × Nat) × WordTree) → List ((Nat × Nat) × WordTree)
  | [] => [(key, tree)]
  | way :: rest => if way.1 = key then (key, tree) :: rest else way :: put key tree rest

/-- Adds a word. -/
def insert : List Nat → WordTree → WordTree
  | [], node closed ways =>
    if ways.isEmpty && closed ≠ 0 then node closed ways else node (closed + 1) ways
  | byte :: rest, node closed ways =>
    let key := (closed, byte)
    node closed (put key (insert rest ((ways.lookup key).getD empty)) ways)

/-- The tree of some words in their order. -/
def ofWords (words : List (List Nat)) : WordTree :=
  words.foldl (fun tree word => insert word tree) empty

/-- The number of the ways in each stage, empty stages left out. -/
def stageSizes (closed : Nat) (ways : List ((Nat × Nat) × WordTree)) : List Nat :=
  ((List.range (closed + 1)).map fun stage => ways.countP fun way => way.1.1 = stage).filter (0 < ·)

mutual

/-- The stage sizes and the number of closed stages of each node that has ways on. -/
def inner : WordTree → List (List Nat × Nat)
  | node _ [] => []
  | node closed (way :: rest) =>
    (stageSizes closed (way :: rest), closed) :: innerOfWays (way :: rest)

/-- The same for all trees that some ways lead to. -/
def innerOfWays : List ((Nat × Nat) × WordTree) → List (List Nat × Nat)
  | [] => []
  | (_, tree) :: rest => inner tree ++ innerOfWays rest

end

end WordTree

end Pattern

end Rulebook
