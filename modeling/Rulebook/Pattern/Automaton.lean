import Std.Data.TreeMap
import Rulebook.Pattern.Shape
import Rulebook.Pattern.WordTree
import Rulebook.Unicode.Utf8

/-!
# The size of automata

A pattern is accepted only if the two automata over bytes that can match it stay small enough: one
that reads forward and knows the groups, and one that reads backward. `Automaton.fits` decides that.
Only a long list of words is accepted whatever its size.
No automaton is kept: building one is only followed state by state, with the numbers that the states
get and the room that they take.

The characters of a class make many states with equal ends or beginnings. Equal ones are shared as
far as a table tells, which has a fixed number of slots: what is entered last into a slot displaces
what was there. So what is shared depends on the numbers of the states, and a class may take a
little more room in one place than in another one.
-/

namespace Rulebook

namespace Pattern

namespace Automaton

open Unicode (CodeRange)
open Utf8 (ByteRange)

/-! ## Room -/

/-- The room that a state takes. -/
def stateRoom : Nat := 32

/-- The room that a step over a range of bytes takes in a state with any number of them. -/
def stepRoom : Nat := 8

/-- The room that a link to another state takes in a state with any number of them. -/
def linkRoom : Nat := 4

/-- The room that an automaton may take. -/
def limit : Nat := 10 * 2 ^ 20

/-! ## Building -/

/-- A step: a range of bytes and the number of the state after it. -/
structure Step where
  /-- The bytes. -/
  range : ByteRange
  /-- The state after it. -/
  next : Nat
deriving DecidableEq

/-- How far an automaton is built. -/
structure Draft where
  /-- The number of states. -/
  states : Nat := 0
  /-- The room that they take. -/
  room : Nat := 0
  /-- The table of the states of classes: by slot, the steps of a state and its number. -/
  table : Std.TreeMap Nat (List Step × Nat) := ∅

/-- Building on, as long as there is room. -/
abbrev Build := StateT Draft Option

/-- Adds a state that takes some room beyond that of any state, and gives its number. -/
def addState (extra : Nat) : Build Nat := fun draft =>
  let room := draft.room + stateRoom + extra
  if room ≤ limit then some (draft.states, { draft with states := draft.states + 1, room })
  else none

/-- Adds a state with some links. -/
def addLinks (links : Nat) : Build Unit := do
  let _ ← addState (linkRoom * links)

/-- Adds some states. -/
def addStates : (count : Nat) → Build Unit
  | 0 => pure ()
  | count + 1 => do
    addLinks 0
    addStates count

/-- Builds the same several times. -/
def times (build : Build Unit) : (count : Nat) → Build Unit
  | 0, draft => some ((), draft)
  | count + 1, draft =>
    match build draft with
    | none => none
    | some (_, draft) => times build count draft

/-! ## Shared states -/

/-- The slot for some numbers, out of so many. -/
def slot (slots : Nat) (numbers : List Nat) : Nat :=
  let hash : UInt64 := numbers.foldl (fun h n => (h ^^^ n.toUInt64) * 1099511628211)
    14695981039346656037
  hash.toNat % slots

/-- The number of a state with given steps, which is added with some room unless the slot has it.
-/
def addShared (slot extra : Nat) (steps : List Step) : Build Nat := do
  match (← get).table.get? slot with
  | some (known, number) => if known = steps then return number
  | none => pure ()
  let number ← addState extra
  modify fun draft => { draft with table := draft.table.insert slot (steps, number) }
  return number

/-- The number of a state of a class that reads forward. -/
def addForward (steps : List Step) : Build Nat :=
  addShared (slot 10000 (steps.flatMap fun step => [step.range.1, step.range.2, step.next]))
    (stepRoom * steps.length) steps

/-- The number of a state of a class that reads backward. -/
def addBackward (step : Step) : Build Nat :=
  addShared (slot 1000 [step.next, step.range.1, step.range.2]) 0 [step]

/-! ## Classes -/

/-- Builds the states that read some sequences of at most so many ranges forward to a target, and
gives the first one. Neighbours that begin alike share that step. -/
def readForward (target : Nat) : (length : Nat) → List (List ByteRange) → Build Nat
  | 0, _ => return target
  | length + 1, sequences => do
    let steps ← (sequences.splitBy fun a b => a.head? == b.head?).mapM fun group => do
      let range := (group.head?.bind List.head?).getD (0, 0)
      match group.map List.tail with
      | [[]] => return (⟨range, target⟩ : Step)
      | rests => return ⟨range, ← readForward target length rests⟩
    addForward steps

/-- Builds the states that read some sequences backward to a target, one link to each. -/
def readBackward (target : Nat) (sequences : List (List ByteRange)) : Build Unit :=
  sequences.forM fun sequence => do
    let _ ← sequence.foldlM (fun next range => addBackward ⟨range, next⟩) target

/-- Which way an automaton reads. -/
inductive Direction where
  | forward
  | backward
deriving DecidableEq

/-- Builds a class. One of ASCII characters only has one state for all. -/
def buildClass (direction : Direction) (ranges : List CodeRange) : Build Unit := do
  if ranges.all fun range => range.2 < 0x80 then
    addLinks 0
    let _ ← addState (stepRoom * ranges.length)
  else
    let sequences := ranges.flatMap Utf8.sequences
    match direction with
    | .forward =>
      let target ← addState 0
      let _ ← readForward target 4 sequences
    | .backward =>
      addLinks sequences.length
      let target ← addState 0
      readBackward target sequences

/-! ## Words -/

/-- The bytes of a word. -/
def wordBytes (chars : List Nat) : List Nat :=
  chars.flatMap Utf8.bytes

/-- The characters of a shape that is a word. -/
def word? : Shape → Option (List Nat)
  | .word chars => some chars
  | _ => none

/-- Builds a choice between words, by the tree of their bytes. -/
def buildWords (direction : Direction) (words : List (List Nat)) : Build Unit := do
  let spelled := words.map fun chars =>
    match direction with
    | .forward => wordBytes chars
    | .backward => (wordBytes chars).reverse
  addLinks 0
  (WordTree.ofWords spelled).inner.forM fun (stages, closed) => do
    stages.forM fun size => do
      let _ ← addState (if size = 1 then 0 else stepRoom * size)
    addLinks (stages.length + closed)

/-! ## Shapes -/

mutual

/-- Builds a shape. A state from which there is a choice has two links in a repetition. -/
def build (direction : Direction) : Shape → Build Unit
  | .empty => addLinks 0
  | .word chars => addStates (wordBytes chars).length
  | .oneOf ranges => buildClass direction ranges
  | .look _ => addLinks 0
  | .capture body =>
    match direction with
    | .forward => do
      addLinks 0
      build direction body
      addLinks 0
    | .backward => build direction body
  | .sequence parts => buildSequence direction parts
  | .choice parts =>
    match parts.mapM word? with
    | some words => buildWords direction words
    | none => buildChoice direction (linkRoom * parts.length) parts
  | .repetition body 0 (some 1) _ => do
    addLinks 2
    build direction body
    addLinks 0
  | .repetition body 0 none _ =>
    if body.takesText then do
      addLinks 2
      build direction body
    else do
      build direction body
      addLinks 2
      addLinks 2
      addLinks 0
  | .repetition body least none _ => do
    times (build direction body) least
    addLinks 2
  | .repetition body least (some most) _ => do
    if least = 0 then addLinks 0 else times (build direction body) least
    if least < most then do
      addLinks 0
      times (do addLinks 2; build direction body) (most - least)

/-- Builds shapes one after the other, in the order of reading. -/
def buildSequence (direction : Direction) : List Shape → Build Unit
  | [] => pure ()
  | part :: rest =>
    match direction with
    | .forward => do
      build direction part
      buildSequence direction rest
    | .backward => do
      buildSequence direction rest
      build direction part

/-- Builds a choice: after the first two alternatives the state that links to them all, with the
room for its links, and the one where they meet. -/
def buildChoice (direction : Direction) (extra : Nat) : List Shape → Build Unit
  | [] => addLinks 0
  | [part] => build direction part
  | first :: second :: rest => do
    build direction first
    build direction second
    let _ ← addState extra
    addLinks 0
    buildAll direction rest

/-- Builds shapes in their order. -/
def buildAll (direction : Direction) : List Shape → Build Unit
  | [] => pure ()
  | part :: rest => do
    build direction part
    buildAll direction rest

end

/-! ## Whole patterns -/

/-- Builds what skips the text before a match, unless a match is bound to the end where reading
begins. -/
def buildStart (bound : Bool) : Build Unit := do
  if bound then addLinks 0
  else
    addLinks 2
    addLinks 0
    let _ ← addState stepRoom

/-- Builds a whole automaton. The one that reads forward captures the whole match. -/
def buildWhole (direction : Direction) (shape : Shape) : Build Unit := do
  match direction with
  | .forward =>
    buildStart (shape.beginsWith .textStart)
    build direction (.capture shape)
  | .backward =>
    buildStart (shape.endsWith .textEnd)
    build direction shape
  addLinks 0

/-- The number of words from which on a choice between words only is looked for without automata. -/
def manyWords : Nat := 3000

/-- Whether a shape is a choice between that many words. -/
def isWordList : Shape → Bool
  | .choice parts => manyWords ≤ parts.length && (parts.mapM word?).isSome
  | _ => false

/-- Whether both automata of a shape have room, or none is needed. -/
def fits (shape : Shape) : Bool :=
  isWordList shape ||
    ((buildWhole .forward shape).run {}).isSome && ((buildWhole .backward shape).run {}).isSome

end Automaton

end Pattern

end Rulebook
