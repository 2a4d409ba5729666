/-
This file walks along lines through trees. At each node the first visible child that matches the next
part of the line is entered, and no later one is tried after it.
-/

import CommandShell.Node.Basic

namespace CommandShell

open Argument

/-- This is what matching changes: the place in the line and the arguments before it. -/
structure Reading where
  cursor : Cursor
  arguments : Arguments
  deriving Repr, DecidableEq

inductive Match where
  | matched
  /-- A segment is rejected without a cause, or for the fault in the text of an argument. -/
  | rejected (cause : Option DecodeError)
  deriving Repr, DecidableEq

namespace Segment

/-- A match ends at a boundary. Where there is none the reading goes back to where it was. -/
def attempt (reading : Reading) : Segment → Match × Reading
  | .literal text =>
      let left := reading.cursor.skipWord
      if reading.cursor.word = text.toList && left.atBoundary then
        (.matched, { reading with cursor := left })
      else
        (.rejected none, { reading with cursor := left.moveTo reading.cursor.offset })
  | .argument name kind _ =>
      match kind.decode reading.cursor with
      | (.ok value, left) =>
          if left.atBoundary then
            (.matched, ⟨left, reading.arguments.bind name value⟩)
          else
            (.rejected none, { reading with cursor := left.moveTo reading.cursor.offset })
      | (.error error, left) =>
          (.rejected (some error), { reading with cursor := left.moveTo reading.cursor.offset })

/-- This takes the value of an argument back. -/
def unbind (arguments : Arguments) : Segment → Arguments
  | .literal _ => arguments
  | .argument name .. => arguments.unbind name

end Segment

/-- These are the nodes entered so far, from the first to the last. -/
structure Walk (ω : Type) extends Reading where
  nodes : List (Node ω)

namespace Walk

variable {ω : Type}

def start (node : Node ω) (cursor : Cursor) : Walk ω :=
  ⟨⟨cursor, []⟩, [node]⟩

def skipBlanks (walk : Walk ω) : Walk ω :=
  { walk with cursor := walk.cursor.skipBlanks }

def enter (walk : Walk ω) (node : Node ω) (reading : Reading) : Walk ω :=
  ⟨reading, walk.nodes ++ [node]⟩

def lastNode (root : Node ω) (walk : Walk ω) : Node ω :=
  walk.nodes.getLastD root

end Walk

inductive Ending where
  | exhausted
  /-- No child matches; the cause is the fault that the last failed child has found. -/
  | stuck (cause : Option DecodeError)
  deriving Repr, DecidableEq

/-- The executor is the one of the last node that has one. -/
structure Descent (ω : Type) extends Walk ω where
  executor : Option (Executor ω)
  ending : Ending

namespace Node

variable {ω : Type}

mutual

/-- This walks to where a line ends. -/
def descend (sender : Sender) (walk : Walk ω) (executor : Option (Executor ω)) :
    Node ω → Descent ω
  | .node _ _ _ children =>
      let walk := walk.skipBlanks
      if walk.cursor.atEnd then ⟨walk, executor, .exhausted⟩
      else descendAmong sender walk executor none children

def descendAmong (sender : Sender) (walk : Walk ω) (executor : Option (Executor ω))
    (cause : Option DecodeError) : List (Node ω) → Descent ω
  | [] => ⟨walk, executor, .stuck cause⟩
  | child :: rest =>
      if child.visibleTo sender then
        match child.segment.attempt walk.toReading with
        | (.matched, reading) =>
            child.descend sender (walk.enter child reading) (child.executor.or executor)
        | (.rejected found, reading) =>
            descendAmong sender { walk with toReading := reading } executor (found.or cause) rest
      else
        descendAmong sender walk executor cause rest

end

mutual

/-- This walks to the last part of a line that is complete, which is when a blank follows it. -/
def replay (sender : Sender) (walk : Walk ω) : Node ω → Walk ω
  | .node _ _ _ children =>
      let walk := walk.skipBlanks
      if walk.cursor.atEnd then walk else replayAmong sender walk children

/-- A match at the end of the line is not complete, and the value it has given is taken back. -/
def replayAmong (sender : Sender) (walk : Walk ω) : List (Node ω) → Walk ω
  | [] => walk
  | child :: rest =>
      if child.visibleTo sender then
        match child.segment.attempt walk.toReading with
        | (.matched, reading) =>
            if reading.cursor.atBlank then
              child.replay sender (walk.enter child reading)
            else
              let arguments := child.segment.unbind reading.arguments
              replayAmong sender { walk with arguments := arguments } rest
        | (.rejected _, reading) =>
            replayAmong sender { walk with arguments := reading.arguments } rest
      else
        replayAmong sender walk rest

end

end Node

end CommandShell
