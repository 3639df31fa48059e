import BlockRules.Document.Writing

set_option autoImplicit false

/-!
# Obstacles to plain data

What the conditions of a document compare with may be anything that a file can hold, and not all of that is plain
data: bytes have to encode a text, keys have to be short enough, and parts may not be inside themselves or inside
each other too often. The first obstacle counts, in the order in which a value is written.
-/
namespace BlockRules

inductive Obstacle where
  | undecodable
  | circular
  | tooDeep
  | longKey
  deriving DecidableEq

namespace Obstacle

def message : Obstacle → String
  | undecodable => ""
  | circular => "Circular reference detected (id repeated)"
  | tooDeep => "Maximum serialization depth exceeded"
  | longKey => Number.longMessage

def depthLimit : Nat := 255

def within (room : Nat) (obstacle : Option Obstacle) : Option Obstacle :=
  if room = 0 then some tooDeep else obstacle

end Obstacle

open Obstacle (within)

namespace Scalar

def obstacle? : Scalar → Option Obstacle
  | bytes data => if (Text.decodeUtf8 data).isSome then none else some .undecodable
  | _ => none

def keyObstacle? (s : Scalar) : Option Obstacle := if s.isLongInteger then some .longKey else s.obstacle?

end Scalar

namespace Value

mutual

def obstacle? (room : Nat) : Value → Option Obstacle
  | .scalar s => within room s.obstacle?
  | .list items => within room (itemsObstacle? (room - 1) items)
  | .object fields => within room (fieldsObstacle? (room - 1) fields)
  | .entry key content => within room ((key.obstacle? (room - 1)).or (content.obstacle? (room - 1)))
  | .set members => within room (members.findSome? fun s => within (room - 1) s.obstacle?)
  | .again _ => within room (some .circular)

def itemsObstacle? (room : Nat) : List Value → Option Obstacle
  | [] => none
  | item :: rest => (item.obstacle? room).or (itemsObstacle? room rest)

def fieldsObstacle? (room : Nat) : List (Scalar × Value) → Option Obstacle
  | [] => none
  | (key, content) :: rest => (key.keyObstacle?.or (content.obstacle? room)).or (fieldsObstacle? room rest)

end

end Value

namespace Document

def obstacle? (d : Document) : Option Obstacle :=
  d.conditions.findSome? fun c => c.2.value.obstacle? Obstacle.depthLimit

def toData (d : Document) : Except Obstacle Value :=
  match d.obstacle? with
  | some o => .error o
  | none => .ok d.toValue

def hasLongInteger (d : Document) : Bool := d.conditions.any fun c => c.2.value.hasLongInteger

/-- What keeps a document that is plain data from being a part of other data: its own fields count as levels. -/
def partObstacle? (d : Document) : Option Obstacle :=
  d.obstacle?.or (d.toFields.findSome? fun f => f.2.obstacle? Obstacle.depthLimit)

end Document

end BlockRules
