import AACS.Library.Effects
import AACS.Server.Replies

/-!
`GetEvents`, which turns touch events into events of an X server.

It asks `AAServer` for the number of the input channel, registers with it, and takes every packet
that it gets from then on for an input event behind four bytes.
-/

namespace AACS

namespace GetEvents

open Effects
open AAServer (WriteResult)

structure TouchLocation where
  x : UInt32
  y : UInt32
  pid : UInt32
  deriving DecidableEq, Repr

inductive TouchAction where
  | Press
  | Release
  | Drag
  | Down
  | Up
  deriving DecidableEq, Repr

structure TouchEvent where
  touch_location : List TouchLocation
  touch_action : TouchAction
  deriving DecidableEq, Repr

/-- As far as it is read. -/
structure InputEvent where
  touch_event : Option TouchEvent
  deriving DecidableEq, Repr

inductive Action where
  /-- A packet is written to the socket. -/
  | sent (packet : Bytes)
  /-- A packet is read from it. -/
  | received (packet : Bytes)
  /-- `ParseFromArray` is called for these bytes. -/
  | parsed (bytes : Bytes)
  /-- `XTestFakeMotionEvent` -/
  | motion (x y : Int32)
  /-- `XTestFakeButtonEvent` -/
  | button (isPress : Bool)
  deriving DecidableEq, Repr

abbrev MainAct := Act Unit Action Fault

/-- A packet is written as a whole or not at all. -/
def writePacket (result : WriteResult) (buffer : Bytes) : MainAct Unit :=
  match result with
  | .complete => Act.emit (.sent buffer)
  | .failed _ => Act.throw (.thrown (.runtimeError "failed to write open channel"))

def registration (channelNumber : UInt8) : Bytes := [0x01, channelNumber, 0x00]

/-- With the results of its two calls of `write` and the one of `read`. -/
def openChannel (asked : WriteResult) (reply : Reading) (opened : WriteResult) : MainAct UInt8 := do
  writePacket asked channelNumberRequest
  match reply.bytes with
  | [] => Act.throw (.thrown (.runtimeError "failed to read video channel number"))
  | channelNumber :: _ => do
      writePacket opened (registration channelNumber)
      pure channelNumber

/-- What becomes of a touch event. -/
def fakeEvents (translate_coordinates : Int32 → Int32 → Int32 × Int32) (touch_event : TouchEvent) :
    MainAct Unit := do
  touch_event.touch_location.forM fun tl =>
    let coords := translate_coordinates tl.x.toInt32 tl.y.toInt32
    Act.emit (.motion coords.1 coords.2)
  if touch_event.touch_action = .Press ∨ touch_event.touch_action = .Down then
    Act.emit (.button true)
  if touch_event.touch_action = .Release ∨ touch_event.touch_action = .Up then
    Act.emit (.button false)

def maxBufSize : Nat := 1024

/-- One turn of the loop. `parse` is what `ParseFromArray` leaves in the message, whatever it
returns; it cannot be called for an array of less than no bytes. -/
def turn (parse : Bytes → InputEvent) (translate_coordinates : Int32 → Int32 → Int32 × Int32)
    (reading : Reading) : MainAct Unit := do
  let buffer := reading.bytes.take maxBufSize
  if buffer.length = 0 then
    Act.throw (.thrown (.runtimeError "failed to read video channel number"))
  Act.emit (.received buffer)
  if buffer.length < 4 then
    Act.throw .undefinedBehaviour
  Act.emit (.parsed (buffer.drop 4))
  match (parse (buffer.drop 4)).touch_event with
  | none => pure ()
  | some touch_event => fakeEvents translate_coordinates touch_event

/-- The number of the channel is not looked at. -/
def main (parse : Bytes → InputEvent) (translate_coordinates : Int32 → Int32 → Int32 × Int32)
    (asked : WriteResult) (reply : Reading) (opened : WriteResult) (readings : List Reading) :
    MainAct Unit := do
  let _ ← openChannel asked reply opened
  readings.forM (turn parse translate_coordinates)

end GetEvents

end AACS
