import AACS.Library.Transitions
import AACS.Server.Accesses

/-!
The threads inside one input handler.

Any number of threads run `handleMessageFromClient` of the handler, as often as they like,
statement by statement, while the pump hands answers of the head unit to it. A thread that
finds its flag unset sleeps until it is notified, or wakes up for no reason; the pump
notifies after it has set a flag. The head unit answers only requests that were sent.
-/

namespace AACS

namespace AAServer

open Effects Transitions

/-- The two requests that open an input channel. -/
inductive Request where
  | channelOpen
  | handshake
  deriving DecidableEq, Repr

namespace Request

def code : Request → UInt16
  | .channelOpen => MessageType.ChannelOpenRequest.code
  | .handshake => InputChannelMessageType.HandshakeRequest.code

def answeredBy (content : Bytes) : Option Request :=
  if typeOf content = some MessageType.ChannelOpenResponse.code then some .channelOpen
  else if typeOf content = some InputChannelMessageType.HandshakeResponse.code then some .handshake
  else none

def flag (handler : ChannelHandler) : Request → Bool
  | .channelOpen => handler.gotChannelOpenResponse
  | .handshake => handler.answered

def resetStep : Request → OpenStep
  | .channelOpen => .resetChannelOpen
  | .handshake => .resetAnswer

def sendStep : Request → OpenStep
  | .channelOpen => .sendChannelOpen
  | .handshake => .sendRequest

def waitStep : Request → OpenStep
  | .channelOpen => .awaitChannelOpen
  | .handshake => .awaitAnswer

def sent (request : Request) (outputs : List Output) : Nat :=
  outputs.countP fun
    | .enqueue _ _ content => typeOf content = some request.code
    | .packet _ _ => false

end Request

def OpenStep.awaited : OpenStep → Option Request
  | .awaitChannelOpen => some .channelOpen
  | .awaitAnswer => some .handshake
  | _ => none

/-- Where a thread is with respect to the handler. -/
inductive Position where
  | outside
  | statement (step : OpenStep)
  /-- In `cv.wait`, not notified since it went to sleep. -/
  | asleep (request : Request)
  deriving DecidableEq, Repr

def Position.Waits (request : Request) (position : Position) : Prop :=
  position = .statement request.waitStep ∨ position = .asleep request

/-- The handler, the threads in it, the pump, and what the head unit has not answered yet. -/
structure InputOpening where
  server : State
  position : Nat → Position
  unanswered : Request → Nat
  /-- The `notify_all` that the pump still has to call for the message it handles. -/
  notifies : Request → Bool
  /-- The pump has not ended with an exception. -/
  running : Bool

inductive InputEvent where
  /-- A thread calls `handleMessageFromClient`. -/
  | call (thread : Nat) (clientId : Int) (channelId : UInt8) (specific : Bool) (data : Bytes)
  /-- It executes its next statement. -/
  | step (thread : Nat)
  /-- It wakes up for no reason. -/
  | wake (thread : Nat)
  | headunit (message : Message) (write : Nat → WriteResult)
  | notify (request : Request)

namespace InputOpening

def move (current : InputOpening) (thread : Nat) (position : Position) : InputOpening :=
  { current with position := Function.update current.position thread position }

/-- `notify_all`: those who sleep look at their flag again. -/
def notify (current : InputOpening) (request : Request) : InputOpening :=
  { current with
    notifies := Function.update current.notifies request false
    position := fun thread =>
      if current.position thread = .asleep request then .statement request.waitStep
      else current.position thread }

/-- The end of what a thread does at once; an exception takes it out of the handler. -/
def finish (current : InputOpening) (thread : Nat) (body : ServerAct Position) :
    Option (InputOpening × List Output) :=
  let outcome := body.run current.server
  let after (position : Position) : InputOpening :=
    { current with
      server := outcome.state
      position := Function.update current.position thread position
      unanswered := fun request => current.unanswered request + request.sent outcome.log }
  match outcome.result with
  | .ok position => some (after position, outcome.log)
  | .error (.thrown _) => some (after .outside, outcome.log)
  | .error .undefinedBehaviour => none

/-- `handleMessageFromClient`, up to where it opens the channel. -/
def callBody (pointer : Nat) (clientId : Int) (channelId : UInt8) (specific : Bool)
    (data : Bytes) : ServerAct Position := do
  match ← handleMessageFromClient pointer clientId channelId specific data with
  | .opening _ step => pure (.statement step)
  | .reading | .ended => pure .outside

def stepBody (protobuf : Protobuf) (pointer : Nat) (step : OpenStep) : ServerAct Position := do
  match ← step.run protobuf pointer with
  | some next => pure (.statement next)
  | none => pure .outside

def idle (current : InputOpening) : Bool :=
  current.running && !current.notifies .channelOpen && !current.notifies .handshake

/-- The head unit answers requests that were sent. -/
def expects (current : InputOpening) (message : Message) : Bool :=
  match Request.answeredBy message.content with
  | some request => 0 < current.unanswered request
  | none => true

/-- After a message is handled. `handleMessageFromHeadunit` of the base class notifies in any
case, that of the input handler when the base class has not handled the message. -/
def taken (current : InputOpening) (answered : Option Request) (server : State)
    (running : Bool) : InputOpening :=
  { current with
    server
    unanswered := fun request =>
      if answered = some request then current.unanswered request - 1
      else current.unanswered request
    notifies := fun
      | .channelOpen => true
      | .handshake => running && answered != some .channelOpen
    running }

def take (current : InputOpening) (pointer : Nat) (message : Message)
    (write : Nat → WriteResult) : Option (InputOpening × List Output) :=
  let outcome := (handleMessageFromHeadunit write pointer message).run current.server
  let after := current.taken (Request.answeredBy message.content) outcome.state
  match outcome.result with
  | .ok _ => some (after true, outcome.log)
  | .error (.thrown _) => some (after false, outcome.log)
  | .error .undefinedBehaviour => none

def step (protobuf : Protobuf) (pointer : Nat) (current : InputOpening) :
    InputEvent → Option (InputOpening × List Output)
  | .call thread clientId channelId specific data =>
      if current.position thread = .outside then
        current.finish thread (callBody pointer clientId channelId specific data)
      else none
  | .step thread =>
      match current.position thread with
      | .statement step =>
          match current.server.handlers[pointer]? with
          | none => none
          | some handler =>
              if step.enabled handler then current.finish thread (stepBody protobuf pointer step)
              else
                match step.awaited with
                | none => none
                | some request => some (current.move thread (.asleep request), [])
      | .outside | .asleep _ => none
  | .wake thread =>
      match current.position thread with
      | .asleep request => some (current.move thread (.statement request.waitStep), [])
      | .outside | .statement _ => none
  | .headunit message write =>
      if current.idle ∧ current.expects message then current.take pointer message write else none
  | .notify request =>
      if current.notifies request then some (current.notify request, []) else none

/-- Nobody is in the handler, whatever its flags are. -/
def start (server : State) : InputOpening where
  server := server
  position := fun _ => .outside
  unanswered := fun _ => 0
  notifies := fun _ => false
  running := true

end InputOpening

def inputOpening (protobuf : Protobuf) (pointer : Nat) :
    Machine InputOpening InputEvent Output :=
  ⟨InputOpening.step protobuf pointer⟩

end AAServer

end AACS
