import EmuLib.Lib.EndMarks
import EmuLib.Rui.Application

/-!
The servers of the clients: they take the blocks of the events that are read, and hand them
to the client in messages of one event each, over I2O or over SOAP.
-/

namespace EmuLib.Server

open Rui (Position)

def word16 : Nat := 0x10000

def word32 : Nat := 0x100000000

def word64 : Nat := 0x10000000000000000

/-- `datas` are the blocks that the message carries, one after the other. -/
structure Message (Data : Type*) where
  runNumber : Nat
  runStartUTC : Nat
  nEventCreditsHeld : Nat
  errorFlag : Nat
  datas : List Data
  deriving DecidableEq

structure Block (Data : Type*) where
  runNumber : Nat
  runStartUTC : Nat
  nEvents : Nat
  position : Position
  errorFlag : Nat
  data : Data

structure Base where
  prescaling : Nat
  sendDataOnRequestOnly : Bool
  nEventCreditsHeld : Nat
  deriving DecidableEq

def Base.addCredits (base : Base) (nCredits prescaling : Int) : Base :=
  { base with
    nEventCreditsHeld := ((base.nEventCreditsHeld + nCredits) % word64).toNat
    prescaling := (prescaling % word64).toNat }

def Base.spendCredit (base : Base) : Base :=
  { base with nEventCreditsHeld := base.nEventCreditsHeld - 1 }

/-- What the memory pool and the SOAP toolbox yield in one call of `addData`. -/
structure Resources where
  isHighThresholdExceeded : Bool
  frame : Bool
  created : Bool
  filled : Bool

variable {Data : Type*}

structure I2O (Data : Type*) where
  base : Base
  messageQueue : List (Message Data × Position)
  nEventsInQueue : Nat
  deriving DecidableEq

namespace I2O

def created (base : Base) : I2O Data := ⟨base, [], 0⟩

def fillBlock (server : I2O Data) (block : Block Data) : Message Data :=
  ⟨block.runNumber, block.runStartUTC, (server.base.nEventCreditsHeld + (word64 - 1)) % word32,
    block.errorFlag, [block.data]⟩

def createMessage (server : I2O Data) (block : Block Data) : I2O Data :=
  { server with
    messageQueue := server.messageQueue ++ [(server.fillBlock block, block.position)]
    nEventsInQueue :=
      if block.position.endsEvent then (server.nEventsInQueue + 1) % word32
      else server.nEventsInQueue }

def isToBeSent (server : I2O Data) (block : Block Data) (resources : Resources) : Bool :=
  let base := server.base
  if base.sendDataOnRequestOnly then
    base.nEventCreditsHeld != 0 && decide (server.nEventsInQueue < base.nEventCreditsHeld) &&
      base.prescaling != 0 && block.nEvents % base.prescaling == 0 &&
        !resources.isHighThresholdExceeded
  else
    base.prescaling != 0 && block.nEvents % base.prescaling == 0 &&
      !resources.isHighThresholdExceeded

def addData (server : I2O Data) (block : Block Data) (resources : Resources) : I2O Data :=
  if server.isToBeSent block resources && resources.frame then server.createMessage block
  else server

def endsEvent (entry : Message Data × Position) : Bool := entry.2.endsEvent

def markEnd : List (Message Data × Position) → List (Message Data × Position)
  | [] => []
  | [last] => [(last.1, { last.2 with endsEvent := true })]
  | entry :: next :: rest => entry :: markEnd (next :: rest)

def makeLastBlockEndEvent (server : I2O Data) : I2O Data :=
  if server.messageQueue = [] then server
  else
    { server with
      messageQueue := markEnd server.messageQueue
      nEventsInQueue := (server.nEventsInQueue + 1) % word32 }

def isEventEndInQueue (server : I2O Data) : Bool := server.messageQueue.any endsEvent

def creditsAfterEvent (base : Base) : Nat := (base.nEventCreditsHeld - 1) % word32

def insertNumberOfCreditsHeld (base : Base) (entry : Message Data × Position) : Message Data :=
  { entry.1 with
    nEventCreditsHeld :=
      if entry.2.endsEvent then creditsAfterEvent base else base.nEventCreditsHeld % word32 }

def updateCounters (server : I2O Data) : I2O Data :=
  { server with
    nEventsInQueue := server.nEventsInQueue - 1
    base := server.base.spendCredit }

inductive Sending where
  | posted
  | notPosted
  | noFrame
  deriving DecidableEq

def sendNextMessageInQueue (server : I2O Data) (sending : Sending) :
    I2O Data × Option (Message Data) :=
  match server.messageQueue with
  | [] => (server, none)
  | front :: rest =>
    let message := insertNumberOfCreditsHeld server.base front
    match sending with
    | .posted => (updateCounters { server with messageQueue := rest }, some message)
    | _ => ({ server with messageQueue := (message, front.2) :: rest }, none)

def packets (messages : List (Message Data)) : Nat :=
  match messages with
  | [] => 0
  | message :: rest => ((message.errorFlag &&& 0x0f00) >>> 8) + packets rest

/-- The bits that are not specific to the start or the end of the event come from all of its
blocks, those of the header from the first and those of the trailer from the last one. -/
def combinedErrorFlag (messages : List (Message Data)) : Nat :=
  let specific := fun (message : Option (Message Data)) mask =>
    (message.map fun found => found.errorFlag &&& mask).getD 0
  let common := messages.foldl (fun flag message => flag ||| (message.errorFlag &&& 0x003e)) 0
  common ||| specific messages.head? 0x0040 ||| specific messages.getLast? 0x0081 |||
    (min (packets messages % word16) 15 <<< 8) ||| (min messages.length 15 <<< 12)

def merge (base : Base) (messages : List (Message Data)) : Message Data where
  runNumber := (messages.head?.map Message.runNumber).getD 0
  runStartUTC := (messages.head?.map Message.runStartUTC).getD 0
  nEventCreditsHeld := creditsAfterEvent base
  errorFlag := combinedErrorFlag messages
  datas := messages.flatMap Message.datas

/-- There is an event end in the queue.  The blocks of the event are taken off it before their
message is posted. -/
def sendMergedEventMessage (server : I2O Data) (sending : Sending) :
    I2O Data × Option (Message Data) :=
  let split := EndMarks.throughEnd endsEvent server.messageQueue
  let erased := { server with messageQueue := split.2 }
  match sending with
  | .posted => (updateCounters erased, some (merge server.base (split.1.map Prod.fst)))
  | .notPosted => (erased, none)
  | .noFrame => (server, none)

def startsAndEnds (server : I2O Data) : Bool :=
  match server.messageQueue with
  | [] => false
  | front :: _ => front.2.startsEvent && front.2.endsEvent

def sendEvent (server : I2O Data) (sending : Sending) : I2O Data × Option (Message Data) :=
  if server.startsAndEnds then server.sendNextMessageInQueue sending
  else server.sendMergedEventMessage sending

/-- The loop of `sendData`.  Every turn takes at least one block off the queue, or throws. -/
def sendFrom : Nat → (Nat → Sending) → I2O Data → I2O Data × List (Message Data)
  | 0, _, server => (server, [])
  | turns + 1, sending, server =>
    if server.isEventEndInQueue then
      match server.sendEvent (sending 0) with
      | (sent, none) => (sent, [])
      | (sent, some message) =>
        let later := sendFrom turns (fun turn => sending (turn + 1)) sent
        (later.1, message :: later.2)
    else (server, [])

def sendData (server : I2O Data) (sending : Nat → Sending) : I2O Data × List (Message Data) :=
  sendFrom server.messageQueue.length sending server

end I2O

structure SOAP (Data : Type*) where
  base : Base
  persists : Bool
  clientIsKnown : Bool
  messageReference : Option (Message Data)
  messages : List (Message Data)
  deriving DecidableEq

namespace SOAP

def maxMessagesPendingTransmission : Nat := 10

def created (base : Base) (persists clientIsKnown : Bool) : SOAP Data :=
  ⟨base, persists, clientIsKnown, none, []⟩

def isToBeSent (server : SOAP Data) (block : Block Data) : Bool :=
  let base := server.base
  base.nEventCreditsHeld != 0 && base.prescaling != 0 && block.nEvents % base.prescaling == 0 &&
    !(decide (maxMessagesPendingTransmission ≤ server.messages.length) ||
      decide (base.nEventCreditsHeld ≤ server.messages.length))

def createMessage (server : SOAP Data) (block : Block Data) : Message Data :=
  ⟨block.runNumber, block.runStartUTC, server.base.nEventCreditsHeld, block.errorFlag, []⟩

def makeLastBlockEndEvent (server : SOAP Data) : SOAP Data :=
  match server.messageReference with
  | none => server
  | some message =>
    { server with messageReference := none, messages := server.messages ++ [message] }

def fillMessage (server : SOAP Data) (block : Block Data) (message : Message Data)
    (filled : Bool) : SOAP Data :=
  if filled then
    let appended :=
      { server with messageReference := some { message with datas := message.datas ++ [block.data] } }
    if block.position.endsEvent then appended.makeLastBlockEndEvent else appended
  else { server with messageReference := some message }

def appendData (server : SOAP Data) (block : Block Data) (resources : Resources) : SOAP Data :=
  match server.messageReference with
  | some message => server.fillMessage block message resources.filled
  | none =>
    if resources.created then
      server.fillMessage block (server.createMessage block) resources.filled
    else server

def addData (server : SOAP Data) (block : Block Data) (resources : Resources) : SOAP Data :=
  if server.isToBeSent block then server.appendData block resources else server

inductive Posting where
  | threw
  | noReply
  | fault
  | accepted
  deriving DecidableEq

def sendData (server : SOAP Data) (posting : Posting) : SOAP Data × List (Message Data) :=
  match server.messages with
  | [] => (server, [])
  | front :: rest =>
    if server.clientIsKnown then
      match posting with
      | .threw => (server, [])
      | .accepted => ({ server with messages := rest, base := server.base.spendCredit }, [front])
      | _ => ({ server with messages := rest }, [front])
    else (server, [])

def getOldestMessagePendingTransmission (server : SOAP Data) : SOAP Data × List (Message Data) :=
  match server.messages with
  | [] => (server, [])
  | front :: rest =>
    ({ server with
      messages := rest
      base := if server.persists then server.base else server.base.spendCredit }, [front])

end SOAP

inductive Client (Data : Type*) where
  | i2o (server : I2O Data)
  | soap (server : SOAP Data)
  deriving DecidableEq

/-- How the messages that are sent by one call of `sendData` turn out. -/
structure Transmission where
  sending : Nat → I2O.Sending
  posting : SOAP.Posting

namespace Client

def addData (client : Client Data) (block : Block Data) (resources : Resources) : Client Data :=
  match client with
  | .i2o server => .i2o (server.addData block resources)
  | .soap server => .soap (server.addData block resources)

def makeLastBlockEndEvent : Client Data → Client Data
  | .i2o server => .i2o server.makeLastBlockEndEvent
  | .soap server => .soap server.makeLastBlockEndEvent

def sendData (client : Client Data) (transmission : Transmission) :
    Client Data × List (Message Data) :=
  match client with
  | .i2o server => ((server.sendData transmission.sending).map .i2o id)
  | .soap server => ((server.sendData transmission.posting).map .soap id)

def takeCredits (client : Client Data) (nCredits prescaling : Int) :
    Client Data × List (Message Data) :=
  match client with
  | .i2o server => (.i2o { server with base := server.base.addCredits nCredits prescaling }, [])
  | .soap server =>
    let credited := { server with base := server.base.addCredits nCredits prescaling }
    if server.clientIsKnown then (.soap credited, [])
    else credited.getOldestMessagePendingTransmission.map .soap id

end Client

end EmuLib.Server
