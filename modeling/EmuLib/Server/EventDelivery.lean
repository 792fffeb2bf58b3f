import EmuLib.Lib.GuardedRun
import EmuLib.Rui.Passes
import EmuLib.Server.Outbox

/-!
The delivery of the events that are read to one client: all blocks of an event are queued for
it or none, and every message that it is handed carries one event.
-/

namespace EmuLib.Server

open GuardedRun List
open Rui (Application Call Config PassInput TakesBlock Counted SameStream)

abbrev EventData := Nat × List UInt8

/-- An event as far as it has been read and as far as it has been queued for the client, and
how the first block of it found the client. -/
structure Event where
  blocks : List EventData
  queued : List EventData
  hadCredits : Bool
  hadRoom : Bool
  deriving DecidableEq

structure Run where
  number : Nat
  startUTC : Nat

structure Delivery where
  rui : Application
  client : Client EventData
  ended : List Event
  current : Option Event
  handed : List (Message EventData)
  failed : Bool

inductive Input where
  | pass (input : PassInput) (resources : Resources)
  | send (transmission : Transmission)
  | credits (nCredits prescaling : Int)

namespace Delivery

def start (client : Client EventData) : Delivery :=
  ⟨Rui.configureAction Application.constructed, client, [], none, [], false⟩

def closeEvent (delivery : Delivery) : Delivery :=
  { delivery with
    client := delivery.client.makeLastBlockEndEvent
    ended := delivery.ended ++ delivery.current.toList
    current := none }

def extendEvent (delivery : Delivery) (resources : Resources) (data : EventData)
    (client : Client EventData) : Event :=
  let queued := client.outbox.contents.drop delivery.client.outbox.contents.length
  match delivery.current with
  | some event =>
    { event with blocks := event.blocks ++ [data], queued := event.queued ++ queued }
  | none => ⟨[data], queued, delivery.client.holdsCredits, delivery.client.hasRoom resources⟩

def addBlock (run : Run) (resources : Resources) (nEvents : Nat) (position : Rui.Position)
    (errorFlag : Nat) (bytes : List UInt8) (delivery : Delivery) : Delivery :=
  let data := (delivery.ended.length, bytes)
  let client := delivery.client.addData
    ⟨run.number, run.startUTC, nEvents, position, errorFlag, data⟩ resources
  let event := delivery.extendEvent resources data client
  if position.endsEvent then
    { delivery with client := client, ended := delivery.ended ++ [event], current := none }
  else { delivery with client := client, current := some event }

def takeCall (run : Run) (resources : Resources) (delivery : Delivery) : Call → Delivery
  | .makeClientsLastBlockEndEvent => delivery.closeEvent
  | .addDataForClients nEventsRead position errorFlag data =>
    delivery.addBlock run resources nEventsRead position errorFlag data
  | _ => delivery

def pass (config : Config) (run : Run) (delivery : Delivery) (input : PassInput)
    (resources : Resources) : Delivery :=
  if delivery.failed then delivery
  else if delivery.rui.blocksArePendingTransmission then
    { delivery with rui := Rui.processAndCommunicate config delivery.rui input }
  else
    let pass := Rui.continueConstructionOfSuperFrag config input.reading input.pool delivery.rui
    pass.calls.foldl (takeCall run resources)
      { delivery with rui := pass.rui, failed := decide (pass.outcome = .threw) }

def step (config : Config) (run : Run) (delivery : Delivery) : Input → Delivery
  | .pass input resources => delivery.pass config run input resources
  | .send transmission =>
    let sent := delivery.client.sendData transmission
    { delivery with client := sent.1, handed := delivery.handed ++ sent.2 }
  | .credits nCredits prescaling =>
    let sent := delivery.client.takeCredits nCredits prescaling
    { delivery with client := sent.1, handed := delivery.handed ++ sent.2 }

end Delivery

/-- A block of an event that goes on finds the client as the first block did: the prescaling
and the room for it give the same answer, and no credit has come free meanwhile. -/
structure FindsSame (client : Client EventData) (event : Event) (nEventsRead nEvents : Nat)
    (resources : Resources) : Prop where
  same : client.holdsCredits = true → event.hadCredits = true →
    (client.selects nEvents && client.hasRoom resources) =
      (client.selects nEventsRead && event.hadRoom)
  noneFree : client.isSOAP = true → client.holdsCredits = true → event.hadCredits = false →
    (client.selects nEvents && client.hasRoom resources) = false

instance (client : Client EventData) (event : Event) (nEventsRead nEvents : Nat)
    (resources : Resources) : Decidable (FindsSame client event nEventsRead nEvents resources) :=
  decidable_of_iff
    ((client.holdsCredits = true → event.hadCredits = true →
        (client.selects nEvents && client.hasRoom resources) =
          (client.selects nEventsRead && event.hadRoom)) ∧
      (client.isSOAP = true → client.holdsCredits = true → event.hadCredits = false →
        (client.selects nEvents && client.hasRoom resources) = false))
    ⟨fun found => ⟨found.1, found.2⟩, fun found => ⟨found.same, found.noneFree⟩⟩

section

variable {client : Client EventData} {event : Event} {resources : Resources}
  {nEventsRead nEvents : Nat}

structure InEvent (client : Client EventData) (nEventsRead : Nat) (event : Event) : Prop where
  opened : client.outbox.opened = event.queued
  queued : event.queued = if event.hadCredits && client.selects nEventsRead && event.hadRoom then
    event.blocks else []
  held : event.hadCredits = true → client.holdsCredits = true
  noneFree : client.isSOAP = false → client.holdsCredits = true → event.hadCredits = true

structure Served (delivery : Delivery) (nEventsRead : Nat) : Prop where
  sound : delivery.client.Sound
  idle : delivery.current = none → delivery.client.outbox.opened = []
  going : ∀ event ∈ delivery.current, InEvent delivery.client nEventsRead event
  ended : ∀ event ∈ delivery.ended, event.queued = [] ∨ event.queued = event.blocks
  closed : ∀ datas ∈ delivery.client.outbox.closed, ∃ event ∈ delivery.ended, datas = event.blocks
  handed : ∀ message ∈ delivery.handed, ∃ event ∈ delivery.ended, message.datas = event.blocks

lemma InEvent.takes (inEvent : InEvent client nEventsRead event)
    (finds : FindsSame client event nEventsRead nEvents resources) :
    client.takes nEvents resources =
      (event.hadCredits && client.selects nEventsRead && event.hadRoom) := by
  unfold Client.takes
  cases had : event.hadCredits with
  | true =>
    have held := inEvent.held had
    rw [held]
    exact finds.same held had
  | false =>
    cases held : client.holdsCredits with
    | false => rfl
    | true =>
      cases isSOAP : client.isSOAP with
      | true => exact finds.noneFree isSOAP held had
      | false =>
        have free := inEvent.noneFree isSOAP held
        rw [had] at free
        cases free

variable {delivery : Delivery} {position : Rui.Position}
variable {later : Client EventData} {data : EventData} {ends : Bool}

end

/-- While the application has not failed, an event is open for the client when it is for the
application. -/
structure Orderly (delivery : Delivery) : Prop where
  counted : Counted delivery.rui
  inside : delivery.failed = false → delivery.rui.insideEvent = delivery.current.isSome
  served : Served delivery delivery.rui.nEventsRead

section

variable {config : Config} {run : Run} {delivery : Delivery} {input : PassInput}
  {resources : Resources}

end

/-- The kinds of servers, and the clients of each that a run can begin with. -/
inductive Kind where
  | i2o
  | soap (persists clientIsKnown : Bool)

def Kind.created (kind : Kind) (base : Base) : Client EventData :=
  match kind with
  | .i2o => .i2o (I2O.created base)
  | .soap persists clientIsKnown => .soap (SOAP.created base persists clientIsKnown)

def posting : Transmission := ⟨fun _ => .posted, .accepted⟩

def Delivery.counts (delivery : Delivery) : List (Nat × Nat) :=
  delivery.ended.map fun event => (event.blocks.length, event.queued.length)

end EmuLib.Server
