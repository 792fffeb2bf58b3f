import Mathlib.Data.List.Nodup
import EmuLib.Lib.GuardedRun
import EmuLib.Server.Servers

/-!
The messages that a SOAP server keeps by reference: how many there are, and what is done to a
message before and after it has been sent.
-/

namespace EmuLib.Server

open GuardedRun List Option

variable {Data : Type*}

inductive Use
  | appended (reference : Nat)
  | sent (reference : Nat)
  deriving DecidableEq

def Use.reference : Use → Nat
  | .appended reference => reference
  | .sent reference => reference

/-- The server as the source has it: `messageReference` and `messages` hold references, and the
messages that they refer to, all that were ever created, are in the `heap`. -/
structure Referring (Data : Type*) where
  base : Base
  persists : Bool
  clientIsKnown : Bool
  heap : List (Message Data)
  messageReference : Option Nat
  messages : List Nat
  uses : List Use

namespace Referring

def created (base : Base) (persists clientIsKnown : Bool) : Referring Data :=
  ⟨base, persists, clientIsKnown, [], none, [], []⟩

def isToBeSent (server : Referring Data) (block : Block Data) : Bool :=
  let base := server.base
  base.nEventCreditsHeld != 0 && base.prescaling != 0 && block.nEvents % base.prescaling == 0 &&
    !(decide (SOAP.maxMessagesPendingTransmission ≤ server.messages.length) ||
      decide (base.nEventCreditsHeld ≤ server.messages.length))

def createMessage (server : Referring Data) (block : Block Data) : Referring Data :=
  { server with
    heap := server.heap ++
      [⟨block.runNumber, block.runStartUTC, server.base.nEventCreditsHeld, block.errorFlag, []⟩]
    messageReference := some server.heap.length }

def attach (data : Data) (message : Message Data) : Message Data :=
  { message with datas := message.datas ++ [data] }

def addAttachment (server : Referring Data) (data : Data) (reference : Nat) : Referring Data :=
  { server with
    heap := server.heap.modify reference (attach data)
    uses := server.uses ++ [.appended reference] }

def makeLastBlockEndEvent (server : Referring Data) : Referring Data :=
  match server.messageReference with
  | none => server
  | some reference =>
    { server with messageReference := none, messages := server.messages ++ [reference] }

def fillMessage (server : Referring Data) (block : Block Data) (reference : Nat) (filled : Bool) :
    Referring Data :=
  if filled then
    let appended := server.addAttachment block.data reference
    if block.position.endsEvent then appended.makeLastBlockEndEvent else appended
  else server

def appendData (server : Referring Data) (block : Block Data) (resources : Resources) :
    Referring Data :=
  match server.messageReference with
  | some reference => server.fillMessage block reference resources.filled
  | none =>
    if resources.created then
      (server.createMessage block).fillMessage block server.heap.length resources.filled
    else server

def addData (server : Referring Data) (block : Block Data) (resources : Resources) :
    Referring Data :=
  if server.isToBeSent block then server.appendData block resources else server

def sendFront (server : Referring Data) (front : Nat) (rest : List Nat) (base : Base) :
    Referring Data :=
  { server with messages := rest, base := base, uses := server.uses ++ [.sent front] }

def sendData (server : Referring Data) (posting : SOAP.Posting) : Referring Data :=
  match server.messages with
  | [] => server
  | front :: rest =>
    if server.clientIsKnown then
      match posting with
      | .threw => server
      | .accepted => server.sendFront front rest server.base.spendCredit
      | .noReply => server.sendFront front rest server.base
      | .fault => server.sendFront front rest server.base
    else server

def getOldestMessagePendingTransmission (server : Referring Data) : Referring Data :=
  match server.messages with
  | [] => server
  | front :: rest =>
    server.sendFront front rest
      (if server.persists then server.base else server.base.spendCredit)

end Referring

namespace SOAP

inductive Request (Data : Type*)
  | addData (block : Block Data) (resources : Resources)
  | makeLastBlockEndEvent
  | addCredits (nCredits prescaling : Int)
  | sendData (posting : Posting)
  | getOldestMessagePendingTransmission

def afterRequest (server : SOAP Data) : Request Data → SOAP Data
  | .addData block resources => server.addData block resources
  | .makeLastBlockEndEvent => server.makeLastBlockEndEvent
  | .addCredits nCredits prescaling => { server with base := server.base.addCredits nCredits prescaling }
  | .sendData posting => (server.sendData posting).1
  | .getOldestMessagePendingTransmission => server.getOldestMessagePendingTransmission.1

end SOAP

namespace Referring

open SOAP (Request)

def afterRequest (server : Referring Data) : Request Data → Referring Data
  | .addData block resources => server.addData block resources
  | .makeLastBlockEndEvent => server.makeLastBlockEndEvent
  | .addCredits nCredits prescaling => { server with base := server.base.addCredits nCredits prescaling }
  | .sendData posting => server.sendData posting
  | .getOldestMessagePendingTransmission => server.getOldestMessagePendingTransmission

def held (server : Referring Data) : List Nat :=
  server.messages ++ server.messageReference.toList

def Settled (earlier later : Use) : Prop :=
  earlier = .sent earlier.reference → later.reference ≠ earlier.reference

structure Sound (server : Referring Data) : Prop where
  existing : ∀ reference ∈ server.held, reference < server.heap.length
  distinct : server.held.Nodup
  unsent : ∀ reference ∈ server.held, .sent reference ∉ server.uses
  known : ∀ use ∈ server.uses, use.reference < server.heap.length
  settled : server.uses.Pairwise Settled

variable {reference front : Nat} {rest : List Nat}

section

variable {server : Referring Data}

lemma sound_created (base persists clientIsKnown) :
    Sound (created base persists clientIsKnown : Referring Data) := by
  constructor
  · intro reference member
    cases member
  · exact nodup_nil
  · intro reference member
    cases member
  · intro use member
    cases member
  · exact List.Pairwise.nil

lemma sound_createMessage (sound : Sound server) (none : server.messageReference = none)
    (block) : Sound (server.createMessage block) := by
  have held : server.held = server.messages := by simp [Referring.held, none]
  have fresh : server.heap.length ∉ server.messages := by
    intro member
    rw [← held] at member
    have existing := sound.existing _ member
    omega
  have longer : (server.createMessage block).heap.length = server.heap.length + 1 := by
    simp [createMessage]
  constructor
  · intro reference member
    rcases mem_append.mp member with member | member
    · have existing := sound.existing reference (held ▸ member)
      omega
    · rw [mem_singleton.mp member]
      omega
  · apply List.Nodup.append (held ▸ sound.distinct) (nodup_singleton _)
    exact disjoint_singleton.mpr fresh
  · intro reference member sent
    rcases mem_append.mp member with member | member
    · exact sound.unsent reference (held ▸ member) sent
    · have known := sound.known _ sent
      rw [mem_singleton.mp member] at known
      exact absurd known (Nat.lt_irrefl _)
  · intro use member
    have known := sound.known use member
    omega
  · exact sound.settled

lemma settled_append (sound : Sound server) {use} (member : use.reference ∈ server.held) :
    (server.uses ++ [use]).Pairwise Settled := by
  apply pairwise_append.mpr
  refine ⟨sound.settled, pairwise_singleton _ _, ?_⟩
  intro earlier past later now sent
  rw [mem_singleton.mp now]
  intro same
  rw [sent] at past
  apply sound.unsent _ member
  rw [same]
  exact past

lemma sound_addAttachment (sound : Sound server) (member : reference ∈ server.held) (data) :
    Sound (server.addAttachment data reference) := by
  have length : (server.addAttachment data reference).heap.length = server.heap.length := by
    simp [addAttachment]
  constructor
  · rw [length]
    exact sound.existing
  · exact sound.distinct
  · intro other holds sent
    rcases mem_append.mp sent with sent | sent
    · exact sound.unsent other holds sent
    · cases mem_singleton.mp sent
  · rw [length]
    intro use made
    rcases mem_append.mp made with past | now
    · exact sound.known use past
    · rw [mem_singleton.mp now]
      exact sound.existing reference member
  · exact settled_append sound member

lemma makeLastBlockEndEvent_held : server.makeLastBlockEndEvent.held = server.held := by
  unfold makeLastBlockEndEvent
  cases reference : server.messageReference with
  | none => simp only
  | some reference => simp [held, reference]

lemma sound_makeLastBlockEndEvent (sound : Sound server) :
    Sound server.makeLastBlockEndEvent := by
  have heap : server.makeLastBlockEndEvent.heap = server.heap := by
    unfold makeLastBlockEndEvent
    cases server.messageReference <;> rfl
  have uses : server.makeLastBlockEndEvent.uses = server.uses := by
    unfold makeLastBlockEndEvent
    cases server.messageReference <;> rfl
  constructor
  · rw [makeLastBlockEndEvent_held, heap]
    exact sound.existing
  · rw [makeLastBlockEndEvent_held]
    exact sound.distinct
  · rw [makeLastBlockEndEvent_held, uses]
    exact sound.unsent
  · rw [heap, uses]
    exact sound.known
  · rw [uses]
    exact sound.settled

lemma sound_fillMessage (sound : Sound server) (member : reference ∈ server.held) (block filled) :
    Sound (server.fillMessage block reference filled) := by
  have appended := sound_addAttachment sound member block.data
  cases filled with
  | false => exact sound
  | true =>
    simp only [fillMessage, if_true]
    split
    · exact sound_makeLastBlockEndEvent appended
    · exact appended

lemma sound_addData (sound : Sound server) (block resources) :
    Sound (server.addData block resources) := by
  unfold addData
  split
  · unfold appendData
    split
    · rename_i reference some
      apply sound_fillMessage sound
      simp [held, some]
    · rename_i none
      split
      · apply sound_fillMessage (sound_createMessage sound none block)
        simp [held, createMessage]
      · exact sound
  · exact sound

lemma sound_sendFront (sound : Sound server) (queue : server.messages = front :: rest) (base) :
    Sound (server.sendFront front rest base) := by
  have held : server.held = front :: (server.sendFront front rest base).held := by
    simp [Referring.held, sendFront, queue]
  have member : front ∈ server.held := by
    rw [held]
    exact mem_cons_self
  have distinct := sound.distinct
  rw [held] at distinct
  obtain ⟨gone, others⟩ := nodup_cons.mp distinct
  have within : ∀ reference ∈ (server.sendFront front rest base).held, reference ∈ server.held := by
    intro reference still
    rw [held]
    exact mem_cons_of_mem _ still
  constructor
  · intro reference still
    exact sound.existing reference (within reference still)
  · exact others
  · intro reference still sent
    rcases mem_append.mp sent with sent | sent
    · exact sound.unsent reference (within reference still) sent
    · cases mem_singleton.mp sent
      exact gone still
  · intro use made
    rcases mem_append.mp made with past | now
    · exact sound.known use past
    · rw [mem_singleton.mp now]
      exact sound.existing front member
  · exact settled_append sound member

lemma sound_sendData (sound : Sound server) (posting) : Sound (server.sendData posting) := by
  unfold sendData
  split
  · exact sound
  · rename_i front rest queue
    split
    · cases posting with
      | threw => exact sound
      | noReply => exact sound_sendFront sound queue _
      | fault => exact sound_sendFront sound queue _
      | accepted => exact sound_sendFront sound queue _
    · exact sound

lemma sound_getOldest (sound : Sound server) :
    Sound server.getOldestMessagePendingTransmission := by
  unfold getOldestMessagePendingTransmission
  split
  · exact sound
  · rename_i front rest queue
    exact sound_sendFront sound queue _

lemma sound_afterRequest (server : Referring Data) (request)
    (sound : Sound server) : Sound (server.afterRequest request) := by
  cases request with
  | addData block resources => exact sound_addData sound block resources
  | makeLastBlockEndEvent => exact sound_makeLastBlockEndEvent sound
  | addCredits nCredits prescaling =>
    exact ⟨sound.existing, sound.distinct, sound.unsent, sound.known, sound.settled⟩
  | sendData posting => exact sound_sendData sound posting
  | getOldestMessagePendingTransmission => exact sound_getOldest sound

end

def read (server : Referring Data) (reference : Nat) : Message Data :=
  server.heap.getD reference ⟨0, 0, 0, 0, []⟩

def value (server : Referring Data) : SOAP Data :=
  ⟨server.base, server.persists, server.clientIsKnown, server.messageReference.map server.read,
    server.messages.map server.read⟩

section

variable {server : Referring Data}

lemma value_messageReference :
    server.value.messageReference = server.messageReference.map server.read := rfl

lemma value_messages : server.value.messages = server.messages.map server.read := rfl

lemma isToBeSent_value (block) : server.value.isToBeSent block = server.isToBeSent block := by
  simp [SOAP.isToBeSent, isToBeSent, value]

lemma read_createMessage (block) (existing : reference < server.heap.length) :
    (server.createMessage block).read reference = server.read reference := by
  simp [read, createMessage, getD_eq_getElem?_getD, getElem?_append_left existing]

lemma read_created (block) :
    (server.createMessage block).read server.heap.length = server.value.createMessage block := by
  simp [read, createMessage, SOAP.createMessage, value, getD_eq_getElem?_getD]

lemma read_addAttachment (data) {other} (distinct : other ≠ reference) :
    (server.addAttachment data reference).read other = server.read other := by
  simp [read, addAttachment, getD_eq_getElem?_getD, Ne.symm distinct]

lemma read_attached (data) (existing : reference < server.heap.length) :
    (server.addAttachment data reference).read reference = attach data (server.read reference) := by
  simp [read, addAttachment, getD_eq_getElem?_getD, existing]

lemma value_makeLastBlockEndEvent :
    server.makeLastBlockEndEvent.value = server.value.makeLastBlockEndEvent := by
  unfold makeLastBlockEndEvent SOAP.makeLastBlockEndEvent
  cases reference : server.messageReference with
  | none => simp [value, reference]
  | some reference' =>
    simp only [value, reference, map_some, map_none, map_append, map_singleton]
    rfl

lemma value_addAttachment (sound : Sound server) (some : server.messageReference = some reference)
    (data) :
    (server.addAttachment data reference).value =
      { server.value with messageReference := Option.some (attach data (server.read reference)) } := by
  have held : server.held = server.messages ++ [reference] := by simp [Referring.held, some]
  have distinct := sound.distinct
  rw [held] at distinct
  have apart : ∀ other ∈ server.messages, other ≠ reference := by
    intro other member same
    rw [same] at member
    exact disjoint_of_nodup_append distinct member (mem_singleton_self _)
  have existing : reference < server.heap.length := by
    apply sound.existing
    simp [held]
  have queue : server.messages.map (server.addAttachment data reference).read =
      server.messages.map server.read := by
    apply map_congr_left
    intro other member
    exact read_addAttachment data (apart other member)
  have filled : (server.addAttachment data reference).messageReference.map
      (server.addAttachment data reference).read =
        Option.some (attach data (server.read reference)) := by
    rw [show (server.addAttachment data reference).messageReference = server.messageReference
      from rfl, some, map_some, read_attached data existing]
  simp only [value, filled]
  rw [show (server.addAttachment data reference).messages = server.messages from rfl, queue]
  rfl

lemma value_fillMessage (sound : Sound server) (some : server.messageReference = some reference)
    (block filled) :
    (server.fillMessage block reference filled).value =
      server.value.fillMessage block (server.read reference) filled := by
  have attached := value_addAttachment sound some block.data
  cases filled with
  | false =>
    simp only [fillMessage, SOAP.fillMessage, Bool.false_eq_true, if_false]
    simp [value, some]
  | true =>
    simp only [fillMessage, SOAP.fillMessage, if_true]
    split
    · rw [value_makeLastBlockEndEvent, attached]
      rfl
    · rw [attached]
      rfl

lemma value_createMessage (sound : Sound server) (block) : (server.createMessage block).value =
      { server.value with messageReference := some (server.value.createMessage block) } := by
  have queue : server.messages.map (server.createMessage block).read =
      server.messages.map server.read := by
    apply map_congr_left
    intro reference member
    apply read_createMessage
    apply sound.existing
    simp [held, member]
  have created : (server.createMessage block).messageReference.map
      (server.createMessage block).read = some (server.value.createMessage block) := by
    rw [show (server.createMessage block).messageReference = some server.heap.length from rfl,
      map_some, read_created]
  simp only [value, created]
  rw [show (server.createMessage block).messages = server.messages from rfl, queue]
  rfl

lemma value_addData (sound : Sound server) (block resources) :
    (server.addData block resources).value = server.value.addData block resources := by
  unfold addData SOAP.addData
  rw [isToBeSent_value]
  split
  · unfold appendData SOAP.appendData
    cases reference : server.messageReference with
    | some found =>
      have filling : server.value.messageReference = some (server.read found) := by
        rw [value_messageReference, reference, map_some]
      simp only [filling]
      exact value_fillMessage sound reference block resources.filled
    | none =>
      have idle : server.value.messageReference = none := by
        rw [value_messageReference, reference, map_none]
      simp only [idle]
      split
      · rw [value_fillMessage (sound_createMessage sound reference block) rfl, read_created,
          value_createMessage sound]
        cases resources.filled <;> rfl
      · rfl
  · rfl

lemma value_sendData (posting) :
    (server.sendData posting).value = (server.value.sendData posting).1 := by
  unfold sendData SOAP.sendData
  rw [value_messages]
  cases server.messages with
  | nil => rfl
  | cons front rest =>
    dsimp only [map_cons]
    rw [show server.value.clientIsKnown = server.clientIsKnown from rfl]
    split
    · cases posting <;> rfl
    · rfl

lemma value_getOldest : server.getOldestMessagePendingTransmission.value =
    server.value.getOldestMessagePendingTransmission.1 := by
  unfold getOldestMessagePendingTransmission SOAP.getOldestMessagePendingTransmission
  rw [value_messages]
  cases server.messages with
  | nil => rfl
  | cons front rest => rfl

lemma value_afterRequest (sound : Sound server) (request) :
    (server.afterRequest request).value = server.value.afterRequest request := by
  cases request with
  | addData block resources => exact value_addData sound block resources
  | makeLastBlockEndEvent => exact value_makeLastBlockEndEvent
  | addCredits nCredits prescaling => rfl
  | sendData posting => exact value_sendData posting
  | getOldestMessagePendingTransmission => exact value_getOldest

lemma value_run (sound : Sound server) (requests) :
    (runFrom afterRequest server requests).value =
      runFrom SOAP.afterRequest server.value requests := by
  induction requests generalizing server with
  | nil => rfl
  | cons request rest ih =>
    simp only [runFrom_cons]
    rw [ih (sound_afterRequest server request sound), value_afterRequest sound]

/-- The server with references refines the one with the messages in their place: in every run the
two hold the same. -/
theorem references_refine (base : Base) (persists clientIsKnown : Bool)
    (requests : List (Request Data)) :
    (runFrom afterRequest (created base persists clientIsKnown) requests).value =
      runFrom SOAP.afterRequest (.created base persists clientIsKnown) requests :=
  value_run (sound_created base persists clientIsKnown) requests

end

structure Bounded (server : Referring Data) : Prop where
  room : server.held.length ≤ SOAP.maxMessagesPendingTransmission
  credit : server.held.length ≤ server.base.nEventCreditsHeld

def Granted (server : Referring Data) : Request Data → Prop
  | .addCredits nCredits _ => 0 ≤ nCredits ∧ server.base.nEventCreditsHeld + nCredits < word64
  | .addData _ _ => True
  | .makeLastBlockEndEvent => True
  | .sendData _ => True
  | .getOldestMessagePendingTransmission => True

section

variable {server : Referring Data}

lemma held_length :
    server.held.length = server.messages.length + server.messageReference.toList.length := by
  simp [held]

lemma addAttachment_held (data reference) :
    (server.addAttachment data reference).held = server.held := rfl

lemma fillMessage_held (block reference filled) :
    (server.fillMessage block reference filled).held = server.held := by
  cases filled with
  | false => rfl
  | true =>
    simp only [fillMessage, if_true]
    split
    · rw [makeLastBlockEndEvent_held, addAttachment_held]
    · exact addAttachment_held block.data reference

lemma makeLastBlockEndEvent_base : server.makeLastBlockEndEvent.base = server.base := by
  unfold makeLastBlockEndEvent
  cases server.messageReference <;> rfl

lemma fillMessage_base (block reference filled) :
    (server.fillMessage block reference filled).base = server.base := by
  cases filled with
  | false => rfl
  | true =>
    simp only [fillMessage, if_true]
    split
    · rw [makeLastBlockEndEvent_base]
      rfl
    · rfl

lemma bounded_addData (bounded : Bounded server) (block resources) :
    Bounded (server.addData block resources) := by
  unfold addData
  cases toBeSent : server.isToBeSent block with
  | false => exact bounded
  | true =>
    simp only [if_true]
    unfold appendData
    split
    · constructor
      · rw [fillMessage_held]
        exact bounded.room
      · rw [fillMessage_held, fillMessage_base]
        exact bounded.credit
    · split
      · simp only [isToBeSent, Bool.and_eq_true, Bool.not_eq_true', Bool.or_eq_false_iff,
          decide_eq_false_iff_not] at toBeSent
        have created : (server.createMessage block).held.length = server.messages.length + 1 := by
          simp [held, createMessage]
        constructor
        · rw [fillMessage_held]
          omega
        · rw [fillMessage_held, fillMessage_base]
          rw [show (server.createMessage block).base = server.base from rfl]
          omega
      · exact bounded

lemma bounded_makeLastBlockEndEvent (bounded : Bounded server) :
    Bounded server.makeLastBlockEndEvent := by
  constructor
  · rw [makeLastBlockEndEvent_held]
    exact bounded.room
  · rw [makeLastBlockEndEvent_held, makeLastBlockEndEvent_base]
    exact bounded.credit

lemma bounded_addCredits (bounded : Bounded server) (nCredits prescaling)
    (granted : Granted server (.addCredits nCredits prescaling)) :
    Bounded (server.afterRequest (.addCredits nCredits prescaling)) := by
  have credit := bounded.credit
  obtain ⟨positive, fits⟩ := granted
  constructor
  · exact bounded.room
  · have held : (server.afterRequest (.addCredits nCredits prescaling)).held = server.held := rfl
    rw [held]
    simp only [afterRequest, Base.addCredits]
    rw [Int.emod_eq_of_lt (by omega) fits]
    omega

lemma bounded_sendFront (bounded : Bounded server) (queue : server.messages = front :: rest)
    {base} (spent : server.base.nEventCreditsHeld ≤ base.nEventCreditsHeld + 1) :
    Bounded (server.sendFront front rest base) := by
  have room := bounded.room
  have credit := bounded.credit
  have shorter : server.held.length = (server.sendFront front rest base).held.length + 1 := by
    simp [held, sendFront, queue]
  constructor
  · omega
  · simp only [sendFront] at shorter ⊢
    omega

lemma spent_credit (base : Base) :
    base.nEventCreditsHeld ≤ base.spendCredit.nEventCreditsHeld + 1 := by
  simp only [Base.spendCredit]
  omega

lemma bounded_sendData (bounded : Bounded server) (posting) :
    Bounded (server.sendData posting) := by
  unfold sendData
  split
  · exact bounded
  · rename_i front rest queue
    split
    · cases posting with
      | threw => exact bounded
      | noReply => exact bounded_sendFront bounded queue (Nat.le_succ _)
      | fault => exact bounded_sendFront bounded queue (Nat.le_succ _)
      | accepted => exact bounded_sendFront bounded queue (spent_credit _)
    · exact bounded

lemma bounded_getOldest (bounded : Bounded server) :
    Bounded server.getOldestMessagePendingTransmission := by
  unfold getOldestMessagePendingTransmission
  split
  · exact bounded
  · rename_i front rest queue
    apply bounded_sendFront bounded queue
    split
    · exact Nat.le_succ _
    · exact spent_credit _

lemma bounded_afterRequest (server : Referring Data) (request) (bounded : Bounded server)
    (granted : Granted server request) : Bounded (server.afterRequest request) := by
  cases request with
  | addData block resources => exact bounded_addData bounded block resources
  | makeLastBlockEndEvent => exact bounded_makeLastBlockEndEvent bounded
  | addCredits nCredits prescaling => exact bounded_addCredits bounded nCredits prescaling granted
  | sendData posting => exact bounded_sendData bounded posting
  | getOldestMessagePendingTransmission => exact bounded_getOldest bounded

end

/-- While the credits granted fit in their 64 bits, no more messages are kept than there is room
and credits left; and in any case, nothing is done to a message after it has been sent. -/
theorem backlog_bounded (base : Base) (persists clientIsKnown : Bool)
    (requests : List (Request Data)) :
    (Guarded afterRequest Granted (created base persists clientIsKnown) requests →
      (runFrom afterRequest (created base persists clientIsKnown) requests).messages.length ≤
        min SOAP.maxMessagesPendingTransmission
          (runFrom afterRequest (created base persists clientIsKnown)
            requests).base.nEventCreditsHeld) ∧
    (runFrom afterRequest (created base persists clientIsKnown) requests).uses.Pairwise Settled := by
  constructor
  · intro granted
    have start : Bounded (created base persists clientIsKnown : Referring Data) := by
      constructor
      · exact Nat.zero_le _
      · exact Nat.zero_le _
    have bounded := run_invariant bounded_afterRequest start granted
    have within := @held_length Data
      (runFrom afterRequest (created base persists clientIsKnown) requests)
    apply Nat.le_min.mpr
    constructor
    · have room := bounded.room
      omega
    · have credit := bounded.credit
      omega
  · have sound := run_preserved sound_afterRequest requests
      (sound_created base persists clientIsKnown)
    exact sound.settled

def wholeEvent : Block Unit := ⟨1, 0, 1, ⟨true, true⟩, 0, ()⟩

def working : Resources := ⟨false, true, true, true⟩

theorem backlog_bounded_twoEvents :
    (runFrom afterRequest (created ⟨1, true, 1⟩ true true) [.addData wholeEvent working,
      .addData wholeEvent working, .sendData .accepted, .addCredits 1 1,
      .addData wholeEvent working]).messages.length ≤
    min SOAP.maxMessagesPendingTransmission
      (runFrom afterRequest (created ⟨1, true, 1⟩ true true) [.addData wholeEvent working,
        .addData wholeEvent working, .sendData .accepted, .addCredits 1 1,
        .addData wholeEvent working]).base.nEventCreditsHeld := by
  refine (backlog_bounded ⟨1, true, 1⟩ true true _).1 ?_
  simp only [guarded_cons, guarded_nil, Granted, true_and, and_true]
  decide

lemma granted_again (server : Referring Data) (nCredits : Nat) (times)
    (fits : server.base.nEventCreditsHeld < word64) (prescaled : server.base.prescaling = 1) :
    runFrom afterRequest server (replicate times (.addCredits nCredits 1)) =
      { server with base := { server.base with
          nEventCreditsHeld := (server.base.nEventCreditsHeld + times * nCredits) % word64 } } := by
  have positive : 0 < word64 := by decide
  induction times generalizing server with
  | zero => simp [Nat.mod_eq_of_lt fits]
  | succ times ih =>
    have once : server.afterRequest (.addCredits nCredits 1) =
        { server with base := { server.base with
          nEventCreditsHeld := (server.base.nEventCreditsHeld + nCredits) % word64 } } := by
      simp only [afterRequest, Base.addCredits]
      rw [prescaled]
      rfl
    have sum : ((server.base.nEventCreditsHeld + nCredits) % word64 + times * nCredits) % word64 =
        (server.base.nEventCreditsHeld + (times + 1) * nCredits) % word64 := by
      rw [Nat.mod_add_mod, Nat.succ_mul]
      congr 1
      omega
    rw [replicate_succ, runFrom_cons, once, ih]
    · simp only [sum]
    · exact Nat.mod_lt _ positive
    · exact prescaled

def overgranted : List (Request Unit) :=
  [.addData wholeEvent working] ++
    (List.replicate 8589934596 (.addCredits 2147483647 1) ++ [.addCredits 3 1])

theorem credits_run_over :
    (∀ nCredits prescaling, .addCredits nCredits prescaling ∈ overgranted → 0 ≤ nCredits) ∧
    (runFrom afterRequest (created ⟨1, true, 1⟩ true true) overgranted).messages.length = 1 ∧
    (runFrom afterRequest (created ⟨1, true, 1⟩ true true) overgranted).base.nEventCreditsHeld = 0 := by
  have first : runFrom afterRequest (created ⟨1, true, 1⟩ true true)
      [.addData wholeEvent working] =
        ⟨⟨1, true, 1⟩, true, true, [⟨1, 0, 1, 0, [()]⟩], none, [0], [.appended 0]⟩ := by
    rfl
  have most := granted_again (⟨⟨1, true, 1⟩, true, true, [⟨1, 0, 1, 0, [()]⟩], none, [0],
    [.appended 0]⟩ : Referring Unit) 2147483647 8589934596 (by decide) rfl
  have run : runFrom afterRequest (created ⟨1, true, 1⟩ true true) overgranted =
      ⟨⟨1, true, 0⟩, true, true, [⟨1, 0, 1, 0, [()]⟩], none, [0], [.appended 0]⟩ := by
    rw [overgranted, runFrom_append, runFrom_append, first]
    rw [show (2147483647 : Int) = ((2147483647 : Nat) : Int) from rfl, most]
    rfl
  refine ⟨?_, ?_, ?_⟩
  · intro nCredits prescaling member
    simp only [overgranted, mem_append, mem_singleton, mem_replicate] at member
    rcases member with member | ⟨_, member⟩ | member
    · cases member
    · cases member
      decide
    · cases member
      decide
  · rw [run]
    rfl
  · rw [run]

end Referring

end EmuLib.Server
