import Mathlib.Data.List.Infix
import EmuLib.Server.Servers

/-!
What a server keeps for its client: the events that are complete, each of which makes one
message, and the blocks of the one that is not.
-/

namespace EmuLib.Server

open EndMarks List
open Rui (Position)

structure Outbox (Data : Type*) where
  closed : List (List Data)
  opened : List Data

namespace Outbox

variable {Data : Type*}

def close (outbox : Outbox Data) : Outbox Data :=
  if outbox.opened = [] then outbox else ⟨outbox.closed ++ [outbox.opened], []⟩

def add (outbox : Outbox Data) (data : Data) (endsEvent : Bool) : Outbox Data :=
  if endsEvent then ⟨outbox.closed ++ [outbox.opened ++ [data]], []⟩
  else ⟨outbox.closed, outbox.opened ++ [data]⟩

def contents (outbox : Outbox Data) : List Data := outbox.closed.flatten ++ outbox.opened

structure Sends (before after : Outbox Data) (handed : List (Message Data)) : Prop where
  opened : after.opened = before.opened
  closed : after.closed <:+ before.closed
  handed : ∀ message ∈ handed, message.datas ∈ before.closed

lemma Sends.refl (outbox : Outbox Data) : Sends outbox outbox [] :=
  ⟨rfl, suffix_refl _, by simp⟩

lemma Sends.trans {first second third : Outbox Data} {handed later}
    (sends : Sends first second handed) (sendsLater : Sends second third later) :
    Sends first third (handed ++ later) where
  opened := sendsLater.opened.trans sends.opened
  closed := sendsLater.closed.trans sends.closed
  handed := by
    intro message member
    rcases mem_append.mp member with member | member
    · exact sends.handed message member
    · exact sends.closed.subset (sendsLater.handed message member)

lemma Sends.front {before after : Outbox Data} {group} (opened : after.opened = before.opened)
    (closed : before.closed = group :: after.closed) {handed}
    (carried : ∀ message ∈ handed, message.datas = group) :
    Sends before after handed where
  opened := opened
  closed := by
    rw [closed]
    exact suffix_cons _ _
  handed := by
    intro message member
    rw [carried message member, closed]
    exact mem_cons_self

end Outbox

namespace I2O

variable {Data : Type*}

def datasOf (entries : List (Message Data × Position)) : List Data :=
  entries.flatMap fun entry => entry.1.datas

@[simp] lemma datasOf_nil : datasOf ([] : List (Message Data × Position)) = [] := rfl

@[simp] lemma datasOf_append (first second : List (Message Data × Position)) :
    datasOf (first ++ second) = datasOf first ++ datasOf second := by
  simp [datasOf]

@[simp] lemma datasOf_singleton (entry : Message Data × Position) :
    datasOf [entry] = entry.1.datas := by
  simp [datasOf]

def outboxOf (queue : List (Message Data × Position)) : Outbox Data :=
  ⟨(cut endsEvent queue).1.map datasOf, datasOf (cut endsEvent queue).2⟩

def outbox (server : I2O Data) : Outbox Data := outboxOf server.messageQueue

structure Sound (server : I2O Data) : Prop where
  carries : ∀ entry ∈ server.messageQueue, entry.1.datas ≠ []
  counted : server.outbox.closed.length ≤ server.nEventsInQueue

def holdsCredits (server : I2O Data) : Bool :=
  !server.base.sendDataOnRequestOnly || (server.base.nEventCreditsHeld != 0 &&
    decide (server.nEventsInQueue < server.base.nEventCreditsHeld))

lemma outboxOf_snoc (queue : List (Message Data × Position)) (entry)
    {data} (carries : entry.1.datas = [data]) :
    outboxOf (queue ++ [entry]) = (outboxOf queue).add data entry.2.endsEvent := by
  by_cases isEnd : entry.2.endsEvent = true <;>
    simp [outboxOf, cut_snoc, mark, Outbox.add, endsEvent, isEnd, carries]

variable {queue : List (Message Data × Position)}

lemma outboxOf_unmarked (carries : ∀ entry ∈ queue, entry.1.datas ≠ []) :
    (outboxOf queue).opened = [] ↔ (cut endsEvent queue).2 = [] := by
  have within : ∀ entry ∈ (cut endsEvent queue).2, entry ∈ queue := by
    induction queue using reverseRecOn with
    | nil => simp
    | append_singleton queue entry ih =>
      have earlier := ih fun other member => carries other (by simp [member])
      simp only [cut_snoc, mark]
      split
      · simp
      · intro other member
        rcases mem_append.mp member with member | member
        · exact mem_append_left _ (earlier other member)
        · exact mem_append_right _ member
  simp only [outboxOf, datasOf, flatMap_eq_nil_iff]
  constructor
  · intro empty
    by_contra opened
    obtain ⟨entry, member⟩ := exists_mem_of_ne_nil _ opened
    exact carries entry (within entry member) (empty entry member)
  · rintro empty entry member
    rw [empty] at member
    cases member

lemma markEnd_snoc (queue : List (Message Data × Position)) (last) :
    markEnd (queue ++ [last]) = queue ++ [(last.1, { last.2 with endsEvent := true })] := by
  induction queue with
  | nil => rfl
  | cons entry rest ih =>
    cases rest with
    | nil => rfl
    | cons next later =>
      simp only [cons_append] at ih ⊢
      rw [markEnd, ih]

lemma outboxOf_markEnd (carries : ∀ entry ∈ queue, entry.1.datas ≠ []) (some : queue ≠ []) :
    outboxOf (markEnd queue) = (outboxOf queue).close := by
  have opened := outboxOf_unmarked carries
  obtain ⟨earlier, last, rfl⟩ := eq_nil_or_concat queue |>.resolve_left some
  simp only [concat_eq_append] at opened ⊢
  rw [markEnd_snoc]
  unfold Outbox.close
  by_cases isEnd : endsEvent last = true
  · simp only [endsEvent] at isEnd
    simp [outboxOf, cut_snoc, mark, endsEvent, isEnd]
  · have remains : (cut endsEvent (earlier ++ [last])).2 ≠ [] := by
      simp [cut_snoc, mark, isEnd]
    rw [if_neg fun none => remains (opened.mp none)]
    simp only [endsEvent] at isEnd
    simp [outboxOf, cut_snoc, mark, endsEvent, isEnd]

lemma sound_created (base) : (created base : I2O Data).Sound :=
  ⟨by simp [created], by simp [created, outbox, outboxOf]⟩

lemma addData_outbox (server : I2O Data) (block resources) :
    (server.addData block resources).outbox =
      if server.isToBeSent block resources && resources.frame then
        server.outbox.add block.data block.position.endsEvent
      else server.outbox := by
  unfold addData
  split
  · exact outboxOf_snoc _ _ rfl
  · rfl

lemma addData_frame (server : I2O Data) (block resources) :
    (server.addData block resources).base = server.base ∧
      (block.position.endsEvent = false →
        (server.addData block resources).nEventsInQueue = server.nEventsInQueue) := by
  unfold addData
  split
  · refine ⟨rfl, fun goesOn => ?_⟩
    simp [createMessage, goesOn]
  · exact ⟨rfl, fun _ => rfl⟩

lemma sound_addData {server : I2O Data} (sound : server.Sound) (block resources)
    (room : server.isToBeSent block resources = true →
      resources.frame = true → block.position.endsEvent = true →
        server.nEventsInQueue + 1 < word32) :
    (server.addData block resources).Sound := by
  have queue := addData_outbox server block resources
  have counted := sound.counted
  unfold addData at queue ⊢
  split at queue
  · rename_i toBeSent
    rw [if_pos toBeSent]
    constructor
    · intro entry member
      rcases mem_append.mp member with member | member
      · exact sound.carries entry member
      · rw [mem_singleton.mp member]
        exact cons_ne_nil _ _
    · rw [queue]
      unfold Outbox.add createMessage
      by_cases isEnd : block.position.endsEvent = true
      · simp only [isEnd, if_true, length_append, length_cons, length_nil]
        rw [Bool.and_eq_true] at toBeSent
        rw [Nat.mod_eq_of_lt (room toBeSent.1 toBeSent.2 isEnd)]
        omega
      · simpa [isEnd] using counted
  · rename_i notToBeSent
    rw [if_neg notToBeSent]
    exact sound

lemma makeLastBlockEndEvent_outbox {server : I2O Data} (sound : server.Sound) :
    server.makeLastBlockEndEvent.outbox = server.outbox.close := by
  unfold makeLastBlockEndEvent
  split
  · rename_i empty
    simp [outbox, outboxOf, empty, Outbox.close]
  · rename_i some
    exact outboxOf_markEnd sound.carries some

lemma close_length (outbox : Outbox Data) :
    outbox.close.closed.length ≤ outbox.closed.length + 1 := by
  unfold Outbox.close
  split
  · exact Nat.le_succ _
  · simp

lemma markEnd_carries (carries : ∀ entry ∈ queue, entry.1.datas ≠ []) :
    ∀ entry ∈ markEnd queue, entry.1.datas ≠ [] := by
  rcases eq_nil_or_concat queue with rfl | ⟨earlier, last, rfl⟩
  · exact carries
  · simp only [concat_eq_append] at carries ⊢
    rw [markEnd_snoc]
    intro entry member
    rcases mem_append.mp member with member | member
    · exact carries entry (by simp [member])
    · rw [mem_singleton.mp member]
      exact carries last (by simp)

lemma sound_makeLastBlockEndEvent {server : I2O Data} (sound : server.Sound)
    (room : server.messageQueue ≠ [] → server.nEventsInQueue + 1 < word32) : server.makeLastBlockEndEvent.Sound := by
  have queue := makeLastBlockEndEvent_outbox sound
  have longer := close_length server.outbox
  have counted := sound.counted
  rw [← queue] at longer
  unfold makeLastBlockEndEvent at longer ⊢
  split
  · exact sound
  · rename_i some
    rw [if_neg some] at longer
    refine ⟨markEnd_carries sound.carries, ?_⟩
    have unwrapped := Nat.mod_eq_of_lt (room some)
    change _ ≤ (server.nEventsInQueue + 1) % word32
    omega

lemma outboxOf_throughEnd (marked : queue.any endsEvent = true) :
    outboxOf queue =
      ⟨datasOf (throughEnd endsEvent queue).1 :: (outboxOf (throughEnd endsEvent queue).2).closed,
        (outboxOf (throughEnd endsEvent queue).2).opened⟩ := by
  unfold outboxOf
  rw [cut_throughEnd marked]
  rfl

/-- What a turn of the loop of `sendData` can come to: an event stays in the queue, or is lost
after its blocks have been merged, or is handed over. -/
inductive Turn (before after : I2O Data) : Option (Message Data) → Prop where
  | kept (outbox : after.outbox = before.outbox) (base : after.base = before.base)
      (count : after.nEventsInQueue = before.nEventsInQueue) : Turn before after none
  | lost (group : List Data)
      (outbox : before.outbox = ⟨group :: after.outbox.closed, after.outbox.opened⟩)
      (base : after.base = before.base)
      (count : after.nEventsInQueue = before.nEventsInQueue) : Turn before after none
  | handed (message : Message Data)
      (outbox : before.outbox = ⟨message.datas :: after.outbox.closed, after.outbox.opened⟩)
      (base : after.base = before.base.spendCredit)
      (count : after.nEventsInQueue = before.nEventsInQueue - 1) : Turn before after (some message)

lemma outboxOf_cons_end {entry} (rest : List (Message Data × Position))
    (isEnd : entry.2.endsEvent = true) :
    outboxOf (entry :: rest) =
      ⟨entry.1.datas :: (outboxOf rest).closed, (outboxOf rest).opened⟩ := by
  unfold outboxOf
  rw [cut_cons_end rest isEnd]
  simp

lemma sendNextMessageInQueue_turn {server : I2O Data} (whole : server.startsAndEnds = true)
    (sending) :
    Turn server (server.sendNextMessageInQueue sending).1
      (server.sendNextMessageInQueue sending).2 := by
  unfold startsAndEnds at whole
  cases queue : server.messageQueue with
  | nil =>
    rw [queue] at whole
    cases whole
  | cons front rest =>
    rw [queue] at whole
    have isEnd : front.2.endsEvent = true := (Bool.and_eq_true_iff.mp whole).2
    have before : server.outbox = outboxOf (front :: rest) := by rw [← queue]; rfl
    have unsent : outboxOf ((insertNumberOfCreditsHeld server.base front, front.2) :: rest) =
        server.outbox := by
      rw [before, outboxOf_cons_end rest isEnd]
      exact outboxOf_cons_end rest isEnd
    unfold sendNextMessageInQueue
    rw [queue]
    cases sending with
    | posted =>
      apply Turn.handed
      · rw [before, outboxOf_cons_end rest isEnd]
        rfl
      · rfl
      · rfl
    | notPosted => exact Turn.kept unsent rfl rfl
    | noFrame => exact Turn.kept unsent rfl rfl

lemma merge_datas (base) (entries : List (Message Data × Position)) :
    (merge base (entries.map Prod.fst)).datas = datasOf entries := by
  simp [merge, datasOf, flatMap_map]

lemma sendMergedEventMessage_turn {server : I2O Data} (marked : server.isEventEndInQueue = true)
    (sending) :
    Turn server (server.sendMergedEventMessage sending).1
      (server.sendMergedEventMessage sending).2 := by
  have before : server.outbox = _ := outboxOf_throughEnd marked
  cases sending with
  | posted =>
    apply Turn.handed
    · rw [merge_datas]
      exact before
    · rfl
    · rfl
  | notPosted => exact Turn.lost _ before rfl rfl
  | noFrame => exact Turn.kept rfl rfl rfl

lemma sendEvent_turn {server : I2O Data} (marked : server.isEventEndInQueue = true) (sending) :
    Turn server (server.sendEvent sending).1 (server.sendEvent sending).2 := by
  unfold sendEvent
  split
  · rename_i whole
    exact sendNextMessageInQueue_turn whole sending
  · exact sendMergedEventMessage_turn marked sending

lemma sendEvent_carries {server : I2O Data}
    (carries : ∀ entry ∈ server.messageQueue, entry.1.datas ≠ []) (sending) :
    ∀ entry ∈ (server.sendEvent sending).1.messageQueue, entry.1.datas ≠ [] := by
  have later : ∀ entry ∈ (throughEnd endsEvent server.messageQueue).2, entry.1.datas ≠ [] := by
    intro entry member
    apply carries
    rw [← @throughEnd_append _ endsEvent server.messageQueue]
    exact mem_append_right _ member
  unfold sendEvent
  split
  · unfold sendNextMessageInQueue
    cases queue : server.messageQueue with
    | nil =>
      simp only [queue]
      simp
    | cons front rest =>
      rw [queue] at carries
      have ofRest : ∀ entry ∈ rest, entry.1.datas ≠ [] := fun entry member =>
        carries entry (mem_cons_of_mem _ member)
      have unsent : ∀ entry ∈ (insertNumberOfCreditsHeld server.base front, front.2) :: rest,
          entry.1.datas ≠ [] := by
        intro entry member
        rcases mem_cons.mp member with rfl | member
        · exact carries front mem_cons_self
        · exact ofRest entry member
      cases sending with
      | posted => exact ofRest
      | notPosted => exact unsent
      | noFrame => exact unsent
  · cases sending with
    | posted => exact later
    | notPosted => exact later
    | noFrame => exact carries

section

variable {before after : I2O Data} {message : Option (Message Data)}

lemma Turn.sends (turn : Turn before after message) :
    Outbox.Sends before.outbox after.outbox message.toList := by
  cases turn with
  | kept outbox base count =>
    rw [outbox]
    exact Outbox.Sends.refl _
  | lost group outbox base count =>
    apply @Outbox.Sends.front _ _ _ group
    · rw [outbox]
    · rw [outbox]
    · simp
  | handed message outbox base count =>
    apply @Outbox.Sends.front _ _ _ message.datas
    · rw [outbox]
    · rw [outbox]
    · simp

lemma Turn.counted (turn : Turn before after message)
    (counted : before.outbox.closed.length ≤ before.nEventsInQueue) :
    after.outbox.closed.length ≤ after.nEventsInQueue := by
  cases turn with
  | kept outbox base count =>
    rw [outbox, count]
    exact counted
  | lost group outbox base count =>
    rw [outbox, length_cons] at counted
    omega
  | handed message outbox base count =>
    rw [outbox, length_cons] at counted
    omega

lemma holdsCredits_iff (server : I2O Data) : server.holdsCredits = true ↔
    server.base.sendDataOnRequestOnly = false ∨
      server.nEventsInQueue < server.base.nEventCreditsHeld := by
  unfold holdsCredits
  cases server.base.sendDataOnRequestOnly with
  | false => simp
  | true =>
    simp only [Bool.not_true, Bool.false_or, Bool.and_eq_true, bne_iff_ne, decide_eq_true_eq,
      Bool.true_eq_false, false_or]
    omega

lemma Turn.base (turn : Turn before after message)
    (counted : before.outbox.closed.length ≤ before.nEventsInQueue) :
    after.holdsCredits = before.holdsCredits ∧ after.base.prescaling = before.base.prescaling := by
  cases turn with
  | kept outbox base count =>
    unfold holdsCredits
    rw [base, count]
    exact ⟨rfl, rfl⟩
  | lost group outbox base count =>
    unfold holdsCredits
    rw [base, count]
    exact ⟨rfl, rfl⟩
  | handed message outbox base count =>
    rw [outbox, length_cons] at counted
    refine ⟨?_, by rw [base]; rfl⟩
    rw [Bool.eq_iff_iff, holdsCredits_iff, holdsCredits_iff, base]
    simp only [Base.spendCredit]
    constructor
    · rintro (always | held)
      · exact .inl always
      · omega
    · rintro (always | held)
      · exact .inl always
      · omega

end

lemma sendEvent_shortens {server : I2O Data} (marked : server.isEventEndInQueue = true)
    {sending sent message} (sends : server.sendEvent sending = (sent, some message)) :
    sent.messageQueue.length < server.messageQueue.length := by
  unfold sendEvent at sends
  split at sends
  · unfold sendNextMessageInQueue at sends
    cases queue : server.messageQueue with
    | nil =>
      rw [isEventEndInQueue, queue] at marked
      cases marked
    | cons front rest =>
      rw [queue] at sends
      cases sending with
      | posted =>
        simp only [Prod.mk.injEq] at sends
        rw [← sends.1]
        exact Nat.lt_succ_self _
      | notPosted => cases sends
      | noFrame => cases sends
  · cases sending with
    | posted =>
      simp only [sendMergedEventMessage, Prod.mk.injEq] at sends
      rw [← sends.1]
      exact throughEnd_length marked
    | notPosted => cases sends
    | noFrame => cases sends

lemma sendFrom_enough {turns more} (sending) {server : I2O Data}
    (enough : server.messageQueue.length ≤ turns) (enoughToo : server.messageQueue.length ≤ more) :
    sendFrom turns sending server = sendFrom more sending server := by
  induction turns generalizing server sending more with
  | zero =>
    have empty := eq_nil_of_length_eq_zero (Nat.le_zero.mp enough)
    cases more with
    | zero => rfl
    | succ more => simp [sendFrom, isEventEndInQueue, empty]
  | succ turns ih =>
    cases more with
    | zero =>
      have empty := eq_nil_of_length_eq_zero (Nat.le_zero.mp enoughToo)
      simp [sendFrom, isEventEndInQueue, empty]
    | succ more =>
      unfold sendFrom
      by_cases marked : server.isEventEndInQueue = true
      · cases sends : server.sendEvent (sending 0) with | mk sent message
        cases message with
        | none => rfl
        | some message =>
          have shorter := sendEvent_shortens marked sends
          have same := @ih more (fun turn => sending (turn + 1)) sent (by omega) (by omega)
          simp only [same]
      · rw [if_neg marked, if_neg marked]

/-- The turns that `sendData` is given are as many as its loop can take. -/
lemma sendData_enough {turns} (sending) {server : I2O Data}
    (enough : server.messageQueue.length ≤ turns) :
    server.sendData sending = sendFrom turns sending server :=
  sendFrom_enough sending (le_refl _) enough

end I2O

namespace SOAP

variable {Data : Type*}

def outbox (server : SOAP Data) : Outbox Data :=
  ⟨server.messages.map Message.datas, (server.messageReference.map Message.datas).getD []⟩

def Sound (server : SOAP Data) : Prop := ∀ message ∈ server.messageReference, message.datas ≠ []

def holdsCredits (server : SOAP Data) : Bool :=
  server.base.nEventCreditsHeld != 0 &&
    !(decide (maxMessagesPendingTransmission ≤ server.messages.length) ||
      decide (server.base.nEventCreditsHeld ≤ server.messages.length))

def hasRoom (server : SOAP Data) (resources : Resources) : Bool :=
  server.messageReference.isSome || resources.created

lemma holdsCredits_iff (server : SOAP Data) : server.holdsCredits = true ↔
    server.messages.length < maxMessagesPendingTransmission ∧
      server.messages.length < server.base.nEventCreditsHeld := by
  simp only [holdsCredits, Bool.and_eq_true, bne_iff_ne, Bool.not_eq_true', Bool.or_eq_false_iff,
    decide_eq_false_iff_not]
  omega

lemma fillMessage_outbox (server : SOAP Data) (block message)
    (same : server.outbox.opened = message.datas) :
    (server.fillMessage block message true).outbox =
        server.outbox.add block.data block.position.endsEvent ∧
      (server.fillMessage block message true).Sound := by
  unfold fillMessage Outbox.add
  simp only [if_true, same]
  by_cases isEnd : block.position.endsEvent = true
  · simp [isEnd, makeLastBlockEndEvent, outbox, Sound]
  · simp [isEnd, outbox, Sound]

lemma addData_outbox {server : SOAP Data} (sound : server.Sound) (block resources)
    (filled : resources.filled = true) :
    (server.addData block resources).outbox =
        (if server.isToBeSent block && server.hasRoom resources then
          server.outbox.add block.data block.position.endsEvent
        else server.outbox) ∧
      (server.addData block resources).Sound := by
  unfold addData
  by_cases toBeSent : server.isToBeSent block = true
  · simp only [toBeSent, if_true, Bool.true_and]
    unfold appendData hasRoom
    rw [filled]
    cases reference : server.messageReference with
    | some message =>
      exact fillMessage_outbox server block message (by simp [outbox, reference])
    | none =>
      cases resources.created with
      | true => exact fillMessage_outbox server block _ (by simp [outbox, reference, createMessage])
      | false => exact ⟨rfl, sound⟩
  · simp only [Bool.not_eq_true] at toBeSent
    rw [toBeSent]
    exact ⟨rfl, sound⟩

lemma fillMessage_frame (server : SOAP Data) (block message filled) :
    (server.fillMessage block message filled).base = server.base ∧
      (block.position.endsEvent = false →
        (server.fillMessage block message filled).messages = server.messages) := by
  unfold fillMessage
  cases filled with
  | false => exact ⟨rfl, fun _ => rfl⟩
  | true =>
    simp only [if_true]
    split
    · rename_i isEnd
      exact ⟨rfl, fun goesOn => absurd isEnd (by simp [goesOn])⟩
    · exact ⟨rfl, fun _ => rfl⟩

lemma addData_frame (server : SOAP Data) (block resources) :
    (server.addData block resources).base = server.base ∧
      (block.position.endsEvent = false →
        (server.addData block resources).messages = server.messages) := by
  unfold addData appendData
  split
  · split
    · exact fillMessage_frame server block _ _
    · split
      · exact fillMessage_frame server block _ _
      · exact ⟨rfl, fun _ => rfl⟩
  · exact ⟨rfl, fun _ => rfl⟩

lemma makeLastBlockEndEvent_outbox {server : SOAP Data} (sound : server.Sound) :
    server.makeLastBlockEndEvent.outbox = server.outbox.close ∧
      server.makeLastBlockEndEvent.Sound := by
  unfold makeLastBlockEndEvent Outbox.close
  cases reference : server.messageReference with
  | none =>
    refine ⟨?_, sound⟩
    simp [outbox, reference]
  | some message =>
    have carries := sound message reference
    simp [outbox, reference, carries, Sound]

section

variable {server after : SOAP Data} {front : Message Data}

end

end SOAP

namespace Client

variable {Data : Type*}

def outbox : Client Data → Outbox Data
  | .i2o server => server.outbox
  | .soap server => server.outbox

def Sound : Client Data → Prop
  | .i2o server => server.Sound
  | .soap server => server.Sound

def base : Client Data → Base
  | .i2o server => server.base
  | .soap server => server.base

def holdsCredits : Client Data → Bool
  | .i2o server => server.holdsCredits
  | .soap server => server.holdsCredits

def selects (client : Client Data) (nEvents : Nat) : Bool :=
  client.base.prescaling != 0 && nEvents % client.base.prescaling == 0

def hasRoom (client : Client Data) (resources : Resources) : Bool :=
  match client with
  | .i2o _ => !resources.isHighThresholdExceeded && resources.frame
  | .soap server => server.hasRoom resources

def Counts (client : Client Data) (more : Nat) : Prop :=
  match client with
  | .i2o server => server.nEventsInQueue + more < word32
  | .soap _ => True

def Fills (client : Client Data) (resources : Resources) : Prop :=
  match client with
  | .i2o _ => True
  | .soap _ => resources.filled = true

def isSOAP : Client Data → Bool
  | .i2o _ => false
  | .soap _ => true

def takes (client : Client Data) (nEvents : Nat) (resources : Resources) : Bool :=
  client.holdsCredits && client.selects nEvents && client.hasRoom resources

lemma i2o_takes (server : I2O Data) (block resources) :
    (server.isToBeSent block resources && resources.frame) =
      (Client.i2o server).takes block.nEvents resources := by
  simp only [I2O.isToBeSent, takes, holdsCredits, I2O.holdsCredits, selects, hasRoom, base]
  cases server.base.sendDataOnRequestOnly <;> simp [Bool.and_assoc]

lemma soap_takes (server : SOAP Data) (block resources) :
    (server.isToBeSent block && server.hasRoom resources) =
      (Client.soap server).takes block.nEvents resources := by
  simp only [SOAP.isToBeSent, takes, holdsCredits, SOAP.holdsCredits, selects, hasRoom, base]
  cases server.base.nEventCreditsHeld != 0 <;> simp [Bool.and_comm]

variable {client : Client Data} {resources : Resources}

lemma addData_outbox (sound : client.Sound) (counts : client.Counts 1) (block)
    (fills : client.Fills resources) :
    (client.addData block resources).outbox =
        (if client.takes block.nEvents resources then
          client.outbox.add block.data block.position.endsEvent
        else client.outbox) ∧
      (client.addData block resources).Sound := by
  cases client with
  | i2o server =>
    rw [← i2o_takes]
    exact ⟨I2O.addData_outbox server block resources, I2O.sound_addData sound block resources fun _ _ _ => counts⟩
  | soap server =>
    rw [← soap_takes]
    exact SOAP.addData_outbox sound block resources fills

lemma addData_frame (client : Client Data) (block resources) :
    (client.addData block resources).base = client.base ∧
      (client.addData block resources).isSOAP = client.isSOAP ∧
      (block.position.endsEvent = false →
        (client.addData block resources).holdsCredits = client.holdsCredits) := by
  cases client with
  | i2o server =>
    obtain ⟨base, count⟩ := I2O.addData_frame server block resources
    refine ⟨base, rfl, fun goesOn => ?_⟩
    simp only [addData, holdsCredits, I2O.holdsCredits, base, count goesOn]
  | soap server =>
    obtain ⟨base, messages⟩ := SOAP.addData_frame server block resources
    refine ⟨base, rfl, fun goesOn => ?_⟩
    simp only [addData, holdsCredits, SOAP.holdsCredits, base, messages goesOn]

lemma makeLastBlockEndEvent_outbox (sound : client.Sound) (counts : client.Counts 1) :
    client.makeLastBlockEndEvent.outbox = client.outbox.close ∧
      client.makeLastBlockEndEvent.Sound := by
  cases client with
  | i2o server =>
    exact ⟨I2O.makeLastBlockEndEvent_outbox sound, I2O.sound_makeLastBlockEndEvent sound fun _ => counts⟩
  | soap server => exact SOAP.makeLastBlockEndEvent_outbox sound

end Client

end EmuLib.Server
