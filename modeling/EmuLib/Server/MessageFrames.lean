import Mathlib.Algebra.Ring.Nat
import Mathlib.Data.List.Forall2
import EmuLib.Server.Outbox

/-!
The messages of the I2O server as they are in memory: the bytes behind the header of a frame, and
the sizes that say how many they are.
-/

namespace EmuLib.Server

open EndMarks List
open Rui (Position)

def frameHeader : Nat := 48

/-- The size in the header is in words of four bytes. `datas` are the bytes behind the header. -/
structure Frame where
  messageSize : Nat
  dataSize : Nat
  message : Message UInt8

def Frame.payload (frame : Frame) : List UInt8 :=
  frame.message.datas.take (frame.dataSize - frameHeader)

def Frame.ofSize (i2oMessageSize : Nat) (message : Message UInt8) : Frame :=
  ⟨i2oMessageSize / 4 % word16, i2oMessageSize, message⟩

def Frame.dataSizeInBytes (frame : Frame) : Nat := frame.messageSize * 4 - frameHeader

namespace I2O

def blockData (message : Message (List UInt8)) : List UInt8 := message.datas.flatten

def blockFrame (message : Message (List UInt8)) : Frame :=
  Frame.ofSize ((frameHeader + (blockData message).length) % word32)
    ⟨message.runNumber, message.runStartUTC, message.nEventCreditsHeld, message.errorFlag,
      blockData message⟩

def mergeFrames (base : Base) (messages : List (Message (List UInt8))) : Option Frame :=
  if messages.all fun message => decide (frameHeader ≤ (blockFrame message).messageSize * 4) then
    let merged := merge base messages
    let totalDataSizeInBytes :=
      (messages.map fun message => (blockFrame message).dataSizeInBytes).sum
    some (Frame.ofSize (frameHeader + totalDataSizeInBytes)
      ⟨merged.runNumber, merged.runStartUTC, merged.nEventCreditsHeld, merged.errorFlag,
        messages.flatMap fun message =>
          (blockData message).take (blockFrame message).dataSizeInBytes⟩)
  else none

def sendNextFrame (server : I2O (List UInt8)) (sending : Sending) :
    I2O (List UInt8) × Option Frame :=
  let sent := server.sendNextMessageInQueue (if sending = .notPosted then .notPosted else .posted)
  (sent.1, sent.2.map blockFrame)

def sendMergedFrame (server : I2O (List UInt8)) (sending : Sending) :
    Option (I2O (List UInt8) × Option Frame) :=
  if sending = .noFrame then some (server, none)
  else
    (mergeFrames server.base ((throughEnd endsEvent server.messageQueue).1.map Prod.fst)).map
      fun frame =>
        let sent := server.sendMergedEventMessage sending
        (sent.1, sent.2.map fun _ => frame)

def sendEventFrame (server : I2O (List UInt8)) (sending : Sending) :
    Option (I2O (List UInt8) × Option Frame) :=
  if server.startsAndEnds then some (server.sendNextFrame sending)
  else server.sendMergedFrame sending

def sendFramesFrom : Nat → (Nat → Sending) → I2O (List UInt8) →
    Option (I2O (List UInt8) × List Frame)
  | 0, _, server => some (server, [])
  | turns + 1, sending, server =>
    if server.isEventEndInQueue then
      match server.sendEventFrame (sending 0) with
      | none => none
      | some (sent, none) => some (sent, [])
      | some (sent, some frame) =>
        (sendFramesFrom turns (fun turn => sending (turn + 1)) sent).map fun later =>
          (later.1, frame :: later.2)
    else some (server, [])

def sendFrames (server : I2O (List UInt8)) (sending : Nat → Sending) :
    Option (I2O (List UInt8) × List Frame) :=
  sendFramesFrom server.messageQueue.length sending server

end I2O

abbrev QueuedEvent := List (Message (List UInt8) × Position)

def queuedEvents (server : I2O (List UInt8)) : List QueuedEvent :=
  (cut I2O.endsEvent server.messageQueue).1

def eventBytes (event : QueuedEvent) : List UInt8 :=
  event.flatMap fun entry => I2O.blockData entry.1

def flagOf (entry : Option (Message (List UInt8) × Position)) (bit : Nat) : Bool :=
  entry.any fun found => found.1.errorFlag.testBit bit

/-- The flags that are specific to the start of the event, or to its end, are those of its first
block and of its last one. -/
structure CombinesFlags (event : QueuedEvent) (errorFlag : Nat) : Prop where
  common : ∀ bit, 1 ≤ bit → bit ≤ 5 → errorFlag.testBit bit =
    event.any fun entry => entry.1.errorFlag.testBit bit
  headerMissing : errorFlag.testBit 6 = flagOf event.head? 6
  endOfEventMissing : errorFlag.testBit 0 = flagOf event.getLast? 0
  trailerMissing : errorFlag.testBit 7 = flagOf event.getLast? 7

structure CarriesEvent (event : QueuedEvent) (frame : Frame) : Prop where
  payload : frame.payload = eventBytes event
  flags : CombinesFlags event frame.message.errorFlag
  packets : (frame.message.errorFlag &&& 0x0f00) >>> 8 =
    min (I2O.packets (event.map Prod.fst)) 15

structure Delivers (server after : I2O (List UInt8)) (frames : List Frame) : Prop where
  messages : List.Forall₂ CarriesEvent (queuedEvents server) frames
  count : frames.length = server.messageQueue.countP I2O.endsEvent
  left : after.isEventEndInQueue = false
  credits : server.base.sendDataOnRequestOnly = true →
    after.base.nEventCreditsHeld + frames.length = server.base.nEventCreditsHeld

def isWhole : QueuedEvent → Bool
  | [entry] => entry.2.startsEvent && entry.2.endsEvent
  | _ => false

def CopiedWhole (entry : Message (List UInt8) × Position) : Prop :=
  (I2O.blockData entry.1).length % 4 = 0 ∧ (I2O.blockData entry.1).length < 262096

def Deliverable (sending : I2O.Sending) (event : QueuedEvent) : Prop :=
  if isWhole event then frameHeader + (eventBytes event).length < word32
  else sending ≠ .noFrame ∧ (∀ entry ∈ event, CopiedWhole entry) ∧
    (I2O.packets (event.map Prod.fst) < word16 ∨
      15 ≤ I2O.packets (event.map Prod.fst) % word16)

section

variable {message : Message (List UInt8)}

lemma blockFrame_messageSize :
    (I2O.blockFrame message).messageSize =
      (48 + (I2O.blockData message).length) % 4294967296 / 4 % 65536 := rfl

lemma dataSizeInBytes_le :
    (I2O.blockFrame message).dataSizeInBytes ≤ (I2O.blockData message).length := by
  rw [Frame.dataSizeInBytes, blockFrame_messageSize, frameHeader]
  omega

lemma dataSizeInBytes_eq (position) :
    (frameHeader ≤ (I2O.blockFrame message).messageSize * 4 ∧
      (I2O.blockFrame message).dataSizeInBytes = (I2O.blockData message).length) ↔
    CopiedWhole (message, position) := by
  rw [Frame.dataSizeInBytes, blockFrame_messageSize, frameHeader]
  show _ ↔ (I2O.blockData message).length % 4 = 0 ∧ (I2O.blockData message).length < 262096
  omega

lemma blockFrame_payload :
    (I2O.blockFrame message).payload = I2O.blockData message ↔
      frameHeader + (I2O.blockData message).length < word32 := by
  have size : (I2O.blockFrame message).payload = (I2O.blockData message).take
      ((48 + (I2O.blockData message).length) % 4294967296 - 48) := rfl
  rw [size, take_eq_self_iff]
  unfold frameHeader word32
  omega

end

lemma taken_length (event : QueuedEvent) :
    ((event.map Prod.fst).flatMap fun message =>
      (I2O.blockData message).take (I2O.blockFrame message).dataSizeInBytes).length =
    ((event.map Prod.fst).map fun message => (I2O.blockFrame message).dataSizeInBytes).sum := by
  rw [length_flatMap]
  refine congrArg List.sum (map_congr_left fun message _ => ?_)
  rw [length_take, Nat.min_eq_left dataSizeInBytes_le]

lemma taken_short (event) :
    ((event.map Prod.fst).flatMap fun message =>
      (I2O.blockData message).take (I2O.blockFrame message).dataSizeInBytes).length ≤
    (eventBytes event).length := by
  induction event with
  | nil => exact Nat.le_refl _
  | cons entry rest ih =>
    have least := @dataSizeInBytes_le entry.1
    have whole : eventBytes (entry :: rest) = I2O.blockData entry.1 ++ eventBytes rest :=
      flatMap_cons
    rw [map_cons, flatMap_cons, whole, length_append, length_append,
      length_take, Nat.min_eq_left least]
    exact Nat.add_le_add least ih

lemma taken_eq (event) :
    ((event.map Prod.fst).flatMap fun message =>
      (I2O.blockData message).take (I2O.blockFrame message).dataSizeInBytes) = eventBytes event ↔
    ∀ entry ∈ event,
      (I2O.blockFrame entry.1).dataSizeInBytes = (I2O.blockData entry.1).length := by
  induction event with
  | nil => simp [eventBytes]
  | cons entry rest ih =>
    have shorter := taken_short rest
    rw [map_cons, flatMap_cons, forall_mem_cons, ← ih]
    have whole : eventBytes (entry :: rest) = I2O.blockData entry.1 ++ eventBytes rest :=
      flatMap_cons
    rw [whole]
    constructor
    · intro same
      have lengths := congrArg List.length same
      have least := @dataSizeInBytes_le entry.1
      rw [length_append, length_append, length_take] at lengths
      have size : (I2O.blockFrame entry.1).dataSizeInBytes = (I2O.blockData entry.1).length := by
        omega
      rw [size, take_length] at same
      exact ⟨size, append_cancel_left same⟩
    · rintro ⟨size, same⟩
      rw [size, take_length, same]

variable {base : Base} {frame : Frame}

lemma mergeFrames_some {messages} (merged : I2O.mergeFrames base messages = some frame) :
    (∀ message ∈ messages, frameHeader ≤ (I2O.blockFrame message).messageSize * 4) ∧
    frame.message.errorFlag = I2O.combinedErrorFlag messages ∧
    frame.dataSize = frameHeader +
      (messages.map fun message => (I2O.blockFrame message).dataSizeInBytes).sum ∧
    frame.message.datas = messages.flatMap fun message =>
      (I2O.blockData message).take (I2O.blockFrame message).dataSizeInBytes := by
  unfold I2O.mergeFrames at merged
  split at merged
  · rename_i large
    obtain rfl := Option.some.inj merged
    exact ⟨fun message inside => of_decide_eq_true (all_eq_true.mp large message inside),
      rfl, rfl, rfl⟩
  · cases merged

variable {event : QueuedEvent}

lemma mergeFrames_payload (merged : I2O.mergeFrames base (event.map Prod.fst) = some frame) :
    frame.payload = (event.map Prod.fst).flatMap fun message =>
      (I2O.blockData message).take (I2O.blockFrame message).dataSizeInBytes := by
  obtain ⟨_, _, size, datas⟩ := mergeFrames_some merged
  rw [Frame.payload, size, datas, Nat.add_sub_cancel_left, ← taken_length, take_length]

lemma combinedErrorFlag_testBit (messages : List (Message (List UInt8))) (bit) :
    (I2O.combinedErrorFlag messages).testBit bit =
      ((((((messages.any fun message => message.errorFlag.testBit bit) && (0x3e).testBit bit) ||
        ((messages.head?.any fun message => message.errorFlag.testBit bit) &&
          (0x40).testBit bit)) ||
        ((messages.getLast?.any fun message => message.errorFlag.testBit bit) &&
          (0x81).testBit bit)) ||
        (decide (8 ≤ bit) && (min (I2O.packets messages % word16) 15).testBit (bit - 8))) ||
        (decide (12 ≤ bit) && (min messages.length 15).testBit (bit - 12))) := by
  have common : ∀ (flag : Nat),
      (messages.foldl (fun flag message => flag ||| (message.errorFlag &&& 0x003e)) flag).testBit
        bit = (flag.testBit bit ||
          ((messages.any fun message => message.errorFlag.testBit bit) && (0x3e).testBit bit)) := by
    intro flag
    induction messages generalizing flag with
    | nil => simp
    | cons message rest ih =>
      rw [foldl_cons, ih, Nat.testBit_or, Nat.testBit_and, any_cons,
        Bool.and_or_distrib_right, Bool.or_assoc]
  have one : ∀ (found : Option (Message (List UInt8))) (mask : Nat),
      ((found.map fun message => message.errorFlag &&& mask).getD 0).testBit bit =
        ((found.any fun message => message.errorFlag.testBit bit) && mask.testBit bit) := by
    intro found mask
    cases found with
    | none => simp
    | some message => simp [Nat.testBit_and]
  unfold I2O.combinedErrorFlag
  rw [Nat.testBit_or, Nat.testBit_or, Nat.testBit_or, Nat.testBit_or, common, one, one,
    Nat.zero_testBit, Bool.false_or, Nat.testBit_shiftLeft, Nat.testBit_shiftLeft]

lemma testBit_small {value bit} (small : value < 16) (high : 4 ≤ bit) :
    value.testBit bit = false :=
  Nat.testBit_lt_two_pow (Nat.lt_of_lt_of_le (show value < 2 ^ 4 from small)
    (Nat.pow_le_pow_right (by decide) high))

lemma combinedErrorFlag_packets (messages : List (Message (List UInt8))) :
    (I2O.combinedErrorFlag messages &&& 0x0f00) >>> 8 =
      min (I2O.packets messages % word16) 15 := by
  apply Nat.eq_of_testBit_eq
  intro bit
  rw [Nat.testBit_shiftRight, Nat.testBit_and, combinedErrorFlag_testBit]
  have small : min (I2O.packets messages % word16) 15 < 16 := by omega
  rcases Nat.lt_or_ge bit 4 with low | high
  · have masks : (0x0f00 : Nat).testBit (8 + bit) = true ∧ (0x3e : Nat).testBit (8 + bit) = false ∧
        (0x40 : Nat).testBit (8 + bit) = false ∧ (0x81 : Nat).testBit (8 + bit) = false := by
      obtain rfl | rfl | rfl | rfl : bit = 0 ∨ bit = 1 ∨ bit = 2 ∨ bit = 3 := by omega
      all_goals decide
    obtain ⟨field, common, header, trailer⟩ := masks
    have merged : ¬ 12 ≤ 8 + bit := by omega
    rw [field, common, header, trailer, decide_eq_false merged]
    simp
  · have field : (0x0f00 : Nat).testBit (8 + bit) = false :=
      Nat.testBit_lt_two_pow (Nat.lt_of_lt_of_le (show 0x0f00 < 2 ^ 12 by decide)
        (Nat.pow_le_pow_right (by decide) (by omega)))
    rw [field, Bool.and_false, testBit_small small high]

lemma combinesFlags_merged (event) :
    CombinesFlags event (I2O.combinedErrorFlag (event.map Prod.fst)) := by
  have any : ∀ bit, ((event.map Prod.fst).any fun message => message.errorFlag.testBit bit) =
      event.any fun entry => entry.1.errorFlag.testBit bit := by
    intro bit
    rw [any_map]
    rfl
  have first : ∀ bit, ((event.map Prod.fst).head?.any fun message =>
      message.errorFlag.testBit bit) = flagOf event.head? bit := by
    intro bit
    rw [head?_map]
    cases event.head? <;> rfl
  have last : ∀ bit, ((event.map Prod.fst).getLast?.any fun message =>
      message.errorFlag.testBit bit) = flagOf event.getLast? bit := by
    intro bit
    rw [getLast?_map]
    cases event.getLast? <;> rfl
  constructor
  · intro bit least most
    have masks : (0x3e : Nat).testBit bit = true ∧ (0x40 : Nat).testBit bit = false ∧
        (0x81 : Nat).testBit bit = false := by
      obtain rfl | rfl | rfl | rfl | rfl :
        bit = 1 ∨ bit = 2 ∨ bit = 3 ∨ bit = 4 ∨ bit = 5 := by omega
      all_goals decide
    rw [combinedErrorFlag_testBit, any, masks.1, masks.2.1, masks.2.2,
      decide_eq_false (show ¬ 8 ≤ bit by omega), decide_eq_false (show ¬ 12 ≤ bit by omega)]
    simp
  · have masks : (0x3e : Nat).testBit 6 = false ∧ (0x40 : Nat).testBit 6 = true ∧
        (0x81 : Nat).testBit 6 = false := ⟨rfl, rfl, rfl⟩
    rw [combinedErrorFlag_testBit, first, masks.1, masks.2.1, masks.2.2]
    simp
  · rw [combinedErrorFlag_testBit, last]
    simp
  · have masks : (0x3e : Nat).testBit 7 = false ∧ (0x40 : Nat).testBit 7 = false ∧
        (0x81 : Nat).testBit 7 = true := ⟨rfl, rfl, rfl⟩
    rw [combinedErrorFlag_testBit, last, masks.1, masks.2.1, masks.2.2]
    simp

lemma carries_merged (merged : I2O.mergeFrames base (event.map Prod.fst) = some frame) :
    CarriesEvent event frame ↔ (∀ entry ∈ event, CopiedWhole entry) ∧
      (I2O.packets (event.map Prod.fst) < word16 ∨
        15 ≤ I2O.packets (event.map Prod.fst) % word16) := by
  obtain ⟨large, flag, _, _⟩ := mergeFrames_some merged
  have counts : min (I2O.packets (event.map Prod.fst) % word16) 15 =
      min (I2O.packets (event.map Prod.fst)) 15 ↔ I2O.packets (event.map Prod.fst) < word16 ∨
        15 ≤ I2O.packets (event.map Prod.fst) % word16 := by
    unfold word16
    omega
  have whole : frame.payload = eventBytes event ↔ ∀ entry ∈ event, CopiedWhole entry := by
    rw [mergeFrames_payload merged, taken_eq]
    refine forall₂_congr fun entry inside => ?_
    rw [← dataSizeInBytes_eq entry.2]
    exact ⟨fun size => ⟨large _ (mem_map_of_mem inside), size⟩, fun both => both.2⟩
  rw [← counts, ← whole, ← combinedErrorFlag_packets, ← flag]
  constructor
  · intro carries
    exact ⟨carries.payload, carries.packets⟩
  · rintro ⟨payload, packets⟩
    refine ⟨payload, ?_, packets⟩
    rw [flag]
    exact combinesFlags_merged event

lemma copied_of_merged (merged : I2O.mergeFrames base (event.map Prod.fst) = none) :
    ¬ ∀ entry ∈ event, CopiedWhole entry := by
  intro copied
  have large : ((event.map Prod.fst).all fun message =>
      decide (frameHeader ≤ (I2O.blockFrame message).messageSize * 4)) = true := by
    rw [List.all_map, all_eq_true]
    intro entry inside
    exact decide_eq_true ((dataSizeInBytes_eq entry.2).mpr (copied entry inside)).1
  unfold I2O.mergeFrames at merged
  rw [if_pos large] at merged
  cases merged

lemma carries_whole (base entry) :
    CarriesEvent [entry] (I2O.blockFrame (I2O.insertNumberOfCreditsHeld base entry)) ↔
      frameHeader + (eventBytes [entry]).length < word32 := by
  have data : I2O.blockData (I2O.insertNumberOfCreditsHeld base entry) = eventBytes [entry] :=
    (append_nil _).symm
  have flag : (I2O.blockFrame (I2O.insertNumberOfCreditsHeld base entry)).message.errorFlag =
      entry.1.errorFlag := rfl
  have few : (entry.1.errorFlag &&& 0x0f00) >>> 8 ≤ 15 := by
    have masked : entry.1.errorFlag &&& 0x0f00 ≤ 0x0f00 := Nat.and_le_right
    omega
  rw [← data, ← blockFrame_payload]
  constructor
  · intro carries
    rw [carries.payload, data]
  · intro payload
    refine ⟨payload.trans data, ⟨?_, ?_, ?_, ?_⟩, ?_⟩
    · intro bit _ _
      rw [flag, any_cons, any_nil, Bool.or_false]
    · rfl
    · rfl
    · rfl
    · rw [flag, map_singleton, I2O.packets, I2O.packets, Nat.add_zero, Nat.min_eq_left few]

section

variable {server : I2O (List UInt8)}

lemma startsAndEnds_isWhole (server : I2O (List UInt8)) :
    server.startsAndEnds = isWhole (throughEnd I2O.endsEvent server.messageQueue).1 := by
  unfold I2O.startsAndEnds
  cases queue : server.messageQueue with
  | nil => rfl
  | cons front rest =>
    rw [throughEnd]
    cases isEnd : I2O.endsEvent front with
    | true => rfl
    | false =>
      have goesOn : front.2.endsEvent = false := isEnd
      dsimp only
      rw [goesOn, Bool.and_false]
      cases (throughEnd I2O.endsEvent rest).1 with
      | nil =>
        show _ = (front.2.startsEvent && front.2.endsEvent)
        rw [goesOn, Bool.and_false]
      | cons next later => rfl

lemma throughEnd_whole (whole : server.startsAndEnds = true) :
    ∃ front rest, server.messageQueue = front :: rest ∧
      throughEnd I2O.endsEvent server.messageQueue = ([front], rest) := by
  unfold I2O.startsAndEnds at whole
  cases queue : server.messageQueue with
  | nil =>
    rw [queue] at whole
    cases whole
  | cons front rest =>
    rw [queue] at whole
    have isEnd : I2O.endsEvent front = true := (Bool.and_eq_true_iff.mp whole).2
    refine ⟨front, rest, rfl, ?_⟩
    rw [throughEnd, if_pos isEnd]

def afterEvent (server : I2O (List UInt8)) : I2O (List UInt8) :=
  I2O.updateCounters
    { server with messageQueue := (throughEnd I2O.endsEvent server.messageQueue).2 }

lemma sendEventFrame_turn {sending} (posts : sending ≠ .notPosted) :
    let event := (throughEnd I2O.endsEvent server.messageQueue).1
    (∃ frame, server.sendEventFrame sending = some (afterEvent server, some frame) ∧
      (CarriesEvent event frame ↔ Deliverable sending event)) ∨
    ((server.sendEventFrame sending = none ∨ server.sendEventFrame sending = some (server, none)) ∧
      ¬ Deliverable sending event) := by
  dsimp only
  unfold I2O.sendEventFrame Deliverable
  rw [← startsAndEnds_isWhole]
  by_cases whole : server.startsAndEnds = true
  · obtain ⟨front, rest, queue, split⟩ := throughEnd_whole whole
    left
    refine ⟨I2O.blockFrame (I2O.insertNumberOfCreditsHeld server.base front), ?_, ?_⟩
    · rw [if_pos whole, I2O.sendNextFrame, if_neg posts, I2O.sendNextMessageInQueue, queue,
        afterEvent, split]
      rfl
    · rw [if_pos whole, split]
      exact carries_whole server.base front
  · rw [if_neg whole, if_neg whole]
    unfold I2O.sendMergedFrame
    cases sending with
    | notPosted => exact absurd rfl posts
    | noFrame =>
      right
      exact ⟨.inr rfl, fun deliverable => deliverable.1 rfl⟩
    | posted =>
      have asked : I2O.Sending.posted ≠ .noFrame := by decide
      cases merged : I2O.mergeFrames server.base
          ((throughEnd I2O.endsEvent server.messageQueue).1.map Prod.fst) with
      | none =>
        right
        exact ⟨.inl rfl, fun deliverable => copied_of_merged merged deliverable.2.1⟩
      | some frame =>
        left
        refine ⟨frame, rfl, ?_⟩
        rw [carries_merged merged]
        exact ⟨fun carries => ⟨asked, carries⟩, fun deliverable => deliverable.2⟩

lemma queuedEvents_marked (marked : server.isEventEndInQueue = true) :
    queuedEvents server =
      (throughEnd I2O.endsEvent server.messageQueue).1 :: queuedEvents (afterEvent server) := by
  unfold queuedEvents
  rw [cut_throughEnd marked]
  rfl

lemma queuedEvents_unmarked (unmarked : server.isEventEndInQueue = false) :
    queuedEvents server = [] := by
  unfold queuedEvents
  rw [cut_unmarked unmarked]

lemma turns_cons {later} {sending : Nat → I2O.Sending} :
    (∀ turn found, (event :: later)[turn]? = some found → Deliverable (sending turn) found) ↔
      Deliverable (sending 0) event ∧
      ∀ turn found, later[turn]? = some found → Deliverable (sending (turn + 1)) found := by
  constructor
  · intro all
    exact ⟨all 0 event rfl, fun turn found here => all (turn + 1) found here⟩
  · rintro ⟨first, rest⟩ turn found here
    cases turn with
    | zero =>
      cases here
      exact first
    | succ turn => exact rest turn found here

lemma sendFramesFrom_messages (turns sending) (posts : ∀ turn, sending turn ≠ .notPosted) (server)
    (enough : server.messageQueue.length ≤ turns) :
    (∃ after frames, I2O.sendFramesFrom turns sending server = some (after, frames) ∧
      List.Forall₂ CarriesEvent (queuedEvents server) frames ∧
      after.isEventEndInQueue = false) ↔
    ∀ turn event, (queuedEvents server)[turn]? = some event →
      Deliverable (sending turn) event := by
  induction turns generalizing server sending with
  | zero =>
    have empty : server.messageQueue = [] := length_eq_zero_iff.mp (Nat.le_zero.mp enough)
    have unmarked : server.isEventEndInQueue = false := by
      rw [I2O.isEventEndInQueue, empty]
      rfl
    rw [queuedEvents_unmarked unmarked]
    exact ⟨fun _ turn event here => absurd here (Option.some_ne_none event).symm,
      fun _ => ⟨server, [], rfl, List.Forall₂.nil, unmarked⟩⟩
  | succ turns ih =>
    unfold I2O.sendFramesFrom
    by_cases marked : server.isEventEndInQueue = true
    · have shorter : (afterEvent server).messageQueue.length ≤ turns :=
        Nat.le_of_lt_succ (Nat.lt_of_lt_of_le (throughEnd_length marked) enough)
      have later := ih (fun turn => sending (turn + 1)) (fun turn => posts (turn + 1))
        (afterEvent server) shorter
      rw [if_pos marked, queuedEvents_marked marked, turns_cons, ← later]
      rcases @sendEventFrame_turn server (sending 0) (posts 0) with
        ⟨frame, sent, carries⟩ | ⟨stopped, undeliverable⟩
      · rw [sent, ← carries]
        constructor
        · rintro ⟨after, frames, run, messages, left⟩
          obtain ⟨⟨last, rest⟩, ran, together⟩ := Option.map_eq_some_iff.mp run
          cases together
          cases messages with
          | cons first messages => exact ⟨first, _, rest, ran, messages, left⟩
        · rintro ⟨first, after, rest, run, messages, left⟩
          refine ⟨after, frame :: rest, ?_, List.Forall₂.cons first messages, left⟩
          dsimp only
          rw [run]
          rfl
      · refine iff_of_false ?_ fun delivered => undeliverable delivered.1
        rintro ⟨after, frames, run, messages, left⟩
        rcases stopped with stopped | stopped
        · rw [stopped] at run
          cases run
        · rw [stopped] at run
          cases run
          cases messages
    · have unmarked : server.isEventEndInQueue = false := by simpa using marked
      rw [if_neg marked, queuedEvents_unmarked unmarked]
      exact ⟨fun _ turn event here => absurd here (Option.some_ne_none event).symm,
        fun _ => ⟨server, [], rfl, List.Forall₂.nil, unmarked⟩⟩

lemma sendFramesFrom_credits (turns sending) (posts : ∀ turn, sending turn ≠ .notPosted)
    (server after frames) (run : I2O.sendFramesFrom turns sending server = some (after, frames)) :
    after.base.nEventCreditsHeld = server.base.nEventCreditsHeld - frames.length := by
  induction turns generalizing server sending frames with
  | zero =>
    cases run
    rfl
  | succ turns ih =>
    unfold I2O.sendFramesFrom at run
    by_cases marked : server.isEventEndInQueue = true
    · rw [if_pos marked] at run
      rcases @sendEventFrame_turn server (sending 0) (posts 0) with
        ⟨frame, sent, _⟩ | ⟨stopped | stopped, _⟩
      · rw [sent] at run
        obtain ⟨⟨last, rest⟩, ran, together⟩ := Option.map_eq_some_iff.mp run
        cases together
        have later := ih (fun turn => sending (turn + 1)) (fun turn => posts (turn + 1))
          (afterEvent server) rest ran
        have spent : (afterEvent server).base.nEventCreditsHeld =
            server.base.nEventCreditsHeld - 1 := rfl
        dsimp only
        rw [later, length_cons]
        omega
      · rw [stopped] at run
        cases run
      · rw [stopped] at run
        cases run
        rfl
    · rw [if_neg marked] at run
      cases run
      rfl

end

/-- Where no post fails, the messages are those of the events in the queue exactly where each of
them comes out right, and there is a credit for each. -/
theorem sendData_delivers (server : I2O (List UInt8)) (sending : Nat → I2O.Sending)
    (posts : ∀ turn, sending turn ≠ .notPosted) :
    (∃ after frames, server.sendFrames sending = some (after, frames) ∧
      Delivers server after frames) ↔
    (∀ turn event, (queuedEvents server)[turn]? = some event →
      Deliverable (sending turn) event) ∧
    (server.base.sendDataOnRequestOnly = true →
      (queuedEvents server).length ≤ server.base.nEventCreditsHeld) := by
  rw [← sendFramesFrom_messages _ sending posts server (Nat.le_refl _)]
  constructor
  · rintro ⟨after, frames, run, delivers⟩
    refine ⟨⟨after, frames, run, delivers.messages, delivers.left⟩, fun onRequest => ?_⟩
    have spent := delivers.credits onRequest
    rw [delivers.messages.length_eq]
    omega
  · rintro ⟨⟨after, frames, run, messages, left⟩, held⟩
    refine ⟨after, frames, run, messages, ?_, left, fun onRequest => ?_⟩
    · rw [← messages.length_eq]
      exact cut_groups server.messageQueue
    · have enough := held onRequest
      have spent := sendFramesFrom_credits _ sending posts server after frames run
      rw [messages.length_eq] at enough
      omega

def twoBlockEvent (first second : List UInt8) : I2O (List UInt8) where
  base := ⟨1, true, 1⟩
  messageQueue := [(⟨7, 0, 0, 0x0100, [first]⟩, ⟨true, false⟩),
    (⟨7, 0, 0, 0x0200, [second]⟩, ⟨false, true⟩)]
  nEventsInQueue := 1

lemma twoBlockEvent_events (first second) :
    queuedEvents (twoBlockEvent first second) = [(twoBlockEvent first second).messageQueue] := rfl

theorem sendData_delivers_fullWords :
    ∃ after frames, (twoBlockEvent [1, 2, 3, 4] [5, 6, 7, 8]).sendFrames (fun _ => .posted) =
        some (after, frames) ∧
      Delivers (twoBlockEvent [1, 2, 3, 4] [5, 6, 7, 8]) after frames := by
  refine (sendData_delivers _ (fun _ => .posted) fun _ posted => by cases posted).mpr ⟨?_, ?_⟩
  · intro turn event here
    cases turn with
    | succ turn => cases here
    | zero =>
      cases here
      refine ⟨by decide, ?_, .inl (by decide)⟩
      intro entry inside
      rcases mem_cons.mp inside with rfl | inside
      · exact ⟨by decide, by decide⟩
      · rw [mem_singleton.mp inside]
        exact ⟨by decide, by decide⟩
  · decide

theorem sendData_cutShort : ¬ ∀ server : I2O (List UInt8), ∃ after frames,
    server.sendFrames (fun _ => .posted) = some (after, frames) ∧ Delivers server after frames := by
  intro delivers
  obtain ⟨after, frames, run, delivered⟩ := delivers (twoBlockEvent [1, 2, 3] [5, 6, 7, 8])
  have deliverable := (sendFramesFrom_messages _ (fun _ => .posted)
    (fun _ posted => by cases posted) _ (Nat.le_refl _)).mp
      ⟨after, frames, run, delivered.messages, delivered.left⟩ 0 _ rfl
  have fullWords := (deliverable.2.1 _ mem_cons_self).1
  exact absurd fullWords (by decide)

end EmuLib.Server
