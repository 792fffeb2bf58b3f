import EmuLib.Lib.GuardedRun
import EmuLib.Server.Outbox

/-!
The counter of complete events in the queue of an I2O server, and the credits that are spent on
the messages.
-/

namespace EmuLib.Server.I2O

open EndMarks GuardedRun List Option
open Rui (Position)

variable {Data : Type*}

inductive Request (Data : Type*)
  | addData (block : Block Data) (resources : Resources)
  | makeLastBlockEndEvent
  | addCredits (nCredits prescaling : Int)
  | sendData (sending : Nat → Sending)

def serve (server : I2O Data) : Request Data → I2O Data × List (Message Data)
  | .addData block resources => (server.addData block resources, [])
  | .makeLastBlockEndEvent => (server.makeLastBlockEndEvent, [])
  | .addCredits nCredits prescaling =>
    ({ server with base := server.base.addCredits nCredits prescaling }, [])
  | .sendData sending => server.sendData sending

def afterRequest (server : I2O Data) (request : Request Data) : I2O Data := (server.serve request).1

def nEventEnds (queue : List (Message Data × Position)) : Nat := queue.countP endsEvent

def Counted (server : I2O Data) : Prop := server.nEventsInQueue = nEventEnds server.messageQueue

def lastEndsEvent (queue : List (Message Data × Position)) : Bool :=
  match queue.getLast? with
  | none => false
  | some last => last.2.endsEvent

def frontIsWhole : List (Message Data × Position) → Bool
  | [] => false
  | front :: _ => front.2.startsEvent && front.2.endsEvent

/-- In so many turns of `sendData`, no message of an event that had to be merged fails to be
posted. -/
def MergesPosted : Nat → (Nat → Sending) → List (Message Data × Position) → Prop
  | 0, _, _ => True
  | turns + 1, sending, queue =>
    queue.any endsEvent = true →
      (frontIsWhole queue = false → sending 0 ≠ .notPosted) ∧
      (sending 0 = .posted →
        MergesPosted turns (fun turn => sending (turn + 1)) (throughEnd endsEvent queue).2)

/-- A block that ends an event finds room in the 32 bits of the counter; no block is made to end
an event that has ended it already; and no merged message fails to be posted. -/
def CountsRight (server : I2O Data) : Request Data → Prop
  | .addData block resources =>
    server.isToBeSent block resources = true → resources.frame = true →
      block.position.endsEvent = true → server.nEventsInQueue + 1 < word32
  | .makeLastBlockEndEvent =>
    server.messageQueue ≠ [] →
      lastEndsEvent server.messageQueue = false ∧ server.nEventsInQueue + 1 < word32
  | .addCredits _ _ => True
  | .sendData sending => MergesPosted server.messageQueue.length sending server.messageQueue

lemma counted_raised {count} : (count + 1) % word32 = count + 1 ↔ count + 1 < word32 := by
  have positive : 0 < word32 := by decide
  constructor
  · intro same
    rw [← same]
    exact Nat.mod_lt _ positive
  · exact Nat.mod_eq_of_lt

variable {server : I2O Data}

lemma counted_addData (counted : server.Counted) (block resources) :
    (server.addData block resources).Counted ↔
      CountsRight server (.addData block resources) := by
  have counted' : server.nEventsInQueue = server.messageQueue.countP endsEvent := counted
  simp only [addData, CountsRight]
  cases toBeSent : server.isToBeSent block resources with
  | false => simp [counted]
  | true =>
    cases frame : resources.frame with
    | false => simp [counted]
    | true =>
      cases isEnd : block.position.endsEvent with
      | false => simp [Counted, createMessage, nEventEnds, endsEvent, isEnd, counted']
      | true =>
        simp only [forall_const, ← counted_raised]
        simp [Counted, createMessage, nEventEnds, endsEvent, isEnd, counted']

lemma nEventEnds_markEnd (queue : List (Message Data × Position)) (some : queue ≠ []) :
    nEventEnds (markEnd queue) =
      if lastEndsEvent queue then nEventEnds queue else nEventEnds queue + 1 := by
  obtain ⟨earlier, last, rfl⟩ := eq_nil_or_concat queue |>.resolve_left some
  simp only [concat_eq_append, markEnd_snoc, lastEndsEvent, getLast?_concat]
  cases isEnd : last.2.endsEvent <;> simp [nEventEnds, endsEvent, isEnd]

lemma counted_makeLastBlockEndEvent (counted : server.Counted) :
    server.makeLastBlockEndEvent.Counted ↔ CountsRight server .makeLastBlockEndEvent := by
  simp only [makeLastBlockEndEvent, CountsRight]
  by_cases empty : server.messageQueue = []
  · simp [empty, counted]
  · simp only [empty, if_false, ne_eq, not_false_iff, forall_const]
    have marked := nEventEnds_markEnd server.messageQueue empty
    rw [← counted] at marked
    simp only [Counted, marked]
    cases marks : lastEndsEvent server.messageQueue with
    | false => simp [counted_raised]
    | true =>
      simp only [if_true, Bool.true_eq_false, false_and, iff_false]
      rw [show word32 = 4294967296 from rfl]
      omega

lemma sendEvent_cases (server : I2O Data) (sending) :
    (sending = .posted ∧ ∃ message, (server.sendEvent sending).2 = some message ∧
      (server.sendEvent sending).1 =
        updateCounters { server with messageQueue := (throughEnd endsEvent server.messageQueue).2 }) ∨
    (sending = .notPosted ∧ frontIsWhole server.messageQueue = false ∧
      server.sendEvent sending =
        ({ server with messageQueue := (throughEnd endsEvent server.messageQueue).2 }, none)) ∨
    (sending ≠ .posted ∧ (frontIsWhole server.messageQueue = false → sending ≠ .notPosted) ∧
      (server.sendEvent sending).2 = none ∧
      nEventEnds (server.sendEvent sending).1.messageQueue = nEventEnds server.messageQueue ∧
      (server.sendEvent sending).1.nEventsInQueue = server.nEventsInQueue) := by
  have same : server.startsAndEnds = frontIsWhole server.messageQueue := by
    unfold startsAndEnds frontIsWhole
    cases server.messageQueue <;> rfl
  unfold sendEvent
  rw [same]
  cases whole : frontIsWhole server.messageQueue with
  | false =>
    simp only [Bool.false_eq_true, if_false, forall_const]
    cases sending with
    | posted => exact .inl ⟨rfl, _, rfl, rfl⟩
    | notPosted => exact .inr (Or.inl ⟨rfl, trivial, rfl⟩)
    | noFrame => exact .inr (Or.inr ⟨by decide, by decide, rfl, rfl, rfl⟩)
  | true =>
    unfold sendNextMessageInQueue
    cases queue : server.messageQueue with
    | nil =>
      rw [queue] at whole
      cases whole
    | cons front rest =>
      rw [queue] at whole
      have isEnd : endsEvent front = true := (Bool.and_eq_true_iff.mp whole).2
      simp only [throughEnd, isEnd, if_true]
      have stays : nEventEnds ((insertNumberOfCreditsHeld server.base front, front.2) :: rest) =
          nEventEnds (front :: rest) := by
        rfl
      cases sending with
      | posted => exact .inl ⟨rfl, _, rfl, rfl⟩
      | notPosted => exact .inr (Or.inr ⟨by decide, by simp, rfl, stays, rfl⟩)
      | noFrame => exact .inr (Or.inr ⟨by decide, by simp, rfl, stays, rfl⟩)

lemma counted_sendFrom (turns sending)
    (counted : server.Counted) : (sendFrom turns sending server).1.Counted ↔
      MergesPosted turns sending server.messageQueue := by
  induction turns generalizing server sending with
  | zero => simp [sendFrom, MergesPosted, counted]
  | succ turns ih =>
    unfold sendFrom MergesPosted
    by_cases marked : server.isEventEndInQueue = true
    · have ends : server.messageQueue.any endsEvent = true := marked
      have fewer := throughEnd_count ends
      have sofar : server.nEventsInQueue = server.messageQueue.countP endsEvent := counted
      simp only [marked, ends, if_true, forall_const]
      rcases sendEvent_cases server (sending 0) with
        ⟨posted, message, hands, sent⟩ | ⟨notPosted, merged, lost⟩ | ⟨unposted, fine, kept⟩
      · -- one event less in the queue, and one less in the counter
        have later : (server.sendEvent (sending 0)).1.Counted := by
          rw [sent]
          simp only [Counted, updateCounters, nEventEnds]
          omega
        have rest := ih (fun turn => sending (turn + 1)) later
        rw [show server.sendEvent (sending 0) = ((server.sendEvent (sending 0)).1, some message)
          from Prod.ext rfl hands]
        rw [rest, sent]
        simp [posted, updateCounters]
      · rw [lost]
        simp only [merged, notPosted, forall_const, ne_eq, not_true_eq_false, false_and, iff_false]
        simp only [Counted, nEventEnds]
        omega
      · obtain ⟨none, ends, count⟩ := kept
        rw [show server.sendEvent (sending 0) = ((server.sendEvent (sending 0)).1, Option.none)
          from Prod.ext rfl none]
        have still : (server.sendEvent (sending 0)).1.Counted := by
          unfold Counted
          rw [ends, count]
          exact counted
        simp only [still, true_iff]
        exact ⟨fine, fun posted => absurd posted unposted⟩
    · have ends : server.messageQueue.any endsEvent ≠ true := marked
      simp [marked, ends, counted]

lemma counted_iff (server : I2O Data) (request) (counted : server.Counted) :
    (server.afterRequest request).Counted ↔ CountsRight server request := by
  cases request with
  | addData block resources => exact counted_addData counted block resources
  | makeLastBlockEndEvent => exact counted_makeLastBlockEndEvent counted
  | addCredits nCredits prescaling =>
    simp only [CountsRight, iff_true]
    exact counted
  | sendData sending => exact counted_sendFrom _ sending counted

/-- The counter is the number of blocks in the queue that end an event, after every request of
those runs in which all requests count right, and of no others. -/
theorem nEventsInQueue_counted (base : Base) (requests : List (Request Data)) :
    (∀ earlier, earlier <+: requests →
      (runFrom afterRequest (created base : I2O Data) earlier).Counted) ↔
      Guarded afterRequest CountsRight (created base) requests := by
  apply always_iff_guarded counted_iff
  rfl

def asked : Base := ⟨1, true, 2⟩

def blockAt (startsEvent endsEvent : Bool) : Block Unit := ⟨1, 0, 1, ⟨startsEvent, endsEvent⟩, 0, ()⟩

def ample : Resources := ⟨false, true, true, true⟩

/-- A block that ends its event is made the end of it again; and the message of an event of two
blocks fails to be posted. -/
theorem event_counted_twice :
    ¬ (runFrom afterRequest (created asked)
      [.addData (blockAt true true) ample, .makeLastBlockEndEvent]).Counted ∧
    ¬ (runFrom afterRequest (created asked) [.addData (blockAt true false) ample,
      .addData (blockAt false true) ample, .sendData fun _ => .notPosted]).Counted := by
  unfold Counted
  constructor <;> decide

structure Account (Data : Type*) where
  server : I2O Data
  granted : Int
  posted : Nat

namespace Account

def opened (base : Base) : Account Data := ⟨created base, base.nEventCreditsHeld, 0⟩

def grantedBy : Request Data → Int
  | .addCredits nCredits _ => nCredits
  | .addData _ _ => 0
  | .makeLastBlockEndEvent => 0
  | .sendData _ => 0

def step (account : Account Data) (request : Request Data) : Account Data where
  server := (account.server.serve request).1
  granted := account.granted + grantedBy request
  posted := account.posted + (account.server.serve request).2.length

def Moderate (account : Account Data) : Request Data → Prop
  | .addCredits nCredits _ => 0 ≤ nCredits
  | .addData block resources =>
    account.server.isToBeSent block resources = true → resources.frame = true →
      block.position.endsEvent = true → account.server.nEventsInQueue + 1 < word32
  | .makeLastBlockEndEvent =>
    account.server.messageQueue ≠ [] → account.server.nEventsInQueue + 1 < word32
  | .sendData _ => True

end Account

def due (outbox : Outbox Data) : Nat :=
  outbox.closed.length + if outbox.opened = [] then 0 else 1

structure Covered (account : Account Data) : Prop where
  onRequest : account.server.base.sendDataOnRequestOnly = true
  sound : account.server.Sound
  held : account.posted + account.server.base.nEventCreditsHeld ≤ account.granted
  due : account.posted + due account.server.outbox ≤ account.granted

lemma covered_opened (base) (onRequest : base.sendDataOnRequestOnly = true) :
    Covered (Account.opened base : Account Data) := by
  constructor
  · exact onRequest
  · exact sound_created base
  · simp [Account.opened, created]
  · simp [Account.opened, created, outbox, outboxOf, due]

lemma due_add (outbox : Outbox Data) (data endsEvent) :
    due (outbox.add data endsEvent) = outbox.closed.length + 1 := by
  unfold due Outbox.add
  cases endsEvent <;> simp

lemma due_close (outbox : Outbox Data) : due outbox.close = due outbox := by
  unfold due Outbox.close
  by_cases empty : outbox.opened = []
  · simp [empty]
  · simp [empty]

variable {account : Account Data}

lemma covered_addData (covered : Covered account) (block resources)
    (moderate : account.Moderate (.addData block resources)) :
    Covered (account.step (.addData block resources)) := by
  have frame := addData_frame account.server block resources
  have queue := addData_outbox account.server block resources
  have held := covered.held
  have dueBefore := covered.due
  have step : account.step (.addData block resources) =
      ⟨account.server.addData block resources, account.granted, account.posted⟩ := by
    simp [Account.step, Account.grantedBy, serve]
  rw [step]
  constructor
  · exact (congrArg Base.sendDataOnRequestOnly frame.1).trans covered.onRequest
  · exact sound_addData covered.sound block resources moderate
  · rw [frame.1]
    exact held
  · dsimp only
    rw [queue]
    split
    · rename_i taken
      rw [due_add]
      have toBeSent := (Bool.and_eq_true_iff.mp taken).1
      simp only [isToBeSent, covered.onRequest, if_true, Bool.and_eq_true,
        decide_eq_true_eq] at toBeSent
      have counted := covered.sound.counted
      omega
    · exact dueBefore

lemma covered_makeLastBlockEndEvent (covered : Covered account)
    (moderate : account.Moderate .makeLastBlockEndEvent) :
    Covered (account.step .makeLastBlockEndEvent) := by
  have queue := makeLastBlockEndEvent_outbox covered.sound
  have base : account.server.makeLastBlockEndEvent.base = account.server.base := by
    unfold makeLastBlockEndEvent
    split <;> rfl
  have step : account.step .makeLastBlockEndEvent =
      ⟨account.server.makeLastBlockEndEvent, account.granted, account.posted⟩ := by
    simp [Account.step, Account.grantedBy, serve]
  rw [step]
  constructor
  · exact (congrArg Base.sendDataOnRequestOnly base).trans covered.onRequest
  · exact sound_makeLastBlockEndEvent covered.sound moderate
  · rw [base]
    exact covered.held
  · rw [queue, due_close]
    exact covered.due

lemma covered_addCredits (covered : Covered account) (nCredits prescaling)
    (moderate : 0 ≤ nCredits) : Covered (account.step (.addCredits nCredits prescaling)) := by
  have held := covered.held
  have dueBefore := covered.due
  have step : account.step (.addCredits nCredits prescaling) =
      ⟨{ account.server with base := account.server.base.addCredits nCredits prescaling },
        account.granted + nCredits, account.posted⟩ := by
    simp [Account.step, Account.grantedBy, serve]
  rw [step]
  constructor
  · exact covered.onRequest
  · exact ⟨covered.sound.carries, covered.sound.counted⟩
  · -- the sum of the credits may run over its 64 bits, but that only takes credits away
    simp only [Base.addCredits, word64]
    omega
  · dsimp only
    rw [show ({ account.server with base :=
      account.server.base.addCredits nCredits prescaling } : I2O Data).outbox =
        account.server.outbox from rfl]
    omega

lemma covered_turn (covered : Covered account) {after message} (turn : Turn account.server after message)
    (carries : ∀ entry ∈ after.messageQueue, entry.1.datas ≠ []) :
    Covered ⟨after, account.granted, account.posted + message.toList.length⟩ := by
  have held := covered.held
  have dueBefore := covered.due
  have counted := turn.counted covered.sound.counted
  cases turn with
  | kept outbox base count =>
    constructor
    · exact (congrArg Base.sendDataOnRequestOnly base).trans covered.onRequest
    · exact ⟨carries, counted⟩
    · simpa [base] using held
    · simpa [outbox] using dueBefore
  | lost group outbox base count =>
    rw [outbox] at dueBefore
    simp only [due, length_cons] at dueBefore
    constructor
    · exact (congrArg Base.sendDataOnRequestOnly base).trans covered.onRequest
    · exact ⟨carries, counted⟩
    · simpa [base] using held
    · simp only [toList_none, length_nil, Nat.add_zero, due]
      omega
  | handed message outbox base count =>
    rw [outbox] at dueBefore
    simp only [due, length_cons] at dueBefore
    constructor
    · rw [base]
      exact covered.onRequest
    · exact ⟨carries, counted⟩
    · -- without a credit left, it is the event that had been granted
      simp only [base, Base.spendCredit, toList_some, length_singleton]
      omega
    · simp only [toList_some, length_singleton, due]
      omega

lemma covered_sendFrom (turns sending) (covered : Covered account) :
    Covered ⟨(sendFrom turns sending account.server).1, account.granted,
      account.posted + (sendFrom turns sending account.server).2.length⟩ := by
  induction turns generalizing account sending with
  | zero => exact covered
  | succ turns ih =>
    unfold sendFrom
    by_cases marked : account.server.isEventEndInQueue = true
    · rw [if_pos marked]
      have turn := sendEvent_turn marked (sending 0)
      have carries := sendEvent_carries covered.sound.carries (sending 0)
      cases sends : account.server.sendEvent (sending 0) with | mk sent message
      rw [sends] at turn carries
      have covers := covered_turn covered turn carries
      cases message with
      | none => exact covers
      | some message =>
        have later := ih (fun turn => sending (turn + 1)) covers
        have sum : ∀ {more : Nat}, account.posted + 1 + more = account.posted + (more + 1) := by
          omega
        simp only [toList_some, length_singleton] at later
        rw [sum] at later
        exact later
    · rw [if_neg marked]
      exact covered

lemma covered_step (account : Account Data) (request) (covered : Covered account)
    (moderate : account.Moderate request) : Covered (account.step request) := by
  cases request with
  | addData block resources => exact covered_addData covered block resources moderate
  | makeLastBlockEndEvent => exact covered_makeLastBlockEndEvent covered moderate
  | addCredits nCredits prescaling => exact covered_addCredits covered nCredits prescaling moderate
  | sendData sending =>
    have sent := covered_sendFrom account.server.messageQueue.length sending covered
    have step : account.step (.sendData sending) =
        ⟨(account.server.sendData sending).1, account.granted,
          account.posted + (account.server.sendData sending).2.length⟩ := by
      simp [Account.step, Account.grantedBy, serve]
    rw [step]
    exact sent

/-- Of a server that sends on request only, no more messages are posted than credits have been
granted. -/
theorem posted_le_granted (base : Base) (onRequest : base.sendDataOnRequestOnly = true)
    (requests : List (Request Data))
    (moderate : Guarded Account.step Account.Moderate (.opened base) requests) :
    (runFrom Account.step (.opened base) requests).posted ≤
      (runFrom Account.step (.opened base : Account Data) requests).granted := by
  have covered : Covered (runFrom Account.step (.opened base : Account Data) requests) :=
    run_invariant covered_step (covered_opened base onRequest) moderate
  have held := covered.held
  omega

/-- A client that holds one credit to begin with, and is granted another one when the first
event has been posted. -/
theorem posted_le_granted_twoEvents :
    (runFrom Account.step (.opened ⟨1, true, 1⟩) [.addData (blockAt true false) ample,
      .addData (blockAt false false) ample, .makeLastBlockEndEvent, .sendData fun _ => .posted,
      .addCredits 1 1, .addData (blockAt true true) ample, .sendData fun _ => .posted]).posted ≤
    (runFrom Account.step (.opened ⟨1, true, 1⟩) [.addData (blockAt true false) ample,
      .addData (blockAt false false) ample, .makeLastBlockEndEvent, .sendData fun _ => .posted,
      .addCredits 1 1, .addData (blockAt true true) ample,
      .sendData fun _ => .posted] : Account Unit).granted := by
  refine posted_le_granted ⟨1, true, 1⟩ rfl _ ?_
  simp only [guarded_cons, guarded_nil, Account.Moderate, and_true]
  decide

/-- While one event is kept in the queue, every call marks its last block again and counts it. -/
lemma marked_again {base entry} (isEnd : entry.2.endsEvent = true) {count}
    (below : count < word32) (granted posted times) :
    runFrom Account.step (⟨⟨base, [entry], count⟩, granted, posted⟩ : Account Data)
        (replicate times .makeLastBlockEndEvent) =
      ⟨⟨base, [entry], (count + times) % word32⟩, granted, posted⟩ := by
  have positive : 0 < word32 := by decide
  induction times generalizing count with
  | zero => simp [Nat.mod_eq_of_lt below]
  | succ times ih =>
    have marked : (entry.1, { entry.2 with endsEvent := true }) = entry := by
      rw [← isEnd]
    have once : Account.step (⟨⟨base, [entry], count⟩, granted, posted⟩ : Account Data)
        .makeLastBlockEndEvent =
          ⟨⟨base, [entry], (count + 1) % word32⟩, granted, posted⟩ := by
      simp [Account.step, Account.grantedBy, serve, makeLastBlockEndEvent, markEnd, marked]
    rw [replicate_succ, runFrom_cons, once, ih (Nat.mod_lt _ positive)]
    have sum : ((count + 1) % word32 + times) % word32 = (count + (times + 1)) % word32 := by
      rw [Nat.mod_add_mod]
      congr 1
      omega
    rw [sum]

/-- Until the counter of events has run over to zero, and the next event finds the credit that the
first one is to be sent for. -/
def overrun : List (Request Unit) :=
  [.addData (blockAt true true) ample] ++
    (List.replicate (word32 - 1) .makeLastBlockEndEvent ++
      [.addData (blockAt true true) ample, .sendData fun _ => .posted])

theorem posted_beyond_credits :
    (runFrom Account.step (.opened ⟨1, true, 1⟩) overrun).granted = 1 ∧
      (runFrom Account.step (.opened ⟨1, true, 1⟩) overrun).posted = 2 := by
  have first : runFrom Account.step (.opened ⟨1, true, 1⟩) [.addData (blockAt true true) ample] =
      ⟨⟨⟨1, true, 1⟩, [(⟨1, 0, 0, 0, [()]⟩, ⟨true, true⟩)], 1⟩, 1, 0⟩ := by rfl
  have wraps : (1 + (word32 - 1)) % word32 = 0 := by decide
  have again : runFrom Account.step (⟨⟨⟨1, true, 1⟩, [(⟨1, 0, 0, 0, [()]⟩, ⟨true, true⟩)], 1⟩, 1,
      0⟩ : Account Unit) (List.replicate (word32 - 1) .makeLastBlockEndEvent) =
        ⟨⟨⟨1, true, 1⟩, [(⟨1, 0, 0, 0, [()]⟩, ⟨true, true⟩)], 0⟩, 1, 0⟩ := by
    rw [marked_again rfl (by decide), wraps]
  have run : runFrom Account.step (.opened ⟨1, true, 1⟩) overrun =
      runFrom Account.step (⟨⟨⟨1, true, 1⟩, [(⟨1, 0, 0, 0, [()]⟩, ⟨true, true⟩)], 0⟩, 1, 0⟩ :
        Account Unit) [.addData (blockAt true true) ample, .sendData fun _ => .posted] := by
    rw [overrun, runFrom_append, runFrom_append, first, again]
  rw [run]
  constructor <;> rfl

def added : Request Data → List Data
  | .addData block _ => [block.data]
  | _ => []

lemma sendEvent_datas (server : I2O Data) (sending) :
    (server.sendEvent sending).2.toList.flatMap Message.datas ++
      datasOf (server.sendEvent sending).1.messageQueue <+ datasOf server.messageQueue := by
  unfold sendEvent
  split
  · unfold sendNextMessageInQueue
    cases queue : server.messageQueue with
    | nil => simp [queue]
    | cons front rest =>
      have kept : (insertNumberOfCreditsHeld server.base front).datas = front.1.datas := rfl
      cases sending <;> simp [datasOf, updateCounters, kept]
  · have whole := @throughEnd_append _ endsEvent server.messageQueue
    have all : datasOf server.messageQueue = datasOf (throughEnd endsEvent server.messageQueue).1 ++
        datasOf (throughEnd endsEvent server.messageQueue).2 := by
      rw [← datasOf_append, whole]
    cases sending with
    | posted =>
      rw [all]
      simp [sendMergedEventMessage, updateCounters, merge_datas]
    | notPosted =>
      rw [all]
      exact sublist_append_right ..
    | noFrame => exact Sublist.refl _

lemma sendFrom_datas (turns sending) (server : I2O Data) :
    (sendFrom turns sending server).2.flatMap Message.datas ++
      datasOf (sendFrom turns sending server).1.messageQueue <+ datasOf server.messageQueue := by
  induction turns generalizing sending server with
  | zero => exact Sublist.refl _
  | succ turns ih =>
    rw [sendFrom]
    split
    · have event := sendEvent_datas server (sending 0)
      split
      · next sent none_ =>
        rw [none_] at event
        exact event
      · next sent message some_ =>
        rw [some_] at event
        have later := (ih (fun turn => sending (turn + 1)) sent).append_left message.datas
        simp only [flatMap_cons, append_assoc]
        refine later.trans ?_
        simpa using event
    · exact Sublist.refl _

lemma datasOf_markEnd (queue : List (Message Data × Position)) :
    datasOf (markEnd queue) = datasOf queue := by
  rcases eq_nil_or_concat queue with rfl | ⟨earlier, last, rfl⟩
  · rfl
  · rw [concat_eq_append, markEnd_snoc, datasOf_append, datasOf_append]
    rfl

lemma serve_datas (server : I2O Data) (request) :
    (server.serve request).2.flatMap Message.datas ++
        datasOf (server.serve request).1.messageQueue <+
      datasOf server.messageQueue ++ added request := by
  cases request with
  | addData block resources =>
    simp only [serve, addData]
    split
    · simp [createMessage, fillBlock, added]
    · simp [added]
  | makeLastBlockEndEvent =>
    simp only [serve, makeLastBlockEndEvent]
    split
    · simp
    · simp [datasOf_markEnd]
  | addCredits nCredits prescaling => simp [serve]
  | sendData sending => exact (sendFrom_datas ..).trans (sublist_append_left ..)

lemma run_datas (server : I2O Data) (requests) :
    (outputs afterRequest (fun server request => (server.serve request).2) server
        requests).flatMap Message.datas ++
        datasOf (runFrom afterRequest server requests).messageQueue <+
      datasOf server.messageQueue ++ requests.flatMap added := by
  induction requests generalizing server with
  | nil => simp [outputs]
  | cons request rest ih =>
    have later := (ih (server.afterRequest request)).append_left
      ((server.serve request).2.flatMap Message.datas)
    have first := (serve_datas server request).append_right (rest.flatMap added)
    simp only [outputs, flatMap_append, flatMap_cons, runFrom_cons, append_assoc] at later first ⊢
    exact later.trans first

/-- What has been posted, and then what is still in the queue, are blocks that were added, each at
most once and in their order, whatever fails to be posted. -/
theorem posted_in_order (base : Base) (requests : List (Request Data)) :
    (outputs afterRequest (fun server request => (server.serve request).2) (created base)
        requests).flatMap Message.datas ++
        datasOf (runFrom afterRequest (created base) requests).messageQueue <+
      requests.flatMap added :=
  run_datas (created base) requests

end EmuLib.Server.I2O
