import EmuLib.Reader.Spy

/-!
Events with missing packets: `readDDU` returns nothing of them from the packet on that tells so.
-/

namespace EmuLib.Reader

open GuardedRun RingCursor Driver List

structure TurnRecord where
  took : Option PacketNote
  resynchronized : Bool
  returned : Option Result

structure ReaderRun where
  spy : Spy
  /-- The latest turn comes first. -/
  records : List TurnRecord

def Turn.overwritten (taken : Turn) : Bool :=
  taken.call.status.loopOverwrite || taken.call.status.bufferOverwrite

def turnRecord (shared : Shared) (spy : Spy) : TurnRecord :=
  let taken := turn shared spy
  ⟨taken.took, taken.overwritten,
    if taken.returns then some (result shared taken.spy taken.call) else none⟩

def ReaderRun.step (run : ReaderRun) (shared : Shared) : ReaderRun :=
  ⟨(turn shared run.spy).spyAfter, turnRecord shared run.spy :: run.records⟩

def Spy.openedAt (cursor : Cursor) : Spy :=
  ⟨cursor.buf, cursor.ring, cursor.lap, 0, false, none⟩

def ReaderRun.openedAt (cursor : Cursor) : ReaderRun := ⟨Spy.openedAt cursor, []⟩

/-- The packets taken since the last one that ended an event or, if `clears`, since the last
resynchronization; the latest comes first. -/
def unfinished (clears : Bool) : List TurnRecord → List PacketNote
  | [] => []
  | record :: earlier =>
    if clears && record.resynchronized then []
    else
      match record.took with
      | none => unfinished clears earlier
      | some note => if note.endsEvent then [] else note :: unfinished clears earlier

/-- A call that returns with a packet missing in the event, or in what there is of it so far,
returns nothing. -/
def NothingOfPoisoned (clears : Bool) (records : List TurnRecord) : Prop :=
  ∀ record earlier, record :: earlier <:+ records →
    ∀ note ∈ record.took.toList ++ unfinished clears earlier, note.missing = true →
      ∀ result, record.returned = some result → result.len = 0

def delivered (spy : Spy) (shared : Shared) : List (Nat × Nat × Nat × List UInt8) :=
  ((turnRecord shared spy).returned.map fun result =>
    (result.len, result.theErrorFlag, result.theDataLength, result.block)).toList

def spyStep (spy : Spy) (shared : Shared) : Spy := (turn shared spy).spyAfter

lemma suffix_cons_cases {records : List TurnRecord} {last record earlier}
    (there : record :: earlier <:+ last :: records) :
    record = last ∧ earlier = records ∨ record :: earlier <:+ records := by
  rcases suffix_cons_iff.1 there with same | before
  · obtain ⟨rfl, rfl⟩ := List.cons.inj same
    exact .inl ⟨rfl, rfl⟩
  · exact .inr before

/-! One turn. -/

inductive Effect (spy : Spy) (call : Call) (taken : Turn) : Prop
  | resynchronized (marked : taken.overwritten = true) (took : taken.took = none)
      (nothing : taken.call.len = 0) (returns : taken.returns = true)
      (inside : taken.spy.insideEventWithMissingPackets = false)
  | waited (marked : taken.overwritten = false) (took : taken.took = none)
      (len : taken.call.len = call.len)
      (inside : taken.spy.insideEventWithMissingPackets = spy.insideEventWithMissingPackets)
  | took (note : PacketNote) (marked : taken.overwritten = false) (took : taken.took = some note)
      (nothing : (spy.insideEventWithMissingPackets || note.missing) = true → taken.call.len = 0)
      (returns : taken.returns = note.endsEvent)
      (inside : taken.spy.insideEventWithMissingPackets =
        ((spy.insideEventWithMissingPackets || note.missing) && !note.endsEvent))

lemma readDDUTurn_effect (shared spy call)
    (unmarked : (call.status.loopOverwrite || call.status.bufferOverwrite) = false) :
    Effect spy call (readDDUTurn shared spy call) := by
  unfold readDDUTurn
  split
  · exact .waited unmarked rfl rfl rfl
  · split
    · exact .waited unmarked rfl rfl rfl
    · dsimp only
      split
      · exact .resynchronized (Bool.or_true _) rfl rfl rfl rfl
      · split
        · exact .resynchronized (Bool.true_or _) rfl rfl rfl rfl
        · refine .took _ unmarked rfl ?_ rfl ?_
          · intro inside
            exact if_pos inside
          · unfold takePacket
            simp only [ne_eq, decide_not]

/-- Between two turns the reader remembers that packets are missing, and has then nothing of the
event; a call that goes on has met no overwrite. -/
structure Remembers (run : ReaderRun) : Prop where
  inside : ∀ note ∈ unfinished true run.records, note.missing = true →
    run.spy.insideEventWithMissingPackets = true
  nothing : run.spy.insideEventWithMissingPackets = true →
    (run.spy.call.getD Call.fresh).len = 0
  unmarked : ((run.spy.call.getD Call.fresh).status.loopOverwrite ||
    (run.spy.call.getD Call.fresh).status.bufferOverwrite) = false

lemma Turn.spyAfter_call (taken : Turn) :
    taken.spyAfter.call.getD Call.fresh = if taken.returns then Call.fresh else taken.call := by
  unfold Turn.spyAfter
  cases taken.returns <;> rfl

lemma Turn.spyAfter_len {taken : Turn} (nothing : taken.call.len = 0) :
    (taken.spyAfter.call.getD Call.fresh).len = 0 := by
  rw [Turn.spyAfter_call]
  split
  · rfl
  · exact nothing

lemma Turn.spyAfter_unmarked {taken : Turn} (unmarked : taken.overwritten = false) :
    ((taken.spyAfter.call.getD Call.fresh).status.loopOverwrite ||
      (taken.spyAfter.call.getD Call.fresh).status.bufferOverwrite) = false := by
  rw [Turn.spyAfter_call]
  split
  · rfl
  · exact unmarked

lemma returned_len {shared spy} (nothing : (turn shared spy).call.len = 0) {returned}
    (same : (turnRecord shared spy).returned = some returned) : returned.len = 0 := by
  have known : (if (turn shared spy).returns then
      some (result shared (turn shared spy).spy (turn shared spy).call) else none) =
        some returned := same
  split at known
  · rw [← Option.some.inj known]
    exact nothing
  · cases known

lemma unfinished_cons (record earlier)
    (unmarked : record.resynchronized = false) :
    unfinished true (record :: earlier) =
      match record.took with
      | none => unfinished true earlier
      | some note => if note.endsEvent then [] else note :: unfinished true earlier := by
  rw [unfinished, unmarked]
  rfl

variable {run : ReaderRun}

lemma Remembers.step (remembers : Remembers run) (shared) : Remembers (run.step shared) := by
  have here : (run.step shared).records = turnRecord shared run.spy :: run.records := rfl
  cases readDDUTurn_effect shared run.spy _ remembers.unmarked with
  | resynchronized marked took nothing returns inside =>
    refine ⟨?_, fun _ => Turn.spyAfter_len nothing, ?_⟩
    · rw [here, unfinished]
      have resynchronized : (turnRecord shared run.spy).resynchronized = true := marked
      rw [resynchronized]
      nofun
    · have over_ : (turn shared run.spy).returns = true := returns
      rw [ReaderRun.step, Turn.spyAfter_call, over_]
      rfl
  | waited marked took len inside =>
    have same : (run.step shared).spy.insideEventWithMissingPackets =
        run.spy.insideEventWithMissingPackets := inside
    refine ⟨?_, ?_, Turn.spyAfter_unmarked marked⟩
    · have none_ : (turnRecord shared run.spy).took = none := took
      rw [here, unfinished_cons _ _ marked, none_, same]
      exact remembers.inside
    · rw [same]
      intro known
      exact Turn.spyAfter_len (len.trans (remembers.nothing known))
  | took note marked took nothing returns inside =>
    have now : (run.step shared).spy.insideEventWithMissingPackets =
      ((run.spy.insideEventWithMissingPackets || note.missing) && !note.endsEvent) := inside
    refine ⟨?_, ?_, Turn.spyAfter_unmarked marked⟩
    · have some_ : (turnRecord shared run.spy).took = some note := took
      rw [here, unfinished_cons _ _ marked, some_, now]
      dsimp only
      cases ends : note.endsEvent with
      | true => nofun
      | false =>
        simp only [Bool.false_eq_true, if_false, mem_cons, Bool.not_false, Bool.and_true,
          Bool.or_eq_true]
        rintro other (rfl | before) missing
        · exact .inr missing
        · exact .inl (remembers.inside other before missing)
    · rw [now]
      intro known
      exact Turn.spyAfter_len (nothing (Bool.and_eq_true_iff.1 known).1)

lemma Remembers.returns (remembers : Remembers run) (shared) {note}
    (there : note ∈ (turnRecord shared run.spy).took.toList ++ unfinished true run.records)
    (missing : note.missing = true) {returned}
    (same : (turnRecord shared run.spy).returned = some returned) : returned.len = 0 := by
  refine returned_len ?_ same
  rw [mem_append] at there
  cases readDDUTurn_effect shared run.spy _ remembers.unmarked with
  | resynchronized marked took nothing returns inside => exact nothing
  | waited marked took len inside =>
    have none_ : (turnRecord shared run.spy).took = none := took
    rw [none_] at there
    rcases there with now | before
    · cases now
    · exact len.trans (remembers.nothing (remembers.inside note before missing))
  | took other marked took nothing returns inside =>
    have some_ : (turnRecord shared run.spy).took = some other := took
    rw [some_] at there
    refine nothing ?_
    rw [Bool.or_eq_true]
    rcases there with now | before
    · rw [Option.toList_some, mem_singleton] at now
      exact .inr (now ▸ missing)
    · exact .inl (remembers.inside note before missing)

lemma ended_clean (remembers : Remembers run) (shared) {note}
    (took : (turnRecord shared run.spy).took = some note) (ends : note.endsEvent = true) :
    (run.step shared).spy.insideEventWithMissingPackets = false ∧
      (run.step shared).spy.call = none := by
  have known : (turn shared run.spy).took = some note := took
  cases readDDUTurn_effect shared run.spy _ remembers.unmarked with
  | resynchronized _ none_ => cases none_.symm.trans known
  | waited _ none_ => cases none_.symm.trans known
  | took other marked some_ nothing returns inside =>
    cases Option.some.inj (some_.symm.trans known)
    rw [ends] at returns inside
    refine ⟨inside.trans (Bool.and_false _), ?_⟩
    have over_ : (turn shared run.spy).returns = true := returns
    have call : (run.step shared).spy.call =
        if (turn shared run.spy).returns then none else some (turn shared run.spy).call := rfl
    rw [call, over_]
    rfl

/-! A run of the reader. -/

structure CallsKept (run : ReaderRun) : Prop where
  remembers : Remembers run
  nothing : NothingOfPoisoned true run.records
  ended : ∀ record earlier note, run.records = record :: earlier → record.took = some note →
    note.endsEvent = true →
    run.spy.insideEventWithMissingPackets = false ∧ run.spy.call = none

lemma CallsKept.openedAt (cursor) : CallsKept (ReaderRun.openedAt cursor) := by
  refine ⟨⟨nofun, fun _ => rfl, rfl⟩, ?_, nofun⟩
  intro record earlier there
  exact absurd (eq_nil_of_suffix_nil there) (cons_ne_nil _ _)

lemma CallsKept.step (kept : CallsKept run) (shared) : CallsKept (run.step shared) := by
  refine ⟨kept.remembers.step shared, ?_, ?_⟩
  · intro last earlier there note member missing returned same
    rcases suffix_cons_cases there with ⟨rfl, rfl⟩ | before
    · exact kept.remembers.returns shared member missing same
    · exact kept.nothing last earlier before note member missing returned same
  · intro last earlier note records took ends
    obtain ⟨rfl, rfl⟩ := List.cons.inj records
    exact ended_clean kept.remembers shared took ends

/-! The event after one that has ended. -/

structure Alike (one other : Spy) : Prop where
  cursor : one.cursor = other.cursor
  inside : one.insideEventWithMissingPackets = other.insideEventWithMissingPackets
  call : one.call = other.call
  data : one.bufData = other.bufData ∨
    (one.call.getD Call.fresh).len = 0 ∧ (one.call.getD Call.fresh).packets = 0

lemma takePacket_alike {one other call} (entry) (cursor : one.cursor = other.cursor)
    (inside : one.insideEventWithMissingPackets = other.insideEventWithMissingPackets)
    (calls : one.call = other.call) (data : one.bufData = other.bufData ∨ call.packets = 0) :
    takePacket one call entry = takePacket other call entry := by
  obtain ⟨bufPnt, ringPnt, ringLoop, bufData, missing, pending⟩ := one
  obtain ⟨rfl, rfl, rfl⟩ := Cursor.mk.inj cursor
  cases inside
  cases calls
  rcases data with same | none
  · cases same
    rfl
  · unfold takePacket
    simp only [none, if_true]

structure TurnAlike (one other : Turn) : Prop where
  cursor : one.spy.cursor = other.spy.cursor
  inside : one.spy.insideEventWithMissingPackets = other.spy.insideEventWithMissingPackets
  call : one.call = other.call
  took : one.took = other.took
  returns : one.returns = other.returns
  data : one.spy.bufData = other.spy.bufData ∨ one.call.len = 0 ∧ one.call.packets = 0

lemma Alike.sameTurn {one other} (alike : Alike one other) (shared) :
    TurnAlike (turn shared one) (turn shared other) := by
  have call := alike.call
  have data := alike.data
  have bufPnt : one.bufPnt = other.bufPnt := congrArg Cursor.buf alike.cursor
  have ringPnt : one.ringPnt = other.ringPnt := congrArg Cursor.ring alike.cursor
  have ringLoop : one.ringLoop = other.ringLoop := congrArg Cursor.lap alike.cursor
  unfold turn
  rw [← call]
  unfold readDDUTurn
  rw [bufPnt, ringPnt, ringLoop]
  split
  · exact ⟨alike.cursor, alike.inside, rfl, rfl, rfl, data⟩
  · split
    · exact ⟨alike.cursor, alike.inside, rfl, rfl, rfl, data⟩
    · dsimp only
      split
      · exact ⟨rfl, rfl, rfl, rfl, rfl, data.imp_right fun none => ⟨rfl, none.2⟩⟩
      · split
        · exact ⟨rfl, rfl, rfl, rfl, rfl, data.imp_right fun none => ⟨rfl, none.2⟩⟩
        · rw [takePacket_alike _ alike.cursor alike.inside call (data.imp_right And.right)]
          exact ⟨rfl, rfl, rfl, rfl, rfl, .inl rfl⟩

lemma Alike.step {one other} (alike : Alike one other) (shared) :
    Alike (spyStep one shared) (spyStep other shared) := by
  have turns := alike.sameTurn shared
  have calls : (spyStep one shared).call = (spyStep other shared).call := by
    unfold spyStep Turn.spyAfter
    rw [turns.returns, turns.call]
  refine ⟨turns.cursor, turns.inside, calls, ?_⟩
  unfold spyStep
  rw [Turn.spyAfter_call]
  cases (turn shared one).returns with
  | true => exact .inr ⟨rfl, rfl⟩
  | false => exact turns.data

lemma Alike.sameDelivered {one other} (alike : Alike one other) (shared) :
    delivered one shared = delivered other shared := by
  have turns := alike.sameTurn shared
  unfold delivered turnRecord
  dsimp only
  rw [turns.returns]
  cases (turn shared other).returns with
  | false => rfl
  | true =>
    simp only [if_true, result, Option.map_some, Option.toList_some, turns.call]
    rcases turns.data with same | ⟨none, _⟩
    · rw [same]
    · rw [turns.call] at none
      rw [none]
      rfl

lemma Alike.sameOutputs {one other} (alike : Alike one other) (later) :
    outputs spyStep delivered one later = outputs spyStep delivered other later := by
  induction later generalizing one other with
  | nil => rfl
  | cons shared rest ih =>
    rw [outputs, outputs, alike.sameDelivered shared, ih (alike.step shared)]

/-- Up to the packet that ends an event, or to a resynchronization, nothing is returned once a
packet of the event has been found missing; after a packet that ends an event the reader is like
one that has just been opened there. -/
theorem poisoned_events (cursor : Cursor) (views : List Shared) :
    NothingOfPoisoned true (runFrom ReaderRun.step (ReaderRun.openedAt cursor) views).records ∧
      ∀ record earlier note,
        (runFrom ReaderRun.step (ReaderRun.openedAt cursor) views).records = record :: earlier →
        record.took = some note → note.endsEvent = true →
        ∀ later, outputs spyStep delivered
            (runFrom ReaderRun.step (ReaderRun.openedAt cursor) views).spy later =
          outputs spyStep delivered
            (Spy.openedAt (runFrom ReaderRun.step (ReaderRun.openedAt cursor) views).spy.cursor)
              later := by
  have kept : CallsKept (runFrom ReaderRun.step (ReaderRun.openedAt cursor) views) :=
    run_preserved (fun _ shared before => before.step shared) views (CallsKept.openedAt cursor)
  refine ⟨kept.nothing, ?_⟩
  intro record earlier note records took ends later
  obtain ⟨inside, call⟩ := kept.ended record earlier note records took ends
  have alike : Alike (runFrom ReaderRun.step (ReaderRun.openedAt cursor) views).spy
      (Spy.openedAt (runFrom ReaderRun.step (ReaderRun.openedAt cursor) views).spy.cursor) := by
    refine ⟨rfl, inside, call, .inr ?_⟩
    rw [call]
    exact ⟨rfl, rfl⟩
  exact alike.sameOutputs later

def viewOf (tail : Nat) (entries : Nat → RingEntry) : Shared := ⟨fun _ => 0, entries, tail⟩

def firstMissing : Shared := viewOf 8 fun _ => ⟨0x8000, 8⟩

def nextLoop : Shared := viewOf 100 fun index => if index = 0 then ⟨0x4000, 8⟩ else ⟨1, 8⟩

def lastOfEvent : Shared := viewOf 16 fun _ => ⟨0x4000, 8⟩

theorem poisoned_events_two :
    (turnRecord lastOfEvent (spyStep (Spy.openedAt Cursor.start) firstMissing)).returned.map
      Result.len = some 0 := by
  have nothing := (poisoned_events Cursor.start [firstMissing, lastOfEvent]).1 _ _
    suffix_rfl ⟨8, false, true, false⟩ (by decide) rfl _ rfl
  exact congrArg some nothing

/-- After a loop overwrite a call returns data although no packet has ended the event. -/
theorem read_after_overwrite : ¬ ∀ cursor views,
    NothingOfPoisoned false (runFrom ReaderRun.step (ReaderRun.openedAt cursor) views).records := by
  intro every
  have nothing := every Cursor.start [firstMissing, nextLoop, nextLoop] _ _ suffix_rfl
    ⟨8, false, true, false⟩ (by decide) rfl _ rfl
  exact absurd nothing (by decide)

end EmuLib.Reader
