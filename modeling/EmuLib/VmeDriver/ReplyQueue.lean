import EmuLib.Lib.GuardedRun
import EmuLib.Lib.PacketQueue
import EmuLib.VmeDriver.EthHook
import Mathlib.Data.List.GetD

/-!
The driver as a queue: where all of a packet is copied and the copy stays inside of the buffer, the
packets are read as they arrived.
-/

namespace EmuLib.VmeDriver

open GuardedRun PacketQueue List

def kept (frame : List UInt8) : Nat := frame.length + 2

structure Fifo where
  history : History (List UInt8)
  answers : List Reply

def Fifo.perform (fifo : Fifo) (operation : Operation (List UInt8)) : Fifo :=
  { fifo with history := fifo.history.step kept mmtBufSize 9000 operation }

def Fifo.answer (fifo : Fifo) (reply : Reply) : Fifo :=
  { fifo with answers := fifo.answers ++ [reply] }

def Fifo.step (fifo : Fifo) : Input → Fifo
  | .netifRxHook skb => fifo.perform (.arrive skb.frame)
  | .scharRead true => fifo.answer .interrupted
  | .scharRead false =>
    (fifo.answer (.sent (fifo.history.queue.read.1.getD tbuf))).perform .read
  | .scharReset => fifo.perform .reset
  | .scharEnd => fifo
  | .scharInqr => fifo

def Fifo.start : Fifo := ⟨.start, []⟩

def Reply.isAnswer : Reply → Bool
  | .inquired _ => false
  | _ => true

def Fits (longSize : Nat) (state : State) : Input → Prop
  | .netifRxHook skb =>
    state.driver.nbufw + skb.len + 16 ≤ mmtBufSize →
      (longSize = 8 ∨ skb.len % 4 ≠ 3) ∧
        state.driver.nbufw + 2 + ((skb.len + 16) / 4 - 1) * 4 + longSize ≤ mmtBufSize
  | _ => True

section

def Laid (ring : Nat → UInt8) (last : Nat) : Nat → List (List UInt8) → Prop
  | place, [] => place = last
  | place, frame :: rest =>
    (ring place).toNat + 0x100 * (ring (place + 1)).toNat = frame.length ∧
      (∀ index < frame.length, ring (place + 2 + index) = frame.getD index 0) ∧
        Laid ring last (place + kept frame) rest

variable {ring ring' : Nat → UInt8} {last place : Nat}
variable {frames : List (List UInt8)}

lemma Laid.le (laid : Laid ring last place frames) : place ≤ last := by
  induction frames generalizing place with
  | nil => exact Nat.le_of_eq laid
  | cons frame rest ih => exact Nat.le_trans (Nat.le_add_right place (kept frame)) (ih laid.2.2)

lemma Laid.congr (laid : Laid ring last place frames)
    (same : ∀ address < last, ring' address = ring address) : Laid ring' last place frames := by
  induction frames generalizing place with
  | nil => exact laid
  | cons frame rest ih =>
    obtain ⟨length, bytes, others⟩ := laid
    have bound := others.le
    unfold kept at bound
    refine ⟨?_, ?_, ih others⟩
    · rw [same place (by omega), same (place + 1) (by omega), length]
    · intro index within
      rw [same (place + 2 + index) (by omega), bytes index within]

lemma Laid.snoc (laid : Laid ring last place frames) {frame}
    (length : (ring last).toNat + 0x100 * (ring (last + 1)).toNat = frame.length)
    (bytes : ∀ index < frame.length, ring (last + 2 + index) = frame.getD index 0) :
    Laid ring (last + kept frame) place (frames ++ [frame]) := by
  induction frames generalizing place with
  | nil =>
    obtain rfl : place = last := laid
    exact ⟨length, bytes, rfl⟩
  | cons first rest ih => exact ⟨laid.1, laid.2.1, ih laid.2.2⟩

lemma copyWords_eq {longSize} (wide : 4 ≤ longSize) (skb bufw ring icnt address) :
    copyWords longSize skb bufw ring (icnt + 1) address =
      if bufw ≤ address ∧ address < bufw + icnt * 4 + longSize then skb.byte (address - bufw)
      else ring address := by
  induction icnt with
  | zero =>
    simp only [copyWords, storeBytes, Nat.zero_mul, Nat.add_zero, Nat.zero_add]
  | succ icnt ih =>
    rw [copyWords, storeBytes]
    by_cases here : bufw + (icnt + 1) * 4 ≤ address ∧
        address < bufw + (icnt + 1) * 4 + longSize
    · have offset : (icnt + 1) * 4 + (address - (bufw + (icnt + 1) * 4)) = address - bufw := by
        omega
      have inside : bufw ≤ address ∧ address < bufw + (icnt + 1) * 4 + longSize := by omega
      rw [if_pos here, if_pos inside, offset]
    · rw [if_neg here, ih]
      by_cases before : bufw ≤ address ∧ address < bufw + icnt * 4 + longSize
      · have inside : bufw ≤ address ∧ address < bufw + (icnt + 1) * 4 + longSize := by omega
        rw [if_pos before, if_pos inside]
      · have outside : ¬(bufw ≤ address ∧ address < bufw + (icnt + 1) * 4 + longSize) := by
          omega
        rw [if_neg before, if_neg outside]

lemma Skb.length_eq (skb : Skb) : skb.frame.length = skb.len + 14 := by
  have headed := skb.headed
  unfold Skb.len
  omega

lemma stored_packet {longSize} (wide : longSize = 4 ∨ longSize = 8) {skb} (short : skb.len ≤ 9000)
    (whole : longSize = 8 ∨ skb.len % 4 ≠ 3) (ring place) :
    let stored := copyWords longSize skb (place + 2)
      (storeBytes ring place 4 (intByte (skb.len + 14))) ((skb.len + 16) >>> 2)
    (∀ address < place, stored address = ring address) ∧
      (stored place).toNat + 0x100 * (stored (place + 1)).toNat = skb.frame.length ∧
      ∀ index < skb.frame.length, stored (place + 2 + index) = skb.frame.getD index 0 := by
  intro stored
  have length := skb.length_eq
  have count : (skb.len + 16) >>> 2 = (skb.len + 16) / 4 - 1 + 1 := by
    omega
  have bytes : ∀ address, stored address =
      if place + 2 ≤ address ∧
          address < place + 2 + ((skb.len + 16) / 4 - 1) * 4 + longSize then
        skb.byte (address - (place + 2))
      else storeBytes ring place 4 (intByte (skb.len + 14)) address := by
    intro address
    change copyWords longSize skb (place + 2) _ ((skb.len + 16) >>> 2) address = _
    rw [count]
    exact copyWords_eq (by omega) skb (place + 2) _ _ address
  refine ⟨?_, ?_, ?_⟩
  · intro address before
    have untouched : ¬(place + 2 ≤ address ∧
        address < place + 2 + ((skb.len + 16) / 4 - 1) * 4 + longSize) := by omega
    have outside : ¬(place ≤ address ∧ address < place + 4) := by omega
    rw [bytes, if_neg untouched, storeBytes, if_neg outside]
  · have low : stored place = intByte (skb.len + 14) 0 := by
      have untouched : ¬(place + 2 ≤ place ∧
          place < place + 2 + ((skb.len + 16) / 4 - 1) * 4 + longSize) := by omega
      have inside : place ≤ place ∧ place < place + 4 := by omega
      rw [bytes, if_neg untouched, storeBytes, if_pos inside, Nat.sub_self]
    have high : stored (place + 1) = intByte (skb.len + 14) 1 := by
      have untouched : ¬(place + 2 ≤ place + 1 ∧
          place + 1 < place + 2 + ((skb.len + 16) / 4 - 1) * 4 + longSize) := by omega
      have inside : place ≤ place + 1 ∧ place + 1 < place + 4 := by omega
      rw [bytes, if_neg untouched, storeBytes, if_pos inside, Nat.add_sub_cancel_left]
    rw [low, high, intByte, intByte, UInt8.toNat_ofNat', UInt8.toNat_ofNat']
    omega
  · intro index within
    have copied : place + 2 ≤ place + 2 + index ∧
        place + 2 + index < place + 2 + ((skb.len + 16) / 4 - 1) * 4 + longSize := by omega
    have offset : place + 2 + index - (place + 2) = index := by omega
    rw [bytes, if_pos copied, offset, Skb.byte, if_pos within]

end

section

structure Refines (state : State) (fifo : Fifo) : Prop where
  laid : Laid state.driver.ring state.driver.bufw state.driver.bufr fifo.history.queue.unread
  left : state.driver.packLeft = fifo.history.queue.unread.length
  used : state.driver.nbufw = fifo.history.queue.used
  place : state.driver.bufw = state.driver.nbufw
  room : state.driver.nbufw ≤ mmtBufSize
  error : state.driver.error = fifo.history.queue.error
  awake : state.driver.wakestatus < 4
  answers : state.replies.filter Reply.isAnswer = fifo.answers
  inside : ∀ access ∈ state.accesses, access.Inside
  fair : fifo.history.Fair

variable {longSize : Nat} {state : State} {fifo : Fifo}

lemma Refines.driver (refines : Refines state fifo) {driver}
    (ring : driver.ring = state.driver.ring) (packLeft : driver.packLeft = state.driver.packLeft)
    (bufw : driver.bufw = state.driver.bufw) (nbufw : driver.nbufw = state.driver.nbufw)
    (bufr : driver.bufr = state.driver.bufr) (error : driver.error = state.driver.error)
    (awake : driver.wakestatus < 4) : Refines { state with driver := driver } fifo := by
  refine ⟨?_, ?_, ?_, ?_, ?_, ?_, awake, refines.answers, refines.inside, refines.fair⟩
  · rw [ring, bufw, bufr]
    exact refines.laid
  · exact packLeft.trans refines.left
  · exact nbufw.trans refines.used
  · exact (bufw.trans refines.place).trans nbufw.symm
  · rw [nbufw]
    exact refines.room
  · exact error.trans refines.error

lemma Driver.wake_eq (driver : Driver) : ∃ wakecond wakestatus,
    driver.wake = { driver with wakecond := wakecond, wakestatus := wakestatus } ∧
      (driver.wakestatus < 4 → wakestatus < 4) := by
  unfold Driver.wake
  split
  · exact ⟨true, 2, rfl, fun _ => by decide⟩
  · exact ⟨driver.wakecond, driver.wakestatus, rfl, id⟩

lemma Refines.wake (refines : Refines state fifo) :
    Refines { state with driver := state.driver.wake } fifo := by
  obtain ⟨wakecond, wakestatus, wakes, bounded⟩ := state.driver.wake_eq
  rw [wakes]
  exact refines.driver rfl rfl rfl rfl rfl rfl (bounded refines.awake)

lemma Refines.answer (refines : Refines state fifo) {reply} (answers : reply.isAnswer = true) :
    Refines { state with replies := state.replies ++ [reply] } (fifo.answer reply) := by
  refine ⟨refines.laid, refines.left, refines.used, refines.place, refines.room, refines.error,
    refines.awake, ?_, refines.inside, refines.fair⟩
  rw [filter_append, refines.answers, filter_singleton, answers]
  rfl

lemma Refines.access (refines : Refines state fifo) {accesses}
    (inside : ∀ access ∈ accesses, access.Inside) :
    Refines { state with accesses := state.accesses ++ accesses } fifo := by
  refine ⟨refines.laid, refines.left, refines.used, refines.place, refines.room, refines.error,
    refines.awake, refines.answers, ?_, refines.fair⟩
  intro access member
  rcases mem_append.mp member with earlier | new
  · exact refines.inside access earlier
  · exact inside access new

lemma Refines.hook (wide : longSize = 4 ∨ longSize = 8) (refines : Refines state fifo) {skb}
    (short : skb.len ≤ 9000) (fits : Fits longSize state (.netifRxHook skb)) :
    Refines (state.step longSize (.netifRxHook skb)) (fifo.step (.netifRxHook skb)) := by
  have length := skb.length_eq
  have cost : kept skb.frame = skb.len + 16 := by
    unfold kept
    omega
  have fair := @History.Fair.step _ kept mmtBufSize 9000 fifo.history refines.fair
    (.arrive skb.frame)
  have used := refines.used
  by_cases full : mmtBufSize < state.driver.nbufw + skb.len + 16
  · have beyond : mmtBufSize < fifo.history.queue.used + kept skb.frame := by omega
    have dropped : fifo.history.queue.arrive kept mmtBufSize 9000 skb.frame =
        { fifo.history.queue with error := true } := if_pos beyond
    have hooked : state.driver.netifRxHook longSize skb =
        ({ state.driver with error := true }, []) := if_pos full
    rw [State.step, hooked, append_nil]
    refine ⟨?_, ?_, ?_, refines.place, refines.room, ?_, refines.awake, refines.answers,
      refines.inside, fair⟩
    · change Laid _ _ _ (fifo.history.queue.arrive kept mmtBufSize 9000 skb.frame).unread
      rw [dropped]
      exact refines.laid
    · change _ = (fifo.history.queue.arrive kept mmtBufSize 9000 skb.frame).unread.length
      rw [dropped]
      exact refines.left
    · change _ = (fifo.history.queue.arrive kept mmtBufSize 9000 skb.frame).used
      rw [dropped]
      exact refines.used
    · change true = (fifo.history.queue.arrive kept mmtBufSize 9000 skb.frame).error
      rw [dropped]
  · obtain ⟨whole, within⟩ := fits (by omega)
    have room : ¬mmtBufSize < fifo.history.queue.used + kept skb.frame := by omega
    obtain ⟨before, size, bytes⟩ := stored_packet wide short whole state.driver.ring
      state.driver.bufw
    obtain ⟨ring, ringEq⟩ : ∃ ring, ring = copyWords longSize skb (state.driver.bufw + 2)
      (storeBytes state.driver.ring state.driver.bufw 4 (intByte (skb.len + 14)))
      ((skb.len + 16) >>> 2) := ⟨_, rfl⟩
    rw [← ringEq] at before size bytes
    have place := refines.place
    have accesses : ∀ access ∈ (⟨state.driver.bufw, 4⟩ : Access) ::
        (List.range ((skb.len + 16) >>> 2)).map fun i =>
          ⟨state.driver.bufw + 2 + i * 4, longSize⟩, access.Inside := by
      intro access member
      rcases mem_cons.mp member with rfl | word
      · change state.driver.bufw + 4 ≤ mmtBufSize
        omega
      · obtain ⟨i, inRange, rfl⟩ := mem_map.mp word
        have below := mem_range.mp inRange
        change state.driver.bufw + 2 + i * 4 + longSize ≤ mmtBufSize
        omega
    have laid := (refines.laid.congr before).snoc size bytes
    by_cases low : mmtBufSize < state.driver.nbufw + skb.len + 16 + 9000
    · have beyond : mmtBufSize < fifo.history.queue.used + kept skb.frame + 9000 := by omega
      have given : fifo.history.queue.arrive kept mmtBufSize 9000 skb.frame = ⟨[], 0, true⟩ := by
        rw [Queue.arrive, if_neg room, if_pos beyond]
      have hooked : state.driver.netifRxHook longSize skb =
          (({ state.driver.rewind with ring := ring, error := true } : Driver).wake,
            (⟨state.driver.bufw, 4⟩ : Access) :: (List.range ((skb.len + 16) >>> 2)).map fun i =>
              ⟨state.driver.bufw + 2 + i * 4, longSize⟩) := by
        rw [Driver.netifRxHook, if_neg full]
        dsimp only
        rw [if_pos low, ringEq]
        rfl
      have base : Refines
          { state with driver := { state.driver.rewind with ring := ring, error := true } }
          (fifo.step (.netifRxHook skb)) := by
        refine ⟨?_, ?_, ?_, rfl, Nat.zero_le _, ?_, refines.awake, refines.answers,
          refines.inside, fair⟩
        · change Laid _ 0 0 (fifo.history.queue.arrive kept mmtBufSize 9000 skb.frame).unread
          rw [given]
          exact rfl
        · change 0 = (fifo.history.queue.arrive kept mmtBufSize 9000 skb.frame).unread.length
          rw [given]
          rfl
        · change 0 = (fifo.history.queue.arrive kept mmtBufSize 9000 skb.frame).used
          rw [given]
        · change true = (fifo.history.queue.arrive kept mmtBufSize 9000 skb.frame).error
          rw [given]
      rw [State.step, hooked]
      exact base.wake.access accesses
    · have enough : ¬mmtBufSize < fifo.history.queue.used + kept skb.frame + 9000 := by omega
      have added : fifo.history.queue.arrive kept mmtBufSize 9000 skb.frame =
          ⟨fifo.history.queue.unread ++ [skb.frame], fifo.history.queue.used + kept skb.frame,
            fifo.history.queue.error⟩ := by
        rw [Queue.arrive, if_neg room, if_neg enough]
      have hooked : state.driver.netifRxHook longSize skb =
          (({ state.driver with
              ring := ring
              nbufw := state.driver.nbufw + skb.len + 16
              bufw := state.driver.bufw + 2 + (skb.len + 14)
              packLeft := state.driver.packLeft + 1 } : Driver).wake,
            (⟨state.driver.bufw, 4⟩ : Access) :: (List.range ((skb.len + 16) >>> 2)).map fun i =>
              ⟨state.driver.bufw + 2 + i * 4, longSize⟩) := by
        rw [Driver.netifRxHook, if_neg full]
        dsimp only
        rw [if_neg low, ringEq]
      have base : Refines
          { state with driver := { state.driver with
              ring := ring
              nbufw := state.driver.nbufw + skb.len + 16
              bufw := state.driver.bufw + 2 + (skb.len + 14)
              packLeft := state.driver.packLeft + 1 } }
          (fifo.step (.netifRxHook skb)) := by
        refine ⟨?_, ?_, ?_, ?_, ?_, ?_, refines.awake, refines.answers, refines.inside, fair⟩
        · have last : state.driver.bufw + 2 + (skb.len + 14) =
              state.driver.bufw + kept skb.frame := by omega
          change Laid ring (state.driver.bufw + 2 + (skb.len + 14)) state.driver.bufr
            (fifo.history.queue.arrive kept mmtBufSize 9000 skb.frame).unread
          rw [added, last]
          exact laid
        · change state.driver.packLeft + 1 =
            (fifo.history.queue.arrive kept mmtBufSize 9000 skb.frame).unread.length
          rw [added, refines.left, length_append]
          rfl
        · change state.driver.nbufw + skb.len + 16 =
            (fifo.history.queue.arrive kept mmtBufSize 9000 skb.frame).used
          rw [added]
          dsimp only
          omega
        · change state.driver.bufw + 2 + (skb.len + 14) = state.driver.nbufw + skb.len + 16
          omega
        · change state.driver.nbufw + skb.len + 16 ≤ mmtBufSize
          omega
        · change state.driver.error =
            (fifo.history.queue.arrive kept mmtBufSize 9000 skb.frame).error
          rw [added]
          exact refines.error
      rw [State.step, hooked]
      exact base.wake.access accesses

lemma Refines.wait (refines : Refines state fifo) :
    Refines { state with driver := state.driver.waitForPacket } fifo :=
  refines.driver rfl rfl rfl rfl rfl rfl (by decide : 3 < 4)

lemma Refines.readPacket (refines : Refines state fifo) {frame rest} (unread : fifo.history.queue.unread = frame :: rest) :
    (state.driver.ring state.driver.bufr).toNat +
        0x100 * (state.driver.ring (state.driver.bufr + 1)).toNat = frame.length ∧
      ((List.range frame.length).map fun index =>
        state.driver.ring (state.driver.bufr + 2 + index)) = frame ∧
      state.driver.bufr + 2 + frame.length ≤ mmtBufSize := by
  have laid := refines.laid
  rw [unread] at laid
  obtain ⟨length, bytes, others⟩ := laid
  refine ⟨length, ?_, ?_⟩
  · apply ext_getElem
    · simp
    · intro index _ within
      rw [getElem_map, getElem_range, bytes index within, getD_eq_getElem _ _ within]
  · have bound := others.le
    have room := refines.room
    rw [← refines.place] at room
    unfold kept at bound
    omega

lemma Refines.read (refines : Refines state fifo) :
    Refines (state.step longSize (.scharRead false)) (fifo.step (.scharRead false)) := by
  have waited := refines.wait
  have fair := @History.Fair.step _ kept mmtBufSize 9000 fifo.history refines.fair .read
  have left := refines.left
  cases unread : fifo.history.queue.unread with
  | nil =>
    have nothing : state.driver.packLeft = 0 := by
      rw [left, unread]
      rfl
    have replied : state.driver.scharRead false =
        (state.driver.waitForPacket, .sent tbuf, []) := by
      have none : ¬0 < state.driver.waitForPacket.packLeft := by
        change ¬0 < state.driver.packLeft
        omega
      rw [Driver.scharRead]
      rw [if_neg Bool.false_ne_true, if_neg none]
    have empty : fifo.history.queue.read = (none, fifo.history.queue) := by
      rw [Queue.read, unread]
    have answered := @Refines.answer _ fifo waited (.sent tbuf) rfl
    rw [State.step, replied, append_nil]
    refine ⟨?_, ?_, ?_, answered.place, answered.room, ?_, answered.awake, ?_,
      answered.inside, fair⟩
    · change Laid _ _ _ fifo.history.queue.read.2.unread
      rw [empty]
      exact answered.laid
    · change _ = fifo.history.queue.read.2.unread.length
      rw [empty]
      exact answered.left
    · change _ = fifo.history.queue.read.2.used
      rw [empty]
      exact answered.used
    · change _ = fifo.history.queue.read.2.error
      rw [empty]
      exact answered.error
    · change _ = fifo.answers ++ [.sent (fifo.history.queue.read.1.getD tbuf)]
      rw [empty]
      exact answered.answers
  | cons frame rest =>
    obtain ⟨length, bytes, inside⟩ := refines.readPacket unread
    have count : state.driver.packLeft = rest.length + 1 := by
      rw [left, unread]
      rfl
    have something : 0 < state.driver.waitForPacket.packLeft := by
      change 0 < state.driver.packLeft
      omega
    have taken : fifo.history.queue.read = (some frame, ⟨rest,
        if rest.isEmpty then 0 else fifo.history.queue.used, fifo.history.queue.error⟩) := by
      rw [Queue.read, unread]
    have replied : state.driver.scharRead false =
        (if state.driver.packLeft - 1 = 0 then state.driver.waitForPacket.rewind
          else { state.driver.waitForPacket with
            bufr := state.driver.bufr + frame.length + 2
            packLeft := state.driver.packLeft - 1 },
          .sent frame,
          [⟨state.driver.bufr, 2⟩, ⟨state.driver.bufr + 2, frame.length⟩]) := by
      rw [Driver.scharRead]
      dsimp only
      rw [if_pos something]
      have size : (state.driver.waitForPacket.ring state.driver.waitForPacket.bufr).toNat +
          0x100 * (state.driver.waitForPacket.ring (state.driver.waitForPacket.bufr + 1)).toNat =
            frame.length := length
      have copied : ((List.range frame.length).map fun index => state.driver.waitForPacket.ring
          (state.driver.waitForPacket.bufr + 2 + index)) = frame := bytes
      rw [size, copied]
      rfl
    have accesses : ∀ access ∈ [(⟨state.driver.bufr, 2⟩ : Access),
        ⟨state.driver.bufr + 2, frame.length⟩], access.Inside := by
      intro access member
      simp only [mem_cons, not_mem_nil, or_false] at member
      rcases member with rfl | rfl
      · change state.driver.bufr + 2 ≤ mmtBufSize
        omega
      · exact inside
    have answered := (@Refines.answer _ fifo waited (.sent frame) rfl).access accesses
    have reply : fifo.history.queue.read.1.getD tbuf = frame := by
      rw [taken]
      rfl
    have answers : (state.replies ++ [Reply.sent frame]).filter Reply.isAnswer =
        fifo.answers ++ [.sent (fifo.history.queue.read.1.getD tbuf)] := by
      rw [reply]
      exact answered.answers
    have laid := refines.laid
    rw [unread] at laid
    rw [State.step, replied]
    cases rest with
    | nil =>
      have last : state.driver.packLeft - 1 = 0 := by
        rw [count]
        rfl
      rw [if_pos last]
      refine ⟨?_, ?_, ?_, rfl, Nat.zero_le _, ?_, answered.awake, answers, answered.inside, fair⟩
      · change Laid _ 0 0 fifo.history.queue.read.2.unread
        rw [taken]
        exact rfl
      · change 0 = fifo.history.queue.read.2.unread.length
        rw [taken]
        rfl
      · change 0 = fifo.history.queue.read.2.used
        rw [taken]
        rfl
      · change state.driver.error = fifo.history.queue.read.2.error
        rw [taken]
        exact refines.error
    | cons second others =>
      have more : ¬state.driver.packLeft - 1 = 0 := by
        rw [count, length_cons]
        omega
      rw [if_neg more]
      refine ⟨?_, ?_, ?_, answered.place, answered.room, ?_, answered.awake, answers,
        answered.inside, fair⟩
      · have next : state.driver.bufr + frame.length + 2 =
            state.driver.bufr + kept frame := Nat.add_assoc _ _ _
        change Laid state.driver.ring state.driver.bufw (state.driver.bufr + frame.length + 2)
          fifo.history.queue.read.2.unread
        rw [taken]
        exact laid.2.2
      · change state.driver.packLeft - 1 = fifo.history.queue.read.2.unread.length
        rw [taken, count]
        rfl
      · change state.driver.nbufw = fifo.history.queue.read.2.used
        rw [taken]
        exact refines.used
      · change state.driver.error = fifo.history.queue.read.2.error
        rw [taken]
        exact refines.error

lemma Refines.reset (refines : Refines state fifo) :
    Refines (state.step longSize .scharReset) (fifo.step .scharReset) :=
  ⟨rfl, rfl, rfl, rfl, Nat.zero_le _, rfl, refines.awake, refines.answers, refines.inside,
    @History.Fair.step _ kept mmtBufSize 9000 fifo.history refines.fair .reset⟩

lemma Refines.step (wide : longSize = 4 ∨ longSize = 8) (refines : Refines state fifo) {input}
    (short : ∀ skb, input = .netifRxHook skb → skb.len ≤ 9000) (fits : Fits longSize state input) :
    Refines (state.step longSize input) (fifo.step input) := by
  cases input with
  | netifRxHook skb => exact refines.hook wide (short skb rfl) fits
  | scharRead signalPending =>
    cases signalPending with
    | false => exact refines.read
    | true =>
      have answered := @Refines.answer _ fifo refines.wait .interrupted rfl
      have replied : state.driver.scharRead true =
          (state.driver.waitForPacket, .interrupted, []) := rfl
      rw [State.step, replied, append_nil]
      exact answered
  | scharReset => exact refines.reset
  | scharEnd =>
    rw [State.step, Driver.scharEnd]
    split
    · exact refines.driver rfl rfl rfl rfl rfl rfl refines.awake
    · exact refines
  | scharInqr =>
    refine ⟨refines.laid, refines.left, refines.used, refines.place, refines.room,
      refines.error, refines.awake, ?_, refines.inside, refines.fair⟩
    change (state.replies ++ [Reply.inquired state.driver.scharInqr]).filter Reply.isAnswer =
      fifo.answers
    rw [filter_append, refines.answers]
    exact append_nil fifo.answers

lemma refines_start (kmalloc) : Refines (.start kmalloc) .start :=
  ⟨rfl, rfl, rfl, rfl, Nat.zero_le _, rfl, (by decide : 0 < 4), rfl, by simp [State.start],
    fair_start⟩

lemma refines_run (wide : longSize = 4 ∨ longSize = 8) (inputs)
    (short : ∀ skb, .netifRxHook skb ∈ inputs → skb.len ≤ 9000) (refines : Refines state fifo)
    (fits : Guarded (State.step longSize) (Fits longSize) state inputs) :
    Refines (runFrom (State.step longSize) state inputs) (runFrom Fifo.step fifo inputs) := by
  induction inputs generalizing state fifo with
  | nil => exact refines
  | cons input rest ih =>
    have first : ∀ skb, input = .netifRxHook skb → skb.len ≤ 9000 :=
      fun skb same => short skb (same ▸ mem_cons_self)
    exact ih (fun skb member => short skb (mem_cons_of_mem input member))
      (refines.step wide first fits.1) fits.2

lemma scharInqr_error {driver : Driver} (awake : driver.wakestatus < 4) :
    driver.scharInqr.testBit 28 = driver.error := by
  have low : (driver.packLeft &&& 0xffff).testBit 28 = false := by
    rw [Nat.testBit_and]
    exact Bool.and_false _
  have high : driver.wakestatus.testBit 4 = false :=
    Nat.testBit_lt_two_pow (by omega)
  have conditions : ∀ condition : Bool, condition.toNat.testBit 12 = false ∧
      condition.toNat.testBit 8 = false ∧ condition.toNat.testBit 0 = condition := by decide
  rw [Driver.scharInqr, Nat.testBit_or, Nat.testBit_or, Nat.testBit_or, Nat.testBit_or, low]
  simp [high, conditions]

end

/-- The packets are read as they arrived, and lost where the limits of the buffer are exceeded only,
which is reported until the next reset. -/
theorem reply_queue {longSize : Nat} (wide : longSize = 4 ∨ longSize = 8) (kmalloc : Nat → UInt8)
    (inputs : List Input) (short : ∀ skb, .netifRxHook skb ∈ inputs → skb.len ≤ 9000)
    (fits : Guarded (State.step longSize) (Fits longSize) (.start kmalloc) inputs) :
    let state := runFrom (State.step longSize) (.start kmalloc) inputs
    let fifo := runFrom Fifo.step .start inputs
    state.replies.filter Reply.isAnswer = fifo.answers ∧
      state.driver.packLeft = fifo.history.queue.unread.length ∧
      state.driver.scharInqr.testBit 28 = fifo.history.queue.error ∧
      fifo.history.Fair ∧
      ∀ access ∈ state.accesses, access.Inside := by
  have refines := refines_run wide inputs short (refines_start kmalloc) fits
  refine ⟨refines.answers, refines.left, ?_, refines.fair, refines.inside⟩
  rw [scharInqr_error refines.awake]
  exact refines.error

def shortPacket : Skb := ⟨List.replicate 16 1, fun _ => 0, by decide⟩

def shortRun : List Input := [.netifRxHook shortPacket, .scharRead false]

theorem reply_queue_shortPacket :
    let state := runFrom (State.step 4) (.start fun _ => 0) shortRun
    let fifo := runFrom Fifo.step .start shortRun
    state.replies.filter Reply.isAnswer = fifo.answers ∧
      state.driver.packLeft = fifo.history.queue.unread.length ∧
      state.driver.scharInqr.testBit 28 = fifo.history.queue.error ∧
      fifo.history.Fair ∧
      ∀ access ∈ state.accesses, access.Inside := by
  have short : ∀ skb, .netifRxHook skb ∈ shortRun → skb.len ≤ 9000 := by
    intro skb member
    simp only [shortRun, mem_cons, Input.netifRxHook.injEq, reduceCtorEq, not_mem_nil,
      or_false] at member
    rw [member]
    decide
  have fits : Guarded (State.step 4) (Fits 4) (.start fun _ => 0) shortRun :=
    ⟨fun _ => by decide, trivial, trivial⟩
  exact reply_queue (.inl rfl) (fun _ => 0) shortRun short fits

def oddPacket : Skb := ⟨List.replicate 17 1, fun _ => 0, by decide⟩

theorem odd_packet_cut :
    (runFrom (State.step 4) (.start fun _ => 0)
        [.netifRxHook oddPacket, .scharRead false]).replies =
      [.sent (List.replicate 16 1 ++ [0])] ∧
    (runFrom Fifo.step .start [.netifRxHook oddPacket, .scharRead false]).answers =
      [.sent (List.replicate 17 1)] := by
  decide

end EmuLib.VmeDriver
