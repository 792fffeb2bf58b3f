import EmuLib.DaqmbJtag.JtagOhio
import EmuLib.VmeController.BitBangJtag

/-!
The JTAG engine for the discrete logic: every write of its register is a clock with the mode select
line and the data in line, and a read gets the data out line.
-/

namespace EmuLib.DaqmbJtag

open GuardedRun Memory TapController VmeController List

structure LitePort where
  ptr : Nat
  loaded : Device → Register → List Bool
  answer : Device → UInt16

def LitePort.bus (port : LitePort) : Bus Device where
  write := fun device ptr data =>
    if ptr = port.ptr then
      device.clock port.loaded (data.toNat.testBit 0, data.toNat.testBit 1)
    else device
  answer := fun device _ => port.answer device

def tmsWord (tms : Bool) : UInt16 := if tms then 1 else 0

def tdiWord (ival : UInt8) (tms : Bool) : UInt16 := ival.toUInt16 <<< 1 ||| tmsWord tms

/-- `Jtag_Lite` on the register at `ptr`, with the accesses of its three uses. -/
def liteReset (ptr : Nat) : List Access :=
  (List.range 6).map fun i =>
    ⟨if i < 5 then .bufwrite else .bufwriteSnd, ptr, tmsWord (i < 5)⟩

def liteClocks (ptr cnt : Nat) : List Access :=
  (List.range cnt).map fun i => ⟨if i < cnt - 1 then .bufwrite else .bufwriteSnd, ptr, 0⟩

def liteShift (ptr : Nat) (data : Nat → UInt8) (cnt : Nat) (ird : Bool) :
    Nat → Nat → BitReader → List Access
  | 0, _, _ => []
  | remaining + 1, i, reader =>
    (if ird then [⟨.bufread, ptr, 0⟩] else []) ++
      ⟨.bufwrite, ptr, tdiWord reader.ival (i = cnt - 1)⟩ ::
        liteShift ptr data cnt ird remaining (i + 1) (reader.next data)

def liteScan (ptr reg : Nat) (data : Nat → UInt8) (cnt : Nat) (ird : Bool) : List Access :=
  ((List.range' reg (4 - reg)).map fun i => ⟨.bufwrite, ptr, tmsWord (i < 2)⟩) ++
    liteShift ptr data cnt ird cnt 0 (.start data) ++
      [⟨.bufwrite, ptr, tmsWord true⟩, ⟨.bufwriteSnd, ptr, 0⟩]

structure LiteCombining where
  bit : Nat
  bdata : UInt8
  rcv : List UInt8

def liteCombineBit (mytmp : Nat → UInt8) (cnt : Nat) (combining : LiteCombining) (i : Nat) :
    LiteCombining :=
  let bdata :=
    if i < cnt then combining.bdata ||| ((mytmp (2 * i) &&& 1) <<< 7) else combining.bdata
  if combining.bit = 7 then ⟨0, 0, combining.rcv ++ [bdata]⟩
  else ⟨combining.bit + 1, bdata >>> 1, combining.rcv⟩

def liteCombine (mytmp : Nat → UInt8) (cnt : Nat) : List UInt8 :=
  ((List.range (8 * ((cnt + 7) / 8))).foldl (liteCombineBit mytmp cnt) ⟨0, 0, []⟩).rcv

def transfer {Boards : Type} (bus : Bus Boards) (driven : Driven Boards) (accesses : List Access)
    (rcv : Nat → UInt8) : Driven Boards × (Nat → UInt8) :=
  let after := ({ driven with delivered := [] } : Driven Boards).run bus accesses
  (after, store rcv 0 (after.delivered.flatMap callerBytes))

def jtagLite {Boards : Type} (bus : Bus Boards) (driven : Driven Boards) (ptr reg : Nat)
    (snd : Nat → UInt8) (cnt : Int) (rcv : Nat → UInt8) (ird : Bool) :
    Driven Boards × (Nat → UInt8) :=
  if cnt = 0 ∨ 2 < reg then (driven, rcv)
  else if reg = 0 ∧ cnt < 0 then transfer bus driven (liteReset ptr) rcv
  else if reg = 2 then transfer bus driven (liteClocks ptr cnt.toNat) rcv
  else
    let (after, mytmp) := transfer bus driven (liteScan ptr reg snd cnt.toNat ird) fun _ => 0
    (after, if ird then store rcv 0 (liteCombine mytmp cnt.toNat) else rcv)

section

def highPort : Port where
  tck := 2
  tms := 0
  tdi := 1
  tdo := 0
  pvme := 0
  inside := by decide
  distinct := by decide
  low := by decide

variable (mytmp : Nat → UInt8) (cnt : Nat)

def raised : Nat → UInt8 := fun byte => mytmp (byte - 1)

lemma liteCombineBit_eq (combining i) :
    let next := highPort.combineBit (raised mytmp) cnt
      ⟨combining.bit, combining.bdata, combining.rcv⟩ i
    liteCombineBit mytmp cnt combining i = ⟨next.bit, next.bdata, next.rcv⟩ := by
  rw [liteCombineBit, Port.combineBit]
  split <;> split <;> rfl

lemma liteCombine_eq : liteCombine mytmp cnt = highPort.combine (raised mytmp) cnt := by
  have along : ∀ (indices : List Nat) (combining : LiteCombining),
      (indices.foldl (liteCombineBit mytmp cnt) combining).rcv =
        (indices.foldl (highPort.combineBit (raised mytmp) cnt)
          ⟨combining.bit, combining.bdata, combining.rcv⟩).rcv := by
    intro indices
    induction indices with
    | nil => intro combining; rfl
    | cons i rest ih =>
      intro combining
      rw [foldl_cons, foldl_cons, ih, liteCombineBit_eq]
  exact along _ _

lemma liteCombine_bit {i} (inside : i < cnt) :
    dataBit (fun byte => (liteCombine mytmp cnt).getD byte 0) i =
      (mytmp (2 * i)).toNat.testBit 0 := by
  rw [liteCombine_eq, combine_bit highPort (raised mytmp) cnt (by omega), Port.sampleBit,
    decide_eq_true inside]
  rfl

lemma liteCombine_length : (liteCombine mytmp cnt).length = (cnt + 7) / 8 := by
  rw [liteCombine_eq, combine_length]

end

section

variable {port : LitePort} {driven : Driven Device} {device : Device}

def lineWord (line : Bool × Bool) : UInt16 := tdiWord (UInt8.ofNat line.2.toNat) line.1

lemma lineWord_bits (line) :
    ((lineWord line).toNat.testBit 0, (lineWord line).toNat.testBit 1) = line := by
  obtain ⟨tms, tdi⟩ := line
  cases tms <;> cases tdi <;> rfl

def writes (port : LitePort) (lines : List (Bool × Bool)) : List Access :=
  lines.map fun line => ⟨.bufwrite, port.ptr, lineWord line⟩

def strokes (port : LitePort) (ird : Bool) (lines : List (Bool × Bool)) : List Access :=
  lines.flatMap fun line =>
    (if ird then [⟨.bufread, port.ptr, 0⟩] else []) ++ [⟨.bufwrite, port.ptr, lineWord line⟩]

def readings (port : LitePort) : Device → List (Bool × Bool) → List UInt16
  | _, [] => []
  | device, line :: rest => port.answer device :: readings port (device.clock port.loaded line) rest

lemma readings_length (lines) : (readings port device lines).length = lines.length := by
  induction lines generalizing device with
  | nil => rfl
  | cons line rest ih => exact congrArg (· + 1) ih

lemma write_clocks (line) :
    port.bus.write device port.ptr (lineWord line) = device.clock port.loaded line := by
  have lines := lineWord_bits line
  exact (if_pos rfl).trans (congrArg (device.clock port.loaded) lines)

lemma run_writes (lines) :
    driven.run port.bus (writes port lines) =
      { driven with boards := driven.boards.clocks port.loaded lines } := by
  induction lines generalizing driven with
  | nil => rfl
  | cons line rest ih =>
    have first : driven.step port.bus ⟨.bufwrite, port.ptr, lineWord line⟩ =
        { driven with boards := driven.boards.clock port.loaded line } :=
      congrArg (Driven.mk · driven.outstanding driven.delivered) (write_clocks line)
    have later := @ih (driven.step port.bus ⟨.bufwrite, port.ptr, lineWord line⟩)
    rw [first] at later
    rw [writes, map_cons, Driven.run, runFrom_cons, first]
    exact later

lemma run_strokes (ird lines) :
    driven.run port.bus (strokes port ird lines) =
      { driven with
        boards := driven.boards.clocks port.loaded lines
        outstanding := driven.outstanding ++
          if ird then readings port driven.boards lines else [] } := by
  induction lines generalizing driven with
  | nil => cases ird <;> simp [strokes, Driven.run, readings, Device.clocks]
  | cons line rest ih =>
    have clocked : port.bus.write driven.boards port.ptr (lineWord line) =
        driven.boards.clock port.loaded line := write_clocks line
    have first : driven.run port.bus
        ((if ird then [⟨.bufread, port.ptr, 0⟩] else []) ++
          [⟨.bufwrite, port.ptr, lineWord line⟩]) =
        { driven with
          boards := driven.boards.clock port.loaded line
          outstanding := driven.outstanding ++
            if ird then [port.answer driven.boards] else [] } := by
      cases ird with
      | false => simp [Driven.run, Driven.step, Driven.write, clocked]
      | true =>
        have answer : port.bus.answer driven.boards port.ptr = port.answer driven.boards := rfl
        simp [Driven.run, Driven.step, Driven.write, Driven.read, clocked, answer]
    rw [strokes, flatMap_cons, Driven.run, runFrom_append]
    refine (congrArg (fun stroked => Driven.run port.bus stroked (strokes port ird rest))
      first).trans ?_
    rw [ih]
    cases ird <;> simp [readings, Device.clocks]

end

variable {port : LitePort} {driven : Driven Device} {reg cnt : Nat}

lemma liteShift_strokes (port data cnt ird remaining i) :
    liteShift port.ptr data cnt ird remaining i (readerAt data i) =
      strokes port ird ((range' i remaining).map fun i =>
        (decide (i = cnt - 1), dataBit data i)) := by
  induction remaining generalizing i with
  | zero => rfl
  | succ remaining ih =>
    rw [liteShift, readerAt_next, ih, range'_succ, map_cons, strokes, strokes,
      flatMap_cons, readerAt_ival, append_assoc]
    rfl

lemma liteShift_eq (port data count ird) :
    liteShift port.ptr data (count + 1) ird (count + 1) 0 (.start data) =
      strokes port ird (lastRaised (bitsOf data (count + 1))) := by
  rw [readerAt_zero, liteShift_strokes, lastRaised_bitsOf, ← range_eq_range', bitsOf,
    range_succ, map_append, map_map]
  refine congrArg (strokes port ird) (congrArg₂ (· ++ ·) ?_ ?_)
  · refine map_congr_left fun i inside => ?_
    have below := mem_range.1 inside
    have early : i ≠ count := by omega
    simp [early]
  · simp

lemma enter_eq (port) (valid : reg ≤ 1) :
    ((range' reg (4 - reg)).map fun i =>
      (⟨.bufwrite, port.ptr, tmsWord (i < 2)⟩ : Access)) =
      writes port (entry (registerOf reg)) := by
  have which : reg = 0 ∨ reg = 1 := by omega
  rcases which with rfl | rfl <;> rfl

structure LiteScanned (port : LitePort) (register : Register) (bits : List Bool) (ird : Bool)
    (device : Device) (rcv : Nat → UInt8) (after : Driven Device × (Nat → UInt8)) : Prop where
  idle : after.1.boards.tap = .runTestIdle
  low : after.1.boards.tck = false
  log : after.1.boards.log = device.log ++ scan register bits
  clocked : after.1.boards =
    device.clocks port.loaded (entry register ++ lastRaised bits ++ leaving)
  silent : after.1.outstanding = []
  readBack : ird = true → ∀ i < bits.length, dataBit after.2 i =
    ((readings port (device.clocks port.loaded (entry register)) (lastRaised bits)).map
      fun word => word.toNat.testBit 0).getD i false
  unread : ird = false → after.2 = rcv

lemma combined_bit (rcv) {words : List UInt16} (size : words.length = cnt) {i}
    (inside : i < cnt) :
    dataBit (store rcv 0
        (liteCombine (store (fun _ => 0) 0 (words.flatMap callerBytes)) cnt)) i =
      (words.map fun word => word.toNat.testBit 0).getD i false := by
  generalize read : store (fun _ => (0 : UInt8)) 0 (words.flatMap callerBytes) = mytmp
  have there : i < words.length := by rw [size]; exact inside
  have word : dataBit mytmp (16 * i) = (words.getD (16 * i / 16) 0).toNat.testBit (16 * i % 16) := by
    rw [← read]
    exact dataBit_delivered _ words (by omega)
  have byte : 16 * i / 8 = 2 * i := by omega
  have first : 16 * i % 8 = 0 := by omega
  have whole : 16 * i / 16 = i := by omega
  have lowest : 16 * i % 16 = 0 := by omega
  rw [dataBit, byte, first, whole, lowest] at word
  have stored : store rcv 0 (liteCombine mytmp cnt) (i / 8) =
      (liteCombine mytmp cnt).getD (i / 8) 0 := by
    have within : i / 8 < (liteCombine mytmp cnt).length := by
      rw [liteCombine_length]
      omega
    simp [store, getD_eq_getElem?_getD, within]
  have combined := liteCombine_bit mytmp cnt inside
  rw [dataBit] at combined
  rw [dataBit, stored, combined, word, getD_eq_getElem _ _ there,
    getD_eq_getElem _ _ (by rw [length_map]; exact there), getElem_map]

lemma transfer_scan (port driven) (valid : reg ≤ 1) {count snd bits}
    (counted : bitsOf snd (count + 1) = bits) {ird : Bool}
    {rcv} (silent : driven.outstanding = []) :
    let entered := driven.boards.clocks port.loaded (entry (registerOf reg))
    let words := if ird then readings port entered (lastRaised bits) else []
    transfer port.bus driven (liteScan port.ptr reg snd (count + 1) ird) rcv =
      (⟨driven.boards.clocks port.loaded
          (entry (registerOf reg) ++ lastRaised bits ++ leaving), [], words⟩,
        store rcv 0 (words.flatMap callerBytes)) := by
  intro entered words
  have program : liteScan port.ptr reg snd (count + 1) ird =
      writes port (entry (registerOf reg)) ++ strokes port ird (lastRaised bits) ++
        (writes port [(true, false)] ++ [⟨.bufwriteSnd, port.ptr, lineWord (false, false)⟩]) := by
    rw [liteScan, enter_eq port valid, liteShift_eq, counted]
    rfl
  have ran : ({ driven with delivered := [] } : Driven Device).run port.bus
      (liteScan port.ptr reg snd (count + 1) ird) =
        ⟨driven.boards.clocks port.loaded
          (entry (registerOf reg) ++ lastRaised bits ++ leaving), [], words⟩ := by
    have joined : ∀ (start : Driven Device) (first second : List Access),
        start.run port.bus (first ++ second) =
          (start.run port.bus first).run port.bus second := fun start first second =>
      runFrom_append start first second
    have sent : ∀ (start : Driven Device),
        start.run port.bus [⟨.bufwriteSnd, port.ptr, lineWord (false, false)⟩] =
          { (start.deliver) with
            boards := start.boards.clock port.loaded (false, false) } := by
      intro start
      have clocked := @write_clocks port start.boards (false, false)
      exact congrArg (Driven.mk · [] (start.delivered ++ start.outstanding)) clocked
    rw [program, joined, joined, joined, run_writes, run_strokes, run_writes, sent]
    simp [Driven.deliver, silent, Device.clocks, leaving, words, entered]
  rw [transfer, ran]

lemma jtagLite_scanned (port driven) (valid : reg ≤ 1)
    (some_ : 0 < cnt) (snd rcv ird) (silent : driven.outstanding = [])
    (low : driven.boards.tck = false) (idle : driven.boards.tap = .runTestIdle) :
    LiteScanned port (registerOf reg) (bitsOf snd cnt) ird driven.boards rcv
      (jtagLite port.bus driven port.ptr reg snd cnt rcv ird) := by
  obtain ⟨count, rfl⟩ : ∃ count, cnt = count + 1 := ⟨cnt - 1, by omega⟩
  have positive : ¬ (((count + 1 : Nat) : Int) = 0 ∨ 2 < reg) := by omega
  have scans : ¬ (reg = 0 ∧ ((count + 1 : Nat) : Int) < 0) := by omega
  have notClocks : reg ≠ 2 := by omega
  generalize counted : bitsOf snd (count + 1) = bits
  have length : bits.length = count + 1 := by
    rw [← counted, bitsOf, length_map, length_range]
  have nonempty : bits ≠ [] := by
    rintro rfl
    exact Nat.succ_ne_zero count length.symm
  let entered := driven.boards.clocks port.loaded (entry (registerOf reg))
  let words := if ird then readings port entered (lastRaised bits) else []
  have ran : transfer port.bus driven (liteScan port.ptr reg snd (count + 1) ird) (fun _ => 0) =
      (⟨driven.boards.clocks port.loaded
          (entry (registerOf reg) ++ lastRaised bits ++ leaving), [], words⟩,
        store (fun _ => 0) 0 (words.flatMap callerBytes)) :=
    transfer_scan port driven valid counted silent
  have reached := clocks_follow port.loaded
    (entry (registerOf reg) ++ lastRaised bits ++ leaving) low
  rw [idle, follow_scan _ _ bits nonempty] at reached
  obtain ⟨tck, place⟩ := reached
  rw [jtagLite, if_neg positive, if_neg scans, if_neg notClocks, Int.toNat_natCast, ran]
  refine ⟨congrArg Prod.fst place, tck, congrArg Prod.snd place, rfl, rfl, ?_, ?_⟩
  · rintro rfl i inside
    have size : words.length = count + 1 :=
      (readings_length (lastRaised bits)).trans ((lastRaised_length bits).trans length)
    rw [length] at inside
    exact combined_bit rcv size inside
  · rintro rfl
    rfl

end EmuLib.DaqmbJtag
