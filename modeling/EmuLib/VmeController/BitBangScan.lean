import EmuLib.VmeController.BitBang

/-!
What the device behind the port sees of the writes, and what is read back from it.
-/

namespace EmuLib.VmeController

open GuardedRun TapController

section

variable (port : Port)

lemma flag_testBit : ∀ flag : Bool, ∀ place < 16, ∀ bit < 16,
    (UInt16.ofNat (flag.toNat <<< place)).toNat.testBit bit = (flag && bit == place) := by
  decide

def Port.word (line : Bool × Bool) : UInt16 := port.bitWord (UInt8.ofNat line.2.toNat) line.1

lemma lineWord_eq (tms) : port.lineWord tms = port.word (tms, false) := by
  have low : port.pvme ||| UInt16.ofNat ((UInt8.ofNat 0).toNat <<< port.tdi) = port.pvme := by
    have none_ : (UInt8.ofNat 0).toNat <<< port.tdi = 0 := Nat.zero_shiftLeft _
    rw [none_]
    exact UInt16.or_zero
  simp only [Port.lineWord, Port.word, Port.bitWord, Bool.toNat_false, low]

lemma word_testBit (line) {bit} (inside : bit < 16) :
    (port.word line).toNat.testBit bit =
      (port.pvme.toNat.testBit bit || (line.2 && bit == port.tdi) ||
        (line.1 && bit == port.tms)) := by
  have ival : (UInt8.ofNat line.2.toNat).toNat = line.2.toNat := by cases line.2 <;> rfl
  have tdi := flag_testBit line.2 port.tdi port.inside.2.2.1 bit inside
  have tms := flag_testBit true port.tms port.inside.2.1 bit inside
  unfold Port.word Port.bitWord
  rw [ival]
  cases line.1 with
  | false =>
    simp only [Bool.false_eq_true, if_false, UInt16.toNat_or, Nat.testBit_or, tdi,
      Bool.false_and, Bool.or_false]
  | true =>
    have raised : (UInt16.ofNat (1 <<< port.tms)).toNat.testBit bit = (bit == port.tms) := tms
    simp only [if_true, UInt16.toNat_or, Nat.testBit_or, tdi, Port.TMS, raised, Bool.true_and]

lemma clocked_testBit (line) {bit} (inside : bit < 16) :
    (port.word line ||| port.TCK).toNat.testBit bit =
      ((port.word line).toNat.testBit bit || bit == port.tck) := by
  have tck := flag_testBit true port.tck port.inside.1 bit inside
  have raised : (UInt16.ofNat (1 <<< port.tck)).toNat.testBit bit = (bit == port.tck) := tck
  simp only [UInt16.toNat_or, Nat.testBit_or, Port.TCK, raised]

lemma word_lines (line) :
    (port.word line).toNat.testBit port.tck = false ∧
      (port.word line).toNat.testBit port.tms = line.1 ∧
      (port.word line).toNat.testBit port.tdi = line.2 := by
  obtain ⟨tck, tms, tdi, _⟩ := port.inside
  obtain ⟨first, second, third⟩ := port.distinct
  obtain ⟨lowTck, lowTms, lowTdi⟩ := port.low
  rw [word_testBit port line tck, word_testBit port line tms, word_testBit port line tdi, lowTck,
    lowTms, lowTdi]
  simp [first, second, third, third.symm]

lemma clocked_lines (line) :
    (port.word line ||| port.TCK).toNat.testBit port.tck = true ∧
      (port.word line ||| port.TCK).toNat.testBit port.tms = line.1 ∧
      (port.word line ||| port.TCK).toNat.testBit port.tdi = line.2 := by
  obtain ⟨tck, tms, tdi, _⟩ := port.inside
  obtain ⟨first, second, third⟩ := port.distinct
  obtain ⟨lowTck, lowTms, lowTdi⟩ := word_lines port line
  rw [clocked_testBit port line tck, clocked_testBit port line tms, clocked_testBit port line tdi,
    lowTms, lowTdi]
  simp [first.symm, second.symm]

end

def dataBit (data : Nat → UInt8) (i : Nat) : Bool := (data (i / 8)).toNat.testBit (i % 8)

def readerAt (data : Nat → UInt8) (i : Nat) : BitReader :=
  ⟨i % 8, i / 8, data (i / 8) >>> UInt8.ofNat (i % 8)⟩

lemma readerAt_zero (data) : BitReader.start data = readerAt data 0 := by
  simp [BitReader.start, readerAt]

lemma readerAt_ival (data i) : (readerAt data i).ival = UInt8.ofNat (dataBit data i).toNat := by
  apply UInt8.toNat_inj.1
  have shifted : (UInt8.ofNat (i % 8)).toNat % 8 = i % 8 := by
    rw [UInt8.toNat_ofNat']
    omega
  have bit : ((data (i / 8)).toNat >>> (i % 8)) % 2 = (dataBit data i).toNat := by
    rw [dataBit, Nat.testBit_eq_decide_div_mod_eq, Nat.shiftRight_eq_div_pow]
    rcases Nat.mod_two_eq_zero_or_one ((data (i / 8)).toNat / 2 ^ (i % 8)) with even | odd
    · simp [even]
    · simp [odd]
  simp only [BitReader.ival, readerAt, UInt8.toNat_and, UInt8.toNat_shiftRight, shifted]
  change ((data (i / 8)).toNat >>> (i % 8)) &&& 1 = _
  rw [Nat.and_one_is_mod, bit]
  cases dataBit data i <;> rfl

lemma readerAt_next (data i) : (readerAt data i).next data = readerAt data (i + 1) := by
  unfold BitReader.next readerAt
  by_cases full : i % 8 + 1 = 8
  · have place : (i + 1) / 8 = i / 8 + 1 := by omega
    have bit : (i + 1) % 8 = 0 := by omega
    simp [full, place, bit]
  · have place : (i + 1) / 8 = i / 8 := by omega
    have bit : (i + 1) % 8 = i % 8 + 1 := by omega
    rw [if_neg full, place, bit]
    refine congrArg (BitReader.mk (i % 8 + 1) (i / 8)) ?_
    apply UInt8.toNat_inj.1
    have first : (UInt8.ofNat (i % 8)).toNat % 8 = i % 8 := by
      rw [UInt8.toNat_ofNat']
      omega
    have second : (UInt8.ofNat (i % 8 + 1)).toNat % 8 = i % 8 + 1 := by
      rw [UInt8.toNat_ofNat']
      omega
    simp only [UInt8.toNat_shiftRight, first, second]
    rfl

structure Stroke where
  sample : Bool
  line : Bool × Bool
  rcv : Option (Nat → UInt8)

variable (port : Port) (ptr : UInt32)

def Stroke.calls (stroke : Stroke) (irdwr : Irdwr) : List Call :=
  (if stroke.sample then [Port.readCall ptr] else []) ++
    port.triple ptr (port.word stroke.line) irdwr stroke.rcv

lemma shiftLoop_strokes (data ird raised irdwr behind remaining i) :
    port.shiftLoop ptr data ird raised irdwr behind remaining i (readerAt data i) =
      (List.range' i remaining).flatMap fun i =>
        (Stroke.mk ird (raised i, dataBit data i) (some Port.mytmp)).calls port ptr (irdwr i) ++
          behind i := by
  induction remaining generalizing i with
  | zero => rfl
  | succ remaining ih =>
    rw [Port.shiftLoop, readerAt_next, ih, List.range'_succ, List.flatMap_cons, readerAt_ival]
    simp only [Stroke.calls, Port.word, List.append_assoc]

variable (loaded : Device → Register → List Bool) (crate : Crate Device)

def Direct.view (direct : Direct Device) :
    Device × List UInt16 × List (Int × Option (Nat → UInt8)) :=
  (direct.boards, direct.outstanding, direct.results)

def Direct.run (direct : Direct Device) (calls : List Call) : Direct Device :=
  runFrom (Direct.step (port.wire ptr loaded crate)) direct calls

def driven (device : Device) (data : UInt16) : Device :=
  device.drive loaded (data.toNat.testBit port.tck) (data.toNat.testBit port.tms)
    (data.toNat.testBit port.tdi)

variable (direct : Direct Device)

lemma view_write (data rcv) :
    (direct.step (port.wire ptr loaded crate) ⟨.bufwrite, ptr, data, 0, rcv⟩).view =
      (driven port loaded direct.boards data, direct.outstanding, direct.results) := by
  simp [Direct.step, Direct.view, Call.command, Call.immediate, Port.wire, Crate.data, driven]

lemma view_send (data rcv) :
    (direct.step (port.wire ptr loaded crate) ⟨.bufwriteSnd, ptr, data, 0, rcv⟩).view =
      (driven port loaded direct.boards data, [],
        direct.results ++ [((direct.outstanding.length : Int), rcv.map fun memory =>
          Memory.store memory 0 (direct.outstanding.flatMap callerBytes))]) := by
  simp [Direct.step, Direct.view, Call.command, Call.immediate, Port.wire, Crate.data, driven]

lemma view_read :
    (direct.step (port.wire ptr loaded crate) (Port.readCall ptr)).view =
      (direct.boards, direct.outstanding ++ [crate.answer direct.boards ptr.toNat],
        direct.results) := by
  simp [Direct.step, Direct.view, Call.command, Call.immediate, Port.wire, Crate.data,
    Port.readCall]

lemma driven_word (device line) :
    driven port loaded (driven port loaded (driven port loaded device (port.word line))
      (port.word line ||| port.TCK)) (port.word line) = device.clock loaded line := by
  obtain ⟨low, tms, tdi⟩ := word_lines port line
  obtain ⟨high, raisedTms, raisedTdi⟩ := clocked_lines port line
  simp only [driven, low, tms, tdi, high, raisedTms, raisedTdi, Device.clock]

lemma triple_eq (data irdwr rcv) :
    port.triple ptr data irdwr rcv =
      [⟨.bufwrite, ptr, data, 0, rcv⟩, ⟨.bufwrite, ptr, data ||| port.TCK, 0, rcv⟩,
        ⟨irdwr, ptr, data, 0, rcv⟩] := rfl

lemma view_twice (line rcv) :
    (direct.run port ptr loaded crate
      [⟨.bufwrite, ptr, port.word line, 0, rcv⟩,
        ⟨.bufwrite, ptr, port.word line ||| port.TCK, 0, rcv⟩]).view =
      (driven port loaded (driven port loaded direct.boards (port.word line))
        (port.word line ||| port.TCK), direct.outstanding, direct.results) := by
  have first := view_write port ptr loaded crate direct (port.word line) rcv
  simp only [Direct.view, Prod.mk.injEq] at first
  obtain ⟨boards, outstanding, results⟩ := first
  rw [Direct.run, runFrom_cons, runFrom_cons, runFrom_nil, view_write, boards, outstanding, results]

lemma view_triple (line rcv) :
    (direct.run port ptr loaded crate (port.triple ptr (port.word line) .bufwrite rcv)).view =
      (direct.boards.clock loaded line, direct.outstanding, direct.results) := by
  have twice := view_twice port ptr loaded crate direct line rcv
  simp only [Direct.view, Prod.mk.injEq] at twice
  obtain ⟨boards, outstanding, results⟩ := twice
  have last := view_write port ptr loaded crate (direct.run port ptr loaded crate
    [⟨.bufwrite, ptr, port.word line, 0, rcv⟩,
      ⟨.bufwrite, ptr, port.word line ||| port.TCK, 0, rcv⟩]) (port.word line) rcv
  rw [boards, outstanding, driven_word] at last
  exact last

lemma view_triple_send (line rcv) :
    (direct.run port ptr loaded crate (port.triple ptr (port.word line) .bufwriteSnd rcv)).view =
      (direct.boards.clock loaded line, [],
        direct.results ++ [((direct.outstanding.length : Int), rcv.map fun memory =>
          Memory.store memory 0 (direct.outstanding.flatMap callerBytes))]) := by
  have twice := view_twice port ptr loaded crate direct line rcv
  simp only [Direct.view, Prod.mk.injEq] at twice
  obtain ⟨boards, outstanding, results⟩ := twice
  have last := view_send port ptr loaded crate (direct.run port ptr loaded crate
    [⟨.bufwrite, ptr, port.word line, 0, rcv⟩,
      ⟨.bufwrite, ptr, port.word line ||| port.TCK, 0, rcv⟩]) (port.word line) rcv
  rw [boards, outstanding, driven_word] at last
  exact last

def Stroke.read (stroke : Stroke) (device : Device) : List UInt16 :=
  if stroke.sample then [crate.answer device ptr.toNat] else []

def samples : Device → List Stroke → List UInt16
  | _, [] => []
  | device, stroke :: rest =>
    stroke.read ptr crate device ++ samples (device.clock loaded stroke.line) rest

lemma view_stroke_read (stroke : Stroke) :
    (direct.run port ptr loaded crate (if stroke.sample then [Port.readCall ptr] else [])).view =
      (direct.boards, direct.outstanding ++ stroke.read ptr crate direct.boards,
        direct.results) := by
  unfold Stroke.read
  cases stroke.sample with
  | false => simp [Direct.run, Direct.view]
  | true => exact view_read port ptr loaded crate direct

lemma view_stroke (stroke : Stroke) :
    (direct.run port ptr loaded crate (stroke.calls port ptr .bufwrite)).view =
      (direct.boards.clock loaded stroke.line,
        direct.outstanding ++ stroke.read ptr crate direct.boards, direct.results) := by
  have read := view_stroke_read port ptr loaded crate direct stroke
  simp only [Direct.view, Prod.mk.injEq] at read
  obtain ⟨boards, outstanding, results⟩ := read
  rw [Direct.run, Stroke.calls, runFrom_append]
  have last := view_triple port ptr loaded crate (direct.run port ptr loaded crate
    (if stroke.sample then [Port.readCall ptr] else [])) stroke.line stroke.rcv
  rw [boards, outstanding, results] at last
  exact last

lemma view_stroke_send (stroke : Stroke) :
    (direct.run port ptr loaded crate (stroke.calls port ptr .bufwriteSnd)).view =
      (direct.boards.clock loaded stroke.line, [],
        direct.results ++
          [(((direct.outstanding ++ stroke.read ptr crate direct.boards).length : Int),
            stroke.rcv.map fun memory => Memory.store memory 0
              ((direct.outstanding ++ stroke.read ptr crate direct.boards).flatMap
                callerBytes))]) := by
  have read := view_stroke_read port ptr loaded crate direct stroke
  simp only [Direct.view, Prod.mk.injEq] at read
  obtain ⟨boards, outstanding, results⟩ := read
  rw [Direct.run, Stroke.calls, runFrom_append]
  have last := view_triple_send port ptr loaded crate (direct.run port ptr loaded crate
    (if stroke.sample then [Port.readCall ptr] else [])) stroke.line stroke.rcv
  rw [boards, outstanding, results] at last
  exact last

def strokeCalls (strokes : List Stroke) : List Call :=
  strokes.flatMap fun stroke => stroke.calls port ptr .bufwrite

lemma view_strokes (strokes) :
    ∀ direct : Direct Device,
      (direct.run port ptr loaded crate (strokeCalls port ptr strokes)).view =
        (direct.boards.clocks loaded (strokes.map Stroke.line),
          direct.outstanding ++ samples ptr loaded crate direct.boards strokes,
          direct.results) := by
  induction strokes with
  | nil => intro direct; simp [strokeCalls, Direct.run, Direct.view, samples, Device.clocks]
  | cons stroke rest ih =>
    intro direct
    have first := view_stroke port ptr loaded crate direct stroke
    simp only [Direct.view, Prod.mk.injEq] at first
    obtain ⟨boards, outstanding, results⟩ := first
    have later := ih (direct.run port ptr loaded crate (stroke.calls port ptr .bufwrite))
    rw [boards, outstanding, results, List.append_assoc] at later
    rw [strokeCalls, List.flatMap_cons, Direct.run, runFrom_append]
    exact later

lemma samples_append (first second device) :
    samples ptr loaded crate device (first ++ second) =
      samples ptr loaded crate device first ++
        samples ptr loaded crate (device.clocks loaded (first.map Stroke.line)) second := by
  induction first generalizing device with
  | nil => rfl
  | cons stroke rest ih =>
    rw [List.cons_append, samples, ih, samples, List.append_assoc]
    rfl

lemma view_program (strokes last) (silent : direct.outstanding = []) :
    let words := samples ptr loaded crate direct.boards (strokes ++ [last])
    (direct.run port ptr loaded crate
      (strokeCalls port ptr strokes ++ last.calls port ptr .bufwriteSnd)).view =
      (direct.boards.clocks loaded ((strokes ++ [last]).map Stroke.line), [],
        direct.results ++ [((words.length : Int),
          last.rcv.map fun memory =>
            Memory.store memory 0 (words.flatMap callerBytes))]) := by
  have earlier := view_strokes port ptr loaded crate strokes direct
  rw [silent] at earlier
  simp only [Direct.view, Prod.mk.injEq] at earlier
  obtain ⟨boards, outstanding, results⟩ := earlier
  have sent := view_stroke_send port ptr loaded crate
    (direct.run port ptr loaded crate (strokeCalls port ptr strokes)) last
  rw [boards, outstanding, results] at sent
  have words : samples ptr loaded crate direct.boards (strokes ++ [last]) =
      samples ptr loaded crate direct.boards strokes ++
        last.read ptr crate (direct.boards.clocks loaded (strokes.map Stroke.line)) := by
    rw [samples_append]
    simp [samples]
  simp only [words, Direct.run, runFrom_append]
  refine sent.trans ?_
  simp [Device.clocks]

end EmuLib.VmeController
