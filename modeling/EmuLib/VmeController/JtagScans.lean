import EmuLib.VmeController.BitBangJtag

/-!
The three functions on a device: the register that is scanned, the bits that are shifted, and what
is read back.
-/

namespace EmuLib.VmeController

open GuardedRun TapController List

section

variable {port : Port} {ptr : UInt32} {loaded : Device → Register → List Bool}
  {crate : Crate Device} {system : System Device} {direct : Direct Device}
  {pending : List Command} {kept : List UInt16} {reg cnt : Nat}

lemma rest_lines (rest) :
    (rest.flatMap fun bits => between ++ lastRaised bits) ++ leaving =
      leaving ++ scanLines .data rest := by
  induction rest with
  | nil => rfl
  | cons bits rest ih =>
    rw [flatMap_cons, append_assoc, ih, scanLines, scanLines, flatMap_cons]
    simp only [between, append_assoc]

lemma joined_scans (register first rest) :
    joinedLines register first rest = scanLines register [first] ++ scanLines .data rest := by
  rw [joinedLines, append_assoc, append_assoc, rest_lines]
  simp [scanLines]

lemma scanLines_cons (register first rest) :
    scanLines register (first :: rest) = scanLines register [first] ++ scanLines register rest := by
  simp [scanLines]

lemma joined_program (ird) (address : 0x80000 ≤ ptr.toNat ∧ ptr.toNat < 0xc00000)
    (represents : Represents (port.wire ptr loaded crate) system direct pending kept)
    (silent : direct.outstanding = []) (low : direct.boards.tck = false)
    (idle : direct.boards.tap = .runTestIdle) {first} (some_ : first ≠ []) {rest}
    (others : ∀ bits ∈ rest, bits ≠ []) (size : first.length + (rest.map List.length).sum = cnt)
    (limit : 2 * cnt ≤ maxLine) :
    let after := system.scan port (port.wire ptr loaded crate)
      (strokeCalls port ptr (joinedStrokes reg ird first rest) ++
        lastStroke.calls port ptr .bufwriteSnd) cnt ird
    let lines := scanLines (registerOf reg) [first] ++ scanLines .data rest
    after.1.boards = direct.boards.clocks loaded lines ∧
      after.1.boards.tap = .runTestIdle ∧ after.1.boards.tck = false ∧
      after.1.boards.log =
        direct.boards.log ++ scan (registerOf reg) first ++ rest.flatMap (scan .data) ∧
      ReadBack port cnt ird (presented ptr loaded crate direct.boards lines) after.2 := by
  intro after lines
  have reads := reads_joined ird reg first some_ rest others
  rw [← idle] at reads
  have sampled := countP_joined ird reg first rest
  rw [size] at sampled
  have program := scan_program address represents silent low rfl reads sampled limit
  rw [joined_lines, joined_scans] at program
  obtain ⟨clocked, readBack⟩ := program
  have reached := clocks_follow loaded lines low
  have final := follow_joined (registerOf reg) first some_ rest others direct.boards.log
  rw [joined_scans] at final
  rw [idle, final, ← clocked, Prod.mk.injEq] at reached
  exact ⟨clocked, reached.2.1, reached.1, reached.2.2, readBack⟩

variable (snd : Nat → UInt8)

lemma bitsOf_length (cnt) : (bitsOf snd cnt).length = cnt := by
  rw [bitsOf, length_map, length_range]

lemma bitsOf_ne_nil (positive : 1 ≤ cnt) : bitsOf snd cnt ≠ [] := by
  intro none_
  have size := bitsOf_length snd cnt
  rw [none_, length_nil] at size
  omega

lemma scanJtag_scanned (ird) (address : 0x80000 ≤ ptr.toNat ∧ ptr.toNat < 0xc00000)
    (represents : Represents (port.wire ptr loaded crate) system direct pending kept)
    (silent : direct.outstanding = []) (low : direct.boards.tck = false)
    (idle : direct.boards.tap = .runTestIdle) (valid : reg ≤ 1) (positive : 1 ≤ cnt)
    (limit : 2 * cnt ≤ maxLine) :
    Scanned port ptr loaded crate (registerOf reg) [bitsOf snd cnt] cnt ird direct.boards
      (system.scan port (port.wire ptr loaded crate) (port.scanJtagCalls ptr reg snd cnt ird) cnt
        ird) := by
  obtain ⟨count, rfl⟩ : ∃ count, cnt = count + 1 := ⟨cnt - 1, by omega⟩
  have size := bitsOf_length snd (count + 1)
  have some_ := bitsOf_ne_nil snd positive
  have calls : port.scanJtagCalls ptr reg snd (count + 1) ird =
      strokeCalls port ptr (joinedStrokes reg ird (bitsOf snd (count + 1)) []) ++
        lastStroke.calls port ptr .bufwriteSnd := by
    rw [scanJtagCalls_eq port ptr snd ird valid count]
    simp [scanStrokes, joinedStrokes]
  have program := @joined_program port ptr loaded crate system direct pending kept reg
    (count + 1) ird address represents silent low idle (bitsOf snd (count + 1)) some_ []
    (fun bits none_ => absurd none_ not_mem_nil) (by simpa using size) limit
  rw [← calls] at program
  obtain ⟨clocked, tap, tck, log, readBack⟩ := program
  have lines : scanLines (registerOf reg) [bitsOf snd (count + 1)] ++ scanLines .data [] =
      scanLines (registerOf reg) [bitsOf snd (count + 1)] := append_nil _
  rw [lines] at clocked readBack
  exact ⟨clocked, tap, tck, by rw [log]; simp, readBack⟩

lemma registerOf_data (reg) : registerOf reg = .data ↔ reg ≠ 0 := by
  unfold registerOf
  split
  · next zero => simp [zero]
  · next other => simp [other]

lemma flatMap_scan_data {register rest}
    (same : rest.flatMap (scan .data) = rest.flatMap (scan register)) :
    register = .data ∨ rest = [] := by
  cases rest with
  | nil => exact .inr rfl
  | cons bits rest =>
    rw [flatMap_cons, flatMap_cons, scan, scan] at same
    simp only [cons_append, List.cons.injEq, Action.captured.injEq] at same
    exact .inl same.1.symm

lemma joined_scanned_iff (ird) (address : 0x80000 ≤ ptr.toNat ∧ ptr.toNat < 0xc00000)
    (represents : Represents (port.wire ptr loaded crate) system direct pending kept)
    (silent : direct.outstanding = []) (low : direct.boards.tck = false)
    (idle : direct.boards.tap = .runTestIdle) {first} (some_ : first ≠ [])
    {rest} (others : ∀ bits ∈ rest, bits ≠ [])
    (size : first.length + (rest.map List.length).sum = cnt) (limit : 2 * cnt ≤ maxLine) :
    Scanned port ptr loaded crate (registerOf reg) (first :: rest) cnt ird direct.boards
      (system.scan port (port.wire ptr loaded crate)
        (strokeCalls port ptr (joinedStrokes reg ird first rest) ++
          lastStroke.calls port ptr .bufwriteSnd) cnt ird) ↔
      registerOf reg = .data ∨ rest = [] := by
  obtain ⟨clocked, tap, tck, log, readBack⟩ := @joined_program port ptr loaded crate system direct
    pending kept reg cnt ird address represents silent low idle first some_ rest others size limit
  constructor
  · intro scanned
    have logged := scanned.log
    rw [log, flatMap_cons, append_assoc, append_cancel_left_eq, append_cancel_left_eq] at logged
    exact flatMap_scan_data logged
  · intro which
    have lines : scanLines (registerOf reg) [first] ++ scanLines .data rest =
        scanLines (registerOf reg) (first :: rest) := by
      rcases which with data | rfl
      · rw [data, scanLines_cons .data first rest]
      · exact append_nil _
    have logged : scan (registerOf reg) first ++ rest.flatMap (scan .data) =
        (first :: rest).flatMap (scan (registerOf reg)) := by
      rw [flatMap_cons]
      rcases which with data | rfl
      · rw [data]
      · rfl
    rw [lines] at clocked readBack
    rw [append_assoc, logged] at log
    exact ⟨clocked, tap, tck, log, readBack⟩

lemma wordAt_length (cnt w) : (wordAt snd cnt w).length = min 32 (cnt - 32 * w) := by
  rw [wordAt, length_map, length_range]

lemma words_length (words) : ∀ {cnt : Nat}, 32 * words < cnt → cnt ≤ 32 * words + 32 →
    (wordAt snd cnt 0).length +
      (((List.range words).map fun w => wordAt snd cnt (w + 1)).map List.length).sum = cnt := by
  intro cnt below above
  rw [map_map]
  have each : ∀ count ≤ words, (wordAt snd cnt 0).length +
      ((List.range count).map (List.length ∘ fun w => wordAt snd cnt (w + 1))).sum =
      min (32 * (count + 1)) cnt := by
    intro count
    induction count with
    | zero => intro _; simp [wordAt_length]
    | succ count ih =>
      intro inside
      have before := ih (by omega)
      rw [range_succ, map_append, sum_append, ← Nat.add_assoc, before]
      simp only [map_cons, map_nil, Function.comp_apply, wordAt_length, sum_cons, sum_nil]
      omega
  rw [each words (Nat.le_refl _)]
  omega

lemma wordsOf_eq (positive : 1 ≤ cnt) :
    wordsOf snd cnt =
      wordAt snd cnt 0 :: (List.range ((cnt - 1) / 32)).map fun w => wordAt snd cnt (w + 1) := by
  have more : (cnt + 31) / 32 = (cnt - 1) / 32 + 1 := by omega
  rw [wordsOf, more, range_succ_eq_map, map_cons, map_map]
  rfl

lemma scanWord_scanned_iff (ird) (address : 0x80000 ≤ ptr.toNat ∧ ptr.toNat < 0xc00000)
    (represents : Represents (port.wire ptr loaded crate) system direct pending kept)
    (silent : direct.outstanding = []) (low : direct.boards.tck = false)
    (idle : direct.boards.tap = .runTestIdle) (valid : reg ≤ 1) (positive : 1 ≤ cnt)
    (limit : 2 * cnt ≤ maxLine) :
    Scanned port ptr loaded crate (registerOf reg) (wordsOf snd cnt) cnt ird direct.boards
      (system.scan port (port.wire ptr loaded crate) (port.scanWordCalls ptr reg snd cnt ird) cnt
        ird) ↔ reg = 1 ∨ cnt ≤ 32 := by
  have calls : port.scanWordCalls ptr reg snd cnt ird =
      strokeCalls port ptr (joinedStrokes reg ird (wordAt snd cnt 0)
        ((List.range ((cnt - 1) / 32)).map fun w => wordAt snd cnt (w + 1))) ++
        lastStroke.calls port ptr .bufwriteSnd := by
    rw [scanWordCalls_eq port ptr snd ird cnt valid positive, joinedStrokes, flatMap_map]
    rfl
  have some_ {w : Nat} (inside : 32 * w < cnt) : wordAt snd cnt w ≠ [] := by
    intro none_
    have size := wordAt_length snd cnt w
    rw [none_, length_nil] at size
    omega
  have others : ∀ bits ∈ (List.range ((cnt - 1) / 32)).map fun w => wordAt snd cnt (w + 1),
      bits ≠ [] := by
    intro bits member
    obtain ⟨w, inside, rfl⟩ := mem_map.1 member
    have below := mem_range.1 inside
    exact some_ (by omega)
  have size := words_length snd ((cnt - 1) / 32) (by omega : 32 * ((cnt - 1) / 32) < cnt)
    (by omega)
  rw [calls, wordsOf_eq snd positive, joined_scanned_iff ird address represents silent low idle
    (some_ (by omega)) others size limit, registerOf_data, map_eq_nil_iff,
    range_eq_nil]
  omega

section

variable {leaves : Bool} {bits : List Bool}

lemma shiftLines_length : (shiftLines leaves bits).length = bits.length := by
  unfold shiftLines
  split
  · exact lastRaised_length bits
  · exact length_map _

lemma follow_shiftLines (register log) (some_ : bits ≠ []) :
    follow (.shift register, log) (shiftLines leaves bits) =
      (if leaves then .exit1 register else .shift register,
        log ++ bits.map (.shifted register)) := by
  unfold shiftLines
  split
  · exact follow_lastRaised register log bits some_
  · exact follow_shift register log bits

lemma reads_shiftLines (ird register) :
    Reads ird (.shift register) ((shiftLines leaves bits).map (shiftStroke ird)) := by
  unfold shiftLines
  split
  · exact reads_lastRaised ird register bits
  · rw [map_map]
    exact reads_lines ird register bits

lemma shiftLines_strokes (ird leaves count) :
    ((bitsOf snd count).map fun tdi => shiftStroke ird (false, tdi)) ++
      [shiftStroke ird (leaves, dataBit snd count)] =
      (shiftLines leaves (bitsOf snd (count + 1))).map (shiftStroke ird) := by
  cases leaves with
  | true => simp [shiftLines, lastRaised_bitsOf]
  | false => simp [shiftLines, bitsOf, range_succ]

lemma shiftBits_shifted (ird) (address : 0x80000 ≤ ptr.toNat ∧ ptr.toNat < 0xc00000)
    (represents : Represents (port.wire ptr loaded crate) system direct pending kept)
    (silent : direct.outstanding = []) (low : direct.boards.tck = false) {register}
    (shift : direct.boards.tap = .shift register) (valid : reg ≤ 1) (positive : 1 ≤ cnt)
    (limit : 2 * cnt ≤ maxLine) :
    Shifted port ptr loaded crate register (decide (reg = 1)) (bitsOf snd cnt) ird direct.boards
      (system.scan port (port.wire ptr loaded crate) (port.shiftBitsCalls ptr reg snd cnt ird) cnt
        ird) := by
  obtain ⟨count, rfl⟩ : ∃ count, cnt = count + 1 := ⟨cnt - 1, by omega⟩
  have size := bitsOf_length snd (count + 1)
  have some_ := bitsOf_ne_nil snd positive
  have strokes := shiftLines_strokes snd ird (decide (reg = 1)) count
  have reads := @reads_shiftLines (decide (reg = 1)) (bitsOf snd (count + 1)) ird register
  have sampled := countP_shift ird (shiftLines (decide (reg = 1)) (bitsOf snd (count + 1)))
  rw [← strokes, ← shift] at reads
  rw [shiftLines_length, size, ← strokes] at sampled
  have program := scan_program address represents silent low rfl reads sampled limit
  rw [strokes, map_line_shift, ← shiftBitsCalls_eq port ptr snd ird valid count] at program
  obtain ⟨clocked, readBack⟩ := program
  have reached :=
    clocks_follow loaded (shiftLines (decide (reg = 1)) (bitsOf snd (count + 1))) low
  rw [shift, follow_shiftLines register _ some_, ← clocked, Prod.mk.injEq] at reached
  refine ⟨clocked, reached.2.1, reached.1, reached.2.2, ?_⟩
  rw [size]
  exact readBack

end

end

/-- Where the device is idle, or in a shift state. -/
theorem bit_banged_jtag (port : Port) (ptr : UInt32)
    (address : 0x80000 ≤ ptr.toNat ∧ ptr.toNat < 0xc00000) (loaded : Device → Register → List Bool)
    (crate : Crate Device) {system : System Device} {direct : Direct Device}
    {pending : List Command} {kept : List UInt16}
    (represents : Represents (port.wire ptr loaded crate) system direct pending kept)
    (silent : direct.outstanding = []) (low : direct.boards.tck = false) {reg : Nat}
    (valid : reg ≤ 1) {cnt : Nat} (positive : 1 ≤ cnt) (limit : 2 * cnt ≤ maxLine)
    (snd : Nat → UInt8) (ird : Bool) :
    let device := direct.boards
    let after := fun calls => system.scan port (port.wire ptr loaded crate) calls cnt ird
    (device.tap = .runTestIdle →
      Scanned port ptr loaded crate (registerOf reg) [bitsOf snd cnt] cnt ird device
        (after (port.scanJtagCalls ptr reg snd cnt ird)) ∧
      (Scanned port ptr loaded crate (registerOf reg) (wordsOf snd cnt) cnt ird device
        (after (port.scanWordCalls ptr reg snd cnt ird)) ↔ reg = 1 ∨ cnt ≤ 32)) ∧
    ∀ register, device.tap = .shift register →
      Shifted port ptr loaded crate register (decide (reg = 1)) (bitsOf snd cnt) ird device
        (after (port.shiftBitsCalls ptr reg snd cnt ird)) := by
  refine ⟨fun idle => ⟨?_, ?_⟩, fun register shift => ?_⟩
  · exact scanJtag_scanned snd ird address represents silent low idle valid positive limit
  · exact scanWord_scanned_iff snd ird address represents silent low idle valid positive limit
  · exact shiftBits_shifted snd ird address represents silent low shift valid positive limit

def examplePort : Port where
  tck := 2
  tms := 1
  tdi := 0
  tdo := 7
  pvme := 0x00d8
  inside := by decide
  distinct := by decide
  low := by decide

def exampleBoard : Crate Device where
  execute := fun device _ => device
  answer := fun device _ => if shifting device.tap then 0x8000 else 0
  serverAddr := exampleCrate.serverAddr
  crateAddr := exampleCrate.crateAddr
  server := exampleCrate.server
  crate := exampleCrate.crate
  addressed := exampleCrate.addressed

def idleDevice : Device := ⟨.runTestIdle, false, fun _ => [], []⟩

def exampleLoaded : Device → Register → List Bool := fun _ _ => [true, false]

def exampleWire : Crate Device := examplePort.wire 0x80000 exampleLoaded exampleBoard

theorem bit_banged_jtag_scan :
    Scanned examplePort 0x80000 exampleLoaded exampleBoard .data [bitsOf (fun _ => 0x05) 3] 3 true
      idleDevice ((System.start exampleController idleDevice).scan examplePort exampleWire
        (examplePort.scanJtagCalls 0x80000 1 (fun _ => 0x05) 3 true) 3 true) := by
  have start := Represents.start exampleWire
    (rfl : exampleController.hwDestAddr = exampleWire.crateAddr) idleDevice
  exact ((bit_banged_jtag examplePort 0x80000 (by decide) exampleLoaded exampleBoard start rfl rfl
    (Nat.le_refl 1) (by decide) (by decide) (fun _ => 0x05) true).1 rfl).1

/-- The second word of 33 bits for the instruction register goes to the data register. -/
theorem word_to_other_register :
    ¬Scanned examplePort 0x80000 exampleLoaded exampleBoard .instruction
      (wordsOf (fun _ => 0) 33) 33 false idleDevice
      ((System.start exampleController idleDevice).scan examplePort exampleWire
        (examplePort.scanWordCalls 0x80000 0 (fun _ => 0) 33 false) 33 false) := by
  have start := Represents.start exampleWire
    (rfl : exampleController.hwDestAddr = exampleWire.crateAddr) idleDevice
  intro scanned
  have which := (scanWord_scanned_iff (fun _ => 0) false (by decide) start rfl rfl rfl
    (Nat.zero_le 1) (by decide) (by decide)).1 scanned
  omega

end EmuLib.VmeController
