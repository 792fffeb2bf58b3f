import EmuLib.VmeController.ScanReadBack

/-!
The functions against the device behind the port, through the packets of the crate controller.
-/

namespace EmuLib.VmeController

open Memory GuardedRun TapController List

section

variable {Boards : Type*} {crate : Crate Boards}

lemma ordered_of_room {system direct pending kept}
    (represents : Represents crate system direct pending kept) {call : Call}
    {command} (issued : call.command = some command) (quick : call.longDelay = false)
    (room : 2 * (direct.outstanding.length + if call.reads then 1 else 0) ≤ maxLine) :
    system.Ordered call := by
  obtain ⟨carries, header, here, keeps⟩ := represents.filled issued
  refine ⟨fun long => absurd long (by simp [quick]), ?_⟩
  have outstanding := congrArg List.length represents.outstanding
  rw [length_append, crate.serve_length] at outstanding
  rw [keeps.lrgReadPnt, carries.nread, countP_append, countP_singleton, isRead_command issued]
  omega

lemma outstanding_step (crate) (direct : Direct Boards) (call) :
    (direct.step crate call).outstanding.length ≤
      direct.outstanding.length + if call.reads then 1 else 0 := by
  unfold Direct.step
  cases issued : call.command with
  | none => exact Nat.le_add_right _ _
  | some command =>
    have size := crate.data_length direct.boards command
    rw [isRead_command issued] at size
    cases call.immediate with
    | true => exact Nat.zero_le _
    | false =>
      simp only [Bool.false_eq_true, if_false, length_append, size]
      exact Nat.le_refl _

lemma Represents.run_room (calls) :
    ∀ {system : System Boards} {direct : Direct Boards} {pending : List Command}
      {kept : List UInt16}, Represents crate system direct pending kept →
      (∀ call ∈ calls, call.Valid ∧ call.longDelay = false) →
      2 * (direct.outstanding.length + calls.countP Call.reads) ≤ maxLine →
      ∃ pending kept, Represents crate (runFrom (System.step crate) system calls)
        (runFrom (Direct.step crate) direct calls) pending kept := by
  induction calls with
  | nil =>
    intro system direct pending kept represents valid room
    exact ⟨pending, kept, represents⟩
  | cons call rest ih =>
    intro system direct pending kept represents valid room
    obtain ⟨fits, quick⟩ := valid call mem_cons_self
    have later := fun other member => valid other (mem_cons_of_mem call member)
    have step := outstanding_step crate direct call
    rw [countP_cons] at room
    have tail : 2 * ((direct.step crate call).outstanding.length + rest.countP Call.reads) ≤
        maxLine := by
      omega
    cases issued : call.command with
    | none => exact ih (represents.step_no_command fits issued) later tail
    | some command =>
      have ordered := ordered_of_room represents issued quick (by omega)
      obtain ⟨next, following, after⟩ := represents.step_command fits issued ordered
      exact ih after later tail

lemma Represents.empty_after {system : System Boards} {direct pending kept call}
    (represents : Represents crate (system.step crate call) direct pending kept)
    (issued : call.refused = none) (sends : call.sends = true) : pending = [] := by
  have istrt : (system.step crate call).state.statics.istrt = false := by
    simp only [System.step, State.vmeController, issued, sends, if_true]
    exact State.send_istrt _ _ _
  have nvme := represents.carries.nvme
  unfold State.start at nvme
  rw [if_neg (by simp [istrt])] at nvme
  exact length_eq_zero_iff.1 nvme.symm

end

section

variable (port : Port) (ptr : UInt32) (loaded : Device → Register → List Bool)
  (crate : Crate Device)

lemma callerBytes_high (words : List UInt16) :
    ∀ i, (words.flatMap callerBytes)[2 * i + 1]? = words[i]?.map (byteOf ·.toNat 1) := by
  induction words with
  | nil => intro i; rfl
  | cons word rest ih =>
    intro i
    cases i with
    | zero => rfl
    | succ i =>
      exact ih i

lemma sampleBit_stored (words : List UInt16) (i) :
    port.sampleBit (store Port.mytmp 0 (words.flatMap callerBytes)) words.length i =
      (words.map port.tdoOf).getD i false := by
  have high := callerBytes_high words i
  by_cases inside : i < words.length
  · have stored : store Port.mytmp 0 (words.flatMap callerBytes) (2 * i + 1) =
        byteOf words[i].toNat 1 := by
      rw [getElem?_eq_getElem inside] at high
      simp [store, getD_eq_getElem?_getD, high]
    have small : port.tdo < 8 := port.inside.2.2.2
    rw [Port.sampleBit, stored, byteOf_toNat, decide_eq_true inside, Bool.true_and,
      getD_eq_getElem _ _ (by simpa using inside), getElem_map, Port.tdoOf]
    have power : (0x100 : Nat) = 2 ^ 8 := rfl
    rw [power, Nat.testBit_mod_two_pow, decide_eq_true small, Bool.true_and]
  · rw [Port.sampleBit, decide_eq_false inside, Bool.false_and,
      getD_eq_default _ _ (by simpa using inside)]

/-- So many bits were read, and they stand in the bytes one after the other, with zeros behind. -/
def ReadBack (cnt : Nat) (ird : Bool) (words : List UInt16) (rcv : Option (List UInt8)) : Prop :=
  if ird then
    words.length = cnt ∧ ∃ bytes : List UInt8, rcv = some bytes ∧ bytes.length = (cnt + 7) / 8 ∧
      ∀ i < 8 * bytes.length,
        dataBit (fun k => bytes.getD k 0) i = (words.map port.tdoOf).getD i false
  else rcv = none

lemma samples_length (strokes device) :
    (samples ptr loaded crate device strokes).length = strokes.countP Stroke.sample := by
  induction strokes generalizing device with
  | nil => rfl
  | cons stroke rest ih =>
    rw [samples, length_append, ih, countP_cons, Stroke.read]
    cases stroke.sample with
    | false => simp
    | true => simp [Nat.add_comm]

variable {port ptr loaded crate}

lemma call_kinds {strokes} {last : Stroke} {call}
    (member : call ∈ strokeCalls port ptr strokes ++ last.calls port ptr .bufwriteSnd) :
    call = Port.readCall ptr ∨ ∃ irdwr data rcv, call = ⟨irdwr, ptr, data, 0, rcv⟩ ∧
      (irdwr = .bufwrite ∨ irdwr = .bufwriteSnd) := by
  have kinds (stroke : Stroke) (irdwr : Irdwr) (write : irdwr = .bufwrite ∨ irdwr = .bufwriteSnd)
      (inside : call ∈ stroke.calls port ptr irdwr) :
      call = Port.readCall ptr ∨ ∃ irdwr data rcv, call = ⟨irdwr, ptr, data, 0, rcv⟩ ∧
        (irdwr = .bufwrite ∨ irdwr = .bufwriteSnd) := by
    rcases mem_append.1 inside with read | triple
    · cases sample : stroke.sample with
      | false => simp [sample] at read
      | true => exact .inl (by simpa [sample] using read)
    · rw [triple_eq] at triple
      simp only [mem_cons, not_mem_nil, or_false] at triple
      rcases triple with rfl | rfl | rfl
      · exact .inr ⟨_, _, _, rfl, .inl rfl⟩
      · exact .inr ⟨_, _, _, rfl, .inl rfl⟩
      · exact .inr ⟨_, _, _, rfl, write⟩
  rcases mem_append.1 member with before | sent
  · obtain ⟨stroke, _, inside⟩ := mem_flatMap.1 before
    exact kinds stroke .bufwrite (Or.inl rfl) inside
  · exact kinds last .bufwriteSnd (Or.inr rfl) sent

lemma calls_valid (address : 0x80000 ≤ ptr.toNat ∧ ptr.toNat < 0xc00000) {strokes}
    {last : Stroke} :
    ∀ call ∈ strokeCalls port ptr strokes ++ last.calls port ptr .bufwriteSnd,
      call.Valid ∧ call.longDelay = false := by
  intro call member
  have lines : ptr.toNat < 0x1000000 := by omega
  rcases call_kinds member with rfl | ⟨irdwr, data, rcv, rfl, rfl | rfl⟩
  · exact ⟨address, rfl⟩
  · exact ⟨⟨address.1, lines⟩, rfl⟩
  · exact ⟨⟨address.1, lines⟩, rfl⟩

lemma countP_reads (stroke : Stroke) {irdwr} (write : irdwr = .bufwrite ∨ irdwr = .bufwriteSnd) :
    (stroke.calls port ptr irdwr).countP Call.reads = if stroke.sample then 1 else 0 := by
  rw [Stroke.calls]
  rcases write with rfl | rfl
  · cases stroke.sample <;> rfl
  · cases stroke.sample <;> rfl

lemma countP_program (strokes last) :
    (strokeCalls port ptr strokes ++ last.calls port ptr .bufwriteSnd).countP Call.reads =
      (strokes ++ [last]).countP Stroke.sample := by
  rw [countP_append, countP_append, countP_reads last (Or.inr rfl), countP_singleton]
  induction strokes with
  | nil => rfl
  | cons stroke rest ih =>
    rw [strokeCalls, flatMap_cons, countP_append, countP_reads stroke (Or.inl rfl), countP_cons]
    rw [strokeCalls] at ih
    omega

/-- The packets are sent with the last write: the device is clocked, and the calls return what they
do on a crate that executes each of them at once. -/
lemma sent_program (address : 0x80000 ≤ ptr.toNat ∧ ptr.toNat < 0xc00000)
    {system direct pending kept}
    (represents : Represents (port.wire ptr loaded crate) system direct pending kept)
    (silent : direct.outstanding = []) (strokes last)
    (limit : 2 * (strokes ++ [last]).countP Stroke.sample ≤ maxLine) :
    let calls := strokeCalls port ptr strokes ++ last.calls port ptr .bufwriteSnd
    let after := runFrom (System.step (port.wire ptr loaded crate)) system calls
    after.boards = direct.boards.clocks loaded ((strokes ++ [last]).map Stroke.line) ∧
      after.results = (direct.run port ptr loaded crate calls).results := by
  intro calls after
  have view := view_program port ptr loaded crate direct strokes last silent
  simp only [Direct.view, Prod.mk.injEq] at view
  have room : 2 * (direct.outstanding.length + calls.countP Call.reads) ≤ maxLine := by
    rw [silent, countP_program, length_nil, Nat.zero_add]
    exact limit
  obtain ⟨waiting, following, done⟩ := represents.run_room _ (calls_valid address) room
  have split : ∃ earlier,
      calls = earlier ++ [⟨.bufwriteSnd, ptr, port.word last.line, 0, last.rcv⟩] := by
    refine ⟨strokeCalls port ptr strokes ++ (if last.sample then [Port.readCall ptr] else []) ++
      [⟨.bufwrite, ptr, port.word last.line, 0, last.rcv⟩,
        ⟨.bufwrite, ptr, port.word last.line ||| port.TCK, 0, last.rcv⟩], ?_⟩
    simp only [calls, Stroke.calls, triple_eq]
    simp
  have none_ : waiting = [] := by
    obtain ⟨earlier, same⟩ := split
    have member : (⟨.bufwriteSnd, ptr, port.word last.line, 0, last.rcv⟩ : Call) ∈ calls := by
      rw [same]
      exact mem_append_right earlier mem_cons_self
    have valid := (@calls_valid port ptr address strokes last _ member).1
    change Represents _ (runFrom _ _ calls) _ _ _ at done
    rw [same, runFrom_append] at done
    exact done.empty_after (refused_of_command valid rfl) rfl
  have served := done.boards
  rw [none_] at served
  exact ⟨served.trans view.1, done.results⟩

lemma scan_program (address : 0x80000 ≤ ptr.toNat ∧ ptr.toNat < 0xc00000)
    {system direct pending kept}
    (represents : Represents (port.wire ptr loaded crate) system direct pending kept)
    (silent : direct.outstanding = []) (low : direct.boards.tck = false) {strokes last}
    (rcv : last.rcv = some Port.mytmp) {cnt ird}
    (reads : Reads ird direct.boards.tap (strokes ++ [last]))
    (sampled : (strokes ++ [last]).countP Stroke.sample = if ird then cnt else 0)
    (limit : 2 * cnt ≤ maxLine) :
    let after := system.scan port (port.wire ptr loaded crate)
      (strokeCalls port ptr strokes ++ last.calls port ptr .bufwriteSnd) cnt ird
    let lines := (strokes ++ [last]).map Stroke.line
    after.1.boards = direct.boards.clocks loaded lines ∧
      ReadBack port cnt ird (presented ptr loaded crate direct.boards lines) after.2 := by
  intro after lines
  have view := view_program port ptr loaded crate direct strokes last silent
  have words := samples_presented ptr loaded crate (strokes ++ [last]) low reads
  have size := samples_length ptr loaded crate (strokes ++ [last]) direct.boards
  rw [sampled] at size
  have room : 2 * (strokes ++ [last]).countP Stroke.sample ≤ maxLine := by
    rw [sampled]
    split
    · exact limit
    · exact Nat.zero_le _
  obtain ⟨boards, same⟩ := sent_program address represents silent strokes last room
  refine ⟨boards, ?_⟩
  have returned : after.2 = if ird then
      some (port.combine (store Port.mytmp 0 ((samples ptr loaded crate direct.boards
        (strokes ++ [last])).flatMap callerBytes)) cnt) else none := by
    simp only [Direct.view, Prod.mk.injEq, rcv, Option.map_some] at view
    have results := same.trans view.2.2
    simp only [after, System.scan, results]
    simp
  cases ird with
  | false => exact returned
  | true =>
    simp only [if_true] at words size returned
    refine ⟨by rw [← words, size], _, returned, combine_length port _ _, ?_⟩
    intro i inside
    rw [combine_length] at inside
    rw [combine_bit port _ _ inside, words]
    rw [words] at size
    have bit := sampleBit_stored port (presented ptr loaded crate direct.boards lines) i
    rw [size] at bit
    exact bit

end

variable (port : Port) (ptr : UInt32) (loaded : Device → Register → List Bool)
  (crate : Crate Device)

def scanLines (register : Register) (words : List (List Bool)) : List (Bool × Bool) :=
  words.flatMap fun bits => entry register ++ lastRaised bits ++ leaving

/-- The bits go through the register word by word, each word is updated once, and what was presented
is read back. -/
structure Scanned (register : Register) (words : List (List Bool)) (cnt : Nat) (ird : Bool)
    (device : Device) (after : System Device × Option (List UInt8)) : Prop where
  clocked : after.1.boards = device.clocks loaded (scanLines register words)
  idle : after.1.boards.tap = .runTestIdle
  low : after.1.boards.tck = false
  log : after.1.boards.log = device.log ++ words.flatMap (scan register)
  readBack : ReadBack port cnt ird
    (presented ptr loaded crate device (scanLines register words)) after.2

def shiftLines (leaves : Bool) (bits : List Bool) : List (Bool × Bool) :=
  if leaves then lastRaised bits else bits.map fun tdi => (false, tdi)

structure Shifted (register : Register) (leaves : Bool) (bits : List Bool) (ird : Bool)
    (device : Device) (after : System Device × Option (List UInt8)) : Prop where
  clocked : after.1.boards = device.clocks loaded (shiftLines leaves bits)
  tap : after.1.boards.tap = if leaves then .exit1 register else .shift register
  low : after.1.boards.tck = false
  log : after.1.boards.log = device.log ++ bits.map (.shifted register)
  readBack : ReadBack port bits.length ird
    (presented ptr loaded crate device (shiftLines leaves bits)) after.2

variable {port ptr loaded crate} {system : System Device} {direct : Direct Device}
  {pending : List Command} {kept : List UInt16} {reg : Nat} (snd : Nat → UInt8) (ird : Bool)

lemma map_line_unread (rcv) (lines : List (Bool × Bool)) :
    (lines.map (unread rcv)).map Stroke.line = lines := by
  rw [map_map]
  exact map_id lines

lemma map_line_shift (lines : List (Bool × Bool)) :
    (lines.map (shiftStroke ird)).map Stroke.line = lines := by
  rw [map_map]
  exact map_id lines

lemma countP_unread (rcv) (lines : List (Bool × Bool)) :
    (lines.map (unread rcv)).countP Stroke.sample = 0 := by
  rw [countP_map, countP_eq_zero]
  intro line _
  exact Bool.false_ne_true

lemma countP_shift (lines : List (Bool × Bool)) :
    (lines.map (shiftStroke ird)).countP Stroke.sample = if ird then lines.length else 0 := by
  rw [countP_map]
  cases ird with
  | false => exact countP_eq_zero.2 fun line _ => Bool.false_ne_true
  | true => exact countP_eq_length.2 fun line _ => rfl

lemma lastRaised_length (bits) : (lastRaised bits).length = bits.length := by
  induction bits with
  | nil => rfl
  | cons tdi rest ih =>
    cases rest with
    | nil => rfl
    | cons next further =>
      rw [lastRaised, length_cons, ih]
      · rfl
      · intro none_
        cases none_

def joinedStrokes (reg : Nat) (ird : Bool) (first : List Bool) (rest : List (List Bool)) :
    List Stroke :=
  (entry (registerOf reg)).map (unread none) ++
    ((lastRaised first).map (shiftStroke ird) ++
      rest.flatMap fun bits => betweenStrokes ++ (lastRaised bits).map (shiftStroke ird)) ++
    [unread (some Port.mytmp) (true, false)]

def joinedLines (register : Register) (first : List Bool) (rest : List (List Bool)) :
    List (Bool × Bool) :=
  entry register ++ (lastRaised first ++ rest.flatMap fun bits => between ++ lastRaised bits) ++
    leaving

lemma joined_last (reg first rest) :
    joinedStrokes reg ird first rest ++ [lastStroke] =
      (entry (registerOf reg)).map (unread none) ++
        ((lastRaised first).map (shiftStroke ird) ++
          rest.flatMap fun bits => betweenStrokes ++ (lastRaised bits).map (shiftStroke ird)) ++
        leaving.map (unread (some Port.mytmp)) := by
  simp [joinedStrokes, lastStroke, leaving]

lemma joined_lines (reg first rest) :
    (joinedStrokes reg ird first rest ++ [lastStroke]).map Stroke.line =
      joinedLines (registerOf reg) first rest := by
  have words : (rest.flatMap fun bits =>
      betweenStrokes ++ (lastRaised bits).map (shiftStroke ird)).map Stroke.line =
      rest.flatMap fun bits => between ++ lastRaised bits := by
    rw [map_flatMap]
    refine congrArg (List.flatMap · rest) ?_
    funext bits
    rw [map_append, betweenStrokes, map_line_unread, map_line_shift]
  rw [joined_last, map_append, map_append, map_append, words, map_line_unread, map_line_shift]
  rfl

lemma follow_between (register log) :
    follow (.exit1 register, log) between =
      (.shift .data, log ++ [.updated register] ++ [.captured .data]) := by
  rw [between, follow_append, follow_leaving, follow_entry]

lemma follow_rest (rest : List (List Bool)) (some_ : ∀ bits ∈ rest, bits ≠ []) :
    ∀ (register : Register) (log : List Action),
      follow (.exit1 register, log)
        ((rest.flatMap fun bits => between ++ lastRaised bits) ++ leaving) =
      (.runTestIdle, log ++ [.updated register] ++ rest.flatMap (scan .data)) := by
  induction rest with
  | nil => intro register log; rw [flatMap_nil, nil_append, follow_leaving]; simp
  | cons bits rest ih =>
    intro register log
    have bit := some_ bits mem_cons_self
    have later := ih (fun other member => some_ other (mem_cons_of_mem bits member))
    rw [flatMap_cons, append_assoc, append_assoc, follow_append, follow_between,
      follow_append, follow_lastRaised .data _ bits bit, later]
    simp [scan]

lemma follow_joined (register first) (some_ : first ≠ [])
    (rest) (others : ∀ bits ∈ rest, bits ≠ []) (log) :
    follow (.runTestIdle, log) (joinedLines register first rest) =
      (.runTestIdle, log ++ scan register first ++ rest.flatMap (scan .data)) := by
  rw [joinedLines, append_assoc, append_assoc, follow_append, follow_entry, follow_append,
    follow_lastRaised register _ first some_, follow_rest rest others]
  simp [scan]

lemma tapAfter_lastRaised (register bits) (some_ : bits ≠ []) :
    tapAfter (.shift register) (lastRaised bits) = .exit1 register := by
  rw [tapAfter, follow_lastRaised register [] bits some_]

lemma tapAfter_entry (register) : tapAfter .runTestIdle (entry register) = .shift register := by
  rw [tapAfter, follow_entry]

lemma tapAfter_leaving (register) : tapAfter (.exit1 register) leaving = .runTestIdle := by
  rw [tapAfter, follow_leaving]

lemma tapAfter_between (register) : tapAfter (.exit1 register) between = .shift .data := by
  rw [tapAfter, follow_between]

lemma reads_between (register) : Reads ird (.exit1 register) betweenStrokes := by
  apply reads_append _ _ (reads_leaving ird register none)
  rw [map_line_unread]
  exact reads_entry ird .data none

lemma reads_rest (rest : List (List Bool)) (some_ : ∀ bits ∈ rest, bits ≠ []) :
    ∀ register : Register, Reads ird (.exit1 register)
      ((rest.flatMap fun bits => betweenStrokes ++ (lastRaised bits).map (shiftStroke ird)) ++
        leaving.map (unread (some Port.mytmp))) := by
  induction rest with
  | nil => intro register; exact reads_leaving ird register _
  | cons bits rest ih =>
    intro register
    have bit := some_ bits mem_cons_self
    have later := ih (fun other member => some_ other (mem_cons_of_mem bits member)) .data
    rw [flatMap_cons, append_assoc]
    apply reads_append _ _ (reads_between ird register)
    rw [betweenStrokes]
    apply reads_append _ _ (reads_lastRaised ird .data bits)
    rw [map_line_shift, tapAfter_lastRaised .data bits bit]
    exact later

lemma reads_joined (reg first) (some_ : first ≠ []) (rest) (others : ∀ bits ∈ rest, bits ≠ []) :
    Reads ird .runTestIdle (joinedStrokes reg ird first rest ++ [lastStroke]) := by
  rw [joined_last, append_assoc, append_assoc]
  apply reads_append _ _ (reads_entry ird (registerOf reg) none)
  rw [map_line_unread, tapAfter_entry]
  apply reads_append _ _ (reads_lastRaised ird (registerOf reg) first)
  rw [map_line_shift, tapAfter_lastRaised _ first some_]
  exact reads_rest ird rest others (registerOf reg)

lemma countP_joined (reg first rest) :
    (joinedStrokes reg ird first rest ++ [lastStroke]).countP Stroke.sample =
      if ird then first.length + (rest.map List.length).sum else 0 := by
  have words : (rest.flatMap fun bits =>
      betweenStrokes ++ (lastRaised bits).map (shiftStroke ird)).countP Stroke.sample =
      if ird then (rest.map List.length).sum else 0 := by
    induction rest with
    | nil => cases ird <;> rfl
    | cons bits rest ih =>
      rw [flatMap_cons, countP_append, countP_append, ih, betweenStrokes,
        countP_unread, countP_shift, lastRaised_length]
      cases ird <;> simp
  rw [joined_last, countP_append, countP_append, countP_append, countP_unread,
    countP_unread, words, countP_shift, lastRaised_length]
  cases ird <;> simp

end EmuLib.VmeController
