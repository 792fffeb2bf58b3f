import EmuLib.Daqmb.EpromRun
import EmuLib.Vme.McsRoundTrip

/-!
The programming of an EPROM from a file, and the file that is read back.
-/

namespace EmuLib.Daqmb

open WordFlash Vme List

variable {memory : Nat → Nat} {history : List Event}

def programmedMemory (bufin : Nat → UInt8) (memory : Nat → Nat) : Nat → Nat :=
  programmedFrom (bufw bufin) 0 firmwareSize (erasedUpTo eraseBlocks memory)

def programmedHistory (bufin : Nat → UInt8) : List Event :=
  erases eraseBlocks ++ programs (bufw bufin) 0 firmwareSize

lemma wordsFrom_length (bufin start count) : (wordsFrom bufin start count).length = count := by
  simp [wordsFrom]

lemma bufw_small (bufin index) : bufw bufin index < 0x10000 := by
  have low := (bufin (2 * index)).toNat_lt
  have high := (bufin (2 * index + 1)).toNat_lt
  unfold bufw
  omega

def finalAddress : Nat := writeBlockCount * writeSize

lemma Bpi.Ready.locked {bpi : Bpi} (ready : bpi.Ready memory history) :
    (bpi.writeAll ([withCount (finalAddress >>> 16) xpromLoadAddress, finalAddress &&& 0xffff] ++
      [xpromBlockLock])).Ready memory history := by
  obtain ⟨loaded, _⟩ := ready.loaded (finalAddress &&& 0xffff)
    (by decide : finalAddress >>> 16 < 0x800)
  exact loaded.quietAll (by simp)

def dcfebDevice : Device DcfebAccess Dcfeb := ⟨Dcfeb.access, Dcfeb.bpi⟩

lemma dcfebXpromDo_writes (command) : dcfebDevice.Writes (dcfebXpromDo command) [command] := by
  intro state
  rfl

lemma dcfebBpiReset_writes : dcfebDevice.Writes dcfebBpiReset [] := fun _ => rfl
lemma dcfebBpiDisable_writes : dcfebDevice.Writes dcfebBpiDisable [] := fun _ => rfl
lemma dcfebBpiEnable_writes : dcfebDevice.Writes dcfebBpiEnable [] := fun _ => rfl

lemma dcfebpromMulti_data (state) (selected : state.jfunc = epromBpiWrite) (words) :
    dcfebDevice.run state (words.map (DcfebAccess.cfebDo vtx6Usr2 16)) =
      { state with bpi := state.bpi.writeAll words } := by
  induction words generalizing state with
  | nil => rfl
  | cons word others ih =>
    have one : state.access (.cfebDo vtx6Usr2 16 word) =
        { state with bpi := state.bpi.write word } := by
      rw [Dcfeb.access, if_neg (by decide), if_pos ⟨rfl, rfl, selected⟩]
    change dcfebDevice.run (state.access (.cfebDo vtx6Usr2 16 word)) _ = _
    rw [one, ih { state with bpi := state.bpi.write word } selected]
    rfl

lemma dcfebpromMulti_writes (words) : dcfebDevice.Writes (dcfebpromMulti words) words := by
  intro state
  have data := dcfebpromMulti_data { state with jfunc := epromBpiWrite } rfl words
  rw [dcfebpromMulti, cons_append, Device.run, foldl_cons, foldl_append]
  change Dcfeb.bpi (foldl Dcfeb.access (dcfebDevice.run { state with jfunc := epromBpiWrite }
    (words.map (DcfebAccess.cfebDo vtx6Usr2 16))) [.cfebDo vtx6Bypass 0 0]) = _
  rw [data]
  rfl

lemma dcfebpromBufferprogram_writes (words) :
    dcfebDevice.Writes (dcfebpromBufferprogram words)
      (withCount (words.length - 1) xpromBufferProgram :: words) :=
  dcfebpromMulti_writes (withCount (words.length - 1) xpromBufferProgram :: words)

variable {block : Nat}

lemma dcfebEraseBlock_achieves (small : block < 0x800) (polled memory history) :
    dcfebDevice.Achieves (dcfebEraseBlock block polled) memory history
      (blockErased block memory) (history ++ [.erase block]) :=
  .written polled ((dcfebpromMulti_writes _).append (dcfebpromMulti_writes _))
    fun _ ready => ready.erased small

lemma dcfebRestart_writes : dcfebDevice.Writes
    (dcfebBpiDisable ++ dcfebBpiReset ++ dcfebBpiEnable ++ dcfebpromTimerstop ++
      dcfebpromTimerreset ++ dcfebpromTimerstart ++ dcfebpromClearstatus)
    [xpromTimerStop, xpromTimerReset, xpromTimerStart, xpromClearStatus] :=
  (((((dcfebBpiDisable_writes.append dcfebBpiReset_writes).append dcfebBpiEnable_writes).append
    (dcfebXpromDo_writes xpromTimerStop)).append (dcfebXpromDo_writes xpromTimerReset)).append
    (dcfebXpromDo_writes xpromTimerStart)).append (dcfebXpromDo_writes xpromClearStatus)

variable {address count : Nat}

lemma dcfebWriteBlock_achieves (bufin) (small : address < 0x8000000)
    (some : 0 < count) (fits : count ≤ 0x800) (polled memory history) :
    dcfebDevice.Achieves (dcfebWriteBlock address (wordsFrom bufin address count) polled)
      memory history (programmedFrom (bufw bufin) address count memory)
      (history ++ programs (bufw bufin) address count) := by
  have writes := (dcfebRestart_writes.append (dcfebpromMulti_writes
    [withCount (address >>> 16) xpromLoadAddress, address &&& 0xffff])).append
    (dcfebpromBufferprogram_writes (wordsFrom bufin address count))
  rw [wordsFrom_length] at writes
  refine .written polled writes ?_
  intro bpi ready
  rw [append_assoc, writeAll_append]
  exact (ready.quietAll (by simp)).programmed (bufw bufin) small some fits

lemma dcfebStart_achieves (mask memory history) :
    dcfebDevice.Achieves (.done (DcfebAccess.selector mask :: dcfebBpiReset ++ dcfebBpiEnable ++
      dcfebpromTimerstop ++ dcfebpromTimerreset ++ dcfebpromTimerstart) 0)
      memory history memory history := by
  have selector : dcfebDevice.Writes (DcfebAccess.selector mask :: dcfebBpiReset) [] :=
    fun _ => rfl
  refine .written 0 ((((selector.append dcfebBpiEnable_writes).append
    (dcfebXpromDo_writes xpromTimerStop)).append (dcfebXpromDo_writes xpromTimerReset)).append
    (dcfebXpromDo_writes xpromTimerStart)) ?_
  intro bpi ready
  exact ready.quietAll (by simp)

def odmbDevice : Device OdmbAccess Bpi := ⟨odmbAccess, id⟩

lemma odmbXpromDo_writes {command} (small : command < 0x10000) :
    odmbDevice.Writes (odmbXpromDo command) [command] := by
  intro state
  change state.write (command % 0x10000) = state.write command
  rw [Nat.mod_eq_of_lt small]

lemma odmbBpiReset_writes : odmbDevice.Writes odmbBpiReset [] := fun _ => rfl
lemma odmbBpiDisable_writes : odmbDevice.Writes odmbBpiDisable [] := fun _ => rfl
lemma odmbBpiEnable_writes : odmbDevice.Writes odmbBpiEnable [] := fun _ => rfl
lemma odmbBpiStatus_writes : odmbDevice.Writes odmbBpiStatus [] := fun _ => rfl

lemma odmbepromMulti_writes {words} (small : ∀ word ∈ words, word < 0x10000) :
    odmbDevice.Writes (odmbepromMulti words) words := by
  induction words with
  | nil => exact fun _ => rfl
  | cons word others ih =>
    exact (odmbXpromDo_writes (small word mem_cons_self)).append
      (ih fun other member => small other (mem_cons_of_mem word member))

lemma withCount_small {value opcode} (valueSmall : value < 0x800)
    (opcodeSmall : opcode < 0x20) : withCount value opcode < 0x10000 := by
  rw [withCount_eq valueSmall opcodeSmall]
  omega

lemma odmbepromLoadaddress_writes {uaddr laddr} (upper : uaddr < 0x800)
    (lower : laddr < 0x10000) : odmbDevice.Writes (odmbepromLoadaddress uaddr laddr)
      [withCount uaddr xpromLoadAddress, laddr] := by
  apply odmbepromMulti_writes
  intro word member
  simp only [mem_cons, not_mem_nil, or_false] at member
  rcases member with rfl | rfl
  · exact withCount_small upper (by decide)
  · exact lower

lemma odmbepromUnlockerase_writes :
    odmbDevice.Writes odmbepromUnlockerase [xpromBlockUnLock, xpromBlockErase] :=
  odmbepromMulti_writes (by decide)

lemma odmbepromBufferprogram_writes (bufin start) (some : 0 < count) (fits : count ≤ 0x800) :
    odmbDevice.Writes (odmbepromBufferprogram (wordsFrom bufin start count))
      (withCount (count - 1) xpromBufferProgram :: wordsFrom bufin start count) := by
  have header := odmbXpromDo_writes
    (withCount_small (by omega : count - 1 < 0x800) (by decide : xpromBufferProgram < 0x20))
  have words : ∀ word ∈ wordsFrom bufin start count, word < 0x10000 := by
    intro word member
    obtain ⟨offset, _, rfl⟩ := mem_map.mp member
    exact bufw_small bufin (start + offset)
  rw [odmbepromBufferprogram, wordsFrom_length]
  exact header.append (odmbepromMulti_writes words)

lemma odmbepromLoadaddress_split (small : address < 0x8000000) :
    odmbDevice.Writes (odmbepromLoadaddress (address >>> 16) (address &&& 0xffff))
      [withCount (address >>> 16) xpromLoadAddress, address &&& 0xffff] := by
  have lower : address &&& 0xffff = address % 0x10000 := Nat.and_two_pow_sub_one_eq_mod address 16
  refine odmbepromLoadaddress_writes ?_ ?_
  · omega
  · rw [lower]
    exact Nat.mod_lt address (by decide)

lemma odmbEraseBlock_achieves (small : block < 0x800) (polled memory history) :
    odmbDevice.Achieves (odmbEraseBlock block polled) memory history
      (blockErased block memory) (history ++ [.erase block]) :=
  .written polled ((odmbepromLoadaddress_writes small (by decide)).append
    odmbepromUnlockerase_writes) fun _ ready => ready.erased small

lemma odmbWriteBlock_writes (bufin) (small : address < 0x8000000) (some : 0 < count)
    (fits : count ≤ 0x800) :
    odmbDevice.Writes (odmbepromLoadaddress (address >>> 16) (address &&& 0xffff) ++
        odmbepromBufferprogram (wordsFrom bufin address count))
      ([withCount (address >>> 16) xpromLoadAddress, address &&& 0xffff] ++
        withCount (count - 1) xpromBufferProgram :: wordsFrom bufin address count) :=
  (odmbepromLoadaddress_split small).append (odmbepromBufferprogram_writes bufin address some fits)

lemma odmbWriteBlock_achieves (bufin) (small : address < 0x8000000)
    (some : 0 < count) (fits : count ≤ 0x800) (polled memory history) :
    odmbDevice.Achieves (odmbWriteBlock address (wordsFrom bufin address count) polled)
      memory history (programmedFrom (bufw bufin) address count memory)
      (history ++ programs (bufw bufin) address count) :=
  .written polled (odmbWriteBlock_writes bufin small some fits)
    fun _ ready => ready.programmed (bufw bufin) small some fits

section

variable (status : Nat → Nat)

lemma pollStatus_writes (mask left polled) :
    odmbDevice.Writes (pollStatus status mask left polled).accesses [] := by
  induction left generalizing polled with
  | zero => exact fun _ => rfl
  | succ left ih =>
    rw [pollStatus]
    split
    · exact odmbBpiStatus_writes
    · exact odmbBpiStatus_writes.append (ih (polled + 1))

lemma orGiveUp_writes {poll} (silent : odmbDevice.Writes poll.accesses []) :
    odmbDevice.Writes (orGiveUp poll).accesses [] := by
  rw [orGiveUp]
  split
  · exact silent
  · exact (silent.append odmbBpiStatus_writes).append odmbBpiDisable_writes

lemma eraseCommands_achieves (small : block < 0x800) (polled memory history) :
    odmbDevice.Achieves (.done (odmbepromClearstatus ++ odmbepromLoadaddress block 0 ++
      odmbepromUnlockerase ++ odmbBpiEnable) polled) memory history
      (blockErased block memory) (history ++ [.erase block]) := by
  have writes := (((odmbXpromDo_writes (by decide : xpromClearStatus < 0x10000)).append
    (odmbepromLoadaddress_writes small (by decide : 0 < 0x10000))).append
    odmbepromUnlockerase_writes).append odmbBpiEnable_writes
  refine .written polled writes ?_
  intro bpi ready
  rw [append_nil, append_assoc, writeAll_append]
  exact (ready.quietAll (by simp)).erased small

lemma odmbEraseBlockPoll_achieves (small : block < 0x800) (polled memory history) :
    odmbDevice.Achieves (odmbEraseBlockPoll status block polled) memory history
      (blockErased block memory) (history ++ [.erase block]) := by
  refine (eraseCommands_achieves small polled memory history).andThen fun polled => ?_
  refine (Device.Achieves.quiet (orGiveUp_writes (pollStatus_writes status _ _ polled)) _ _).andThen
    fun polled => ?_
  exact .quiet odmbBpiDisable_writes _ _

lemma odmbWriteBlockPoll_achieves (bufin) (small : address < 0x8000000)
    (some : 0 < count) (fits : count ≤ 0x800) (polled memory history) :
    odmbDevice.Achieves (odmbWriteBlockPoll status address (wordsFrom bufin address count) polled)
      memory history (programmedFrom (bufw bufin) address count memory)
      (history ++ programs (bufw bufin) address count) := by
  have commands : odmbDevice.Achieves (.done (odmbepromLoadaddress (address >>> 16)
      (address &&& 0xffff) ++ odmbepromBufferprogram (wordsFrom bufin address count) ++
      odmbBpiEnable) polled) memory history (programmedFrom (bufw bufin) address count memory)
      (history ++ programs (bufw bufin) address count) := by
    refine .written polled
      ((odmbWriteBlock_writes bufin small some fits).append odmbBpiEnable_writes) ?_
    intro bpi ready
    rw [append_nil]
    exact ready.programmed (bufw bufin) small some fits
  refine commands.andThen fun polled => ?_
  refine (Device.Achieves.quiet (orGiveUp_writes (pollStatus_writes status _ _ polled)) _ _).andThen
    fun polled => ?_
  have readN : odmbDevice.Writes [OdmbAccess.readRegister bpiReadN] [] := fun _ => rfl
  exact .quiet (odmbBpiDisable_writes.append readN) _ _

end

section

variable (unset : Unset) {malloc : Option (Nat → UInt8)} {fopen : Option (List Char)}
  {bufin : Nat → UInt8} (memory : Nat → Nat)

lemma erasedUpTo_nothing : erasedUpTo 0 memory = memory := by
  funext address
  exact if_neg (by omega)

lemma programmedFrom_nothing (word) : programmedFrom word 0 0 memory = memory := by
  funext address
  exact if_neg (by omega)

variable {α δ : Type} {device : Device α δ}

lemma loops_achieve (bufin) {eraseBlock writeBlock}
    (erases_block : ∀ block < 0x800, ∀ polled memory history, device.Achieves
      (eraseBlock block polled) memory history (blockErased block memory)
        (history ++ [.erase block]))
    (programs_block : ∀ address < 0x8000000, ∀ count, 0 < count → count ≤ 0x800 →
      ∀ polled memory history, device.Achieves
        (writeBlock address (wordsFrom bufin address count) polled) memory history
        (programmedFrom (bufw bufin) address count memory)
        (history ++ programs (bufw bufin) address count)) :
    (∀ polled, device.Achieves (eraseLoop eraseBlock eraseBlocks 0 polled) memory []
      (erasedUpTo eraseBlocks memory) (erases eraseBlocks)) ∧
    ∀ polled, device.Achieves (writeLoop bufin writeBlock writeBlockCount 0 0 polled)
      (erasedUpTo eraseBlocks memory) (erases eraseBlocks)
      (programmedMemory bufin memory) (programmedHistory bufin) := by
  constructor
  · intro polled
    have erased := eraseLoop_achieves memory [] erases_block eraseBlocks
      (by decide : 0 + eraseBlocks ≤ 0x800) polled
    exact erased
  · intro polled
    have written := writeLoop_achieves (erasedUpTo eraseBlocks memory) (erases eraseBlocks) bufin
      programs_block writeBlockCount (Nat.zero_add writeBlockCount) polled
    exact written

lemma dcfebProgramEprom_achieves (read : readFirmware unset malloc fopen = some bufin)
    (selectorBit broadcast) :
    dcfebDevice.Achieves (dcfebProgramEprom unset malloc fopen selectorBit broadcast)
      memory [] (programmedMemory bufin memory) (programmedHistory bufin) := by
  obtain ⟨erased, written⟩ := loops_achieve memory bufin
    (fun _ small polled memory history => dcfebEraseBlock_achieves small polled memory history)
    (fun _ small _ some fits polled memory history =>
      dcfebWriteBlock_achieves bufin small some fits polled memory history)
  rw [dcfebProgramEprom, read]
  dsimp only
  split
  · refine (dcfebStart_achieves _ memory []).andThen fun polled => ?_
    refine (erased polled).andThen fun polled => (written polled).andThen fun polled => ?_
    exact .written polled (((dcfebpromMulti_writes _).append
      (dcfebXpromDo_writes xpromBlockLock)).append dcfebBpiDisable_writes)
      fun _ ready => by rw [append_nil]; exact ready.locked
  · intro state _ completed
    cases completed

lemma dcfebProgramEprom_touches (read : readFirmware unset malloc fopen = some bufin)
    (tagged : firmwareTag bufin = true) (selectorBit broadcast) :
    dcfebDevice.Touches (dcfebProgramEprom unset malloc fopen selectorBit broadcast) memory [] := by
  rw [dcfebProgramEprom, read]
  dsimp only
  rw [if_pos tagged]
  have keeps : ∀ state access, (dcfebDevice.bpi state).flash.history ≠ [] →
      (dcfebDevice.bpi (dcfebDevice.access state access)).flash.history ≠ [] := by
    intro state access something
    cases access with
    | selector _ => exact something
    | cfebDo comd nbit data =>
      change (state.access (.cfebDo comd nbit data)).bpi.flash.history ≠ []
      unfold Dcfeb.access
      dsimp only
      split
      · exact something
      · split
        · exact write_history something data
        · exact something
  refine .second rfl (dcfebStart_achieves _ memory []) (.first keeps (.first keeps ?_))
  exact .written 0 ((dcfebpromMulti_writes _).append (dcfebpromMulti_writes _))
    (fun _ ready => ready.erased (by decide : 0 < 0x800)) (cons_ne_nil _ _)

lemma odmbStart_achieves (history) :
    odmbDevice.Achieves (.done (odmbBpiReset ++ odmbBpiEnable ++ odmbepromTimerstop ++
      odmbepromTimerreset ++ odmbepromTimerstart) 0) memory history memory history := by
  refine .written 0 ((((odmbBpiReset_writes.append odmbBpiEnable_writes).append
    (odmbXpromDo_writes (by decide : xpromTimerStop < 0x10000))).append
    (odmbXpromDo_writes (by decide : xpromTimerReset < 0x10000))).append
    (odmbXpromDo_writes (by decide : xpromTimerStart < 0x10000))) ?_
  intro bpi ready
  exact ready.quietAll (by simp)

lemma odmbLock_writes : odmbDevice.Writes
    (odmbepromLoadaddress (finalAddress >>> 16) (finalAddress &&& 0xffff) ++ odmbepromLock)
    ([withCount (finalAddress >>> 16) xpromLoadAddress, finalAddress &&& 0xffff] ++
      [xpromBlockLock]) :=
  (odmbepromLoadaddress_split (by decide : finalAddress < 0x8000000)).append
    (odmbXpromDo_writes (by decide : xpromBlockLock < 0x10000))

lemma odmbProgramEprom_achieves (read : readFirmware unset malloc fopen = some bufin) :
    odmbDevice.Achieves (odmbProgramEprom unset malloc fopen)
      memory [] (programmedMemory bufin memory) (programmedHistory bufin) := by
  obtain ⟨erased, written⟩ := loops_achieve memory bufin
    (fun _ small polled memory history => odmbEraseBlock_achieves small polled memory history)
    (fun _ small _ some fits polled memory history =>
      odmbWriteBlock_achieves bufin small some fits polled memory history)
  rw [odmbProgramEprom, read]
  refine (odmbStart_achieves memory []).andThen fun polled => ?_
  refine (erased polled).andThen fun polled => (written polled).andThen fun polled => ?_
  exact .written polled (odmbLock_writes.append odmbBpiDisable_writes)
    fun _ ready => by rw [append_nil]; exact ready.locked

lemma odmb_keeps (state access) (something : (odmbDevice.bpi state).flash.history ≠ []) :
    (odmbDevice.bpi (odmbDevice.access state access)).flash.history ≠ [] := by
  cases access with
  | writeRegister address value =>
    change (odmbAccess state (.writeRegister address value)).flash.history ≠ []
    unfold odmbAccess
    dsimp only
    split
    · exact write_history something _
    · exact something
  | readRegister address =>
    change (odmbAccess state (.readRegister address)).flash.history ≠ []
    unfold odmbAccess
    dsimp only
    split
    · exact something
    · exact something

lemma odmbProgramEprom_touches (read : readFirmware unset malloc fopen = some bufin) :
    odmbDevice.Touches (odmbProgramEprom unset malloc fopen) memory [] := by
  rw [odmbProgramEprom, read]
  refine .second rfl (odmbStart_achieves memory []) (.first odmb_keeps (.first odmb_keeps ?_))
  exact .written 0 ((odmbepromLoadaddress_writes (by decide : 0 < 0x800)
    (by decide : 0 < 0x10000)).append odmbepromUnlockerase_writes)
    (fun _ ready => ready.erased (by decide : 0 < 0x800)) (cons_ne_nil _ _)

lemma odmbStartPoll_achieves (history) :
    odmbDevice.Achieves (.done (odmbBpiReset ++ odmbepromTimerstop ++ odmbepromTimerreset ++
      odmbepromTimerstart ++ odmbBpiEnable ++ odmbBpiDisable) 0) memory history memory history := by
  refine .written 0 (((((odmbBpiReset_writes.append
    (odmbXpromDo_writes (by decide : xpromTimerStop < 0x10000))).append
    (odmbXpromDo_writes (by decide : xpromTimerReset < 0x10000))).append
    (odmbXpromDo_writes (by decide : xpromTimerStart < 0x10000))).append
    odmbBpiEnable_writes).append odmbBpiDisable_writes) ?_
  intro bpi ready
  exact ready.quietAll (by simp)

lemma odmbProgramEpromPoll_achieves (status)
    (read : readFirmware unset malloc fopen = some bufin) :
    odmbDevice.Achieves (odmbProgramEpromPoll status unset malloc fopen)
      memory [] (programmedMemory bufin memory) (programmedHistory bufin) := by
  obtain ⟨erased, written⟩ := loops_achieve memory bufin
    (fun _ small polled memory history =>
      odmbEraseBlockPoll_achieves status small polled memory history)
    (fun _ small _ some fits polled memory history =>
      odmbWriteBlockPoll_achieves status bufin small some fits polled memory history)
  have lock : ∀ polled, odmbDevice.Achieves (.done (odmbepromLoadaddress (finalAddress >>> 16)
      (finalAddress &&& 0xffff) ++ odmbepromLock ++ odmbBpiEnable) polled)
      (programmedMemory bufin memory) (programmedHistory bufin)
      (programmedMemory bufin memory) (programmedHistory bufin) := fun polled =>
    .written polled (odmbLock_writes.append odmbBpiEnable_writes)
      fun _ ready => by rw [append_nil]; exact ready.locked
  rw [odmbProgramEpromPoll, read]
  refine (odmbStartPoll_achieves memory []).andThen fun polled => (erased polled).andThen
    fun polled => ?_
  refine (Device.Achieves.quiet odmbBpiDisable_writes _ _).andThen fun polled =>
    (written polled).andThen fun polled => (lock polled).andThen fun polled => ?_
  refine (Device.Achieves.quiet (orGiveUp_writes (pollStatus_writes status _ _ polled)) _ _).andThen
    fun polled => ?_
  exact .quiet odmbBpiDisable_writes _ _

lemma odmbProgramEpromPoll_touches (status)
    (read : readFirmware unset malloc fopen = some bufin) :
    odmbDevice.Touches (odmbProgramEpromPoll status unset malloc fopen) memory [] := by
  rw [odmbProgramEpromPoll, read]
  refine .second rfl (odmbStartPoll_achieves memory []) (.first odmb_keeps (.first odmb_keeps
    (.first odmb_keeps ?_)))
  have writes := (((odmbXpromDo_writes (by decide : xpromClearStatus < 0x10000)).append
    (odmbepromLoadaddress_writes (by decide : 0 < 0x800) (by decide : 0 < 0x10000))).append
    odmbepromUnlockerase_writes).append odmbBpiEnable_writes
  have effect : ∀ bpi : Bpi, bpi.Ready memory [] →
      (bpi.writeAll ([xpromClearStatus] ++ [withCount 0 xpromLoadAddress, 0] ++
        [xpromBlockUnLock, xpromBlockErase] ++ [])).Ready (blockErased 0 memory) [.erase 0] := by
    intro bpi ready
    rw [append_nil, append_assoc, writeAll_append]
    exact (ready.quietAll (by simp)).erased (by decide : 0 < 0x800)
  exact .written 0 writes effect (cons_ne_nil _ _)

end

end EmuLib.Daqmb
