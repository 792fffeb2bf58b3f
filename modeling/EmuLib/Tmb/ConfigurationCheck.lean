import EmuLib.Tmb.ConfigurationReading

/-!
When the check of the configuration says what the hardware holds, and when it leaves the
configuration as it has been.
-/

namespace EmuLib.Tmb

open BitFields List

def Operand.members : Operand → List Member
  | .member holder | .allCFEBs holder => [holder]
  | .cfebsEnabledExpected =>
    [.own .cfebEnableSource, .own .enableCLCTInputs, .own .cfebsEnabled]
  | .bootControlJtagChainExpected => []

lemma Operand.eval_congr (operand : Operand) {values others}
    (agree : ∀ member ∈ operand.members, values member = others member) :
    operand.eval values = operand.eval others := by
  cases operand with
  | member holder => exact agree holder mem_cons_self
  | cfebsEnabledExpected =>
    simp only [members, forall_mem_cons] at agree
    rw [eval, eval, agree.1, agree.2.1, agree.2.2.1]
  | bootControlJtagChainExpected => rfl
  | allCFEBs holder => exact congrArg Tmb.allCFEBs (agree holder mem_cons_self)

namespace Comparison

def Vacuous (comparison : Comparison) : Prop := comparison.testval = comparison.compareval

instance (comparison : Comparison) : Decidable comparison.Vacuous :=
  inferInstanceAs (Decidable (_ = _))

def ReadBack (tmb : TMB) (contents : Contents) (comparison : Comparison) : Prop :=
  comparison.testval.eval contents.held = comparison.compareval.eval tmb.value

instance (tmb : TMB) (contents : Contents) (comparison : Comparison) :
    Decidable (comparison.ReadBack tmb contents) := inferInstanceAs (Decidable (_ = _))

def sound (comparison : Comparison) : Bool :=
  comparison.testval.members.all seen &&
    comparison.compareval.members.all fun member => !member.isRead

end Comparison

def l1aFields : List Field := [.l1adelay, .l1aWindowSize, .tmbL1aInternal]

lemma masks_sound : ∀ comparison ∈ maskComparisons,
    comparison.sound = true ∧ ¬ comparison.Vacuous := by
  intro comparison among
  obtain ⟨layer, inLayers, there⟩ := mem_flatMap.1 among
  obtain ⟨distrip, inDistrips, rfl⟩ := mem_map.1 there
  rw [mem_range, maxNumLayers] at inLayers
  rw [mem_range, maxNumDistripsPerLayer] at inDistrips
  constructor
  · have bounds : ((0 : Int) ≤ layer ∧ (layer : Int) < 6) ∧
        ((0 : Int) ≤ distrip ∧ (distrip : Int) < 40) := by omega
    simp [Comparison.sound, Operand.members, seen, Member.isRead, bounds]
  · exact fun equal => Member.noConfusion (Operand.member.inj equal)

lemma before_sound : ∀ comparison ∈ comparisonsBeforeMasks,
    comparison.sound = true ∧ ¬ comparison.Vacuous := by decide

lemma after_sound : ∀ comparison ∈ comparisonsAfterMasks,
    (comparison.sound = true ∧ ¬ comparison.Vacuous) ∨
      ∃ field ∈ l1aFields, comparison.testval = .member (.read field) ∧
        comparison.compareval = .member (.read field) := by decide +kernel

lemma comparisons_sound : ∀ comparison ∈ comparisons,
    (comparison.sound = true ∧ ¬ comparison.Vacuous) ∨
      ∃ field ∈ l1aFields, comparison.testval = .member (.read field) ∧
        comparison.compareval = .member (.read field) := by
  intro comparison among
  rw [comparisons, mem_append, mem_append] at among
  rcases among with (before | mask) | behind
  · exact .inl (before_sound comparison before)
  · exact .inl (masks_sound comparison mask)
  · exact after_sound comparison behind

lemma l1a_compared : ∀ field ∈ l1aFields, ∃ comparison ∈ comparisonsAfterMasks,
    comparison.testval = .member (.read field) ∧
      comparison.compareval = .member (.read field) := by decide +kernel

lemma l1a_seen : ∀ field ∈ l1aFields, seen (.read field) = true := by decide

section

def SameSettings (board tmb : TMB) : Prop :=
  ∀ member : Member, member.isRead = false → board.value member = tmb.value member

def othersReadBack (tmb : TMB) (contents : Contents) : Bool :=
  comparisons.all fun comparison =>
    decide comparison.Vacuous || decide (comparison.ReadBack tmb contents)

def L1aHeld (tmb : TMB) (contents : Contents) : Prop :=
  ∀ field ∈ l1aFields, contents.held (.read field) = tmb.value (.read field)

variable {tmb board : TMB} {contents : Contents}

lemma SameSettings.read (same : SameSettings board tmb) (contents) :
    SameSettings (board.readTMBConfiguration contents) tmb :=
  fun member unread => (reading_unread unread).trans (same member unread)

lemma Comparison.equal_iff {comparison : Comparison} (sound : comparison.sound = true)
    (same : SameSettings board tmb) :
    comparison.equal (board.readTMBConfiguration contents).value =
      decide (comparison.ReadBack tmb contents) := by
  rw [Comparison.sound, Bool.and_eq_true, all_eq_true, all_eq_true] at sound
  have measured : comparison.testval.eval (board.readTMBConfiguration contents).value =
      comparison.testval.eval contents.held :=
    Operand.eval_congr _ fun member among => reading_held (sound.1 member among)
  have expected : comparison.compareval.eval (board.readTMBConfiguration contents).value =
      comparison.compareval.eval tmb.value :=
    Operand.eval_congr _ fun member among => same.read contents member (by
      simpa using sound.2 member among)
  rw [Comparison.equal, measured, expected]
  rfl

lemma all_equal_iff (same : SameSettings board tmb) :
    comparisons.all (Comparison.equal (board.readTMBConfiguration contents).value) =
      othersReadBack tmb contents := by
  rw [othersReadBack, Bool.eq_iff_iff, all_eq_true, all_eq_true]
  refine forall_congr' fun comparison => forall_congr' fun among => ?_
  rcases comparisons_sound comparison among with ⟨sound, real⟩ | ⟨field, _, tested, compared⟩
  · rw [Comparison.equal_iff sound same, decide_eq_false real, Bool.false_or]
  · have vacuous : comparison.Vacuous := tested.trans compared.symm
    rw [Comparison.equal, decide_eq_true vacuous, vacuous]
    simp

lemma all_readBack_iff :
    (∀ comparison ∈ comparisons, comparison.ReadBack tmb contents) ↔
      othersReadBack tmb contents = true ∧ L1aHeld tmb contents := by
  constructor
  · intro all
    refine ⟨?_, fun field among => ?_⟩
    · rw [othersReadBack, all_eq_true]
      intro comparison among
      rw [decide_eq_true (all comparison among), Bool.or_true]
    · obtain ⟨comparison, there, tested, compared⟩ := l1a_compared field among
      have holds := all comparison (mem_append_right _ there)
      rw [Comparison.ReadBack, tested, compared] at holds
      exact holds
  · rintro ⟨others, l1a⟩ comparison among
    rw [othersReadBack, all_eq_true] at others
    have here := others comparison among
    rw [Bool.or_eq_true, decide_eq_true_eq, decide_eq_true_eq] at here
    rcases comparisons_sound comparison among with ⟨_, real⟩ | ⟨field, delay, tested, compared⟩
    · exact here.resolve_left real
    · rw [Comparison.ReadBack, tested, compared]
      exact l1a field delay

end

section

variable {tmb board : TMB}

/-- The hardware holds the settings of the readout delay as far as the register has room. -/
def L1aHeldInRegister (tmb : TMB) (contents : Contents) : Prop :=
  ∀ field ∈ l1aFields, contents.held (.read field) =
    tmb.value (.read field) &&& makemask field.bits.lo field.bits.hi

lemma filling_read {register fields}
    (filled : filling register = .read fields) : register = .seqL1a := by
  cases register with
  | seqL1a => rfl
  | _ => cases filled

lemma insertions_same (same : SameSettings board tmb) {register}
    (other : register ≠ .seqL1a) : board.insertions register = tmb.insertions register := by
  rw [TMB.insertions, TMB.insertions]
  cases filled : filling register with
  | own fields => exact map_congr_left fun field _ => by rw [same (.own field) rfl]
  | read fields => exact absurd (filling_read filled) other
  | hotChannelMask => exact map_congr_left fun bit _ => by rw [same (.hotChannelMask _ _) rfl]
  | phase shifter =>
    dsimp only
    rw [TMB.phaseInsertions, TMB.phaseInsertions, same (.own .firePhaser) rfl,
      same (.own .resetPhase) rfl, same (.clockDelay shifter) rfl, same (.posneg shifter) rfl]
  | outputEnables => rfl
  | notSupported => rfl

lemma fill_other (same : SameSettings board tmb) {address}
    (other : Register.atAddress address ≠ some .seqL1a) :
    board.fillTMBRegister address = tmb.fillTMBRegister address := by
  rw [TMB.fillTMBRegister, TMB.fillTMBRegister]
  cases found : Register.atAddress address with
  | none => rfl
  | some register =>
    have apart : register ≠ .seqL1a := by
      rintro rfl
      exact other found
    dsimp only
    rw [insertions_same same apart, same .hardwareVersion rfl]

lemma insert_l1a_iff :
    insertAll (board.insertions .seqL1a) 0 = insertAll (tmb.insertions .seqL1a) 0 ↔
    ∀ field ∈ l1aFields, board.value (.read field) &&& makemask field.bits.lo field.bits.hi =
      tmb.value (.read field) &&& makemask field.bits.lo field.bits.hi := by
  constructor
  · intro equal field among
    have inserted : ∀ one : TMB, (one.value (.read field), field.bits) ∈ one.insertions .seqL1a :=
      fun one => mem_map.2 ⟨field, among, rfl⟩
    rw [← extract_masked (insertions_laidOut board _) (inserted board), equal,
      extract_masked (insertions_laidOut tmb _) (inserted tmb)]
  · intro agree
    have masked : ∀ one : TMB, insertAll (one.insertions .seqL1a) 0 =
        insertAll (l1aFields.map fun field =>
          (one.value (.read field) &&& makemask field.bits.lo field.bits.hi, field.bits)) 0 := by
      intro one
      have inside : ∀ insertion ∈ one.insertions .seqL1a,
          insertion.2.lo ≤ insertion.2.hi ∧ insertion.2.hi < numberOfBits := fun insertion among =>
        (insertions_laidOut one _).inside _ (mem_map_of_mem among)
      rw [← insertAll_masked inside]
      rfl
    rw [masked, masked]
    exact congrArg (insertAll · 0)
      (map_congr_left fun field among => by rw [agree field among])

lemma writeRegister_l1a (tmb : TMB) : tmb.writeRegister Register.seqL1a.adr =
    some (insertAll (tmb.insertions .seqL1a) 0) := by
  exact if_pos (narrow_insertAll (insertions_laidOut tmb _)).small

lemma writes_same_iff (same : SameSettings board tmb) :
    (∀ address, board.writeRegister address = tmb.writeRegister address) ↔
      ∀ field ∈ l1aFields, board.value (.read field) &&& makemask field.bits.lo field.bits.hi =
        tmb.value (.read field) &&& makemask field.bits.lo field.bits.hi := by
  rw [← insert_l1a_iff]
  constructor
  · intro equal
    have here := equal Register.seqL1a.adr
    rw [writeRegister_l1a, writeRegister_l1a] at here
    exact Option.some.inj here
  · intro equal address
    rw [TMB.writeRegister, TMB.writeRegister]
    by_cases delay : Register.atAddress address = some .seqL1a
    · rw [fillTMBRegister_eq delay (by decide) (by decide),
        fillTMBRegister_eq delay (by decide) (by decide), equal]
    · rw [fill_other same delay]

lemma held_masked (contents : Contents) : ∀ field ∈ l1aFields,
    contents.held (.read field) &&& makemask field.bits.lo field.bits.hi =
      contents.held (.read field) := by
  have extracted : ∀ (data : BitVec 32) (field : BitField),
      extractValueFromData data field.lo field.hi &&& makemask field.lo field.hi =
        extractValueFromData data field.lo field.hi := by
    intro data field
    rw [extractValueFromData, BitVec.and_assoc, BitVec.and_self]
  intro field among
  simp only [l1aFields, mem_cons, not_mem_nil, or_false] at among
  rcases among with rfl | rfl | rfl <;> exact extracted _ _

lemma writes_read_iff {contents} (same : SameSettings board tmb)
    (filled : ∀ member, seen member = true → board.value member = contents.held member) :
    (∀ address, board.writeRegister address = tmb.writeRegister address) ↔
      L1aHeldInRegister tmb contents := by
  rw [writes_same_iff same]
  refine forall_congr' fun field => forall_congr' fun among => ?_
  rw [filled _ (l1a_seen field among), held_masked contents field among]

end

section

variable {tmb : TMB} {contents : Nat → Contents} {maxNumberOfReads : Nat} {check : Check}

/-- The reading that ends the check: the first one that finds the settings it can see as they are
configured, or the last one. -/
def lastReading (tmb : TMB) (contents : Nat → Contents) (maxNumberOfReads : Nat) : Nat :=
  ((List.range maxNumberOfReads).find? fun reading =>
    othersReadBack tmb (contents reading)).getD (maxNumberOfReads - 1)

structure Check.After (tmb : TMB) (contents : Nat → Contents) (check : Check) (readings : Nat) :
    Prop where
  counted : check.numberOfConfigurationReads = readings
  settings : SameSettings check.tmb tmb
  failed : ∀ reading, reading + 1 < readings → othersReadBack tmb (contents reading) = false
  last : ∀ reading, reading + 1 = readings →
    check.configOk = othersReadBack tmb (contents reading) ∧
      ∀ member, seen member = true → check.tmb.value member = (contents reading).held member
  unread : readings = 0 → check.configOk = false

lemma Check.start_after : (Check.start tmb).After tmb contents 0 where
  counted := rfl
  settings := fun _ _ => rfl
  failed := fun _ before => absurd before (Nat.not_lt_zero _)
  last := fun _ equal => absurd equal (Nat.succ_ne_zero _)
  unread := fun _ => rfl

lemma Check.After.read {readings} (after : check.After tmb contents readings)
    (bad : check.configOk = false) :
    (check.read maxNumberOfReads (contents readings)).After tmb contents (readings + 1) where
  counted := congrArg (· + 1) after.counted
  settings := after.settings.read _
  failed := by
    intro reading before
    rcases Nat.lt_or_ge (reading + 1) readings with earlier | here
    · exact after.failed reading earlier
    · rw [← (after.last reading (by omega)).1]
      exact bad
  last := by
    intro reading equal
    obtain rfl : reading = readings := Nat.succ.inj equal
    exact ⟨all_equal_iff after.settings, fun member visible => reading_held visible⟩
  unread := fun none => absurd none (Nat.succ_ne_zero _)

lemma Check.After.loop (turns) {readings} (after : check.After tmb contents readings)
    (left : readings + turns = maxNumberOfReads) :
    ∃ total ≤ maxNumberOfReads,
      (Check.loop contents maxNumberOfReads turns check).After tmb contents total ∧
        ((Check.loop contents maxNumberOfReads turns check).configOk = true ∨
          total = maxNumberOfReads) := by
  induction turns generalizing check readings with
  | zero => exact ⟨readings, by omega, after, .inr left⟩
  | succ turns ih =>
    rw [Check.loop]
    cases ok : check.configOk with
    | true => exact ⟨readings, by omega, after, .inl ok⟩
    | false =>
      have more : check.numberOfConfigurationReads < maxNumberOfReads := by
        rw [after.counted]
        omega
      rw [decide_eq_true more, after.counted]
      exact ih (after.read ok) (by omega)

lemma lastReading_of_found {reading} (inside : reading < maxNumberOfReads)
    (found : othersReadBack tmb (contents reading) = true)
    (earlier : ∀ other < reading, othersReadBack tmb (contents other) = false) :
    lastReading tmb contents maxNumberOfReads = reading := by
  have first : (List.range maxNumberOfReads).find?
      (fun reading => othersReadBack tmb (contents reading)) = some reading := by
    rw [find?_range_eq_some]
    exact ⟨found, mem_range.2 inside, fun other before => by rw [earlier other before]; rfl⟩
  rw [lastReading, first]
  rfl

lemma lastReading_of_none
    (failed : ∀ reading < maxNumberOfReads, othersReadBack tmb (contents reading) = false) :
    lastReading tmb contents maxNumberOfReads = maxNumberOfReads - 1 := by
  have nowhere : (List.range maxNumberOfReads).find?
      (fun reading => othersReadBack tmb (contents reading)) = none := by
    rw [find?_eq_none]
    intro reading inside
    rw [failed reading (mem_range.1 inside)]
    exact Bool.false_ne_true
  rw [lastReading, nowhere]
  rfl

lemma checkTMBConfiguration_after (some_ : 1 ≤ maxNumberOfReads) :
    (tmb.checkTMBConfiguration contents maxNumberOfReads).After tmb contents
      (lastReading tmb contents maxNumberOfReads + 1) := by
  have begun : (Check.start tmb).After tmb contents 0 := Check.start_after
  obtain ⟨total, few, after, ended⟩ := begun.loop maxNumberOfReads (Nat.zero_add _)
  have positive : 0 < total := by
    rcases ended with good | all
    · refine Nat.pos_of_ne_zero fun none => ?_
      rw [after.unread none] at good
      cases good
    · omega
  obtain ⟨reading, rfl⟩ : ∃ reading, total = reading + 1 := ⟨total - 1, by omega⟩
  have earlier : ∀ other < reading, othersReadBack tmb (contents other) = false :=
    fun other before => after.failed other (Nat.succ_lt_succ before)
  cases found : othersReadBack tmb (contents reading) with
  | true => rwa [lastReading_of_found few found earlier]
  | false =>
    have all : reading + 1 = maxNumberOfReads := by
      refine ended.resolve_left fun good => ?_
      rw [(after.last reading rfl).1, found] at good
      cases good
    have failed : ∀ other < maxNumberOfReads, othersReadBack tmb (contents other) = false := by
      intro other inside
      rcases Nat.lt_or_eq_of_le (Nat.le_of_lt_succ (all ▸ inside)) with before | rfl
      · exact earlier other before
      · exact found
    have last : maxNumberOfReads - 1 = reading := by omega
    rwa [lastReading_of_none failed, last]

end

section

variable {tmb : TMB} {contents : Nat → Contents} {maxNumberOfReads : Nat}

/-- The check calls the configuration good exactly when all settings have been read back at one of
its readings, and what is written to the registers afterwards is what was written before. -/
def SoundCheck (tmb : TMB) (contents : Nat → Contents) (maxNumberOfReads : Nat) : Prop :=
  let check := tmb.checkTMBConfiguration contents maxNumberOfReads
  (check.configOk = true ↔ ∃ reading < check.numberOfConfigurationReads,
    ∀ comparison ∈ comparisons, comparison.ReadBack tmb (contents reading)) ∧
  ∀ address, check.tmb.writeRegister address = tmb.writeRegister address

lemma soundCheck_iff (some_ : 1 ≤ maxNumberOfReads) :
    SoundCheck tmb contents maxNumberOfReads ↔
      let seenLast := contents (lastReading tmb contents maxNumberOfReads)
      L1aHeldInRegister tmb seenLast ∧
        (othersReadBack tmb seenLast = true → L1aHeld tmb seenLast) := by
  have after : (tmb.checkTMBConfiguration contents maxNumberOfReads).After tmb contents
      (lastReading tmb contents maxNumberOfReads + 1) := checkTMBConfiguration_after some_
  obtain ⟨verdict, filled⟩ := after.last _ rfl
  have found : (∃ reading < lastReading tmb contents maxNumberOfReads + 1,
      ∀ comparison ∈ comparisons, comparison.ReadBack tmb (contents reading)) ↔
        othersReadBack tmb (contents (lastReading tmb contents maxNumberOfReads)) = true ∧
          L1aHeld tmb (contents (lastReading tmb contents maxNumberOfReads)) := by
    constructor
    · rintro ⟨reading, inside, all⟩
      have good := all_readBack_iff.1 all
      rcases Nat.lt_or_eq_of_le (Nat.le_of_lt_succ inside) with before | rfl
      · rw [after.failed reading (Nat.succ_lt_succ before)] at good
        exact absurd good.1 Bool.false_ne_true
      · exact good
    · intro good
      exact ⟨_, Nat.lt_succ_self _, all_readBack_iff.2 good⟩
  rw [SoundCheck]
  rw [after.counted, found, verdict, writes_read_iff after.settings filled]
  constructor
  · rintro ⟨good, kept⟩
    exact ⟨kept, fun others => (good.1 others).2⟩
  · rintro ⟨kept, l1a⟩
    exact ⟨⟨fun others => ⟨others, l1a others⟩, And.left⟩, kept⟩

/-- A reading of the configuration keeps what is written to the registers exactly when the
hardware holds the settings of the readout delay, which it is read into; and a check is sound
exactly when the reading that ends it has found them. -/
theorem check_sound_iff (tmb : TMB) :
    (∀ contents : Contents,
      (∀ address, (tmb.readTMBConfiguration contents).writeRegister address =
        tmb.writeRegister address) ↔ L1aHeldInRegister tmb contents) ∧
    ∀ (contents : Nat → Contents) (maxNumberOfReads : Nat), 1 ≤ maxNumberOfReads →
      (SoundCheck tmb contents maxNumberOfReads ↔
        let seenLast := contents (lastReading tmb contents maxNumberOfReads)
        L1aHeldInRegister tmb seenLast ∧
          (othersReadBack tmb seenLast = true → L1aHeld tmb seenLast)) := by
  have same : SameSettings tmb tmb := fun _ _ => rfl
  exact ⟨fun contents => writes_read_iff (same.read contents) fun _ => reading_held,
    fun contents maxNumberOfReads some_ => soundCheck_iff some_⟩

end

def delayedBoard : TMB := TMB.setL1aDelay ⟨fun _ => 0⟩ 3

def cleared : Contents := fun _ => 0

theorem check_sound_iff_cleared :
    SoundCheck delayedBoard (fun _ => cleared) 1 ↔
      L1aHeldInRegister delayedBoard cleared ∧
        (othersReadBack delayedBoard cleared = true → L1aHeld delayedBoard cleared) :=
  (check_sound_iff delayedBoard).2 (fun _ => cleared) 1 (Nat.le_refl 1)

lemma held_cleared (member) : cleared.held member = 0 := by
  have extracted : ∀ address lo hi,
      extractValueFromData (Contents.data cleared address) lo hi = 0 := by
    intro address lo hi
    have data : Contents.data cleared address = 0 := rfl
    rw [extractValueFromData, data]
    simp
  cases member with
  | read field =>
    rw [Contents.held]
    cases field.vmereg with
    | none => rfl
    | some address => exact extracted _ _ _
  | readHotChannelMask layer distrip =>
    rw [Contents.held]
    cases maskPlace layer distrip with
    | none => rfl
    | some place => exact extracted _ _ _
  | readPosneg shifter => exact extracted _ _ _
  | readClockDelay shifter =>
    rw [Contents.held, Contents.heldIn, Contents.heldIn, Contents.heldIn, extracted, extracted,
      extracted]
    decide
  | readFirmware part => cases part <;> rfl
  | _ => rfl

lemma Operand.eval_zero (operand : Operand) : operand.eval (fun _ => 0) = 0 := by
  cases operand with
  | member holder => rfl
  | cfebsEnabledExpected => decide
  | bootControlJtagChainExpected => rfl
  | allCFEBs holder =>
    rw [Operand.eval]
    decide

lemma delayedBoard_other {member} (unread : member.isRead = false) :
    delayedBoard.value member = 0 := by
  refine Function.update_of_ne ?_ _ _
  rintro rfl
  cases unread

lemma delayedBoard_others : othersReadBack delayedBoard cleared = true := by
  rw [othersReadBack, all_eq_true]
  intro comparison among
  rw [Bool.or_eq_true, decide_eq_true_eq, decide_eq_true_eq]
  rcases comparisons_sound comparison among with ⟨sound, _⟩ | ⟨field, _, tested, compared⟩
  · rw [Comparison.sound, Bool.and_eq_true, all_eq_true, all_eq_true] at sound
    right
    have measured : comparison.testval.eval cleared.held = 0 :=
      (Operand.eval_congr _ fun member _ => held_cleared member).trans (Operand.eval_zero _)
    have expected : comparison.compareval.eval delayedBoard.value = 0 :=
      (Operand.eval_congr _ fun member among =>
        delayedBoard_other (by simpa using sound.2 member among)).trans (Operand.eval_zero _)
    exact measured.trans expected.symm
  · exact .inl (tested.trans compared.symm)

/-- The check finds a board good whose readout delay is another one, and the delay that it has
been told is not written any more. -/
theorem delay_unchecked :
    let check := delayedBoard.checkTMBConfiguration (fun _ => cleared) 1
    check.configOk = true ∧
      (¬ ∃ reading < check.numberOfConfigurationReads,
        ∀ comparison ∈ comparisons, comparison.ReadBack delayedBoard cleared) ∧
      ¬ ∀ address, check.tmb.writeRegister address = delayedBoard.writeRegister address := by
  have after : (delayedBoard.checkTMBConfiguration (fun _ => cleared) 1).After delayedBoard
      (fun _ => cleared) _ := checkTMBConfiguration_after (Nat.le_refl 1)
  obtain ⟨verdict, filled⟩ := after.last _ rfl
  refine ⟨verdict.trans delayedBoard_others, ?_, ?_⟩
  · rintro ⟨_, _, all⟩
    have held := (all_readBack_iff.1 all).2 .l1adelay (by decide)
    exact absurd held (by decide)
  · intro kept
    have held := (writes_read_iff after.settings filled).1 kept .l1adelay (by decide)
    exact absurd held (by decide)

end EmuLib.Tmb
