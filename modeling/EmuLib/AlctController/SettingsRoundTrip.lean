import EmuLib.AlctController.Settings

/-!
The settings of an anode trigger board that are written to it and read back.
-/

namespace EmuLib.AlctController

open Assignments Controller

inductive Part
  | asics
  | configuration
  | hotChannels
  | collisions
deriving DecidableEq

section

variable (board : Board) (unknown : Unknown) (check : Bool)

def writePart : Part → Controller → Option Controller
  | .asics => writeAsicDelaysAndPatterns board unknown check
  | .configuration => writeConfigurationReg unknown check
  | .hotChannels => writeHotChannelMask board unknown check
  | .collisions => writeCollisionPatternMask board unknown check

def readPart : Part → Controller → Option Controller
  | .asics => readAsicDelaysAndPatterns board unknown check
  | .configuration => readConfigurationReg unknown
  | .hotChannels => readHotChannelMask board unknown
  | .collisions => readCollisionPatternMask board unknown

def runAll (method : Part → Controller → Option Controller) :
    List Part → Controller → Option Controller
  | [], controller => some controller
  | part :: rest, controller => (method part controller).bind (runAll method rest)

end

def HoldsPart (board : Board) (values : Controller) (alct : Alct) : Part → Prop
  | .asics => ∀ group < groups board, alct.delayLines group = groupBits values.asics group
  | .configuration => alct.configReg.length = regSizeConfigReg ∧
      ∀ field bit, ConfigField.bitlo field ≤ bit → bit ≤ field.bithi →
        ofBits alct.configReg bit = bitOf (values.configuration.write field) (bit - field.bitlo)
  | .hotChannels => alct.hotchanMask =
      toBits values.hotChannelMask.write board.characteristics.sizes.wrtHotchanMask
  | .collisions => alct.collisionMaskReg =
      toBits values.collisionPatternMask.write board.characteristics.sizes.wrtCollisionMaskReg

def ReadPart (board : Board) (values controller : Controller) : Part → Prop
  | .asics =>
    (∀ afeb, afeb / numberOfChipsPerGroup < groups board →
      controller.asics.readDelay afeb = values.asics.writeDelay afeb) ∧
    ∀ layer < maxNumLayers, ∀ channel, channel / numberOfLinesPerChip < groups board →
      controller.asics.readPattern layer channel = values.asics.writePattern layer channel
  | .configuration => controller.configuration.read = values.configuration.write
  | .hotChannels => ∀ index < board.characteristics.sizes.wrtHotchanMask,
      controller.hotChannelMask.read index = values.hotChannelMask.write index
  | .collisions => ∀ index < board.characteristics.sizes.wrtCollisionMaskReg,
      controller.collisionPatternMask.read index = values.collisionPatternMask.write index

structure SameValues (values controller : Controller) : Prop where
  delay : controller.asics.writeDelay = values.asics.writeDelay
  pattern : controller.asics.writePattern = values.asics.writePattern
  configuration : controller.configuration.write = values.configuration.write
  hotChannels : controller.hotChannelMask.write = values.hotChannelMask.write
  collisions : controller.collisionPatternMask.write = values.collisionPatternMask.write
  configReg : AreBits controller.configuration.writeConfigReg regSizeConfigReg

structure SameRegisters (alct other : Alct) : Prop where
  delayLines : other.delayLines = alct.delayLines
  configReg : other.configReg = alct.configReg
  hotchanMask : other.hotchanMask = alct.hotchanMask
  collisionMaskReg : other.collisionMaskReg = alct.collisionMaskReg

section

variable {board : Board} {unknown : Unknown} {check : Bool} {values controller : Controller}

lemma SameRegisters.holds {alct other} (same : SameRegisters alct other) {part}
    (holds : HoldsPart board values alct part) : HoldsPart board values other part := by
  cases part with
  | asics => exact fun group inside => same.delayLines ▸ holds group inside
  | configuration =>
    rw [HoldsPart, same.configReg]
    exact holds
  | hotChannels => exact same.hotchanMask.trans holds
  | collisions => exact same.collisionMaskReg.trans holds

lemma SameValues.groupBits (same : SameValues values controller) :
    Controller.groupBits controller.asics = Controller.groupBits values.asics :=
  groupBits_congr same.delay same.pattern

lemma groupBit_sound (sound : Sound values) (same : SameValues values controller) :
    ∀ group < groups board, AreBits (controller.asics.groupBit group) regSizeWrtAsicDelayLines := by
  intro group inside
  refine groupBit_bit controller.asics group fun layer few channel there => ?_
  rw [same.pattern]
  refine sound.pattern layer few channel ?_
  have small := board.fits.few
  rw [groups] at inside
  simp only [numberOfLinesPerChip, maxNumWiresPerLayer] at there ⊢
  omega

lemma writePart_some (sound : Sound values) (same : SameValues values controller) (part) :
    ∃ after, writePart board unknown check part controller = some after ∧
      SameValues values after ∧ HoldsPart board values after.alct part ∧
      ∀ other, HoldsPart board values controller.alct other →
        HoldsPart board values after.alct other := by
  cases part with
  | asics =>
    obtain ⟨delayLine, asics, control, delayLines, written, delays, patterns, held⟩ :=
      @writeAsicDelaysAndPatterns_some board unknown check controller 
        (groupBit_sound sound same)
    rw [same.groupBits] at held
    refine ⟨_, written, ?_, held, fun other holds => ?_⟩
    · exact { same with
        delay := delays.trans same.delay
        pattern := patterns.trans same.pattern }
    · cases other with
      | asics => exact held
      | configuration => exact holds
      | hotChannels => exact holds
      | collisions => exact holds
  | configuration =>
    have bits : AreBits controller.configuration.fillConfigurationReg.writeConfigReg
        regSizeConfigReg := fillFields_bits _ same.configReg _
    obtain ⟨configuration, written, kept, reg⟩ :=
      @writeConfigurationReg_some unknown check controller bits
    have held : HoldsPart board values { controller.alct with
        configReg := toBits controller.configuration.fillConfigurationReg.writeConfigReg
          regSizeConfigReg } .configuration := by
      refine ⟨toBits_length _ _, fun field bit low high => ?_⟩
      have inside := Nat.lt_of_le_of_lt high (bithi_inside field)
      rw [ofBits_toBits bits inside, ← same.configuration]
      exact fillFields_inside _ all_ordered _ (mem_all field) low high
    refine ⟨_, written, ?_, held, fun other holds => ?_⟩
    · exact { same with
        configuration := kept.trans same.configuration
        configReg := reg ▸ bits }
    · cases other with
      | asics => exact holds
      | configuration => exact held
      | hotChannels => exact holds
      | collisions => exact holds
  | hotChannels =>
    have bits : AreBits controller.hotChannelMask.write
        board.characteristics.sizes.wrtHotchanMask := by
      intro index inside
      rw [same.hotChannels]
      exact sound.hotChannels index (Nat.lt_of_lt_of_le inside board.fits.hotChannels)
    obtain ⟨read, written⟩ := @writeHotChannelMask_some board unknown check controller bits
    have held := congrArg (toBits · board.characteristics.sizes.wrtHotchanMask) same.hotChannels
    refine ⟨_, written, { same with }, held, fun other holds => ?_⟩
    cases other with
    | asics => exact holds
    | configuration => exact holds
    | hotChannels => exact held
    | collisions => exact holds
  | collisions =>
    have bits : AreBits controller.collisionPatternMask.write
        board.characteristics.sizes.wrtCollisionMaskReg := by
      intro index inside
      rw [same.collisions]
      exact sound.collisions index (Nat.lt_of_lt_of_le inside board.fits.collisionBits)
    obtain ⟨read, written⟩ := @writeCollisionPatternMask_some board unknown check controller bits
    have held := congrArg (toBits · board.characteristics.sizes.wrtCollisionMaskReg)
      same.collisions
    refine ⟨_, written, { same with }, held, fun other holds => ?_⟩
    cases other with
    | asics => exact holds
    | configuration => exact holds
    | hotChannels => exact holds
    | collisions => exact held

lemma readPart_some (sound : Sound values) (same : SameValues values controller) {part}
    (holds : HoldsPart board values controller.alct part) :
    ∃ after, readPart board unknown check part controller = some after ∧
      SameValues values after ∧ SameRegisters controller.alct after.alct ∧
      ReadPart board values after part ∧
      ∀ other, other ≠ part → ReadPart board values controller other →
        ReadPart board values after other := by
  cases part with
  | asics =>
    have held : ∀ group < groups board,
        controller.alct.delayLines group = Controller.groupBits controller.asics group := by
      rw [same.groupBits]
      exact holds
    obtain ⟨delayLine, asics, control, read, delays, patterns, readDelays, readPatterns⟩ :=
      @readAsicDelaysAndPatterns_some board unknown check controller held
        (groupBit_sound sound same)
    have returned : ReadPart board values
        (controller.placed delayLine asics control controller.alct.delayLines) .asics := by
      constructor
      · intro afeb inside
        have small := board.fits.few
        have bounds : 0 ≤ values.asics.writeDelay afeb ∧ values.asics.writeDelay afeb ≤ 15 := by
          refine sound.delay afeb ?_
          rw [groups] at inside
          simp only [numberOfChipsPerGroup, maxNumAfebs] at inside ⊢
          omega
        rw [← same.delay] at bounds ⊢
        exact readDelays afeb inside bounds.1 bounds.2
      · intro layer few channel inside
        rw [← same.pattern]
        exact readPatterns layer few channel inside
    refine ⟨_, read, ?_, ⟨rfl, rfl, rfl, rfl⟩, returned, fun other different earlier => ?_⟩
    · exact { same with
        delay := delays.trans same.delay
        pattern := patterns.trans same.pattern }
    · cases other with
      | asics => exact absurd rfl different
      | configuration => exact earlier
      | hotChannels => exact earlier
      | collisions => exact earlier
  | configuration =>
    obtain ⟨bits, read, contents⟩ := @readConfigurationReg_some unknown controller holds.1
    have returned : (Configuration.decodeConfigurationReg
        { controller.configuration with readConfigReg := bits }).read =
          values.configuration.write := by
      funext field
      have bounds := sound.config field
      refine bitsToInt_value (fun bit low high => ?_) bounds.1 bounds.2
      rw [place_end] at high
      have last := Nat.le_of_lt_succ high
      refine (contents bit (Nat.lt_of_le_of_lt last (bithi_inside field))).trans ?_
      exact holds.2 field bit low last
    refine ⟨_, read, { same with }, ⟨rfl, rfl, rfl, rfl⟩, returned, fun other different earlier =>
      ?_⟩
    cases other with
    | asics => exact earlier
    | configuration => exact absurd rfl different
    | hotChannels => exact earlier
    | collisions => exact earlier
  | hotChannels =>
    obtain ⟨read, done, contents⟩ := @readHotChannelMask_some board unknown controller 
      ((congrArg List.length holds).trans (toBits_length _ _))
    refine ⟨_, done, { same with }, ⟨rfl, rfl, rfl, rfl⟩, fun index inside => ?_,
      fun other different earlier => ?_⟩
    · refine (contents index inside).trans ?_
      rw [holds]
      exact ofBits_toBits (fun bit within => sound.hotChannels bit
        (Nat.lt_of_lt_of_le within board.fits.hotChannels)) inside
    · cases other with
      | asics => exact earlier
      | configuration => exact earlier
      | hotChannels => exact absurd rfl different
      | collisions => exact earlier
  | collisions =>
    obtain ⟨read, done, contents⟩ := @readCollisionPatternMask_some board unknown controller 
      ((congrArg List.length holds).trans (toBits_length _ _))
    refine ⟨_, done, { same with }, ⟨rfl, rfl, rfl, rfl⟩, fun index inside => ?_,
      fun other different earlier => ?_⟩
    · refine (contents index inside).trans ?_
      rw [holds]
      exact ofBits_toBits (fun bit within => sound.collisions bit
        (Nat.lt_of_lt_of_le within board.fits.collisionBits)) inside
    · cases other with
      | asics => exact earlier
      | configuration => exact earlier
      | hotChannels => exact earlier
      | collisions => exact absurd rfl different

end

section

variable {board : Board} {unknown : Unknown} {check : Bool} {values : Controller}

lemma writes_some (sound : Sound values) :
    ∀ (parts : List Part) {controller : Controller}, SameValues values controller →
      ∃ after, runAll (writePart board unknown check) parts controller = some after ∧
        SameValues values after ∧
        ∀ part, part ∈ parts ∨ HoldsPart board values controller.alct part →
          HoldsPart board values after.alct part := by
  intro parts
  induction parts with
  | nil =>
    intro controller same
    exact ⟨controller, rfl, same, fun part held => held.resolve_left List.not_mem_nil⟩
  | cons first rest ih =>
    intro controller same
    obtain ⟨next, written, sameNext, holds, kept⟩ :=
      @writePart_some board unknown check values controller sound same first
    obtain ⟨after, run, sameAfter, held⟩ := ih sameNext
    refine ⟨after, ?_, sameAfter, fun part given => ?_⟩
    · rw [runAll, written, Option.bind_some, run]
    · refine held part ?_
      rcases given with member | before
      · rcases List.mem_cons.1 member with rfl | later
        · exact .inr holds
        · exact .inl later
      · exact .inr (kept part before)

lemma reads_some (sound : Sound values) :
    ∀ (parts : List Part) {controller : Controller}, SameValues values controller →
      (∀ part, HoldsPart board values controller.alct part) →
      ∃ after, runAll (readPart board unknown check) parts controller = some after ∧
        SameRegisters controller.alct after.alct ∧
        ∀ part, part ∈ parts ∨ ReadPart board values controller part →
          ReadPart board values after part := by
  intro parts
  induction parts with
  | nil =>
    intro controller same _
    exact ⟨controller, rfl, ⟨rfl, rfl, rfl, rfl⟩,
      fun part read => read.resolve_left List.not_mem_nil⟩
  | cons first rest ih =>
    intro controller same holds
    obtain ⟨next, done, sameNext, registers, returned, kept⟩ :=
      @readPart_some board unknown check values controller sound same first (holds first)
    obtain ⟨after, run, registersAfter, read⟩ := ih sameNext fun part =>
      registers.holds (holds part)
    refine ⟨after, ?_, ?_, fun part given => ?_⟩
    · rw [runAll, done, Option.bind_some, run]
    · exact ⟨registersAfter.delayLines.trans registers.delayLines,
        registersAfter.configReg.trans registers.configReg,
        registersAfter.hotchanMask.trans registers.hotchanMask,
        registersAfter.collisionMaskReg.trans registers.collisionMaskReg⟩
    · refine read part ?_
      by_cases again : part = first
      · exact .inr (again ▸ returned)
      · rcases given with member | before
        · exact .inl ((List.mem_cons.1 member).resolve_left again)
        · exact .inr (kept part again before)

end

section

variable {board : Board} {values controller : Controller}

lemma get_stored
    (read : ∀ part, ReadPart board values
      controller part) {setting : Setting}
    (accepted : setting.Accepted board) :
    setting.get board controller =
      setting.stored board values := by
  cases setting with
  | asicDelay afebChannel =>
    rw [Setting.Accepted] at accepted
    change getAsicDelay _ controller afebChannel = _
    rw [getAsicDelay, if_neg accepted]
    refine (read .asics).1 _ ?_
    have index := userIndexToHardwareIndex_bound (show afebChannel.toNat ≤
      board.maximumUserIndex by omega)
    exact (Nat.div_lt_iff_lt_mul (by decide)).2 (Nat.lt_of_le_of_lt index board.fits.chips)
  | asicPattern layer channel =>
    obtain ⟨-, -, few, short⟩ := layers_accepted accepted
    change getAsicPattern _ controller layer channel = _
    rw [getAsicPattern, if_neg accepted]
    refine (read .asics).2 _ few _ ?_
    exact (Nat.div_lt_iff_lt_mul (by decide)).2 (Nat.lt_of_lt_of_le short board.fits.lines)
  | hotChannelMask layer channel =>
    obtain ⟨-, -, few, short⟩ := layers_accepted accepted
    change getHotChannelMask _ controller layer channel = _
    rw [getHotChannelMask, if_neg accepted]
    refine read .hotChannels _ ?_
    rw [board.fits.channels]
    exact Nat.lt_of_lt_of_le (Nat.add_lt_add_left short _)
      ((Nat.succ_mul _ _).symm.le.trans (Nat.mul_le_mul_right _ few))
  | collisionPatternMask group bitInEnvelope =>
    obtain ⟨-, -, few, short⟩ := groups_accepted accepted
    change getCollisionPatternMask _ controller group bitInEnvelope = _
    rw [getCollisionPatternMask, if_neg accepted]
    refine read .collisions _ ?_
    rw [board.fits.patternBits]
    exact Nat.lt_of_lt_of_le (Nat.add_lt_add_left short _)
      ((Nat.succ_mul _ _).symm.le.trans (Nat.mul_le_mul_right _ few))
  | configField field => exact congrFun (read .configuration) field

lemma stored_setAll {setting} (accepted : setting.Accepted board) :
    ∀ (calls : List (Setting × Int)) (controller : Controller),
      (∀ call ∈ calls, call.1.Valid call.2) →
      setting.stored board
          (Setting.setAll board calls
            controller) =
        assignAll calls (Setting.stored board
          controller) setting := by
  intro calls
  induction calls with
  | nil => exact fun controller _ => rfl
  | cons call rest ih =>
    intro controller valid
    obtain ⟨here, later⟩ := List.forall_mem_cons.1 valid
    refine (ih _ later).trans (assignAll_congr rest ?_)
    by_cases same : setting = call.1
    · rw [same, Function.update_self]
      exact stored_set (same ▸ accepted) here controller
    · rw [Function.update_of_ne same]
      exact stored_other accepted same call.2 controller

lemma sound_setAll {board} : ∀ (calls : List (Setting × Int)) {controller : Controller},
    Sound controller → (∀ call ∈ calls, call.1.Valid call.2) →
      Sound (Setting.setAll board calls controller) := by
  intro calls
  induction calls with
  | nil => exact fun sound _ => sound
  | cons call rest ih =>
    intro controller sound valid
    obtain ⟨here, later⟩ := List.forall_mem_cons.1 valid
    exact ih (sound.set here) later

end

/-- Whatever has been set is got back after all parts have been written and read, and the board
holds it again; and no setter changes what is stored for another setting. -/
theorem settings_returned (board : Board) (unknown : Unknown) (check : Bool)
    (controller : Controller) {calls : List (Setting × Int)}
    (valid : ∀ call ∈ calls, call.1.Valid call.2) {written read : List Part}
    (allWritten : ∀ part, part ∈ written) (allRead : ∀ part, part ∈ read) :
    (∃ before after,
      runAll (writePart board unknown check) written
        (Setting.setAll board calls controller.setPowerUp) = some before ∧
      runAll (readPart board unknown check) read before = some after ∧
      (∀ setting, Setting.Accepted board setting →
        setting.get board after =
          assignAll calls (Setting.stored board controller.setPowerUp) setting) ∧
      (∀ part, HoldsPart board (Setting.setAll board calls controller.setPowerUp) after.alct part) ∧
      SameRegisters before.alct after.alct) ∧
    ∀ (setting other : Setting) (value : Int) (controller : Controller),
      other.Accepted board → other ≠ setting →
        other.stored board (setting.set board value controller) =
          other.stored board controller := by
  refine ⟨?_, fun setting other value controller accepted different =>
    stored_other accepted different value controller⟩
  have sound := @sound_setAll board calls _ (sound_powerUp controller) valid
  have start := @SameValues.mk (Setting.setAll board calls controller.setPowerUp) _ rfl rfl rfl rfl
    rfl sound.configReg
  obtain ⟨before, writes, same, held⟩ := @writes_some board unknown check _ sound written _ start
  have holds := fun part => held part (Or.inl (allWritten part))
  obtain ⟨after, reads, registers, returned⟩ :=
    @reads_some board unknown check _ sound read _ same holds
  refine ⟨before, after, writes, reads, fun setting accepted => ?_,
    fun part => registers.holds (holds part), registers⟩
  rw [get_stored (fun part => returned part (Or.inl (allRead part))) accepted]
  exact stored_setAll accepted calls _ valid

def invertedBoard : Board := ⟨.me11, .forward, .positive⟩

def blankController : Controller where
  delayLine := ⟨0, 0, fun _ => 0, fun _ => 0, 0, 0, fun _ => 0, fun _ => 0⟩
  asics := ⟨fun _ => 0, fun _ _ => 0, fun _ => 0, fun _ => 0, fun _ _ => 0, fun _ => 0⟩
  configuration := ⟨fun _ => 0, fun _ => 0, fun _ => 0, fun _ => 0⟩
  hotChannelMask := ⟨fun _ => 0, fun _ => 0⟩
  collisionPatternMask := ⟨fun _ => 0, fun _ => 0⟩
  alct := ⟨[], [], fun _ => [], [], []⟩

def sampleCalls : List (Setting × Int) :=
  [(.asicDelay 3, 7), (.asicPattern 5 47, 1), (.hotChannelMask 0 2, 0), (.asicDelay 18, 1),
    (.configField .l1aDelay, 200), (.asicDelay 3, 9)]

/-- The delay that is set last, one of the power-up values, a pattern, a mask and a field. -/
theorem settings_returned_me11 :
    ∃ before after,
      runAll (writePart invertedBoard ⟨fun _ => true, fun _ _ => false, fun _ _ => true⟩ true)
        [.hotChannels, .asics, .configuration, .collisions]
        (Setting.setAll invertedBoard sampleCalls blankController.setPowerUp) = some before ∧
      runAll (readPart invertedBoard ⟨fun _ => true, fun _ _ => false, fun _ _ => true⟩ true)
        [.asics, .collisions, .configuration, .hotChannels] before = some after ∧
      getAsicDelay invertedBoard after 3 = 9 ∧ getAsicDelay invertedBoard after 14 = 10 ∧
      getAsicPattern invertedBoard after 5 47 = 1 ∧ getHotChannelMask invertedBoard after 0 2 = 0 ∧
      getConfigField after .l1aDelay = 200 := by
  have valid : ∀ call ∈ sampleCalls, call.1.Valid call.2 := by
    simp [sampleCalls, Setting.Valid, off, on, ConfigField.width, ConfigField.bitlo,
      ConfigField.bithi]
  obtain ⟨⟨before, after, written, read, returned, -, -⟩, -⟩ := @settings_returned invertedBoard
    ⟨fun _ => true, fun _ _ => false, fun _ _ => true⟩ true blankController sampleCalls valid
    [.hotChannels, .asics, .configuration, .collisions]
    [.asics, .collisions, .configuration, .hotChannels]
    (fun part => by cases part <;> decide) (fun part => by cases part <;> decide)
  refine ⟨before, after, written, read, ?_, ?_, ?_, ?_, ?_⟩
  · exact (returned (.asicDelay 3) (by rw [Setting.Accepted]; decide)).trans (by decide)
  · exact (returned (.asicDelay 14) (by rw [Setting.Accepted]; decide)).trans (by decide)
  · exact (returned (.asicPattern 5 47) (by rw [Setting.Accepted]; decide)).trans (by decide)
  · exact (returned (.hotChannelMask 0 2) (by rw [Setting.Accepted]; decide)).trans (by decide)
  · exact (returned (.configField .l1aDelay) trivial).trans (by decide)

end EmuLib.AlctController
