import EmuLib.Tmb.ConfigurationReading

/-!
Sequences of settings, writes and reads of the TMB registers, on registers that read back what has
been written; and what such a sequence leaves in a register.
-/

namespace EmuLib.Tmb

open BitFields List Function Option

structure Device where
  tmb : TMB
  contents : Contents
  sent : List (Nat × BitVec 16)

inductive Step
  | set (setting : Member) (value : BitVec 32)
  | write (register : Register)
  | writeWord (address : Nat) (word : BitVec 16)
  -- `FillTMBRegister`, and the word is written as it is
  | fill (register : Register)
  | read (register : Register)
  | readWhile (register : Register) (busy : Field) (times : Nat)
  | readReady (register : Register) (busy : Field) (times : Nat)
deriving DecidableEq

namespace Device

variable (device : Device)

def writeWord (address : Nat) (word : BitVec 16) : Device :=
  { device with
    contents := Function.update device.contents address word
    sent := (address, word) :: device.sent }

def writeRegister (address : Nat) : Device :=
  match device.tmb.writeRegister address with
  | some dataToWrite => device.writeWord address (dataToWrite.setWidth 16)
  | none => device

def readRegister (address : Nat) : Device :=
  { device with tmb := device.tmb.readRegister device.contents address }

def readWhile (address : Nat) (busy : Field) : Nat → Device → Device
  | 0, device => device
  | times + 1, device =>
    if device.tmb.value (.read busy) = 1 then
      readWhile address busy times (device.readRegister address)
    else device

def readReady (address : Nat) (busy : Field) : Nat → Device → Device
  | 0, device => device
  | times + 1, device =>
    if device.tmb.value (.read busy) = 1 then
      readReady address busy times (device.readRegister address)
    else device.readRegister address

def step : Step → Device
  | .set setting value => { device with tmb := device.tmb.assign setting value }
  | .write register => device.writeRegister register.adr
  | .writeWord address word => device.writeWord address word
  | .fill register =>
    device.writeWord register.adr ((device.tmb.fillTMBRegister register.adr).setWidth 16)
  | .read register => device.readRegister register.adr
  | .readWhile register busy times => device.readWhile register.adr busy times
  | .readReady register busy times => device.readReady register.adr busy times

def run (program : List Step) : Device := program.foldl step device

end Device

section

def settingIn (data : BitVec 32) : Member → BitVec 32
  | .own field | .read field => extractValueFromData data field.bits.lo field.bits.hi
  | .posneg _ => extractValueFromData data Field.phaserPosneg.bits.lo Field.phaserPosneg.bits.hi
  | .clockDelay _ =>
    digitalPhase
      (extractValueFromData data Field.phaseValueWithinQuadrant.bits.lo
        Field.phaseValueWithinQuadrant.bits.hi)
      (extractValueFromData data Field.quarterCycleQuadrantSelect.bits.lo
        Field.quarterCycleQuadrantSelect.bits.hi)
      (extractValueFromData data Field.halfCycleQuadrantSelect.bits.lo
        Field.halfCycleQuadrantSelect.bits.hi)
  | _ => 0

def places (register : Register) : List Member :=
  match filling register with
  | .hotChannelMask => []
  | _ => carried register

variable {tmb : TMB} {register : Register} {setting : Member}

lemma narrow_setWidth {word} (narrow : Narrow word) : (word.setWidth 16).setWidth 32 = word := by
  apply BitVec.eq_of_getLsbD_eq
  intro bit _
  rw [BitVec.getLsbD_setWidth, BitVec.getLsbD_setWidth]
  by_cases low : bit < 16
  · simp [*]
  · rw [narrow bit (Nat.le_of_not_lt low)]
    simp

lemma word_filled (enables : filling register ≠ .outputEnables)
    (supported : filling register ≠ .notSupported) :
    ((tmb.fillTMBRegister register.adr).setWidth 16).setWidth 32 =
      insertAll (tmb.insertions register) 0 := by
  rw [fillTMBRegister_eq (atAddress_adr register) enables supported]
  exact narrow_setWidth (narrow_insertAll (insertions_laidOut tmb register))

lemma settingIn_fill (placed : setting ∈ places register)
    (within : setting.Within (tmb.value setting)) :
    settingIn (((tmb.fillTMBRegister register.adr).setWidth 16).setWidth 32) setting =
      tmb.value setting := by
  rw [places] at placed
  cases filled : filling register with
  | own fields =>
    rw [word_filled (by rw [filled]; exact Filling.noConfusion)
      (by rw [filled]; exact Filling.noConfusion)]
    simp only [filled, carried] at placed
    obtain ⟨field, among, rfl⟩ := mem_map.1 placed
    refine extract_inserted tmb register ?_ within
    rw [TMB.insertions, filled]
    exact mem_map.2 ⟨field, among, rfl⟩
  | read fields =>
    rw [word_filled (by rw [filled]; exact Filling.noConfusion)
      (by rw [filled]; exact Filling.noConfusion)]
    simp only [filled, carried] at placed
    obtain ⟨field, among, rfl⟩ := mem_map.1 placed
    refine extract_inserted tmb register ?_ within
    rw [TMB.insertions, filled]
    exact mem_map.2 ⟨field, among, rfl⟩
  | phase shifter =>
    rw [word_filled (by rw [filled]; exact Filling.noConfusion)
      (by rw [filled]; exact Filling.noConfusion)]
    obtain rfl := phase_decoded filled
    have inserted : tmb.insertions (.phaser shifter) =
      tmb.phaseInsertions (tmb.value (.clockDelay shifter)) (tmb.value (.posneg shifter)) := rfl
    simp only [filled, carried, mem_cons, not_mem_nil, or_false] at placed
    rcases placed with rfl | rfl | rfl | rfl
    · exact extract_inserted tmb _ (by rw [inserted]; simp [TMB.phaseInsertions]) within
    · exact extract_inserted tmb _ (by rw [inserted]; simp [TMB.phaseInsertions]) within
    · exact extract_inserted tmb _ (by rw [inserted]; simp [TMB.phaseInsertions]) within
    · exact phase_filled within
  | _ =>
    simp only [filled, carried] at placed
    exact absurd placed not_mem_nil

lemma places_read {field} (placed : .read field ∈ places register) :
    field ∈ register.extracted := by
  rw [places] at placed
  cases filled : filling register with
  | read fields =>
    simp only [filled, carried] at placed
    obtain ⟨another, among, same⟩ := mem_map.1 placed
    obtain ⟨-, extracted, decodes, all⟩ := fields_decoded (.inr filled)
    rw [Register.extracted, decodes, ← Member.read.inj same]
    exact all another among
  | own fields =>
    simp only [filled, carried] at placed
    obtain ⟨_, _, same⟩ := mem_map.1 placed
    cases same
  | _ =>
    simp [filled, carried] at placed

lemma placed_isRead (placed : setting ∈ places register) (shared : setting.isRead = true) :
    ∃ field, setting = .read field := by
  rw [places] at placed
  cases filled : filling register with
  | own fields =>
    simp only [filled, carried] at placed
    obtain ⟨_, _, rfl⟩ := mem_map.1 placed
    cases shared
  | read fields =>
    simp only [filled, carried] at placed
    obtain ⟨field, _, rfl⟩ := mem_map.1 placed
    exact ⟨field, rfl⟩
  | phase shifter =>
    simp only [filled, carried, mem_cons, not_mem_nil, or_false] at placed
    rcases placed with rfl | rfl | rfl | rfl <;> cases shared
  | _ =>
    simp only [filled, carried] at placed
    exact absurd placed not_mem_nil

lemma settingIn_read {contents field} (placed : .read field ∈ places register) :
    (tmb.readRegister contents register.adr).value (.read field) =
      settingIn (contents.data register.adr) (.read field) :=
  (readRegister_value register Member.noConfusion).trans
    (decodeFields_extracted (places_read placed) _)

end

structure Known where
  current : Option (BitVec 32)
  held : Option (BitVec 32)

variable (register : Register) (setting : Member)

def Known.after (known : Known) : Step → Known
  | .set other value => if other = setting then { known with current := some value } else known
  | .write other | .fill other =>
    if other = register then { known with held := known.current } else known
  | .writeWord address _ =>
    if address = register.adr then { known with held := none } else known
  | .read other =>
    if setting.isRead then { known with current := if other = register then known.held else none }
    else known
  | .readWhile _ _ _ | .readReady _ _ _ =>
    if setting.isRead then { known with current := none } else known

def knownAfter (program : List Step) : Known :=
  program.foldl (Known.after register setting) ⟨none, none⟩

variable {register setting}

structure Known.Of (known : Known) (register : Register) (setting : Member) (device : Device) :
    Prop where
  current : ∀ value, known.current = some value → setting.Within value →
    device.tmb.value setting = value
  held : ∀ value, known.held = some value → setting.Within value →
    settingIn (device.contents.data register.adr) setting = value

variable {device : Device} {known : Known}

lemma Known.Of.sent (of : known.Of register setting device) (placed : setting ∈ places register)
    (word) (is : word = (device.tmb.fillTMBRegister register.adr).setWidth 16) :
    ({ known with held := known.current } : Known).Of register setting
      (device.writeWord register.adr word) := by
  refine ⟨of.current, fun value known within => ?_⟩
  have same := of.current value known within
  have written : (device.writeWord register.adr word).contents.data register.adr =
      word.setWidth 32 := by
    exact congrArg (BitVec.setWidth 32) (update_self _ _ _)
  rw [written, is, settingIn_fill placed (by rw [same]; exact within), same]

lemma Known.Of.elsewhere (of : known.Of register setting device) {address}
    (other : register.adr ≠ address) (word) :
    known.Of register setting (device.writeWord address word) := by
  refine ⟨of.current, fun value known => ?_⟩
  have kept : (device.writeWord address word).contents.data register.adr =
      device.contents.data register.adr :=
    congrArg (BitVec.setWidth 32) (update_of_ne other _ _)
  rw [kept]
  exact of.held value known

lemma adr_injective {register other : Register} (same : register.adr = other.adr) :
    register = other := by
  have found := atAddress_adr register
  rw [same, atAddress_adr] at found
  exact (Option.some.inj found).symm

lemma Known.Of.forget (of : known.Of register setting device) (after)
    (contents : after.contents = device.contents) :
    ({ known with current := none } : Known).Of register setting after := by
  refine ⟨fun _ none_ => absurd none_ (some_ne_none _).symm, fun value known => ?_⟩
  rw [contents]
  exact of.held value known

lemma Known.Of.kept (of : known.Of register setting device) (after)
    (contents : after.contents = device.contents)
    (same : after.tmb.value setting = device.tmb.value setting) :
    known.Of register setting after := by
  refine ⟨fun value known => ?_, fun value known => ?_⟩
  · rw [same]
    exact of.current value known
  · rw [contents]
    exact of.held value known

lemma placed_narrow (placed : setting ∈ places register) (tmb : TMB) :
    Narrow (tmb.fillTMBRegister register.adr) := by
  refine narrow_fill tmb (atAddress_adr register) fun none_ => ?_
  rw [places, carried, none_] at placed
  exact absurd placed not_mem_nil

lemma Known.Of.written (of : known.Of register setting device)
    (placed : setting ∈ places register) (other) :
    (known.after register setting (.write other)).Of register setting
      (device.step (.write other)) := by
  rw [Known.after, Device.step, Device.writeRegister, TMB.writeRegister]
  by_cases same : other = register
  · rw [if_pos same, same, if_pos (placed_narrow placed device.tmb).small]
    exact of.sent placed _ rfl
  · rw [if_neg same]
    have apart : register.adr ≠ other.adr := fun equal => same (adr_injective equal).symm
    by_cases small : (device.tmb.fillTMBRegister other.adr).toInt < 0x10000
    · rw [if_pos small]
      exact of.elsewhere apart _
    · rw [if_neg small]
      exact of

lemma readWhile_contents (address busy times) (device : Device) :
    (device.readWhile address busy times).contents = device.contents := by
  induction times generalizing device with
  | zero => rfl
  | succ times ih =>
    rw [Device.readWhile]
    split
    · exact ih (device.readRegister address)
    · rfl

lemma readWhile_unread (unread : setting.isRead = false) (address busy times) (device : Device) :
    (device.readWhile address busy times).tmb.value setting = device.tmb.value setting := by
  induction times generalizing device with
  | zero => rfl
  | succ times ih =>
    rw [Device.readWhile]
    split
    · exact (ih (device.readRegister address)).trans (readRegister_other address unread)
    · rfl

lemma readReady_contents (address busy times) (device : Device) :
    (device.readReady address busy times).contents = device.contents := by
  induction times generalizing device with
  | zero => rfl
  | succ times ih =>
    rw [Device.readReady]
    split
    · exact ih (device.readRegister address)
    · rfl

lemma readReady_unread (unread : setting.isRead = false) (address busy times) (device : Device) :
    (device.readReady address busy times).tmb.value setting = device.tmb.value setting := by
  induction times generalizing device with
  | zero => rfl
  | succ times ih =>
    rw [Device.readReady]
    split
    · exact (ih (device.readRegister address)).trans (readRegister_other address unread)
    · exact readRegister_other address unread

lemma Known.Of.step (of : known.Of register setting device) (placed : setting ∈ places register)
    (step) : (known.after register setting step).Of register setting (device.step step) := by
  cases step with
  | set other value =>
    rw [Known.after]
    split
    · next same =>
        subst same
        refine ⟨fun known is _ => ?_, of.held⟩
        rw [← Option.some.inj is]
        exact update_self _ _ _
    · next other_ => exact of.kept _ rfl (update_of_ne (Ne.symm other_) _ _)
  | write other => exact of.written placed other
  | fill other =>
    rw [Known.after]
    split
    · next same =>
        subst same
        exact of.sent placed _ rfl
    · next apart => exact of.elsewhere (fun equal => apart (adr_injective equal).symm) _
  | writeWord address word =>
    rw [Known.after]
    split
    · exact ⟨of.current, fun _ none_ => absurd none_ (some_ne_none _).symm⟩
    · next apart => exact of.elsewhere (Ne.symm apart) word
  | read other =>
    rw [Known.after]
    split
    · next shared =>
        split
        · next same =>
            subst same
            refine ⟨fun value known within => ?_, of.held⟩
            obtain ⟨field, rfl⟩ := placed_isRead placed shared
            exact (settingIn_read placed).trans (of.held value known within)
        · exact of.forget _ rfl
    · next unread =>
        exact of.kept _ rfl (readRegister_other _ (Bool.eq_false_iff.2 unread))
  | readWhile other busy times =>
    rw [Known.after]
    split
    · exact of.forget _ (readWhile_contents _ _ _ _)
    · next unread =>
        exact of.kept _ (readWhile_contents _ _ _ _)
          (readWhile_unread (Bool.eq_false_iff.2 unread) _ _ _ _)
  | readReady other busy times =>
    rw [Known.after]
    split
    · exact of.forget _ (readReady_contents _ _ _ _)
    · next unread =>
        exact of.kept _ (readReady_contents _ _ _ _)
          (readReady_unread (Bool.eq_false_iff.2 unread) _ _ _ _)

lemma knownAfter_of (placed : setting ∈ places register) (program) (device : Device) :
    (knownAfter register setting program).Of register setting (device.run program) := by
  have begun : (⟨none, none⟩ : Known).Of register setting device :=
    ⟨fun _ none_ => absurd none_ (some_ne_none _).symm,
      fun _ none_ => absurd none_ (some_ne_none _).symm⟩
  rw [knownAfter]
  generalize (⟨none, none⟩ : Known) = known at begun
  induction program generalizing known device with
  | nil => exact begun
  | cons step rest ih =>
    exact ih _ _ (begun.step placed step)

end EmuLib.Tmb
