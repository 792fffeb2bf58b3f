import EmuLib.Tmb.RegisterAccess

/-!
What is written to a register of a TMB is what is read back from it.
-/

namespace EmuLib.Tmb

open Assignments BitFields List

namespace Member

def readBack : Member → Member
  | .own field => .read field
  | .hotChannelMask layer distrip => .readHotChannelMask layer distrip
  | .clockDelay shifter => .readClockDelay shifter
  | .posneg shifter => .readPosneg shifter
  | .firmware part => .readFirmware part
  | member => member

def Within : Member → BitVec 32 → Prop
  | .own field, value | .read field, value => fitsIn value field.bits
  | .hotChannelMask _ _, value => fitsIn value ⟨0, 0⟩
  | .posneg _, value => fitsIn value Field.phaserPosneg.bits
  | .clockDelay _, value => value.toNat ≤ 24
  | _, _ => True

end Member

def carried (register : Register) : List Member :=
  match filling register with
  | .own fields => fields.map .own
  | .read fields => fields.map .read
  | .hotChannelMask =>
    (List.range 16).map fun bit =>
      .hotChannelMask (getHotChannelLayerFromMap register bit)
        (getHotChannelDistripFromMap register bit)
  | .phase shifter =>
    [.own .firePhaser, .own .resetPhase, .posneg shifter, .clockDelay shifter]
  | .outputEnables | .notSupported => []

def fieldsAgree (register : Register) : Bool :=
  match filling register, decoding register with
  | .own fields, .fields extracted | .read fields, .fields extracted =>
    decide (LaidOut (fields.map Field.bits)) && fields.all fun field => extracted.contains field
  | .hotChannelMask, .hotChannelMask | .phase _, .phase => true
  | .outputEnables, _ | .notSupported, _ => true
  | _, _ => false

lemma fields_agree (register) : fieldsAgree register = true := by
  cases register with
  | hcm _ _ => rfl
  | badbits _ _ => rfl
  | phaser _ => rfl
  | _ => decide

variable {fields : List Field}

lemma fields_decoded {register}
    (filled : filling register = .own fields ∨ filling register = .read fields) :
    LaidOut (fields.map Field.bits) ∧
      ∃ extracted, decoding register = .fields extracted ∧ ∀ field ∈ fields, field ∈ extracted := by
  have agree := fields_agree register
  rw [fieldsAgree] at agree
  cases decodes : decoding register with
  | fields extracted =>
    have both : (decide (LaidOut (fields.map Field.bits)) &&
        fields.all fun field => extracted.contains field) = true := by
      rcases filled with filled | filled <;> rw [filled, decodes] at agree <;> exact agree
    rw [Bool.and_eq_true, decide_eq_true_eq, all_eq_true] at both
    exact ⟨both.1, extracted, rfl, fun field among => contains_iff_mem.1 (both.2 _ among)⟩
  | _ => rcases filled with filled | filled <;> rw [filled, decodes] at agree <;> cases agree

lemma phase_decoded {register shifter}
    (filled : filling register = .phase shifter) : register = .phaser shifter := by
  cases register with
  | phaser another => rw [Filling.phase.inj filled]
  | _ => cases filled

def Cfeb.number : Cfeb → Nat
  | .cfeb0 => 0 | .cfeb1 => 1 | .cfeb2 => 2 | .cfeb3 => 3 | .cfeb4 => 4

def LayerPair.number : LayerPair → Nat
  | .layer01 => 0 | .layer23 => 1 | .layer45 => 2

lemma layer_map (cfeb layers) :
    ∀ bit < 16, getHotChannelLayerFromMap (.hcm cfeb layers) bit =
      ((2 * layers.number + bit / 8 : Nat) : Int) := by
  cases cfeb <;> cases layers <;> decide

lemma distrip_map (cfeb layers) :
    ∀ bit < 16, getHotChannelDistripFromMap (.hcm cfeb layers) bit =
      ((8 * cfeb.number + bit % 8 : Nat) : Int) := by
  cases cfeb <;> cases layers <;> decide

lemma cfeb_of_number (number) (few : number < 5) : ∃ cfeb : Cfeb, cfeb.number = number := by
  match number, few with
  | 0, _ => exact ⟨.cfeb0, rfl⟩
  | 1, _ => exact ⟨.cfeb1, rfl⟩
  | 2, _ => exact ⟨.cfeb2, rfl⟩
  | 3, _ => exact ⟨.cfeb3, rfl⟩
  | 4, _ => exact ⟨.cfeb4, rfl⟩

lemma layers_of_number (number) (few : number < 3) :
    ∃ layers : LayerPair, layers.number = number := by
  match number, few with
  | 0, _ => exact ⟨.layer01, rfl⟩
  | 1, _ => exact ⟨.layer23, rfl⟩
  | 2, _ => exact ⟨.layer45, rfl⟩

lemma Cfeb.number_injective {one other : Cfeb} (same : one.number = other.number) :
    one = other := by
  cases one <;> cases other <;> first | rfl | exact absurd same (by decide)

lemma LayerPair.number_injective {one other : LayerPair} (same : one.number = other.number) :
    one = other := by
  cases one <;> cases other <;> first | rfl | exact absurd same (by decide)

structure CarriesMask (layer distrip : Int) (place : Register × Nat) : Prop where
  filled : filling place.1 = .hotChannelMask
  inside : place.2 < 16
  layer_eq : getHotChannelLayerFromMap place.1 place.2 = layer
  distrip_eq : getHotChannelDistripFromMap place.1 place.2 = distrip

lemma mask_register {register} (filled : filling register = .hotChannelMask) :
    ∃ cfeb layers, register = .hcm cfeb layers := by
  cases register with
  | hcm cfeb layers => exact ⟨cfeb, layers, rfl⟩
  | _ => cases filled

lemma CarriesMask.unique {layer distrip place other} (carries : CarriesMask layer distrip place)
    (also : CarriesMask layer distrip other) : place = other := by
  obtain ⟨register, bit⟩ := place
  obtain ⟨another, otherBit⟩ := other
  obtain ⟨cfeb, layers, rfl⟩ := mask_register carries.filled
  obtain ⟨otherCfeb, otherLayers, rfl⟩ := mask_register also.filled
  have bits : bit < 16 ∧ otherBit < 16 := ⟨carries.inside, also.inside⟩
  have sameLayer := carries.layer_eq.trans also.layer_eq.symm
  have sameDistrip := carries.distrip_eq.trans also.distrip_eq.symm
  simp only [layer_map _ _ _ bits.1, layer_map _ _ _ bits.2, distrip_map _ _ _ bits.1,
    distrip_map _ _ _ bits.2] at sameLayer sameDistrip
  have sameCfeb : cfeb.number = otherCfeb.number := by omega
  have samePair : layers.number = otherLayers.number := by omega
  have sameBit : bit = otherBit := by omega
  rw [Cfeb.number_injective sameCfeb, LayerPair.number_injective samePair, sameBit]

lemma mask_carried {layer distrip} (someLayer : 0 ≤ layer ∧ layer < 6)
    (someDistrip : 0 ≤ distrip ∧ distrip < 40) : ∃! place, CarriesMask layer distrip place := by
  obtain ⟨cfeb, cfebNumber⟩ := cfeb_of_number (distrip.toNat / 8) (by omega)
  obtain ⟨layers, layersNumber⟩ := layers_of_number (layer.toNat / 2) (by omega)
  have inside : 8 * (layer.toNat % 2) + distrip.toNat % 8 < 16 := by omega
  have carries : CarriesMask layer distrip
      (.hcm cfeb layers, 8 * (layer.toNat % 2) + distrip.toNat % 8) := by
    refine ⟨rfl, inside, ?_, ?_⟩
    · rw [layer_map _ _ _ inside]
      omega
    · rw [distrip_map _ _ _ inside]
      omega
  exact ⟨_, carries, fun other also => also.unique carries⟩

variable {member : Member} {field : Field} {bit : Nat}

namespace TMB

variable {tmb : TMB}

lemma decodeTrgmode_other (other : member ≠ .readTrgmode) :
    tmb.decodeTrgmode.value member = tmb.value member := by
  have kept : ∀ (board : TMB) (mode : BitVec 32),
      (board.assign .readTrgmode mode).value member = board.value member :=
    fun _ _ => Function.update_of_ne other _ _
  have either : ∀ (board : TMB) (mode : BitVec 32) (chosen : Prop) [Decidable chosen],
      (if chosen then board.assign .readTrgmode mode else board).value member =
        board.value member := by
    intro board mode chosen _
    split
    · exact kept board mode
    · rfl
  exact (either _ _ _).trans (either _ _ _)

lemma extracted_field (among : field ∈ fields) (data) :
    (tmb.assignAll (extractFields data fields)).value (.read field) =
      extractValueFromData data field.bits.lo field.bits.hi := by
  apply assignAll_agreed
  · intro assignment member same
    obtain ⟨another, _, rfl⟩ := mem_map.1 member
    obtain rfl : another = field := Member.read.inj same
    rfl
  · exact mem_map.2 ⟨_, mem_map.2 ⟨field, among, rfl⟩, rfl⟩

lemma extracted_mask {register} (filled : filling register = .hotChannelMask) (inside : bit < 16)
    (data) :
    (tmb.assignAll (extractMasks register data .readHotChannelMask)).value
        (.readHotChannelMask (getHotChannelLayerFromMap register bit)
          (getHotChannelDistripFromMap register bit)) =
      extractValueFromData data bit bit := by
  apply assignAll_agreed
  · intro assignment member same
    obtain ⟨another, among, rfl⟩ := mem_map.1 member
    obtain ⟨sameLayer, sameDistrip⟩ := Member.readHotChannelMask.inj same
    have one : CarriesMask _ _ (register, bit) := ⟨filled, inside, rfl, rfl⟩
    have other : CarriesMask _ _ (register, another) :=
      ⟨filled, mem_range.1 among, sameLayer, sameDistrip⟩
    rw [(Prod.mk.inj (other.unique one)).2]
  · exact mem_map.2 ⟨_, mem_map.2 ⟨bit, mem_range.2 inside, rfl⟩, rfl⟩

end TMB

lemma phase_round_trip {phase} (within : phase.toNat ≤ 24) :
    digitalPhase (phaseToWrite phase &&& 0x3f) ((phaseToWrite phase).sshiftRight 6 &&& 0x1)
      ((phaseToWrite phase).sshiftRight 7 &&& 0x1) = phase := by
  have each : ∀ number < 25, digitalPhase (phaseToWrite (BitVec.ofNat 32 number) &&& 0x3f)
      ((phaseToWrite (BitVec.ofNat 32 number)).sshiftRight 6 &&& 0x1)
      ((phaseToWrite (BitVec.ofNat 32 number)).sshiftRight 7 &&& 0x1) =
        BitVec.ofNat 32 number := by decide
  have this := each phase.toNat (Nat.lt_succ_of_le within)
  rwa [BitVec.ofNat_toNat] at this

lemma phaseFields_laidOut (tmb : TMB) (phase posneg) :
    LaidOut ((tmb.phaseInsertions phase posneg).map Prod.snd) := by
  change LaidOut [Field.firePhaser.bits, Field.resetPhase.bits, Field.phaserPosneg.bits,
    Field.phaseValueWithinQuadrant.bits, Field.quarterCycleQuadrantSelect.bits,
    Field.halfCycleQuadrantSelect.bits]
  decide

section

variable {tmb : TMB} {address : Nat} {register : Register}

lemma decodeTMBRegister_value (found : Register.atAddress address = some register)
    (data) (other : member ≠ .readTrgmode) :
    (tmb.decodeTMBRegister address data).value member =
      (tmb.decodeFields register data).value member := by
  rw [TMB.decodeTMBRegister, found]
  exact TMB.decodeTrgmode_other other

lemma decodeFields_field (decodes : decoding register = .fields fields) (among : field ∈ fields)
    (data) :
    (tmb.decodeFields register data).value (.read field) =
      extractValueFromData data field.bits.lo field.bits.hi := by
  rw [TMB.decodeFields, decodes]
  exact TMB.extracted_field among data

variable {cfeb : Cfeb} {layers : LayerPair}

lemma decodeFields_mask (inside : bit < 16) (data) :
    (tmb.decodeFields (.hcm cfeb layers) data).value
        (.readHotChannelMask (getHotChannelLayerFromMap (.hcm cfeb layers) bit)
          (getHotChannelDistripFromMap (.hcm cfeb layers) bit)) =
      extractValueFromData data bit bit :=
  TMB.extracted_mask rfl inside data

section

variable {shifter : Phaser} (data : BitVec 32)

lemma decodeFields_phaserField (among : field ∈ phaserFields) :
    (tmb.decodeFields (.phaser shifter) data).value (.read field) =
      extractValueFromData data field.bits.lo field.bits.hi :=
  (assignAll_other (by simp) _).trans (TMB.extracted_field among data)

lemma decodeFields_posneg :
    (tmb.decodeFields (.phaser shifter) data).value (.readPosneg shifter) =
      extractValueFromData data Field.phaserPosneg.bits.lo Field.phaserPosneg.bits.hi := by
  have assigned :
      (tmb.decodeFields (.phaser shifter) data).value (.readPosneg shifter) =
        (tmb.assignAll (TMB.extractFields data phaserFields)).value (.read .phaserPosneg) :=
    assignAll_agreed (by simp) (by simp) _
  have among : Field.phaserPosneg ∈ phaserFields := by decide
  exact assigned.trans (TMB.extracted_field among data)

lemma decodeFields_clockDelay :
    (tmb.decodeFields (.phaser shifter) data).value (.readClockDelay shifter) =
      digitalPhase
        (extractValueFromData data Field.phaseValueWithinQuadrant.bits.lo
          Field.phaseValueWithinQuadrant.bits.hi)
        (extractValueFromData data Field.quarterCycleQuadrantSelect.bits.lo
          Field.quarterCycleQuadrantSelect.bits.hi)
        (extractValueFromData data Field.halfCycleQuadrantSelect.bits.lo
          Field.halfCycleQuadrantSelect.bits.hi) := by
  have assigned :
      (tmb.decodeFields (.phaser shifter) data).value (.readClockDelay shifter) =
        (tmb.assignAll (TMB.extractFields data phaserFields)).readDigitalPhase :=
    assignAll_agreed (by simp) (by simp) _
  have fields : ∀ {field : Field}, field ∈ phaserFields →
      (tmb.assignAll (TMB.extractFields data phaserFields)).value (.read field) =
        extractValueFromData data field.bits.lo field.bits.hi :=
    fun among => TMB.extracted_field among data
  rw [assigned, TMB.readDigitalPhase, fields (by decide), fields (by decide),
    fields (by decide)]

end

lemma fillTMBRegister_eq (found : Register.atAddress address = some register)
    (enables : filling register ≠ .outputEnables) (supported : filling register ≠ .notSupported) :
    tmb.fillTMBRegister address = insertAll (tmb.insertions register) 0 := by
  rw [TMB.fillTMBRegister, found]
  dsimp only
  split
  · contradiction
  · contradiction
  · rfl

lemma maskFields_laidOut : LaidOut ((List.range 16).map fun bit => ⟨bit, bit⟩) := by
  decide

lemma insertions_laidOut (tmb : TMB) (register) :
    LaidOut ((tmb.insertions register).map Prod.snd) := by
  rw [TMB.insertions]
  cases filled : filling register with
  | own fields =>
    rw [map_map]
    exact (fields_decoded (.inl filled)).1
  | read fields =>
    rw [map_map]
    exact (fields_decoded (.inr filled)).1
  | hotChannelMask =>
    exact maskFields_laidOut
  | phase shifter => exact phaseFields_laidOut _ _ _
  | outputEnables => exact ⟨List.Pairwise.nil, fun _ => fun none => absurd none not_mem_nil⟩
  | notSupported => exact ⟨List.Pairwise.nil, fun _ => fun none => absurd none not_mem_nil⟩

lemma narrow_of_fitsIn {word} (fits : fitsIn word ⟨0, 15⟩) : Narrow word := by
  intro bit high
  have few : numberOfBits = 16 := rfl
  exact fits_of_fitsIn fits bit (by simp only; omega)

lemma narrow_fill (tmb : TMB) (found : Register.atAddress address = some register)
    (supported : filling register ≠ .notSupported) : Narrow (tmb.fillTMBRegister address) := by
  by_cases enables : filling register = .outputEnables
  · rw [TMB.fillTMBRegister, found]
    simp only [enables]
    split
    · exact narrow_of_fitsIn (by decide)
    · exact narrow_of_fitsIn (by decide)
  · rw [fillTMBRegister_eq found enables supported]
    exact narrow_insertAll (insertions_laidOut tmb register)

lemma extract_inserted (tmb : TMB) (register) {value field}
    (member : (value, field) ∈ tmb.insertions register) (fits : fitsIn value field) :
    extractValueFromData (insertAll (tmb.insertions register) 0) field.lo field.hi = value :=
  extract_insertAll (insertions_laidOut tmb register) member fits

lemma fitsIn_and {mask field} (fits : fitsIn mask field)
    (value) : fitsIn (value &&& mask) field := by
  rw [fitsIn] at fits ⊢
  rw [BitVec.ushiftRight_and_distrib, fits]
  exact BitVec.and_zero

lemma decode_filled_field {setting : Field → Member}
    (filled : filling register = .own fields ∨ filling register = .read fields)
    (inserted : tmb.insertions register =
      fields.map fun field => (tmb.value (setting field), field.bits)) (among : field ∈ fields)
    (within : fitsIn (tmb.value (setting field)) field.bits) :
    (tmb.decodeFields register (insertAll (tmb.insertions register) 0)).value (.read field) =
      tmb.value (setting field) := by
  obtain ⟨_, extracted, decodes, all⟩ := fields_decoded filled
  have member : (tmb.value (setting field), field.bits) ∈ tmb.insertions register := by
    rw [inserted]
    exact mem_map.2 ⟨field, among, rfl⟩
  rw [decodeFields_field decodes (all field among)]
  exact extract_inserted tmb register member within

lemma phase_filled {shifter} (within : (tmb.value (.clockDelay shifter)).toNat ≤ 24) :
    digitalPhase
      (extractValueFromData (insertAll (tmb.insertions (.phaser shifter)) 0)
        Field.phaseValueWithinQuadrant.bits.lo Field.phaseValueWithinQuadrant.bits.hi)
      (extractValueFromData (insertAll (tmb.insertions (.phaser shifter)) 0)
        Field.quarterCycleQuadrantSelect.bits.lo Field.quarterCycleQuadrantSelect.bits.hi)
      (extractValueFromData (insertAll (tmb.insertions (.phaser shifter)) 0)
        Field.halfCycleQuadrantSelect.bits.lo Field.halfCycleQuadrantSelect.bits.hi) =
      tmb.value (.clockDelay shifter) := by
  let phase := phaseToWrite (tmb.value (.clockDelay shifter))
  have inserted : tmb.insertions (.phaser shifter) =
      tmb.phaseInsertions (tmb.value (.clockDelay shifter)) (tmb.value (.posneg shifter)) := rfl
  have quadrant : (phase &&& 0x3f, Field.phaseValueWithinQuadrant.bits) ∈
      tmb.insertions (.phaser shifter) := by rw [inserted]; simp [TMB.phaseInsertions, phase]
  have quarter : (phase.sshiftRight 6 &&& 0x1, Field.quarterCycleQuadrantSelect.bits) ∈
      tmb.insertions (.phaser shifter) := by rw [inserted]; simp [TMB.phaseInsertions, phase]
  have half : (phase.sshiftRight 7 &&& 0x1, Field.halfCycleQuadrantSelect.bits) ∈
      tmb.insertions (.phaser shifter) := by rw [inserted]; simp [TMB.phaseInsertions, phase]
  rw [extract_inserted tmb _ quadrant (fitsIn_and (by decide) _),
    extract_inserted tmb _ quarter (fitsIn_and (by decide) _),
    extract_inserted tmb _ half (fitsIn_and (by decide) _)]
  exact phase_round_trip within

lemma decode_filled_phase {shifter}
    (within : ∀ setting ∈ carried (.phaser shifter), setting.Within (tmb.value setting)) :
    ∀ setting ∈ carried (.phaser shifter),
      (tmb.decodeFields (.phaser shifter) (insertAll (tmb.insertions (.phaser shifter)) 0)).value
        setting.readBack = tmb.value setting := by
  have extracted : ∀ {value : BitVec 32} {field : BitField},
      (value, field) ∈ tmb.insertions (.phaser shifter) → fitsIn value field →
        extractValueFromData (insertAll (tmb.insertions (.phaser shifter)) 0) field.lo field.hi =
          value := fun member fits => extract_inserted tmb _ member fits
  obtain ⟨fire, reset, posneg, delay, -⟩ : _ ∧ _ ∧ _ ∧ _ ∧ _ := by
    simpa only [carried, filling, forall_mem_cons] using within
  have inserted : tmb.insertions (.phaser shifter) =
      tmb.phaseInsertions (tmb.value (.clockDelay shifter)) (tmb.value (.posneg shifter)) := rfl
  intro setting among
  simp only [carried, filling, mem_cons, not_mem_nil, or_false] at among
  rcases among with rfl | rfl | rfl | rfl
  · exact (decodeFields_phaserField _ (by decide)).trans
      (extracted (by rw [inserted]; simp [TMB.phaseInsertions]) fire)
  · exact (decodeFields_phaserField _ (by decide)).trans
      (extracted (by rw [inserted]; simp [TMB.phaseInsertions]) reset)
  · exact (decodeFields_posneg _).trans
      (extracted (by rw [inserted]; simp [TMB.phaseInsertions]) posneg)
  · exact (decodeFields_clockDelay _).trans (phase_filled delay)

def maskAt (register : Register) (bit : Nat) : Member :=
  .hotChannelMask (getHotChannelLayerFromMap register bit)
    (getHotChannelDistripFromMap register bit)

lemma fitsIn_oneBit {value} (fits : fitsIn value ⟨0, 0⟩) (bit) : fitsIn value ⟨bit, bit⟩ := by
  rw [fitsIn, Nat.add_sub_cancel_left]
  exact fits

lemma decode_filled_mask (inside : bit < 16)
    (within : (maskAt (.hcm cfeb layers) bit).Within (tmb.value (maskAt (.hcm cfeb layers) bit))) :
    (tmb.decodeFields (.hcm cfeb layers) (insertAll (tmb.insertions (.hcm cfeb layers)) 0)).value
        (maskAt (.hcm cfeb layers) bit).readBack =
      tmb.value (maskAt (.hcm cfeb layers) bit) := by
  have member : (tmb.value (maskAt (.hcm cfeb layers) bit), (⟨bit, bit⟩ : BitField)) ∈
      tmb.insertions (.hcm cfeb layers) := by
    exact mem_map.2 ⟨bit, mem_range.2 inside, rfl⟩
  have extracted := extract_inserted tmb _ member (fitsIn_oneBit within bit)
  exact (decodeFields_mask inside _).trans extracted

lemma decode_filled (within : ∀ setting ∈ carried register, setting.Within (tmb.value setting)) :
    ∀ setting ∈ carried register,
      (tmb.decodeFields register (insertAll (tmb.insertions register) 0)).value setting.readBack =
        tmb.value setting := by
  cases filled : filling register with
  | own fields =>
    have own : carried register = fields.map .own := by rw [carried, filled]
    intro setting among
    have fits := within setting among
    rw [own] at among
    obtain ⟨field, member, rfl⟩ := mem_map.1 among
    exact decode_filled_field (.inl filled) (by rw [TMB.insertions, filled]) member fits
  | read fields =>
    have read : carried register = fields.map .read := by rw [carried, filled]
    intro setting among
    have fits := within setting among
    rw [read] at among
    obtain ⟨field, member, rfl⟩ := mem_map.1 among
    exact decode_filled_field (.inr filled) (by rw [TMB.insertions, filled]) member fits
  | hotChannelMask =>
    obtain ⟨cfeb, layers, rfl⟩ := mask_register filled
    intro setting among
    have fits := within setting among
    obtain ⟨bit, inside, rfl⟩ := mem_map.1 among
    exact decode_filled_mask (mem_range.1 inside) fits
  | phase shifter =>
    obtain rfl := phase_decoded filled
    exact decode_filled_phase within
  | outputEnables =>
    intro setting among
    rw [carried, filled] at among
    exact absurd among not_mem_nil
  | notSupported =>
    intro setting among
    rw [carried, filled] at among
    exact absurd among not_mem_nil

lemma readBack_ne_trgmode {setting} (carries : setting ∈ carried register) :
    setting.readBack ≠ .readTrgmode := by
  cases setting with
  | readTrgmode =>
    rw [carried] at carries
    split at carries <;> simp at carries
  | _ => exact Member.noConfusion

/-- For every register that can be filled: the fields lie apart in sixteen bits, what has been
filled is decoded again, and each bit of the hot channel masks has one place of its own. -/
theorem register_round_trip (tmb : TMB) (address : Nat) (register : Register)
    (found : Register.atAddress address = some register)
    (supported : filling register ≠ .notSupported)
    (within : ∀ setting ∈ carried register, setting.Within (tmb.value setting)) :
    LaidOut ((tmb.insertions register).map Prod.snd) ∧
    Narrow (tmb.fillTMBRegister address) ∧
    (∀ setting ∈ carried register,
      (tmb.decodeTMBRegister address (tmb.fillTMBRegister address)).value setting.readBack =
        tmb.value setting) ∧
    ∀ layer distrip : Int, 0 ≤ layer ∧ layer < 6 → 0 ≤ distrip ∧ distrip < 40 →
      ∃! place, CarriesMask layer distrip place := by
  refine ⟨insertions_laidOut tmb register, narrow_fill tmb found supported, ?_,
    fun _ _ => mask_carried⟩
  intro setting carries
  rw [decodeTMBRegister_value found _ (readBack_ne_trgmode carries)]
  have filled : filling register ≠ .outputEnables := by
    intro enables
    rw [carried, enables] at carries
    exact not_mem_nil carries
  rw [fillTMBRegister_eq found filled supported]
  exact decode_filled within setting carries

end

def phasedBoard : TMB := TMB.assign ⟨fun _ => 0⟩ (.clockDelay .alctRxd) 13

lemma phasedBoard_within :
    ∀ setting ∈ carried (.phaser .alctRxd), setting.Within (phasedBoard.value setting) := by
  simp only [carried, filling, forall_mem_cons]
  refine ⟨?_, ?_, ?_, ?_, fun _ none => absurd none not_mem_nil⟩
  · change fitsIn 0 _
    decide
  · change fitsIn 0 _
    decide
  · change fitsIn 0 _
    decide
  · change (13 : BitVec 32).toNat ≤ 24
    decide

theorem register_round_trip_phase :
    (phasedBoard.decodeTMBRegister 0x10E (phasedBoard.fillTMBRegister 0x10E)).value
      (.readClockDelay .alctRxd) = 13 :=
  (register_round_trip phasedBoard 0x10E (.phaser .alctRxd) (by decide) (by decide)
    phasedBoard_within).2.2.1 (.clockDelay .alctRxd) (by decide)

end EmuLib.Tmb
