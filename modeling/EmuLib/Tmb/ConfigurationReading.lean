import EmuLib.Tmb.Configuration
import EmuLib.Tmb.RoundTrip

/-!
What a reading of the configuration leaves in the members of a TMB.
-/

namespace EmuLib.Tmb

open Assignments BitFields List

section

def Member.isRead : Member → Bool
  | .read _ | .readHotChannelMask _ _ | .readBadbits _ _ | .readClockDelay _ | .readPosneg _
  | .readFirmware _ | .readTrgmode => true
  | _ => false

def Register.extracted (register : Register) : List Field :=
  match decoding register with
  | .fields fields => fields
  | .phase => phaserFields
  | _ => []

def decoded (register : Register) : List Member :=
  let masks := fun mask : Int → Int → Member =>
    (List.range 16).map fun bit =>
      mask (getHotChannelLayerFromMap register bit) (getHotChannelDistripFromMap register bit)
  match register with
  | .hcm _ _ => masks .readHotChannelMask
  | .badbits _ _ => masks .readBadbits
  | .phaser shifter =>
    [.readPosneg shifter, .readClockDelay shifter] ++ phaserFields.map .read
  | register => register.extracted.map .read

variable {tmb : TMB} {register : Register} {member : Member}

lemma assignAll_value_other {assignments} (other : member ∉ assignments.map Prod.fst) :
    (tmb.assignAll assignments).value member = tmb.value member :=
  assignAll_other other _

lemma extractFields_members (data fields) :
    (TMB.extractFields data fields).map Prod.fst = fields.map .read := by
  rw [TMB.extractFields, map_map]
  rfl

lemma extractMasks_members (register data mask) :
    (TMB.extractMasks register data mask).map Prod.fst =
      (List.range 16).map fun bit =>
        mask (getHotChannelLayerFromMap register bit) (getHotChannelDistripFromMap register bit) := by
  rfl

lemma decodeFields_other (data) (other : member ∉ decoded register) :
    (tmb.decodeFields register data).value member = tmb.value member := by
  cases register with
  | hcm cfeb layers =>
    exact assignAll_value_other (by rw [extractMasks_members]; exact other)
  | badbits cfeb layers =>
    exact assignAll_value_other (by rw [extractMasks_members]; exact other)
  | phaser shifter =>
    rw [decoded, mem_append, not_or] at other
    exact (assignAll_value_other other.1).trans
      (assignAll_value_other (by rw [extractFields_members]; exact other.2))
  | vmeDddoe => rfl
  | extend => rfl
  | _ => exact assignAll_value_other (by rw [extractFields_members]; exact other)

lemma decoded_isRead : ∀ member ∈ decoded register, member.isRead = true := by
  intro member assigned
  cases register with
  | hcm cfeb layers =>
    obtain ⟨_, _, rfl⟩ := mem_map.1 assigned
    rfl
  | badbits cfeb layers =>
    obtain ⟨_, _, rfl⟩ := mem_map.1 assigned
    rfl
  | phaser shifter =>
    rcases mem_append.1 assigned with phase | field
    · simp only [mem_cons, not_mem_nil, or_false] at phase
      rcases phase with rfl | rfl <;> rfl
    · obtain ⟨_, _, rfl⟩ := mem_map.1 field
      rfl
  | _ =>
    obtain ⟨_, _, rfl⟩ := mem_map.1 assigned
    rfl

end

section

variable {tmb : TMB} {contents : Contents} {member : Member}

lemma atAddress_adr (register) : Register.atAddress register.adr = some register := by
  cases register with
  | hcm cfeb layers => cases cfeb <;> cases layers <;> rfl
  | badbits cfeb layers => cases cfeb <;> cases layers <;> rfl
  | phaser shifter => cases shifter <;> rfl
  | _ => rfl

lemma readRegister_value (register) (other : member ≠ .readTrgmode) :
    (tmb.readRegister contents register.adr).value member =
      (tmb.decodeFields register (contents.data register.adr)).value member :=
  decodeTMBRegister_value (atAddress_adr register) _ other

lemma readRegister_other (address) (unread : member.isRead = false) :
    (tmb.readRegister contents address).value member = tmb.value member := by
  have other : member ≠ .readTrgmode := by rintro rfl; cases unread
  rw [TMB.readRegister, TMB.decodeTMBRegister]
  split
  · exact TMB.decodeTrgmode_other other
  · refine (TMB.decodeTrgmode_other other).trans (decodeFields_other _ fun assigned => ?_)
    rw [decoded_isRead _ assigned] at unread
    cases unread

lemma notUsrJtag (register : Register) : register.adr ≠ vmeUsrJtagAdr := by
  cases register with
  | hcm cfeb layers => cases cfeb <;> cases layers <;> decide
  | badbits cfeb layers => cases cfeb <;> cases layers <;> decide
  | phaser shifter => cases shifter <;> decide
  | _ => decide

lemma readRegisters_cons (register registers) :
    tmb.readRegisters contents (register :: registers) =
      (tmb.readRegister contents register.adr).readRegisters contents registers := by
  rw [TMB.readRegisters, foldl_cons, if_neg (notUsrJtag register)]
  rfl

lemma readRegisters_append (before behind) :
    tmb.readRegisters contents (before ++ behind) =
      (tmb.readRegisters contents before).readRegisters contents behind :=
  foldl_append

lemma readRegisters_other (registers) (mode : member ≠ .readTrgmode)
    (other : ∀ register ∈ registers, member ∉ decoded register) :
    (tmb.readRegisters contents registers).value member = tmb.value member := by
  induction registers generalizing tmb with
  | nil => rfl
  | cons register registers ih =>
    obtain ⟨here, later⟩ := forall_mem_cons.1 other
    rw [readRegisters_cons, ih later, readRegister_value register mode, decodeFields_other _ here]

lemma readRegisters_agreed {registers value} (mode : member ≠ .readTrgmode)
    (agreed : ∀ register ∈ registers, member ∈ decoded register → ∀ board : TMB,
      (board.decodeFields register (contents.data register.adr)).value member = value)
    (assigned : ∃ register ∈ registers, member ∈ decoded register) :
    (tmb.readRegisters contents registers).value member = value := by
  induction registers generalizing tmb with
  | nil =>
    obtain ⟨_, among, _⟩ := assigned
    exact absurd among not_mem_nil
  | cons register registers ih =>
    obtain ⟨here, later⟩ := forall_mem_cons.1 agreed
    rw [readRegisters_cons]
    by_cases again : ∃ register ∈ registers, member ∈ decoded register
    · exact ih later again
    · have now : member ∈ decoded register := by
        obtain ⟨another, among, decodes⟩ := assigned
        rcases mem_cons.1 among with rfl | behind
        · exact decodes
        · exact absurd ⟨another, behind, decodes⟩ again
      rw [readRegisters_other registers mode fun another among decodes =>
          again ⟨another, among, decodes⟩,
        readRegister_value register mode]
      exact here now _

end

def maskPlaces : List (Register × Nat) :=
  Register.masks.flatMap fun place =>
    (List.range 16).map fun bit => (.hcm place.1 place.2, bit)

def maskPlace (layer distrip : Int) : Option (Register × Nat) :=
  maskPlaces.find? fun place =>
    getHotChannelLayerFromMap place.1 place.2 = layer ∧
      getHotChannelDistripFromMap place.1 place.2 = distrip

namespace Contents

variable (contents : Contents)

def heldIn (address : Nat) (field : Field) : BitVec 32 :=
  extractValueFromData (contents.data address) field.bits.lo field.bits.hi

/-- The value that the hardware holds of a member that is read back, by the constants that say
where it is held. -/
def held : Member → BitVec 32
  | .read field => (field.vmereg.map (contents.heldIn · field)).getD 0
  | .readHotChannelMask layer distrip =>
    ((maskPlace layer distrip).map fun place =>
      extractValueFromData (contents.data place.1.adr) place.2 place.2).getD 0
  | .readPosneg shifter => contents.heldIn (Register.phaserAdr shifter) .phaserPosneg
  | .readClockDelay shifter =>
    let address := Register.phaserAdr shifter
    digitalPhase (contents.heldIn address .phaseValueWithinQuadrant)
      (contents.heldIn address .quarterCycleQuadrantSelect)
      (contents.heldIn address .halfCycleQuadrantSelect)
  | .readFirmware .month => firmwareMonth (contents.data vmeIdreg1Adr)
  | .readFirmware .day => firmwareDay (contents.data vmeIdreg1Adr)
  | .readFirmware .year => firmwareYear (contents.data vmeIdreg2Adr)
  | .readFirmware .version => firmwareVersion (contents.data vmeIdreg0Adr)
  | .readFirmware .revcode => firmwareRevcode (contents.data vmeIdreg3Adr)
  | .readFirmware .type => firmwareType (contents.data vmeIdreg0Adr)
  | _ => 0

end Contents

section

variable {tmb : TMB} {contents : Contents} {register : Register} {field : Field}

lemma read_decoded (assigned : .read field ∈ decoded register) : field ∈ register.extracted := by
  have plain : ∀ {fields : List Field}, Member.read field ∈ fields.map .read → field ∈ fields := by
    intro fields member
    obtain ⟨another, among, same⟩ := mem_map.1 member
    rwa [← Member.read.inj same]
  cases register with
  | hcm cfeb layers =>
    obtain ⟨_, _, mask⟩ := mem_map.1 assigned
    cases mask
  | badbits cfeb layers =>
    obtain ⟨_, _, mask⟩ := mem_map.1 assigned
    cases mask
  | phaser shifter =>
    rcases mem_append.1 assigned with phase | among
    · simp at phase
    · exact plain among
  | _ => exact plain assigned

lemma decoded_read (among : field ∈ register.extracted) : .read field ∈ decoded register := by
  have assigned : ∀ {fields : List Field}, field ∈ fields → Member.read field ∈ fields.map .read :=
    fun member => mem_map.2 ⟨field, member, rfl⟩
  cases register with
  | hcm cfeb layers => exact absurd among not_mem_nil
  | badbits cfeb layers => exact absurd among not_mem_nil
  | phaser shifter => exact mem_append_right _ (assigned among)
  | _ => exact assigned among

lemma decodeFields_extracted (among : field ∈ register.extracted) (data) :
    (tmb.decodeFields register data).value (.read field) =
      extractValueFromData data field.bits.lo field.bits.hi := by
  rw [Register.extracted] at among
  cases decodes : decoding register with
  | fields fields =>
    rw [decodes] at among
    exact decodeFields_field decodes among data
  | phase =>
    cases register with
    | phaser shifter => exact decodeFields_phaserField data among
    | _ => cases decodes
  | _ =>
    rw [decodes] at among
    exact absurd among not_mem_nil

lemma extracted_vmereg (register : Register) :
    ∀ field ∈ register.extracted,
      field = .clctStagger ∨ field.vmereg = none ∨ field.vmereg = some register.adr := by
  cases register with
  | hcm _ _ => exact fun _ none => absurd none not_mem_nil
  | badbits _ _ => exact fun _ none => absurd none not_mem_nil
  | phaser shifter => cases shifter <;> decide
  | _ => decide

lemma readRegisters_field {registers address} (placed : field.vmereg = some address)
    (once : ∀ register ∈ registers, field ∈ register.extracted → register.adr = address)
    (some_ : ∃ register ∈ registers, field ∈ register.extracted) :
    (tmb.readRegisters contents registers).value (.read field) = contents.held (.read field) := by
  have held : contents.held (.read field) = contents.heldIn address field := by
    rw [Contents.held, placed]
    rfl
  rw [held]
  apply readRegisters_agreed Member.noConfusion
  · intro register among decodes board
    have extracted := read_decoded decodes
    rw [decodeFields_extracted extracted, once register among extracted]
    rfl
  · obtain ⟨register, among, extracted⟩ := some_
    exact ⟨register, among, decoded_read extracted⟩

end

section

variable {tmb : TMB} {contents : Contents} {register : Register} {layer distrip : Int}

lemma mask_decoded (assigned : .readHotChannelMask layer distrip ∈ decoded register) :
    ∃ bit, CarriesMask layer distrip (register, bit) := by
  cases register with
  | hcm cfeb layers =>
    obtain ⟨bit, inside, same⟩ := mem_map.1 assigned
    obtain ⟨sameLayer, sameDistrip⟩ := Member.readHotChannelMask.inj same
    exact ⟨bit, rfl, mem_range.1 inside, sameLayer, sameDistrip⟩
  | badbits cfeb layers =>
    obtain ⟨_, _, same⟩ := mem_map.1 assigned
    cases same
  | phaser shifter => simp [decoded] at assigned
  | _ =>
    obtain ⟨_, _, same⟩ := mem_map.1 assigned
    cases same

variable {cfeb : Cfeb} {layers : LayerPair} {bit : Nat}

lemma decoded_mask (carries : CarriesMask layer distrip (.hcm cfeb layers, bit)) :
    .readHotChannelMask layer distrip ∈ decoded (.hcm cfeb layers) := by
  refine mem_map.2 ⟨bit, mem_range.2 carries.inside, ?_⟩
  rw [carries.layer_eq, carries.distrip_eq]

lemma decodeFields_carried (carries : CarriesMask layer distrip (.hcm cfeb layers, bit)) (data) :
    (tmb.decodeFields (.hcm cfeb layers) data).value (.readHotChannelMask layer distrip) =
      extractValueFromData data bit bit := by
  rw [← carries.layer_eq, ← carries.distrip_eq]
  exact decodeFields_mask carries.inside data

lemma mem_cfebs (cfeb) : cfeb ∈ Cfeb.all := by cases cfeb <;> decide

lemma mem_layerPairs (layers) : layers ∈ LayerPair.all := by
  cases layers <;> decide

lemma maskPlace_carries {place} (carries : CarriesMask layer distrip place) :
    maskPlace layer distrip = some place := by
  obtain ⟨register, bit⟩ := place
  obtain ⟨cfeb, layers, rfl⟩ := mask_register carries.filled
  have among : ((.hcm cfeb layers, bit) : Register × Nat) ∈ maskPlaces :=
    mem_flatMap.2 ⟨(cfeb, layers),
      mem_flatMap.2 ⟨cfeb, mem_cfebs cfeb, mem_map.2 ⟨layers, mem_layerPairs layers, rfl⟩⟩,
      mem_map.2 ⟨bit, mem_range.2 carries.inside, rfl⟩⟩
  have found : (maskPlace layer distrip).isSome := by
    rw [maskPlace, find?_isSome]
    exact ⟨_, among, by simp [carries.layer_eq, carries.distrip_eq]⟩
  obtain ⟨other, same⟩ := Option.isSome_iff_exists.1 found
  have matched := find?_some same
  simp only [decide_eq_true_eq] at matched
  obtain ⟨slot, _, there⟩ := mem_flatMap.1 (mem_of_find?_eq_some same)
  obtain ⟨another, inside, rfl⟩ := mem_map.1 there
  have also : CarriesMask layer distrip (.hcm slot.1 slot.2, another) :=
    ⟨rfl, mem_range.1 inside, matched.1, matched.2⟩
  rw [same, also.unique carries]

lemma readRegisters_mask {registers place} (carries : CarriesMask layer distrip place)
    (among : place.1 ∈ registers) :
    (tmb.readRegisters contents registers).value (.readHotChannelMask layer distrip) =
      contents.held (.readHotChannelMask layer distrip) := by
  have held : contents.held (.readHotChannelMask layer distrip) =
      extractValueFromData (contents.data place.1.adr) place.2 place.2 := by
    rw [Contents.held, maskPlace_carries carries]
    rfl
  rw [held]
  apply readRegisters_agreed Member.noConfusion
  · intro another _ decodes board
    obtain ⟨bit, also⟩ := mask_decoded decodes
    obtain ⟨cfeb, layers, rfl⟩ := mask_register also.filled
    rw [decodeFields_carried also, ← also.unique carries]
  · obtain ⟨cfeb, layers, isMask⟩ := mask_register carries.filled
    obtain ⟨register, bit⟩ := place
    subst isMask
    exact ⟨_, among, decoded_mask carries⟩

end

section

variable {tmb : TMB} {contents : Contents} {registers : List Register} {shifter : Phaser}

lemma posneg_decoded {register}
    (assigned : .readPosneg shifter ∈ decoded register) : register = .phaser shifter := by
  cases register with
  | phaser another => simpa [decoded, eq_comm] using assigned
  | _ =>
    obtain ⟨_, _, same⟩ := mem_map.1 assigned
    cases same

lemma clockDelay_decoded {register}
    (assigned : .readClockDelay shifter ∈ decoded register) : register = .phaser shifter := by
  cases register with
  | phaser another => simpa [decoded, eq_comm] using assigned
  | _ =>
    obtain ⟨_, _, same⟩ := mem_map.1 assigned
    cases same

lemma readRegisters_posneg (among : .phaser shifter ∈ registers) :
    (tmb.readRegisters contents registers).value (.readPosneg shifter) =
      contents.held (.readPosneg shifter) := by
  apply readRegisters_agreed Member.noConfusion
  · intro register _ decodes board
    rw [posneg_decoded decodes]
    exact decodeFields_posneg _
  · exact ⟨_, among, mem_append_left _ mem_cons_self⟩

lemma readRegisters_clockDelay (among : .phaser shifter ∈ registers) :
    (tmb.readRegisters contents registers).value (.readClockDelay shifter) =
      contents.held (.readClockDelay shifter) := by
  apply readRegisters_agreed Member.noConfusion
  · intro register _ decodes board
    rw [clockDelay_decoded decodes]
    exact decodeFields_clockDelay _
  · exact ⟨_, among, mem_append_left _ (mem_cons_of_mem _ mem_cons_self)⟩

end

variable {tmb : TMB} {contents : Contents} {member : Member}

def seen : Member → Bool
  | .read field =>
    field = .clctStagger || field = .bootControlJtagChain ||
      field.vmereg.isSome && tmbConfigurationRegister.any fun register =>
        register.extracted.contains field
  | .readHotChannelMask layer distrip =>
    decide (0 ≤ layer ∧ layer < 6) && decide (0 ≤ distrip ∧ distrip < 40)
  | .readPosneg shifter | .readClockDelay shifter =>
    tmbConfigurationRegister.contains (.phaser shifter)
  | .readFirmware _ => true
  | _ => false

lemma hcm_configured (cfeb layers) : .hcm cfeb layers ∈ tmbConfigurationRegister := by
  cases cfeb <;> cases layers <;> decide

lemma readRegisters_configured (visible : seen member = true)
    (field : ∀ field, member = .read field → field ≠ .clctStagger ∧ field ≠ .bootControlJtagChain)
    (part : ∀ part, member ≠ .readFirmware part) :
    (tmb.readRegisters contents tmbConfigurationRegister).value member = contents.held member := by
  cases member with
  | read one =>
    obtain ⟨notStagger, notBoot⟩ := field one rfl
    simp only [seen, notStagger, notBoot, decide_false, Bool.false_or, Bool.and_eq_true,
      any_eq_true] at visible
    obtain ⟨placed, register, among, extracted⟩ := visible
    obtain ⟨address, placed⟩ := Option.isSome_iff_exists.1 placed
    refine readRegisters_field placed ?_ ⟨register, among, contains_iff_mem.1 extracted⟩
    intro another _ also
    rcases extracted_vmereg another one also with stagger | unplaced | here
    · exact absurd stagger notStagger
    · rw [placed] at unplaced
      cases unplaced
    · rw [placed] at here
      exact (Option.some.inj here).symm
  | readHotChannelMask layer distrip =>
    simp only [seen, Bool.and_eq_true, decide_eq_true_eq] at visible
    obtain ⟨place, carries, _⟩ := mask_carried visible.1 visible.2
    obtain ⟨cfeb, layers, isMask⟩ := mask_register carries.filled
    exact readRegisters_mask carries (by rw [isMask]; exact hcm_configured cfeb layers)
  | readPosneg shifter =>
    rw [seen, contains_iff_mem] at visible
    exact readRegisters_posneg visible
  | readClockDelay shifter =>
    rw [seen, contains_iff_mem] at visible
    exact readRegisters_clockDelay visible
  | readFirmware one => exact absurd rfl (part one)
  | _ => cases visible

lemma readRegisters_stagger :
    (tmb.readRegisters contents tmbConfigurationRegister).value (.read .clctStagger) =
      contents.held (.read .clctStagger) := by
  have parted : tmbConfigurationRegister =
      tmbConfigurationRegister.take 13 ++ tmbConfigurationRegister.drop 13 :=
    (take_append_drop _ _).symm
  have once : ∀ register ∈ tmbConfigurationRegister.drop 13,
      .clctStagger ∈ register.extracted → register.adr = Register.nonTrigReadout.adr := by decide
  have some_ : ∃ register ∈ tmbConfigurationRegister.drop 13,
      .clctStagger ∈ register.extracted := by decide
  rw [parted, readRegisters_append]
  exact readRegisters_field rfl once some_

lemma readRegisters_boot :
    (tmb.readRegisters contents tmbConfigurationRegister).value (.read .bootControlJtagChain) =
      tmb.value (.read .bootControlJtagChain) := by
  have unread : ∀ register ∈ tmbConfigurationRegister,
      .bootControlJtagChain ∉ register.extracted := by decide
  exact readRegisters_other _ Member.noConfusion fun register among assigned =>
    unread register among (read_decoded assigned)

lemma firmware_not_decoded (register part) : .readFirmware part ∉ decoded register := by
  intro assigned
  cases register with
  | phaser shifter => simp [decoded] at assigned
  | _ =>
    obtain ⟨_, _, same⟩ := mem_map.1 assigned
    cases same

lemma getBootReg_firmware (part) :
    (tmb.getBootReg contents).value (.readFirmware part) = tmb.value (.readFirmware part) := by
  apply assignAll_value_other
  rw [extractFields_members]
  intro assigned
  obtain ⟨_, _, same⟩ := mem_map.1 assigned
  cases same

lemma reading_firmware (part) :
    (tmb.readTMBConfiguration contents).value (.readFirmware part) =
      contents.held (.readFirmware part) := by
  rw [TMB.readTMBConfiguration]
  refine (readRegisters_other _ Member.noConfusion fun register _ =>
    firmware_not_decoded register part).trans ((getBootReg_firmware part).trans ?_)
  cases part <;> rfl

lemma reading_held (visible : seen member = true) :
    (tmb.readTMBConfiguration contents).value member = contents.held member := by
  by_cases stagger : member = .read .clctStagger
  · subst stagger
    exact readRegisters_stagger
  by_cases boot : member = .read .bootControlJtagChain
  · subst boot
    refine readRegisters_boot.trans ?_
    exact TMB.extracted_field (by decide) _
  by_cases firmware : ∃ part, member = .readFirmware part
  · obtain ⟨part, rfl⟩ := firmware
    exact reading_firmware part
  · refine readRegisters_configured visible ?_ fun part same => firmware ⟨part, same⟩
    rintro field rfl
    exact ⟨fun same => stagger (congrArg Member.read same),
      fun same => boot (congrArg Member.read same)⟩

lemma readRegisters_unread (registers) (unread : member.isRead = false) :
    (tmb.readRegisters contents registers).value member = tmb.value member := by
  refine readRegisters_other registers (by rintro rfl; cases unread) fun register _ assigned => ?_
  rw [decoded_isRead _ assigned] at unread
  cases unread

lemma reading_unread (unread : member.isRead = false) :
    (tmb.readTMBConfiguration contents).value member = tmb.value member := by
  have apart : ∀ {board : TMB} {assignments : List (Member × BitVec 32)},
      (∀ another ∈ assignments.map Prod.fst, another.isRead = true) →
        (board.assignAll assignments).value member = board.value member := by
    intro board assignments read
    apply assignAll_value_other
    intro assigned
    rw [read member assigned] at unread
    cases unread
  have boot : ∀ another ∈ (TMB.extractFields (contents.data tmbAdrBoot) bootFields).map Prod.fst,
      another.isRead = true := by
    intro another assigned
    rw [extractFields_members] at assigned
    obtain ⟨_, _, rfl⟩ := mem_map.1 assigned
    rfl
  rw [TMB.readTMBConfiguration, readRegisters_unread _ unread]
  refine (apart boot).trans ((apart ?_).trans ((apart ?_).trans ((apart ?_).trans
    ((apart ?_).trans (readRegister_other _ unread))))) <;> simp [Member.isRead]

end EmuLib.Tmb
