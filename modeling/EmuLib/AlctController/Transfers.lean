import EmuLib.AlctController.AsicLines

/-!
What the methods that write registers and read them do to the controller and the board.
-/

namespace EmuLib.AlctController

open List

open Jtag (maxNumFrames)

namespace Controller

variable {board : Board} {unknown : Unknown} {check : Bool} {controller : Controller}

def controlBits (board : Board) (delayLine : DelayLine) : List Bool :=
  toBits (delayLine.fillControlReg (groups board)).writeControlReg (groups board + 2)

lemma zeros_bits (size) : AreBits (fun _ => 0) size := fun _ _ => .inl rfl

lemma path_wrt_length (alct : Alct) (register size) :
    (alct.path unknown .wrt register size).length = size := by
  rw [Alct.path, length_map, length_range]

lemma readDelayLineControlReg_some
    (long : controller.alct.delaylineCtrlReg.length = groups board + 2) :
    ∃ delayLine, readDelayLineControlReg board unknown controller =
        some { controller with delayLine } ∧
      delayLine.writeGroupSelect = controller.delayLine.writeGroupSelect := by
  have size : board.characteristics.sizes.rdDelaylineCtrlReg = groups board + 2 :=
    board.fits.delaylineCtrlReg.trans board.fits.groups
  have few := board.fits.few
  have room : groups board + 2 ≤ maxNumFrames := by
    rw [groups, maxNumFrames]
    omega
  obtain ⟨read, scanned, -⟩ := shfIRShfDR_some (zeros_bits (groups board + 2)) room
    (show (controller.alct.path unknown .rd .delaylineCtrlReg (groups board + 2)).length = _ from
      long)
  rw [readDelayLineControlReg, size, scanned]
  exact ⟨_, rfl, rfl⟩

lemma writeDelayLineControlReg_some
    (selects : AreBits controller.delayLine.writeGroupSelect (groups board)) :
    ∃ delayLine, writeDelayLineControlReg board unknown check controller =
        some { controller with
          delayLine
          alct := { controller.alct with
            delaylineCtrlReg := controlBits board controller.delayLine } } ∧
      delayLine.writeGroupSelect = controller.delayLine.writeGroupSelect := by
  have size : board.characteristics.sizes.wrtDelaylineCtrlReg = groups board + 2 :=
    board.fits.groups
  have few := board.fits.few
  have room : groups board + 2 ≤ maxNumFrames := by
    rw [groups, maxNumFrames]
    omega
  obtain ⟨read, scanned, -⟩ := shfIRShfDR_some (fillControlReg_bits selects) room
    (@path_wrt_length unknown controller.alct .delaylineCtrlReg _)
  rw [writeDelayLineControlReg]
  rw [size, scanned, Option.bind_some]
  cases check with
  | false => exact ⟨_, rfl, rfl⟩
  | true =>
    obtain ⟨delayLine, same, kept⟩ := @readDelayLineControlReg_some board unknown
      { controller with
        delayLine := controller.delayLine.fillControlReg (groups board)
        alct := { controller.alct with
          delaylineCtrlReg := controlBits board controller.delayLine } } 
      (toBits_length _ _)
    exact ⟨delayLine, same, kept⟩

variable {delayLine : DelayLine}

lemma selected_controlBits (alct : Alct)
    (selects : AreBits delayLine.writeGroupSelect (groups board)) (group) :
    ({ alct with delaylineCtrlReg := controlBits board delayLine } : Alct).selected group =
      decide (group < groups board ∧ delayLine.writeGroupSelect group = 0) := by
  rw [Alct.selected]
  rw [controlBits, toBits_length]
  by_cases inside : group < groups board
  · have bit := @fillControlReg_group _ delayLine _ inside
    rw [toBits, getD_eq_getElem?_getD, getElem?_map, getElem?_range (by omega),
      Option.map_some, bit]
    rcases selects group inside with zero | one
    · simp [inside, zero]
    · simp [one]
  · simp [inside]

def Idle (board : Board) (delayLine : DelayLine) : Prop :=
  ∀ group < groups board, delayLine.writeGroupSelect group = 1

lemma idle_powerUp (delayLine : DelayLine) : Idle board delayLine.setPowerUp := by
  intro group inside
  have few := board.fits.few
  rw [groups] at inside
  exact if_pos (by omega)

lemma idle_bits (idle : Idle board delayLine) :
    AreBits delayLine.writeGroupSelect (groups board) := fun group inside =>
  Or.inr (idle group inside)

lemma setGroupSelect_select {group} (inside : group < groups board) (mask) :
    (delayLine.setGroupSelect (groups board) group mask).writeGroupSelect =
      Function.update delayLine.writeGroupSelect group (inverse mask) := by
  rw [DelayLine.setGroupSelect, if_neg (Nat.not_le.2 inside)]

lemma chosen_bits (idle : Idle board delayLine) {group} (inside : group < groups board) :
    AreBits (delayLine.setGroupSelect (groups board) group on).writeGroupSelect (groups board) ∧
      ∀ alct : Alct, ∀ other, ({ alct with
          delaylineCtrlReg := controlBits board
            (delayLine.setGroupSelect (groups board) group on) } : Alct).selected other =
        decide (other = group) := by
  have bits : AreBits (delayLine.setGroupSelect (groups board) group on).writeGroupSelect
      (groups board) := by
    intro other within
    rw [setGroupSelect_select inside]
    by_cases same : other = group
    · rw [same, Function.update_self]
      exact .inl rfl
    · rw [Function.update_of_ne same]
      exact .inr (idle other within)
  refine ⟨bits, fun alct other => ?_⟩
  rw [selected_controlBits alct bits, setGroupSelect_select inside]
  by_cases same : other = group
  · rw [same, Function.update_self]
    exact decide_eq_decide.2 ⟨fun _ => rfl, fun _ => ⟨inside, rfl⟩⟩
  · rw [Function.update_of_ne same]
    refine decide_eq_decide.2 ⟨fun both => ?_, fun equal => absurd equal same⟩
    have one := idle other both.1
    rw [both.2] at one
    exact absurd one (by decide)

lemma unchosen_idle {group} (inside : group < groups board)
    (others : ∀ other < groups board, other ≠ group → delayLine.writeGroupSelect other = 1) :
    Idle board (delayLine.setGroupSelect (groups board) group off) := by
  intro other within
  rw [setGroupSelect_select inside]
  by_cases same : other = group
  · rw [same, Function.update_self]
    rfl
  · rw [Function.update_of_ne same]
    exact others other within same

section

def groupBits (asics : Asics) (group : Nat) : List Bool :=
  toBits (asics.groupBit group) regSizeWrtAsicDelayLines

lemma groupBits_length (asics group) : (groupBits asics group).length = 120 :=
  toBits_length _ _

lemma groupBits_congr {one other} (delays : one.writeDelay = other.writeDelay)
    (patterns : one.writePattern = other.writePattern) : groupBits one = groupBits other := by
  funext group
  refine toBits_congr fun bit _ => ?_
  rw [Asics.groupBit, Asics.groupBit, delays, patterns]

lemma loaded_selected {alct : Alct} {group}
    (selects : ∀ other, alct.selected other = decide (other = group)) (data) :
    alct.exchanged unknown .wrt .asicDelayLines data =
      { alct with delayLines := Function.update alct.delayLines group data } := by
  have lines : (fun other => if alct.selected other then data else alct.delayLines other) =
      Function.update alct.delayLines group data := by
    funext other
    rw [selects]
    by_cases same : other = group
    · rw [same, decide_eq_true rfl, if_pos rfl, Function.update_self]
    · rw [decide_eq_false same, if_neg Bool.false_ne_true, Function.update_of_ne same]
  exact congrArg (fun delayLines => ({ alct with delayLines } : Alct)) lines

lemma rewritten {alct : Alct} {group}
    (selects : ∀ other, alct.selected other = decide (other = group)) (data) :
    (alct.exchanged unknown .rd .asicDelayLines data).exchanged unknown .wrt .asicDelayLines
      (alct.delayLines group) = alct := by
  have lines : ((alct.exchanged unknown .rd .asicDelayLines data).exchanged unknown .wrt
      .asicDelayLines (alct.delayLines group)).delayLines = alct.delayLines := by
    funext other
    change (if alct.selected other then alct.delayLines group
      else if alct.selected other then _ else alct.delayLines other) = _
    rw [selects]
    by_cases same : other = group
    · rw [same, decide_eq_true rfl, if_pos rfl]
    · rw [decide_eq_false same, if_neg Bool.false_ne_true, if_neg Bool.false_ne_true]
  exact congrArg (fun delayLines => ({ alct with delayLines } : Alct)) lines

lemma readAsicGroup_some {group}
    (selects : ∀ other, controller.alct.selected other = decide (other = group))
    (inside : group + 2 < controller.alct.delaylineCtrlReg.length)
    (long : (controller.alct.delayLines group).length = regSizeWrtAsicDelayLines) :
    ∃ bits, readAsicGroup unknown group controller = some { controller with
        asics := Asics.decodeDelaysAndPatterns
          { controller.asics with readDelaysAndPatterns := bits } group } ∧
      ∀ bit < regSizeWrtAsicDelayLines,
        bits bit = ofBits (controller.alct.delayLines group) bit := by
  have found : controller.alct.selectedGroup = some group := by
    rw [Alct.selectedGroup, find?_range_eq_some]
    refine ⟨by rw [selects]; exact decide_eq_true rfl, mem_range.2 (by omega), ?_⟩
    intro other before
    rw [selects, decide_eq_false (Nat.ne_of_lt before)]
    rfl
  have path : controller.alct.path unknown .rd .asicDelayLines regSizeRdAsicDelayLines =
      unknown.junk controller.alct :: controller.alct.delayLines group := by
    rw [Alct.path]
    simp only [found]
  obtain ⟨read, scanned, bits⟩ := shfIRShfDR_some (zeros_bits regSizeRdAsicDelayLines)
    (by decide) (show (controller.alct.path unknown .rd .asicDelayLines _).length = _ by
      rw [path, length_cons, long]
      rfl)
  have copies : ∀ bit < regSizeWrtAsicDelayLines,
      copied regSizeWrtAsicDelayLines (fun bit => read (bit + 1))
        controller.asics.readDelaysAndPatterns bit =
      ofBits (controller.alct.delayLines group) bit := by
    intro bit within
    rw [copied_inside within, bits _ (Nat.succ_lt_succ within), path]
    rfl
  have areBits : AreBits (copied regSizeWrtAsicDelayLines (fun bit => read (bit + 1))
      controller.asics.readDelaysAndPatterns) regSizeWrtAsicDelayLines := by
    intro bit within
    rw [copies bit within, ofBits]
    cases (controller.alct.delayLines group).getD bit false <;> decide
  obtain ⟨_, reloaded, -⟩ := shfIRShfDR_some areBits (by decide)
    (@path_wrt_length unknown
      (controller.alct.exchanged unknown .rd .asicDelayLines
        (toBits (fun _ => 0) regSizeRdAsicDelayLines))
      .asicDelayLines _)
  rw [readAsicGroup, scanned, Option.bind_some]
  dsimp only
  rw [reloaded]
  refine ⟨_, congrArg some ?_, copies⟩
  have lines : toBits (copied regSizeWrtAsicDelayLines (fun bit => read (bit + 1))
      controller.asics.readDelaysAndPatterns) regSizeWrtAsicDelayLines =
        controller.alct.delayLines group := by
    rw [toBits_congr copies, ← long, toBits_ofBits]
  rw [lines, rewritten selects]

def placed (controller : Controller) (delayLine : DelayLine) (asics : Asics) (control : List Bool)
    (delayLines : Nat → List Bool) : Controller :=
  { controller with
    delayLine
    asics
    alct := { controller.alct with delaylineCtrlReg := control, delayLines } }

variable {group : Nat}

lemma choose_some (idle : Idle board controller.delayLine) (inside : group < groups board) :
    ∃ chosen control, writeDelayLineControlReg board unknown check
        (controller.setDelayLineGroupSelect board group on) =
          some (controller.placed chosen controller.asics control controller.alct.delayLines) ∧
      control.length = groups board + 2 ∧
      (∀ delayLines, ∀ other, ({ controller.alct with
        delaylineCtrlReg := control, delayLines } : Alct).selected other = decide (other = group)) ∧
      ∀ other < groups board, other ≠ group → chosen.writeGroupSelect other = 1 := by
  obtain ⟨bits, selects⟩ := chosen_bits idle inside
  obtain ⟨chosen, selected, select⟩ := @writeDelayLineControlReg_some board unknown check
    (controller.setDelayLineGroupSelect board group on) bits
  refine ⟨chosen, _, selected, toBits_length _ _, fun delayLines => ?_, ?_⟩
  · exact selects { controller.alct with delayLines }
  · intro other within different
    rw [select]
    change (controller.delayLine.setGroupSelect (groups board) group on).writeGroupSelect other = 1
    rw [setGroupSelect_select inside, Function.update_of_ne different]
    exact idle other within

lemma unchoose_some (inside : group < groups board)
    (others : ∀ other < groups board, other ≠ group →
      controller.delayLine.writeGroupSelect other = 1) :
    ∃ delayLine control, writeDelayLineControlReg board unknown check
        (controller.setDelayLineGroupSelect board group off) =
          some (controller.placed delayLine controller.asics control controller.alct.delayLines) ∧
      Idle board delayLine := by
  have idle := unchosen_idle inside others
  obtain ⟨delayLine, left, select⟩ := @writeDelayLineControlReg_some board unknown check
    (controller.setDelayLineGroupSelect board group off)  (idle_bits idle)
  refine ⟨delayLine, _, left, ?_⟩
  intro other within
  rw [select]
  exact idle other within

lemma writeAsicGroup_some (idle : Idle board controller.delayLine) (inside : group < groups board)
    (bits : AreBits (controller.asics.groupBit group) regSizeWrtAsicDelayLines) :
    ∃ delayLine asics control, writeAsicGroup board unknown check group controller =
        some (controller.placed delayLine asics control
          (Function.update controller.alct.delayLines group (groupBits controller.asics group))) ∧
      Idle board delayLine ∧ asics.writeDelay = controller.asics.writeDelay ∧
      asics.writePattern = controller.asics.writePattern := by
  obtain ⟨chosen, control, selected, long, selects, others⟩ :=
    @choose_some board unknown check controller group idle inside
  have filled : toBits (controller.asics.fillDelaysAndPatterns group).writeDelaysAndPatterns
      regSizeWrtAsicDelayLines = groupBits controller.asics group :=
    toBits_congr fun bit within => fill_bit controller.asics group within
  have filledBits : AreBits (controller.asics.fillDelaysAndPatterns group).writeDelaysAndPatterns
      regSizeWrtAsicDelayLines := by
    intro bit within
    rw [fill_bit controller.asics group within]
    exact bits bit within
  obtain ⟨_, scanned, -⟩ := shfIRShfDR_some filledBits (by decide) (@path_wrt_length unknown
    { controller.alct with delaylineCtrlReg := control } .asicDelayLines _)
  rw [filled, loaded_selected (selects controller.alct.delayLines)] at scanned
  have checked : ∃ asics,
      (if check then readAsicGroup unknown group (controller.placed chosen
          (controller.asics.fillDelaysAndPatterns group) control
          (Function.update controller.alct.delayLines group (groupBits controller.asics group)))
        else some (controller.placed chosen (controller.asics.fillDelaysAndPatterns group) control
          (Function.update controller.alct.delayLines group (groupBits controller.asics group)))) =
        some (controller.placed chosen asics control
          (Function.update controller.alct.delayLines group (groupBits controller.asics group))) ∧
      asics.writeDelay = controller.asics.writeDelay ∧
      asics.writePattern = controller.asics.writePattern := by
    cases check with
    | false => exact ⟨_, rfl, rfl, rfl⟩
    | true =>
      obtain ⟨read, same, -⟩ := @readAsicGroup_some unknown (controller.placed chosen
        (controller.asics.fillDelaysAndPatterns group) control (Function.update
          controller.alct.delayLines group (groupBits controller.asics group))) group
        (selects _) (long ▸ Nat.add_lt_add_right inside 2) (by
          change (Function.update controller.alct.delayLines group _ group).length = _
          rw [Function.update_self]
          exact groupBits_length _ _)
      have decoded := decode_group { controller.asics.fillDelaysAndPatterns group with
        readDelaysAndPatterns := read } group
      exact ⟨_, same, decoded.writeDelay, decoded.writePattern⟩
  obtain ⟨asics, same, delays, patterns⟩ := checked
  obtain ⟨delayLine, after, left, idleAgain⟩ := @unchoose_some board unknown check
    (controller.placed chosen asics control (Function.update controller.alct.delayLines group
      (groupBits controller.asics group))) group inside others
  refine ⟨delayLine, asics, after, ?_, idleAgain, delays, patterns⟩
  rw [writeAsicGroup, selected, Option.bind_some]
  dsimp only [placed] at scanned same left ⊢
  rw [scanned, Option.bind_some, same, Option.bind_some]
  exact left

lemma readSelectedGroup_some (idle : Idle board controller.delayLine)
    (inside : group < groups board)
    (long : (controller.alct.delayLines group).length = regSizeWrtAsicDelayLines) :
    ∃ delayLine bits control, readSelectedGroup board unknown check group controller =
        some (controller.placed delayLine (Asics.decodeDelaysAndPatterns
          { controller.asics with readDelaysAndPatterns := bits } group) control
          controller.alct.delayLines) ∧
      Idle board delayLine ∧ ∀ bit < regSizeWrtAsicDelayLines,
        bits bit = ofBits (controller.alct.delayLines group) bit := by
  obtain ⟨chosen, control, selected, size, selects, others⟩ :=
    @choose_some board unknown check controller group idle inside
  obtain ⟨bits, read, held⟩ := @readAsicGroup_some unknown (controller.placed chosen
    controller.asics control controller.alct.delayLines) group (selects _)
    (size ▸ Nat.add_lt_add_right inside 2) long
  obtain ⟨delayLine, after, left, idleAgain⟩ := @unchoose_some board unknown check
    (controller.placed chosen (Asics.decodeDelaysAndPatterns
      { controller.asics with readDelaysAndPatterns := bits } group) control
      controller.alct.delayLines) group inside others
  refine ⟨delayLine, bits, after, ?_, idleAgain, held⟩
  rw [readSelectedGroup, selected, Option.bind_some, read, Option.bind_some]
  exact left

lemma foldlM_next {β : Type} {body : β → Nat → Option β} {count start before after}
    (earlier : (List.range count).foldlM body start = some before)
    (next : body before count = some after) :
    (List.range (count + 1)).foldlM body start = some after := by
  rw [range_succ, foldlM_append, earlier, Option.bind_eq_bind, Option.bind_some, foldlM_cons, next]
  rfl

lemma writeAsicDelaysAndPatterns_some
    (bits : ∀ group < groups board,
      AreBits (controller.asics.groupBit group) regSizeWrtAsicDelayLines) :
    ∃ delayLine asics control delayLines,
      writeAsicDelaysAndPatterns board unknown check controller =
        some (controller.placed delayLine asics control delayLines) ∧
      asics.writeDelay = controller.asics.writeDelay ∧
      asics.writePattern = controller.asics.writePattern ∧
      ∀ group < groups board, delayLines group = groupBits controller.asics group := by
  have loop : ∀ count ≤ groups board, ∃ delayLine asics control delayLines,
      (List.range count).foldlM (fun controller group =>
          writeAsicGroup board unknown check group controller)
        { controller with delayLine := controller.delayLine.setPowerUp } =
          some (controller.placed delayLine asics control delayLines) ∧
      Idle board delayLine ∧ asics.writeDelay = controller.asics.writeDelay ∧
      asics.writePattern = controller.asics.writePattern ∧
      ∀ group < count, delayLines group = groupBits controller.asics group := by
    intro count
    induction count with
    | zero =>
      intro _
      exact ⟨_, _, _, _, rfl, idle_powerUp _, rfl, rfl, fun group none_ =>
        absurd none_ (Nat.not_lt_zero group)⟩
    | succ count ih =>
      intro inside
      obtain ⟨delayLine, asics, control, delayLines, earlier, idle, delays, patterns, held⟩ :=
        ih (Nat.le_of_succ_le inside)
      have same : groupBits asics = groupBits controller.asics := groupBits_congr delays patterns
      have sound : AreBits (asics.groupBit count) regSizeWrtAsicDelayLines := by
        intro bit within
        rw [Asics.groupBit, delays, patterns]
        exact bits count inside bit within
      obtain ⟨next, nextAsics, nextControl, written, nextIdle, nextDelays, nextPatterns⟩ :=
        @writeAsicGroup_some board unknown check
          (controller.placed delayLine asics control delayLines) count idle inside sound
      refine ⟨next, nextAsics, nextControl,
        Function.update delayLines count (groupBits asics count), ?_, nextIdle,
        nextDelays.trans delays, nextPatterns.trans patterns, ?_⟩
      · exact foldlM_next earlier written
      · intro group before
        by_cases last : group = count
        · rw [last, Function.update_self, same]
        · rw [Function.update_of_ne last]
          exact held group (by omega)
  obtain ⟨delayLine, asics, control, delayLines, written, -, delays, patterns, held⟩ :=
    loop _ (Nat.le_refl _)
  exact ⟨delayLine, asics, control, delayLines, written, delays, patterns, held⟩

lemma readAsicDelaysAndPatterns_some
    (held : ∀ group < groups board,
      controller.alct.delayLines group = groupBits controller.asics group)
    (bits : ∀ group < groups board,
      AreBits (controller.asics.groupBit group) regSizeWrtAsicDelayLines) :
    ∃ delayLine asics control, readAsicDelaysAndPatterns board unknown check controller =
        some (controller.placed delayLine asics control controller.alct.delayLines) ∧
      asics.writeDelay = controller.asics.writeDelay ∧
      asics.writePattern = controller.asics.writePattern ∧
      (∀ afeb, afeb / numberOfChipsPerGroup < groups board →
        0 ≤ controller.asics.writeDelay afeb → controller.asics.writeDelay afeb ≤ 15 →
          asics.readDelay afeb = controller.asics.writeDelay afeb) ∧
      ∀ layer < maxNumLayers, ∀ channel, channel / numberOfLinesPerChip < groups board →
        asics.readPattern layer channel = controller.asics.writePattern layer channel := by
  have loop : ∀ count ≤ groups board, ∃ delayLine asics control,
      (List.range count).foldlM (fun controller group =>
          readSelectedGroup board unknown check group controller)
        { controller with delayLine := controller.delayLine.setPowerUp } =
          some (controller.placed delayLine asics control controller.alct.delayLines) ∧
      Idle board delayLine ∧ asics.writeDelay = controller.asics.writeDelay ∧
      asics.writePattern = controller.asics.writePattern ∧
      (∀ afeb, afeb / numberOfChipsPerGroup < count →
        0 ≤ controller.asics.writeDelay afeb → controller.asics.writeDelay afeb ≤ 15 →
          asics.readDelay afeb = controller.asics.writeDelay afeb) ∧
      ∀ layer < maxNumLayers, ∀ channel, channel / numberOfLinesPerChip < count →
        asics.readPattern layer channel = controller.asics.writePattern layer channel := by
    intro count
    induction count with
    | zero =>
      intro _
      exact ⟨_, _, _, rfl, idle_powerUp _, rfl, rfl,
        fun afeb none_ => absurd none_ (Nat.not_lt_zero _),
        fun layer _ channel none_ => absurd none_ (Nat.not_lt_zero _)⟩
    | succ count ih =>
      intro inside
      obtain ⟨delayLine, asics, control, earlier, idle, delays, patterns, readDelays,
        readPatterns⟩ := ih (Nat.le_of_succ_le inside)
      obtain ⟨next, read, nextControl, done, nextIdle, contents⟩ :=
        @readSelectedGroup_some board unknown check (controller.placed delayLine asics control
          controller.alct.delayLines) count idle inside (by
            change (controller.alct.delayLines count).length = _
            rw [held count inside]
            exact groupBits_length _ _)
      have vector : ∀ bit < regSizeWrtAsicDelayLines,
          read bit = controller.asics.groupBit count bit := by
        intro bit within
        rw [contents bit within]
        change ofBits (controller.alct.delayLines count) bit = _
        rw [held count inside]
        exact ofBits_toBits (bits count inside) within
      have decoded := decode_group { asics with readDelaysAndPatterns := read } count
      have returned := @decode_returned { asics with readDelaysAndPatterns := read }
        controller.asics count vector
      refine ⟨next,
        Asics.decodeDelaysAndPatterns { asics with readDelaysAndPatterns := read } count,
        nextControl, ?_, nextIdle, decoded.writeDelay.trans delays,
        decoded.writePattern.trans patterns, ?_, ?_⟩
      · exact foldlM_next earlier done
      · intro afeb before nonneg small
        refine returned.1 afeb nonneg small ?_
        rcases Nat.lt_succ_iff_lt_or_eq.1 before with earlierGroup | last
        · exact .inr (readDelays afeb earlierGroup nonneg small)
        · exact .inl last
      · intro layer few channel before
        refine returned.2 layer few channel ?_
        rcases Nat.lt_succ_iff_lt_or_eq.1 before with earlierGroup | last
        · exact .inr (readPatterns layer few channel earlierGroup)
        · exact .inl last
  obtain ⟨delayLine, asics, control, read, -, delays, patterns, returned⟩ := loop _ (Nat.le_refl _)
  exact ⟨delayLine, asics, control, read, delays, patterns, returned⟩

end

variable {register : Register} {alct : Alct} {content : List Bool} {size : Nat}

/-- A register that is read whole, and is the same again when what was read is written back. -/
structure Restored (unknown : Unknown) (register : Register) (alct : Alct) (content : List Bool) :
    Prop where
  path : ∀ size, alct.path unknown .rd register size = content
  back : ∀ data, (alct.exchanged unknown .rd register data).exchanged unknown .wrt register
    content = alct

lemma restored_hotchanMask (alct) :
    Restored unknown .hotchanMask alct alct.hotchanMask := ⟨fun _ => rfl, fun _ => rfl⟩

lemma restored_collisionMaskReg (alct) :
    Restored unknown .collisionMaskReg alct alct.collisionMaskReg := ⟨fun _ => rfl, fun _ => rfl⟩

lemma readMask_some (restored : Restored unknown register alct content)
    (long : content.length = size) (room : size ≤ maxNumFrames) (mask) :
    ∃ read, readMask unknown register size size mask alct = some ({ mask with read }, alct) ∧
      ∀ bit < size, read bit = ofBits content bit := by
  obtain ⟨read, scanned, contents⟩ := shfIRShfDR_some (zeros_bits size) room
    ((congrArg List.length (restored.path size)).trans long)
  rw [restored.path] at contents
  have copies : ∀ bit < size, copied size read mask.read bit = ofBits content bit := by
    intro bit within
    rw [copied_inside within]
    exact contents bit within
  have areBits : AreBits (copied size read mask.read) size := by
    intro bit within
    rw [copies bit within, ofBits]
    cases content.getD bit false <;> decide
  have same : toBits (copied size read mask.read) size = content := by
    rw [toBits_congr copies, ← long, toBits_ofBits]
  obtain ⟨_, reloaded, -⟩ := shfIRShfDR_some areBits room (@path_wrt_length unknown
    (alct.exchanged unknown .rd register (toBits (fun _ => 0) size)) register size)
  rw [same, restored.back] at reloaded
  rw [readMask, scanned, Option.bind_some]
  dsimp only
  rw [reloaded]
  exact ⟨_, rfl, copies⟩

lemma writeMask_some {mask} (bits : AreBits mask.write size) (room : size ≤ maxNumFrames)
    (restored : Restored unknown register
      (alct.exchanged unknown .wrt register (toBits mask.write size)) (toBits mask.write size)) :
    ∃ read, writeMask unknown check register size size mask alct = some ({ mask with read },
      alct.exchanged unknown .wrt register (toBits mask.write size)) := by
  obtain ⟨_, scanned, -⟩ := shfIRShfDR_some bits room (@path_wrt_length unknown alct register size)
  rw [writeMask, scanned, Option.bind_some]
  cases check with
  | false => exact ⟨_, rfl⟩
  | true =>
    obtain ⟨read, same, -⟩ := readMask_some restored (toBits_length _ _) room mask
    exact ⟨read, same⟩

lemma hotchanMask_room (board : Board) :
    board.characteristics.sizes.wrtHotchanMask ≤ maxNumFrames :=
  Nat.le_trans board.fits.hotChannels (by decide)

lemma collisionMaskReg_room (board : Board) :
    board.characteristics.sizes.wrtCollisionMaskReg ≤ maxNumFrames :=
  Nat.le_trans board.fits.collisionBits (by decide)

lemma readHotChannelMask_some
    (long : controller.alct.hotchanMask.length = board.characteristics.sizes.wrtHotchanMask) :
    ∃ read, readHotChannelMask board unknown controller = some { controller with
        hotChannelMask := { controller.hotChannelMask with read } } ∧
      ∀ bit < board.characteristics.sizes.wrtHotchanMask,
        read bit = ofBits controller.alct.hotchanMask bit := by
  obtain ⟨read, same, contents⟩ := readMask_some (@restored_hotchanMask unknown _) long
    (hotchanMask_room board) controller.hotChannelMask
  rw [readHotChannelMask, board.fits.hotchanMask, same]
  exact ⟨read, rfl, contents⟩

lemma writeHotChannelMask_some
    (bits : AreBits controller.hotChannelMask.write
      board.characteristics.sizes.wrtHotchanMask) :
    ∃ read, writeHotChannelMask board unknown check controller = some { controller with
        hotChannelMask := { controller.hotChannelMask with read }
        alct := { controller.alct with
          hotchanMask := toBits controller.hotChannelMask.write
            board.characteristics.sizes.wrtHotchanMask } } := by
  obtain ⟨read, written⟩ := @writeMask_some unknown check .hotchanMask controller.alct _ _ bits
    (hotchanMask_room board) (restored_hotchanMask _)
  rw [writeHotChannelMask, board.fits.hotchanMask, written]
  exact ⟨read, rfl⟩

lemma readCollisionPatternMask_some
    (long : controller.alct.collisionMaskReg.length =
      board.characteristics.sizes.wrtCollisionMaskReg) :
    ∃ read, readCollisionPatternMask board unknown controller = some { controller with
        collisionPatternMask := { controller.collisionPatternMask with read } } ∧
      ∀ bit < board.characteristics.sizes.wrtCollisionMaskReg,
        read bit = ofBits controller.alct.collisionMaskReg bit := by
  obtain ⟨read, same, contents⟩ := readMask_some (@restored_collisionMaskReg unknown _) long
    (collisionMaskReg_room board) controller.collisionPatternMask
  rw [readCollisionPatternMask, board.fits.collisionMaskReg, same]
  exact ⟨read, rfl, contents⟩

lemma writeCollisionPatternMask_some
    (bits : AreBits controller.collisionPatternMask.write
      board.characteristics.sizes.wrtCollisionMaskReg) :
    ∃ read, writeCollisionPatternMask board unknown check controller = some { controller with
        collisionPatternMask := { controller.collisionPatternMask with read }
        alct := { controller.alct with
          collisionMaskReg := toBits controller.collisionPatternMask.write
            board.characteristics.sizes.wrtCollisionMaskReg } } := by
  obtain ⟨read, written⟩ := @writeMask_some unknown check .collisionMaskReg controller.alct _ _
    bits (collisionMaskReg_room board) (restored_collisionMaskReg _)
  rw [writeCollisionPatternMask, board.fits.collisionMaskReg, written]
  exact ⟨read, rfl⟩

lemma readConfigurationReg_some (long : controller.alct.configReg.length = regSizeConfigReg) :
    ∃ bits, readConfigurationReg unknown controller = some { controller with
        configuration := Configuration.decodeConfigurationReg
          { controller.configuration with readConfigReg := bits } } ∧
      ∀ bit < regSizeConfigReg, bits bit = ofBits controller.alct.configReg bit := by
  obtain ⟨read, scanned, contents⟩ := shfIRShfDR_some (zeros_bits regSizeConfigReg) (by decide)
    (show (controller.alct.path unknown .rd .configReg regSizeConfigReg).length = _ from long)
  rw [readConfigurationReg, scanned]
  refine ⟨_, rfl, fun bit within => ?_⟩
  rw [copied_inside within]
  exact contents bit within

lemma writeConfigurationReg_some
    (bits : AreBits controller.configuration.fillConfigurationReg.writeConfigReg regSizeConfigReg) :
    ∃ configuration, writeConfigurationReg unknown check controller = some { controller with
        configuration
        alct := { controller.alct with
          configReg := toBits controller.configuration.fillConfigurationReg.writeConfigReg
            regSizeConfigReg } } ∧
      configuration.write = controller.configuration.write ∧
      configuration.writeConfigReg =
        controller.configuration.fillConfigurationReg.writeConfigReg := by
  obtain ⟨_, scanned, -⟩ := shfIRShfDR_some bits (by decide)
    (@path_wrt_length unknown controller.alct .configReg regSizeConfigReg)
  rw [writeConfigurationReg]
  rw [scanned, Option.bind_some]
  cases check with
  | false => exact ⟨_, rfl, rfl, rfl⟩
  | true =>
    obtain ⟨read, same, -⟩ := @readConfigurationReg_some unknown { controller with
      configuration := controller.configuration.fillConfigurationReg
      alct := { controller.alct with
        configReg := toBits controller.configuration.fillConfigurationReg.writeConfigReg
          regSizeConfigReg } } (toBits_length _ _)
    exact ⟨_, same, rfl, rfl⟩

end Controller

end EmuLib.AlctController
