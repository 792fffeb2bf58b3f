import EmuLib.AlctController.Vectors

/-!
The bits of the delays and patterns of a group of chips, filled in and decoded chip by chip.
-/

namespace EmuLib.AlctController

open List Function

def asicIndexOf (layer line : Nat) : Nat :=
  line / 8 * 48 + (if layer % 2 = 1 then layer - 1 else layer + 1) * 8 +
    if layer % 2 = 1 then 7 - line % 8 else line % 8

def linePlace (asicIndex : Nat) : Nat :=
  asicIndex / numberOfLinesPerChip * numberOfAsicBits + asicPatternBitlo +
    asicIndex % numberOfLinesPerChip

lemma asicIndexOf_maps : ∀ asicIndex < 96,
    asicLayerMap asicIndex < maxNumLayers ∧ asicWiregroupMap asicIndex < numberOfLinesPerChip ∧
      asicIndexOf (asicLayerMap asicIndex) (asicWiregroupMap asicIndex) = asicIndex := by
  decide

lemma maps_asicIndexOf : ∀ layer < maxNumLayers, ∀ line < numberOfLinesPerChip,
    asicIndexOf layer line < 96 ∧ asicLayerMap (asicIndexOf layer line) = layer ∧
      asicWiregroupMap (asicIndexOf layer line) = line := by
  decide

lemma maps_iff {asicIndex} (inside : asicIndex < 96) (group layer channel) :
    layer = asicLayerMap asicIndex ∧ channel = getChannelFromAsicMap group asicIndex ↔
      layer < maxNumLayers ∧ channel / numberOfLinesPerChip = group ∧
        asicIndexOf layer (channel % numberOfLinesPerChip) = asicIndex := by
  obtain ⟨few, short, back⟩ := asicIndexOf_maps asicIndex inside
  have lines : 0 < numberOfLinesPerChip := by decide
  rw [getChannelFromAsicMap]
  constructor
  · rintro ⟨rfl, rfl⟩
    rw [Nat.add_mul_div_right _ _ lines, Nat.div_eq_of_lt short, Nat.zero_add,
      Nat.add_mul_mod_self_right, Nat.mod_eq_of_lt short]
    exact ⟨few, rfl, back⟩
  · rintro ⟨layers, rfl, rfl⟩
    obtain ⟨-, layerOf, lineOf⟩ := maps_asicIndexOf layer layers (channel % numberOfLinesPerChip)
      (Nat.mod_lt _ lines)
    refine ⟨layerOf.symm, ?_⟩
    rw [lineOf, Nat.mul_comm, Nat.mod_add_div]

section

variable (asics : Asics) (group : Nat)

def Asics.groupBit (bit : Nat) : Int :=
  if bit % numberOfAsicBits < asicDelayBits then
    bitOf (asics.writeDelay (group * numberOfChipsPerGroup + bit / numberOfAsicBits))
      (BitOrder.msbFirst.place asicDelayBits (bit % numberOfAsicBits))
  else
    asics.writePattern
      (asicLayerMap (bit / numberOfAsicBits * numberOfLinesPerChip +
        (bit % numberOfAsicBits - asicPatternBitlo)))
      (getChannelFromAsicMap group (bit / numberOfAsicBits * numberOfLinesPerChip +
        (bit % numberOfAsicBits - asicPatternBitlo)))

lemma foldl_counting (values : Nat → Int) (count) :
    ∀ (start counter : Nat) (bits : Nat → Int), (range' start count).foldl (fun filled bit =>
        (update filled.1 bit (values filled.2), filled.2 + 1)) (bits, counter) =
      (fun bit => if start ≤ bit ∧ bit < start + count then values (counter + (bit - start))
        else bits bit, counter + count) := by
  induction count with
  | zero =>
    intro start counter bits
    refine Prod.ext (funext fun bit => ?_) rfl
    exact (if_neg (by omega)).symm
  | succ count ih =>
    intro start counter bits
    rw [range'_succ, foldl_cons, ih]
    refine Prod.ext (funext fun bit => ?_) (by dsimp only; omega)
    dsimp only
    by_cases first : bit = start
    · rw [if_neg (by omega), if_pos (by omega), first, update_self, Nat.sub_self,
        Nat.add_zero]
    · rw [update_of_ne first]
      by_cases later : start + 1 ≤ bit ∧ bit < start + 1 + count
      · rw [if_pos later, if_pos (by omega)]
        congr 1
        omega
      · rw [if_neg later, if_neg (by omega)]

lemma chip_bit (bit afebCounter) :
    (bit / numberOfAsicBits ≠ afebCounter →
      ¬(afebCounter * numberOfAsicBits + asicPatternBitlo ≤ bit ∧
        bit < afebCounter * numberOfAsicBits + asicPatternBitlo + numberOfLinesPerChip) ∧
      (bit < afebCounter * numberOfAsicBits ∨
        afebCounter * numberOfAsicBits + asicDelayBits ≤ bit)) ∧
    (bit / numberOfAsicBits = afebCounter → ¬bit % numberOfAsicBits < asicDelayBits →
      (afebCounter * numberOfAsicBits + asicPatternBitlo ≤ bit ∧
        bit < afebCounter * numberOfAsicBits + asicPatternBitlo + numberOfLinesPerChip) ∧
      bit - (afebCounter * numberOfAsicBits + asicPatternBitlo) =
        bit % numberOfAsicBits - asicPatternBitlo) ∧
    (bit / numberOfAsicBits = afebCounter → bit % numberOfAsicBits < asicDelayBits →
      ¬(afebCounter * numberOfAsicBits + asicPatternBitlo ≤ bit ∧
        bit < afebCounter * numberOfAsicBits + asicPatternBitlo + numberOfLinesPerChip) ∧
      afebCounter * numberOfAsicBits ≤ bit ∧ bit < afebCounter * numberOfAsicBits + asicDelayBits ∧
      bit - afebCounter * numberOfAsicBits = bit % numberOfAsicBits) := by
  simp only [numberOfLinesPerChip, numberOfAsicBits, asicPatternBitlo, asicDelayBits]
  omega

lemma fillChip_eq (filled afebCounter) (counted : filled.2 = afebCounter * numberOfLinesPerChip) :
    (asics.fillChip group filled afebCounter).2 = (afebCounter + 1) * numberOfLinesPerChip ∧
      ∀ bit, (asics.fillChip group filled afebCounter).1 bit =
        if bit / numberOfAsicBits = afebCounter then asics.groupBit group bit
        else filled.1 bit := by
  rw [Asics.fillChip, foldl_counting fun asicIndex =>
    asics.writePattern (asicLayerMap asicIndex) (getChannelFromAsicMap group asicIndex), counted]
  refine ⟨(Nat.succ_mul _ _).symm, fun bit => ?_⟩
  obtain ⟨inside, pattern, delay⟩ := chip_bit bit afebCounter
  dsimp only
  by_cases chip : bit / numberOfAsicBits = afebCounter
  · rw [if_pos chip, Asics.groupBit]
    by_cases early : bit % numberOfAsicBits < asicDelayBits
    · have place := delay chip early
      rw [if_pos early, if_neg place.1, intToBits_inside place.2.1 place.2.2.1, place.2.2.2, chip]
    · have place := pattern chip early
      rw [if_neg early, if_pos place.1, place.2, chip]
  · obtain ⟨lines, delays⟩ := inside chip
    rw [if_neg chip, if_neg lines, intToBits_outside delays]

lemma fill_bit {bit} (inside : bit < regSizeWrtAsicDelayLines) :
    (asics.fillDelaysAndPatterns group).writeDelaysAndPatterns bit = asics.groupBit group bit := by
  have loop : ∀ chips, ∀ bit,
      ((List.range chips).foldl (asics.fillChip group) (asics.writeDelaysAndPatterns, 0)).2 =
        chips * numberOfLinesPerChip ∧
      (bit / numberOfAsicBits < chips →
        ((List.range chips).foldl (asics.fillChip group) (asics.writeDelaysAndPatterns, 0)).1 bit =
          asics.groupBit group bit) := by
    intro chips
    induction chips with
    | zero => exact fun bit => ⟨rfl, fun none_ => absurd none_ (Nat.not_lt_zero _)⟩
    | succ chips ih =>
      intro bit
      obtain ⟨counted, earlier⟩ := ih bit
      obtain ⟨counter, bits⟩ := fillChip_eq asics group _ chips counted
      rw [range_succ, foldl_append, foldl_cons, foldl_nil]
      refine ⟨counter, fun before => ?_⟩
      rw [bits]
      by_cases last : bit / numberOfAsicBits = chips
      · rw [if_pos last]
      · rw [if_neg last, earlier (by omega)]
  refine (loop numberOfChipsPerGroup bit).2 ?_
  simp only [regSizeWrtAsicDelayLines, numberOfAsicBits, numberOfChipsPerGroup] at inside ⊢
  omega

lemma groupBit_bit (patterns : ∀ layer < maxNumLayers, ∀ channel,
      channel / numberOfLinesPerChip = group →
        asics.writePattern layer channel = 0 ∨ asics.writePattern layer channel = 1) :
    AreBits (asics.groupBit group) regSizeWrtAsicDelayLines := by
  intro bit inside
  rw [Asics.groupBit]
  split
  · exact bitOf_bit _ _
  · simp only [regSizeWrtAsicDelayLines, numberOfAsicBits, numberOfLinesPerChip,
      asicPatternBitlo, asicDelayBits] at *
    have index : bit / 20 * 16 + (bit % 20 - 4) < 96 := by omega
    obtain ⟨few, there, -⟩ := (maps_iff index group _ _).1 ⟨rfl, rfl⟩
    exact patterns _ few _ there

end

structure Decoding (start : Asics) (group chips count : Nat) (decoded : Asics × Nat) : Prop where
  counter : decoded.2 = count
  vector : decoded.1.readDelaysAndPatterns = start.readDelaysAndPatterns
  writeDelay : decoded.1.writeDelay = start.writeDelay
  writePattern : decoded.1.writePattern = start.writePattern
  delay : ∀ afeb, decoded.1.readDelay afeb =
    if afeb / numberOfChipsPerGroup = group ∧ afeb % numberOfChipsPerGroup < chips then
      bitsToInt .msbFirst start.readDelaysAndPatterns
        (afeb % numberOfChipsPerGroup * numberOfAsicBits) asicDelayBits
    else start.readDelay afeb
  pattern : ∀ layer channel, decoded.1.readPattern layer channel =
    if layer < maxNumLayers ∧ channel / numberOfLinesPerChip = group ∧
        asicIndexOf layer (channel % numberOfLinesPerChip) < count then
      start.readDelaysAndPatterns
        (linePlace (asicIndexOf layer (channel % numberOfLinesPerChip)))
    else start.readPattern layer channel

variable {start : Asics} {group chips count : Nat} {decoded : Asics × Nat}

lemma Decoding.line (decoding : Decoding start group chips count decoded) (inside : count < 96) :
    Decoding start group chips (count + 1)
      ({ decoded.1 with
          readPattern := update decoded.1.readPattern (asicLayerMap decoded.2)
            (update (decoded.1.readPattern (asicLayerMap decoded.2))
              (getChannelFromAsicMap group decoded.2)
              (decoded.1.readDelaysAndPatterns (linePlace count))) },
        decoded.2 + 1) where
  counter := congrArg (· + 1) decoding.counter
  vector := decoding.vector
  writeDelay := decoding.writeDelay
  writePattern := decoding.writePattern
  delay := decoding.delay
  pattern layer channel := by
    have maps := maps_iff inside group layer channel
    have before := decoding.pattern layer channel
    dsimp only
    rw [decoding.counter, decoding.vector]
    by_cases here : layer = asicLayerMap count ∧ channel = getChannelFromAsicMap group count
    · obtain ⟨few, there, index⟩ := maps.1 here
      rw [if_pos ⟨few, there, by omega⟩, index, ← here.1, update_self, ← here.2,
        update_self]
    · have elsewhere : update decoded.1.readPattern (asicLayerMap count)
          (update (decoded.1.readPattern (asicLayerMap count))
            (getChannelFromAsicMap group count) (start.readDelaysAndPatterns (linePlace count)))
          layer channel = decoded.1.readPattern layer channel := by
        by_cases same : layer = asicLayerMap count
        · rw [same, update_self, update_of_ne fun line => here ⟨same, line⟩]
        · rw [update_of_ne same]
      rw [elsewhere, before]
      refine if_congr ?_ rfl rfl
      rw [maps] at here
      constructor
      · rintro ⟨few, there, index⟩
        exact ⟨few, there, Nat.lt_succ_of_lt index⟩
      · rintro ⟨few, there, index⟩
        refine ⟨few, there, Nat.lt_of_le_of_ne (Nat.le_of_lt_succ index) ?_⟩
        exact fun last => here ⟨few, there, last⟩

lemma Decoding.delays (decoding : Decoding start group chips count decoded)
    (inside : chips < numberOfChipsPerGroup) :
    Decoding start group (chips + 1) count
      ({ decoded.1 with
          readDelay := update decoded.1.readDelay (group * numberOfChipsPerGroup + chips)
            (bitsToInt .msbFirst decoded.1.readDelaysAndPatterns (chips * numberOfAsicBits)
              asicDelayBits) }, decoded.2) where
  counter := decoding.counter
  vector := decoding.vector
  writeDelay := decoding.writeDelay
  writePattern := decoding.writePattern
  pattern := decoding.pattern
  delay afeb := by
    have before := decoding.delay afeb
    have split : afeb = group * numberOfChipsPerGroup + chips ↔
        afeb / numberOfChipsPerGroup = group ∧ afeb % numberOfChipsPerGroup = chips := by
      simp only [numberOfChipsPerGroup] at inside ⊢
      omega
    dsimp only
    rw [decoding.vector]
    by_cases here : afeb = group * numberOfChipsPerGroup + chips
    · obtain ⟨there, chip⟩ := split.1 here
      rw [here, update_self, ← here, if_pos ⟨there, by omega⟩, chip]
    · rw [update_of_ne here, before]
      refine if_congr ?_ rfl rfl
      rw [split] at here
      constructor
      · exact fun both => ⟨both.1, Nat.lt_succ_of_lt both.2⟩
      · exact fun both => ⟨both.1, Nat.lt_of_le_of_ne (Nat.le_of_lt_succ both.2) fun last =>
          here ⟨both.1, last⟩⟩

lemma Decoding.lines (lines) : ∀ {count line : Nat} {decoded : Asics × Nat},
    Decoding start group chips count decoded → count % numberOfLinesPerChip + lines ≤
      numberOfLinesPerChip → count + lines ≤ 96 → line = linePlace count →
    Decoding start group chips (count + lines)
      ((range' line lines).foldl
        (fun decoded bit =>
          ({ decoded.1 with
              readPattern := update decoded.1.readPattern (asicLayerMap decoded.2)
                (update (decoded.1.readPattern (asicLayerMap decoded.2))
                  (getChannelFromAsicMap group decoded.2) (decoded.1.readDelaysAndPatterns bit)) },
            decoded.2 + 1)) decoded) := by
  induction lines with
  | zero => exact fun decoding _ _ _ => decoding
  | succ lines ih =>
    intro count line decoded decoding chip inside place
    rw [place, show count + (lines + 1) = count + 1 + lines by
      omega]
    have next := decoding.line (show count < 96 by omega)
    cases lines with
    | zero => exact next
    | succ more =>
      refine ih next ?_ (by omega) ?_
      · simp only [numberOfLinesPerChip] at chip ⊢
        omega
      · simp only [linePlace, numberOfLinesPerChip, numberOfAsicBits] at chip ⊢
        omega

lemma Decoding.chip (decoding : Decoding start group chips (chips * numberOfLinesPerChip) decoded)
    (inside : chips < numberOfChipsPerGroup) :
    Decoding start group (chips + 1) ((chips + 1) * numberOfLinesPerChip)
      (Asics.decodeChip group decoded chips) := by
  rw [Nat.succ_mul]
  refine Decoding.lines numberOfLinesPerChip (decoding.delays inside) ?_ ?_ ?_
  · rw [Nat.mul_mod_left, Nat.zero_add]
  · simp only [numberOfChipsPerGroup, numberOfLinesPerChip] at inside ⊢
    omega
  · rw [linePlace, Nat.mul_mod_left, Nat.mul_div_cancel _ (by decide), Nat.add_zero]

lemma decode_group (asics group) :
    Decoding asics group numberOfChipsPerGroup 96
      (asics.decodeDelaysAndPatterns group, 96) := by
  have loop : ∀ chips ≤ numberOfChipsPerGroup, Decoding asics group chips
      (chips * numberOfLinesPerChip)
      ((List.range chips).foldl (Asics.decodeChip group) (asics, 0)) := by
    intro chips
    induction chips with
    | zero =>
      intro _
      exact ⟨rfl, rfl, rfl, rfl, fun afeb => (if_neg (by omega)).symm,
        fun layer channel => (if_neg (by omega)).symm⟩
    | succ chips ih =>
      intro inside
      rw [range_succ, foldl_append, foldl_cons, foldl_nil]
      exact (ih (Nat.le_of_succ_le inside)).chip inside
  have whole := loop numberOfChipsPerGroup (Nat.le_refl _)
  exact ⟨rfl, whole.vector, whole.writeDelay, whole.writePattern, whole.delay, whole.pattern⟩

lemma decode_returned {asics source : Asics} {group}
    (vector : ∀ bit < regSizeWrtAsicDelayLines,
      asics.readDelaysAndPatterns bit = source.groupBit group bit) :
    (∀ afeb, 0 ≤ source.writeDelay afeb → source.writeDelay afeb ≤ 15 →
      (afeb / numberOfChipsPerGroup = group ∨ asics.readDelay afeb = source.writeDelay afeb) →
        (asics.decodeDelaysAndPatterns group).readDelay afeb = source.writeDelay afeb) ∧
    ∀ layer < maxNumLayers, ∀ channel,
      (channel / numberOfLinesPerChip = group ∨
          asics.readPattern layer channel = source.writePattern layer channel) →
        (asics.decodeDelaysAndPatterns group).readPattern layer channel =
          source.writePattern layer channel := by
  have decoded := decode_group asics group
  constructor
  · intro afeb nonneg small there
    refine (decoded.delay afeb).trans ?_
    have chip : afeb % numberOfChipsPerGroup < numberOfChipsPerGroup := Nat.mod_lt _ (by decide)
    by_cases here : afeb / numberOfChipsPerGroup = group
    · rw [if_pos ⟨here, chip⟩]
      refine bitsToInt_value ?_ nonneg (by rw [asicDelayBits]; omega)
      intro bit low high
      have place : bit < regSizeWrtAsicDelayLines ∧
          bit % numberOfAsicBits = bit - afeb % numberOfChipsPerGroup * numberOfAsicBits ∧
          bit / numberOfAsicBits = afeb % numberOfChipsPerGroup ∧
          bit - afeb % numberOfChipsPerGroup * numberOfAsicBits < asicDelayBits := by
        simp only [numberOfAsicBits, asicDelayBits, numberOfChipsPerGroup,
          regSizeWrtAsicDelayLines] at low high chip ⊢
        omega
      rw [vector bit place.1, Asics.groupBit, place.2.1, if_pos place.2.2.2, place.2.2.1, ← here,
        Nat.mul_comm, Nat.div_add_mod]
    · rw [if_neg fun both => here both.1]
      exact there.resolve_left here
  · intro layer few channel there
    refine (decoded.pattern layer channel).trans ?_
    obtain ⟨index, layerOf, lineOf⟩ := maps_asicIndexOf layer few (channel % numberOfLinesPerChip)
      (Nat.mod_lt _ (by decide))
    by_cases here : channel / numberOfLinesPerChip = group
    · rw [if_pos ⟨few, here, index⟩]
      generalize asicIndexOf layer (channel % numberOfLinesPerChip) = asicIndex
        at index layerOf lineOf
      have place : linePlace asicIndex < regSizeWrtAsicDelayLines ∧
          ¬linePlace asicIndex % numberOfAsicBits < asicDelayBits ∧
          linePlace asicIndex / numberOfAsicBits * numberOfLinesPerChip +
            (linePlace asicIndex % numberOfAsicBits - asicPatternBitlo) = asicIndex := by
        simp only [linePlace, numberOfAsicBits, asicDelayBits, numberOfLinesPerChip,
          asicPatternBitlo, regSizeWrtAsicDelayLines]
        omega
      rw [vector _ place.1, Asics.groupBit, if_neg place.2.1, place.2.2, layerOf,
        getChannelFromAsicMap, lineOf, ← here, Nat.mul_comm, Nat.mod_add_div]
    · rw [if_neg fun both => here both.2.1]
      exact there.resolve_left here

end EmuLib.AlctController
