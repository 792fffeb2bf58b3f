import EmuLib.Rui.StepRun

/-!
The positions of a data block that the readout unit interface reads in search of a header, of a
trailer and of the errors that the trailer may report.
-/

namespace EmuLib.Rui

structure Test where
  positions : List Int
  holds : Bool

namespace Test

def never : Test := ⟨[], false⟩

def halfWord (block : DataBlock) (offset : Int) (expected : Nat → Bool) : Test :=
  ⟨[offset, offset + 1], expected (block.halfWord offset)⟩

def short (block : DataBlock) (index : Nat) (expected : Nat → Bool) : Test :=
  halfWord block (2 * index : Nat) expected

def all : List Test → Test
  | [] => ⟨[], true⟩
  | first :: rest =>
    if first.holds then ⟨first.positions ++ (all rest).positions, (all rest).holds⟩ else first

def some (tests : List Test) : Test := ⟨tests.flatMap Test.positions, tests.any Test.holds⟩

lemma all_holds (tests) : (all tests).holds = tests.all Test.holds := by
  induction tests with
  | nil => rfl
  | cons first rest ih =>
    rw [all, List.all_cons]
    cases known : first.holds with
    | true => rw [if_pos rfl, ih, Bool.true_and]
    | false => rw [if_neg Bool.false_ne_true, known, Bool.false_and]

lemma all_positions {tests position}
    (read : position ∈ (all tests).positions) : ∃ test ∈ tests, position ∈ test.positions := by
  induction tests with
  | nil => cases read
  | cons first rest ih =>
    rw [all] at read
    split at read
    · rcases List.mem_append.mp read with here | later
      · exact ⟨first, List.mem_cons_self, here⟩
      · obtain ⟨test, member, there⟩ := ih later
        exact ⟨test, List.mem_cons_of_mem _ member, there⟩
    · exact ⟨first, List.mem_cons_self, read⟩

end Test

open Test

def headerTest (inputDataFormat : Format) (block : DataBlock) : Test :=
  match inputDataFormat with
  | .ddu =>
    if block.length < 24 then never
    else all [short block 3 (· &&& 0xf000 == 0x5000), short block 5 (· == 0x8000),
      short block 6 (· == 0x0001), short block 7 (· == 0x8000)]
  | .dcc =>
    if block.length < 16 then never
    else all [short block 0 (· &&& 0x00ff == 0x005f), short block 3 (· &&& 0xf000 == 0x5000),
      short block 7 (· &&& 0xff00 == 0xd900)]
  | .dmb =>
    if block.length < 16 then never
    else all ((List.range 4).map (fun index => short block index (· &&& 0xf000 == 0x9000)) ++
      (List.range 4).map fun index => short block (4 + index) (· &&& 0xf000 == 0xa000))

def trailerTest (inputDataFormat : Format) (block : DataBlock) : Test :=
  match inputDataFormat with
  | .ddu =>
    let start := (block.length - 24) / 2
    if 24 ≤ block.length then
      all [short block start (· == 0x8000), short block (start + 1) (· == 0x8000),
        short block (start + 2) (· == 0xffff), short block (start + 3) (· == 0x8000),
        short block (start + 11) (· &&& 0xf000 == 0xa000)]
    else if block.length = 16 ∨ block.length = 8 then
      short block ((block.length - 8) / 2 + 3) (· &&& 0xf000 == 0xa000)
    else never
  | .dcc =>
    let start := (block.length - 16) / 2
    if block.length < 16 then never
    else all [short block (start + 3) (· &&& 0xff00 == 0xef00),
      short block (start + 4) (· &&& 0x000f == 0x0003),
      short block (start + 7) (· &&& 0xff00 == 0xaf00)]
  | .dmb =>
    let start := (block.length - 16) / 2
    if block.length < 16 then never
    else all ((List.range 4).map (fun index =>
        short block (start + index) (· &&& 0xf000 == 0xf000)) ++
      (List.range 4).map fun index =>
        short block (start + 4 + index) (· &&& 0xf000 == 0xe000))

def errorTest (block : DataBlock) : Test :=
  let trailerShortWord := fun (index : Nat) (mask : Nat) =>
    halfWord block (block.length - 24 + 2 * index) (· &&& mask != 0)
  Test.some [trailerShortWord 6 0x4000, trailerShortWord 8 0x0010, trailerShortWord 6 0x2000]

def inspect (inputDataFormat : Format) (block : DataBlock) : List Int :=
  let trailer := trailerTest inputDataFormat block
  (headerTest inputDataFormat block).positions ++ trailer.positions ++
    if trailer.holds && inputDataFormat == .ddu then (errorTest block).positions else []

def handledBlock (stops : Prop) [Decidable stops] (reading : Reading) : Option DataBlock :=
  if stops then none
  else if reading.nBytesRead = 0 then none
  else reading.data.filter fun block => 0 < block.length

/-- The block that `continueConstructionOfSuperFrag` handles. -/
def constructionBlock (config : Config) (reading : Reading) (rui : Application) :
    Option DataBlock :=
  handledBlock (0 ≤ config.maxEvents ∧ config.maxEvents ≤ rui.nEventsRead) reading

/-- The block that `continueSTEPRun` handles. -/
def stepBlock (config : Config) (reading : Reading) (counter : STEPEventCounter) :
    Option DataBlock :=
  handledBlock (0 ≤ config.maxEvents ∧ config.maxEvents ≤ counter.getLowestCount) reading

def DataBlock.Inside (block : DataBlock) (position : Int) : Prop :=
  0 ≤ position ∧ position < block.length

def LoneTrailerWord (inputDataFormat : Format) (block : DataBlock) : Prop :=
  inputDataFormat = .ddu ∧ block.length = 8 ∧ block.shortData 3 &&& 0xf000 = 0xa000

section

variable {inputDataFormat : Format} {block : DataBlock}

lemma trailerTest_holds (inputDataFormat block) :
    (trailerTest inputDataFormat block).holds = hasTrailer inputDataFormat block := by
  cases inputDataFormat with
  | ddu =>
    unfold trailerTest hasTrailer
    dsimp only
    by_cases many : 24 ≤ block.length
    · simp [many, all_holds, short, halfWord, DataBlock.shortData, Bool.and_assoc]
    · rw [if_neg many]
      split <;> rfl
  | dcc =>
    unfold trailerTest hasTrailer
    by_cases few : block.length < 16
    · simp [few, never, Nat.not_le.mpr few]
    · simp [few, all_holds, Nat.not_lt.mp few, short, halfWord, DataBlock.shortData, Bool.and_assoc]
  | dmb =>
    unfold trailerTest hasTrailer
    by_cases few : block.length < 16
    · simp [few, never, Nat.not_le.mpr few]
    · simp [few, all_holds, Nat.not_lt.mp few, short, halfWord, DataBlock.shortData, Bool.and_assoc,
        List.range_succ, Nat.add_assoc]

def Test.ReadsInside (block : DataBlock) (test : Test) : Prop :=
  ∀ position ∈ test.positions, block.Inside position

lemma never_inside : never.ReadsInside block := by
  intro position read
  cases read

lemma short_inside {index expected}
    (within : 2 * index + 1 < block.length) : (short block index expected).ReadsInside block := by
  intro position read
  simp only [short, halfWord, List.mem_cons, List.not_mem_nil, or_false] at read
  unfold DataBlock.Inside
  omega

lemma all_inside {tests} (inside : ∀ test ∈ tests, test.ReadsInside block) :
    (all tests).ReadsInside block := by
  intro position read
  obtain ⟨test, member, there⟩ := all_positions read
  exact inside test member position there

lemma shorts_inside {start count expected} (within : 2 * (start + count) ≤ block.length) :
    ∀ test ∈ (List.range count).map (fun index => short block (start + index) expected),
      test.ReadsInside block := by
  intro test member
  obtain ⟨index, below, rfl⟩ := List.mem_map.mp member
  have lower := List.mem_range.mp below
  exact short_inside (by omega)

lemma headerTest_inside (inputDataFormat block) :
    (headerTest inputDataFormat block).ReadsInside block := by
  cases inputDataFormat with
  | ddu =>
    unfold headerTest
    dsimp only
    split
    · exact never_inside
    · apply all_inside
      simp only [List.forall_mem_cons]
      refine ⟨?_, ?_, ?_, ?_, by simp⟩ <;> exact short_inside (by omega)
  | dcc =>
    unfold headerTest
    dsimp only
    split
    · exact never_inside
    · apply all_inside
      simp only [List.forall_mem_cons]
      refine ⟨?_, ?_, ?_, by simp⟩ <;> exact short_inside (by omega)
  | dmb =>
    unfold headerTest
    dsimp only
    split
    · exact never_inside
    · have first := @shorts_inside block 0 4 (· &&& 0xf000 == 0x9000) (by omega)
      apply all_inside
      rw [List.forall_mem_append]
      exact ⟨first, shorts_inside (by omega)⟩

lemma trailerTest_inside (inputDataFormat block) :
    (trailerTest inputDataFormat block).ReadsInside block := by
  cases inputDataFormat with
  | ddu =>
    unfold trailerTest
    dsimp only
    split
    · apply all_inside
      simp only [List.forall_mem_cons]
      refine ⟨?_, ?_, ?_, ?_, ?_, by simp⟩ <;> exact short_inside (by omega)
    · split
      · exact short_inside (by omega)
      · exact never_inside
  | dcc =>
    unfold trailerTest
    dsimp only
    split
    · exact never_inside
    · apply all_inside
      simp only [List.forall_mem_cons]
      refine ⟨?_, ?_, ?_, by simp⟩ <;> exact short_inside (by omega)
  | dmb =>
    unfold trailerTest
    dsimp only
    split
    · exact never_inside
    · apply all_inside
      rw [List.forall_mem_append]
      exact ⟨shorts_inside (by omega), shorts_inside (by omega)⟩

lemma errorTest_inside (block) : (errorTest block).ReadsInside block ↔ 12 ≤ block.length := by
  have positions : (errorTest block).positions =
      [(block.length : Int) - 12, block.length - 11, block.length - 8, block.length - 7,
        block.length - 12, block.length - 11] := by
    simp only [errorTest, Test.some, halfWord, List.flatMap_cons, List.flatMap_nil, List.append_nil,
      List.cons_append, List.nil_append, List.cons.injEq, and_true]
    omega
  unfold Test.ReadsInside
  rw [positions]
  constructor
  · intro inside
    have first := inside _ List.mem_cons_self
    unfold DataBlock.Inside at first
    omega
  · intro long position read
    simp only [List.mem_cons, List.not_mem_nil, or_false] at read
    unfold DataBlock.Inside
    omega

lemma trailer_short (few : block.length < 12) :
    hasTrailer .ddu block = true ↔ LoneTrailerWord .ddu block := by
  unfold hasTrailer LoneTrailerWord
  simp only [Nat.not_le.mpr (show block.length < 24 by omega), if_false, true_and]
  by_cases single : block.length = 8
  · simp [single]
  · have other : ¬ (block.length = 16 ∨ block.length = 8) := by omega
    rw [if_neg other]
    simp [single]

lemma inspect_inside_iff (inputDataFormat block) :
    (∀ position ∈ inspect inputDataFormat block, block.Inside position) ↔
      ¬ LoneTrailerWord inputDataFormat block := by
  have header := headerTest_inside inputDataFormat block
  have trailer := trailerTest_inside inputDataFormat block
  unfold inspect
  dsimp only
  rw [trailerTest_holds, List.forall_mem_append, List.forall_mem_append]
  by_cases examined : (hasTrailer inputDataFormat block && inputDataFormat == .ddu) = true
  · obtain ⟨found, format⟩ := Bool.and_eq_true_iff.mp examined
    obtain rfl := eq_of_beq format
    rw [if_pos examined]
    constructor
    · rintro ⟨_, errors⟩ lone
      have long := (errorTest_inside block).mp errors
      have single := lone.2.1
      omega
    · intro notLone
      refine ⟨⟨header, trailer⟩, (errorTest_inside block).mpr ?_⟩
      by_contra few
      exact notLone ((trailer_short (by omega)).mp found)
  · rw [if_neg examined]
    refine ⟨fun _ lone => examined ?_, fun _ => ⟨⟨header, trailer⟩, by simp⟩⟩
    obtain ⟨rfl, single, word⟩ := lone
    have found : hasTrailer .ddu block = true :=
      (trailer_short (by omega)).mpr ⟨rfl, single, word⟩
    rw [found]
    rfl

end

/-- In the passes of both kinds of runs the positions read are inside the block handled, unless this
is a lone trailer word. -/
theorem inspection_inside (config : Config) (reading : Reading) (rui : Application)
    (counter : STEPEventCounter) :
    ((∀ block ∈ constructionBlock config reading rui,
        ∀ position ∈ inspect config.inputDataFormat block, block.Inside position) ↔
      ∀ block ∈ constructionBlock config reading rui,
        ¬ LoneTrailerWord config.inputDataFormat block) ∧
    ((∀ block ∈ stepBlock config reading counter,
        ∀ position ∈ inspect config.inputDataFormat block, block.Inside position) ↔
      ∀ block ∈ stepBlock config reading counter,
        ¬ LoneTrailerWord config.inputDataFormat block) := by
  constructor
  · exact forall₂_congr fun block _ => inspect_inside_iff config.inputDataFormat block
  · exact forall₂_congr fun block _ => inspect_inside_iff config.inputDataFormat block

def trailerRump : DataBlock := ⟨8, fun position => if position = 7 then 0xa0 else 0⟩

theorem trailerRump_outside : ¬ ∀ (config : Config) (reading : Reading) (rui : Application),
    ∀ block ∈ constructionBlock config reading rui,
      ∀ position ∈ inspect config.inputDataFormat block, block.Inside position := by
  intro inside
  have lone : LoneTrailerWord .ddu trailerRump := by
    unfold LoneTrailerWord
    decide
  have handled : trailerRump ∈ constructionBlock ⟨false, .ddu, -1⟩
      ⟨true, 8, 0, some trailerRump, 5⟩ .constructed := by
    simp [constructionBlock, handledBlock, trailerRump]
  exact (inspect_inside_iff .ddu trailerRump).mp (inside _ _ _ _ handled) lone

end EmuLib.Rui
