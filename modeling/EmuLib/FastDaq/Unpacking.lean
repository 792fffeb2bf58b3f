import EmuLib.FastDaq.Calls

/-!
For which events the calls take every chamber block once, in order and as it is.
-/

namespace EmuLib.FastDaq

open List Option

open Buffer (seek Holds holds_append holds_cons holds_shift seek_eq_some_iff seek_bounds seek_found
  seek_shift)

section

variable {setup : Setup} {event : DataEvent} {buf : Words}

lemma ddu_length (wellFormed : event.WellFormed) :
    event.ddu.length = 28 + (event.dmbs.flatMap Dmb.words).length := by
  have head := wellFormed.head_length
  have tail := wellFormed.tail_length
  simp only [Module.length, DataEvent.ddu, length_append]
  omega

lemma modules_sum (event : DataEvent) :
    1 + (event.modules.map Module.length).sum =
      event.place + event.ddu.length + (event.after.map Module.length).sum := by
  simp only [DataEvent.modules, DataEvent.place, map_append, map_cons, sum_append, sum_cons]
  omega

lemma size_eq (holds : Holds buf 0 event.words) (wellFormed : event.WellFormed) :
    (buf 0).toInt = event.size := by
  have bound := wellFormed.size_bound
  have word : buf 0 = BitVec.ofNat 16 event.size := (holds_cons.mp holds).1
  rw [word, BitVec.toInt_eq_toNat_of_lt] <;> simp <;> omega

lemma holds_modules (holds : Holds buf 0 event.words) :
    Holds buf 1 (event.modules.flatMap Module.words) :=
  (holds_append.mp (holds_cons.mp holds).2).1

lemma holds_parts (holds : Holds buf 0 event.words) :
    Holds buf 1 (event.before.flatMap Module.words) ∧
      Holds buf event.place event.ddu.words ∧
      Holds buf (event.place + event.ddu.length) (event.after.flatMap Module.words) := by
  have modules := holds_modules holds
  rw [DataEvent.modules, flatMap_append, flatMap_cons, holds_append, holds_append,
    flatMap_words_length, Module.length_words] at modules
  exact modules

lemma holds_dmbs (holds : Holds buf 0 event.words) (wellFormed : event.WellFormed) :
    Holds (buf.behind event.place) 15 (event.dmbs.flatMap Dmb.words) := by
  have data := (holds_append.mp (holds_cons.mp (holds_cons.mp
    (holds_cons.mp (holds_parts holds).2.1).2).2).2).1
  have dmbs := (holds_append.mp (holds_append.mp data).1).2
  rw [wellFormed.head_length] at dmbs
  exact holds_shift.mpr dmbs

lemma ddu_id (event : DataEvent) : event.ddu.id = DDU2_ID := by
  show (0x4444#16 ++ 0x5532#16 : BitVec 32) = DDU2_ID
  decide

def begun (index : Nat) : Call := ⟨0, index, .zero, []⟩

lemma modules_few (blocks : List Module) : blocks.length ≤ (blocks.map Module.length).sum := by
  induction blocks with
  | nil => exact Nat.le_refl _
  | cons block rest ih =>
    have four : 4 ≤ block.length := Nat.le_add_left 4 _
    simp only [length_cons, map_cons, sum_cons]
    omega

lemma getNextEvent_first (holds : Holds buf 0 event.words) (wellFormed : event.WellFormed)
    (index) :
    getNextEvent setup buf true index = decodeDdu2 setup buf event.place true (begun index) := by
  have size := size_eq holds wellFormed
  have bound := wellFormed.size_bound
  have few := modules_few event.modules
  have sum : event.size = (event.modules.map Module.length).sum + 2 := rfl
  obtain ⟨header, named, typed⟩ := wellFormed.header
  obtain ⟨before, ddu, after⟩ := holds_parts holds
  have found : event.modules.find? (fun block => block.id == HEAD_ID) = some header := by
    rw [← named, DataEvent.modules, find?_append, find?_append,
      find?_cons_of_neg (by rw [ddu_id]; decide)]
  have other (block : Module) (inside : block ∈ event.before ++ event.after) :
      block.id ≠ DDU2_ID := (wellFormed.others block inside).2
  have head : eventHeader buf true ((buf 0).toInt.toNat + 1) 1 = some (some DATA) :=
    eventHeader_found (holds_modules holds) (by omega) (by omega) (by omega) found typed
  have taken : eventBlock setup buf true DATA event.place (begun index) =
      decodeDdu2 setup buf event.place true (begun index) := by
    rw [eventBlock, if_pos rfl, Module.moduleId_eq ddu, ddu_id, if_pos ⟨rfl, rfl⟩]
  unfold getNextEvent
  dsimp only
  rw [head]
  show eventBlocks setup buf true DATA _ 1 (begun index) = _
  rw [eventBlocks_eq (holds_modules holds) (by omega) (by omega) (by omega), DataEvent.modules,
    overBlocks_append, overBlocks_named before fun block inside =>
      other block (mem_append_left _ inside)]
  show (eventBlock setup buf true DATA event.place (begun index)).bind _ = _
  rw [taken]
  cases decodeDdu2 setup buf event.place true (begun index) with
  | none => rfl
  | some call =>
    exact overBlocks_named after (fun block inside => other block (mem_append_right _ inside)) call

lemma getNextEvent_continues (holds : Holds buf 0 event.words) (wellFormed : event.WellFormed)
    (index) :
    getNextEvent setup buf false index =
      (overBlocks setup buf false 0 event.before 1 (begun index)).bind fun call =>
        (decodeDdu2 setup buf event.place false call).bind
          (overBlocks setup buf false 0 event.after (event.place + event.ddu.length)) := by
  have size := size_eq holds wellFormed
  have bound := wellFormed.size_bound
  have few := modules_few event.modules
  have sum : event.size = (event.modules.map Module.length).sum + 2 := rfl
  have head : eventHeader buf false ((buf 0).toInt.toNat + 1) 1 = some none :=
    eventHeader_continues (holds_modules holds) (by omega) (by omega) (by omega)
  unfold getNextEvent
  dsimp only
  rw [head]
  show eventBlocks setup buf false 0 _ 1 (begun index) = _
  rw [eventBlocks_eq (holds_modules holds) (by omega) (by omega) (by omega), DataEvent.modules,
    overBlocks_append]
  rfl

lemma ddu_count (holds : Holds buf 0 event.words) (wellFormed : event.WellFormed) :
    (buf event.place).toInt = event.ddu.length := by
  have bound := wellFormed.size_bound
  have sum := modules_sum event
  have size : event.size = (event.modules.map Module.length).sum + 2 := rfl
  exact Module.count (holds_parts holds).2.1 (by omega)

lemma sums_lt (wellFormed : event.WellFormed) :
    (event.before.map Module.length).sum < 2 ^ 15 ∧
      (event.after.map Module.length).sum < 2 ^ 15 := by
  have bound := wellFormed.size_bound
  have sum := modules_sum event
  have size : event.size = (event.modules.map Module.length).sum + 2 := rfl
  have place : event.place = 1 + (event.before.map Module.length).sum := rfl
  omega

variable {index : Nat} {call : Call} (holds : Holds buf 0 event.words)
  (wellFormed : event.WellFormed)

include holds wellFormed

lemma ddu_passed (short : event.ddu.length ≤ index + 20) :
    decodeDdu2 setup buf event.place false (begun index) = some { begun index with result := 1 } := by
  apply decodeDdu2_passed
  rw [ddu_count holds wellFormed]
  show (event.ddu.length : Int) ≤ (index : Int) + 20
  omega

lemma ddu_longer (long : index + 20 < event.ddu.length) :
    decodeDdu2 setup buf event.place false (begun index) =
      (decodeDmb setup buf event.place (begun index)).map fun taken =>
        { taken with result := taken.result ||| 2 } := by
  apply decodeDdu2_longer
  rw [ddu_count holds wellFormed]
  show (index : Int) + 20 < (event.ddu.length : Int)
  omega

lemma continues_passed (before : PassedOver event.before index) :
    getNextEvent setup buf false index =
      (decodeDdu2 setup buf event.place false (begun index)).bind
        (overBlocks setup buf false 0 event.after (event.place + event.ddu.length)) := by
  rw [getNextEvent_continues holds wellFormed,
    overBlocks_passed (holds_parts holds).1 (sums_lt wellFormed).1 before]
  split <;> rfl

lemma before_passed (done : getNextEvent setup buf false index = some call)
    (visited : ∀ found ∈ call.visited.head?, ∃ place ∈ found, event.place ≤ place) :
    PassedOver event.before index := by
  by_contra long
  rw [getNextEvent_continues holds wellFormed, bind_eq_some_iff] at done
  obtain ⟨next, first, others⟩ := done
  obtain ⟨found, more, visits, inside⟩ :=
    overBlocks_visits (holds_parts holds).1 (sums_lt wellFormed).1 long first
  rw [bind_eq_some_iff] at others
  obtain ⟨taken, ddu, others⟩ := others
  obtain ⟨_, second, twice⟩ := decodeDdu2_keeps ddu
  obtain ⟨_, third, all⟩ := overBlocks_keeps others
  rw [all, twice, visits] at visited
  obtain ⟨place, same, behind⟩ := visited found rfl
  have bounds := inside place same
  have start : event.place = 1 + (event.before.map Module.length).sum := rfl
  omega

lemma getNextEvent_idle
    (before : PassedOver event.before index) (short : event.ddu.length ≤ index + 20)
    (after : PassedOver event.after index) :
    getNextEvent setup buf false index = some ⟨1, index, .zero, []⟩ := by
  rw [continues_passed holds wellFormed before, ddu_passed holds wellFormed short,
    bind_some, overBlocks_passed (holds_parts holds).2.2 (sums_lt wellFormed).2 after]
  split <;> rfl

lemma idle_passed
    (done : getNextEvent setup buf false index = some call) (visited : call.visited = []) :
    PassedOver event.before index ∧ event.ddu.length ≤ index + 20 ∧
      PassedOver event.after index := by
  have before := before_passed holds wellFormed done (by simp [visited])
  rw [continues_passed holds wellFormed before, bind_eq_some_iff] at done
  obtain ⟨taken, ddu, others⟩ := done
  obtain ⟨_, more, all⟩ := overBlocks_keeps others
  have nothing : taken.visited = [] := by
    rw [visited] at all
    exact (append_eq_nil_iff.mp all.symm).1
  have short : event.ddu.length ≤ index + 20 := by
    by_contra long
    rw [ddu_longer holds wellFormed (Nat.lt_of_not_le long)] at ddu
    obtain ⟨decoded, block, rfl⟩ := map_eq_some_iff.mp ddu
    obtain ⟨_, found, visits, _⟩ := decodeDmb_visits block
    exact absurd (visits.symm.trans nothing) (by simp)
  refine ⟨before, short, ?_⟩
  by_contra long
  rw [ddu_passed holds wellFormed short] at ddu
  cases ddu
  obtain ⟨found, more, visits, _⟩ :=
    overBlocks_visits (holds_parts holds).2.2 (sums_lt wellFormed).2 long others
  rw [visited] at visits
  cases visits

variable {header : Nat}

lemma getNextEvent_takes {outcome} (before : PassedOver event.before index)
    (long : index + 20 < event.ddu.length)
    (sought : seek (marked 9 (buf.behind event.place)) 16 index = some header)
    (block : chamberBlock setup ((buf.behind event.place).behind header) .zero = some outcome)
    (after : PassedOver event.after (findDmbEnd (buf.behind event.place) header)) :
    getNextEvent setup buf false index =
      some ⟨if event.after = [] then outcome.1 ||| 2 else 1,
        findDmbEnd (buf.behind event.place) header, outcome.2, [some (event.place + header)]⟩ := by
  have decoded : decodeDmb setup buf event.place (begun index) =
      some ⟨outcome.1, findDmbEnd (buf.behind event.place) header, outcome.2,
        [some (event.place + header)]⟩ := by
    have next : seek (marked 9 (buf.behind event.place)) 16 (begun index).index = some header :=
      sought
    have taken : chamberBlock setup ((buf.behind event.place).behind header) (begun index).event =
        some outcome := block
    rw [decodeDmb_found next, taken]
    rfl
  rw [continues_passed holds wellFormed before, ddu_longer holds wellFormed long, decoded, map_some,
    bind_some, overBlocks_passed (holds_parts holds).2.2 (sums_lt wellFormed).2 after]
  split <;> rfl

lemma taken_passed
    (done : getNextEvent setup buf false index = some call) (inside : header < event.ddu.length)
    (visited : call.visited = [some (event.place + header)]) :
    PassedOver event.before index ∧
      seek (marked 9 (buf.behind event.place)) 16 index = some header ∧
      (∃ outcome,
        chamberBlock setup ((buf.behind event.place).behind header) .zero = some outcome) ∧
      PassedOver event.after (findDmbEnd (buf.behind event.place) header) := by
  have before := before_passed holds wellFormed done (by simp [visited])
  have whole := done
  rw [continues_passed holds wellFormed before, bind_eq_some_iff] at done
  obtain ⟨taken, ddu, others⟩ := done
  by_cases short : event.ddu.length ≤ index + 20
  · rw [ddu_passed holds wellFormed short] at ddu
    cases ddu
    by_cases after : PassedOver event.after index
    · rw [getNextEvent_idle holds wellFormed before short after] at whole
      cases whole
      cases visited
    · obtain ⟨found, more, visits, within⟩ :=
        overBlocks_visits (holds_parts holds).2.2 (sums_lt wellFormed).2 after others
      rw [visited] at visits
      obtain ⟨rfl, _⟩ := List.cons.inj visits
      have bounds := within (event.place + header) rfl
      omega
  · have long := Nat.lt_of_not_le short
    rw [ddu_longer holds wellFormed long] at ddu
    obtain ⟨decoded, block, rfl⟩ := map_eq_some_iff.mp ddu
    obtain ⟨_, found, visits, within⟩ := decodeDmb_visits block
    obtain ⟨_, more, all⟩ := overBlocks_keeps others
    have only : [some (event.place + header)] = found :: more := by
      rw [← visited, all]
      exact congrArg (· ++ more) visits
    obtain ⟨rfl, rfl⟩ := List.cons.inj only
    obtain ⟨_, _, sought⟩ := within (event.place + header) rfl
    rw [Nat.add_sub_cancel_left] at sought
    rw [decodeDmb_found sought, map_eq_some_iff] at block
    obtain ⟨outcome, chamber, rfl⟩ := block
    refine ⟨before, sought, ⟨outcome, chamber⟩, ?_⟩
    by_contra after
    obtain ⟨_, more, visits, _⟩ :=
      overBlocks_visits (holds_parts holds).2.2 (sums_lt wellFormed).2 after others
    rw [visited] at visits
    cases visits

end

variable {setup : Setup} {event : DataEvent} {buf : Words}

lemma unpacks_iff {first index calls} :
    (∃ fuel, unpack setup buf fuel first index = some calls) ↔
      ∃ call, getNextEvent setup buf first index = some call ∧
        ((call.result.testBit 1 = true ∧ ∃ others, calls = call :: others ∧
            ∃ fuel, unpack setup buf fuel false call.index = some others) ∨
          call.result.testBit 1 = false ∧ calls = [call]) := by
  constructor
  · rintro ⟨fuel, run⟩
    cases fuel with
    | zero => cases run
    | succ fuel =>
      rw [unpack, bind_eq_bind, bind_eq_some_iff] at run
      obtain ⟨call, done, run⟩ := run
      refine ⟨call, done, ?_⟩
      cases more : call.result.testBit 1 with
      | true =>
        simp only [more, if_true, bind_eq_bind, bind_eq_some_iff] at run
        obtain ⟨others, later, same⟩ := run
        exact .inl ⟨rfl, others, (Option.some.inj same).symm, fuel, later⟩
      | false =>
        simp only [more, Bool.false_eq_true, if_false] at run
        exact .inr ⟨rfl, (Option.some.inj run).symm⟩
  · rintro ⟨call, done, ⟨more, others, rfl, fuel, later⟩ | ⟨last, rfl⟩⟩
    · refine ⟨fuel + 1, ?_⟩
      simp [unpack, done, more, later]
    · refine ⟨1, ?_⟩
      simp [unpack, done, last]

variable {dmb next : Dmb} {place : Nat}

lemma leads_iff (holds : Holds buf place (dmb.words ++ next.words)) (wellFormed : dmb.WellFormed)
    (nextWellFormed : next.WellFormed) :
    seek (marked 9 buf) 16 (place + dmb.cut) = some (place + dmb.words.length) ↔
      dmb.Leads next := by
  have bound := cut_le wellFormed
  have length := nextWellFormed.header_length
  have left : (dmb.words.drop dmb.cut ++ next.header).length = dmb.words.length - dmb.cut + 8 := by
    simp [length]
  have behind : Holds buf (place + dmb.cut) (dmb.words.drop dmb.cut ++ next.header) := by
    obtain ⟨own, following⟩ := holds_append.mp holds
    have header := (holds_append.mp following).1
    rw [← take_append_drop dmb.cut dmb.words, holds_append, length_take,
      Nat.min_eq_left bound] at own
    rw [holds_append, length_drop, Nat.add_assoc, Nat.add_sub_cancel' bound]
    exact ⟨own.2, header⟩
  have ends : marked 9 (fun index => (dmb.words.drop dmb.cut ++ next.header).getD index 0)
      (dmb.words.length - dmb.cut) = true := by
    rw [marked_iff]
    intro ahead inside
    rw [getD_append_right _ _ _ _ (by simp), length_drop, Nat.add_sub_cancel_left]
    exact header_digit (Holds.getD next.header 0) nextWellFormed inside
  have same (index : Nat) (within : index ≤ dmb.words.length - dmb.cut) :
      marked 9 buf (place + dmb.cut + index) =
        marked 9 (fun index => (dmb.words.drop dmb.cut ++ next.header).getD index 0) index := by
    apply marked_congr
    intro ahead inside
    rw [Nat.add_assoc, behind (index + ahead) (by omega), getD_eq_getElem _ _ (by omega)]
  rw [seek_shift same ends, map_eq_some_iff, Dmb.Leads]
  constructor
  · rintro ⟨found, sought, reached⟩
    rw [sought, show found = dmb.words.length - dmb.cut by omega]
  · intro sought
    exact ⟨_, sought, by omega⟩

lemma zero_boards_iff (wellFormed : dmb.WellFormed) :
    BoardsRight setup dmb .zero ↔ dmb.present = [] := by
  constructor
  · intro right
    by_contra some_board
    obtain ⟨ifeb, others, present⟩ := exists_cons_of_ne_nil some_board
    have given := wellFormed.boards_given
    rw [present] at given
    obtain ⟨board, more, boards⟩ := exists_cons_of_length_eq_add_one given
    have count := wellFormed.boards_samples board (by simp [boards])
    have some_samples : 0 < board.length := by
      rw [count, Dmb.samples]
      split
      · split <;> decide
      · decide
    have stored := right.stored ifeb board (by simp [present, boards]) 0 board[0]
      (getElem?_eq_getElem some_samples)
    exact not_mem_nil stored.checked
  · intro none_present
    refine ⟨fun ifeb board inside => ?_, fun ifeb _ _ => ⟨not_mem_nil, ?_⟩⟩
    · rw [none_present] at inside
      cases inside
    · exact fun _ _ _ _ => ⟨rfl, rfl, rfl, rfl⟩

lemma BlockRight.none_present {call} (right : BlockRight setup place dmb call)
    (empty : call.event = .zero) (wellFormed : dmb.WellFormed) (selected : setup.Selects dmb) :
    dmb.present = [] := by
  by_contra some_board
  have boards := right.boards selected (.inr (.inr some_board))
  rw [empty] at boards
  exact some_board ((zero_boards_iff wellFormed).mp boards)

lemma chamberBlock_outcome (holds : Holds buf 0 dmb.words) (wellFormed : dmb.WellFormed)
    (event) (boards : setup.Selects dmb → dmb.present = []) :
    ∃ result, chamberBlock setup buf event = some (result, event) ∧
      (result.testBit 0 = false ↔ setup.Selects dmb ∧ dmb.HoldsData) := by
  have header := (holds_append.mp holds).1
  by_cases taken : setup.Selects dmb ∧ dmb.HoldsData
  · obtain ⟨offset, found⟩ := cfebOffset_known holds wellFormed
    obtain ⟨result, block, zero | four⟩ :=
      chamberBlock_taken header wellFormed event taken.1 taken.2 found (boards taken.1)
    · exact ⟨result, block, by simp [zero, taken]⟩
    · exact ⟨result, block, by simp [four, taken, Nat.testBit]⟩
  · exact ⟨1, chamberBlock_passed header wellFormed event taken, by simp [taken]⟩

/-- The blocks behind one that the calls have taken, which stands at a place of the DDU block. -/
def Goes (setup : Setup) (event : DataEvent) : Nat → Dmb → List Dmb → Prop
  | place, last, [] =>
    PassedOver event.before (place + last.cut) ∧
      event.ddu.length ≤ place + last.cut + 20 ∧ PassedOver event.after (place + last.cut)
  | place, dmb, next :: rest =>
    PassedOver event.before (place + dmb.cut) ∧ dmb.Leads next ∧
      (setup.Selects next → next.present = []) ∧
      PassedOver event.after (place + dmb.words.length + next.cut) ∧
      if event.after = [] then Goes setup event (place + dmb.words.length) next rest
      else rest = [] ∧ ¬ (setup.Selects next ∧ next.HoldsData)

def ContinuesRight (setup : Setup) (event : DataEvent) (buf : Words) (index place : Nat)
    (dmbs : List Dmb) : Prop :=
  ∃ calls, (∃ fuel, unpack setup buf fuel false index = some calls) ∧
    CallsRight setup (event.place + place) dmbs calls

lemma two_testBit (bit) : Nat.testBit 2 bit = decide (bit = 1) := by
  rw [show 2 = 2 ^ 1 from rfl, Nat.testBit_two_pow]
  simp [eq_comm]

lemma continues_nil (holds : Holds buf 0 event.words) (wellFormed : event.WellFormed) {index} :
    ContinuesRight setup event buf index place [] ↔
      PassedOver event.before index ∧ event.ddu.length ≤ index + 20 ∧
        PassedOver event.after index := by
  constructor
  · rintro ⟨calls, run, right⟩
    obtain ⟨call, done, later⟩ := unpacks_iff.mp run
    have inside : call ∈ calls := by
      rcases later with ⟨_, others, rfl, _⟩ | ⟨_, rfl⟩
      · exact mem_cons_self
      · exact mem_cons_self
    exact idle_passed holds wellFormed done (right call inside).1
  · rintro ⟨before, short, after⟩
    refine ⟨[⟨1, index, .zero, []⟩], unpacks_iff.mpr ⟨_, getNextEvent_idle holds wellFormed before
      short after, .inr ⟨(by decide : Nat.testBit 1 1 = false), rfl⟩⟩, fun call inside => ?_⟩
    cases mem_singleton.mp inside
    exact ⟨rfl, (by decide : Nat.testBit 1 0 = true)⟩

variable {rest : List Dmb}

lemma continues_cons (holds : Holds buf 0 event.words) (wellFormed : event.WellFormed) {index}
    (block : Holds (buf.behind event.place) place dmb.words) (dmbWellFormed : dmb.WellFormed)
    (inside : place + 20 < event.ddu.length) (near : index ≤ place) :
    ContinuesRight setup event buf index place (dmb :: rest) ↔
      PassedOver event.before index ∧
        seek (marked 9 (buf.behind event.place)) 16 index = some place ∧
        (setup.Selects dmb → dmb.present = []) ∧ PassedOver event.after (place + dmb.cut) ∧
        if event.after = [] then
          ContinuesRight setup event buf (place + dmb.cut) (place + dmb.words.length) rest
        else rest = [] ∧ ¬ (setup.Selects dmb ∧ dmb.HoldsData) := by
  have behind := findDmbEnd_block block dmbWellFormed
  have start : Holds ((buf.behind event.place).behind place) 0 dmb.words :=
    holds_shift.mpr block
  constructor
  · rintro ⟨calls, run, call, others, rfl, right, rights⟩
    obtain ⟨first, done, later⟩ := unpacks_iff.mp run
    obtain rfl : call = first := by
      rcases later with ⟨_, _, same, _⟩ | ⟨_, same⟩
      · exact (List.cons.inj same).1
      · exact (List.cons.inj same).1
    obtain ⟨before, sought, ⟨⟨result, left⟩, chamber⟩, after⟩ :=
      taken_passed holds wellFormed done (by omega) right.visited
    obtain rfl := chamberBlock_event chamber
    have takes := getNextEvent_takes holds wellFormed before (by omega) sought chamber after
    obtain rfl := Option.some.inj (done.symm.trans takes)
    rw [behind] at after
    refine ⟨before, sought, right.none_present rfl dmbWellFormed, after, ?_⟩
    by_cases none_behind : event.after = []
    · rw [if_pos none_behind]
      rcases later with ⟨_, _, same, run⟩ | ⟨last, _⟩
      · obtain rfl := (List.cons.inj same).2
        rw [behind] at run
        rw [Nat.add_assoc] at rights
        exact ⟨others, run, rights⟩
      · simp [none_behind, Nat.testBit_or, two_testBit] at last
    · have answer := right.result
      simp only [none_behind, if_false] at answer later ⊢
      rcases later with ⟨more, _⟩ | ⟨_, same⟩
      · exact absurd more (by decide)
      · obtain rfl := (List.cons.inj same).2
        constructor
        · cases rest with
          | nil => rfl
          | cons other rest =>
            obtain ⟨_, _, same, _⟩ := rights
            cases same
        · intro taken
          exact absurd (answer.mpr taken) (by decide)
  · rintro ⟨before, sought, boards, after, later⟩
    obtain ⟨result, chamber, taken⟩ := chamberBlock_outcome start dmbWellFormed .zero boards
    rw [← behind] at after
    have done := getNextEvent_takes holds wellFormed before (by omega) sought chamber after
    rw [behind] at done
    have empty (selected : setup.Selects dmb) (_ : dmb.HoldsData) : BoardsRight setup dmb .zero :=
      (zero_boards_iff dmbWellFormed).mpr (boards selected)
    by_cases none_behind : event.after = []
    · rw [if_pos none_behind] at later done
      obtain ⟨others, run, rights⟩ := later
      rw [← Nat.add_assoc] at rights
      refine ⟨_ :: others, unpacks_iff.mpr ⟨_, done, .inl ⟨?_, others, rfl, run⟩⟩,
        _, others, rfl, ⟨rfl, ?_, empty⟩, rights⟩
      · simp [Nat.testBit_or, two_testBit]
      · simpa [Nat.testBit_or] using taken
    · rw [if_neg none_behind] at later done
      obtain ⟨rfl, passed⟩ := later
      refine ⟨[_], unpacks_iff.mpr ⟨_, done, .inr ⟨(by decide : Nat.testBit 1 1 = false), rfl⟩⟩,
        _, [], rfl, ⟨rfl, ?_, empty⟩, fun call inside => by cases inside⟩
      simp [passed]

lemma continues_iff (holds : Holds buf 0 event.words) (wellFormed : event.WellFormed)
    (blocks : Holds (buf.behind event.place) place (dmb.words ++ rest.flatMap Dmb.words))
    (dmbWellFormed : dmb.WellFormed) (restWellFormed : ∀ next ∈ rest, next.WellFormed)
    (length : event.ddu.length =
      place + dmb.words.length + (rest.flatMap Dmb.words).length + 13) :
    ContinuesRight setup event buf (place + dmb.cut) (place + dmb.words.length) rest ↔
      Goes setup event place dmb rest := by
  induction rest generalizing place dmb with
  | nil => exact continues_nil holds wellFormed
  | cons next rest ih =>
    have nextWellFormed := restWellFormed next mem_cons_self
    have cut := cut_le dmbWellFormed
    have sixteen := words_length nextWellFormed
    rw [flatMap_cons, ← append_assoc] at blocks
    have pair := (holds_append.mp blocks).1
    have following := (holds_append.mp (append_assoc _ _ _ ▸ blocks)).2
    rw [flatMap_cons, length_append] at length
    have later := ih following nextWellFormed
      (fun other inside => restWellFormed other (mem_cons_of_mem _ inside)) (by omega)
    rw [continues_cons holds wellFormed (holds_append.mp following).1 nextWellFormed (by omega)
      (by omega), leads_iff pair dmbWellFormed nextWellFormed, later, Goes]

lemma unpacksRight_nil (holds : Holds buf 0 event.words) (wellFormed : event.WellFormed)
    (index) (dmbs : event.dmbs = []) : UnpacksRight setup event buf index := by
  have length := ddu_length wellFormed
  rw [dmbs] at length
  have few : (buf event.place).toInt ≤ 29 := by
    rw [ddu_count holds wellFormed]
    simp only [flatMap_nil, length_nil] at length
    omega
  have call : getNextEvent setup buf true index = some ⟨1, index, .zero, []⟩ := by
    rw [getNextEvent_first holds wellFormed, decodeDdu2_empty few]
    rfl
  obtain ⟨fuel, run⟩ := unpacks_iff.mpr
    ⟨_, call, .inr ⟨(by decide : Nat.testBit 1 1 = false), rfl⟩⟩
  refine ⟨fuel, _, run, ?_⟩
  rw [dmbs]
  intro call inside
  cases mem_singleton.mp inside
  exact ⟨rfl, (by decide : Nat.testBit 1 0 = true)⟩

lemma unpacksRight_iff (holds : Holds buf 0 event.words) (wellFormed : event.WellFormed)
    (index) {first} (dmbs : event.dmbs = first :: rest) :
    UnpacksRight setup event buf index ↔
      (setup.Selects first → first.present = []) ∧ Goes setup event 15 first rest := by
  have blocks := holds_dmbs holds wellFormed
  have length := ddu_length wellFormed
  rw [dmbs, flatMap_cons] at blocks length
  rw [length_append] at length
  have firstWellFormed := wellFormed.dmbs_wellFormed first (by simp [dmbs])
  have restWellFormed (next : Dmb) (inside : next ∈ rest) : next.WellFormed :=
    wellFormed.dmbs_wellFormed next (by simp [dmbs, inside])
  have sixteen := words_length firstWellFormed
  have block := (holds_append.mp blocks).1
  have behind := findDmbEnd_block block firstWellFormed
  have start : Holds ((buf.behind event.place).behind 15) 0 first.words := holds_shift.mpr block
  have sought : seek (marked 9 (buf.behind event.place)) 16 (begun 15).index = some 15 := by
    apply seek_found
    rw [marked_iff]
    intro ahead inside
    exact header_digit (holds_append.mp start).1 firstWellFormed inside
  have call : getNextEvent setup buf true index =
      (chamberBlock setup ((buf.behind event.place).behind 15) .zero).map fun outcome =>
        ⟨outcome.1 ||| 2, 15 + first.cut, outcome.2, [some (event.place + 15)]⟩ := by
    have many : 29 < (buf event.place).toInt := by
      rw [ddu_count holds wellFormed]
      omega
    rw [getNextEvent_first holds wellFormed, decodeDdu2_first many]
    show decodeDdu2 setup buf event.place false (begun 15) = _
    rw [ddu_longer holds wellFormed (by omega), decodeDmb_found sought, behind, Option.map_map]
    rfl
  rw [← continues_iff holds wellFormed blocks firstWellFormed restWellFormed (by omega),
    UnpacksRight, dmbs]
  constructor
  · rintro ⟨fuel, calls, run, taken, others, rfl, right, rights⟩
    obtain ⟨_, done, later⟩ := unpacks_iff.mp ⟨fuel, run⟩
    rw [call, map_eq_some_iff] at done
    obtain ⟨⟨result, left⟩, chamber, rfl⟩ := done
    obtain rfl := chamberBlock_event chamber
    rcases later with ⟨_, _, same, run⟩ | ⟨last, _⟩
    · obtain ⟨rfl, rfl⟩ := List.cons.inj same
      exact ⟨right.none_present rfl firstWellFormed, others, run, by rwa [← Nat.add_assoc]⟩
    · simp [Nat.testBit_or, two_testBit] at last
  · rintro ⟨boards, others, run, rights⟩
    obtain ⟨result, chamber, taken⟩ := chamberBlock_outcome start firstWellFormed .zero boards
    rw [chamber] at call
    rw [← Nat.add_assoc] at rights
    obtain ⟨fuel, run⟩ := unpacks_iff.mpr ⟨_, call, .inl ⟨by simp [Nat.testBit_or, two_testBit],
      others, rfl, run⟩⟩
    refine ⟨fuel, _, run, _, others, rfl, ⟨rfl, ?_, fun selected _ => ?_⟩, rights⟩
    · simpa [Nat.testBit_or] using taken
    · exact (zero_boards_iff firstWellFormed).mpr (boards selected)

end EmuLib.FastDaq
