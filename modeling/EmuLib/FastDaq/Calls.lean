import EmuLib.FastDaq.ChamberBlocks

/-!
The calls for a well-formed event: the first takes the DDU block by its name, those that go on
pass every block that is not long enough.
-/

namespace EmuLib.FastDaq

open List Option

open Buffer (seek Holds holds_append holds_cons seek_eq_some_iff seek_bounds)

section

variable {setup : Setup} {buf : Words} {start : Nat} {call taken : Call} {first : Bool}

lemma decodeDmb_found {header}
    (sought : seek (marked 9 (buf.behind start)) 16 call.index = some header) :
    decodeDmb setup buf start call =
      (chamberBlock setup ((buf.behind start).behind header) call.event).map fun outcome =>
        ⟨outcome.1, findDmbEnd (buf.behind start) header, outcome.2,
          call.visited ++ [some (start + header)]⟩ := by
  unfold decodeDmb
  dsimp only
  rw [sought]
  dsimp only
  cases chamberBlock setup ((buf.behind start).behind header) call.event <;> rfl

lemma decodeDmb_visits (done : decodeDmb setup buf start call = some taken) :
    taken.event = call.event ∧ ∃ found, taken.visited = call.visited ++ [found] ∧
      ∀ place ∈ found, start + call.index ≤ place ∧ place < start + call.index + 16 ∧
        seek (marked 9 (buf.behind start)) 16 call.index = some (place - start) := by
  cases sought : seek (marked 9 (buf.behind start)) 16 call.index with
  | none =>
    unfold decodeDmb at done
    dsimp only at done
    rw [sought] at done
    cases done
    exact ⟨rfl, none, rfl, fun _ inside => by cases inside⟩
  | some header =>
    rw [decodeDmb_found sought, map_eq_some_iff] at done
    obtain ⟨outcome, block, rfl⟩ := done
    have bounds := seek_bounds sought
    refine ⟨chamberBlock_event block, some (start + header), rfl, fun place same => ?_⟩
    cases same
    refine ⟨by omega, by omega, ?_⟩
    rw [Nat.add_sub_cancel_left]

lemma decodeDdu2_passed (short : (buf start).toInt ≤ call.index + 20) :
    decodeDdu2 setup buf start false call = some { call with result := 1 } := by
  unfold decodeDdu2
  rw [if_neg (by simp), if_neg Bool.false_ne_true, if_neg (by omega)]
  rfl

lemma decodeDdu2_longer (long : call.index + 20 < (buf start).toInt) :
    decodeDdu2 setup buf start false call =
      (decodeDmb setup buf start call).map fun taken =>
        { taken with result := taken.result ||| 2 } := by
  unfold decodeDdu2
  rw [if_neg (by simp), if_neg Bool.false_ne_true, if_pos (by omega)]
  cases decodeDmb setup buf start call <;> rfl

lemma decodeDdu2_empty (few : (buf start).toInt ≤ 29) :
    decodeDdu2 setup buf start true call = some { call with result := 1 } := by
  unfold decodeDdu2
  rw [if_pos ⟨rfl, few⟩]
  rfl

lemma decodeDdu2_first (many : 29 < (buf start).toInt) :
    decodeDdu2 setup buf start true call =
      decodeDdu2 setup buf start false { call with index := 15 } := by
  unfold decodeDdu2
  simp only [true_and, Bool.false_eq_true, false_and, if_false, if_true]
  rw [if_neg (by omega)]

lemma decodeDdu2_keeps (done : decodeDdu2 setup buf start first call = some taken) :
    taken.event = call.event ∧ ∃ more, taken.visited = call.visited ++ more := by
  have later (begun : Call) (done : decodeDdu2 setup buf start false begun = some taken) :
      taken.event = begun.event ∧ ∃ more, taken.visited = begun.visited ++ more := by
    by_cases long : begun.index + 20 < (buf start).toInt
    · rw [decodeDdu2_longer long, map_eq_some_iff] at done
      obtain ⟨block, decoded, rfl⟩ := done
      obtain ⟨event, found, visited, _⟩ := decodeDmb_visits decoded
      exact ⟨event, [found], visited⟩
    · rw [decodeDdu2_passed (by omega)] at done
      cases done
      exact ⟨rfl, [], (append_nil _).symm⟩
  cases first with
  | false => exact later call done
  | true =>
    by_cases many : 29 < (buf start).toInt
    · rw [decodeDdu2_first many] at done
      exact later { call with index := 15 } done
    · rw [decodeDdu2_empty (by omega)] at done
      cases done
      exact ⟨rfl, [], (append_nil _).symm⟩

end

section

variable {setup : Setup} {buf : Words} {first : Bool} {eventType : Short}

lemma Module.length_words (block : Module) : block.words.length = block.length := by
  simp [Module.words, Module.length]

lemma flatMap_words_length (blocks : List Module) :
    (blocks.flatMap Module.words).length = (blocks.map Module.length).sum := by
  simp [length_flatMap, Module.length_words]

variable {block : Module}

lemma Module.count {place} (holds : Holds buf place block.words)
    (bound : block.length < 2 ^ 15) : (buf place).toInt = block.length := by
  have word : buf place = BitVec.ofNat 16 block.length := (holds_cons.mp holds).1
  rw [word, BitVec.toInt_eq_toNat_of_lt] <;> simp <;> omega

lemma Module.next_place {place} (holds : Holds buf place block.words)
    (bound : block.length < 2 ^ 15) :
    place + (buf place).toInt = ((place + block.length : Nat) : Int) := by
  rw [Module.count holds bound]
  rfl

lemma Module.moduleId_eq {place} (holds : Holds buf place block.words) :
    moduleId buf place = block.id := by
  obtain ⟨_, named⟩ := holds_cons.mp holds
  obtain ⟨high, rest⟩ := holds_cons.mp named
  obtain ⟨low, _⟩ := holds_cons.mp rest
  unfold moduleId Module.id
  rw [high, low]

lemma Module.last_word {place} (holds : Holds buf place block.words) :
    buf (place + block.length - 1) = buf place := by
  have word : buf place = BitVec.ofNat 16 block.length := (holds_cons.mp holds).1
  have last := (holds_cons.mp (holds_append.mp holds).2).1
  rw [word]
  congr 1

def overBlocks (setup : Setup) (buf : Words) (first : Bool) (eventType : Short) :
    List Module → Nat → Call → Option Call
  | [], _, call => some call
  | block :: rest, place, call =>
    (eventBlock setup buf first eventType place call).bind
      (overBlocks setup buf first eventType rest (place + block.length))

lemma overBlocks_append (blocks others place call) :
    overBlocks setup buf first eventType (blocks ++ others) place call =
      (overBlocks setup buf first eventType blocks place call).bind
        (overBlocks setup buf first eventType others (place + (blocks.map Module.length).sum)) := by
  induction blocks generalizing place call with
  | nil => rfl
  | cons block rest ih =>
    simp only [cons_append, overBlocks, ih, bind_assoc, map_cons, sum_cons, Nat.add_assoc]

variable {place : Nat}

lemma eventBlocks_eq {blocks fuel} (holds : Holds buf place (blocks.flatMap Module.words))
    (size : (buf 0).toInt = place + (blocks.map Module.length).sum + 1)
    (bound : place + (blocks.map Module.length).sum < 2 ^ 15) (enough : blocks.length < fuel)
    (call) :
    eventBlocks setup buf first eventType fuel place call =
      overBlocks setup buf first eventType blocks place call := by
  induction blocks generalizing place fuel call with
  | nil =>
    obtain ⟨fuel, rfl⟩ := Nat.exists_eq_add_one_of_ne_zero (Nat.ne_zero_of_lt enough)
    simp only [map_nil, sum_nil] at size
    rw [eventBlocks, if_pos (by omega), overBlocks]
  | cons block rest ih =>
    obtain ⟨fuel, rfl⟩ := Nat.exists_eq_add_one_of_ne_zero (Nat.ne_zero_of_lt enough)
    rw [flatMap_cons, holds_append, Module.length_words] at holds
    simp only [map_cons, sum_cons, length_cons] at size bound enough
    have four : 4 ≤ block.length := Nat.le_add_left 4 _
    have next := Module.next_place holds.1 (by omega)
    rw [eventBlocks, if_neg (by omega), if_neg (by omega), next,
      Int.toNat_natCast, if_neg (by simp [Module.last_word holds.1]),
      overBlocks]
    cases eventBlock setup buf first eventType place call with
    | none => rfl
    | some taken =>
      exact ih holds.2 (by omega) (by omega) (by omega) taken

lemma eventHeader_continues {blocks : List Module} {fuel}
    (holds : Holds buf place (blocks.flatMap Module.words))
    (size : (buf 0).toInt = place + (blocks.map Module.length).sum + 1)
    (bound : place + (blocks.map Module.length).sum < 2 ^ 15) (enough : blocks.length < fuel) :
    eventHeader buf false fuel place = some none := by
  induction blocks generalizing place fuel with
  | nil =>
    obtain ⟨fuel, rfl⟩ := Nat.exists_eq_add_one_of_ne_zero (Nat.ne_zero_of_lt enough)
    simp only [map_nil, sum_nil] at size
    rw [eventHeader, if_pos (by omega)]
  | cons block rest ih =>
    obtain ⟨fuel, rfl⟩ := Nat.exists_eq_add_one_of_ne_zero (Nat.ne_zero_of_lt enough)
    rw [flatMap_cons, holds_append, Module.length_words] at holds
    simp only [map_cons, sum_cons, length_cons] at size bound enough
    have four : 4 ≤ block.length := Nat.le_add_left 4 _
    have next := Module.next_place holds.1 (by omega)
    rw [eventHeader, if_neg (by omega), next]
    exact ih holds.2 (by omega) (by omega) (by omega)

lemma eventHeader_found {blocks : List Module} {fuel header word}
    (holds : Holds buf place (blocks.flatMap Module.words))
    (size : (buf 0).toInt = place + (blocks.map Module.length).sum + 1)
    (bound : place + (blocks.map Module.length).sum < 2 ^ 15) (enough : blocks.length < fuel)
    (found : blocks.find? (fun block => block.id == HEAD_ID) = some header)
    (known : header.data[5]? = some word) : eventHeader buf true fuel place = some (some word) := by
  induction blocks generalizing place fuel with
  | nil => cases found
  | cons block rest ih =>
    obtain ⟨fuel, rfl⟩ := Nat.exists_eq_add_one_of_ne_zero (Nat.ne_zero_of_lt enough)
    rw [flatMap_cons, holds_append, Module.length_words] at holds
    simp only [map_cons, sum_cons, length_cons] at size bound enough
    have four : 4 ≤ block.length := Nat.le_add_left 4 _
    have next := Module.next_place holds.1 (by omega)
    rw [eventHeader, if_neg (by omega), Module.moduleId_eq holds.1]
    by_cases named : block.id = HEAD_ID
    · rw [if_pos ⟨rfl, named⟩]
      rw [find?_cons_of_pos (by simpa using named)] at found
      cases found
      have data := (holds_append.mp (holds_cons.mp (holds_cons.mp
        (holds_cons.mp holds.1).2).2).2).1
      have typed := data.at? known
      rw [typed]
    · rw [find?_cons_of_neg (by simpa using named)] at found
      rw [if_neg (fun both => named both.2), next]
      exact ih holds.2 (by omega) (by omega) (by omega) found

end

variable {setup : Setup} {buf : Words} {eventType : Short} {place : Nat} {call taken : Call}

lemma overBlocks_named {blocks} (holds : Holds buf place (blocks.flatMap Module.words))
    (others : ∀ block ∈ blocks, block.id ≠ DDU2_ID) (call) :
    overBlocks setup buf true eventType blocks place call = some call := by
  induction blocks generalizing place with
  | nil => rfl
  | cons block rest ih =>
    rw [flatMap_cons, holds_append, Module.length_words] at holds
    have other := others block mem_cons_self
    rw [overBlocks, eventBlock, if_pos rfl, Module.moduleId_eq holds.1,
      if_neg (fun both => other both.2)]
    exact ih holds.2 fun block inside => others block (mem_cons_of_mem _ inside)

lemma overBlocks_keeps {first blocks}
    (done : overBlocks setup buf first eventType blocks place call = some taken) :
    taken.event = call.event ∧ ∃ more, taken.visited = call.visited ++ more := by
  induction blocks generalizing place call with
  | nil =>
    cases done
    exact ⟨rfl, [], (append_nil _).symm⟩
  | cons block rest ih =>
    rw [overBlocks, bind_eq_some_iff] at done
    obtain ⟨next, one, others⟩ := done
    have step : next.event = call.event ∧ ∃ more, next.visited = call.visited ++ more := by
      unfold eventBlock at one
      split at one
      · split at one
        · exact decodeDdu2_keeps one
        · cases one
          exact ⟨rfl, [], (append_nil _).symm⟩
      · exact decodeDdu2_keeps one
    obtain ⟨event, more, visited⟩ := step
    obtain ⟨last, others, all⟩ := ih others
    exact ⟨last.trans event, more ++ others, by rw [all, visited, append_assoc]⟩

variable {blocks : List Module}

lemma overBlocks_passed (holds : Holds buf place (blocks.flatMap Module.words))
    (bound : (blocks.map Module.length).sum < 2 ^ 15) (short : PassedOver blocks call.index) :
    overBlocks setup buf false eventType blocks place call =
      some (if blocks = [] then call else { call with result := 1 }) := by
  induction blocks generalizing place call with
  | nil => rfl
  | cons block rest ih =>
    rw [flatMap_cons, holds_append, Module.length_words] at holds
    rw [map_cons, sum_cons] at bound
    have count := Module.count holds.1 (by omega)
    have one := short block mem_cons_self
    have others (begun : Call) (same : begun.index = call.index) :=
      ih holds.2 (by omega) fun block inside =>
        (same ▸ short block (mem_cons_of_mem _ inside) : block.length ≤ begun.index + 20)
    rw [overBlocks, eventBlock, if_neg Bool.false_ne_true, decodeDdu2_passed (by omega),
      bind_some, others { call with result := 1 } rfl]
    split <;> rfl

lemma overBlocks_visits (holds : Holds buf place (blocks.flatMap Module.words))
    (bound : (blocks.map Module.length).sum < 2 ^ 15) (long : ¬ PassedOver blocks call.index)
    (done : overBlocks setup buf false eventType blocks place call = some taken) :
    ∃ found more, taken.visited = call.visited ++ found :: more ∧
      ∀ inside ∈ found, place ≤ inside ∧ inside < place + (blocks.map Module.length).sum := by
  induction blocks generalizing place call with
  | nil => exact absurd (fun block inside => by cases inside) long
  | cons block rest ih =>
    rw [flatMap_cons, holds_append, Module.length_words] at holds
    rw [map_cons, sum_cons] at bound ⊢
    have count := Module.count holds.1 (by omega)
    rw [overBlocks, eventBlock] at done
    by_cases one : block.length ≤ call.index + 20
    · rw [decodeDdu2_passed (by omega)] at done
      have later : ¬ PassedOver rest call.index := by
        intro others
        refine long fun other inside => ?_
        rcases mem_cons.mp inside with rfl | later
        · exact one
        · exact others other later
      have begun : ¬ PassedOver rest ({ call with result := 1 } : Call).index := later
      obtain ⟨found, more, visited, within⟩ := ih holds.2 (by omega) begun done
      refine ⟨found, more, visited, fun place same => ?_⟩
      have bounds := within place same
      omega
    · rw [decodeDdu2_longer (by omega), bind_eq_some_iff] at done
      obtain ⟨next, first, others⟩ := done
      obtain ⟨decoded, block, rfl⟩ := map_eq_some_iff.mp first
      obtain ⟨_, found, visited, within⟩ := decodeDmb_visits block
      obtain ⟨_, more, all⟩ := overBlocks_keeps others
      refine ⟨found, more, ?_, fun place same => ?_⟩
      · rw [all]
        simp [visited]
      · have bounds := within place same
        omega

end EmuLib.FastDaq
