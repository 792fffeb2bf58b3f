import EmuLib.FastDaq.Unpacking

/-!
The condition under which the calls for an event are right, and an event that breaks it.
-/

namespace EmuLib.FastDaq

open List

open Buffer (seek Holds)

section

variable {setup : Setup} {event : DataEvent} {place : Nat} {dmb : Dmb} {rest : List Dmb}

lemma PassedOver.later {blocks index later} (passed : PassedOver blocks index)
    (behind : index ≤ later) : PassedOver blocks later:=
  fun block inside => Nat.le_trans (passed block inside) (Nat.add_le_add_right behind 20)

lemma goes_last_iff (none_behind : event.after = []) (dmbWellFormed : dmb.WellFormed)
    (restWellFormed : ∀ next ∈ rest, next.WellFormed)
    (length : event.ddu.length =
      place + dmb.words.length + (rest.flatMap Dmb.words).length + 13) :
    Goes setup event place dmb rest ↔
      PassedOver event.before (place + dmb.cut) ∧ (dmb :: rest).IsChain Dmb.Leads ∧
        (∀ next ∈ rest, setup.Selects next → next.present = []) ∧
        ∀ last ∈ (dmb :: rest).getLast?, last.Ends := by
  have nothing (index : Nat) : PassedOver event.after index := by
    rw [none_behind]
    exact fun block inside => by cases inside
  induction rest generalizing place dmb with
  | nil =>
    simp only [flatMap_nil, length_nil] at length
    have ends : event.ddu.length ≤ place + dmb.cut + 20 ↔ dmb.Ends := by
      unfold Dmb.Ends
      omega
    simp [Goes, ends, nothing]
  | cons next rest ih =>
    have nextWellFormed := restWellFormed next mem_cons_self
    have cut := cut_le dmbWellFormed
    rw [flatMap_cons, length_append] at length
    have later : Goes setup event (place + dmb.words.length) next rest ↔ _ :=
      ih nextWellFormed (fun other inside => restWellFormed other (mem_cons_of_mem _ inside))
        (by omega)
    rw [Goes, if_pos none_behind, later, isChain_cons_cons, forall_mem_cons]
    constructor
    · rintro ⟨before, leads, boards, _, _, chain, others, ends⟩
      exact ⟨before, ⟨leads, chain⟩, ⟨boards, others⟩, ends⟩
    · rintro ⟨before, ⟨leads, chain⟩, ⟨boards, others⟩, ends⟩
      exact ⟨before, leads, boards, nothing _, before.later (by omega), chain, others, ends⟩

lemma goes_between_iff (some_behind : event.after ≠ [])
    (length : event.ddu.length =
      15 + dmb.words.length + (rest.flatMap Dmb.words).length + 13) :
    Goes setup event 15 dmb rest ↔
      PassedOver event.before (15 + dmb.cut) ∧ (dmb :: rest).IsChain Dmb.Leads ∧
        (∀ next ∈ rest, setup.Selects next → next.present = []) ∧
        BehindFits setup event.after (dmb :: rest) := by
  cases rest with
  | nil =>
    simp only [flatMap_nil, length_nil] at length
    have ends : event.ddu.length ≤ 15 + dmb.cut + 20 ↔ dmb.Ends := by
      unfold Dmb.Ends
      omega
    simp [Goes, ends, BehindFits]
  | cons next rest =>
    rw [Goes, if_neg some_behind]
    cases rest with
    | nil =>
      simp [BehindFits]
    | cons other rest =>
      simp [BehindFits]

lemma fits_cons_iff {first} (dmbs : event.dmbs = first :: rest) :
    Fits setup event ↔
      (setup.Selects first → first.present = []) ∧
        PassedOver event.before (15 + first.cut) ∧ (first :: rest).IsChain Dmb.Leads ∧
        (∀ next ∈ rest, setup.Selects next → next.present = []) ∧
        if event.after = [] then ∀ last ∈ (first :: rest).getLast?, last.Ends
        else BehindFits setup event.after (first :: rest) := by
  constructor
  · rintro ⟨boards, leads, before, ends, behind⟩
    rw [dmbs] at boards leads before ends behind
    obtain ⟨one, others⟩ := forall_mem_cons.mp boards
    refine ⟨one, before first rfl, leads, others, ?_⟩
    split
    next none_behind => exact ends none_behind
    next some_behind => exact behind some_behind
  · rintro ⟨one, before, leads, others, last⟩
    refine ⟨?_, dmbs ▸ leads, fun head inside => ?_, fun none_behind => ?_, fun some_behind => ?_⟩
    · rw [dmbs]
      exact forall_mem_cons.mpr ⟨one, others⟩
    · rw [dmbs] at inside
      cases inside
      exact before
    · rw [if_pos none_behind] at last
      exact dmbs ▸ last
    · rw [if_neg some_behind] at last
      exact dmbs ▸ last

end

variable (setup : Setup) (event : DataEvent) (buf : Words)

/-- The calls for a well-formed event take every chamber block once and in order, give the results
and leave the samples of the front-end boards exactly where the condition holds. -/
theorem unpacks_every_chamber (wellFormed : event.WellFormed) (holds : Holds buf 0 event.words)
    (index : Nat) : UnpacksRight setup event buf index ↔ Fits setup event := by
  have length := ddu_length wellFormed
  cases dmbs : event.dmbs with
  | nil =>
    have right : UnpacksRight setup event buf index := unpacksRight_nil holds wellFormed index dmbs
    refine ⟨fun _ => ⟨?_, ?_, ?_, ?_, ?_⟩, fun _ => right⟩
    all_goals simp [dmbs, BehindFits]
  | cons first rest =>
    have firstWellFormed := wellFormed.dmbs_wellFormed first (by simp [dmbs])
    have restWellFormed (next : Dmb) (inside : next ∈ rest) : next.WellFormed :=
      wellFormed.dmbs_wellFormed next (by simp [dmbs, inside])
    rw [dmbs, flatMap_cons, length_append] at length
    rw [unpacksRight_iff holds wellFormed index dmbs, fits_cons_iff dmbs]
    by_cases none_behind : event.after = []
    · rw [goes_last_iff none_behind firstWellFormed restWellFormed (by omega), if_pos none_behind]
    · rw [goes_between_iff none_behind (by omega), if_neg none_behind]

def cableMap (ifeb channel : Nat) : Short :=
  let layer := [2, 0, 4, 5, 3, 1].getD (channel % 6) 0
  let strip := [0, 1, 3, 2, 6, 7, 5, 4, 12, 13, 15, 14, 10, 11, 9, 8].getD (channel / 6) 0 + 16 * ifeb
  BitVec.ofNat 16 ((layer + 1) * 256 + strip + 1)

def dataHeader : Module :=
  ⟨0x4845, 0x4144, [0, 1, 1, 0, 1, 2] ++ List.replicate 19 0⟩

def plainDmb (flags : Short) (trigger : List Short) (boards : List (List Sample)) : Dmb :=
  ⟨[0x9001, 0x9000, flags, 0x9000, 0xa000, 0xa013, 0xa000, 0xa000], [], trigger, boards,
    [0xf000, 0xf000, 0xf000, 0xf000, 0xe000, 0xe000, 0xe000, 0xe000]⟩

def plainEvent (dmbs : List Dmb) : DataEvent :=
  ⟨[dataHeader], List.replicate 12 0, dmbs, List.replicate 12 0, []⟩

def plainTrigger : List Short :=
  [0xdb0c, 0, 0, 0, 7, 0, 0, 0x6e0b, 0x6b04, 0xde0f, 0xd00a]

lemma plainDmb_wellFormed {flags trigger boards} (digit : flags.toNat >>> 12 = 9)
    (anode : flags.toNat.testBit 10 = false) (given : trigger = [] ↔ flags.toNat.testBit 11 = false)
    (present : boards.length = (plainDmb flags trigger boards).present.length)
    (samples : ∀ board ∈ boards, board.length = (plainDmb flags trigger boards).samples)
    (words : ∀ board ∈ boards, ∀ sample ∈ board,
      sample.channels.length = 96 ∧ sample.rest.length = 3) :
    (plainDmb flags trigger boards).WellFormed where
  header_length := rfl
  header_digits := by
    intro word inside
    simp only [plainDmb, take_succ_cons, take_zero, mem_cons, not_mem_nil, or_false] at inside
    rcases inside with rfl | rfl | rfl | rfl
    · decide
    · decide
    · exact digit
    · decide
  header_rest := by
    intro word inside
    simp only [plainDmb, drop_succ_cons, drop_zero, mem_cons, not_mem_nil, or_false] at inside
    rcases inside with rfl | rfl | rfl | rfl <;> decide
  trailer_length := rfl
  trailer_first := by
    intro word inside
    obtain rfl : word = 0xf000 := by simpa [plainDmb] using inside
    decide
  trailer_digits := by
    intro word inside
    obtain rfl : word = 0xe000 := by simpa [plainDmb] using inside
    decide
  alct_given := ⟨fun _ => anode, fun _ => rfl⟩
  trigger_given := given
  alct_kind := fun some_given => absurd some_given (by simp [plainDmb])
  boards_given := present
  boards_samples := samples
  samples_words := words

lemma plainEvent_wellFormed {dmbs} (size : (plainEvent dmbs).size < 2 ^ 15)
    (blocks : ∀ dmb ∈ dmbs, dmb.WellFormed) : (plainEvent dmbs).WellFormed where
  size_bound := size
  head_length := rfl
  tail_length := rfl
  dmbs_wellFormed := blocks
  others := by
    intro block inside
    obtain rfl := mem_singleton.mp inside
    decide
  header := ⟨dataHeader, rfl, rfl⟩

def twoChambers : List Dmb := [plainDmb 0x9000 [] [], plainDmb 0x9800 plainTrigger []]

theorem unpacks_every_chamber_two :
    UnpacksRight ⟨-1, -1, cableMap⟩ (plainEvent twoChambers)
      (fun index => (plainEvent twoChambers).words.getD index 0) 0 := by
  have wellFormed : (plainEvent twoChambers).WellFormed := by
    apply plainEvent_wellFormed (by decide)
    intro dmb inside
    rcases mem_pair.mp inside with rfl | rfl
    · exact plainDmb_wellFormed (by decide) (by decide) (by decide) (by decide) (by decide)
        (by decide)
    · exact plainDmb_wellFormed (by decide) (by decide) (by decide) (by decide) (by decide)
        (by decide)
  refine (unpacks_every_chamber _ _ _ wellFormed (Buffer.Holds.getD _ 0) 0).mpr
    (fits_cons_iff rfl |>.mpr ⟨fun _ => by decide, ?_, ?_, ?_, ?_⟩)
  · intro block inside
    obtain rfl := mem_singleton.mp inside
    decide +kernel
  · refine .cons_cons ?_ (.singleton _)
    show seek _ _ _ = _
    decide +kernel
  · intro dmb inside _
    obtain rfl := mem_singleton.mp inside
    decide
  · intro last inside
    cases inside
    show _ ≤ _
    decide +kernel

theorem unpacks_no_samples : ¬ ∀ setup event buf index, event.WellFormed →
    Holds buf 0 event.words → UnpacksRight setup event buf index := by
  intro right
  let sample : Sample := ⟨List.replicate 96 0, 0, [0, 0, 0x7fff]⟩
  let chamber : Dmb := plainDmb 0x9001 [] [List.replicate 8 sample]
  have blocks (dmb : Dmb) (inside : dmb ∈ [chamber]) : dmb.WellFormed := by
    obtain rfl := mem_singleton.mp inside
    exact plainDmb_wellFormed (by decide) (by decide) (by decide) (by decide) (by decide)
      (by decide)
  have wellFormed : (plainEvent [chamber]).WellFormed :=
    plainEvent_wellFormed (by decide +kernel) blocks
  have holds := Holds.getD (plainEvent [chamber]).words 0
  have taken := right ⟨-1, -1, cableMap⟩ (plainEvent [chamber]) _ 0 wellFormed holds
  have none_present := ((unpacksRight_iff holds wellFormed 0 rfl).mp taken).1 (.inl (by decide))
  exact absurd none_present (by decide)

end EmuLib.FastDaq
