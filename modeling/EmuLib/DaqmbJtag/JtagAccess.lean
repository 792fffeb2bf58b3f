import EmuLib.DaqmbJtag.JtagLite

/-!
Commands and data for the devices of the data motherboard.
-/

namespace EmuLib.DaqmbJtag

open Memory TapController VmeController List Function

/-- What `daqmb_do` is called with; bit 0 of `irdsnd` is for now, bit 1 for a read. -/
structure Request where
  ncmd : Int
  cmd : Nat → UInt8
  nbuf : Int
  inbuf : Nat → UInt8
  outbuf : Nat → UInt8
  irdsnd : Nat
  dev : Nat

structure Bypass where
  cmdHead : Nat
  cmdTail : Nat
  dataHead : Nat
  dataTail : Nat

namespace Request

variable (request : Request)

def now : Bool := request.irdsnd.testBit 0
def reads : Bool := request.irdsnd.testBit 1

def headtail : Bool := request.dev = 5 || request.dev = 6

def bypass : Bypass :=
  if request.dev = 5 then ⟨0, 5, 0, 1⟩
  else if request.dev = 6 then ⟨8, 0, 1, 0⟩
  else ⟨0, 0, 0, 0⟩

def daqmbDev : Nat := if request.headtail then 1 else request.dev

def ncmdU : Nat := request.ncmd.toNat + request.bypass.cmdHead + request.bypass.cmdTail
def nbufU : Nat := request.nbuf.toNat + request.bypass.dataHead + request.bypass.dataTail

def around (data : Nat → UInt8) (count : Int) (head tail : Nat) : Nat → UInt8 :=
  if request.headtail then addHeadtail data count.toNat head tail else data

def cmdU : Nat → UInt8 :=
  request.around request.cmd request.ncmd request.bypass.cmdHead request.bypass.cmdTail

def inbufU : Nat → UInt8 :=
  request.around request.inbuf request.nbuf request.bypass.dataHead request.bypass.dataTail

end Request

def realign (outbuf : Nat → UInt8) (nbuf : Nat) : Nat → UInt8 :=
  let ishft := 16 - nbuf % 16
  let temp := (outbuf (2 * (nbuf / 16) + 1)).toNat <<< 8 ||| (outbuf (2 * (nbuf / 16))).toNat
  let temp := temp >>> ishft
  Function.update
    (Function.update outbuf (2 * (nbuf / 16) + 1) (UInt8.ofNat ((temp &&& 0xff00) >>> 8)))
    (2 * (nbuf / 16)) (UInt8.ofNat (temp &&& 0x00ff))

section

variable {Boards : Type} (bus : Bus Boards) (theSlot : Nat) (driven : Driven Boards)
  (request : Request)

def discretePtr : Nat := (0xFFFC &&& 0x7FFFF) + (theSlot <<< 19)

def discreteLogic : Driven Boards × (Nat → UInt8) :=
  let ptr := discretePtr theSlot
  if request.ncmd < 0 then
    ((jtagLite bus driven ptr 0 (fun _ => 0) (-1) (fun _ => 0) false).1, request.outbuf)
  else
    let (driven, outbuf) :=
      if 0 < request.ncmd then
        jtagLite bus driven ptr 0 request.cmd request.ncmd request.outbuf false
      else (driven, request.outbuf)
    if 0 < request.nbuf then
      jtagLite bus driven ptr 1 request.inbuf request.nbuf outbuf request.reads
    else if request.nbuf < 0 then
      jtagLite bus driven ptr 2 request.inbuf (-request.nbuf) outbuf false
    else (driven, outbuf)

def Request.received (outbuf : Nat → UInt8) : Nat → UInt8 :=
  if request.irdsnd &&& 3 = 3 then
    let nbuf := request.nbuf.toNat
    let outbuf := if nbuf % 16 ≠ 0 then realign outbuf nbuf else outbuf
    if request.headtail ∧ 0 < nbuf then
      cutHeadtail outbuf request.nbufU request.bypass.dataHead request.bypass.dataTail
    else outbuf
  else outbuf

def daqmbDo : Driven Boards × (Nat → UInt8) :=
  if 6 < request.dev then (driven, request.outbuf)
  else if request.dev = 0 then discreteLogic bus theSlot driven request
  else
    let ohio : Ohio := ⟨theSlot, request.daqmbDev⟩
    if request.ncmd < 0 then
      ((transfer bus driven (ohio.jtagOhio (fun _ => 0) false request.now 0 (-1))
        (fun _ => 0)).1, request.outbuf)
    else
      let (driven, outbuf) :=
        if 0 < request.ncmd then
          transfer bus driven
            (ohio.jtagOhio request.cmdU false (request.nbuf ≤ 0 && request.now) 0 request.ncmdU)
            request.outbuf
        else (driven, request.outbuf)
      let (driven, outbuf) :=
        if 0 < request.nbuf then
          transfer bus driven
            (ohio.jtagOhio request.inbufU request.reads request.now 1 request.nbufU) outbuf
        else if request.nbuf < 0 then
          ((transfer bus driven
            (ohio.jtagOhio request.inbuf false request.now 2 (-request.nbuf)) outbuf).1, outbuf)
        else (driven, outbuf)
      (driven, request.received outbuf)

end

section

def withBypass (data : Nat → UInt8) (count head tail : Nat) : List Bool :=
  List.replicate tail true ++ bitsOf data count ++ List.replicate head true

lemma bitsOf_addHeadtail (data) {count} (head tail) (some_ : count ≠ 0) :
    bitsOf (addHeadtail data count head tail) (count + head + tail) =
      withBypass data count head tail := by
  apply ext_getElem
  · simp [withBypass, bitsOf]
    omega
  · intro i inside _
    have within : i < count + head + tail := by simpa [bitsOf] using inside
    simp only [bitsOf, getElem_map, getElem_range]
    rw [addHeadtail_bit data some_ within, surrounded]
    simp only [withBypass, bitsOf, append_assoc]
    by_cases before : i < tail
    · rw [if_pos (.inl before), getElem_append_left (by simpa using before)]
      simp
    · rw [getElem_append_right (by simpa using before)]
      by_cases middle : i - tail < count
      · rw [if_neg (by omega), getElem_append_left (by simpa using middle)]
        simp
      · rw [if_pos (by omega), getElem_append_right (by simpa using middle)]
        simp

variable {request : Request}

lemma bypass_direct (direct : ¬ request.headtail = true) : request.bypass = ⟨0, 0, 0, 0⟩ := by
  simp only [Request.headtail, Bool.or_eq_true, decide_eq_true_eq, not_or] at direct
  rw [Request.bypass, if_neg direct.1, if_neg direct.2]

lemma around_bits {data count} (some_ : 0 < count) {head tail}
    (direct : ¬ request.headtail = true → head = 0 ∧ tail = 0) :
    bitsOf (request.around data count head tail) (count.toNat + head + tail) =
      withBypass data count.toNat head tail := by
  rw [Request.around]
  by_cases around : request.headtail = true
  · rw [if_pos around]
    exact bitsOf_addHeadtail _ _ _ (by omega)
  · obtain ⟨rfl, rfl⟩ := direct around
    rw [if_neg around]
    simp [withBypass]

lemma cmdU_bits (some_ : 0 < request.ncmd) :
    bitsOf request.cmdU request.ncmdU =
      withBypass request.cmd request.ncmd.toNat request.bypass.cmdHead request.bypass.cmdTail :=
  around_bits some_ fun direct => by rw [bypass_direct direct]; exact ⟨rfl, rfl⟩

lemma inbufU_bits (some_ : 0 < request.nbuf) :
    bitsOf request.inbufU request.nbufU =
      withBypass request.inbuf request.nbuf.toNat request.bypass.dataHead
        request.bypass.dataTail :=
  around_bits some_ fun direct => by rw [bypass_direct direct]; exact ⟨rfl, rfl⟩

end

lemma pair_testBit (outbuf word place) :
    ((outbuf (2 * word + 1)).toNat <<< 8 ||| (outbuf (2 * word)).toNat).testBit place =
      (decide (place < 16) && dataBit outbuf (16 * word + place)) := by
  have small : (outbuf (2 * word)).toNat < 2 ^ 8 := (outbuf (2 * word)).toNat_lt
  have high : (outbuf (2 * word + 1)).toNat < 2 ^ 8 := (outbuf (2 * word + 1)).toNat_lt
  rw [← Nat.shiftLeft_add_eq_or_of_lt small, Nat.shiftLeft_eq, Nat.mul_comm,
    Nat.testBit_two_pow_mul_add _ small, dataBit]
  by_cases low : place < 8
  · have byte : (16 * word + place) / 8 = 2 * word := by omega
    have rest : (16 * word + place) % 8 = place := by omega
    have inside : place < 16 := by omega
    rw [if_pos low, byte, rest, decide_eq_true inside, Bool.true_and]
  · rw [if_neg low]
    by_cases inside : place < 16
    · have byte : (16 * word + place) / 8 = 2 * word + 1 := by omega
      have rest : (16 * word + place) % 8 = place - 8 := by omega
      rw [byte, rest, decide_eq_true inside, Bool.true_and]
    · have beyond : (outbuf (2 * word + 1)).toNat.testBit (place - 8) = false := by
        refine Nat.testBit_lt_two_pow (Nat.lt_of_lt_of_le high ?_)
        exact Nat.pow_le_pow_right (by decide) (by omega)
      rw [beyond, decide_eq_false inside, Bool.false_and]

lemma realign_other (outbuf nbuf) {i}
    (other : i / 16 ≠ nbuf / 16) : dataBit (realign outbuf nbuf) i = dataBit outbuf i := by
  have low : i / 8 ≠ 2 * (nbuf / 16) := by omega
  have high : i / 8 ≠ 2 * (nbuf / 16) + 1 := by omega
  have kept : realign outbuf nbuf (i / 8) = outbuf (i / 8) :=
    (update_of_ne low ..).trans (update_of_ne high ..)
  rw [dataBit, kept, dataBit]

lemma realign_last (outbuf nbuf) {place} (inside : place < 16) :
    dataBit (realign outbuf nbuf) (16 * (nbuf / 16) + place) =
      (decide (16 - nbuf % 16 + place < 16) &&
        dataBit outbuf (16 * (nbuf / 16) + (16 - nbuf % 16 + place))) := by
  generalize shift : 16 - nbuf % 16 = ishft
  generalize whole : nbuf / 16 = word
  have moved : ∀ bit, (((outbuf (2 * word + 1)).toNat <<< 8 ||| (outbuf (2 * word)).toNat)
      >>> ishft).testBit bit =
        (decide (ishft + bit < 16) && dataBit outbuf (16 * word + (ishft + bit))) := by
    intro bit
    rw [Nat.testBit_shiftRight, pair_testBit]
  by_cases low : place < 8
  · have byte : (16 * word + place) / 8 = 2 * word := by omega
    have rest : (16 * word + place) % 8 = place := by omega
    have written : realign outbuf nbuf (2 * word) =
        UInt8.ofNat ((((outbuf (2 * word + 1)).toNat <<< 8 ||| (outbuf (2 * word)).toNat)
          >>> ishft) &&& 0x00ff) := by
      rw [realign, shift, whole]
      exact update_self ..
    have mask : (0x00ff : Nat).testBit place = true := by
      have each : ∀ bit < 8, (0x00ff : Nat).testBit bit = true := by decide
      exact each place low
    rw [dataBit, byte, rest, written, UInt8.toNat_ofNat', Nat.testBit_mod_two_pow,
      decide_eq_true low, Bool.true_and, Nat.testBit_and, mask, Bool.and_true, moved]
  · have byte : (16 * word + place) / 8 = 2 * word + 1 := by omega
    have rest : (16 * word + place) % 8 = place - 8 := by omega
    have back : 8 + (place - 8) = place := by omega
    have small : place - 8 < 8 := by omega
    have apart : 2 * word + 1 ≠ 2 * word := Nat.succ_ne_self _
    have written : realign outbuf nbuf (2 * word + 1) =
        UInt8.ofNat (((((outbuf (2 * word + 1)).toNat <<< 8 ||| (outbuf (2 * word)).toNat)
          >>> ishft) &&& 0xff00) >>> 8) := by
      rw [realign, shift, whole]
      exact (update_of_ne apart ..).trans (update_self ..)
    have mask : (0xff00 : Nat).testBit place = true := by
      have each : ∀ bit < 8, (0xff00 : Nat).testBit (8 + bit) = true := by decide
      rw [← back]
      exact each _ small
    rw [dataBit, byte, rest, written, UInt8.toNat_ofNat', Nat.testBit_mod_two_pow,
      decide_eq_true small, Bool.true_and, Nat.testBit_shiftRight, back, Nat.testBit_and, mask,
      Bool.and_true, moved]

section

variable {chain : Chain} {count : Nat}

def scanWords (chain : Chain) (count : Nat) : List UInt16 :=
  chainWords true chain ((count - 1) / 16) ++ [outAfter chain count]

lemma scanWords_getD {word} (inside : word ≤ (count - 1) / 16) (some_ : 0 < count) :
    (scanWords chain count).getD word 0 = outAfter chain (min (16 * (word + 1)) count) := by
  rw [scanWords, chainWords]
  rcases Nat.lt_or_eq_of_le inside with earlier | rfl
  · have whole : min (16 * (word + 1)) count = 16 * (word + 1) := by omega
    rw [getD_append _ _ _ _ (by simpa using earlier), whole]
    simp [getD_eq_getElem?_getD, earlier]
  · have all : min (16 * ((count - 1) / 16 + 1)) count = count := by omega
    rw [all]
    simp

lemma delivered_bit (outbuf) {i} (inside : i / 16 ≤ (count - 1) / 16)
    (some_ : 0 < count) (enough : 16 ≤ i % 16 + min (16 * (i / 16 + 1)) count) :
    dataBit (store outbuf 0 ((scanWords chain count).flatMap callerBytes)) i =
      chain.coming (i % 16 + min (16 * (i / 16 + 1)) count - 16) := by
  have length : (scanWords chain count).length = (count - 1) / 16 + 1 := by
    simp [scanWords, chainWords]
  have within : i < 16 * (scanWords chain count).length := by
    omega
  rw [dataBit_delivered _ _ within, scanWords_getD inside some_,
    outAfter_testBit _ _ (Nat.mod_lt _ (by decide)), if_pos enough]

lemma realigned_bit (outbuf) {nbuf extra i} (little : extra ≤ 1) (inside : i ≤ nbuf) :
    dataBit (realign (store outbuf 0
        ((scanWords chain (nbuf + extra)).flatMap callerBytes)) nbuf) i =
      if i / 16 = nbuf / 16 then decide (i < nbuf) && chain.coming (i + extra)
      else chain.coming i := by
  by_cases last : i / 16 = nbuf / 16
  · have place : i = 16 * (nbuf / 16) + i % 16 := by omega
    have small : i % 16 < 16 := Nat.mod_lt _ (by decide)
    have moved := realign_last
      (store outbuf 0 ((scanWords chain (nbuf + extra)).flatMap callerBytes)) nbuf small
    rw [← place] at moved
    rw [if_pos last, moved]
    by_cases real : i < nbuf
    · have fits : 16 - nbuf % 16 + i % 16 < 16 := by omega
      have word : (16 * (nbuf / 16) + (16 - nbuf % 16 + i % 16)) / 16 = nbuf / 16 := by omega
      have rest : (16 * (nbuf / 16) + (16 - nbuf % 16 + i % 16)) % 16 =
          16 - nbuf % 16 + i % 16 := by omega
      have source : 16 - nbuf % 16 + i % 16 + min (16 * (nbuf / 16 + 1)) (nbuf + extra) - 16 =
          i + extra := by omega
      rw [decide_eq_true fits, decide_eq_true real,
        delivered_bit _ (by omega) (by omega) (by omega), rest, word, source]
    · have beyond : ¬ 16 - nbuf % 16 + i % 16 < 16 := by omega
      rw [decide_eq_false beyond, decide_eq_false real, Bool.false_and, Bool.false_and]
  · have source : i % 16 + min (16 * (i / 16 + 1)) (nbuf + extra) - 16 = i := by omega
    rw [if_neg last, realign_other _ _ last, delivered_bit _ (by omega) (by omega) (by omega),
      source]

lemma whole_bit (outbuf) {nbuf extra i} (even : nbuf % 16 = 0) (some_ : 0 < nbuf)
    (inside : i < nbuf + extra) (little : extra ≤ 1) :
    dataBit (store outbuf 0 ((scanWords chain (nbuf + extra)).flatMap callerBytes)) i =
      if i < nbuf then chain.coming i else chain.coming (nbuf - 15) := by
  by_cases real : i < nbuf
  · have source : i % 16 + min (16 * (i / 16 + 1)) (nbuf + extra) - 16 = i := by omega
    rw [if_pos real, delivered_bit _ (by omega) (by omega) (by omega), source]
  · have source : i % 16 + min (16 * (i / 16 + 1)) (nbuf + extra) - 16 = nbuf - 15 := by omega
    rw [if_neg real, delivered_bit _ (by omega) (by omega) (by omega), source]

def alignedBit (coming : Nat → Bool) (nbuf extra i : Nat) : Bool :=
  if nbuf % 16 = 0 then if i < nbuf then coming i else coming (nbuf - 15)
  else if i / 16 = nbuf / 16 then decide (i < nbuf) && coming (i + extra)
  else coming i

lemma aligned_bit (outbuf) {nbuf extra i} (some_ : 0 < nbuf) (little : extra ≤ 1)
    (inside : i < nbuf + extra) :
    let read := store outbuf 0 ((scanWords chain (nbuf + extra)).flatMap callerBytes)
    dataBit (if nbuf % 16 ≠ 0 then realign read nbuf else read) i =
      alignedBit chain.coming nbuf extra i := by
  intro read
  rw [alignedBit]
  by_cases even : nbuf % 16 = 0
  · rw [if_neg (not_not.2 even), if_pos even, whole_bit _ even some_ inside little]
  · rw [if_pos even, if_neg even, realigned_bit _ little (by omega)]

end

section

variable {request : Request} {chain : Chain}

/-- When the bits that are asked for come out of a path in the place where they are looked for. -/
def Request.Aligned (request : Request) (coming : Nat → Bool) : Prop :=
  let nbuf := request.nbuf.toNat
  if request.dev = 5 then
    if nbuf % 16 = 0 then coming nbuf = coming (nbuf - 15)
    else ∀ i, 1 ≤ i → 16 * (nbuf / 16) ≤ i → i ≤ nbuf → coming i = false
  else if request.dev = 6 then
    nbuf % 16 ≠ 0 → ∀ i, 16 * (nbuf / 16) ≤ i → i < nbuf → coming i = coming (i + 1)
  else True

def Request.Returned (request : Request) (coming : Nat → Bool) (outbuf : Nat → UInt8) : Prop :=
  ∀ i < request.nbuf.toNat, dataBit outbuf i = coming (i + request.bypass.dataTail)

def Request.delivered (request : Request) (chain : Chain) : Nat → UInt8 :=
  store request.outbuf 0 ((scanWords chain request.nbufU).flatMap callerBytes)

lemma returned_direct (direct : ¬ request.headtail = true) (reads : request.irdsnd &&& 3 = 3) :
    request.Returned chain.coming (request.received (request.delivered chain)) := by
  have bypass := bypass_direct direct
  have sizes : request.nbufU = request.nbuf.toNat + 0 := by rw [Request.nbufU, bypass]; rfl
  have around : ¬ (request.headtail = true ∧ 0 < request.nbuf.toNat) := fun both => direct both.1
  intro i inside
  rw [Request.received, if_pos reads, if_neg around, Request.delivered, sizes,
    aligned_bit _ (by omega) (by decide) (by omega), bypass, alignedBit]
  simp [inside]

lemma zero_below {coming : Nat → Bool} {first last}
    (next : ∀ i, first ≤ i → i ≤ last → coming i = (decide (i < last) && coming (i + 1))) :
    ∀ i, first ≤ i → i ≤ last → coming i = false := by
  intro i above below
  obtain ⟨left, reaches⟩ := Nat.exists_eq_add_of_le below
  induction left generalizing i with
  | zero =>
    have ends : ¬ i < last := by omega
    rw [next i above below, decide_eq_false ends, Bool.false_and]
  | succ left ih =>
    rw [next i above below, ih (i + 1) (by omega) (by omega) (by omega), Bool.and_false]

lemma returned_before (some_ : 0 < request.nbuf) (path : request.dev = 5)
    (reads : request.irdsnd &&& 3 = 3) :
    request.Returned chain.coming (request.received (request.delivered chain)) ↔
      request.Aligned chain.coming := by
  have around : request.headtail = true ∧ 0 < request.nbuf.toNat := by
    refine ⟨?_, by omega⟩
    rw [Request.headtail, path]
    rfl
  have bypass : request.bypass = ⟨0, 5, 0, 1⟩ := by rw [Request.bypass, if_pos path]
  have head : request.bypass.dataHead = 0 := by rw [bypass]
  have tail : request.bypass.dataTail = 1 := by rw [bypass]
  have sizes : request.nbufU = request.nbuf.toNat + 1 := by rw [Request.nbufU, head, tail]
  have bits : ∀ i < request.nbuf.toNat,
      dataBit (request.received (request.delivered chain)) i =
        alignedBit chain.coming request.nbuf.toNat 1 (i + 1) := by
    intro i inside
    rw [Request.received, if_pos reads, if_pos around, tail, cutHeadtail_bit _ (by decide) (by omega) (by omega), Request.delivered, sizes]
    exact aligned_bit _ (by omega) (Nat.le_refl 1) (by omega)
  rw [Request.Returned, Request.Aligned, if_pos path, tail]
  by_cases whole : request.nbuf.toNat % 16 = 0
  · simp only [if_pos whole, alignedBit] at bits ⊢
    constructor
    · intro returned
      have last := returned (request.nbuf.toNat - 1) (by omega)
      have place : request.nbuf.toNat - 1 + 1 = request.nbuf.toNat := by omega
      rw [bits _ (by omega), place, if_neg (Nat.lt_irrefl _)] at last
      exact last.symm
    · intro same i inside
      rw [bits i inside]
      by_cases inner : i + 1 < request.nbuf.toNat
      · rw [if_pos inner]
      · have place : i + 1 = request.nbuf.toNat := by omega
        rw [if_neg inner, place, same]
  · simp only [if_neg whole, alignedBit] at bits ⊢
    constructor
    · intro returned i first last above
      refine @zero_below chain.coming (max 1 (16 * (request.nbuf.toNat / 16))) request.nbuf.toNat
        (fun j low high => ?_) i (by omega) above
      have place : j - 1 + 1 = j := by omega
      have word : j / 16 = request.nbuf.toNat / 16 := by omega
      have same := returned (j - 1) (by omega)
      rw [bits _ (by omega), place, if_pos word] at same
      exact same.symm
    · intro zeros i inside
      rw [bits i inside]
      by_cases word : (i + 1) / 16 = request.nbuf.toNat / 16
      · have here := zeros (i + 1) (by omega) (by omega) (by omega)
        rw [if_pos word, here]
        by_cases inner : i + 1 < request.nbuf.toNat
        · rw [zeros (i + 1 + 1) (by omega) (by omega) (by omega), Bool.and_false]
        · rw [decide_eq_false inner, Bool.false_and]
      · rw [if_neg word]

lemma returned_behind (some_ : 0 < request.nbuf) (path : request.dev = 6)
    (reads : request.irdsnd &&& 3 = 3) :
    request.Returned chain.coming (request.received (request.delivered chain)) ↔
      request.Aligned chain.coming := by
  have around : request.headtail = true ∧ 0 < request.nbuf.toNat := by
    refine ⟨?_, by omega⟩
    rw [Request.headtail, path]
    rfl
  have other : request.dev ≠ 5 := by rw [path]; decide
  have bypass : request.bypass = ⟨8, 0, 1, 0⟩ := by
    rw [Request.bypass, if_neg other, if_pos path]
  have head : request.bypass.dataHead = 1 := by rw [bypass]
  have tail : request.bypass.dataTail = 0 := by rw [bypass]
  have sizes : request.nbufU = request.nbuf.toNat + 1 := by rw [Request.nbufU, head, tail]
  have bits : ∀ i < request.nbuf.toNat,
      dataBit (request.received (request.delivered chain)) i =
        alignedBit chain.coming request.nbuf.toNat 1 i := by
    intro i inside
    -- nothing is cut where there is no tail
    rw [Request.received, if_pos reads, if_pos around, tail, Request.delivered, sizes]
    exact aligned_bit _ (by omega) (Nat.le_refl 1) (by omega)
  rw [Request.Returned, Request.Aligned, if_neg other, if_pos path, tail]
  simp only [Nat.add_zero]
  by_cases whole : request.nbuf.toNat % 16 = 0
  · refine iff_of_true (fun i inside => ?_) fun odd => absurd whole odd
    rw [bits i inside, alignedBit, if_pos whole, if_pos inside]
  · have aligned : ∀ i < request.nbuf.toNat,
        alignedBit chain.coming request.nbuf.toNat 1 i =
          if 16 * (request.nbuf.toNat / 16) ≤ i then chain.coming (i + 1) else chain.coming i := by
      intro i inside
      rw [alignedBit, if_neg whole]
      by_cases word : 16 * (request.nbuf.toNat / 16) ≤ i
      · rw [if_pos word, if_pos (by omega), decide_eq_true inside, Bool.true_and]
      · rw [if_neg word, if_neg (by omega)]
    constructor
    · intro returned _ i word inside
      have same := returned i inside
      rw [bits i inside, aligned i inside, if_pos word] at same
      exact same.symm
    · intro next i inside
      rw [bits i inside, aligned i inside]
      by_cases word : 16 * (request.nbuf.toNat / 16) ≤ i
      · rw [if_pos word, next whole i word inside]
      · rw [if_neg word]

lemma returned_iff (some_ : 0 < request.nbuf) (reads : request.irdsnd &&& 3 = 3) :
    request.Returned chain.coming (request.received (request.delivered chain)) ↔
      request.Aligned chain.coming := by
  by_cases before : request.dev = 5
  · exact returned_before some_ before reads
  · by_cases behind : request.dev = 6
    · exact returned_behind some_ behind reads
    · have direct : ¬ request.headtail = true := by simp [Request.headtail, before, behind]
      refine iff_of_true (returned_direct direct reads) ?_
      rw [Request.Aligned, if_neg before, if_neg behind]
      trivial

end

section

variable {theSlot : Nat} {driven : Driven Chain} {request : Request}

lemma daqmbDev_valid (device : request.dev ≤ 6) : request.daqmbDev ≤ 0xF := by
  rw [Request.daqmbDev]
  split <;> omega

def Request.commandWrite (request : Request) (theSlot : Nat) (chain : Chain) : Chain :=
  chain.write theSlot
    ((Ohio.mk theSlot request.daqmbDev).addI ||| ((request.ncmdU - 1) <<< 8))
    (Ohio.wordAt request.cmdU 0)

lemma transfer_command (device : request.dev ≤ 6) (some_ : 0 < request.ncmd)
    (silent : driven.outstanding = []) :
    transfer (chainBus theSlot) driven
      ((Ohio.mk theSlot request.daqmbDev).jtagOhio request.cmdU false false 0 request.ncmdU)
      request.outbuf =
      (⟨request.commandWrite theSlot driven.boards, [], []⟩, request.outbuf) := by
  have valid := daqmbDev_valid device
  have positive : 0 < request.ncmdU := by
    rw [Request.ncmdU]
    omega
  have scans : ¬ (0xF < request.daqmbDev ∨ (request.ncmdU : Int) = 0) := by omega
  have notReset : ¬ (request.ncmdU : Int) < 0 := by omega
  rw [transfer, Ohio.jtagOhio, if_neg scans, if_neg notReset]
  simp [Driven.run, Driven.step, Driven.write, Ohio.tiwt, chainBus, silent, Request.commandWrite]

lemma commandWrite_scan (device : request.dev ≤ 6) (some_ : 0 < request.ncmd)
    (fits : request.ncmdU ≤ 16) (chain) :
    request.commandWrite theSlot chain =
      (chain.clock request.ncmdU).finish ⟨request.daqmbDev, .instruction,
        withBypass request.cmd request.ncmd.toNat request.bypass.cmdHead
          request.bypass.cmdTail⟩ := by
  have positive : 0 < request.ncmdU := by
    rw [Request.ncmdU]
    omega
  have last : request.ncmdU - 1 + 1 = request.ncmdU := by omega
  have decoded := decodes (Ohio.mk theSlot request.daqmbDev) (daqmbDev_valid device)
    (by decide : 0x1C < 256) (by omega : request.ncmdU - 1 < 16)
  rw [last] at decoded
  have word := bitsOf_word request.cmdU 0 fits
  rw [Nat.zero_add, cmdU_bits some_] at word
  rw [Request.commandWrite]
  refine (write_instruction decoded).trans ?_
  exact congrArg (fun bits => Chain.finish _ ⟨request.daqmbDev, .instruction, bits⟩) word

lemma addI_low (ohio : Ohio) (count) : (ohio.addI ||| (count <<< 8)) % 256 = 0x1C := by
  have base : ohio.addI % 2 ^ 8 = 0x1C := by
    rw [Ohio.addI, Ohio.vmeBase]
    omega
  have shifted : (count <<< 8) % 2 ^ 8 = 0 := by
    omega
  have power : (256 : Nat) = 2 ^ 8 := rfl
  rw [power, Nat.or_mod_two_pow, base, shifted]
  rfl

lemma commandWrite_short (chain) :
    (request.commandWrite theSlot chain).scans = chain.scans ∨
      ∃ scan : ChainScan, scan.bits.length ≤ 16 ∧
        (request.commandWrite theSlot chain).scans = chain.scans ++ [scan] := by
  have low := addI_low (Ohio.mk theSlot request.daqmbDev) (request.ncmdU - 1)
  rw [Request.commandWrite, Chain.write]
  split
  · exact .inl rfl
  · rw [low]
    refine .inr ⟨_, ?_, rfl⟩
    simp only [lowBits, length_map, length_range]
    omega

lemma transfer_data (device : request.dev ≤ 6) (some_ : 0 < request.nbuf) (outbuf) :
    let after := afterShift ⟨theSlot, request.daqmbDev⟩ request.inbufU request.reads request.now
      request.nbufU { driven with delivered := [] }
    transfer (chainBus theSlot) driven
      ((Ohio.mk theSlot request.daqmbDev).jtagOhio request.inbufU request.reads request.now 1
        request.nbufU) outbuf =
      (after, store outbuf 0 (after.delivered.flatMap callerBytes)) := by
  have valid := daqmbDev_valid device
  have positive : 0 < request.nbufU := by
    rw [Request.nbufU]
    omega
  have scans : ¬ (0xF < request.daqmbDev ∨ (request.nbufU : Int) = 0) := by omega
  have shifted := @shift_shiftData ⟨theSlot, request.daqmbDev⟩ request.inbufU request.reads
    request.now { driven with delivered := [] } valid _ positive
  rw [transfer, Ohio.jtagOhio, if_neg scans, if_neg (by decide), if_pos rfl, Int.toNat_natCast]
  rw [Driven.shift] at shifted
  rw [shifted]

namespace Request

variable (request : Request)

def commandScan : List ChainScan :=
  if 0 < request.ncmd then
    [⟨request.daqmbDev, .instruction,
      withBypass request.cmd request.ncmd.toNat request.bypass.cmdHead request.bypass.cmdTail⟩]
  else []

def dataScan : ChainScan :=
  ⟨request.daqmbDev, .data,
    withBypass request.inbuf request.nbuf.toNat request.bypass.dataHead request.bypass.dataTail⟩

def comingBehind (chain : Chain) : Nat → Bool :=
  if 0 < request.ncmd then (chain.clock request.ncmdU).coming else chain.coming

/-- The command and the data have been sent with the bits for the bypassed devices, and the bits of
the addressed device returned. -/
structure Accessed (chain : Chain) (after : Driven Chain × (Nat → UInt8)) : Prop where
  scans : after.1.boards.scans = chain.scans ++ request.commandScan ++ [request.dataScan]
  settled : after.1.boards.shifting = none
  returned : request.irdsnd &&& 3 = 3 →
    request.Returned (request.comingBehind chain) after.2

end Request

def Request.behindCommand (request : Request) (theSlot : Nat) (chain : Chain) : Chain :=
  if 0 < request.ncmd then request.commandWrite theSlot chain else chain

lemma command_first (device : request.dev ≤ 6) (some_ : 0 < request.nbuf)
    (silent : driven.outstanding = []) :
    ∃ delivered, (if 0 < request.ncmd then
        transfer (chainBus theSlot) driven
          ((Ohio.mk theSlot request.daqmbDev).jtagOhio request.cmdU false
            (request.nbuf ≤ 0 && request.now) 0 request.ncmdU) request.outbuf
      else (driven, request.outbuf)) =
      (⟨request.behindCommand theSlot driven.boards, [], delivered⟩, request.outbuf) := by
  have later : (decide (request.nbuf ≤ 0) && request.now) = false := by
    rw [decide_eq_false (by omega), Bool.false_and]
  rw [later, Request.behindCommand]
  by_cases command : 0 < request.ncmd
  · rw [if_pos command, if_pos command]
    exact ⟨[], transfer_command device command silent⟩
  · rw [if_neg command, if_neg command]
    exact ⟨driven.delivered, by rw [← silent]⟩

lemma read_now (reads : request.irdsnd &&& 3 = 3) :
    request.reads = true ∧ request.now = true := by
  have bit : ∀ place < 2, request.irdsnd.testBit place = true := by
    intro place inside
    have both := congrArg (Nat.testBit · place) reads
    have three : (3 : Nat).testBit place = true := by
      have each : ∀ bit < 2, (3 : Nat).testBit bit = true := by decide
      exact each place inside
    simp only [Nat.testBit_and, three, Bool.and_true] at both
    exact both
  exact ⟨bit 1 (by decide), bit 0 (by decide)⟩

lemma afterShift_boards (chain) (some_ : 0 < request.nbuf) (outstanding delivered) :
    (afterShift ⟨theSlot, request.daqmbDev⟩ request.inbufU request.reads request.now request.nbufU
      ⟨chain, outstanding, delivered⟩).boards =
      (chain.clock request.nbufU).finish request.dataScan := by
  have bits := inbufU_bits some_
  rw [Request.dataScan, ← bits]
  cases request.now <;> rfl

lemma daqmbDo_eq (device : 1 ≤ request.dev ∧ request.dev ≤ 6) (command : 0 ≤ request.ncmd)
    (some_ : 0 < request.nbuf) (silent : driven.outstanding = []) :
    ∃ delivered : List UInt16, ∃ after : Driven Chain,
      daqmbDo (chainBus theSlot) theSlot driven request =
        (after, request.received (store request.outbuf 0 (delivered.flatMap callerBytes))) ∧
      after.boards = ((request.behindCommand theSlot driven.boards).clock request.nbufU).finish
        request.dataScan ∧
      (request.irdsnd &&& 3 = 3 →
        delivered = scanWords (request.behindCommand theSlot driven.boards) request.nbufU) := by
  obtain ⟨earlier, first⟩ := @command_first theSlot driven request device.2 some_ silent
  rw [daqmbDo, if_neg (by omega), if_neg (by omega)]
  dsimp only
  rw [if_neg (by omega), first]
  rw [if_pos some_, transfer_data device.2 some_]
  refine ⟨_, _, rfl, afterShift_boards _ some_ [] [], fun reads => ?_⟩
  obtain ⟨read, now⟩ := read_now reads
  rw [read, now]
  rfl

lemma accessed_iff (device : 1 ≤ request.dev ∧ request.dev ≤ 6) (command : 0 ≤ request.ncmd)
    (some_ : 0 < request.nbuf) (silent : driven.outstanding = []) :
    request.Accessed driven.boards (daqmbDo (chainBus theSlot) theSlot driven request) ↔
      (0 < request.ncmd → request.ncmdU ≤ 16) ∧
      (request.irdsnd &&& 3 = 3 → request.Aligned (request.comingBehind driven.boards)) := by
  obtain ⟨delivered, after, result, boards, words⟩ :=
    @daqmbDo_eq theSlot driven request device command some_ silent
  have scans : after.boards.scans =
      (request.behindCommand theSlot driven.boards).scans ++ [request.dataScan] := by
    rw [boards]
    rfl
  by_cases fits : 0 < request.ncmd → request.ncmdU ≤ 16
  · have behind : (request.behindCommand theSlot driven.boards).scans =
        driven.boards.scans ++ request.commandScan ∧
        (request.behindCommand theSlot driven.boards).coming =
          request.comingBehind driven.boards := by
      rw [Request.behindCommand, Request.commandScan, Request.comingBehind]
      by_cases sent : 0 < request.ncmd
      · rw [if_pos sent, if_pos sent, if_pos sent, commandWrite_scan device.2 sent (fits sent)]
        exact ⟨rfl, rfl⟩
      · rw [if_neg sent, if_neg sent, if_neg sent, append_nil]
        exact ⟨rfl, rfl⟩
    have returned : request.irdsnd &&& 3 = 3 →
        (request.Returned (request.comingBehind driven.boards)
          (request.received (store request.outbuf 0 (delivered.flatMap callerBytes))) ↔
          request.Aligned (request.comingBehind driven.boards)) := by
      intro reads
      rw [words reads, ← behind.2]
      exact returned_iff some_ reads
    rw [result]
    constructor
    · intro accessed
      exact ⟨fits, fun reads => (returned reads).1 (accessed.returned reads)⟩
    · rintro ⟨_, aligned⟩
      refine ⟨?_, ?_, fun reads => (returned reads).2 (aligned reads)⟩
      · rw [scans, behind.1]
      · rw [boards]
        rfl
  · refine iff_of_false (fun accessed => ?_) fun both => fits both.1
    obtain ⟨sent, long⟩ := Classical.not_imp.1 fits
    have equal := accessed.scans
    rw [result, scans, Request.behindCommand, if_pos sent, Request.commandScan, if_pos sent,
      append_assoc] at equal
    have lengths := congrArg List.length equal
    rcases @commandWrite_short theSlot request driven.boards with same | ⟨scan, short, more⟩
    · rw [same] at lengths
      simp at lengths
    · rw [more, append_assoc] at equal
      have scanned := append_cancel_left equal
      have first := (List.cons.inj scanned).1
      have length := congrArg (fun one : ChainScan => one.bits.length) first
      simp only [withBypass, bitsOf, length_append, length_replicate, length_map,
        length_range] at length
      rw [Request.ncmdU] at long
      omega

end

section

variable {port : LitePort} {theSlot : Nat} {driven : Driven Device}

namespace Request

variable (request : Request)

def commandClocks : List (Bool × Bool) :=
  if 0 < request.ncmd then
    entry .instruction ++ lastRaised (bitsOf request.cmd request.ncmd.toNat) ++ leaving
  else []

def commandActions : List Action :=
  if 0 < request.ncmd then scan .instruction (bitsOf request.cmd request.ncmd.toNat) else []

def dataBits : List Bool := bitsOf request.inbuf request.nbuf.toNat

/-- The device has gone from idle to idle through a scan of the command and one of the data, and
the bits that it put out during the data are returned. -/
structure Scanned (port : LitePort) (device : Device) (after : Driven Device × (Nat → UInt8)) :
    Prop where
  idle : after.1.boards.tap = .runTestIdle
  log : after.1.boards.log = device.log ++ request.commandActions ++ scan .data request.dataBits
  returned : request.reads = true → ∀ i < request.nbuf.toNat, dataBit after.2 i =
    ((readings port (device.clocks port.loaded (request.commandClocks ++ entry .data))
      (lastRaised request.dataBits)).map fun word => word.toNat.testBit 0).getD i false
  unread : request.reads = false → after.2 = request.outbuf

structure CommandMade (port : LitePort) (driven : Driven Device)
    (after : Driven Device × (Nat → UInt8)) : Prop where
  idle : after.1.boards.tap = .runTestIdle
  low : after.1.boards.tck = false
  log : after.1.boards.log = driven.boards.log ++ request.commandActions
  clocked : after.1.boards = driven.boards.clocks port.loaded request.commandClocks
  silent : after.1.outstanding = []
  unread : after.2 = request.outbuf

end Request

variable {request : Request}

lemma command_made (command : 0 ≤ request.ncmd) (silent : driven.outstanding = [])
    (low : driven.boards.tck = false) (idle : driven.boards.tap = .runTestIdle) :
    request.CommandMade port driven
      (if 0 < request.ncmd then
        jtagLite port.bus driven port.ptr 0 request.cmd request.ncmd request.outbuf false
      else (driven, request.outbuf)) := by
  by_cases sent : 0 < request.ncmd
  · have count : ((request.ncmd.toNat : Nat) : Int) = request.ncmd := Int.toNat_of_nonneg command
    have scanned := jtagLite_scanned port driven (by decide : 0 ≤ 1)
      (by omega : 0 < request.ncmd.toNat) request.cmd request.outbuf false silent low idle
    rw [count] at scanned
    rw [if_pos sent]
    refine ⟨scanned.idle, scanned.low, ?_, ?_, scanned.silent, scanned.unread rfl⟩
    · rw [scanned.log, Request.commandActions, if_pos sent]
      rfl
    · rw [scanned.clocked, Request.commandClocks, if_pos sent]
      rfl
  · rw [if_neg sent]
    refine ⟨idle, low, ?_, ?_, silent, rfl⟩
    · rw [Request.commandActions, if_neg sent, append_nil]
    · rw [Request.commandClocks, if_neg sent]
      rfl

lemma discreteLogic_scanned (register : port.ptr = discretePtr theSlot)
    (command : 0 ≤ request.ncmd) (some_ : 0 < request.nbuf) (silent : driven.outstanding = [])
    (low : driven.boards.tck = false) (idle : driven.boards.tap = .runTestIdle) :
    request.Scanned port driven.boards (discreteLogic port.bus theSlot driven request) := by
  have made := @command_made port driven request command silent low idle
  rw [discreteLogic, if_neg (by omega), ← register]
  generalize (if 0 < request.ncmd then
    jtagLite port.bus driven port.ptr 0 request.cmd request.ncmd request.outbuf false
    else (driven, request.outbuf)) = commanded at made ⊢
  obtain ⟨found, outbuf⟩ := commanded
  have count : ((request.nbuf.toNat : Nat) : Int) = request.nbuf :=
    Int.toNat_of_nonneg (Int.le_of_lt some_)
  have scanned := jtagLite_scanned port found (by decide : 1 ≤ 1)
    (by omega : 0 < request.nbuf.toNat) request.inbuf outbuf request.reads made.silent made.low
    made.idle
  rw [count] at scanned
  have length : (bitsOf request.inbuf request.nbuf.toNat).length = request.nbuf.toNat := by
    rw [bitsOf, length_map, length_range]
  have entered : found.boards.clocks port.loaded (entry .data) =
      driven.boards.clocks port.loaded (request.commandClocks ++ entry .data) := by
    have clocked : found.boards = _ := made.clocked
    rw [clocked]
    simp only [Device.clocks, foldl_append]
  dsimp only
  rw [if_pos some_]
  refine ⟨scanned.idle, ?_, fun reads i inside => ?_, fun reads => ?_⟩
  · rw [scanned.log]
    exact congrArg (· ++ _) made.log
  · rw [scanned.readBack reads i (by rw [length]; exact inside)]
    exact congrArg (fun device =>
      ((readings port device (lastRaised request.dataBits)).map fun word =>
        word.toNat.testBit 0).getD i false) entered
  · rw [scanned.unread reads]
    exact made.unread

end

lemma daqmbDo_discrete {Boards} (bus : Bus Boards) (theSlot driven)
    {request} (device : request.dev = 0) :
    daqmbDo bus theSlot driven request = discreteLogic bus theSlot driven request := by
  rw [daqmbDo, if_neg (by omega), if_pos device]

/-- The discrete logic is always accessed as it should be. Behind the chain a command has to fit in
a word with the bits for the bypassed devices, and the last word that is read has to be right at
the place that the number of bits without those leads to. -/
theorem daqmb_do_iff (request : Request) (theSlot : Nat) (command : 0 ≤ request.ncmd)
    (some_ : 0 < request.nbuf) :
    (request.dev = 0 → ∀ (port : LitePort) (driven : Driven Device),
      port.ptr = discretePtr theSlot → driven.outstanding = [] → driven.boards.tck = false →
      driven.boards.tap = .runTestIdle →
      request.Scanned port driven.boards (daqmbDo port.bus theSlot driven request)) ∧
    (1 ≤ request.dev ∧ request.dev ≤ 6 → ∀ driven : Driven Chain, driven.outstanding = [] →
      (request.Accessed driven.boards (daqmbDo (chainBus theSlot) theSlot driven request) ↔
        (0 < request.ncmd → request.ncmdU ≤ 16) ∧
        (request.irdsnd &&& 3 = 3 → request.Aligned (request.comingBehind driven.boards)))) := by
  constructor
  · intro discrete port driven register silent low idle
    rw [daqmbDo_discrete port.bus theSlot driven discrete]
    exact discreteLogic_scanned register command some_ silent low idle
  · intro device driven silent
    exact accessed_iff device command some_ silent

def promBit : Request where
  ncmd := 8
  cmd := fun _ => 0xFE
  nbuf := 1
  inbuf := fun _ => 0
  outbuf := fun _ => 0
  irdsnd := 3
  dev := 5

def allOnes : Driven Chain where
  boards := ⟨[], none, 0, fun _ => true⟩
  outstanding := []
  delivered := []

theorem daqmb_do_iff_promBit :
    promBit.Accessed allOnes.boards (daqmbDo (chainBus 3) 3 allOnes promBit) ↔
      (0 < promBit.ncmd → promBit.ncmdU ≤ 16) ∧
      (promBit.irdsnd &&& 3 = 3 → promBit.Aligned (promBit.comingBehind allOnes.boards)) :=
  (daqmb_do_iff promBit 3 (by decide) (by decide)).2 (by decide) allOnes rfl

theorem realigned_away : ¬ ∀ (theSlot : Nat) (driven : Driven Chain) (request : Request),
    1 ≤ request.dev ∧ request.dev ≤ 6 → 0 ≤ request.ncmd → request.ncmdU ≤ 16 →
    0 < request.nbuf → driven.outstanding = [] →
    request.Accessed driven.boards (daqmbDo (chainBus theSlot) theSlot driven request) := by
  intro always
  have accessed := always 3 allOnes promBit (by decide) (by decide) (by decide) (by decide) rfl
  have iff := @accessed_iff 3 allOnes promBit (by decide) (by decide) (by decide) rfl
  have aligned := (iff.1 accessed).2 (by decide)
  have zero : (true : Bool) = false := aligned 1 (by decide) (by decide) (by decide)
  cases zero

end EmuLib.DaqmbJtag
