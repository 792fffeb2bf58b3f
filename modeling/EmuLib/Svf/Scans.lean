import EmuLib.Svf.Files

/-!
What a file means, the scans that the players send for it, and what they compare.
-/

namespace EmuLib.Svf

open Lines TapController VmeController List Function

abbrev Frames := Part → Nat × Nat

def Frames.start : Frames := fun _ => (0, 0)

def Statement.scan (statement : Statement) (register : Register) (frames : Frames) : Scan where
  register := register
  bits := valueBits (frames (headerOf register)).1 (frames (headerOf register)).2 ++
    valueBits statement.nbits (statement.content .tdi) ++
    valueBits (frames (trailerOf register)).1 (frames (trailerOf register)).2

def Statement.Fits (statement : Statement) (register : Register) (frames : Frames) : Prop :=
  (frames (headerOf register)).1 + statement.nbits + (frames (trailerOf register)).1 + 7 ≤ 8400

def Statement.Agrees (statement : Statement) (observed : Nat → Bool) : Prop :=
  statement.given .tdo = true → ∀ i < statement.nbits,
    (statement.content .mask).testBit i = true → observed i = (statement.content .tdo).testBit i

namespace Item

variable (frames : Frames)

def after : Item → Frames
  | part kind statement _ =>
    update frames kind (statement.nbits, statement.content .tdi)
  | other _ => frames
  | scan _ _ _ _ _ => frames

def scans : Item → List Scan
  | scan register statement _ _ _ => [statement.scan register frames]
  | other _ => []
  | part _ _ _ => []

def Fits : Item → Prop
  | scan register statement _ _ _ => statement.Fits register frames
  | other _ => True
  | part _ _ _ => True

def Masked : Item → Prop
  | scan _ statement _ _ _ => statement.given .tdo = true → statement.given .mask = true
  | other _ => True
  | part _ _ _ => True

def Agrees (observed : List Scan → Nat → Nat → Bool) (sent : List Scan) : Item → Prop
  | scan register statement _ _ _ => statement.Agrees
      (observed (sent ++ [statement.scan register frames]) (frames (headerOf register)).1)
  | other _ => True
  | part _ _ _ => True

end Item

def scansOf : List Item → Frames → List Scan
  | [], _ => []
  | item :: rest, frames => item.scans frames ++ scansOf rest (item.after frames)

def FileFits : List Item → Frames → Prop
  | [], _ => True
  | item :: rest, frames => item.Fits frames ∧ FileFits rest (item.after frames)

def FileAgrees (observed : List Scan → Nat → Nat → Bool) :
    List Item → Frames → List Scan → Prop
  | [], _, _ => True
  | item :: rest, frames, sent => item.Agrees frames observed sent ∧
      FileAgrees observed rest (item.after frames) (sent ++ item.scans frames)

section

variable (player : Player) (chain : Chain)

/-- The player compares what it reads: for `svfLoad`, that is asked for. -/
def Player.Verifies : Prop :=
  match player with
  | svfLoad verify => 0 < verify
  | SVFLoad => True

def Player.observed (rcv : Nat → UInt8) (sent : List Scan) (hdrbits i : Nat) : Bool :=
  match player with
  | svfLoad _ => chain.shiftedOut sent (i + hdrbits)
  | SVFLoad => dataBit rcv i

structure Knows (frames : Frames) (loading : Loading) : Prop where
  nbits : ∀ part, (loading.parts part).nbits = (frames part).1
  holds : ∀ part, Holds (loading.parts part).snd (frames part).1 (frames part).2
  small : ∀ part, (frames part).2 < 2 ^ (frames part).1

variable {player chain} {frames : Frames} {loading : Loading} {statement : Statement}
  {given : Given}

lemma knows_start (stack : Stack) : Knows Frames.start stack.start where
  nbits := fun _ => rfl
  holds := by
    intro part i inside
    have none_ : 8 * nbytes (Frames.start part).1 = 0 := by simp [Frames.start, nbytes]
    omega
  small := fun _ => Nat.one_pos

lemma Knows.part (knows : Knows frames loading) (valid : statement.Valid)
    (reads : Reads statement given) (part) {final}
    (parts : final.parts = update loading.parts part
      ⟨statement.nbits, given.buffers .tdi⟩) :
    Knows (update frames part (statement.nbits, statement.content .tdi)) final := by
  have here : ∀ other, (final.parts other).nbits =
      (update frames part (statement.nbits, statement.content .tdi) other).1 ∧
        Holds (final.parts other).snd
          (update frames part (statement.nbits, statement.content .tdi) other).1
          (update frames part (statement.nbits, statement.content .tdi) other).2 ∧
        (update frames part (statement.nbits, statement.content .tdi) other).2 <
          2 ^ (update frames part (statement.nbits, statement.content .tdi) other).1 := by
    intro other
    rw [parts]
    by_cases same : other = part
    · subst same
      rw [update_self, update_self]
      exact ⟨rfl, reads.sends, valid.content_small .tdi⟩
    · rw [update_of_ne same, update_of_ne same]
      exact ⟨knows.nbits other, knows.holds other, knows.small other⟩
  exact ⟨fun other => (here other).1, fun other => (here other).2.1, fun other => (here other).2.2⟩

lemma readBack_bit (sent) {cnt i} (inside : i < cnt) (rcv) :
    dataBit (readBack chain sent cnt rcv) i = chain.shiftedOut sent i := by
  have byte : i / 8 < nbytes cnt := by
    rw [nbytes]
    omega
  have place : 8 * (i / 8) + i % 8 = i := Nat.div_add_mod i 8
  rw [dataBit, readBack, if_pos byte, byteOfBits_testBit _ (Nat.mod_lt _ (by decide)), place,
    decide_eq_true inside, Bool.true_and]

lemma errors_agree (valid : statement.Valid) (reads : Reads statement given)
    (expected : statement.given .tdo = true) (masked : statement.given .mask = true) {rcv observed}
    (received : ∀ i < statement.nbits, dataBit rcv i = observed i) :
    errors (nbytes statement.nbits) rcv (given.buffers .tdo) (given.buffers .mask) = 0 ↔
      statement.Agrees observed := by
  have mask := reads.holds .mask masked
  have tdo := reads.holds .tdo expected
  have selects := mask.clean (valid.content_small .mask)
  rw [errors_zero]
  constructor
  · intro all _ i inside selected
    have byte : i < 8 * nbytes statement.nbits := by
      rw [nbytes]
      omega
    rw [← received i inside, ← tdo.bit inside]
    exact all i byte ((mask.bit inside).trans selected)
  · intro agrees i byte selected
    have inside : i < statement.nbits := by
      by_contra beyond
      rw [selects i (Nat.le_of_not_lt beyond) byte] at selected
      cases selected
    rw [received i inside, tdo.bit inside]
    exact agrees expected i inside ((mask.bit inside).symm.trans selected)

structure Performed (player : Player) (chain : Chain) (frames : Frames) (register : Register)
    (statement : Statement) (loading final : Loading) : Prop where
  parts : final.parts = loading.parts
  sent : final.sent = loading.sent ++ [statement.scan register frames]
  checked : player.Verifies → (statement.given .tdo = true → statement.given .mask = true) →
    (final.errcntr = 0 ↔ loading.errcntr = 0 ∧ statement.Agrees
      (player.observed chain loading.rcv (loading.sent ++ [statement.scan register frames])
        (frames (headerOf register)).1))
  rcv : player = .SVFLoad → final.rcv = loading.rcv

lemma compared_some (player chain sent) {hdrbits nbits cnt} (inside : hdrbits + nbits ≤ cnt)
    (few : cnt + 7 ≤ 8400) (rcv) :
    ∃ seen, compared player chain sent hdrbits nbits cnt rcv = some seen ∧
      (player = .SVFLoad → seen = rcv) ∧
      (player ≠ .SVFLoad → ∀ i < nbits, dataBit seen i = dataBit rcv (i + hdrbits)) := by
  cases player with
  | SVFLoad => exact ⟨rcv, rfl, fun _ => rfl, fun other => absurd rfl other⟩
  | svfLoad verify =>
    have svf : Player.svfLoad verify ≠ .SVFLoad := fun same => by cases same
    by_cases none_ : hdrbits = 0
    · subst none_
      exact ⟨rcv, by rw [compared, if_pos rfl], fun same => absurd same svf, fun _ i _ => rfl⟩
    · have room : ¬((Player.svfLoad verify).bufSize < 8 * nbytes cnt ∨
          (Player.svfLoad verify).bufSize < 8 * nbytes nbits + hdrbits) := by
        rw [Player.bufSize, nbytes, nbytes]
        omega
      refine ⟨removeHeader hdrbits nbits (nbytes cnt) (chain.left sent) rcv, ?_,
        fun same => absurd same svf, fun _ i within => removeHeader_bit _ within ?_⟩
      · rw [compared, if_neg none_, if_neg room]
      · rw [nbytes]
        omega

lemma compares_given (verifies : player.Verifies) (cmpflag) :
    player.compares cmpflag = cmpflag := by
  cases player with
  | SVFLoad => rfl
  | svfLoad verify =>
    have positive : 0 < verify := verifies
    have set : verify ≠ 0 := by omega
    rw [Player.compares, decide_eq_true set, Bool.true_and]

lemma realsnd_scan (knows : Knows frames loading) (valid : statement.Valid)
    (reads : Reads statement given) (register) :
    bitsOf (realsnd (loading.parts (headerOf register)) statement.nbits (given.buffers .tdi)
        (loading.parts (trailerOf register)))
      ((loading.parts (headerOf register)).nbits + statement.nbits +
        (loading.parts (trailerOf register)).nbits) = (statement.scan register frames).bits := by
  have header := knows.nbits (headerOf register)
  have trailer := knows.nbits (trailerOf register)
  have sent := realsnd_bits (header ▸ knows.holds (headerOf register))
    (header ▸ knows.small (headerOf register)) reads.sends (valid.content_small .tdi)
    (trailer ▸ knows.holds (trailerOf register)) (trailer ▸ knows.small (trailerOf register))
  rw [sent, header, trailer]
  rfl

lemma performScan_performed (player chain) (knows : Knows frames loading)
    (valid : statement.Valid)
    (reads : Reads statement given) {register} (fits : statement.Fits register frames) :
    ∃ final, performScan player chain register statement.nbits given loading = some final ∧
      Performed player chain frames register statement loading final := by
  have header := knows.nbits (headerOf register)
  have trailer := knows.nbits (trailerOf register)
  have bits := realsnd_scan knows valid reads register
  rw [Statement.Fits, ← header, ← trailer] at fits
  rw [performScan]
  dsimp only
  rw [bits]
  generalize count : (loading.parts (headerOf register)).nbits + statement.nbits +
    (loading.parts (trailerOf register)).nbits = cnt at fits ⊢
  have short : ¬maxBufSize < nbytes cnt := by
    rw [maxBufSize, nbytes]
    omega
  have within : (loading.parts (headerOf register)).nbits + statement.nbits ≤ cnt := by omega
  rw [if_neg short]
  have scan : (⟨register, (statement.scan register frames).bits⟩ : Scan) =
    statement.scan register frames := rfl
  rw [scan]
  obtain ⟨rcv, received⟩ : ∃ rcv, rcv = if player.readsBack given.cmpflag then
      readBack chain (loading.sent ++ [statement.scan register frames]) cnt loading.rcv
    else loading.rcv := ⟨_, rfl⟩
  rw [← received]
  have silent : player = .SVFLoad → rcv = loading.rcv := by
    rintro rfl
    exact received
  by_cases compares : player.compares given.cmpflag = true
  · obtain ⟨seen, removed, same, moved⟩ := compared_some player chain
      (loading.sent ++ [statement.scan register frames]) within fits rcv
    rw [if_pos compares, removed]
    refine ⟨_, rfl, rfl, rfl, fun verifies masked => ?_, fun svf => (same svf).trans (silent svf)⟩
    have expected : statement.given .tdo = true := by
      rw [compares_given verifies] at compares
      rw [← reads.cmpflag]
      exact compares
    rw [Nat.add_eq_zero_iff]
    refine and_congr_right fun _ => errors_agree valid reads expected (masked expected) ?_
    intro i inside
    cases player with
    | SVFLoad => rw [same rfl, silent rfl, Player.observed]
    | svfLoad verify =>
      have positive : 0 < verify := verifies
      have read : (Player.svfLoad verify).readsBack given.cmpflag = true := by
        rw [Player.readsBack, decide_eq_true positive, reads.cmpflag, expected]
        rfl
      have svf : Player.svfLoad verify ≠ .SVFLoad := fun same => by cases same
      rw [if_pos read] at received
      rw [moved svf i inside, received, readBack_bit _ (by omega), Player.observed, header]
  · rw [if_neg compares]
    refine ⟨_, rfl, rfl, rfl, fun verifies _ => ?_, silent⟩
    have nothing : statement.given .tdo ≠ true := by
      rw [compares_given verifies, reads.cmpflag] at compares
      exact compares
    exact ⟨fun zero => ⟨zero, fun expected => absurd expected nothing⟩, fun both => both.1⟩

end

structure Ran (player : Player) (chain : Chain) (scans : List Scan) (masked agrees : Prop)
    (after : Frames) (loading final : Loading) : Prop where
  knows : Knows after final
  sent : final.sent = loading.sent ++ scans
  checked : player.Verifies → masked → (final.errcntr = 0 ↔ loading.errcntr = 0 ∧ agrees)
  rcv : player = .SVFLoad → final.rcv = loading.rcv

variable (player : Player) (chain : Chain)

lemma item_ran {item : Item} (valid : item.Valid player.bufSize) {frames}
    (fits : item.Fits frames) {loading} (knows : Knows frames loading) :
    ∃ final, item.lines.foldlM (turn player chain) (none, loading) = some (none, final) ∧
      Ran player chain (item.scans frames) item.Masked
        (item.Agrees frames (player.observed chain loading.rcv) loading.sent) (item.after frames)
        loading final := by
  cases item with
  | other line =>
    refine ⟨loading, ?_, knows, (append_nil _).symm, ?_, fun _ => rfl⟩
    · rw [Item.lines, foldlM_cons, turn_other player chain valid]
      rfl
    · exact fun _ _ => ⟨fun zero => ⟨zero, trivial⟩, fun both => both.1⟩
  | part kind statement lineEnd =>
    obtain ⟨given, final, reads, turned, parts, sent, errcntr, rcv⟩ :=
      turn_part player chain valid kind lineEnd loading
    refine ⟨final, ?_, knows.part valid reads kind parts, ?_, ?_, fun _ => rcv⟩
    · rw [Item.lines, foldlM_cons, turned]
      rfl
    · exact sent.trans (append_nil _).symm
    · rw [errcntr]
      exact fun _ _ => ⟨fun zero => ⟨zero, trivial⟩, fun both => both.1⟩
  | scan register statement broken last lineEnd =>
    obtain ⟨given, reads, turned⟩ := turn_scan player chain valid loading
    obtain ⟨final, performed, done⟩ :=
      performScan_performed player chain knows valid.valid reads fits
    refine ⟨final, ?_, ?_, done.sent, done.checked, done.rcv⟩
    · rw [turned, performed]
      rfl
    · refine ⟨fun part => ?_, fun part => ?_, knows.small⟩
      · rw [done.parts]
        exact knows.nbits part
      · rw [done.parts]
        exact knows.holds part

lemma items_ran (items) (valid : ∀ item ∈ items, item.Valid player.bufSize) :
    ∀ (frames : Frames) (loading : Loading), FileFits items frames → Knows frames loading →
      ∃ after final, (items.flatMap Item.lines).foldlM (turn player chain) (none, loading) =
          some (none, final) ∧
        Ran player chain (scansOf items frames) (∀ item ∈ items, item.Masked)
          (FileAgrees (player.observed chain loading.rcv) items frames loading.sent) after
          loading final := by
  induction items with
  | nil =>
    intro frames loading _ knows
    refine ⟨frames, loading, rfl, knows, (append_nil _).symm, ?_, fun _ => rfl⟩
    exact fun _ _ => ⟨fun zero => ⟨zero, trivial⟩, fun both => both.1⟩
  | cons item rest ih =>
    intro frames loading fits knows
    obtain ⟨between, turned, one⟩ := item_ran player chain (valid item mem_cons_self) fits.1 knows
    obtain ⟨after, final, more, others⟩ := ih
      (fun other member => valid other (mem_cons_of_mem item member)) (item.after frames)
      between fits.2 one.knows
    refine ⟨after, final, ?_, others.knows, ?_, fun verifies masked => ?_, fun svf =>
      (others.rcv svf).trans (one.rcv svf)⟩
    · rw [flatMap_cons, foldlM_append, turned]
      exact more
    · rw [others.sent, one.sent, append_assoc, scansOf]
    · have first := one.checked verifies (masked item mem_cons_self)
      have later := others.checked verifies fun other member =>
        masked other (mem_cons_of_mem item member)
      have kept : player.observed chain between.rcv = player.observed chain loading.rcv := by
        cases player with
        | SVFLoad => funext sent hdrbits i; rw [one.rcv rfl, Player.observed]
        | svfLoad verify => rfl
      rw [kept, one.sent] at later
      rw [later, first, FileAgrees, and_assoc]

lemma load_ran (stack) {items} (whole : Whole '\n' 255 (items.flatMap Item.lines))
    (valid : ∀ item ∈ items, item.Valid player.bufSize) (fits : FileFits items Frames.start) :
    ∃ outcome, load player chain stack (items.flatMap Item.lines).flatten = some outcome ∧
      outcome.sent = scansOf items Frames.start ∧
      (player.Verifies → (∀ item ∈ items, item.Masked) → (outcome.result = 0 ↔
        FileAgrees (player.observed chain stack.rcv) items Frames.start [])) := by
  obtain ⟨after, final, turned, ran⟩ := items_ran player chain items valid
    Frames.start stack.start fits (knows_start stack)
  refine ⟨⟨final.errcntr, final.sent⟩, ?_, ran.sent, fun verifies masked => ?_⟩
  · rw [load, lines_flatten _ whole, turned]
    rfl
  · have checked := ran.checked verifies masked
    have zero : (final.errcntr : Int) = 0 ↔ final.errcntr = 0 := Int.natCast_eq_zero
    have fresh : stack.start.errcntr = 0 := rfl
    exact zero.trans (checked.trans (and_iff_right fresh))

/-- One scan for each statement, with the bits of the header, of the statement and of the
trailer, however the statement is broken into lines. -/
theorem statements_scanned (stack : Stack) (items : List Item)
    (whole : Whole '\n' 255 (items.flatMap Item.lines))
    (valid : ∀ item ∈ items, item.Valid player.bufSize) (fits : FileFits items Frames.start) :
    (load player chain stack (items.flatMap Item.lines).flatten).map Outcome.sent =
      some (scansOf items Frames.start) := by
  obtain ⟨outcome, loaded, sent, -⟩ := load_ran player chain stack whole valid fits
  rw [loaded, ← sent]
  rfl

def headerStatement : Statement where
  lead := []
  numberGap := [' ']
  number := ['3']
  fields := [⟨[' '], .tdi, [' '], ['0', '5']⟩]
  closing := [' ', ';']

def dataStatement : Statement where
  lead := []
  numberGap := [' ']
  number := ['1', '6']
  fields := [⟨[' '], .tdi, [' '], ['A', 'b', '1', '2']⟩]
  closing := [';']

lemma headerStatement_valid : headerStatement.Valid where
  lead := by decide
  numberGap := by decide
  number := all_eq_true.1 (by decide)
  some_ := by decide
  limit := by decide
  fields := by
    intro value member
    obtain rfl := mem_singleton.1 member
    exact ⟨by decide, by decide, all_eq_true.1 (by decide), by decide, by decide⟩
  once := by decide
  tdi := by decide
  closing := by simp [headerStatement]
  closed := by decide

lemma dataStatement_valid : dataStatement.Valid where
  lead := by decide
  numberGap := by decide
  number := all_eq_true.1 (by decide)
  some_ := by decide
  limit := by decide
  fields := by
    intro value member
    obtain rfl := mem_singleton.1 member
    exact ⟨by decide, by decide, all_eq_true.1 (by decide), by decide, by decide⟩
  once := by decide
  tdi := by decide
  closing := by simp [dataStatement]
  closed := by decide

def sampleFile : List Item :=
  [.part .hdr headerStatement .carriage,
    .scan .data dataStatement [(['S', 'D', 'R', ' ', '1', '6', ' ', 'T', 'D', 'I', ' ', '(', 'A'],
      .carriage)] ['b', '1', '2', ')', ';'] .newline]

def quietChain : Chain := ⟨fun _ _ => false, fun _ _ => false⟩

def clearStack : Stack := ⟨fun _ _ => 0, fun _ => 0, fun _ => 0, fun _ => 0⟩

theorem statements_scanned_broken :
    (load (.svfLoad 1) quietChain clearStack (sampleFile.flatMap Item.lines).flatten).map
      Outcome.sent = some (scansOf sampleFile Frames.start) := by
  refine statements_scanned (.svfLoad 1) quietChain clearStack sampleFile ?_ ?_ ?_
  · refine ⟨by decide, ⟨by decide, ⟨by decide, trivial, ?_⟩, ?_⟩, ?_⟩
    · exact ⟨['b', '1', '2', ')', ';'], by decide, Or.inl rfl⟩
    · exact ⟨['S', 'D', 'R', ' ', '1', '6', ' ', 'T', 'D', 'I', ' ', '(', 'A', '\r'], by decide,
        Or.inl rfl⟩
    · exact ⟨['H', 'D', 'R', ' ', '3', ' ', 'T', 'D', 'I', ' ', '(', '0', '5', ')', ' ', ';', '\r'],
        by decide, Or.inl rfl⟩
  · intro item member
    rcases mem_cons.1 member with rfl | later
    · exact headerStatement_valid
    · obtain rfl := mem_singleton.1 later
      exact ⟨dataStatement_valid, by decide, by decide, by decide, by decide⟩
  · have few : 3 + 16 + 0 + 7 ≤ 8400 := by decide
    exact ⟨trivial, few, trivial⟩

def shortValue : List Char :=
  ['S', 'D', 'R', ' ', '1', '2', ' ', 'T', 'D', 'I', ' ', '(', 'A', 'B', 'C', ')', ';', '\n']

theorem short_misread :
    (VMEModule.svfLoad 0 quietChain clearStack shortValue).map Outcome.sent ≠
        some [⟨.data, valueBits 12 0xABC⟩] ∧
      (EMUjtag.SVFLoad quietChain clearStack shortValue).map Outcome.sent ≠
        some [⟨.data, valueBits 12 0xABC⟩] := by
  decide +kernel

end EmuLib.Svf
