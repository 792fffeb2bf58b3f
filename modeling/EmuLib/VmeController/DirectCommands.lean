import EmuLib.VmeController.Buffering

/-!
The calls on one crate controller, against a crate in which every command is executed at once.
-/

namespace EmuLib.VmeController

open Memory GuardedRun List

section

variable {Boards : Type*}

/-- A crate, the controller, and what was sent and returned so far. -/
structure System (Boards : Type*) where
  state : State
  boards : Boards
  packets : List Packet
  results : List (Int × Option (Nat → UInt8))

def System.start (controller : VMEController) (boards : Boards) : System Boards :=
  ⟨.initial controller, boards, [], []⟩

def Crate.arriving (crate : Crate Boards) (boards : Boards) (packet : Packet) : List Arrival :=
  crate.reply (crate.receive boards packet).2

def System.step (crate : Crate Boards) (system : System Boards) (call : Call) : System Boards :=
  let outcome := system.state.vmeController call (crate.arriving system.boards)
  { state := outcome.state
    boards := outcome.sent.foldl (fun boards packet => (crate.receive boards packet).1)
      system.boards
    packets := system.packets ++ outcome.sent
    results :=
      if call.immediate then system.results ++ [(outcome.returned, outcome.rcv)]
      else system.results }

/-- Every command is executed at once, and the data are kept for the next immediate call. -/
structure Direct (Boards : Type*) where
  boards : Boards
  issued : List Command
  outstanding : List UInt16
  results : List (Int × Option (Nat → UInt8))

def Direct.start (boards : Boards) : Direct Boards := ⟨boards, [], [], []⟩

def Direct.step (crate : Crate Boards) (direct : Direct Boards) (call : Call) : Direct Boards :=
  match call.command with
  | none => direct
  | some command =>
    let outstanding := direct.outstanding ++ crate.data direct.boards command
    { boards := crate.execute direct.boards command
      issued := direct.issued ++ [command]
      outstanding := if call.immediate then [] else outstanding
      results :=
        if call.immediate then
          direct.results ++ [((outstanding.length : Int),
            call.rcv.map fun memory => store memory 0 (outstanding.flatMap callerBytes))]
        else direct.results }

structure Sized (batch : List Command) : Prop where
  counted : batch.length < 0x10000
  limit : (packetOf batch.dropLast).length ≤ maxData

/-- A long delay comes when no data are read and not delivered; what is kept fits in `spebuff`. -/
def System.Ordered (system : System Boards) (call : Call) : Prop :=
  let filled := system.state.start.fill call
  (call.longDelay → system.state.statics.nread = 0 ∧ system.state.statics.lrgReadPnt = 0) ∧
    (call.sends = false → maxData < filled.controller.nwbuf →
      filled.statics.lrgReadPnt + filled.statics.nread ≤ maxLine)

instance {Boards : Type*} (system : System Boards) (call : Call) :
    Decidable (system.Ordered call) := by
  unfold System.Ordered
  infer_instance

end

variable {Boards : Type*} (crate : Crate Boards)

/-- `pending` is in the packet that is filled, and `kept` in `spebuff`. -/
structure Represents (system : System Boards) (direct : Direct Boards) (pending : List Command)
    (kept : List UInt16) : Prop where
  carries : system.state.start.Carries pending
  keeps : system.state.Keeps kept
  here : system.state.controller.hwDestAddr = crate.crateAddr
  fits : ∀ command ∈ pending, command.Fits
  limit : (packetOf pending).length ≤ maxData
  within : system.state.statics.lrgReadPnt ≤ maxLine
  boards : (crate.serve system.boards pending).1 = direct.boards
  outstanding : kept ++ (crate.serve system.boards pending).2 = direct.outstanding
  results : system.results = direct.results
  packets : ∃ batches : List (List Command), direct.issued = batches.flatten ++ pending ∧
    system.packets = batches.map packetOf ∧ ∀ batch ∈ batches, Sized batch

variable {crate} {system : System Boards} {direct : Direct Boards} {pending : List Command}
  {kept : List UInt16}

lemma start_hwDestAddr (state : State) :
    state.start.controller.hwDestAddr = state.controller.hwDestAddr :=
  state.start_receives.hwDestAddr

lemma bytes_length (command : Command) : 4 ≤ command.bytes.length := by
  cases command with
  | read address => exact (by decide : 4 ≤ 6)
  | write address data => exact (by decide : 4 ≤ 8)
  | delay low high =>
    simp only [Command.bytes]
    split
    · exact (by decide : 4 ≤ 4)
    · exact (by decide : 4 ≤ 6)

lemma packetOf_length (commands) : 4 + 4 * commands.length ≤ (packetOf commands).length := by
  have size : 4 * commands.length ≤ (commands.flatMap Command.bytes).length := by
    induction commands with
    | nil => exact Nat.zero_le _
    | cons command rest ih =>
      have first := bytes_length command
      simp only [flatMap_cons, length_append, length_cons]
      omega
  simp only [packetOf, length_append, length_cons, length_nil]
  omega

lemma packetOf_nwbuf {state : State} {commands} (carries : state.Carries commands) :
    (packetOf commands).length = state.controller.nwbuf := by
  rw [carries.nwbuf]
  simp only [packetOf, length_append, length_cons, length_nil]

lemma Represents.sized (represents : Represents crate system direct pending kept)
    (command) : Sized (pending ++ [command]) := by
  have size := packetOf_length pending
  have limit := represents.limit
  unfold maxData at limit
  constructor
  · rw [length_append, length_singleton]
    omega
  · rw [dropLast_concat]
    exact limit

lemma start_carries_nil {state : State} (istrt : state.statics.istrt = false)
    (nread : state.statics.nread = 0) : state.start.Carries [] := by
  unfold State.start
  rw [if_neg (by simp [istrt])]
  exact ⟨rfl, nread, rfl, rfl⟩

lemma start_keeps {state : State} (keeps : state.Keeps kept) : state.start.Keeps kept := by
  unfold State.start
  split
  · exact keeps
  · exact ⟨keeps.lrgReadPnt, keeps.spebuff⟩

section

variable (represents : Represents crate system direct pending kept) {call : Call}
  {command : Command} (valid : call.Valid) (issued : call.command = some command)
include represents valid issued

lemma Represents.fits_command : ∀ other ∈ pending ++ [command], other.Fits := by
  intro other member
  rcases mem_append.1 member with before | last
  · exact represents.fits other before
  · rw [mem_singleton.1 last]
    exact command_fits valid issued

omit valid in
lemma Represents.filled :
    (system.state.start.fill call).Carries (pending ++ [command]) ∧
      load (system.state.start.fill call).controller.wbuf 0 2 = [0x00, vmeCmds] ∧
      (system.state.start.fill call).controller.hwDestAddr = crate.crateAddr ∧
      (system.state.start.fill call).Keeps kept := by
  have started := start_keeps represents.keeps
  refine ⟨represents.carries.fill issued, ?_, ?_, started.lrgReadPnt, started.spebuff⟩
  · exact State.fill_header _ _ (State.start_nwbuf_of_carries represents.carries)
  · exact (start_hwDestAddr system.state).trans represents.here

omit valid issued in
lemma Represents.serve :
    crate.serve system.boards (pending ++ [command]) =
      (crate.execute direct.boards command,
        (crate.serve system.boards pending).2 ++ crate.data direct.boards command) := by
  rw [crate.serve_append, represents.boards]
  simp [Crate.serve]

lemma Represents.replied :
    crate.receive system.boards (packetOf (pending ++ [command])) =
      (crate.execute direct.boards command,
        (crate.serve system.boards pending).2 ++ crate.data direct.boards command) := by
  rw [crate.receive_packetOf system.boards _ (represents.fits_command valid issued)
    (represents.sized command).counted, represents.serve]

omit valid in
lemma Represents.all_delivered (long : call.longDelay = true)
    (unread : system.state.statics.nread = 0) (unkept : system.state.statics.lrgReadPnt = 0) :
    kept ++ ((crate.serve system.boards pending).2 ++ crate.data direct.boards command) = [] := by
  have size := represents.keeps.lrgReadPnt
  have none_ : kept = [] := length_eq_zero_iff.1 (by omega)
  have reads := represents.carries.nread
  rw [State.start_nread, unread] at reads
  have served := crate.serve_length system.boards pending
  have silent : (crate.serve system.boards pending).2 = [] :=
    length_eq_zero_iff.1 (by omega)
  obtain ⟨irdwr, ptr, data0, data1, rcv⟩ := call
  cases irdwr with
  | delay =>
    obtain rfl := delay_command issued
    rw [none_, silent]
    rfl
  | bufread | bufwrite | bufreadSnd | bufwriteSnd | flush | loopBack =>
    exact absurd long Bool.false_ne_true

lemma Represents.sent {outcome : Outcome} (answers : outcome.Answers crate (pending ++ [command]))
    (following) (keeps : outcome.state.Keeps following)
    (within : outcome.state.statics.lrgReadPnt ≤ maxLine) {next results}
    (boards : next.boards = crate.execute direct.boards command)
    (commands : next.issued = direct.issued ++ [command]) (outstanding : next.outstanding = following)
    (same : next.results = results) :
    Represents crate
      { state := outcome.state
        boards := outcome.sent.foldl (fun boards packet => (crate.receive boards packet).1)
          system.boards
        packets := system.packets ++ outcome.sent
        results := results } next [] following := by
  obtain ⟨batches, all, packets, sized⟩ := represents.packets
  have replied := represents.replied valid issued
  constructor
  · exact start_carries_nil answers.istrt answers.nread
  · exact keeps
  · exact answers.hwDestAddr
  · exact fun other member => absurd member not_mem_nil
  · exact (by decide : 4 ≤ 7800)
  · exact within
  · simp only [answers.sent, foldl_cons, foldl_nil, replied, Crate.serve, boards]
  · simp only [Crate.serve, append_nil, outstanding]
  · exact same.symm
  · refine ⟨batches ++ [pending ++ [command]], ?_, ?_, ?_⟩
    · simp [commands, all]
    · simp [packets, answers.sent]
    · intro batch member
      rcases mem_append.1 member with before | last
      · exact sized batch before
      · rw [mem_singleton.1 last]
        exact represents.sized command

end

lemma Represents.step_no_command (represents : Represents crate system direct pending kept) {call}
    (valid : call.Valid) (nothing : call.command = none) :
    Represents crate (system.step crate call) (direct.step crate call) pending kept := by
  obtain ⟨refused, buffered⟩ := refused_of_no_command valid nothing
  simp only [System.step, Direct.step, State.vmeController, refused, nothing, buffered,
    Bool.false_eq_true, if_false, foldl_nil, append_nil]
  constructor
  · rw [State.start_start]
    exact represents.carries
  · exact start_keeps represents.keeps
  · exact (start_hwDestAddr system.state).trans represents.here
  · exact represents.fits
  · exact represents.limit
  · rw [State.start_lrgReadPnt]
    exact represents.within
  · exact represents.boards
  · exact represents.outstanding
  · exact represents.results
  · exact represents.packets

lemma Represents.step_command (represents : Represents crate system direct pending kept)
    {call command} (valid : call.Valid) (issued : call.command = some command)
    (ordered : system.Ordered call) :
    ∃ pending kept, Represents crate (system.step crate call) (direct.step crate call) pending
      kept := by
  obtain ⟨carries, header, here, keeps⟩ := represents.filled issued
  have replied := represents.replied valid issued
  have refused := refused_of_command valid issued
  have served := @Represents.serve Boards crate system direct pending kept represents command
  let words := (crate.serve system.boards pending).2 ++ crate.data direct.boards command
  have read : words.length = (pending ++ [command]).countP Command.isRead := by
    rw [← crate.serve_length system.boards, served]
  have counted : words.length < 0x10000 :=
    read ▸ Nat.lt_of_le_of_lt countP_le_length (represents.sized command).counted
  have total : kept ++ words = direct.outstanding ++ crate.data direct.boards command := by
    rw [← represents.outstanding, append_assoc]
  have reply : crate.arriving system.boards (packetOf (pending ++ [command])) =
      crate.reply words := by
    rw [Crate.arriving, replied]
  have boards : (direct.step crate call).boards = crate.execute direct.boards command := by
    simp only [Direct.step, issued]
  have commands : (direct.step crate call).issued = direct.issued ++ [command] := by
    simp only [Direct.step, issued]
  have outstanding : (direct.step crate call).outstanding =
      if call.immediate then [] else kept ++ words := by
    simp only [Direct.step, issued, total]
  by_cases sends : call.sends = true
  · -- the packet is sent, and all data are delivered
    have sent : system.state.vmeController call (crate.arriving system.boards) =
        (system.state.start.fill call).send false call.rcv (crate.arriving system.boards) := by
      simp only [State.vmeController, refused, sends, if_true]
    have answers := State.send_answers carries header read reply call.rcv here counted false
    obtain ⟨none_, returned, rcv⟩ :=
      State.send_normal carries header read reply call.rcv here counted keeps
    rw [← sent] at answers none_ returned rcv
    refine ⟨[], [], represents.sent valid issued answers [] ⟨none_, rfl⟩ ?_ boards commands ?_ ?_⟩
    · rw [none_]
      exact Nat.zero_le _
    · rw [outstanding]
      split
      · rfl
      · rename_i later
        have long : call.longDelay = true := by
          rw [sends_eq] at sends
          simpa [later] using sends
        obtain ⟨unread, unkept⟩ := ordered.1 long
        exact represents.all_delivered issued long unread unkept
    · simp only [Direct.step, issued]
      cases call.immediate with
      | false => exact represents.results.symm
      | true => simp only [if_true, represents.results, returned, rcv, total]
  · have unsent : call.sends = false := by simpa using sends
    have later : call.immediate = false := by
      rw [sends_eq, Bool.or_eq_false_iff] at unsent
      exact unsent.1
    have results : (direct.step crate call).results = direct.results := by
      simp only [Direct.step, issued, later, Bool.false_eq_true, if_false]
    rw [later] at outstanding
    by_cases full : maxData < (system.state.start.fill call).controller.nwbuf
    · -- the packet is sent, and the data are kept
      have sent : system.state.vmeController call (crate.arriving system.boards) =
          (system.state.start.fill call).send true call.rcv (crate.arriving system.boards) := by
        simp only [State.vmeController, refused, unsent, full, if_true, Bool.false_eq_true, if_false]
      have answers := State.send_answers carries header read reply call.rcv here counted true
      have keeping := State.send_forced carries header read reply call.rcv here counted keeps
      rw [← sent] at answers keeping
      have fits := ordered.2 unsent full
      refine ⟨[], kept ++ words, ?_⟩
      have after := represents.sent valid issued answers (kept ++ words) keeping ?_ boards
        commands outstanding (results.trans represents.results.symm)
      · simpa only [System.step, later, Bool.false_eq_true, if_false] using after
      · rw [keeping.lrgReadPnt, length_append]
        rw [keeps.lrgReadPnt, carries.nread] at fits
        omega
    · -- the command waits in the packet
      have waits : system.state.vmeController call (crate.arriving system.boards) =
          ⟨system.state.start.fill call, [], 0, call.rcv⟩ := by
        simp only [State.vmeController, refused, unsent, full, Bool.false_eq_true, if_false]
      have started : (system.state.start.fill call).start = system.state.start.fill call :=
        State.start_of_istrt (State.start_istrt system.state)
      obtain ⟨batches, all, packets, sized⟩ := represents.packets
      refine ⟨pending ++ [command], kept, ?_⟩
      simp only [System.step, waits, later, Bool.false_eq_true, if_false, foldl_nil, append_nil]
      constructor
      · rw [started]
        exact carries
      · exact keeps
      · exact here
      · exact represents.fits_command valid issued
      · rw [packetOf_nwbuf carries]
        omega
      · exact Nat.le_trans (Nat.le_of_eq (State.start_lrgReadPnt system.state)) represents.within
      · rw [served, boards]
      · rw [served, outstanding]
        rfl
      · exact represents.results.trans results.symm
      · exact ⟨batches, by rw [commands, all, append_assoc], packets, sized⟩

lemma Represents.start (crate : Crate Boards) {controller}
    (here : controller.hwDestAddr = crate.crateAddr) (boards) :
    Represents crate (.start controller boards) (.start boards) [] [] where
  carries := start_carries_nil rfl rfl
  keeps := ⟨rfl, rfl⟩
  here := here
  fits := fun command member => absurd member not_mem_nil
  limit := (by decide : 4 ≤ 7800)
  within := Nat.zero_le _
  boards := rfl
  outstanding := rfl
  results := rfl
  packets := ⟨[], rfl, rfl, fun batch member => absurd member not_mem_nil⟩

lemma Represents.run (calls) :
    ∀ {system : System Boards} {direct : Direct Boards} {pending : List Command}
      {kept : List UInt16}, Represents crate system direct pending kept →
      (∀ call ∈ calls, call.Valid) → Guarded (System.step crate) System.Ordered system calls →
      ∃ pending kept, Represents crate (runFrom (System.step crate) system calls)
        (runFrom (Direct.step crate) direct calls) pending kept := by
  induction calls with
  | nil => intro system direct pending kept represents valid ordered; exact ⟨pending, kept, represents⟩
  | cons call rest ih =>
    intro system direct pending kept represents valid ordered
    have fits := valid call mem_cons_self
    have later := fun other member => valid other (mem_cons_of_mem call member)
    cases issued : call.command with
    | none => exact ih (represents.step_no_command fits issued) later ordered.2
    | some command =>
      obtain ⟨next, following, after⟩ := represents.step_command fits issued ordered.1
      exact ih after later ordered.2

lemma issued_run (calls direct) :
    (runFrom (Direct.step crate) direct calls).issued =
      direct.issued ++ calls.filterMap Call.command := by
  induction calls generalizing direct with
  | nil => simp
  | cons call rest ih =>
    rw [runFrom_cons, ih]
    cases issued : call.command with
    | none => simp [Direct.step, issued]
    | some command => simp [Direct.step, issued]

/-- In every run of calls in which nothing that was read is outstanding at a long delay. -/
theorem buffered_transactions (crate : Crate Boards) (controller : VMEController)
    (here : controller.hwDestAddr = crate.crateAddr) (boards : Boards) (calls : List Call)
    (valid : ∀ call ∈ calls, call.Valid)
    (ordered : Guarded (System.step crate) System.Ordered (.start controller boards) calls) :
    let system := runFrom (System.step crate) (.start controller boards) calls
    ∃ (batches : List (List Command)) (pending : List Command),
      calls.filterMap Call.command = batches.flatten ++ pending ∧
      system.packets = batches.map packetOf ∧ (∀ batch ∈ batches, Sized batch) ∧
      system.state.start.Carries pending ∧ system.state.statics.lrgReadPnt ≤ maxLine ∧
      system.results = (runFrom (Direct.step crate) (.start boards) calls).results := by
  obtain ⟨pending, kept, after⟩ := (Represents.start crate here boards).run calls valid ordered
  obtain ⟨batches, all, packets, sized⟩ := after.packets
  rw [issued_run] at all
  exact ⟨batches, pending, all, packets, sized, after.carries, after.within, after.results⟩

def exampleCrate : Crate Unit where
  execute := fun boards _ => boards
  answer := fun _ _ => 0x1234
  serverAddr := [0, 1, 2, 3, 4, 5]
  crateAddr := [2, 0, 0, 0, 0, 9]
  server := rfl
  crate := rfl
  addressed := by decide

def exampleController : VMEController := .zeroed [2, 0, 0, 0, 0, 9]

def bufread : Call := ⟨.bufread, 0x80000, 0, 0, none⟩
def bufreadSnd : Call := ⟨.bufreadSnd, 0x80000, 0, 0, some fun _ => 0⟩

theorem buffered_transactions_two :
    (runFrom (System.step exampleCrate) (.start exampleController ()) [bufread, bufreadSnd]).results =
      (runFrom (Direct.step exampleCrate) (.start ()) [bufread, bufreadSnd]).results := by
  obtain ⟨_, _, _, _, _, _, _, same⟩ := buffered_transactions exampleCrate exampleController rfl ()
    [bufread, bufreadSnd] (by decide) (by decide)
  exact same

theorem delay_loses_read :
    (runFrom (System.step exampleCrate) (.start exampleController ())
      [bufread, ⟨.delay, 0, 0, 1, some fun _ => 0⟩, bufreadSnd]).results.map Prod.fst ≠
    (runFrom (Direct.step exampleCrate) (.start ())
      [bufread, ⟨.delay, 0, 0, 1, some fun _ => 0⟩, bufreadSnd]).results.map Prod.fst := by
  decide

end EmuLib.VmeController
