import EmuLib.Fed.LockedCycles
import EmuLib.Fed.PromFile

/-!
How often the mutex of the crate is held after the VME operations of the FED boards.
-/

namespace EmuLib.Fed

open Operations

section

variable {board : VmeModule} {bus : Bus} {dev : DevType} {element : JtagElement}

def leave : Exit → Vme (Exit × Unit)
  | .ended => pure (.ended, ())
  | .returned => do
      unlock
      pure (.returned, ())

lemma performLine_eq (myLine) : performLine board bus dev element myLine =
    (parseLine bus myLine).toList.forM (perform board bus dev element) := by
  cases found : parseLine bus myLine with
  | none => simp [performLine, found]
  | some command => simp [performLine, found]

lemma loadLines_eq (stopString lines myStartString unfinished) :
    loadLines board bus dev element stopString lines myStartString unfinished = (do
      (promCommands bus stopString lines myStartString unfinished).forM
        (perform board bus dev element)
      leave (promExit stopString lines myStartString unfinished)) := by
  induction lines generalizing myStartString unfinished with
  | nil =>
    cases unfinished with
    | none => simp [loadLines, promCommands, promExit, leave]
    | some text => simp [loadLines, promCommands, promExit, leave]
  | cons line rest ih =>
    cases unfinished with
    | none =>
      simp only [loadLines, promCommands, promExit]
      split
      · exact ih _ _
      · split
        · simp [leave]
        · split
          · exact ih _ _
          · split
            · simp only [performLine_eq, ih, forM_append, bind_assoc]
            · exact ih _ _
    | some text =>
      simp only [loadLines, promCommands, promExit]
      split
      · simp only [performLine_eq, ih, forM_append, bind_assoc]
      · exact ih _ _

lemma locked_left {sent : Vme Unit} {state left} (exit)
    (held : (after sent state.entered).held = state.held + 1 + left)
    (throws : ∀ exception, outcome sent state.entered = .error exception →
      exception = .caen ∨ exception = .outOfRange) :
    (outcome (locked (sent >>= fun _ => leave exit)) state = .error .outOfRange ↔
      outcome sent state.entered = .error .outOfRange) ∧
    (outcome (locked (sent >>= fun _ => leave exit)) state ≠ .error .outOfRange →
      (after (locked (sent >>= fun _ => leave exit)) state).held = state.held + left) := by
  have lowered : (after sent state.entered).held - 1 = state.held + left := by omega
  cases ended : outcome sent state.entered with
  | ok =>
    have finished := bind_returned (fun _ => leave exit) ended
    cases exit with
    | ended =>
      obtain ⟨returned, later⟩ := locked_ended finished.1
      rw [returned, later, finished.2]
      exact ⟨by simp, fun _ => lowered⟩
    | returned =>
      obtain ⟨returned, later⟩ := locked_returned finished.1
      rw [returned, later, finished.2]
      exact ⟨by simp, fun _ => lowered⟩
  | error exception =>
    have broken := bind_thrown (fun _ => leave exit) ended
    rcases throws exception ended with rfl | rfl
    · obtain ⟨thrown, later⟩ := locked_caen broken.1
      rw [thrown, later, broken.2]
      exact ⟨by simp, fun _ => lowered⟩
    · obtain ⟨thrown, _⟩ := locked_escaped (by decide) broken.1
      rw [thrown]
      exact ⟨Iff.rfl, fun other => absurd rfl other⟩

lemma makes_perform {chain} (mapped : board.jtagMap dev = some chain) (other : dev ≠ .RESET)
    {command} (inside : command ≠ .outOfRange) :
    ∃ count, MakesCycles board bus count (perform board bus dev element command) := by
  cases command with
  | sir word => exact ⟨_, makes_commandCycle mapped other word⟩
  | sdr nBits data =>
    obtain ⟨count, makes⟩ := @makes_jtagWrite board bus dev chain mapped other nBits data true
    exact ⟨count, makes_map makes _⟩
  | stateResetIdle =>
    have written : perform board bus dev element .stateResetIdle =
        writeCycle board bus (element.bitCode ||| 0x18) element.cmdBits [0] := if_neg other
    rw [written]
    exact ⟨_, makes_writeCycle ..⟩
  | outOfRange => exact absurd rfl inside

lemma perform_held {chain} (mapped : board.jtagMap dev = some chain) (other : dev ≠ .RESET)
    (command state) : (after (perform board bus dev element command) state).held = state.held := by
  by_cases inside : command = .outOfRange
  · subst inside
    rfl
  · obtain ⟨count, makes⟩ := @makes_perform board bus dev element chain mapped other command inside
    exact makes.keeps state

lemma perform_throws {chain} (mapped : board.jtagMap dev = some chain) (other : dev ≠ .RESET)
    (command state exception)
    (failed : outcome (perform board bus dev element command) state = .error exception) :
    exception = .caen ∨ exception = .outOfRange := by
  by_cases inside : command = .outOfRange
  · subst inside
    cases failed
    exact .inr rfl
  · obtain ⟨count, makes⟩ := @makes_perform board bus dev element chain mapped other command inside
    exact .inl (makes.thrown failed)

end

section

variable {board : VmeModule} {bus : Bus} {chain : JtagChain .RESET}

def PromCommand.isTransfer : PromCommand → Bool
  | .sdr _ _ => true
  | _ => false

def resetCycles (chain : JtagChain .RESET) : PromCommand → Nat
  | .sir _ => resetCommandCycles chain
  | .sdr nBits _ => resetWriteCycles chain nBits
  | .stateResetIdle => 5
  | .outOfRange => 0

/-- Whether a transfer is completed before the bus fails or a value is too short. The first call is
the given one. -/
def completesTransfer (works : Nat → Bool) (chain : JtagChain .RESET) :
    Nat → List PromCommand → Bool
  | _, [] => false
  | _, .outOfRange :: _ => false
  | first, command :: rest =>
    allWork works first (resetCycles chain command) &&
      (command.isTransfer || completesTransfer works chain (first + resetCycles chain command) rest)

def meetsShortValue (works : Nat → Bool) (chain : JtagChain .RESET) :
    Nat → List PromCommand → Bool
  | _, [] => false
  | _, .outOfRange :: _ => true
  | first, command :: rest =>
    allWork works first (resetCycles chain command) &&
      meetsShortValue works chain (first + resetCycles chain command) rest

lemma perform_reset (mapped : board.jtagMap .RESET = some chain) {element command}
    (inside : command ≠ .outOfRange) (state) :
    (allWork (works board bus) state.calls (resetCycles chain command) = true →
      outcome (perform board bus .RESET element command) state = .ok () ∧
        (after (perform board bus .RESET element command) state).calls =
          state.calls + resetCycles chain command ∧
        (after (perform board bus .RESET element command) state).held =
          state.held + command.isTransfer.toNat) ∧
    (allWork (works board bus) state.calls (resetCycles chain command) = false →
      outcome (perform board bus .RESET element command) state = .error .caen ∧
        (after (perform board bus .RESET element command) state).held = state.held) := by
  have kept : MakesCycles board bus (resetCycles chain command)
      (perform board bus .RESET element command) → command.isTransfer = false →
      (allWork (works board bus) state.calls (resetCycles chain command) = true →
        outcome (perform board bus .RESET element command) state = .ok () ∧
          (after (perform board bus .RESET element command) state).calls =
            state.calls + resetCycles chain command ∧
          (after (perform board bus .RESET element command) state).held =
            state.held + command.isTransfer.toNat) ∧
      (allWork (works board bus) state.calls (resetCycles chain command) = false →
        outcome (perform board bus .RESET element command) state = .error .caen ∧
          (after (perform board bus .RESET element command) state).held = state.held) := by
    intro makes noTransfer
    constructor
    · intro all
      obtain ⟨⟨_, returned⟩, counted⟩ := makes.returns state all
      exact ⟨returned, counted, by rw [noTransfer]; exact makes.keeps state⟩
    · intro failed
      exact ⟨makes.throws state failed, makes.keeps state⟩
  cases command with
  | sir word => exact kept (makes_commandCycle_reset mapped word) rfl
  | sdr nBits data =>
    obtain ⟨completed, broken⟩ := @jtagWrite_reset board bus chain mapped nBits data true state
    have same : perform board bus .RESET element (.sdr nBits data) =
        (jtagWrite board bus .RESET nBits data true >>= fun _ => pure ()) :=
      map_eq_pure_bind ..
    rw [same]
    constructor
    · intro all
      obtain ⟨returned, counted, held⟩ := completed all
      have next := bind_returned (fun _ => (pure () : Vme Unit)) returned
      rw [next.1, next.2]
      exact ⟨rfl, counted, held⟩
    · intro failed
      obtain ⟨thrown, held⟩ := broken failed
      have next := bind_thrown (fun _ => (pure () : Vme Unit)) thrown
      rw [next.1, next.2]
      exact ⟨rfl, held⟩
  | stateResetIdle =>
    have written : perform board bus .RESET element .stateResetIdle =
        writePattern board bus element.bitCode [1, 1, 1, 1, 1] := by
      rw [perform, if_pos rfl]
    have makes := @makes_writePattern board bus element.bitCode [1, 1, 1, 1, 1]
    exact kept (written ▸ makes) rfl
  | outOfRange => exact absurd rfl inside

lemma performAll_reset (mapped : board.jtagMap .RESET = some chain) {element} (commands state) :
    ∃ left, (after (commands.forM (perform board bus .RESET element)) state).held =
        state.held + left ∧
      (left = 0 ↔ completesTransfer (works board bus) chain state.calls commands = false) ∧
      (outcome (commands.forM (perform board bus .RESET element)) state = .error .outOfRange ↔
        meetsShortValue (works board bus) chain state.calls commands = true) ∧
      ∀ exception, outcome (commands.forM (perform board bus .RESET element)) state =
        .error exception → exception = .caen ∨ exception = .outOfRange := by
  induction commands generalizing state with
  | nil =>
    have returned :
        outcome ([].forM (perform board bus .RESET element)) state = .ok () := rfl
    rw [returned]
    refine ⟨0, rfl, by simp [completesTransfer], by simp [meetsShortValue], ?_⟩
    rintro exception ⟨⟩
  | cons command rest ih =>
    by_cases short : command = .outOfRange
    · subst short
      have thrown : outcome (perform board bus .RESET element .outOfRange) state =
          .error .outOfRange := rfl
      have broken := bind_thrown (fun _ => rest.forM (perform board bus .RESET element)) thrown
      rw [forM_cons, broken.1]
      refine ⟨0, rfl, by simp [completesTransfer], by simp [meetsShortValue], ?_⟩
      rintro exception ⟨⟩
      exact .inr rfl
    · obtain ⟨completed, failed⟩ := @perform_reset board bus chain mapped element command short state
      have completes : completesTransfer (works board bus) chain state.calls (command :: rest) =
          (allWork (works board bus) state.calls (resetCycles chain command) &&
            (command.isTransfer || completesTransfer (works board bus) chain
              (state.calls + resetCycles chain command) rest)) := by
        cases command with
        | outOfRange => exact absurd rfl short
        | sir | sdr | stateResetIdle => rfl
      have meets : meetsShortValue (works board bus) chain state.calls (command :: rest) =
          (allWork (works board bus) state.calls (resetCycles chain command) &&
            meetsShortValue (works board bus) chain
              (state.calls + resetCycles chain command) rest) := by
        cases command with
        | outOfRange => exact absurd rfl short
        | sir | sdr | stateResetIdle => rfl
      rw [completes, meets, forM_cons]
      cases all : allWork (works board bus) state.calls (resetCycles chain command) with
      | true =>
        obtain ⟨returned, counted, held⟩ := completed all
        have next := bind_returned (fun _ => rest.forM (perform board bus .RESET element)) returned
        obtain ⟨left, heldLater, none, meetsLater, throws⟩ :=
          ih (after (perform board bus .RESET element command) state)
        rw [next.1, next.2, ← counted]
        refine ⟨command.isTransfer.toNat + left, ?_, ?_, ?_, throws⟩
        · rw [heldLater, held, Nat.add_assoc]
        · cases command.isTransfer with
          | true => simp
          | false => simpa using none
        · simpa using meetsLater
      | false =>
        obtain ⟨thrown, held⟩ := failed all
        have broken := bind_thrown (fun _ => rest.forM (perform board bus .RESET element)) thrown
        rw [broken.1, broken.2]
        refine ⟨0, held, by simp, by simp, ?_⟩
        rintro exception ⟨⟩
        exact .inl rfl

end

inductive VmeOperation
  | writeCycle (address nBits : UInt32) (data : List UInt16)
  | readCycle (address nBits : UInt32)
  | commandCycle (dev : DevType) (myCommand : UInt16)
  | jtagWrite (dev : DevType) (nBits : UInt32) (data : List UInt16) (noRead : Bool)
  | jtagRead (dev : DevType) (nBits : UInt32)
  | loadPromFile (dev : DevType) (data startString stopString : List Char)

def VmeOperation.run (board : VmeModule) (bus : Bus) : VmeOperation → Vme Unit
  | .writeCycle address nBits data => Fed.writeCycle board bus address nBits data
  | .readCycle address nBits => (fun _ => ()) <$> Fed.readCycle board bus address nBits
  | .commandCycle dev myCommand => Fed.commandCycle board bus dev myCommand
  | .jtagWrite dev nBits data noRead =>
    (fun _ => ()) <$> Fed.jtagWrite board bus dev nBits data noRead
  | .jtagRead dev nBits => (fun _ => ()) <$> Fed.jtagRead board bus dev nBits
  | .loadPromFile dev data startString stopString =>
    Fed.loadPromFile board bus dev data startString stopString

/-- Once it has returned or thrown. The exception that is left out ends the process. -/
def Balanced (operation : Vme Unit) (state : VmeState) : Prop :=
  outcome operation state ≠ .error .outOfRange → (after operation state).held = state.held

def VmeOperation.Unlocks (board : VmeModule) (bus : Bus) (state : VmeState) : VmeOperation → Prop
  | .jtagWrite dev nBits _ _ =>
    dev = .RESET → ∀ chain, board.jtagMap .RESET = some chain →
      allWork (works board bus) state.calls (resetWriteCycles chain nBits) = false
  | .loadPromFile dev data startString stopString =>
    dev = .RESET → ∀ chain, board.jtagMap .RESET = some chain →
      let commands := promCommands bus stopString (data.splitOn '\n') startString none
      completesTransfer (works board bus) chain state.calls commands = false ∨
        meetsShortValue (works board bus) chain state.calls commands = true
  | _ => True

variable {board : VmeModule} {bus : Bus}

def Settled (operation : Vme Value) : Prop :=
  ∀ state, (after operation state).held = state.held ∧
    outcome operation state ≠ .error .outOfRange

lemma settled_makes {count} {operation : Vme Value}
    (makes : MakesCycles board bus count operation) : Settled operation := by
  intro state
  refine ⟨makes.keeps state, fun escaped => ?_⟩
  cases makes.thrown escaped

lemma settled_devType : Settled (throw .devType : Vme Value) :=
  fun _ => ⟨rfl, fun escaped => by cases escaped⟩

lemma settled_discard {operation : Vme Value} (settled : Settled operation) :
    Settled ((fun _ => ()) <$> operation) := by
  intro state
  obtain ⟨held, inside⟩ := settled state
  rw [map_eq_pure_bind]
  cases ended : outcome operation state with
  | ok value =>
    have next := bind_returned (fun _ => (pure () : Vme Unit)) ended
    rw [next.1, next.2]
    exact ⟨held, fun escaped => by cases escaped⟩
  | error exception =>
    have next := bind_thrown (fun _ => (pure () : Vme Unit)) ended
    rw [next.1, next.2]
    refine ⟨held, fun escaped => inside ?_⟩
    cases escaped
    exact ended

lemma settled_commandCycle (dev myCommand) : Settled (commandCycle board bus dev myCommand) := by
  cases mapped : board.jtagMap dev with
  | none =>
    simp only [commandCycle, mapped]
    exact settled_devType
  | some chain =>
    by_cases reset : dev = .RESET
    · subst reset
      exact settled_makes (makes_commandCycle_reset mapped myCommand)
    · exact settled_makes (makes_commandCycle mapped reset myCommand)

lemma settled_jtagRead (dev nBits) : Settled (jtagRead board bus dev nBits) := by
  cases mapped : board.jtagMap dev with
  | none =>
    simp only [jtagRead, mapped]
    exact settled_devType
  | some chain =>
    obtain ⟨count, makes⟩ := @makes_jtagRead board bus dev chain mapped nBits
    exact settled_makes makes

lemma settled_jtagWrite {dev} (other : dev ≠ .RESET) (nBits data noRead) : Settled
    (jtagWrite board bus dev nBits data noRead):= by
  cases mapped : board.jtagMap dev with
  | none =>
    simp only [jtagWrite, mapped]
    exact settled_devType
  | some chain =>
    obtain ⟨count, makes⟩ := @makes_jtagWrite board bus dev chain mapped other nBits data noRead
    exact settled_makes makes

lemma jtagWrite_balanced_reset (nBits data noRead state) :
    Balanced ((fun _ => ()) <$> jtagWrite board bus .RESET nBits data noRead) state ↔
      ∀ chain, board.jtagMap .RESET = some chain →
        allWork (works board bus) state.calls (resetWriteCycles chain nBits) = false := by
  rw [map_eq_pure_bind]
  cases mapped : board.jtagMap .RESET with
  | none =>
    refine iff_of_true ?_ fun chain found => by cases found
    simp only [jtagWrite, mapped]
    exact fun _ => rfl
  | some chain =>
    obtain ⟨completed, broken⟩ := @jtagWrite_reset board bus chain mapped nBits data noRead state
    cases all : allWork (works board bus) state.calls (resetWriteCycles chain nBits) with
    | true =>
      obtain ⟨returned, _, held⟩ := completed all
      have next := bind_returned (fun _ => (pure () : Vme Unit)) returned
      constructor
      · intro same
        have kept := same (by rw [next.1]; exact fun wrong => by cases wrong)
        rw [next.2, after_pure] at kept
        omega
      · intro fails
        cases all.symm.trans (fails chain rfl)
    | false =>
      obtain ⟨thrown, held⟩ := broken all
      have next := bind_thrown (fun _ => (pure () : Vme Unit)) thrown
      refine iff_of_true (fun _ => ?_) fun other found => ?_
      · rw [next.2, held]
      · cases found
        exact all

lemma loadPromFile_balanced {dev} (other : dev ≠ .RESET) (data startString stopString state) :
    Balanced (loadPromFile board bus dev data startString stopString) state := by
  cases mapped : board.jtagMap dev with
  | none =>
    simp only [loadPromFile, mapped]
    exact fun _ => rfl
  | some chain =>
    simp only [loadPromFile, mapped, loadLines_eq]
    have held := forM_keeps (fun command later =>
      @perform_held board bus dev chain.element chain mapped other command later)
      (promCommands bus stopString (data.splitOn '\n') startString none) state.entered
    have throws := forM_throws (fun command later exception failed =>
      @perform_throws board bus dev chain.element chain mapped other command later exception failed)
      (promCommands bus stopString (data.splitOn '\n') startString none) state.entered
    have entered : (after ((promCommands bus stopString (data.splitOn '\n') startString none).forM
        (perform board bus dev chain.element)) state.entered).held = state.held + 1 + 0 := held
    exact (locked_left _ entered throws).2

lemma loadPromFile_reset {chain} (mapped : board.jtagMap .RESET = some chain)
    (data startString stopString state) :
    Balanced (loadPromFile board bus .RESET data startString stopString) state ↔
      completesTransfer (works board bus) chain state.calls
          (promCommands bus stopString (data.splitOn '\n') startString none) = false ∨
        meetsShortValue (works board bus) chain state.calls
          (promCommands bus stopString (data.splitOn '\n') startString none) = true := by
  let commands := promCommands bus stopString (data.splitOn '\n') startString none
  obtain ⟨left, held, none, short, throws⟩ :=
    @performAll_reset board bus chain mapped chain.element commands state.entered
  have entered : (after (commands.forM (perform board bus .RESET chain.element))
      state.entered).held = state.held + 1 + left := held
  obtain ⟨escapes, balance⟩ :=
    locked_left (promExit stopString (data.splitOn '\n') startString .none) entered throws
  have loaded : loadPromFile board bus .RESET data startString stopString =
      locked (commands.forM (perform board bus .RESET chain.element) >>= fun _ =>
        leave (promExit stopString (data.splitOn '\n') startString .none)) := by
    simp only [loadPromFile, mapped, loadLines_eq]
    rfl
  have escaped := escapes.trans short
  rw [loaded]
  constructor
  · intro same
    by_cases ends : meetsShortValue (works board bus) chain state.entered.calls commands = true
    · exact .inr ends
    · have counted := balance fun thrown => ends (escaped.mp thrown)
      have kept := counted.symm.trans (same fun thrown => ends (escaped.mp thrown))
      exact .inl (none.mp (by omega))
  · rintro (nothing | ends) returned
    · rw [balance returned, none.mpr nothing]
      rfl
    · exact absurd (escaped.mpr ends) returned

lemma loadPromFile_balanced_reset (data startString stopString state) :
    Balanced (loadPromFile board bus .RESET data startString stopString) state ↔
      ∀ chain, board.jtagMap .RESET = some chain →
        completesTransfer (works board bus) chain state.calls
            (promCommands bus stopString (data.splitOn '\n') startString none) = false ∨
          meetsShortValue (works board bus) chain state.calls
            (promCommands bus stopString (data.splitOn '\n') startString none) = true := by
  cases mapped : board.jtagMap .RESET with
  | none =>
    refine iff_of_true ?_ fun chain found => by cases found
    simp only [loadPromFile, mapped]
    exact fun _ => rfl
  | some chain =>
    rw [loadPromFile_reset mapped]
    constructor
    · intro unlocked other found
      cases found
      exact unlocked
    · exact fun unlocked => unlocked chain rfl

lemma jtagWrite_escapes (dev nBits data noRead state) :
    outcome ((fun _ => ()) <$> jtagWrite board bus dev nBits data noRead) state ≠
      .error .outOfRange := by
  by_cases reset : dev = .RESET
  · subst reset
    cases mapped : board.jtagMap .RESET with
    | none =>
      simp only [jtagWrite, mapped]
      exact fun escaped => by cases escaped
    | some chain =>
      obtain ⟨completed, broken⟩ := @jtagWrite_reset board bus chain mapped nBits data noRead state
      rw [map_eq_pure_bind]
      cases all : allWork (works board bus) state.calls (resetWriteCycles chain nBits) with
      | true =>
        rw [(bind_returned _ (completed all).1).1]
        exact fun escaped => by cases escaped
      | false =>
        rw [(bind_thrown _ (broken all).1).1]
        exact fun escaped => by cases escaped
  · exact (settled_discard (settled_jtagWrite reset nBits data noRead) state).2

lemma balanced_iff (operation : VmeOperation) (state) :
    Balanced (operation.run board bus) state ↔ operation.Unlocks board bus state := by
  cases operation with
  | writeCycle address nBits data =>
    exact iff_of_true
      (fun _ => (settled_makes (makes_writeCycle address nBits data) state).1) trivial
  | readCycle address nBits =>
    exact iff_of_true
      (fun _ => (settled_discard (settled_makes (makes_readCycle address nBits)) state).1) trivial
  | commandCycle dev myCommand =>
    exact iff_of_true (fun _ => (settled_commandCycle dev myCommand state).1) trivial
  | jtagRead dev nBits =>
    exact iff_of_true (fun _ => (settled_discard (settled_jtagRead dev nBits) state).1) trivial
  | jtagWrite dev nBits data noRead =>
    by_cases reset : dev = .RESET
    · subst reset
      exact (jtagWrite_balanced_reset nBits data noRead state).trans
        ⟨fun fails _ => fails, fun fails => fails rfl⟩
    · exact iff_of_true
        (fun _ => (settled_discard (settled_jtagWrite reset nBits data noRead) state).1)
        fun same => absurd same reset
  | loadPromFile dev data startString stopString =>
    by_cases reset : dev = .RESET
    · subst reset
      exact (loadPromFile_balanced_reset data startString stopString state).trans
        ⟨fun unlocked _ => unlocked, fun unlocked => unlocked rfl⟩
    · exact iff_of_true (loadPromFile_balanced reset data startString stopString state)
        fun same => absurd same reset

/-- For each operation, in any state and whatever calls on the bus fail. Only the text of a PROM
file can end the process. -/
theorem VmeOperation.lock_balance (board : VmeModule) (bus : Bus) (operation : VmeOperation)
    (state : VmeState) :
    (Balanced (operation.run board bus) state ↔ operation.Unlocks board bus state) ∧
      (outcome (operation.run board bus) state = .error .outOfRange →
        ∃ dev data startString stopString,
          operation = .loadPromFile dev data startString stopString) := by
  refine ⟨balanced_iff operation state, fun escaped => ?_⟩
  cases operation with
  | writeCycle address nBits data =>
    exact absurd escaped (settled_makes (makes_writeCycle address nBits data) state).2
  | readCycle address nBits =>
    exact absurd escaped (settled_discard (settled_makes (makes_readCycle address nBits)) state).2
  | commandCycle dev myCommand =>
    exact absurd escaped (settled_commandCycle dev myCommand state).2
  | jtagRead dev nBits =>
    exact absurd escaped (settled_discard (settled_jtagRead dev nBits) state).2
  | jtagWrite dev nBits data noRead =>
    exact absurd escaped (jtagWrite_escapes dev nBits data noRead state)
  | loadPromFile dev data startString stopString =>
    exact ⟨dev, data, startString, stopString, rfl⟩

def resetElement : JtagElement where
  dev := .RESET
  bypassCommand := 0xff
  cmdBits := 16
  bitCode := 0xfffe

lemma resetElement_found :
    ([resetElement].find? fun element => element.dev = .RESET).isSome = true := rfl

def dcc : VmeModule where
  vmeAddress := 0x400000
  fake := false
  jtagMap := fun dev =>
    match dev with
    | .RESET => some ⟨[resetElement], resetElement_found⟩
    | _ => none

def workingBus : Bus where
  succeeds := fun _ => true
  data := fun _ => 0
  stray := fun _ => 0

/-- `SDR 8 TDI (ff);` -/
def oneTransfer : List Char :=
  ['S', 'D', 'R', ' ', '8', ' ', 'T', 'D', 'I', ' ', '(', 'f', 'f', ')', ';', '\n']

theorem reset_left_locked :
    ¬ Balanced (VmeOperation.run dcc workingBus (.jtagWrite .RESET 8 [0xff] true)) ⟨0, 0, []⟩ ∧
    ¬ Balanced (VmeOperation.run dcc workingBus (.loadPromFile .RESET oneTransfer [] []))
      ⟨0, 0, []⟩ := by
  have mapped : dcc.jtagMap .RESET = some ⟨[resetElement], resetElement_found⟩ := rfl
  constructor
  · intro same
    have fails := (@jtagWrite_balanced_reset dcc workingBus 8 [0xff] true ⟨0, 0, []⟩).mp same _
      mapped
    revert fails
    decide +kernel
  · intro same
    have unlocked := (@loadPromFile_balanced_reset dcc workingBus oneTransfer [] [] ⟨0, 0, []⟩).mp
      same _ mapped
    revert unlocked
    decide +kernel

end EmuLib.Fed
