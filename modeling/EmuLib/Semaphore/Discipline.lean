import EmuLib.Semaphore.Fu
import EmuLib.Semaphore.Rui

/-!
Which sections give the semaphore exactly once, and what that means for the threads of the two
applications.
-/

namespace EmuLib.Semaphore

open BinarySemaphore GuardedRun

inductive RuiActivity
  | workLoop (path : Rui.IterationPath)
  | serverLoop (sends : Bool)
  | fsmCommand (fired : Fired)
  | soapClientCredit (replies : Bool)
  | i2oClientCredit
  | updateDataFileNames

inductive FuActivity
  | take (path : Fu.TakePath)
  | serverLoop (sends : Bool)
  | fsmCommand (fired : Fired)
  | soapClientCredit (replies : Bool)
  | i2oClientCredit

def updateDataFileNames : List (Op FsmState) := [.give]

def ruiSection (settings : Rui.Settings) : RuiActivity → FsmState → List (Op FsmState)
  | .workLoop path, state => Rui.workLoopAction settings path state
  | .serverLoop sends, state => serverLoopAction sends state
  | .fsmCommand fired, _ => processFsmCommand Rui.failAction fired
  | .soapClientCredit replies, _ => onSOAPClientCreditMsg replies
  | .i2oClientCredit, _ => onI2OClientCreditMsg
  | .updateDataFileNames, _ => updateDataFileNames

def fuSection : FuActivity → FsmState → List (Op FsmState)
  | .take path, state => Fu.I2O_FU_TAKE_Callback path state
  | .serverLoop sends, state => serverLoopAction sends state
  | .fsmCommand fired, _ => processFsmCommand Fu.failAction fired
  | .soapClientCredit replies, _ => onSOAPClientCreditMsg replies
  | .i2oClientCredit, _ => onI2OClientCreditMsg

def RuiActivity.Clean (settings : Rui.Settings) (state : FsmState) : RuiActivity → Prop
  | .workLoop path => state = .enabled → path.pass.Clean settings
  | .fsmCommand fired => FailEvent.failedEvent ∉ fired.failActions
  | .serverLoop _ => True
  | .soapClientCredit _ => True
  | .i2oClientCredit => True
  | .updateDataFileNames => True

def FuActivity.Clean (state : FsmState) : FuActivity → Prop
  | .take path => state = .enabled → path.Clean
  | .fsmCommand _ => True
  | .serverLoop _ => True
  | .soapClientCredit _ => True
  | .i2oClientCredit => True

variable {Thread : Type*}

def RuiCareful (settings : Rui.Settings) (system : System Thread FsmState) :
    Input Thread RuiActivity FsmState → Prop
  | .take _ activity => activity.Clean settings system.shared
  | .run _ => True
  | .interfere op => op.isGive = false

def FuCareful (system : System Thread FsmState) : Input Thread FuActivity FsmState → Prop
  | .take _ activity => activity.Clean system.shared
  | .run _ => True
  | .interfere op => op.isGive = false

lemma rui_failAction_gives (event) : gives (Rui.failAction event) = 0 ↔ event ≠ .failedEvent := by
  cases event with
  | fail => simp [Rui.failAction]
  | failedEvent => simp [Rui.failAction, gives, Op.isGive]

lemma fu_failAction_gives (event) : gives (Fu.failAction event) = 0 := by
  cases event <;> rfl

variable {settings : Rui.Settings} {state : FsmState}

lemma ruiSection_givesLast {activity} (clean : activity.Clean settings state) :
    GivesLast (ruiSection settings activity state) := by
  cases activity with
  | workLoop path =>
    exact (Rui.workLoopAction_givesLast path state).2 ((Rui.workLoopAction_once path state).2 clean)
  | serverLoop sends => exact serverLoopAction_givesLast sends state
  | fsmCommand fired =>
    apply (processFsmCommand_givesLast fired).2
    intro event called
    rw [rui_failAction_gives]
    rintro rfl
    exact clean called
  | soapClientCredit replies => exact onSOAPClientCreditMsg_givesLast replies
  | i2oClientCredit => exact onI2OClientCreditMsg_givesLast
  | updateDataFileNames => exact (@givesLast_snoc FsmState []).2 rfl

lemma fuSection_givesLast {activity}
    (clean : activity.Clean state) : GivesLast (fuSection activity state) := by
  cases activity with
  | take path =>
    exact (Fu.I2O_FU_TAKE_Callback_givesLast path state).2
      ((Fu.I2O_FU_TAKE_Callback_once path state).2 clean)
  | serverLoop sends => exact serverLoopAction_givesLast sends state
  | fsmCommand fired =>
    apply (processFsmCommand_givesLast fired).2
    intro event called
    exact fu_failAction_gives event
  | soapClientCredit replies => exact onSOAPClientCreditMsg_givesLast replies
  | i2oClientCredit => exact onI2OClientCreditMsg_givesLast

lemma RuiCareful.disciplined (system : System Thread FsmState)
    (input) (careful : RuiCareful settings system input) :
    Disciplined (ruiSection settings) system input := by
  cases input with
  | take thread activity => exact ruiSection_givesLast careful
  | run thread => trivial
  | interfere op => exact careful

lemma FuCareful.disciplined (system : System Thread FsmState) (input)
    (careful : FuCareful system input) : Disciplined fuSection system input := by
  cases input with
  | take thread activity => exact fuSection_givesLast careful
  | run thread => trivial
  | interfere op => exact careful

/-- The iteration of the work loop and the callback for blocks give the semaphore exactly once
if and only if nothing fails on them that moves the application to the failed state, and as long
as every section is of that kind no two threads are inside at once. -/
theorem semaphore_discipline [DecidableEq Thread] (settings : Rui.Settings) :
    (∀ path state, gives (Rui.workLoopAction settings path state) = 1 ↔
      (state = .enabled → path.pass.Clean settings)) ∧
    (∀ path state, gives (Fu.I2O_FU_TAKE_Callback path state) = 1 ↔
      (state = .enabled → path.Clean)) ∧
    (∀ state (inputs : List (Input Thread RuiActivity FsmState)),
      Guarded (step (ruiSection settings)) (RuiCareful settings) (System.start Thread state)
        inputs →
      AtMostOneInside (runFrom (step (ruiSection settings)) (System.start Thread state)
        inputs)) ∧
    (∀ state (inputs : List (Input Thread FuActivity FsmState)),
      Guarded (step fuSection) FuCareful (System.start Thread state) inputs →
      AtMostOneInside (runFrom (step fuSection) (System.start Thread state) inputs)) := by
  refine ⟨?_, ?_, ?_, ?_⟩
  · intro path state
    exact Rui.workLoopAction_once path state
  · intro path state
    exact Fu.I2O_FU_TAKE_Callback_once path state
  · intro state inputs careful
    exact run_atMostOneInside state inputs (careful.mono RuiCareful.disciplined)
  · intro state inputs careful
    exact run_atMostOneInside state inputs (careful.mono FuCareful.disciplined)

def accepted : Call := ⟨false, ⟨[], .enabled, false⟩⟩

/-- The disk is full: the write throws, and `Fail` is fired. -/
def refused : Call := ⟨true, ⟨[.fail], .failed, false⟩⟩

def toFile : Rui.Settings := ⟨true, true, false, false⟩

def firstReading (write : Call) : Rui.IterationPath :=
  ⟨.reading ⟨false, accepted, 800, true, accepted, false, true, false, write, [], false⟩ true,
    ⟨[.fail], .failed, false⟩⟩

def secondBlock (payload : Call) : Fu.TakePath :=
  ⟨false, true, 1, [⟨⟨7, 0, 1, 2, 0, 1, [0xab]⟩, accepted, accepted, accepted, payload, true,
    accepted, true, true⟩]⟩

/-- Two threads meet: the first has given the semaphore while it moves to the failed state. -/
def overlapping {Activity : Type} (first second : Activity) :
    List (Input Bool Activity FsmState) :=
  [.take false first, .run false, .run false, .take true second]

theorem semaphore_discipline_witness :
    gives (Rui.workLoopAction toFile (firstReading accepted) .enabled) = 1 ∧
    gives (Fu.I2O_FU_TAKE_Callback (secondBlock accepted) .enabled) = 1 ∧
    AtMostOneInside (runFrom (step (ruiSection toFile)) (System.start Bool .enabled)
      (overlapping (.workLoop (firstReading accepted)) .i2oClientCredit)) ∧
    AtMostOneInside (runFrom (step fuSection) (System.start Bool .enabled)
      (overlapping (.take (secondBlock accepted)) .i2oClientCredit)) := by
  have rui : (firstReading accepted).pass.Clean toFile := by
    simp [Rui.PassPath.Clean, Rui.ReadingPath.Sound, firstReading, accepted, toFile]
  have fu : (secondBlock accepted).Clean := by
    simp [Fu.TakePath.Clean, Fu.ChainSound, Fu.BlockPath.Sound, secondBlock, accepted]
  refine ⟨?_, ?_, ?_, ?_⟩
  · exact ((@semaphore_discipline Bool _ toFile).1 _ _).2 fun _ => rui
  · exact ((@semaphore_discipline Bool _ toFile).2.1 _ _).2 fun _ => fu
  · apply (semaphore_discipline toFile).2.2.1
    exact ⟨fun _ => rui, trivial, trivial, trivial, trivial⟩
  · apply (semaphore_discipline toFile).2.2.2
    exact ⟨fun _ => fu, trivial, trivial, trivial, trivial⟩

theorem full_disk_gives_twice :
    gives (Rui.workLoopAction toFile (firstReading refused) .enabled) = 2 ∧
    gives (Fu.I2O_FU_TAKE_Callback (secondBlock refused) .enabled) = 2 ∧
    ¬ AtMostOneInside (runFrom (step (ruiSection toFile)) (System.start Bool .enabled)
      (overlapping (.workLoop (firstReading refused)) .i2oClientCredit)) ∧
    ¬ AtMostOneInside (runFrom (step fuSection) (System.start Bool .enabled)
      (overlapping (.take (secondBlock refused)) .i2oClientCredit)) := by
  refine ⟨by decide, by decide, ?_, ?_⟩
  · intro alone
    have same := alone false true (by decide) (by decide)
    cases same
  · intro alone
    have same := alone false true (by decide) (by decide)
    cases same

end EmuLib.Semaphore
