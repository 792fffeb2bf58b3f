import Mathlib.Data.Nat.ModEq
import Mathlib.Algebra.Ring.Int.Defs
import EmuLib.Lib.GuardedRun

/-!
The rate limiter of the file writer: a ring of the times at which it was last called, and the veto
periods that it sets where so many events have come in too short a time.
-/

namespace EmuLib.Writer

structure TimeVal where
  sec : Int
  usec : Nat
  deriving DecidableEq

namespace TimeVal

def microsec (time : TimeVal) : Int := time.sec * 1000000 + time.usec

def later (first second : TimeVal) : Bool :=
  second.sec < first.sec || first.sec == second.sec && decide (second.usec < first.usec)

end TimeVal

structure RateLimiter where
  sampleSize : Nat
  minTimeSpanInMicrosec : Nat
  timeStamps : Nat → TimeVal
  firstTimeIndex : Nat
  lastTimeIndex : Nat
  endOfVetoPeriod : TimeVal
  eventCount : Nat

structure Decision where
  accepted : Bool
  compared : Option (TimeVal × TimeVal)
  deriving DecidableEq

namespace RateLimiter

def maxUInt64 : Nat := 0xffffffffffffffff

def constructed (sampleSize minTimeSpanInMicrosec : Nat) (timeStamps : Nat → TimeVal) :
    RateLimiter where
  sampleSize := sampleSize
  minTimeSpanInMicrosec := minTimeSpanInMicrosec
  timeStamps := timeStamps
  firstTimeIndex := 0
  lastTimeIndex := 0
  endOfVetoPeriod := ⟨0, 0⟩
  eventCount := 0

variable (limiter : RateLimiter) (now : TimeVal)

def stamped : Nat → TimeVal := Function.update limiter.timeStamps limiter.lastTimeIndex now

def sampleStart : TimeVal := limiter.stamped now limiter.firstTimeIndex

def earliestEndOfSample : TimeVal where
  sec := (limiter.sampleStart now).sec + (limiter.minTimeSpanInMicrosec / 1000000 : Nat)
  usec := (limiter.sampleStart now).usec + limiter.minTimeSpanInMicrosec % 1000000

def nextEventCount : Nat := if limiter.eventCount = maxUInt64 then 0 else limiter.eventCount + 1

def acceptEvent : RateLimiter × Decision :=
  if limiter.minTimeSpanInMicrosec = 0 then (limiter, ⟨true, none⟩)
  else
    let counted := { limiter with
      timeStamps := limiter.stamped now
      eventCount := limiter.nextEventCount
      lastTimeIndex := (limiter.lastTimeIndex + 1) % limiter.sampleSize }
    if limiter.sampleSize ≤ limiter.nextEventCount then
      let moved := { counted with
        firstTimeIndex := (limiter.firstTimeIndex + 1) % limiter.sampleSize }
      if 0 < limiter.endOfVetoPeriod.sec then
        if now.later limiter.endOfVetoPeriod then
          ({ moved with endOfVetoPeriod := ⟨0, 0⟩, eventCount := 1 }, ⟨true, none⟩)
        else (moved, ⟨false, none⟩)
      else if now.later (limiter.earliestEndOfSample now) then
        (moved, ⟨true, some (now, limiter.sampleStart now)⟩)
      else
        ({ moved with endOfVetoPeriod := limiter.earliestEndOfSample now },
          ⟨false, some (now, limiter.sampleStart now)⟩)
    else (counted, ⟨true, none⟩)

def Decides : Prop :=
  limiter.minTimeSpanInMicrosec ≠ 0 ∧ limiter.sampleSize ≤ limiter.nextEventCount ∧
    limiter.endOfVetoPeriod.sec ≤ 0

instance : Decidable limiter.Decides := inferInstanceAs (Decidable (_ ∧ _ ∧ _))

end RateLimiter

/-- The limiter with the times of the accepted calls and of all calls, the last one first, and the
number of veto periods that have ended. -/
structure LimitedRun where
  limiter : RateLimiter
  accepted : List TimeVal
  calls : List TimeVal
  lifted : Nat

namespace LimitedRun

def started (limiter : RateLimiter) : LimitedRun := ⟨limiter, [], [], 0⟩

def lifts (run : LimitedRun) (now : TimeVal) : Bool :=
  decide (run.limiter.minTimeSpanInMicrosec ≠ 0 ∧
      run.limiter.sampleSize ≤ run.limiter.nextEventCount ∧
      0 < run.limiter.endOfVetoPeriod.sec) && now.later run.limiter.endOfVetoPeriod

def step (run : LimitedRun) (now : TimeVal) : LimitedRun :=
  let called := run.limiter.acceptEvent now
  ⟨called.1, if called.2.accepted then now :: run.accepted else run.accepted, now :: run.calls,
    if run.lifts now then run.lifted + 1 else run.lifted⟩

/-- A decision on a full sample compares the time of this call and that of the accepted call that
starts the sample, and the event is accepted exactly if they are far enough apart. -/
def Right (run : LimitedRun) (now : TimeVal) : Prop :=
  ∀ current first, (run.limiter.acceptEvent now).2.compared = some (current, first) →
    current = now ∧ (now :: run.accepted)[run.limiter.sampleSize - 1]? = some first ∧
      ((run.limiter.acceptEvent now).2.accepted = true ↔
        run.limiter.minTimeSpanInMicrosec < now.microsec - first.microsec)

def EndsLater (limiter : RateLimiter) (now : TimeVal) : Prop :=
  now.sec = (limiter.earliestEndOfSample now).sec + 1 ∧
    now.usec + 1000000 ≤ (limiter.earliestEndOfSample now).usec

/-- Where the decision is taken on a full sample, the indices have not drifted, the end of the
sample is in the second that it is taken to be in, and a veto period that is set has an end after
the first second of all; and the count does not overflow. -/
structure Fits (run : LimitedRun) (now : TimeVal) : Prop where
  aligned : run.limiter.Decides → run.limiter.sampleSize ∣ 2 * run.lifted
  ends : run.limiter.Decides → ¬ EndsLater run.limiter now
  vetoes : run.limiter.Decides → now.later (run.limiter.earliestEndOfSample now) = false →
    0 < (run.limiter.earliestEndOfSample now).sec
  counted : run.limiter.eventCount < RateLimiter.maxUInt64

section

open RateLimiter

lemma wrapped {size last back} (lastBound : last < size) (backBound : back < size) :
    (last + (size - 1 - back)) % size =
      if back < last then last - 1 - back else last + (size - 1 - back) := by
  split
  next before =>
    have passed : last + (size - 1 - back) = size + (last - 1 - back) := by omega
    rw [passed, Nat.add_mod_left, Nat.mod_eq_of_lt (by omega)]
  next => exact Nat.mod_eq_of_lt (by omega)

lemma next_mod {size place} (bound : place < size) :
    (place + 1) % size = if place + 1 = size then 0 else place + 1 := by
  split
  next full => rw [full, Nat.mod_self]
  next => exact Nat.mod_eq_of_lt (by omega)

/-- The ring holds the times of the last calls; as many calls as are counted were accepted, while no
veto is set. -/
structure Tracks (run : LimitedRun) : Prop where
  span : run.limiter.minTimeSpanInMicrosec ≠ 0
  first : run.limiter.firstTimeIndex < run.limiter.sampleSize
  last : run.limiter.lastTimeIndex < run.limiter.sampleSize
  drift : run.limiter.firstTimeIndex + min run.limiter.eventCount (run.limiter.sampleSize - 1) ≡
    run.limiter.lastTimeIndex + 2 * run.lifted [MOD run.limiter.sampleSize]
  stamps : ∀ back < run.limiter.sampleSize, ∀ time, run.calls[back]? = some time →
    run.limiter.timeStamps ((run.limiter.lastTimeIndex + (run.limiter.sampleSize - 1 - back)) %
      run.limiter.sampleSize) = time
  enough : run.limiter.eventCount ≤ run.calls.length
  recent : run.limiter.endOfVetoPeriod.sec ≤ 0 →
    ∀ back < run.limiter.eventCount, run.accepted[back]? = run.calls[back]?
  waiting : 0 < run.limiter.endOfVetoPeriod.sec → run.limiter.sampleSize ≤ run.limiter.eventCount
  clock : ∀ time ∈ run.calls, time.usec < 1000000

lemma tracks_started {sampleSize minTimeSpanInMicrosec} (timeStamps)
    (positive : 0 < sampleSize) (span : minTimeSpanInMicrosec ≠ 0) :
    Tracks (started (constructed sampleSize minTimeSpanInMicrosec timeStamps)) where
  span := span
  first := positive
  last := positive
  drift := by simp [started, constructed, Nat.ModEq]
  stamps := by
    intro back _ time none
    cases none
  enough := Nat.le_refl _
  recent := by
    intro _ back none
    cases none
  waiting := by
    intro set
    cases set
  clock := by
    intro time none
    cases none

variable {run : LimitedRun} {now : TimeVal}

lemma Tracks.stamped (tracks : Tracks run) (back) (bound : back < run.limiter.sampleSize)
    (time) (called : (now :: run.calls)[back]? = some time) :
    run.limiter.stamped now (((run.limiter.lastTimeIndex + 1) % run.limiter.sampleSize +
      (run.limiter.sampleSize - 1 - back)) % run.limiter.sampleSize) = time := by
  have last := tracks.last
  have place : ((run.limiter.lastTimeIndex + 1) % run.limiter.sampleSize +
      (run.limiter.sampleSize - 1 - back)) % run.limiter.sampleSize =
        if back = 0 then run.limiter.lastTimeIndex
        else (run.limiter.lastTimeIndex + (run.limiter.sampleSize - 1 - (back - 1))) %
          run.limiter.sampleSize := by
    rw [wrapped (Nat.mod_lt _ (by omega)) bound, next_mod last]
    by_cases zero : back = 0
    · split <;> split at * <;> omega
    · rw [wrapped last (by omega)]
      split <;> split at * <;> split <;> omega
  rw [place, RateLimiter.stamped]
  cases back with
  | zero =>
    rw [if_pos rfl, Function.update_self]
    exact Option.some.inj called
  | succ back =>
    have other : (run.limiter.lastTimeIndex + (run.limiter.sampleSize - 1 - back)) %
        run.limiter.sampleSize ≠ run.limiter.lastTimeIndex := by
      rw [wrapped last (by omega)]
      split <;> omega
    rw [if_neg (Nat.succ_ne_zero _), Nat.add_sub_cancel, Function.update_of_ne other]
    exact tracks.stamps back (by omega) time (by simpa using called)

lemma later_iff (first second : TimeVal) : first.later second = true ↔
    second.sec < first.sec ∨ first.sec = second.sec ∧ second.usec < first.usec := by
  simp [TimeVal.later]

lemma later_earliestEnd {limiter} (ends : ¬ EndsLater limiter now) (clock : now.usec < 1000000)
    (started : (limiter.sampleStart now).usec < 1000000) :
    now.later (limiter.earliestEndOfSample now) = true ↔
      limiter.minTimeSpanInMicrosec < now.microsec - (limiter.sampleStart now).microsec := by
  rw [later_iff]
  unfold EndsLater earliestEndOfSample at *
  unfold TimeVal.microsec
  dsimp only at *
  omega

lemma aligned_first {first last size} (firstBound : first < size) (lastBound : last < size)
    (aligned : first + (size - 1) ≡ last [MOD size]) : first = (last + 1) % size := by
  have next : first + (size - 1) + 1 ≡ last + 1 [MOD size] := aligned.add_right 1
  have whole : first + (size - 1) + 1 = first + size := by omega
  rw [whole, Nat.ModEq, Nat.add_mod_right, Nat.mod_eq_of_lt firstBound] at next
  exact next

lemma Tracks.sampleStart (tracks : Tracks run) (fits : Fits run now)
    (decides : run.limiter.Decides) :
    (now :: run.accepted)[run.limiter.sampleSize - 1]? = some (run.limiter.sampleStart now) ∧
      run.limiter.sampleStart now ∈ now :: run.calls := by
  have none : 2 * run.lifted ≡ 0 [MOD run.limiter.sampleSize] :=
    (Nat.modEq_zero_iff_dvd).mpr (fits.aligned decides)
  obtain ⟨_, full, unset⟩ := decides
  have counted : run.limiter.nextEventCount = run.limiter.eventCount + 1 :=
    if_neg (Nat.ne_of_lt fits.counted)
  have enough := tracks.enough
  have positive := tracks.first
  have drift := tracks.drift
  rw [Nat.min_eq_right (by omega)] at drift
  have first := aligned_first tracks.first tracks.last
    (drift.trans (by simpa using none.add_left run.limiter.lastTimeIndex))
  have inside : run.limiter.sampleSize - 1 < (now :: run.calls).length := by
    rw [List.length_cons]
    omega
  have called := List.getElem?_eq_getElem inside
  have start := tracks.stamped _ (by omega) _ called
  rw [Nat.sub_self, Nat.add_zero, Nat.mod_mod, ← first] at start
  have same : (now :: run.accepted)[run.limiter.sampleSize - 1]? =
      (now :: run.calls)[run.limiter.sampleSize - 1]? := by
    cases size : run.limiter.sampleSize - 1 with
    | zero => rfl
    | succ back =>
      exact tracks.recent unset back (by omega)
  unfold RateLimiter.sampleStart
  rw [start]
  exact ⟨same.trans called, List.getElem_mem inside⟩

/-- How a call goes: before the sample is full, in a veto period or behind its end, or with a
decision on the sample. -/
inductive Called (limiter : RateLimiter) (now : TimeVal) : RateLimiter × Decision → Prop where
  | filling (few : limiter.eventCount + 1 < limiter.sampleSize) :
      Called limiter now ({ limiter with
        timeStamps := limiter.stamped now
        eventCount := limiter.eventCount + 1
        lastTimeIndex := (limiter.lastTimeIndex + 1) % limiter.sampleSize }, ⟨true, none⟩)
  | full (endOfVetoPeriod : TimeVal) (eventCount : Nat) (decision : Decision)
      (enough : limiter.sampleSize ≤ limiter.eventCount + 1)
      (how : (0 < limiter.endOfVetoPeriod.sec ∧ now.later limiter.endOfVetoPeriod = true ∧
          endOfVetoPeriod = ⟨0, 0⟩ ∧ eventCount = 1 ∧ decision = ⟨true, none⟩) ∨
        (eventCount = limiter.eventCount + 1 ∧
          ((0 < limiter.endOfVetoPeriod.sec ∧ now.later limiter.endOfVetoPeriod = false ∧
              endOfVetoPeriod = limiter.endOfVetoPeriod ∧ decision = ⟨false, none⟩) ∨
            limiter.endOfVetoPeriod.sec ≤ 0 ∧
              decision = ⟨now.later (limiter.earliestEndOfSample now),
                some (now, limiter.sampleStart now)⟩ ∧
              endOfVetoPeriod = if now.later (limiter.earliestEndOfSample now) then
                limiter.endOfVetoPeriod else limiter.earliestEndOfSample now))) :
      Called limiter now ({ limiter with
        timeStamps := limiter.stamped now
        eventCount := eventCount
        lastTimeIndex := (limiter.lastTimeIndex + 1) % limiter.sampleSize
        firstTimeIndex := (limiter.firstTimeIndex + 1) % limiter.sampleSize
        endOfVetoPeriod := endOfVetoPeriod }, decision)

lemma acceptEvent_called {limiter} (span : limiter.minTimeSpanInMicrosec ≠ 0)
    (counted : limiter.eventCount < maxUInt64) (now) :
    Called limiter now (limiter.acceptEvent now) := by
  have next : limiter.nextEventCount = limiter.eventCount + 1 := if_neg (Nat.ne_of_lt counted)
  unfold acceptEvent
  simp only [if_neg span, next]
  by_cases enough : limiter.sampleSize ≤ limiter.eventCount + 1
  · rw [if_pos enough]
    by_cases set : 0 < limiter.endOfVetoPeriod.sec
    · rw [if_pos set]
      cases passed : now.later limiter.endOfVetoPeriod with
      | true => exact .full _ _ _ enough (.inl ⟨set, passed, rfl, rfl, rfl⟩)
      | false => exact .full _ _ _ enough (.inr ⟨rfl, .inl ⟨set, passed, rfl, rfl⟩⟩)
    · rw [if_neg set]
      cases passed : now.later (limiter.earliestEndOfSample now) with
      | true =>
        refine .full _ _ _ enough (.inr ⟨rfl, .inr ⟨Int.not_lt.mp set, ?_, ?_⟩⟩)
        · rw [passed]
        · rw [passed, if_pos rfl]
      | false =>
        refine .full _ _ _ enough (.inr ⟨rfl, .inr ⟨Int.not_lt.mp set, ?_, ?_⟩⟩)
        · rw [passed]
        · rw [passed, if_neg Bool.false_ne_true]
  · rw [if_neg enough]
    exact .filling (Nat.not_le.mp enough)

lemma Called.decides {limiter called} (how : Called limiter now called) {current first}
    (compared : called.2.compared = some (current, first)) :
    limiter.endOfVetoPeriod.sec ≤ 0 ∧ limiter.sampleSize ≤ limiter.eventCount + 1 ∧
      current = now ∧ first = limiter.sampleStart now ∧
      called.2.accepted = now.later (limiter.earliestEndOfSample now) := by
  cases how with
  | filling few => cases compared
  | full endOfVetoPeriod eventCount decision enough how =>
    rcases how with ⟨_, _, _, _, rfl⟩ | ⟨_, ⟨_, _, _, rfl⟩ | ⟨unset, rfl, _⟩⟩
    · cases compared
    · cases compared
    · obtain ⟨rfl, rfl⟩ := Prod.mk.inj (Option.some.inj compared)
      exact ⟨unset, enough, rfl, rfl, rfl⟩

lemma Tracks.right (tracks : Tracks run) (fits : Fits run now) (clock : now.usec < 1000000) :
    Right run now := by
  intro current first compared
  have called := acceptEvent_called tracks.span fits.counted now
  obtain ⟨unset, enough, rfl, rfl, accepted⟩ := called.decides compared
  have counted : run.limiter.nextEventCount = run.limiter.eventCount + 1 :=
    if_neg (Nat.ne_of_lt fits.counted)
  have decides : run.limiter.Decides := ⟨tracks.span, by rw [counted]; exact enough, unset⟩
  obtain ⟨earlier, member⟩ := tracks.sampleStart fits decides
  have valid : (run.limiter.sampleStart current).usec < 1000000 := by
    rcases List.mem_cons.mp member with same | before
    · rw [same]
      exact clock
    · exact tracks.clock _ before
  rw [accepted]
  exact ⟨rfl, earlier, later_earliestEnd (fits.ends decides) clock valid⟩

lemma drift_succ {first last count lifted size}
    (drift : first + count ≡ last + 2 * lifted [MOD size]) :
    first + (count + 1) ≡ (last + 1) % size + 2 * lifted [MOD size] := by
  have next := (drift.add_right 1).trans
    (show last + 2 * lifted + 1 ≡ (last + 1) % size + 2 * lifted [MOD size] by
      rw [Nat.add_right_comm]
      exact ((Nat.mod_modEq _ _).symm).add_right _)
  rwa [Nat.add_assoc] at next

lemma drift_full {first last lifted size}
    (drift : first + (size - 1) ≡ last + 2 * lifted [MOD size]) :
    (first + 1) % size + (size - 1) ≡ (last + 1) % size + 2 * lifted [MOD size] := by
  have next := drift_succ drift
  have moved : (first + 1) % size + (size - 1) ≡ first + (size - 1 + 1) [MOD size] := by
    rw [← Nat.add_assoc, Nat.add_right_comm]
    exact (Nat.mod_modEq _ _).add_right _
  exact moved.trans next

lemma drift_lifted {first last lifted size} (positive : 0 < size)
    (drift : first + (size - 1) ≡ last + 2 * lifted [MOD size]) :
    (first + 1) % size + min 1 (size - 1) ≡ (last + 1) % size + 2 * (lifted + 1) [MOD size] := by
  by_cases one : size = 1
  · rw [one]
    exact Nat.modEq_one
  · have next := (drift_full drift).add_right 2
    have least : min 1 (size - 1) = 1 := by omega
    have around : (first + 1) % size + (size - 1) + 2 = (first + 1) % size + 1 + size := by omega
    rw [around] at next
    rw [least]
    exact (Nat.add_mod_right _ _).symm.trans next

lemma Tracks.step (tracks : Tracks run) (fits : Fits run now) (clock : now.usec < 1000000) :
    Tracks (run.step now) := by
  have positive := tracks.first
  have clocks : ∀ time ∈ now :: run.calls, time.usec < 1000000 :=
    List.forall_mem_cons.mpr ⟨clock, tracks.clock⟩
  have counted : run.limiter.nextEventCount = run.limiter.eventCount + 1 :=
    if_neg (Nat.ne_of_lt fits.counted)
  have lifts : run.lifts now = (decide (run.limiter.sampleSize ≤ run.limiter.eventCount + 1 ∧
      0 < run.limiter.endOfVetoPeriod.sec) && now.later run.limiter.endOfVetoPeriod) := by
    unfold LimitedRun.lifts
    simp [tracks.span, counted]
  have bound := Nat.mod_lt (run.limiter.lastTimeIndex + 1) (show 0 < run.limiter.sampleSize by omega)
  have moved := Nat.mod_lt (run.limiter.firstTimeIndex + 1)
    (show 0 < run.limiter.sampleSize by omega)
  have longer : run.limiter.eventCount + 1 ≤ (now :: run.calls).length := Nat.succ_le_succ tracks.enough
  have accepts (unset : run.limiter.endOfVetoPeriod.sec ≤ 0) (back : Nat)
      (below : back < run.limiter.eventCount + 1) :
      (now :: run.accepted)[back]? = (now :: run.calls)[back]? := by
    cases back with
    | zero => rfl
    | succ back => exact tracks.recent unset back (by omega)
  have drift := tracks.drift
  have how := acceptEvent_called tracks.span fits.counted now
  unfold LimitedRun.step
  rw [lifts]
  generalize run.limiter.acceptEvent now = called at how ⊢
  cases how with
  | filling few =>
    have notFull : ¬ (run.limiter.sampleSize ≤ run.limiter.eventCount + 1) := by omega
    simp only [notFull, false_and, decide_false, Bool.false_and, Bool.false_eq_true, if_false]
    refine ⟨tracks.span, tracks.first, bound, ?_, tracks.stamped, longer, accepts, ?_, clocks⟩
    · dsimp only
      rw [Nat.min_eq_left (by omega)] at drift
      rw [Nat.min_eq_left (by omega)]
      exact drift_succ drift
    · intro set
      exact Nat.le_succ_of_le (tracks.waiting set)
  | full endOfVetoPeriod eventCount decision enough how =>
    rw [Nat.min_eq_right (by omega)] at drift
    rcases how with ⟨set, passed, rfl, rfl, rfl⟩ |
      ⟨rfl, ⟨set, passed, rfl, rfl⟩ | ⟨unset, rfl, veto⟩⟩
    · simp only [enough, set, and_self, decide_true, passed, Bool.and_self, if_true]
      have lifted := drift_lifted (show 0 < run.limiter.sampleSize by omega) drift
      refine ⟨tracks.span, moved, bound, lifted, tracks.stamped, ?_, ?_, ?_, clocks⟩
      · exact Nat.succ_le_succ (Nat.zero_le _)
      · intro _ back below
        obtain rfl := Nat.lt_one_iff.mp below
        rfl
      · intro set
        cases set
    · simp only [passed, Bool.and_false, Bool.false_eq_true, if_false]
      refine ⟨tracks.span, moved, bound, ?_, tracks.stamped, longer, ?_, fun _ => enough, clocks⟩
      · dsimp only
        rw [Nat.min_eq_right (by omega)]
        exact drift_full drift
      · intro unset
        exact absurd set (Int.not_lt.mpr unset)
    · have noLift : ¬ (0 < run.limiter.endOfVetoPeriod.sec) := Int.not_lt.mpr unset
      simp only [noLift, and_false, decide_false, Bool.false_and, Bool.false_eq_true, if_false]
      refine ⟨tracks.span, moved, bound, ?_, tracks.stamped, longer, ?_, fun _ => enough, clocks⟩
      · dsimp only
        rw [Nat.min_eq_right (by omega)]
        exact drift_full drift
      · dsimp only
        intro stillUnset
        cases passed : now.later (run.limiter.earliestEndOfSample now) with
        | true =>
          exact accepts unset
        | false =>
          rw [passed] at veto
          have decides : run.limiter.Decides := ⟨tracks.span, by rw [counted]; exact enough, unset⟩
          have later := fits.vetoes decides passed
          rw [veto] at stillUnset
          exact absurd later (Int.not_lt.mpr stillUnset)

end

open GuardedRun RateLimiter

lemma step_span (run : LimitedRun) (now) :
    (run.step now).limiter.minTimeSpanInMicrosec = run.limiter.minTimeSpanInMicrosec := by
  unfold LimitedRun.step acceptEvent
  split
  · rfl
  · split
    · split
      · split <;> rfl
      · split <;> rfl
    · rfl

lemma right_unlimited {run} (unlimited : run.limiter.minTimeSpanInMicrosec = 0)
    (now) : Right run now := by
  intro current first compared
  unfold acceptEvent at compared
  rw [if_pos unlimited] at compared
  cases compared

theorem sliding_window (sampleSize minTimeSpanInMicrosec : Nat) (timeStamps : Nat → TimeVal)
    (times : List TimeVal) (positive : 0 < sampleSize) (clock : ∀ time ∈ times, time.usec < 1000000)
    (fits : Guarded LimitedRun.step Fits
      (started (constructed sampleSize minTimeSpanInMicrosec timeStamps)) times) :
    Guarded LimitedRun.step Right
      (started (constructed sampleSize minTimeSpanInMicrosec timeStamps)) times := by
  by_cases unlimited : minTimeSpanInMicrosec = 0
  · have same : (started (constructed sampleSize minTimeSpanInMicrosec
        timeStamps)).limiter.minTimeSpanInMicrosec = 0 := unlimited
    clear clock fits
    generalize started (constructed sampleSize minTimeSpanInMicrosec timeStamps) = run at *
    induction times generalizing run with
    | nil => trivial
    | cons now times ih =>
      exact ⟨right_unlimited same now, ih _ ((step_span run now).trans same)⟩
  · have tracks := tracks_started timeStamps positive unlimited
    generalize started (constructed sampleSize minTimeSpanInMicrosec timeStamps) = run at *
    induction times generalizing run with
    | nil => trivial
    | cons now times ih =>
      rw [List.forall_mem_cons] at clock
      exact ⟨tracks.right fits.1 clock.1, ih clock.2 _ fits.2 (tracks.step fits.1 clock.1)⟩

def threeAndTwo : List TimeVal := [⟨1, 0⟩, ⟨1, 1⟩, ⟨1, 2⟩, ⟨1, 11⟩, ⟨1, 30⟩]

def ofThree : LimitedRun := started (constructed 3 10 fun _ => ⟨0, 0⟩)

instance (limiter : RateLimiter) (now : TimeVal) : Decidable (EndsLater limiter now) :=
  inferInstanceAs (Decidable (_ ∧ _))

theorem sliding_window_threeAndTwo : Guarded LimitedRun.step Right ofThree threeAndTwo := by
  apply sliding_window 3 10 _ threeAndTwo (by decide) (by decide)
  simp only [threeAndTwo, guarded_cons, guarded_nil, and_true]
  refine ⟨?_, ?_, ?_, ?_, ?_⟩
  all_goals
    refine ⟨?_, ?_, ?_, ?_⟩
    all_goals decide +kernel

theorem sliding_window_drifts : ¬ ∀ (sampleSize minTimeSpanInMicrosec : Nat)
    (timeStamps : Nat → TimeVal) (times : List TimeVal), 0 < sampleSize →
      (∀ time ∈ times, time.usec < 1000000) →
        Guarded LimitedRun.step Right
          (started (constructed sampleSize minTimeSpanInMicrosec timeStamps)) times := by
  intro right
  have all := right 3 10 (fun _ => ⟨0, 0⟩) (threeAndTwo ++ [⟨1, 50⟩]) (by decide) (by decide)
  have last := ((guarded_append _ _ _).mp all).2.1
  have compared := last ⟨1, 50⟩ ⟨1, 50⟩ (by decide +kernel)
  exact absurd compared.2.1 (by decide +kernel)

end LimitedRun

end EmuLib.Writer
