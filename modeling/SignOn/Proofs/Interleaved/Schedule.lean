import SignOn.Flow.Interleaved
import SignOn.Service.Basic

/-!
# Schedules of calls

Exchanges and redemptions are carried out side by side.  At any moment another call begins, one
that can go on does, or the clock of the cache moves forward.
-/

namespace SignOn.Service

inductive Call where
  | exchange (code : Text)
  | redeem (code : Text)
  deriving DecidableEq, Repr

namespace Call

def code : Call → Text
  | exchange code => code
  | redeem code => code

def flow (client : Client) : Call → Flow Text
  | exchange code => Service.exchange client code
  | redeem code => Service.redeem code

end Call

inductive Move where
  | begin (call : Call)
  | proceed (number : Nat)
  | advance (ticks : Nat)
  deriving DecidableEq, Repr

def Move.step (client : Client) : Move → Interleaved.Step
  | begin call => .begin (call.flow client)
  | proceed number => .proceed number
  | advance ticks => .advance ticks

structure Moment where
  run : Interleaved
  move : Move

inductive Reaches (client : Client) (initial : State) : List Moment → Interleaved → Prop where
  | start : Reaches client initial [] (.start initial)
  | move {past : List Moment} {run next : Interleaved} (h : Reaches client initial past run)
      (move : Move) (hstep : run.step? (move.step client) = some next) :
      Reaches client initial (past ++ [⟨run, move⟩]) next

variable {client : Client} {initial : State} {past : List Moment} {run : Interleaved}

def moments (client : Client) (run : Interleaved) : List Move → List Moment
  | [] => []
  | move :: rest =>
      ⟨run, move⟩ ::
        match run.step? (move.step client) with
        | none => []
        | some next => moments client next rest

theorem Reaches.append_moments (h : Reaches client initial past run) {moves : List Move}
    {next : Interleaved} (hrun : run.run? (moves.map (Move.step client)) = some next) :
    Reaches client initial (past ++ moments client run moves) next := by
  induction moves generalizing past run with
  | nil =>
      cases hrun
      simpa [moments] using h
  | cons move rest ih =>
      obtain ⟨middle, hstep, hrest⟩ := Option.bind_eq_some_iff.mp hrun
      rw [moments, hstep, List.append_cons]
      exact ih (h.move move hstep) hrest

theorem reaches_moments {moves : List Move}
    (h : (Interleaved.start initial).run? (moves.map (Move.step client)) = some run) :
    Reaches client initial (moments client (.start initial) moves) run :=
  Reaches.append_moments .start h

def value? (run : Interleaved) (n : Nat) : Option Text :=
  match run.tasks[n]? with
  | some (.ready (.done (.ok value))) => some value
  | _ => none

theorem value?_eq_some {n : Nat} {value : Text} :
    value? run n = some value ↔ run.tasks[n]? = some (.ready (.done (.ok value))) := by
  unfold value?
  split
  next found htask => rw [htask]; simp
  next hnone => exact ⟨nofun, fun htask => absurd htask (hnone value)⟩

/-- A task calls an action, and gets an answer, at once or later. -/
structure Event where
  task : Nat
  action : Action
  answer : action.Answer

def Moment.event? (moment : Moment) : Option Event :=
  match moment.move with
  | .proceed number =>
      match moment.run.tasks[number]? with
      | some (.ready (.act action _)) =>
          some ⟨number, action, (moment.run.state.perform action).1⟩
      | _ => none
  | _ => none

end SignOn.Service
