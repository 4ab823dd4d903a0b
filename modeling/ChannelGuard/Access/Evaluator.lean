import ChannelGuard.Access.Context
import ChannelGuard.Condition.Evaluation

/-!
Evaluators and their runs. A run unfolds in time: it may wait, change the evaluator, and end with a
verdict or never. A limit on its time turns what comes too late into a failure and keeps all of it
from happening.
-/
namespace ChannelGuard

/-- Why an evaluator gave no verdict. -/
inductive Failure where
  | failed (text : String)
  /-- No verdict within the limit in milliseconds. -/
  | timedOut (limit : Nat)
  deriving DecidableEq

def Failure.message : Failure → String
  | failed text => text
  | timedOut limit => "evaluator did not respond within " ++ intText limit ++ "ms"

/-- One run of an evaluator as it unfolds. Each stage holds the evaluator as the run has left it so
far. -/
inductive Course (ε : Type) where
  /-- Ends with a verdict, or with a failure of its own. -/
  | answers (verdict : Except Failure Bool) (after : ε)
  /-- Never ends. -/
  | hangs (after : ε)
  /-- Goes on after `ms` milliseconds. -/
  | waits (ms : Nat) (meanwhile : ε) (later : Course ε)

namespace Course

def map {ε δ : Type} (f : ε → δ) : Course ε → Course δ
  | answers verdict after => .answers verdict (f after)
  | hangs after => .hangs (f after)
  | waits ms meanwhile later => .waits ms (f meanwhile) (later.map f)

end Course

/-- What decides on one resource type in one direction. -/
class Evaluator (ε : Type) where
  /-- The run that starts when the evaluator is asked about a context. -/
  start : ε → Context → Course ε

/-- A condition answers at once and stays as it is. -/
instance : Evaluator Condition where
  start c context := .answers ((c.holds context.toJson).mapError (.failed ·.message)) c

inductive Decision where
  | allowed
  | denied
  | failed (failure : Failure)
  /-- No verdict ever. -/
  | pending
  deriving DecidableEq

/-- Failures are passed on, whatever they are. -/
def Decision.ofVerdict : Except Failure Bool → Decision
  | .ok true => .allowed
  | .ok false => .denied
  | .error failure => .failed failure

/-- A run of which `elapsed` milliseconds have passed, stopped when it goes beyond the limit. A
verdict exactly at the limit is in time. -/
def Course.settle {ε : Type} (limit : Option Nat) (elapsed : Nat) : Course ε → Decision × ε
  | answers verdict after => (.ofVerdict verdict, after)
  | hangs after =>
    match limit with
    | some t => (.failed (.timedOut t), after)
    | none => (.pending, after)
  | waits ms meanwhile later =>
    match limit with
    | some t =>
      if t < elapsed + ms then (.failed (.timedOut t), meanwhile)
      else later.settle limit (elapsed + ms)
    | none => later.settle limit (elapsed + ms)

/-- Runs an evaluator once, and gives it back as the run has left it. -/
def Evaluator.decision {ε : Type} [Evaluator ε] (evaluator : ε) (context : Context)
    (limit : Option Nat) : Decision × ε :=
  (Evaluator.start evaluator context).settle limit 0

end ChannelGuard
