import Landscape.Proofs.Calls

/-!
Runs in which sinks call back. A script is a finite tree of calls: what is called, what the sink that
hears of it calls in turn before it answers, its answer, and what is called next. Running a script leaves
a trace of what was heard, in the order in which it was heard and nested as it was heard. Whatever a sink
decides by what it sees, in one finite run it makes certain calls and gives certain answers, and a call is
heard of at most once; so what holds of every script holds of every run with any sinks.
-/

namespace Landscape

inductive Script where
  | done
  | call (wanted : Call) (inner : Script) (verdict : Except EventError Unit) (rest : Script)

structure Heard where
  call : Call
  sender : Option ModelRef
  event : Event
  verdict : Except EventError Unit

/-- What was heard, each with what was heard during it and what was heard after it. -/
inductive Trace where
  | still
  | heard (entry : Heard) (inner rest : Trace)

namespace Trace

def append : Trace → Trace → Trace
  | still, later => later
  | heard entry inner rest, later => heard entry inner (rest.append later)

def flat : Trace → List Heard
  | still => []
  | heard entry inner rest => entry :: (inner.flat ++ rest.flat)

theorem append_still (trace : Trace) : trace.append still = trace := by
  induction trace with
  | still => rfl
  | heard entry inner rest _ ih => rw [append, ih]

theorem append_assoc (first second third : Trace) :
    (first.append second).append third = first.append (second.append third) := by
  induction first with
  | still => rfl
  | heard entry inner rest _ ih => rw [append, append, append, ih]

theorem flat_append (first second : Trace) :
    (first.append second).flat = first.flat ++ second.flat := by
  induction first with
  | still => rfl
  | heard entry inner rest _ ih =>
      rw [append, flat, flat, ih, List.cons_append, List.append_assoc]

end Trace

/-- Sinks that do the same thing whatever they hear, note it, and give the same answer. -/
def hearing (call : Call) (sender : Option ModelRef) (verdict : Except EventError Unit)
    (inner : Estate Trace → Estate Trace) : Deliver Trace := fun _ event found =>
  let after := inner (found.amid .still)
  (verdict,
    after.amid (found.outside.append (.heard ⟨call, sender, event, verdict⟩ after.outside .still)))

def Script.run : Script → Estate Trace → Estate Trace
  | done, estate => estate
  | call wanted inner verdict rest, estate =>
      rest.run (wanted.perform (hearing wanted (wanted.sender estate) verdict inner.run) estate).2

end Landscape
