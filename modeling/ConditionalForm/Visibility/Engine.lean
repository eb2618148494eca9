import ConditionalForm.Dependency.Cycle
import ConditionalForm.Visibility.Flags

/-! # The visibility engine

A field is visible when all its conditions hold, and a condition holds only while the field it
refers to is visible. When a field is evaluated, so is everything that depends on it, whether or not
the field has flipped: a field that is reached along several paths is evaluated once for each.
-/

namespace ConditionalForm

/-- What an evaluation has to say: how many fields it evaluated, repeats included, and the problems
it met, each once. -/
structure Report where
  evaluations : Nat := 0
  problems : List Problem := []
deriving DecidableEq, Repr

namespace Report

def isClean (r : Report) : Bool := r.problems.isEmpty

/-- Adds a problem that the report does not have yet. -/
def record (r : Report) (problem : Problem) : Report :=
  if problem ∈ r.problems then r else { r with problems := r.problems ++ [problem] }

def merge (a b : Report) : Report :=
  ⟨a.evaluations + b.evaluations, (a.problems ++ b.problems).eraseDups⟩

end Report

/-- An evaluation under way: the flags as they are by now, the decisions so far, the newest first,
and the report. -/
structure Progress where
  flags : Flags
  decisions : List Decision := []
  report : Report := {}

namespace Progress

def record (p : Progress) (problem : Problem) : Progress :=
  { p with report := p.report.record problem }

/-- Follows a decision, which makes one evaluation. -/
def decide (p : Progress) (d : Decision) : Progress :=
  ⟨p.flags.set d.1 d.2, d :: p.decisions,
    { p.report with evaluations := p.report.evaluations + 1 }⟩

end Progress

namespace Graph

/-- Checks a condition of a field. One that cannot be compared does not hold and is a problem. -/
def check (g : Graph) (values : Values) (field : FieldId) (p : Progress) (c : Condition) :
    Bool × Progress :=
  if g.contains c.reference then
    match c.compare values with
    | .ok outcome => (p.flags.isVisible c.reference && outcome, p)
    | .error e => (false, p.record (.invalidPattern field c.literal e))
  else (false, p.record (.unresolvedReference field c.reference))

/-- Whether all conditions of a field hold. Those behind one that does not hold are checked too, so
that all problems of the field are met together. -/
def checkAll (g : Graph) (values : Values) (field : FieldId) (p : Progress) :
    List Condition → Bool × Progress
  | [] => (true, p)
  | c :: rest =>
    let (holds, p) := g.check values field p c
    let (restHolds, p) := g.checkAll values field p rest
    (holds && restHolds, p)

/-- Evaluates a field that `path` has led to, and then everything that depends on it. A path that
comes back to one of its fields has closed a cycle and ends there. -/
def evaluateAt (g : Graph) (values : Values) (path : List FieldId) (p : Progress) (id : FieldId) :
    Progress :=
  if id ∈ path then p.record (.cycle (fromOn path id))
  else
    let (visible, p) := g.checkAll values id p (g.conditions id)
    (g.dependents id).attach.foldl (fun p d => g.evaluateAt values (path ++ [id]) p d.1)
      (p.decide (id, visible))
termination_by (g.off path).length
decreasing_by exact length_off_lt ‹_› (mem_ids_of_mem_dependents d.2)

/-- Evaluates everything that depends on a field. -/
def propagate (g : Graph) (values : Values) (p : Progress) (id : FieldId) : Progress :=
  (g.dependents id).foldl (g.evaluateAt values [id]) p

end Graph

structure Engine where
  graph : Graph
  diagnostics : List Diagnostic
  flags : Flags

/-- The result of an evaluation: the engine after it, the decisions in order, and a report. -/
structure Evaluation where
  engine : Engine
  decisions : List Decision
  report : Report

namespace Evaluation

/-- An evaluation and another one after it. -/
def andThen (a b : Evaluation) : Evaluation :=
  ⟨b.engine, a.decisions ++ b.decisions, a.report.merge b.report⟩

end Evaluation

namespace Engine

def isVisible? (e : Engine) (id : FieldId) : Option Bool :=
  if e.graph.contains id then some (e.flags.isVisible id) else none

/-- The fields with their flags, in the order of declaration. -/
def visibility (e : Engine) : List Decision := e.graph.ids.map fun id => (id, e.flags.isVisible id)

/-- The result of an evaluation that has come to its end. -/
def finish (e : Engine) (p : Progress) : Evaluation :=
  ⟨{ e with flags := p.flags }, p.decisions.reverse, p.report⟩

/-- Evaluates a field and everything that depends on it. -/
def evaluate (e : Engine) (values : Values) (id : FieldId) : Except Problem Evaluation :=
  if e.graph.contains id then .ok (e.finish (e.graph.evaluateAt values [] { flags := e.flags } id))
  else .error (.unknownField id)

/-- Evaluates what depends on a field whose value has changed. -/
def notifyChanged (e : Engine) (values : Values) (id : FieldId) : Except Problem Evaluation :=
  if e.graph.contains id then .ok (e.finish (e.graph.propagate values { flags := e.flags } id))
  else .error (.unknownField id)

/-- Evaluates fields one after the other, with one report of all. -/
def evaluateEach (values : Values) (done : Evaluation) : List FieldId → Except Problem Evaluation
  | [] => .ok done
  | id :: rest =>
    match done.engine.evaluate values id with
    | .error e => .error e
    | .ok next => evaluateEach values (done.andThen next) rest

/-- Links the declared fields and evaluates each of them once. The cycles of the graph come first
in the report. -/
def bootstrap (grammar : RuleGrammar) (declarations : List Declaration) (values : Values) :
    Except Problem Evaluation :=
  match Graph.build grammar declarations with
  | .error e => .error e
  | .ok g =>
    let report := (g.cycles.map Problem.cycle).foldl Report.record {}
    evaluateEach values ⟨⟨g, g.diagnostics grammar, .allVisible⟩, [], report⟩ g.ids

end Engine

end ConditionalForm
