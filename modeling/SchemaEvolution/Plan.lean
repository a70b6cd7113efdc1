import SchemaEvolution.Change

/-!
# Plans

A plan is a list of changes in the order in which they are applied. They are undone in the opposite
order, either all of them (`Plan.revert`, which stops at a change that cannot be undone) or as many
as possible (`Plan.partialRevert`, which reports the changes it leaves out).
-/

namespace SchemaEvolution

/-- A migration: changes in order, with an optional name and description. -/
structure Plan where
  name : Option String := none
  description : Option String := none
  changes : List Change := []
deriving DecidableEq

/-- The change that keeps a plan from being undone: its place in the plan and the statement that
applied it. -/
structure Irreversible where
  index : Nat
  statement : Statement
deriving DecidableEq

/-- The message for a change that cannot be undone. -/
def Irreversible.message (e : Irreversible) : String :=
  s!"Change #{e.index} cannot be reverted: {e.statement.sql}"

/-- As much of a plan as can be undone. -/
structure PartialRevert where
  /-- The statements in the order in which they are to be run. -/
  statements : List Statement
  /-- The places of the changes that are left out, the last one first. -/
  skipped : List Nat
deriving DecidableEq

/-- A change with its place in the plan and its statements, as listings show it. -/
structure RenderedChange where
  index : Nat
  kind : Change.Kind
  forward : Statement
  revert : Option Statement
deriving DecidableEq

namespace Plan

/-- The plan with one more change at its end. -/
def push (p : Plan) (c : Change) : Plan :=
  { p with changes := p.changes ++ [c] }

/-- The statements that apply the plan. -/
def forward (p : Plan) : List Statement :=
  p.changes.map Change.forward

/-- The statement that undoes the change at a place of a plan. -/
def undo (indexed : Change × Nat) : Except Irreversible Statement :=
  match indexed.1.revert? with
  | some s => .ok s
  | none => .error ⟨indexed.2, indexed.1.forward⟩

/-- The statements that undo the plan, the last change first. The first change on the way back that
cannot be undone is the error. -/
def revert (p : Plan) : Except Irreversible (List Statement) :=
  p.changes.zipIdx.reverse.mapM undo

/-- The statements that undo what can be undone, the last change first. -/
def partialRevert (p : Plan) : PartialRevert where
  statements := p.changes.reverse.filterMap Change.revert?
  skipped := p.changes.zipIdx.reverse.filterMap fun (c, i) => if c.isReversible then none else some i

/-- Whether every change can be undone. -/
def isReversible (p : Plan) : Bool :=
  p.changes.all Change.isReversible

/-- Every change with its statements. -/
def render (p : Plan) : List RenderedChange :=
  p.changes.zipIdx.map fun (c, i) =>
    { index := i, kind := c.kind, forward := c.forward, revert := c.revert? }

end Plan

end SchemaEvolution
