import SchemaWeaver.Proofs.Traversal.Nodes
import SchemaWeaver.Proofs.Traversal.Step
import SchemaWeaver.Report

/-!
# Walks in order

Without a pool a traversal is a native fold: the nodes of the listing one after another, and at each
node its steps one after another. `traverse_refines` reduces every question about such a traversal
to this fold on the state of the visitors, in which nothing fails and nothing is logged.
-/

namespace SchemaWeaver

/-- The steps of a visit to a node: the targets on the node itself, then those on its members. -/
def Node.steps (node : Node) : List Step := node.stops.flatMap Stop.steps

namespace Service

variable {σ : Type}

/-- A visit to a node as a computation on the state of the visitors. -/
def visit (s : Service σ) (node : Node) : StateM σ Outcome :=
  node.steps.foldlM s.take (s.begin node)

/-- Visits to nodes one after another. -/
def walk (s : Service σ) (nodes : List Node) : StateM σ (List Outcome) := nodes.mapM s.visit

theorem foldlM_perform_refines (s : Service σ) (steps : List Step) {o : Outcome}
    (h : o.consumed = false) :
    Engine.Refines (steps.foldlM s.perform o) (steps.foldlM s.take o) :=
  Engine.Refines.foldlM (P := fun o => o.consumed = false)
    (fun o step _ isOpen => (s.sameVisit_takenIn step o _).consumed.trans isOpen)
    (fun _ step isOpen => s.perform_refines isOpen step) steps h

theorem visitSite_refines (s : Service σ) (site : Site) :
    Engine.Refines (s.visitSite site) (site.steps.foldlM s.take (s.begin site.head)) :=
  s.foldlM_perform_refines site.steps rfl

/-- Visits to the sites of nodes are a walk over the nodes. -/
theorem visitSites_refines (s : Service σ) (nodes : List Node) :
    Engine.Refines ((nodes.map Node.site).mapM s.visitSite) (s.walk nodes) := by
  rw [List.mapM_map]
  exact Engine.Refines.mapM (fun node => s.visitSite_refines node.site) nodes

/-- Visits every node of a schema, one after another and without a pool. -/
def traverseInOrder (s : Service σ) (schema : Schema) : Engine σ Report := do
  let outcomes ← schema.sites.mapM s.visitSite
  return ⟨schema.package, outcomes⟩

private theorem visitBlock_of_sequential {s : Service σ} (sequential : s.parallel = false)
    (block : Block) : s.visitBlock block = block.sites.mapM s.visitSite := by
  simp only [visitBlock, sequential, Bool.false_and, Bool.false_eq_true, if_false, Block.sites,
    List.mapM_cons, visitInOrder]

private theorem mapM_flatMap {m : Type → Type} [Monad m] [LawfulMonad m] {α β γ : Type}
    (f : β → m γ) (g : α → List β) (xs : List α) :
    (xs.flatMap g).mapM f = List.flatten <$> xs.mapM fun x => (g x).mapM f := by
  induction xs with
  | nil => simp
  | cons x xs ih => simp [ih]

/-- A traversal in order goes from site to site; it tells if it had been asked for more workers. -/
theorem traverse_eq_traverseInOrder {s : Service σ} (sequential : s.parallel = false)
    (schema : Schema) : s.traverse schema = (do
      if s.workers > 1 then Engine.log [sequentialRecord]
      s.traverseInOrder schema) := by
  have blocks : s.visitBlocks schema.blocks = schema.sites.mapM s.visitSite := by
    rw [visitBlocks, funext (visitBlock_of_sequential sequential), Schema.sites, mapM_flatMap,
      map_eq_pure_bind]
  simp only [traverse, traverseInOrder, sequential, blocks, Bool.not_false, Bool.and_true,
    decide_eq_true_eq]

/-- A traversal in order is a walk over the nodes of the schema. -/
theorem traverse_refines {s : Service σ} (sequential : s.parallel = false) (schema : Schema) :
    Engine.Refines (s.traverse schema) (Report.mk schema.package <$> s.walk schema.nodes) := by
  have walk : Engine.Refines (s.traverseInOrder schema)
      (Report.mk schema.package <$> s.walk schema.nodes) := by
    rw [traverseInOrder, schema.sites_eq, map_eq_pure_bind]
    exact (s.visitSites_refines schema.nodes).bind_any fun _ => .pure _
  rw [traverse_eq_traverseInOrder sequential]
  split
  · exact (Engine.Refines.log _).bind_pure walk
  · exact walk

end Service

end SchemaWeaver
