import EaBot.Foundation.Lineage
import Mathlib.Algebra.Order.Ring.Int

/-!
# The tree of token budgets

Every node of the tree may have a limit.  A reservation and the usage that is reported for it
are booked on the node and on all of its ancestors.  The check of a reservation looks at the
reserved tokens only, and a report takes what was used, and not what was reserved, out of the
reserved tokens.
-/

namespace EaBot.Llm

open EaBot.Foundation

/-- One node of the tree. -/
structure BudgetNode where
  name : String
  maxTokens : Option Int
  parent : Option Nat
  reserved : Int
  usedTokens : Int

namespace BudgetNode

/-- The used and the reserved tokens. -/
def usedOrReserved (node : BudgetNode) : Int :=
  node.usedTokens + node.reserved

/-- Reserve tokens on one node. -/
def reserving (tokens : Int) (node : BudgetNode) : BudgetNode :=
  { node with reserved := node.reserved + tokens }

/-- Report the usage on one node. -/
def reporting (actual : Int) (node : BudgetNode) : BudgetNode :=
  { node with
    reserved := max 0 (node.reserved - actual), usedTokens := node.usedTokens + actual }

theorem reserving_parent (tokens : Int) (node : BudgetNode) :
    (node.reserving tokens).parent = node.parent := rfl

theorem reporting_parent (actual : Int) (node : BudgetNode) :
    (node.reporting actual).parent = node.parent := rfl

/-- A node has room for tokens beside the reserved ones. -/
def HasRoom (node : BudgetNode) (tokens : Int) : Prop :=
  ∀ limit, node.maxTokens = some limit → node.reserved + tokens ≤ limit

/-- A node has room for tokens beside the used and the reserved ones. -/
def HasUnspentRoom (node : BudgetNode) (tokens : Int) : Prop :=
  ∀ limit, node.maxTokens = some limit → node.usedOrReserved + tokens ≤ limit

instance (node : BudgetNode) (tokens : Int) : Decidable (node.HasRoom tokens) :=
  decidable_of_iff (∀ limit ∈ node.maxTokens, node.reserved + tokens ≤ limit) Iff.rfl

end BudgetNode

/-- The parent of a node in a list of nodes. -/
def parentIn (nodes : List BudgetNode) (node : Nat) : Option Nat :=
  nodes[node]?.bind BudgetNode.parent

/-- The nodes in the order of their creation.  The first one is the root. -/
structure BudgetTree where
  nodes : List BudgetNode
  descends : Lineage.Descends (parentIn nodes)
  rooted : ∀ node < nodes.length, parentIn nodes node = none → node = 0

namespace BudgetTree

/-- A tree with its root. -/
def initial (globalTokens : Option Int) : BudgetTree where
  nodes := [⟨"global", globalTokens, none, 0, 0⟩]
  descends := by
    intro node ancestor up
    cases node <;> cases up
  rooted := by
    intro node inside _
    exact Nat.lt_one_iff.mp inside

/-- A node with its ancestors. -/
def chain (tree : BudgetTree) (node : Nat) : List Nat :=
  Lineage.lineage (parentIn tree.nodes) node

theorem parentIn_append (nodes : List BudgetNode) (added : BudgetNode) (node : Nat) :
    parentIn (nodes ++ [added]) node =
      if node = nodes.length then added.parent else parentIn nodes node := by
  rw [parentIn, parentIn]
  by_cases last : node = nodes.length
  · rw [if_pos last, last, List.getElem?_concat_length]
    rfl
  · rw [if_neg last]
    by_cases inside : node < nodes.length
    · rw [List.getElem?_append_left inside]
    · have beyond : nodes.length ≤ node := Nat.not_lt.mp inside
      rw [List.getElem?_eq_none (by simp; omega), List.getElem?_eq_none beyond]

/-- A new node under a node. -/
def child (tree : BudgetTree) (parent : Nat) (name : String) (tokens : Option Int) :
    BudgetTree :=
  if inside : parent < tree.nodes.length then
    { nodes := tree.nodes ++ [⟨name, tokens, some parent, 0, 0⟩]
      descends := by
        intro node ancestor up
        rw [parentIn_append] at up
        by_cases last : node = tree.nodes.length
        · rw [if_pos last] at up
          rw [← Option.some.inj up, last]
          exact inside
        · rw [if_neg last] at up
          exact tree.descends node ancestor up
      rooted := by
        intro node within up
        rw [parentIn_append] at up
        by_cases last : node = tree.nodes.length
        · rw [if_pos last] at up
          cases up
        · rw [if_neg last] at up
          rw [List.length_append, List.length_singleton] at within
          exact tree.rooted node (by omega) up }
  else tree

/-- A change that keeps the parents, made to a node and its ancestors. -/
def book (tree : BudgetTree) (node : Nat) (change : BudgetNode → BudgetNode)
    (keeps : ∀ node, (change node).parent = node.parent) : BudgetTree :=
  have lookup : ∀ index, (Lineage.forEach (tree.chain node) change tree.nodes)[index]? =
      if index ∈ tree.chain node then tree.nodes[index]?.map change else tree.nodes[index]? :=
    Lineage.getElem?_forEach (Lineage.lineage_nodup tree.descends node) change tree.nodes
  have parents : parentIn (Lineage.forEach (tree.chain node) change tree.nodes) =
      parentIn tree.nodes := by
    funext index
    rw [parentIn, lookup, parentIn]
    split
    · cases tree.nodes[index]? with
      | none => rfl
      | some found => exact keeps found
    · rfl
  have size := Lineage.length_forEach (tree.chain node) change tree.nodes
  { nodes := Lineage.forEach (tree.chain node) change tree.nodes
    descends := by rw [parents]; exact tree.descends
    rooted := by rw [parents, size]; exact tree.rooted }

/-- Reserve tokens on a node and all of its ancestors. -/
def reserve (tree : BudgetTree) (node : Nat) (tokens : Int) : Bool × BudgetTree :=
  if tokens ≤ 0 then (true, tree)
  else if ∃ member ∈ tree.chain node, ∃ found ∈ tree.nodes[member]?, ¬ found.HasRoom tokens then
    (false, tree)
  else
    (true, tree.book node (.reserving tokens) (BudgetNode.reserving_parent tokens))

/-- Report the usage on a node and all of its ancestors. -/
def commit (tree : BudgetTree) (node : Nat) (actualTokens : Int) : BudgetTree :=
  tree.book node (.reporting (max 0 actualTokens)) (BudgetNode.reporting_parent _)

section Book

variable (tree : BudgetTree) (node : Nat) (change : BudgetNode → BudgetNode)
  (keeps : ∀ node, (change node).parent = node.parent)

theorem book_nodes (index : Nat) :
    (tree.book node change keeps).nodes[index]? =
      if index ∈ tree.chain node then tree.nodes[index]?.map change else tree.nodes[index]? :=
  Lineage.getElem?_forEach (Lineage.lineage_nodup tree.descends node) change tree.nodes index

theorem of_book_nodes {index : Nat} {booked : BudgetNode}
    (held : (tree.book node change keeps).nodes[index]? = some booked) :
    ∃ found, tree.nodes[index]? = some found ∧
      booked = if index ∈ tree.chain node then change found else found := by
  rw [book_nodes] at held
  by_cases through : index ∈ tree.chain node
  · rw [if_pos through] at held
    rcases Option.map_eq_some_iff.mp held with ⟨found, before, changed⟩
    exact ⟨found, before, changed.symm.trans (if_pos through).symm⟩
  · rw [if_neg through] at held
    exact ⟨booked, held, (if_neg through).symm⟩

theorem book_nodes_of {index : Nat} {found : BudgetNode}
    (before : tree.nodes[index]? = some found) :
    (tree.book node change keeps).nodes[index]? =
      some (if index ∈ tree.chain node then change found else found) := by
  rw [book_nodes, before]
  split <;> rfl

theorem book_length : (tree.book node change keeps).nodes.length = tree.nodes.length :=
  Lineage.length_forEach _ _ _

/-- A booking leaves the chains. -/
theorem book_chain (other : Nat) :
    (tree.book node change keeps).chain other = tree.chain other := by
  rw [chain, chain]
  apply Lineage.lineage_congr tree.descends
  intro found _
  rw [parentIn, book_nodes, parentIn]
  split
  · cases tree.nodes[found]? with
    | none => rfl
    | some held => exact keeps held
  · rfl

end Book

variable {tree : BudgetTree}

theorem root_mem_chain {node : Nat} (inside : node < tree.nodes.length) :
    0 ∈ tree.chain node :=
  Lineage.root_mem_lineage tree.descends tree.rooted inside

theorem le_of_mem_chain {node member : Nat} (among : member ∈ tree.chain node) : member ≤ node :=
  Lineage.le_of_mem_lineage tree.descends among

theorem child_nodes {parent : Nat} (inside : parent < tree.nodes.length) (name : String)
    (tokens : Option Int) :
    (tree.child parent name tokens).nodes = tree.nodes ++ [⟨name, tokens, some parent, 0, 0⟩] := by
  rw [child, dif_pos inside]

/-- A new node leaves the chains of the others. -/
theorem child_chain {parent : Nat} (inside : parent < tree.nodes.length) (name : String)
    (tokens : Option Int) {node : Nat} (old : node < tree.nodes.length) :
    (tree.child parent name tokens).chain node = tree.chain node := by
  rw [chain, chain, child_nodes inside]
  apply Lineage.lineage_congr tree.descends
  intro found le
  rw [parentIn_append, if_neg (by omega)]

/-- What the check of a reservation comes to. -/
theorem reserve_cases (node : Nat) (tokens : Int) :
    (tokens ≤ 0 ∧ tree.reserve node tokens = (true, tree)) ∨
      (0 < tokens ∧ (¬ ∀ member ∈ tree.chain node, ∀ found ∈ tree.nodes[member]?,
          found.HasRoom tokens) ∧ tree.reserve node tokens = (false, tree)) ∨
      0 < tokens ∧ (∀ member ∈ tree.chain node, ∀ found ∈ tree.nodes[member]?,
          found.HasRoom tokens) ∧
        tree.reserve node tokens =
          (true, tree.book node (.reserving tokens) (BudgetNode.reserving_parent tokens)) := by
  rw [reserve]
  by_cases none : tokens ≤ 0
  · rw [if_pos none]
    exact .inl ⟨none, rfl⟩
  · rw [if_neg none]
    have some : 0 < tokens := not_le.mp none
    by_cases refused : ∃ member ∈ tree.chain node, ∃ found ∈ tree.nodes[member]?,
        ¬ found.HasRoom tokens
    · rw [if_pos refused]
      refine .inr (.inl ⟨some, fun room => ?_, rfl⟩)
      rcases refused with ⟨member, among, found, held, full⟩
      exact full (room member among found held)
    · rw [if_neg refused]
      refine .inr (.inr ⟨some, fun member among found held => ?_, rfl⟩)
      by_contra full
      exact refused ⟨member, among, found, held, full⟩

end BudgetTree

end EaBot.Llm
