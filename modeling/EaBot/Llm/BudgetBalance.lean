import EaBot.Foundation.Run
import EaBot.Llm.Budget
import Mathlib.Algebra.BigOperators.Group.List.Basic
import Mathlib.Algebra.Order.BigOperators.Group.List

/-!
# The balance of the budgets

Beside the tree stand the reservations that are still to be reported and the tokens that the
reports so far have left of theirs.  What a node keeps reserved is the sum of the reservations
below it that are still to be reported, and what earlier reports have left.
-/

namespace EaBot.Llm

open EaBot.Foundation

/-- An operation on a tree.  A report names the reservation that it is for. -/
inductive BudgetOperation
  | child (parent : Nat) (name : String) (tokens : Option Int)
  | reserve (node : Nat) (tokens : Int)
  | commit (node : Nat) (reservation actualTokens : Int)

/-- A tree with the reservations that are still to be reported, and the tokens that reports have
left of theirs. -/
structure BudgetBook where
  tree : BudgetTree
  outstanding : List (Nat × Int)
  unused : Int

namespace BudgetBook

/-- A tree that was just made. -/
def initial (globalTokens : Option Int) : BudgetBook :=
  ⟨BudgetTree.initial globalTokens, [], 0⟩

/-- One operation. -/
def step (book : BudgetBook) : BudgetOperation → BudgetBook
  | .child parent name tokens => { book with tree := book.tree.child parent name tokens }
  | .reserve node tokens =>
      let answer := book.tree.reserve node tokens
      { book with
        tree := answer.2
        outstanding :=
          if answer.1 then (node, max 0 tokens) :: book.outstanding else book.outstanding }
  | .commit node reservation actualTokens =>
      ⟨book.tree.commit node actualTokens, book.outstanding.erase (node, reservation),
        book.unused + (reservation - max 0 actualTokens)⟩

/-- The calls are made on nodes of the tree, and a report is for a reservation on the same
node and reports at most what was reserved. -/
def Disciplined (book : BudgetBook) : BudgetOperation → Prop
  | .child parent _ _ => parent < book.tree.nodes.length
  | .reserve node _ => node < book.tree.nodes.length
  | .commit node reservation actualTokens =>
      (node, reservation) ∈ book.outstanding ∧ actualTokens ≤ reservation

instance (book : BudgetBook) (operation : BudgetOperation) :
    Decidable (book.Disciplined operation) :=
  match operation with
  | .child _ _ _ | .reserve _ _ => inferInstanceAs (Decidable (_ < _))
  | .commit _ _ _ => inferInstanceAs (Decidable (_ ∧ _))

/-- No node exceeds its limit, and nothing is reserved once every reservation is reported. -/
structure Sound (book : BudgetBook) : Prop where
  within : ∀ (index : Nat) (node : BudgetNode), book.tree.nodes[index]? = some node →
    ∀ limit, node.maxTokens = some limit → node.usedOrReserved ≤ limit
  settled : book.outstanding = [] →
    ∀ (index : Nat) (node : BudgetNode), book.tree.nodes[index]? = some node → node.reserved = 0

/-- A node gets no negative limit, a reservation that fits beside the reserved tokens also fits
beside the used ones, and once every reservation is reported, each report has used all of it. -/
def Thrifty (book : BudgetBook) : BudgetOperation → Prop
  | .child _ _ tokens => ∀ limit, tokens = some limit → 0 ≤ limit
  | .reserve node tokens =>
      0 < tokens → (∀ member ∈ book.tree.chain node, ∀ found ∈ book.tree.nodes[member]?,
        found.HasRoom tokens) →
      ∀ member ∈ book.tree.chain node, ∀ found ∈ book.tree.nodes[member]?,
        found.HasUnspentRoom tokens
  | .commit node reservation actualTokens =>
      book.outstanding.erase (node, reservation) = [] →
        book.unused = 0 ∧ max 0 actualTokens = reservation

/-- The reserved tokens that pass through a node. -/
def owed (tree : BudgetTree) (outstanding : List (Nat × Int)) (index : Nat) : Int :=
  (outstanding.map fun reservation =>
    if index ∈ tree.chain reservation.1 then reservation.2 else 0).sum

/-- What the nodes keep reserved. -/
structure Balanced (book : BudgetBook) : Prop where
  existing : ∀ reservation ∈ book.outstanding,
    reservation.1 < book.tree.nodes.length ∧ 0 ≤ reservation.2
  unused : 0 ≤ book.unused
  least : ∀ index node, book.tree.nodes[index]? = some node →
    owed book.tree book.outstanding index ≤ node.reserved
  most : ∀ index node, book.tree.nodes[index]? = some node →
    node.reserved ≤ owed book.tree book.outstanding index + book.unused
  root : ∃ node, book.tree.nodes[0]? = some node ∧
    node.reserved = owed book.tree book.outstanding 0 + book.unused

theorem owed_cons (tree : BudgetTree) (node : Nat) (tokens : Int)
    (outstanding : List (Nat × Int)) (index : Nat) :
    owed tree ((node, tokens) :: outstanding) index =
      (if index ∈ tree.chain node then tokens else 0) + owed tree outstanding index := by
  rw [owed, owed, List.map_cons, List.sum_cons]

theorem owed_erase (tree : BudgetTree) {node : Nat} {tokens : Int}
    {outstanding : List (Nat × Int)} (member : (node, tokens) ∈ outstanding) (index : Nat) :
    owed tree outstanding index = (if index ∈ tree.chain node then tokens else 0) +
      owed tree (outstanding.erase (node, tokens)) index := by
  rw [← owed_cons]
  exact ((List.perm_cons_erase member).map _).sum_eq

theorem owed_nonneg (tree : BudgetTree) {outstanding : List (Nat × Int)}
    (positive : ∀ reservation ∈ outstanding, 0 ≤ reservation.2) (index : Nat) :
    0 ≤ owed tree outstanding index := by
  apply List.sum_nonneg
  intro part among
  rcases List.mem_map.mp among with ⟨reservation, member, rfl⟩
  split
  · exact positive reservation member
  · exact le_rfl

/-- The same chains owe the same. -/
theorem owed_congr {tree other : BudgetTree} {outstanding : List (Nat × Int)}
    (same : ∀ reservation ∈ outstanding, other.chain reservation.1 = tree.chain reservation.1)
    (index : Nat) : owed other outstanding index = owed tree outstanding index := by
  rw [owed, owed]
  congr 1
  apply List.map_congr_left
  intro reservation member
  rw [same reservation member]

variable {book : BudgetBook}

/-- Once every reservation is reported, nothing is reserved exactly when the reports have left
nothing. -/
theorem Balanced.settled_iff (balanced : book.Balanced) (reported : book.outstanding = []) :
    (∀ (index : Nat) (node : BudgetNode), book.tree.nodes[index]? = some node →
      node.reserved = 0) ↔
      book.unused = 0 := by
  have nothing : ∀ index, owed book.tree book.outstanding index = 0 := by
    intro index
    rw [reported]
    rfl
  constructor
  · intro settled
    rcases balanced.root with ⟨node, held, reserved⟩
    rw [nothing, settled 0 node held] at reserved
    omega
  · intro unused index node held
    have least := balanced.least index node held
    have most := balanced.most index node held
    rw [nothing] at least most
    omega

/-- A new node keeps the balance. -/
theorem Balanced.child (balanced : book.Balanced) {parent : Nat}
    (inside : parent < book.tree.nodes.length) (name : String) (tokens : Option Int) :
    (book.step (.child parent name tokens)).Balanced := by
  have nodes := BudgetTree.child_nodes inside name tokens
  have owes : ∀ index, owed (book.tree.child parent name tokens) book.outstanding index =
      owed book.tree book.outstanding index := by
    apply owed_congr
    intro reservation member
    exact BudgetTree.child_chain inside name tokens (balanced.existing reservation member).1
  have fresh : owed book.tree book.outstanding book.tree.nodes.length = 0 := by
    apply List.sum_eq_zero
    intro part among
    rcases List.mem_map.mp among with ⟨reservation, member, rfl⟩
    rw [if_neg]
    intro through
    have below := (balanced.existing reservation member).1
    exact absurd (BudgetTree.le_of_mem_chain through) (by omega)
  have cases : ∀ index node, (book.tree.child parent name tokens).nodes[index]? = some node →
      book.tree.nodes[index]? = some node ∨
        index = book.tree.nodes.length ∧ node.reserved = 0 := by
    intro index node held
    rw [nodes] at held
    by_cases old : index < book.tree.nodes.length
    · rw [List.getElem?_append_left old] at held
      exact .inl held
    · have last : index = book.tree.nodes.length := by
        have within := (List.getElem?_eq_some_iff.mp held).1
        rw [List.length_append, List.length_singleton] at within
        omega
      rw [last, List.getElem?_concat_length] at held
      rw [← Option.some.inj held]
      exact .inr ⟨last, rfl⟩
  constructor
  · intro reservation member
    rcases balanced.existing reservation member with ⟨below, positive⟩
    refine ⟨?_, positive⟩
    simp only [step, nodes, List.length_append, List.length_singleton]
    omega
  · exact balanced.unused
  · intro index node held
    simp only [step, owes]
    rcases cases index node held with old | ⟨last, empty⟩
    · exact balanced.least index node old
    · rw [last, fresh, empty]
  · intro index node held
    simp only [step, owes]
    rcases cases index node held with old | ⟨last, empty⟩
    · exact balanced.most index node old
    · rw [last, fresh, empty, zero_add]
      exact balanced.unused
  · rcases balanced.root with ⟨node, held, reserved⟩
    refine ⟨node, ?_, ?_⟩
    · simp only [step, nodes]
      exact (List.getElem?_append_left (List.getElem?_eq_some_iff.mp held).1).trans held
    · simp only [step, owes]
      exact reserved

/-- A reservation that is accepted keeps the balance. -/
theorem Balanced.reserved (balanced : book.Balanced) {node : Nat}
    (inside : node < book.tree.nodes.length) {tokens : Int} (some : 0 < tokens) :
    Balanced ⟨book.tree.book node (.reserving tokens) (BudgetNode.reserving_parent tokens),
      (node, tokens) :: book.outstanding, book.unused⟩ := by
  have owes : ∀ index, owed (book.tree.book node (.reserving tokens)
      (BudgetNode.reserving_parent tokens)) ((node, tokens) :: book.outstanding) index =
        (if index ∈ book.tree.chain node then tokens else 0) +
          owed book.tree book.outstanding index := by
    intro index
    rw [← owed_cons]
    exact owed_congr (fun _ _ => BudgetTree.book_chain _ _ _ _ _) index
  have size := BudgetTree.book_length book.tree node (.reserving tokens)
    (BudgetNode.reserving_parent tokens)
  constructor
  · intro reservation member
    rcases List.mem_cons.mp member with rfl | before
    · exact ⟨inside.trans_eq size.symm, some.le⟩
    · rcases balanced.existing reservation before with ⟨below, positive⟩
      exact ⟨below.trans_eq size.symm, positive⟩
  · exact balanced.unused
  · intro index booked held
    rcases BudgetTree.of_book_nodes _ _ _ (BudgetNode.reserving_parent tokens) held with
      ⟨found, before, rfl⟩
    have least := balanced.least index found before
    rw [owes]
    by_cases through : index ∈ book.tree.chain node
    · simp only [if_pos through, BudgetNode.reserving]
      omega
    · simp only [if_neg through]
      omega
  · intro index booked held
    rcases BudgetTree.of_book_nodes _ _ _ (BudgetNode.reserving_parent tokens) held with
      ⟨found, before, rfl⟩
    have most := balanced.most index found before
    rw [owes]
    by_cases through : index ∈ book.tree.chain node
    · simp only [if_pos through, BudgetNode.reserving]
      omega
    · simp only [if_neg through]
      omega
  · rcases balanced.root with ⟨found, before, reserved⟩
    refine ⟨_, BudgetTree.book_nodes_of _ _ _ (BudgetNode.reserving_parent tokens) before, ?_⟩
    rw [owes]
    simp only [if_pos (BudgetTree.root_mem_chain inside), BudgetNode.reserving]
    omega

/-- What a node keeps reserved covers a reservation that passes through it. -/
theorem Balanced.covers (balanced : book.Balanced) {node : Nat} {reservation : Int}
    (member : (node, reservation) ∈ book.outstanding) {index : Nat} {found : BudgetNode}
    (held : book.tree.nodes[index]? = some found) (through : index ∈ book.tree.chain node) :
    reservation ≤ found.reserved := by
  have least := balanced.least index found held
  have others : 0 ≤ owed book.tree (book.outstanding.erase (node, reservation)) index :=
    owed_nonneg book.tree
      (fun other among => (balanced.existing other (List.mem_of_mem_erase among)).2) index
  rw [owed_erase book.tree member, if_pos through] at least
  omega

/-- A report keeps the balance. -/
theorem Balanced.commit (balanced : book.Balanced) {node : Nat} {reservation actualTokens : Int}
    (member : (node, reservation) ∈ book.outstanding) (most : actualTokens ≤ reservation) :
    (book.step (.commit node reservation actualTokens)).Balanced := by
  have positive := (balanced.existing _ member).2
  have owes : ∀ index, owed (book.tree.commit node actualTokens)
      (book.outstanding.erase (node, reservation)) index =
        owed book.tree book.outstanding index -
          (if index ∈ book.tree.chain node then reservation else 0) := by
    intro index
    have same : owed (book.tree.commit node actualTokens)
        (book.outstanding.erase (node, reservation)) index =
          owed book.tree (book.outstanding.erase (node, reservation)) index :=
      owed_congr (fun _ _ => BudgetTree.book_chain _ _ _ (BudgetNode.reporting_parent _) _) index
    rw [same, owed_erase book.tree member]
    omega
  constructor
  · intro other among
    simp only [step, BudgetTree.commit, BudgetTree.book_length]
    exact balanced.existing other (List.mem_of_mem_erase among)
  · have unused := balanced.unused
    simp only [step]
    omega
  · intro index booked held
    rcases BudgetTree.of_book_nodes _ _ _ (BudgetNode.reporting_parent _) held with
      ⟨found, before, rfl⟩
    have least := balanced.least index found before
    simp only [step, owes]
    by_cases through : index ∈ book.tree.chain node
    · have covered := balanced.covers member before through
      simp only [if_pos through, BudgetNode.reporting]
      omega
    · simp only [if_neg through]
      omega
  · intro index booked held
    rcases BudgetTree.of_book_nodes _ _ _ (BudgetNode.reporting_parent _) held with
      ⟨found, before, rfl⟩
    have upper := balanced.most index found before
    simp only [step, owes]
    by_cases through : index ∈ book.tree.chain node
    · have covered := balanced.covers member before through
      simp only [if_pos through, BudgetNode.reporting]
      omega
    · simp only [if_neg through]
      omega
  · rcases balanced.root with ⟨found, before, reserved⟩
    have through := BudgetTree.root_mem_chain (balanced.existing _ member).1
    have covered := balanced.covers member before through
    refine ⟨_, BudgetTree.book_nodes_of _ _ _ (BudgetNode.reporting_parent _) before, ?_⟩
    simp only [step, owes, if_pos through, BudgetNode.reporting]
    omega

/-- A reservation keeps the balance. -/
theorem Balanced.reserve (balanced : book.Balanced) {node : Nat}
    (inside : node < book.tree.nodes.length) (tokens : Int) :
    (book.step (.reserve node tokens)).Balanced := by
  rcases @BudgetTree.reserve_cases book.tree node tokens with
    ⟨none, answer⟩ | ⟨-, -, answer⟩ | ⟨some, -, answer⟩
  · simp only [step, answer, if_true, max_eq_left none]
    have owes : ∀ index, owed book.tree ((node, 0) :: book.outstanding) index =
        owed book.tree book.outstanding index := by
      intro index
      rw [owed_cons, ite_self, zero_add]
    constructor
    · intro reservation member
      rcases List.mem_cons.mp member with rfl | before
      · exact ⟨inside, le_rfl⟩
      · exact balanced.existing reservation before
    · exact balanced.unused
    · intro index found held
      rw [owes]
      exact balanced.least index found held
    · intro index found held
      rw [owes]
      exact balanced.most index found held
    · rw [owes]
      exact balanced.root
  · simp only [step, answer, Bool.false_eq_true, if_false]
    exact balanced
  · simp only [step, answer, if_true, max_eq_right some.le]
    exact balanced.reserved inside some

/-- A disciplined operation keeps the balance. -/
theorem Balanced.step (balanced : book.Balanced) {operation : BudgetOperation}
    (disciplined : book.Disciplined operation) : (book.step operation).Balanced := by
  cases operation with
  | child parent name tokens => exact balanced.child disciplined name tokens
  | reserve node tokens => exact balanced.reserve disciplined tokens
  | commit node reservation actualTokens => exact balanced.commit disciplined.1 disciplined.2

/-- A new node keeps the book sound exactly when its limit is not negative. -/
theorem Sound.child_iff (sound : book.Sound) {parent : Nat}
    (inside : parent < book.tree.nodes.length) (name : String) (tokens : Option Int) :
    (book.step (.child parent name tokens)).Sound ↔ book.Thrifty (.child parent name tokens) := by
  have nodes := BudgetTree.child_nodes inside name tokens
  constructor
  · intro kept limit given
    have added := kept.within book.tree.nodes.length ⟨name, tokens, some parent, 0, 0⟩
      (by rw [BudgetBook.step, nodes]; exact List.getElem?_concat_length) limit given
    simpa [BudgetNode.usedOrReserved] using added
  · intro thrifty
    have cases : ∀ (index : Nat) (node : BudgetNode),
        (book.tree.child parent name tokens).nodes[index]? = some node →
        book.tree.nodes[index]? = some node ∨ node = ⟨name, tokens, some parent, 0, 0⟩ := by
      intro index node held
      rw [nodes, List.getElem?_append] at held
      split at held
      · exact .inl held
      · exact .inr (List.mem_singleton.mp (List.mem_of_getElem? held))
    constructor
    · intro index node held limit given
      rcases cases index node held with old | rfl
      · exact sound.within index node old limit given
      · simpa [BudgetNode.usedOrReserved] using thrifty limit given
    · intro reported index node held
      rcases cases index node held with old | rfl
      · exact sound.settled reported index node old
      · rfl

/-- A reservation keeps the book sound exactly when one that is accepted fits beside the used
tokens. -/
theorem Sound.reserve_iff (sound : book.Sound) (node : Nat) (tokens : Int) :
    (book.step (.reserve node tokens)).Sound ↔ book.Thrifty (.reserve node tokens) := by
  rcases @BudgetTree.reserve_cases book.tree node tokens with
    ⟨none, answer⟩ | ⟨some, full, answer⟩ | ⟨some, room, answer⟩
  · simp only [BudgetBook.step, answer, if_true]
    exact iff_of_true ⟨sound.within, nofun⟩ (fun some => absurd some (not_lt.mpr none))
  · simp only [BudgetBook.step, answer, Bool.false_eq_true, if_false]
    exact iff_of_true sound (fun _ room => absurd room full)
  · simp only [BudgetBook.step, answer, if_true]
    constructor
    · intro kept _ _ member among found held limit given
      have booked := kept.within member _
        (BudgetTree.book_nodes_of _ _ _ (BudgetNode.reserving_parent tokens) held) limit
      simp only [if_pos among] at booked
      have fits := booked given
      simp only [BudgetNode.usedOrReserved, BudgetNode.reserving] at fits ⊢
      omega
    · intro thrifty
      refine ⟨?_, nofun⟩
      intro index booked held limit given
      rcases BudgetTree.of_book_nodes _ _ _ (BudgetNode.reserving_parent tokens) held with
      ⟨found, before, rfl⟩
      by_cases among : index ∈ book.tree.chain node
      · simp only [if_pos among] at given ⊢
        have fits := thrifty some room index among found before limit given
        simp only [BudgetNode.usedOrReserved, BudgetNode.reserving] at fits ⊢
        omega
      · simp only [if_neg among] at given ⊢
        exact sound.within index found before limit given

/-- A report keeps the book sound exactly when the last one leaves nothing. -/
theorem Sound.commit_iff (sound : book.Sound) (balanced : book.Balanced) {node : Nat}
    {reservation actualTokens : Int} (member : (node, reservation) ∈ book.outstanding)
    (most : actualTokens ≤ reservation) :
    (book.step (.commit node reservation actualTokens)).Sound ↔
      book.Thrifty (.commit node reservation actualTokens) := by
  have next := balanced.commit member most
  have positive := (balanced.existing _ member).2
  have unused := balanced.unused
  have nothing : (book.step (.commit node reservation actualTokens)).unused = 0 ↔
      book.unused = 0 ∧ max 0 actualTokens = reservation := by
    simp only [BudgetBook.step] at positive ⊢
    omega
  constructor
  · intro kept reported
    exact nothing.mp ((next.settled_iff reported).mp (kept.settled reported))
  · intro thrifty
    constructor
    · intro index booked held limit given
      rcases BudgetTree.of_book_nodes _ _ _ (BudgetNode.reporting_parent _) held with
      ⟨found, before, rfl⟩
      by_cases among : index ∈ book.tree.chain node
      · have covered := balanced.covers member before among
        simp only [if_pos among] at given ⊢
        have fits := sound.within index found before limit given
        simp only [BudgetNode.usedOrReserved, BudgetNode.reporting] at fits ⊢
        omega
      · simp only [if_neg among] at given ⊢
        exact sound.within index found before limit given
    · intro reported
      exact (next.settled_iff reported).mpr (nothing.mpr (thrifty reported))

/-- A disciplined operation keeps the book sound exactly when it is thrifty. -/
theorem Sound.step_iff (sound : book.Sound) (balanced : book.Balanced)
    {operation : BudgetOperation} (disciplined : book.Disciplined operation) :
    (book.step operation).Sound ↔ book.Thrifty operation := by
  cases operation with
  | child parent name tokens => exact sound.child_iff disciplined name tokens
  | reserve node tokens => exact sound.reserve_iff node tokens
  | commit node reservation actualTokens =>
      exact sound.commit_iff balanced disciplined.1 disciplined.2

theorem balanced_initial (globalTokens : Option Int) : (initial globalTokens).Balanced where
  existing := fun _ member => absurd member List.not_mem_nil
  unused := le_rfl
  least := fun index node held => by
    cases index with
    | zero => exact (Option.some.inj held) ▸ le_rfl
    | succ index => cases held
  most := fun index node held => by
    cases index with
    | zero => exact (Option.some.inj held) ▸ le_rfl
    | succ index => cases held
  root := ⟨_, rfl, rfl⟩

/-- A new tree is sound exactly when its limit is not negative. -/
theorem sound_initial_iff (globalTokens : Option Int) :
    (initial globalTokens).Sound ↔ ∀ limit, globalTokens = some limit → 0 ≤ limit := by
  constructor
  · intro sound limit given
    exact sound.within 0 _ rfl limit given
  · intro positive
    constructor
    · intro index node held limit given
      cases index with
      | zero =>
          rw [← Option.some.inj held] at given ⊢
          exact positive limit given
      | succ index => cases held
    · intro _ index node held
      cases index with
      | zero => exact (Option.some.inj held) ▸ rfl
      | succ index => cases held

/-- In every disciplined run the book is sound in every state exactly when no limit is negative,
every reservation that is accepted fits beside the used tokens, and whenever all reservations are
reported the reports have used all of them. -/
theorem every_sound_iff (globalTokens : Option Int) {operations : List BudgetOperation}
    (disciplined : Run.Every step Disciplined (initial globalTokens) operations) :
    ((initial globalTokens).Sound ∧
        Run.Every step (fun book operation => (book.step operation).Sound) (initial globalTokens)
          operations) ↔
      (∀ limit, globalTokens = some limit → 0 ≤ limit) ∧
        Run.Every step Thrifty (initial globalTokens) operations := by
  rw [sound_initial_iff]
  apply and_congr_right
  intro positive
  apply Run.every_iff_of_assumed (fun book => book.Balanced ∧ book.Sound) disciplined
  · intro book operation invariant disciplined thrifty
    rcases invariant with ⟨balanced, sound⟩
    exact ⟨balanced.step disciplined, (sound.step_iff balanced disciplined).mpr thrifty⟩
  · intro book operation invariant disciplined
    exact invariant.2.step_iff invariant.1 disciplined
  · exact ⟨balanced_initial globalTokens, (sound_initial_iff globalTokens).mpr positive⟩

/-- A reservation on a child is reported in full. -/
private def reportedInFull : List BudgetOperation :=
  [.child 0 "supervisor" (some 60), .reserve 1 40, .commit 1 40 40]

private theorem reportedInFull_disciplined :
    Run.Every step Disciplined (initial (some 100)) reportedInFull :=
  ⟨by decide +kernel, by decide +kernel, by decide +kernel, trivial⟩

/-- The budgets are in balance when a reservation is reported in full. -/
theorem reportedInFull_sound :
    (initial (some 100)).Sound ∧
      Run.Every step (fun book operation => (book.step operation).Sound) (initial (some 100))
        reportedInFull := by
  apply (every_sound_iff (some 100) reportedInFull_disciplined).mpr
  refine ⟨fun limit given => ?_, fun limit given => ?_, ?_, fun _ => ⟨rfl, rfl⟩, trivial⟩
  · rw [← Option.some.inj given]
    decide
  · rw [← Option.some.inj given]
    decide
  · -- nothing is used yet, so what fits beside the reserved tokens fits
    intro _ room member among found held limit given
    have fits := room member among found held limit given
    have unused : found.usedTokens = 0 := by
      have all :
          ∀ node ∈ ((initial (some 100)).step (.child 0 "supervisor" (some 60))).tree.nodes,
            node.usedTokens = 0 := by decide +kernel
      exact all found (List.mem_of_getElem? held)
    rw [BudgetNode.usedOrReserved, unused, zero_add]
    exact fits

/-- Tokens that were reported are reserved a second time, and the rest of a reservation stays
reserved after its report. -/
theorem overspent_and_kept :
    (Run.Every step Disciplined (initial (some 100))
        [.reserve 0 100, .commit 0 100 100, .reserve 0 100] ∧
      ¬ Run.Every step (fun book operation => (book.step operation).Sound) (initial (some 100))
        [.reserve 0 100, .commit 0 100 100, .reserve 0 100]) ∧
      Run.Every step Disciplined (initial (some 100)) [.reserve 0 100, .commit 0 100 40] ∧
      ¬ Run.Every step (fun book operation => (book.step operation).Sound) (initial (some 100))
        [.reserve 0 100, .commit 0 100 40] := by
  refine ⟨⟨⟨by decide +kernel, by decide +kernel, by decide +kernel, trivial⟩, ?_⟩,
    ⟨by decide +kernel, by decide +kernel, trivial⟩, ?_⟩
  · rintro ⟨-, -, sound, -⟩
    have within := sound.within 0 _ rfl 100 rfl
    revert within
    decide +kernel
  · rintro ⟨-, sound, -⟩
    have kept := sound.settled (by decide +kernel) 0 _ rfl
    revert kept
    decide +kernel

end BudgetBook

end EaBot.Llm
