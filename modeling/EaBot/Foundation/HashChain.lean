import Mathlib.Data.List.Basic
import Mathlib.Data.List.Forall2
import Mathlib.Data.List.Induction

/-!
# Hash chains

A sequence of records in which every record carries its position, the link of the record
before it and a link of its own: the digest of a text that spells out the position, the
link before it and what the record says.

The check of a chain finds the first record that is not the one that appending would have
put there.  Two chains with one link in common are the same up to it, as long as no two
different texts that they hash have the same digest.
-/

namespace EaBot.Foundation.HashChain

universe u v w

variable {α : Type u} {γ : Type v} {τ : Type w}

/-- A record of a chain. -/
structure Block (α : Type u) (γ : Type v) where
  index : Nat
  content : α
  previous : γ
  link : γ
deriving DecidableEq

/-- How the position, the link before and the content of a record are hashed. -/
structure Scheme (α : Type u) (γ : Type v) (τ : Type w) where
  encode : Nat → γ → α → τ
  digest : τ → γ
  genesis : γ

namespace Scheme

variable (scheme : Scheme α γ τ)

/-- The link of a record. -/
def linkOf (index : Nat) (previous : γ) (content : α) : γ :=
  scheme.digest (scheme.encode index previous content)

/-- The link that the next record refers to. -/
def head (blocks : List (Block α γ)) : γ :=
  match blocks.getLast? with
  | some block => block.link
  | none => scheme.genesis

/-- The record that appending puts at the end. -/
def next (blocks : List (Block α γ)) (content : α) : Block α γ :=
  { index := blocks.length, content, previous := scheme.head blocks,
    link := scheme.linkOf blocks.length (scheme.head blocks) content }

/-- Append a record. -/
def append (blocks : List (Block α γ)) (content : α) : List (Block α γ) :=
  blocks ++ [scheme.next blocks content]

/-- The chain of a sequence of contents. -/
def build (contents : List α) : List (Block α γ) :=
  contents.foldl scheme.append []

/-- The first record, from a position and a link on, that does not continue a chain. -/
def check [DecidableEq γ] : Nat → γ → List (Block α γ) → Option Nat
  | _, _, [] => none
  | position, previous, block :: rest =>
      if block.index ≠ position ∨ block.previous ≠ previous then some position
      else if scheme.linkOf block.index block.previous block.content ≠ block.link then
        some position
      else check (position + 1) block.link rest

/-- A record of either chain was hashed as another text than one of the other chain, and has
the same link. -/
def Collide (first second : List (Block α γ)) : Prop :=
  ∃ block ∈ first, ∃ other ∈ second, block.link = other.link ∧
    scheme.encode block.index block.previous block.content ≠
      scheme.encode other.index other.previous other.content

/-! ## Chains that are built -/

@[simp]
theorem build_nil : scheme.build [] = [] :=
  rfl

theorem build_concat (contents : List α) (content : α) :
    scheme.build (contents ++ [content]) = scheme.append (scheme.build contents) content := by
  rw [build, List.foldl_append]
  rfl

@[simp]
theorem length_build (contents : List α) : (scheme.build contents).length = contents.length := by
  induction contents using List.reverseRecOn with
  | nil => rfl
  | append_singleton contents content ih =>
      rw [build_concat, append, List.length_append, ih, List.length_append]
      rfl

@[simp]
theorem map_content_build (contents : List α) :
    (scheme.build contents).map Block.content = contents := by
  induction contents using List.reverseRecOn with
  | nil => rfl
  | append_singleton contents content ih =>
      rw [build_concat, append, List.map_append, ih]
      rfl

theorem head_append (blocks : List (Block α γ)) (content : α) :
    scheme.head (scheme.append blocks content) =
      scheme.linkOf blocks.length (scheme.head blocks) content := by
  rw [append, head, List.getLast?_concat]
  rfl

theorem head_build_concat (contents : List α) (content : α) :
    scheme.head (scheme.build (contents ++ [content])) =
      scheme.linkOf contents.length (scheme.head (scheme.build contents)) content := by
  rw [build_concat, head_append, length_build]

/-- A chain is built from the contents of its beginning. -/
theorem take_build (contents : List α) (count : Nat) :
    (scheme.build contents).take count = scheme.build (contents.take count) := by
  induction contents using List.reverseRecOn with
  | nil => simp
  | append_singleton contents content ih =>
      by_cases within : count ≤ contents.length
      · rw [List.take_append_of_le_length within, build_concat, append,
          List.take_append_of_le_length (by rwa [length_build]), ih]
      · have all : contents.length + 1 ≤ count := by omega
        rw [List.take_of_length_le (by simpa using all),
          List.take_of_length_le (by simpa using all)]

/-! ## The check -/

section check

variable [DecidableEq γ]

/-- A record that is refused is one of the records. -/
theorem check_mem {position broken : Nat} {previous : γ} {blocks : List (Block α γ)}
    (checked : scheme.check position previous blocks = some broken) :
    position ≤ broken ∧ broken < position + blocks.length := by
  induction blocks generalizing position previous with
  | nil => cases checked
  | cons block rest ih =>
      rw [check] at checked
      rw [List.length_cons]
      split_ifs at checked
      · cases checked
        omega
      · cases checked
        omega
      · have bounds := ih checked
        omega

/-- The beginning of a chain is refused for the same record, if it has the record. -/
theorem check_take (position : Nat) (previous : γ) (blocks : List (Block α γ)) (count : Nat) :
    scheme.check position previous (blocks.take count) =
      (scheme.check position previous blocks).filter (· < position + count) := by
  induction blocks generalizing position previous count with
  | nil => simp [check]
  | cons block rest ih =>
      cases count with
      | zero =>
          rw [List.take_zero, check]
          cases checked : scheme.check position previous (block :: rest) with
          | none => rfl
          | some broken =>
              have bounds := scheme.check_mem checked
              rw [Option.filter_some, if_neg (by simpa using bounds.1)]
      | succ count =>
          rw [List.take_succ_cons, check, check]
          split_ifs
          · simp [Option.filter_some]
          · simp [Option.filter_some]
          · rw [ih, Nat.add_right_comm, Nat.add_assoc]

/-- The last record is refused when it is not the one that appending puts there. -/
theorem check_concat (blocks : List (Block α γ)) (block : Block α γ) :
    scheme.check 0 scheme.genesis (blocks ++ [block]) = none ↔
      scheme.check 0 scheme.genesis blocks = none ∧
        block = scheme.next blocks block.content := by
  suffices continued : ∀ position previous,
      scheme.check position previous (blocks ++ [block]) = none ↔
        scheme.check position previous blocks = none ∧
          block = { index := position + blocks.length, content := block.content,
                    previous := (blocks.getLast?.map Block.link).getD previous,
                    link := scheme.linkOf (position + blocks.length)
                      ((blocks.getLast?.map Block.link).getD previous) block.content } by
    rw [continued, next, head, Nat.zero_add]
    cases blocks.getLast? <;> rfl
  induction blocks with
  | nil =>
      intro position previous
      rcases block with ⟨index, content, before, link⟩
      simp only [List.nil_append, check, List.length_nil, Nat.add_zero, List.getLast?_nil,
        Option.map_none, Option.getD_none, Block.mk.injEq, true_and]
      split_ifs with misplaced differs
      · simp only [false_iff]
        rintro ⟨placed, linked, -⟩
        exact misplaced.elim (· placed) (· linked)
      · simp only [false_iff]
        rintro ⟨rfl, rfl, digested⟩
        exact differs digested.symm
      · rcases not_or.mp misplaced with ⟨placed, linked⟩
        obtain rfl := not_not.mp placed
        obtain rfl := not_not.mp linked
        simpa using (not_not.mp differs).symm
  | cons first rest ih =>
      intro position previous
      have last : ((first :: rest).getLast?.map Block.link).getD previous =
          (rest.getLast?.map Block.link).getD first.link := by
        cases rest with
        | nil => rfl
        | cons second rest => rw [List.getLast?_cons_cons]; simp [List.getLast?_cons]
      rw [List.cons_append, check, check, last, List.length_cons, Nat.add_comm rest.length,
        ← Nat.add_assoc]
      split_ifs
      · simp
      · simp
      · exact ih (position + 1) first.link

/-- The check passes exactly the chains that appending builds. -/
theorem check_eq_none_iff (blocks : List (Block α γ)) :
    scheme.check 0 scheme.genesis blocks = none ↔
      blocks = scheme.build (blocks.map Block.content) := by
  induction blocks using List.reverseRecOn with
  | nil => exact ⟨fun _ => rfl, fun _ => rfl⟩
  | append_singleton blocks block ih =>
      rw [check_concat, ih, List.map_append, List.map_singleton, build_concat, append]
      constructor
      · rintro ⟨built, appended⟩
        rw [← built, ← appended]
      · intro built
        rcases List.append_inj' built rfl with ⟨front, last⟩
        rw [← front] at last
        exact ⟨front, List.singleton_inj.mp last⟩

/-- The check finds the record at which a sequence of records stops being a chain that
appending builds. -/
theorem check_eq_some_iff (blocks : List (Block α γ)) (broken : Nat) :
    scheme.check 0 scheme.genesis blocks = some broken ↔
      broken < blocks.length ∧
      blocks.take broken = scheme.build ((blocks.take broken).map Block.content) ∧
      blocks.take (broken + 1) ≠ scheme.build ((blocks.take (broken + 1)).map Block.content) := by
  rw [← check_eq_none_iff, ne_eq, ← check_eq_none_iff, check_take, check_take]
  constructor
  · intro checked
    have bounds := scheme.check_mem checked
    rw [checked]
    exact ⟨by omega, by simp [Option.filter_some], by simp [Option.filter_some]⟩
  · rintro ⟨-, front, whole⟩
    cases checked : scheme.check 0 scheme.genesis blocks with
    | none => simp [checked] at whole
    | some found =>
        rw [checked] at front whole
        simp only [Option.filter_some, Nat.zero_add, decide_eq_true_eq] at front whole
        have late : ¬ found < broken := by
          intro early
          simp [early] at front
        have soon : found < broken + 1 := by
          by_contra later
          simp [later] at whole
        congr 1
        omega

end check

/-! ## What a link stands for -/

variable {scheme} in
theorem Collide.mono {first second longer longer' : List (Block α γ)}
    (collide : scheme.Collide first second) (within : first ⊆ longer)
    (within' : second ⊆ longer') : scheme.Collide longer longer' := by
  rcases collide with ⟨block, member, other, member', same, differs⟩
  exact ⟨block, within member, other, within' member', same, differs⟩

/-- Chains that end in one link have the same contents, as far as the hashed text tells them
apart, unless two different texts of one digest were hashed for them. -/
theorem forall₂_of_head {related : α → α → Prop}
    (injective : ∀ {index index' previous previous' content content'},
      scheme.encode index previous content = scheme.encode index' previous' content' →
        index = index' ∧ previous = previous' ∧ related content content')
    {first second : List α} (filled : first ≠ []) (filled' : second ≠ [])
    (same : scheme.head (scheme.build first) = scheme.head (scheme.build second)) :
    List.Forall₂ related first second ∨
      scheme.Collide (scheme.build first) (scheme.build second) := by
  induction first using List.reverseRecOn generalizing second with
  | nil => exact absurd rfl filled
  | append_singleton front content ih =>
      obtain ⟨front', content', rfl⟩ := List.eq_nil_or_concat' second |>.resolve_left filled'
      rw [head_build_concat, head_build_concat] at same
      rw [build_concat, build_concat]
      by_cases alike : scheme.encode front.length (scheme.head (scheme.build front)) content =
          scheme.encode front'.length (scheme.head (scheme.build front')) content'
      · rcases injective alike with ⟨long, link, last⟩
        by_cases short : front = []
        · subst short
          obtain rfl := List.length_eq_zero_iff.mp long.symm
          exact .inl (.cons last .nil)
        · have short' : front' ≠ [] := by
            rintro rfl
            exact short (List.length_eq_zero_iff.mp long)
          rcases ih short short' link with agree | collide
          · exact .inl (List.rel_append agree (.cons last .nil))
          · exact .inr (collide.mono (List.subset_append_left _ _) (List.subset_append_left _ _))
      · refine .inr ⟨scheme.next (scheme.build front) content, by simp [append],
          scheme.next (scheme.build front') content', by simp [append], ?_, ?_⟩
        · simpa [next] using same
        · simpa [next] using alike

end Scheme

end EaBot.Foundation.HashChain
