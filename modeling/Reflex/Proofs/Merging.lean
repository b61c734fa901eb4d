import Mathlib.Data.List.Basic
import Reflex.Vocabulary

/-! Merging vocabularies. A merge succeeds if no name is in two of them, and reports such a name
otherwise. -/
namespace Reflex.Vocabulary

variable {φ : Type}

/-- No name is in two of the vocabularies. -/
def Apart (vs : List (Vocabulary φ)) : Prop := vs.Pairwise fun u v => u.names.Disjoint v.names

/-- A name is in one of the vocabularies and in another one before it. -/
def Clashes (vs : List (Vocabulary φ)) (name : String) : Prop :=
  ∃ earlier v later, vs = earlier ++ v :: later ∧ name ∈ v.names ∧ ∃ u ∈ earlier, name ∈ u.names

theorem Clashes.not_apart {vs : List (Vocabulary φ)} {name : String} (clashes : Clashes vs name) :
    ¬ Apart vs := by
  obtain ⟨earlier, v, later, rfl, there, u, member, here⟩ := clashes
  intro apart
  exact (List.pairwise_append.mp apart).2.2 u member v List.mem_cons_self here there

variable (kind : VocabularyKind)

theorem merge_cases (v other : Vocabulary φ) :
    (v.names.Disjoint other.names ∧ merge kind v other = .ok ⟨v.entries ++ other.entries⟩) ∨
      ∃ name, name ∈ v.names ∧ name ∈ other.names ∧
        merge kind v other = .error (.collision kind name) := by
  unfold merge
  cases clash : other.names.find? (v.names.contains ·) with
  | none =>
    refine .inl ⟨fun name here there => ?_, rfl⟩
    exact List.find?_eq_none.mp clash name there (List.contains_iff_mem.mpr here)
  | some name =>
    exact .inr ⟨name, List.contains_iff_mem.mp (List.find?_some clash),
      List.mem_of_find?_eq_some clash, rfl⟩

/-- Induction over the contributions that are left, all others being merged into the first. -/
theorem mergeAll_cases (v : Vocabulary φ) (others : List (Vocabulary φ)) :
    (Apart (v :: others) ∧ ∃ merged, mergeAll kind v others = .ok merged) ∨
      ∃ name, Clashes (v :: others) name ∧
        mergeAll kind v others = .error (.collision kind name) := by
  induction others generalizing v with
  | nil => exact .inl ⟨List.pairwise_singleton .., v, rfl⟩
  | cons other rest ih =>
    rcases merge_cases kind v other with ⟨disjoint, merged⟩ | ⟨name, here, there, refused⟩
    · have names : (⟨v.entries ++ other.entries⟩ : Vocabulary φ).names = v.names ++ other.names :=
        List.map_append
      have next : mergeAll kind v (other :: rest) =
          mergeAll kind ⟨v.entries ++ other.entries⟩ rest := by
        rw [mergeAll, merged]
        rfl
      rw [next]
      rcases ih ⟨v.entries ++ other.entries⟩ with ⟨apart, ran⟩ | ⟨name, clashes, refused⟩
      · refine .inl ⟨?_, ran⟩
        obtain ⟨first, rest⟩ := List.pairwise_cons.mp apart
        simp only [names, List.disjoint_append_left] at first
        refine .cons (List.forall_mem_cons.mpr ⟨disjoint, fun u member => (first u member).1⟩) ?_
        exact .cons (fun u member => (first u member).2) rest
      · refine .inr ⟨name, ?_, refused⟩
        obtain ⟨_ | ⟨x, earlier⟩, u, later, split, there, y, member, here⟩ := clashes
        · cases member
        · obtain ⟨rfl, rfl⟩ := List.cons.inj split
          refine ⟨v :: other :: earlier, u, later, rfl, there, ?_⟩
          rcases List.mem_cons.mp member with rfl | member
          · rw [names] at here
            rcases List.mem_append.mp here with here | here
            · exact ⟨v, .head _, here⟩
            · exact ⟨other, .tail _ (.head _), here⟩
          · exact ⟨y, .tail _ (.tail _ member), here⟩
    · refine .inr ⟨name, ⟨[v], other, rest, rfl, there, v, .head _, here⟩, ?_⟩
      rw [mergeAll, refused]
      rfl

theorem mergeAll_empty (vs : List (Vocabulary φ)) :
    (Apart vs ∧ ∃ merged, mergeAll kind empty vs = .ok merged) ∨
      ∃ name, Clashes vs name ∧ mergeAll kind empty vs = .error (.collision kind name) := by
  rcases mergeAll_cases kind empty vs with ⟨apart, ran⟩ | ⟨name, clashes, refused⟩
  · exact .inl ⟨(List.pairwise_cons.mp apart).2, ran⟩
  · refine .inr ⟨name, ?_, refused⟩
    obtain ⟨_ | ⟨x, earlier⟩, u, later, split, there, y, member, here⟩ := clashes
    · cases member
    · obtain ⟨rfl, rfl⟩ := List.cons.inj split
      rcases List.mem_cons.mp member with rfl | member
      · cases here
      · exact ⟨earlier, u, later, rfl, there, y, member, here⟩

end Reflex.Vocabulary
