import Mathlib.Data.List.Forall2
import Mathlib.Data.List.Induction
import Mathlib.Data.List.Perm.Subperm
import Mathlib.Data.String.Basic
import Reflex.Table

/-! Tables: what is found after a change, tables in increasing key order and how they are built, and
when two tables agree key by key. -/
namespace Reflex.Table

variable {α β : Type} {R : α → β → Prop}

theorem find?_put (key other : String) (content : α) (t : Table α) :
    find? other (put key content t) =
      if key = other then some content else find? other t := by
  induction t with
  | nil => rfl
  | cons entry rest ih =>
    obtain ⟨k, a⟩ := entry
    unfold put
    by_cases same : key = k
    · subst same
      rw [if_pos rfl]
      by_cases hit : key = other <;> simp [find?, hit]
    rw [if_neg same]
    split
    · rfl
    · by_cases hit : k = other
      · subst hit
        simp [find?, same]
      · simp only [find?, hit, if_false, ih]

theorem find?_erase (key other : String) (t : Table α) :
    find? other (erase key t) = if key = other then none else find? other t := by
  induction t with
  | nil => simp [erase, find?]
  | cons entry rest ih =>
    obtain ⟨k, a⟩ := entry
    unfold erase at ih ⊢
    by_cases gone : k = key
    · subst gone
      simp only [List.filter_cons, bne_self_eq_false, Bool.false_eq_true, if_false, ih, find?]
      split <;> rfl
    · have stays : (k != key) = true := by simpa using gone
      simp only [List.filter_cons, stays, if_true, find?, ih]
      by_cases here : k = other
      · rw [if_pos here, if_pos here, if_neg]
        exact fun same => gone (here.trans same.symm)
      · rw [if_neg here, if_neg here]

theorem mem_put {key : String} {content : α} {t : Table α} {entry : String × α}
    (member : entry ∈ put key content t) : entry = (key, content) ∨ entry ∈ t := by
  induction t with
  | nil => exact .inl (List.mem_singleton.mp member)
  | cons first rest ih =>
    obtain ⟨k, a⟩ := first
    unfold put at member
    split at member
    · exact (List.mem_cons.mp member).imp id (List.mem_cons_of_mem _)
    split at member
    · exact List.mem_cons.mp member
    · rcases List.mem_cons.mp member with rfl | later
      · exact .inr (.head _)
      · exact (ih later).imp id (List.mem_cons_of_mem _)

theorem keys_put (key : String) (content : α) (t : Table α) {k : String} :
    k ∈ keys (put key content t) ↔ k = key ∨ k ∈ keys t := by
  induction t with
  | nil => simp [put, keys]
  | cons entry rest ih =>
    obtain ⟨other, a⟩ := entry
    unfold put
    by_cases same : key = other
    · simp [same, keys]
    · rw [if_neg same]
      split
      · simp [keys]
      · simp only [keys, List.map_cons, List.mem_cons] at ih ⊢
        rw [ih]
        tauto

theorem mem_of_find? {key : String} {content : α} {t : Table α}
    (found : find? key t = some content) : (key, content) ∈ t := by
  induction t with
  | nil => cases found
  | cons entry rest ih =>
    unfold find? at found
    split at found
    · rename_i same
      cases found
      exact same ▸ .head rest
    · exact .tail entry (ih found)

theorem find?_of_mem {key : String} {content : α} {t : Table α} (unique : (keys t).Nodup)
    (member : (key, content) ∈ t) : find? key t = some content := by
  induction t with
  | nil => cases member
  | cons entry rest ih =>
    obtain ⟨k, x⟩ := entry
    obtain ⟨first, others⟩ := List.nodup_cons.mp unique
    rcases List.mem_cons.mp member with same | later
    · cases same
      exact if_pos rfl
    · have further : key ∈ keys rest := List.mem_map_of_mem (f := Prod.fst) later
      have different : k ≠ key := by
        rintro rfl
        exact first further
      exact (if_neg different).trans (ih others later)

theorem isSome_find? {key : String} {t : Table α} : (find? key t).isSome ↔ key ∈ keys t := by
  induction t with
  | nil => simp [find?, keys]
  | cons entry rest ih =>
    rw [find?, keys, List.map_cons, List.mem_cons, ← keys, ← ih]
    split
    · rename_i same
      simp [same]
    · rename_i other
      rw [or_iff_right (Ne.symm other)]

/-! In increasing key order. -/

def Ordered (t : Table α) : Prop := (keys t).Pairwise (· < ·)

theorem Ordered.put {t : Table α} (ordered : Ordered t) (key : String) (content : α) :
    Ordered (t.put key content) := by
  induction t with
  | nil => exact List.pairwise_singleton _ _
  | cons entry rest ih =>
    obtain ⟨other, a⟩ := entry
    obtain ⟨first, others⟩ := List.pairwise_cons.mp ordered
    unfold Table.put
    by_cases same : key = other
    · subst same
      rw [if_pos rfl]
      exact ordered
    rw [if_neg same]
    split
    · rename_i before
      refine List.pairwise_cons.mpr ⟨?_, ordered⟩
      intro k member
      rcases List.mem_cons.mp member with rfl | later
      · exact before
      · exact lt_trans before (first k later)
    · rename_i behind
      refine List.pairwise_cons.mpr ⟨?_, ih others⟩
      intro k member
      rcases (keys_put key content rest).mp member with rfl | later
      · exact lt_of_le_of_ne (not_lt.mp behind) (Ne.symm same)
      · exact first k later

theorem Ordered.nodup {t : Table α} (ordered : Ordered t) : (keys t).Nodup :=
  ordered.imp ne_of_lt

theorem Ordered.mem_iff {t : Table α} (ordered : Ordered t) (key : String) (content : α) :
    (key, content) ∈ t ↔ find? key t = some content :=
  ⟨find?_of_mem ordered.nodup, mem_of_find?⟩

theorem put_last {t : Table α} {key : String} (larger : ∀ k ∈ keys t, k < key) (a : α) :
    put key a t = t ++ [(key, a)] := by
  induction t with
  | nil => rfl
  | cons entry rest ih =>
    obtain ⟨first, others⟩ := List.forall_mem_cons.mp larger
    have different : key ≠ entry.1 := (ne_of_lt first).symm
    have after : ¬ key < entry.1 := not_lt_of_gt first
    rw [put, if_neg different, if_neg after, ih others, List.cons_append]

/-! Built from entries. -/

theorem ofList_append (front : List (String × α)) (key : String) (a : α) :
    ofList (front ++ [(key, a)]) = put key a (ofList front) := by
  simp [ofList, List.foldl_append]

theorem mem_ofList {entries : List (String × α)} {entry : String × α}
    (member : entry ∈ ofList entries) : entry ∈ entries := by
  induction entries using List.reverseRecOn generalizing entry with
  | nil => cases member
  | append_singleton front last ih =>
    rw [ofList_append] at member
    rw [List.mem_append, List.mem_singleton]
    exact (mem_put member).symm.imp_left ih

theorem find?_ofList {P : α → Prop} {entries : List (String × α)} (all : ∀ e ∈ entries, P e.2)
    {key : String} {a : α} (found : find? key (ofList entries) = some a) : P a :=
  all (key, a) (mem_ofList (mem_of_find? found))

theorem Ordered.ofList {t : Table α} (ordered : Ordered t) : Table.ofList t = t := by
  induction t using List.reverseRecOn with
  | nil => rfl
  | append_singleton front e ih =>
    unfold Ordered keys at ordered
    rw [List.map_append, List.pairwise_append] at ordered
    rw [ofList_append, ih ordered.1, put_last]
    intro k member
    exact ordered.2.2 k member e.1 (by simp)

/-! Agreement of two tables. -/

theorem find?_perm {t u : Table α} (unique : (keys t).Nodup) (perm : t.Perm u) (key : String) :
    find? key t = find? key u := by
  have uniqueToo : (keys u).Nodup := (perm.map Prod.fst).nodup_iff.mp unique
  refine Option.ext fun a => ?_
  constructor
  · intro found
    exact find?_of_mem uniqueToo (perm.mem_iff.mp (mem_of_find? found))
  · intro found
    exact find?_of_mem unique (perm.mem_iff.mpr (mem_of_find? found))

theorem isSome_of_rel {a : Option α} {b : Option β} (agree : Option.Rel R a b) :
    a.isSome = b.isSome := by
  cases agree <;> rfl

/-- Entries that agree one by one agree key by key. -/
theorem find?_forall₂ {t : Table α} {u : Table β}
    (agree : List.Forall₂ (fun x y => x.1 = y.1 ∧ R x.2 y.2) t u) (key : String) :
    Option.Rel R (find? key t) (find? key u) := by
  induction agree with
  | nil => exact .none
  | cons first rest ih =>
    obtain ⟨same, related⟩ := first
    unfold find?
    rw [same]
    split
    · exact .some related
    · exact ih

/-- Where each key stands once on both sides and both have as many, it is enough to look for the
keys of one side on the other. -/
theorem agree_iff {t : Table α} {u : Table β} (unique : (keys t).Nodup)
    (uniqueToo : (keys u).Nodup) :
    t.length = u.length ∧ (∀ x ∈ t, ∃ b, find? x.1 u = some b ∧ R x.2 b) ↔
      ∀ key, Option.Rel R (find? key t) (find? key u) := by
  have count : ∀ {γ : Type} (v : Table γ), (keys v).length = v.length := fun _ => List.length_map _
  constructor
  · rintro ⟨same, found⟩ key
    have within : keys t ⊆ keys u := by
      intro k member
      obtain ⟨x, there, rfl⟩ := List.mem_map.mp member
      obtain ⟨b, content, -⟩ := found x there
      exact isSome_find?.mp (by rw [content]; rfl)
    -- `u` has no room for another key, so a key that `t` lacks is missing there too.
    have fills : (keys t).Perm (keys u) :=
      (List.subperm_of_subset unique within).perm_of_length_le (by rw [count, count, same])
    cases here : find? key t with
    | some a =>
      obtain ⟨b, there, related⟩ := found (key, a) (mem_of_find? here)
      rw [there]
      exact .some related
    | none =>
      have absent : find? key u = none := by
        rw [← Option.not_isSome_iff_eq_none, isSome_find?, ← fills.mem_iff, ← isSome_find?, here]
        exact Bool.false_ne_true
      rw [absent]
      exact .none
  · intro agree
    have same : (keys t).Perm (keys u) := by
      refine (List.perm_ext_iff_of_nodup unique uniqueToo).mpr fun key => ?_
      rw [← isSome_find?, ← isSome_find?, isSome_of_rel (agree key)]
    refine ⟨by rw [← count t, ← count u, same.length_eq], fun x member => ?_⟩
    have both := agree x.1
    rw [find?_of_mem unique member] at both
    obtain ⟨b, content⟩ := Option.isSome_iff_exists.mp (isSome_of_rel both).symm
    rw [content] at both
    exact ⟨b, content, Option.rel_some_some.mp both⟩

end Reflex.Table
