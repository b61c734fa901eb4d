import Mathlib.Data.List.Induction
import Mathlib.Data.List.Nodup
import Reflex.Proofs.Merging

/-! Vocabularies built from contributions. A contribution lists each of its names once, where it
was first added, with the factory that was added last. Contributions that share no name are listed
one after the other. Otherwise the earliest one that shares a name with those before it is refused,
and what was received so far stays as it is. -/
namespace Reflex.Vocabulary

variable {φ : Type}

/-- The names that were added, as often as they were. -/
def called (calls : List (String × φ)) : List String := calls.map (·.1)

/-- Each name once, at the place of its first call, with the factory of its last call. -/
structure Gathers (v : Vocabulary φ) (calls : List (String × φ)) : Prop where
  names : v.names = (called calls).eraseDups
  factories : ∀ name, v.get? name = calls.reverse.lookup name

/-- No name is in two of the contributions. -/
def Separate (parts : List (List (String × φ))) : Prop :=
  parts.Pairwise fun p q => (called p).Disjoint (called q)

/-- The earliest contribution that has a name of one before it, and the first such name in it. -/
structure FirstClash (parts earlier : List (List (String × φ))) (calls : List (String × φ))
    (name : String) : Prop where
  earliest : ∃ later, parts = earlier ++ calls :: later
  separate : Separate earlier
  taken : ∃ p ∈ earlier, name ∈ called p
  first : ∃ front back, (called calls).eraseDups = front ++ name :: back ∧
    ∀ n ∈ front, ∀ p ∈ earlier, n ∉ called p

/-! One entry at a time. -/

theorem replace_names (name : String) (factory : φ) (es : List (String × φ)) :
    called (replace name factory es) =
      if name ∈ called es then called es else called es ++ [name] := by
  induction es with
  | nil => rfl
  | cons e rest ih =>
    obtain ⟨n, f⟩ := e
    rw [replace]
    split
    case isTrue same => simp [called, same]
    case isFalse other =>
      have listed : name ∈ called ((n, f) :: rest) ↔ name ∈ called rest :=
        List.mem_cons.trans (or_iff_right fun same => other same.symm)
      simp only [listed]
      refine (congrArg (n :: ·) ih).trans ?_
      split <;> rfl

theorem lookup_entry (title name : String) (factory : φ) (es : List (String × φ)) :
    List.lookup title ((name, factory) :: es) =
      if title = name then some factory else es.lookup title := by
  by_cases same : title = name
  · simp [same]
  · simp [List.lookup_cons, same, beq_eq_false_iff_ne.mpr same]

theorem replace_lookup (name : String) (factory : φ) (es : List (String × φ)) (title : String) :
    (replace name factory es).lookup title =
      if title = name then some factory else es.lookup title := by
  induction es with
  | nil => exact lookup_entry title name factory []
  | cons e rest ih =>
    obtain ⟨n, f⟩ := e
    rw [replace]
    split
    case isTrue same =>
      subst same
      rw [lookup_entry, lookup_entry]
      split <;> rfl
    case isFalse other =>
      rw [lookup_entry, lookup_entry, ih]
      by_cases here : title = n
      · have different : title ≠ name := fun same => other (here.symm.trans same)
        rw [if_pos here, if_pos here, if_neg different]
      · rw [if_neg here, if_neg here]

theorem replace_fresh {name : String} {es : List (String × φ)} (fresh : name ∉ called es)
    (factory : φ) : replace name factory es = es ++ [(name, factory)] := by
  induction es with
  | nil => rfl
  | cons e rest ih =>
    obtain ⟨different, fresh⟩ := not_or.mp fun there => fresh (List.mem_cons.mpr there)
    rw [replace, if_neg (Ne.symm different), ih fresh, List.cons_append]

theorem names_insert (v : Vocabulary φ) (name : String) (factory : φ) :
    (v.insert name factory).names = if name ∈ v.names then v.names else v.names ++ [name] :=
  replace_names name factory v.entries

theorem insert_nodup {v : Vocabulary φ} (distinct : v.names.Nodup) (name : String) (factory : φ) :
    (v.insert name factory).names.Nodup := by
  rw [names_insert]
  split
  case isTrue => exact distinct
  case isFalse fresh =>
    exact List.Nodup.append distinct (List.nodup_singleton name)
      (List.disjoint_singleton.mpr fresh)

theorem ofList_append (calls : List (String × φ)) (name : String) (factory : φ) :
    ofList (calls ++ [(name, factory)]) = (ofList calls).insert name factory :=
  List.foldl_append

theorem nodup_ofList (calls : List (String × φ)) : (ofList calls).names.Nodup := by
  induction calls using List.reverseRecOn with
  | nil => exact .nil
  | append_singleton calls e ih =>
    rw [ofList_append]
    exact insert_nodup ih e.1 e.2

theorem gathers_ofList (calls : List (String × φ)) : (ofList calls).Gathers calls := by
  induction calls using List.reverseRecOn with
  | nil => exact ⟨rfl, fun _ => rfl⟩
  | append_singleton calls e ih =>
    obtain ⟨name, factory⟩ := e
    rw [ofList_append]
    constructor
    · rw [names_insert, ih.names]
      have last : called (calls ++ [(name, factory)]) = called calls ++ [name] := List.map_append
      rw [last, List.eraseDups_append]
      by_cases there : name ∈ called calls
      · simp [there, List.removeAll]
      · simp [there, List.removeAll, List.eraseDups_cons]
    · intro title
      refine (replace_lookup name factory _ title).trans ?_
      rw [List.reverse_append, List.reverse_singleton, List.singleton_append, lookup_entry,
        ← ih.factories]
      rfl

/-- A name that is listed once resolves to the factory it is listed with. -/
theorem get?_iff {v : Vocabulary φ} (distinct : v.names.Nodup) {name : String} {factory : φ} :
    v.get? name = some factory ↔ (name, factory) ∈ v.entries := by
  rw [get?, List.lookup_eq_some_iff]
  constructor
  · rintro ⟨front, back, split, -⟩
    rw [split]
    exact List.mem_append_right front List.mem_cons_self
  · intro member
    obtain ⟨front, back, split⟩ := List.append_of_mem member
    refine ⟨front, back, split, fun e earlier => ?_⟩
    rw [names, split, List.map_append, List.map_cons] at distinct
    have apart := (List.nodup_append.mp distinct).2.2 e.1 (List.mem_map_of_mem earlier)
    simpa using (apart name List.mem_cons_self).symm

theorem get?_none_iff {v : Vocabulary φ} {name : String} :
    v.get? name = none ↔ name ∉ v.names := by
  rw [get?, List.lookup_eq_none_iff, names, List.mem_map]
  constructor
  · rintro none ⟨e, member, rfl⟩
    simpa using none e member
  · intro absent e member
    have different : name ≠ e.1 := fun same => absent ⟨e, member, same.symm⟩
    simpa using different

/-! Merging, and receiving in place. -/

variable {kind : VocabularyKind} {v other merged : Vocabulary φ} {cause : Invalid}

theorem merge_ok (ok : merge kind v other = .ok merged) :
    v.names.Disjoint other.names ∧ merged = ⟨v.entries ++ other.entries⟩ := by
  rcases merge_cases kind v other with ⟨disjoint, ran⟩ | ⟨name, -, -, refused⟩
  · cases ran.symm.trans ok
    exact ⟨disjoint, rfl⟩
  · cases refused.symm.trans ok

theorem merge_error (refused : merge kind v other = .error cause) :
    ∃ front name back, other.names = front ++ name :: back ∧ name ∈ v.names ∧
      (∀ n ∈ front, n ∉ v.names) ∧ cause = .collision kind name := by
  unfold merge at refused
  cases clash : other.names.find? (v.names.contains ·) with
  | none =>
    rw [clash] at refused
    cases refused
  | some name =>
    rw [clash] at refused
    cases refused
    obtain ⟨taken, front, back, split, free⟩ := List.find?_eq_some_iff_append.mp clash
    refine ⟨front, name, back, split, List.contains_iff_mem.mp taken, fun n member => ?_, rfl⟩
    simpa using free n member

theorem foldl_insert (es : List (String × φ)) (distinct : (called es).Nodup)
    (fresh : v.names.Disjoint (called es)) :
    es.foldl (fun v (name, factory) => v.insert name factory) v = ⟨v.entries ++ es⟩ := by
  induction es generalizing v with
  | nil => simp
  | cons e rest ih =>
    obtain ⟨name, factory⟩ := e
    obtain ⟨once, distinct⟩ := List.nodup_cons.mp distinct
    obtain ⟨absent, fresh⟩ := List.disjoint_cons_right.mp fresh
    have added : v.insert name factory = ⟨v.entries ++ [(name, factory)]⟩ :=
      congrArg Vocabulary.mk (replace_fresh absent factory)
    have apart : (v.insert name factory).names.Disjoint (called rest) := by
      rw [names_insert, if_neg absent]
      exact List.disjoint_append_left.mpr ⟨fresh, List.singleton_disjoint.mpr once⟩
    refine (ih distinct apart).trans ?_
    rw [added, List.append_assoc, List.singleton_append]

theorem get_then {α : Type} (v : Vocabulary φ)
    (f : Vocabulary φ → ExceptT Invalid (StateM (Vocabulary φ)) α) : (get >>= f) v = f v v := rfl

theorem receive_error (refused : merge kind v other = .error cause) :
    receive kind other v = (.error cause, v) := by
  rw [receive, get_then]
  unfold merge at refused
  cases clash : other.names.find? (v.names.contains ·) with
  | none =>
    rw [clash] at refused
    cases refused
  | some name =>
    rw [clash] at refused
    cases refused
    rfl

theorem receive_ok (distinct : other.names.Nodup) (ok : merge kind v other = .ok merged) :
    receive kind other v = (.ok (), merged) := by
  obtain ⟨disjoint, rfl⟩ := merge_ok ok
  rw [receive, get_then]
  unfold merge at ok
  cases clash : other.names.find? (v.names.contains ·) with
  | none =>
    have added := foldl_insert other.entries distinct disjoint
    exact congrArg (Prod.mk (Except.ok ())) added
  | some name =>
    rw [clash] at ok
    cases ok

/-! All contributions in order. -/

variable {others : List (Vocabulary φ)}

theorem mergeAll_cons (v other : Vocabulary φ) (others : List (Vocabulary φ)) :
    (∃ next, merge kind v other = .ok next ∧
      mergeAll kind v (other :: others) = mergeAll kind next others) ∨
      ∃ cause, merge kind v other = .error cause ∧
        mergeAll kind v (other :: others) = .error cause := by
  rw [mergeAll]
  cases merge kind v other with
  | ok next => exact .inl ⟨next, rfl, rfl⟩
  | error cause => exact .inr ⟨cause, rfl, rfl⟩

theorem mergeAll_ok (ok : mergeAll kind v others = .ok merged) :
    merged.entries = v.entries ++ others.flatMap (·.entries) := by
  induction others generalizing v with
  | nil =>
    cases ok
    exact (List.append_nil _).symm
  | cons other rest ih =>
    rcases mergeAll_cons v other rest with ⟨next, first, ran⟩ | ⟨cause, -, refused⟩
    · obtain ⟨-, rfl⟩ := merge_ok first
      rw [ih (ran.symm.trans ok), List.append_assoc, List.flatMap_cons]
    · cases refused.symm.trans ok

/-- The vocabularies before the one that is refused have been merged. -/
theorem mergeAll_error (refused : mergeAll kind v others = .error cause) :
    ∃ earlier other later kept, others = earlier ++ other :: later ∧
      mergeAll kind v earlier = .ok kept ∧ merge kind kept other = .error cause := by
  induction others generalizing v with
  | nil => cases refused
  | cons other rest ih =>
    rcases mergeAll_cons v other rest with ⟨next, first, ran⟩ | ⟨_, first, same⟩
    · obtain ⟨earlier, u, later, kept, rfl, merged, last⟩ := ih (ran.symm.trans refused)
      refine ⟨other :: earlier, u, later, kept, rfl, ?_, last⟩
      rw [mergeAll, first]
      exact merged
    · cases same.symm.trans refused
      exact ⟨[], other, rest, v, rfl, rfl, first⟩

theorem receiveAll_cons (kind : VocabularyKind) (other : Vocabulary φ)
    (others : List (Vocabulary φ)) (v : Vocabulary φ) :
    receiveAll kind (other :: others) v = ExceptT.bindCont (fun _ => receiveAll kind others)
      (receive kind other v).1 (receive kind other v).2 := rfl

theorem receiveAll_ok (distinct : ∀ u ∈ others, u.names.Nodup)
    (ok : mergeAll kind v others = .ok merged) : receiveAll kind others v = (.ok (), merged) := by
  induction others generalizing v with
  | nil =>
    cases ok
    rfl
  | cons other rest ih =>
    obtain ⟨once, distinct⟩ := List.forall_mem_cons.mp distinct
    rcases mergeAll_cons v other rest with ⟨next, first, ran⟩ | ⟨cause, -, refused⟩
    · rw [receiveAll_cons, receive_ok once first]
      exact ih distinct (ran.symm.trans ok)
    · cases refused.symm.trans ok

/-- What was received before the refusal stays, and nothing else is there. -/
theorem receiveAll_error {kept : Vocabulary φ} {earlier later : List (Vocabulary φ)}
    (distinct : ∀ u ∈ earlier, u.names.Nodup) (ok : mergeAll kind v earlier = .ok kept)
    (refused : merge kind kept other = .error cause) :
    receiveAll kind (earlier ++ other :: later) v = (.error cause, kept) := by
  induction earlier generalizing v with
  | nil =>
    cases ok
    rw [List.nil_append, receiveAll_cons, receive_error refused]
    rfl
  | cons u rest ih =>
    obtain ⟨once, distinct⟩ := List.forall_mem_cons.mp distinct
    rcases mergeAll_cons v u rest with ⟨next, first, ran⟩ | ⟨_, -, stopped⟩
    · rw [List.cons_append, receiveAll_cons, receive_ok once first]
      exact ih distinct (ran.symm.trans ok)
    · cases stopped.symm.trans ok

theorem mem_named {calls : List (String × φ)} {name : String} :
    name ∈ (ofList calls).names ↔ name ∈ called calls := by
  rw [(gathers_ofList calls).names, List.mem_eraseDups]

theorem apart_ofList (parts : List (List (String × φ))) :
    Apart (parts.map ofList) ↔ Separate parts := by
  refine List.pairwise_map.trans (List.Pairwise.iff fun p q => ?_)
  exact forall_congr' fun name => imp_congr mem_named (imp_congr_left mem_named)

theorem names_flatMap (parts : List (List (String × φ))) (merged : Vocabulary φ)
    (entries : merged.entries = (parts.map ofList).flatMap (·.entries)) :
    merged.names = parts.flatMap fun calls => (called calls).eraseDups := by
  rw [names, entries, List.map_flatMap, List.flatMap_map]
  exact List.flatMap_congr fun calls _ => (gathers_ofList calls).names

/-- Parts that share no name, each without repetition, list no name twice. -/
theorem nodup_flatMap {parts : List (List (String × φ))} (separate : Separate parts) :
    (parts.flatMap fun calls => (called calls).eraseDups).Nodup := by
  refine List.nodup_flatMap.mpr ⟨fun calls _ => ?_, separate.imp fun {p q} apart => ?_⟩
  · rw [← (gathers_ofList calls).names]
    exact nodup_ofList calls
  · intro name here there
    exact apart (List.mem_eraseDups.mp here) (List.mem_eraseDups.mp there)

/-! Contributions merged into an empty vocabulary. -/

section Parts

variable {parts : List (List (String × φ))}

theorem distinct_parts (parts : List (List (String × φ))) :
    ∀ u ∈ parts.map ofList, u.names.Nodup :=
  List.forall_mem_map.mpr fun calls _ => nodup_ofList calls

theorem merged_iff :
    (∃ merged, mergeAll kind empty (parts.map ofList) = .ok merged) ↔ Separate parts := by
  rw [← apart_ofList]
  rcases mergeAll_empty kind (parts.map ofList) with ⟨apart, ok⟩ | ⟨name, clashes, refused⟩
  · exact iff_of_true ok apart
  · refine iff_of_false ?_ clashes.not_apart
    rintro ⟨merged, ok⟩
    cases refused.symm.trans ok

theorem merged_names (ok : mergeAll kind empty (parts.map ofList) = .ok merged) :
    merged.names = (parts.flatMap fun calls => (called calls).eraseDups) ∧ merged.names.Nodup := by
  have names := names_flatMap parts merged (mergeAll_ok ok)
  exact ⟨names, names ▸ nodup_flatMap (merged_iff.mp ⟨merged, ok⟩)⟩

theorem mem_merged (ok : mergeAll kind empty (parts.map ofList) = .ok merged) {name : String} :
    name ∈ merged.names ↔ ∃ calls ∈ parts, name ∈ called calls := by
  rw [(merged_names ok).1, List.mem_flatMap]
  exact exists_congr fun calls => and_congr_right fun _ => List.mem_eraseDups

theorem merged_resolves (ok : mergeAll kind empty (parts.map ofList) = .ok merged)
    {calls : List (String × φ)} (member : calls ∈ parts) {name : String}
    (known : name ∈ called calls) : ∃ factory,
      calls.reverse.lookup name = some factory ∧ merged.resolve kind name = .ok factory := by
  obtain ⟨⟨title, factory⟩, there, rfl⟩ := List.mem_map.mp (mem_named.mpr known)
  have mine := (get?_iff (nodup_ofList calls)).mpr there
  have entry : (title, factory) ∈ merged.entries := by
    rw [mergeAll_ok ok]
    exact List.mem_flatMap.mpr ⟨_, List.mem_map_of_mem member, there⟩
  refine ⟨factory, ((gathers_ofList calls).factories title).symm.trans mine, ?_⟩
  rw [resolve, (get?_iff (merged_names ok).2).mpr entry]

/-- The first clash is reported, when everything before it is merged. -/
theorem refused_clash (refused : mergeAll kind empty (parts.map ofList) = .error cause) :
    ∃ earlier calls name kept, FirstClash parts earlier calls name ∧
      cause = .collision kind name ∧ mergeAll kind empty (earlier.map ofList) = .ok kept ∧
      receiveAll kind (parts.map ofList) empty = (.error cause, kept) := by
  obtain ⟨front, other, later, kept, split, ok, clash⟩ := mergeAll_error refused
  obtain ⟨earlier, rest, rfl, rfl, both⟩ := List.map_eq_append_iff.mp split
  obtain ⟨calls, after, rfl, rfl, rfl⟩ := List.map_eq_cons_iff.mp both
  obtain ⟨before, name, back, names, taken, free, rfl⟩ := merge_error clash
  rw [(gathers_ofList calls).names] at names
  refine ⟨earlier, calls, name, kept, ?_, rfl, ok, ?_⟩
  · refine ⟨⟨after, rfl⟩, merged_iff.mp ⟨kept, ok⟩, (mem_merged ok).mp taken, before, back, names,
      ?_⟩
    exact fun n member p earlier here => free n member ((mem_merged ok).mpr ⟨p, earlier, here⟩)
  · rw [split]
    exact receiveAll_error (distinct_parts earlier) ok clash

end Parts

/-- What merging contributions into an empty vocabulary comes to. -/
structure ContributionsKept (kind : VocabularyKind) (parts : List (List (String × φ))) : Prop where
  gathers : ∀ calls ∈ parts, (ofList calls).Gathers calls
  merges : (∃ merged, mergeAll kind empty (parts.map ofList) = .ok merged) ↔ Separate parts
  lists : ∀ merged, mergeAll kind empty (parts.map ofList) = .ok merged →
    merged.names = (parts.flatMap fun calls => (called calls).eraseDups) ∧ merged.names.Nodup ∧
      receiveAll kind (parts.map ofList) empty = (.ok (), merged)
  resolves : ∀ merged, mergeAll kind empty (parts.map ofList) = .ok merged →
    ∀ calls ∈ parts, ∀ name ∈ called calls, ∃ factory,
      calls.reverse.lookup name = some factory ∧ merged.resolve kind name = .ok factory
  unknown : ∀ merged, mergeAll kind empty (parts.map ofList) = .ok merged →
    ∀ name, (∀ calls ∈ parts, name ∉ called calls) →
      merged.resolve kind name = .error (.unknown kind name)
  refuses : ∀ cause, mergeAll kind empty (parts.map ofList) = .error cause →
    ∃ earlier calls name kept, FirstClash parts earlier calls name ∧
      cause = .collision kind name ∧ mergeAll kind empty (earlier.map ofList) = .ok kept ∧
      receiveAll kind (parts.map ofList) empty = (.error cause, kept)
  /-- Whatever the receiving vocabulary has, it gets a contribution as a whole or not at all. -/
  receives : ∀ (v : Vocabulary φ) calls,
    (∀ merged, merge kind v (ofList calls) = .ok merged →
      receive kind (ofList calls) v = (.ok (), merged)) ∧
    ∀ cause, merge kind v (ofList calls) = .error cause →
      receive kind (ofList calls) v = (.error cause, v)

/-- Contributions are merged exactly if no name is in two of them, in order and with the factories
that were added last. Otherwise the first clash is reported, and what was received before it stays
as it is. -/
theorem contributions_kept (kind : VocabularyKind) (parts : List (List (String × φ))) :
    ContributionsKept kind parts where
  gathers calls _ := gathers_ofList calls
  merges := merged_iff
  lists _ ok :=
    ⟨(merged_names ok).1, (merged_names ok).2, receiveAll_ok (distinct_parts parts) ok⟩
  resolves _ ok _ member _ known := merged_resolves ok member known
  unknown merged ok name absent := by
    have unlisted : name ∉ merged.names := fun listed => by
      obtain ⟨calls, member, known⟩ := (mem_merged ok).mp listed
      exact absent calls member known
    rw [resolve, get?_none_iff.mpr unlisted]
  refuses _ refused := refused_clash refused
  receives v calls := ⟨fun merged ok => receive_ok (nodup_ofList calls) ok,
    fun cause refused => receive_error refused⟩

end Reflex.Vocabulary
