import Reflex.Proofs.Devices

/-! Equality by parts. An array is compared at its places and an object at its keys, and both
sides have the same of either, which makes the comparison an equivalence at every depth. -/
namespace Reflex

section Rel

variable {α β γ : Type} {R : α → β → Prop} {a : Option α} {b : Option β} {c : Option γ}

theorem rel_imp {S : α → β → Prop} (agree : Option.Rel R a b)
    (weaken : ∀ x y, a = some x → b = some y → R x y → S x y) : Option.Rel S a b := by
  cases agree with
  | none => exact .none
  | some related => exact .some (weaken _ _ rfl rfl related)

theorem rel_symm {S : β → α → Prop} (agree : Option.Rel R a b)
    (turn : ∀ x y, a = some x → b = some y → R x y → S y x) : Option.Rel S b a := by
  cases agree with
  | none => exact .none
  | some related => exact .some (turn _ _ rfl rfl related)

theorem rel_trans {S : β → γ → Prop} {T : α → γ → Prop} (first : Option.Rel R a b)
    (second : Option.Rel S b c)
    (link : ∀ x y z, a = some x → b = some y → c = some z → R x y → S y z → T x z) :
    Option.Rel T a c := by
  cases first with
  | none =>
    cases second
    exact .none
  | some near =>
    cases second with
    | some far => exact .some (link _ _ _ rfl rfl rfl near far)

theorem rel_of_map {f : α → β} {a b : Option α} (same : a.map f = b.map f) :
    Option.Rel (fun x y => f x = f y) a b := by
  cases a <;> cases b <;> simp_all

theorem forall₂_iff_rel {xs : List α} {ys : List β} :
    List.Forall₂ R xs ys ↔ ∀ n : Nat, Option.Rel R xs[n]? ys[n]? := by
  induction xs generalizing ys with
  | nil =>
    cases ys with
    | nil => simp
    | cons y ys =>
      constructor
      · rintro ⟨⟩
      · intro agree
        cases agree 0
  | cons x xs ih =>
    cases ys with
    | nil =>
      constructor
      · rintro ⟨⟩
      · intro agree
        cases agree 0
    | cons y ys =>
      rw [List.forall₂_cons, ih]
      constructor
      · rintro ⟨first, rest⟩ (_ | n)
        · exact .some first
        · exact rest n
      · intro agree
        exact ⟨Option.rel_some_some.mp (agree 0), fun n => agree (n + 1)⟩

end Rel

namespace Value

/-- Where a part stands: at a place of an array or under a key of an object. -/
inductive Place where
  | item (n : Nat)
  | member (key : String)

def part? : Value → Place → Option Value
  | array items, .item n => items[n]?
  | object members, .member key => Table.find? key members
  | _, _ => none

/-- What a value is apart from its parts. Numbers stand for their nearest doubles, zeros without
their sign. -/
def form : Value → Value
  | null => null
  | bool b => bool b
  | int n => double (Double.ofInt n).unsigned
  | double x => double x.unsigned
  | text s => text s
  | array _ => array []
  | object _ => object []

/-- Neither an array nor an object. -/
def isPlain : Value → Bool
  | array _ => false
  | object _ => false
  | _ => true

def keys : Value → List String
  | object members => Table.keys members
  | _ => []

/-- A value with no key twice in any of its objects. -/
inductive Formed : Value → Prop
  | intro {v : Value} : v.keys.Nodup → (∀ p x, v.part? p = some x → Formed x) → Formed v

variable {v w x : Value}

theorem isPlain_iff :
    v.isPlain = true ↔ (∀ items, v ≠ array items) ∧ ∀ members, v ≠ object members := by
  cases v <;> simp [isPlain]

theorem part?_plain (plain : v.isPlain = true) (p : Place) : v.part? p = none := by
  cases v <;> first | rfl | cases plain

theorem isPlain_of_form (forms : v.form = w.form) : v.isPlain = w.isPlain := by
  have kept : ∀ y : Value, y.form.isPlain = y.isPlain := by
    rintro (_ | _) <;> rfl
  rw [← kept v, forms, kept w]

theorem formed_plain (plain : v.isPlain = true) : v.Formed := by
  refine .intro ?_ fun p x part => ?_
  · cases v <;> first | exact List.nodup_nil | cases plain
  · rw [part?_plain plain] at part
    cases part

theorem formed_array {items : List Value} : (array items).Formed ↔ ∀ x ∈ items, x.Formed := by
  constructor
  · rintro ⟨-, parts⟩ x member
    obtain ⟨n, part⟩ := List.mem_iff_getElem?.mp member
    exact parts (.item n) x part
  · intro formed
    refine .intro List.nodup_nil ?_
    rintro (n | key) x part
    · exact formed x (List.mem_of_getElem? part)
    · cases part

theorem formed_object {members : List (String × Value)} :
    (object members).Formed ↔ (Table.keys members).Nodup ∧ ∀ m ∈ members, m.2.Formed := by
  constructor
  · rintro ⟨unique, parts⟩
    exact ⟨unique, fun m member => parts (.member m.1) m.2 (Table.find?_of_mem unique member)⟩
  · rintro ⟨unique, formed⟩
    refine .intro unique ?_
    rintro (n | key) x part
    · cases part
    · exact formed (key, x) (Table.mem_of_find? part)

theorem same_iff : v.same w = true ↔ v.form = w.form ∧ v.isPlain = true := by
  cases v <;> cases w <;> simp [same, form, isPlain, Double.eq_iff]

theorem same_symm (same : v.same w = true) : w.same v = true := by
  obtain ⟨forms, plain⟩ := same_iff.mp same
  exact same_iff.mpr ⟨forms.symm, (isPlain_of_form forms).symm.trans plain⟩

theorem same_trans (first : v.same w = true) (second : w.same x = true) : v.same x = true := by
  obtain ⟨forms, plain⟩ := same_iff.mp first
  exact same_iff.mpr ⟨forms.trans (same_iff.mp second).1, plain⟩

theorem same_self : v.same v = true ↔
    (∀ items, v ≠ array items) ∧ ∀ members, v ≠ object members := by
  rw [same_iff, and_iff_right rfl, isPlain_iff]

theorem deepEqualItems_iff {xs ys : List Value} :
    deepEqualItems xs ys = true ↔ List.Forall₂ (fun v w => v.deepEqual w = true) xs ys := by
  induction xs generalizing ys with
  | nil => cases ys <;> simp [deepEqualItems]
  | cons x xs ih => cases ys <;> simp [deepEqualItems, ih]

theorem deepEqualMembers_iff {xs ys : List (String × Value)} :
    deepEqualMembers xs ys = true ↔
      ∀ m ∈ xs, ∃ w, Table.find? m.1 ys = some w ∧ m.2.deepEqual w = true := by
  induction xs with
  | nil => simp [deepEqualMembers]
  | cons m xs ih =>
    rw [deepEqualMembers, Bool.and_eq_true, ih, List.forall_mem_cons]
    cases Table.find? m.1 ys <;> simp

theorem deepEqual_array {xs ys : List Value} : (array xs).deepEqual (array ys) = true ↔
    List.Forall₂ (fun v w => v.deepEqual w = true) xs ys := by
  rw [deepEqual, deepEqualItems_iff]

theorem deepEqual_object {xs ys : List (String × Value)} (unique : (Table.keys xs).Nodup)
    (uniqueToo : (Table.keys ys).Nodup) : (object xs).deepEqual (object ys) = true ↔
      ∀ key, Option.Rel (fun v w => v.deepEqual w = true) (Table.find? key xs)
        (Table.find? key ys) := by
  rw [deepEqual, Bool.and_eq_true, beq_iff_eq, deepEqualMembers_iff]
  exact Table.agree_iff (R := fun v w => v.deepEqual w = true) unique uniqueToo

/-- Only between two arrays and between two objects do parts count. -/
theorem deepEqual_eq_same (arrays : ∀ xs ys, v = array xs → w ≠ array ys)
    (objects : ∀ xs ys, v = object xs → w ≠ object ys) : v.deepEqual w = v.same w := by
  cases v <;> cases w <;>
    first | rfl | exact absurd rfl (arrays _ _ rfl) | exact absurd rfl (objects _ _ rfl)

/-- Equality compares the forms and then the parts, place by place and key by key. -/
theorem deepEqual_iff (unique : v.keys.Nodup) (uniqueToo : w.keys.Nodup) :
    v.deepEqual w = true ↔ v.form = w.form ∧
      ∀ p, Option.Rel (fun a b => a.deepEqual b = true) (v.part? p) (w.part? p) := by
  by_cases plain : v.form = w.form → v.isPlain = true
  · have mixed : v.deepEqual w = v.same w :=
      deepEqual_eq_same (fun _ _ one two => by subst one two; cases plain rfl)
        fun _ _ one two => by subst one two; cases plain rfl
    rw [mixed, same_iff]
    refine and_congr_right fun forms => ?_
    have plainToo : w.isPlain = true := (isPlain_of_form forms).symm.trans (plain forms)
    simp [plain forms, part?_plain (plain forms), part?_plain plainToo]
  · obtain ⟨forms, composed⟩ := Classical.not_imp.mp plain
    rw [and_iff_right forms]
    cases v with
    | array xs =>
      cases w with
      | array ys =>
        rw [deepEqual_array, forall₂_iff_rel]
        constructor
        · rintro agree (n | key)
          · exact agree n
          · exact .none
        · exact fun agree n => agree (.item n)
      | _ => cases forms
    | object xs =>
      cases w with
      | object ys =>
        rw [deepEqual_object unique uniqueToo]
        constructor
        · rintro agree (n | key)
          · exact .none
          · exact agree key
        · exact fun agree key => agree (.member key)
      | _ => cases forms
    | _ => exact absurd rfl composed

theorem deepEqual_refl (formed : v.Formed) : v.deepEqual v = true := by
  induction formed with
  | intro unique _ ih =>
    refine (deepEqual_iff unique unique).mpr ⟨rfl, fun p => ?_⟩
    cases part : part? _ p with
    | none => exact .none
    | some x => exact .some (ih p x part)

theorem deepEqual_symm (formed : v.Formed) (formedToo : w.Formed) (equal : v.deepEqual w = true) :
    w.deepEqual v = true := by
  -- Not by the recursion of the comparison, which looks for the parts of one side on the other.
  induction formed generalizing w with
  | intro unique _ ih =>
    obtain ⟨uniqueToo, parts⟩ := formedToo
    obtain ⟨forms, agree⟩ := (deepEqual_iff unique uniqueToo).mp equal
    refine (deepEqual_iff uniqueToo unique).mpr ⟨forms.symm, fun p => ?_⟩
    exact rel_symm (agree p) fun a b here there => ih p a here (parts p b there)

/-- A repeated key would be counted twice and looked for once. -/
example :
    let twice := object [("on", null), ("on", null)]
    let once := object [("on", null), ("off", null)]
    twice.deepEqual once = true ∧ once.deepEqual twice = false := by
  decide

theorem deepEqual_trans (formed : v.Formed) (between : w.Formed) (last : x.Formed)
    (first : v.deepEqual w = true) (second : w.deepEqual x = true) : v.deepEqual x = true := by
  induction formed generalizing w x with
  | intro unique _ ih =>
    obtain ⟨uniqueBetween, partsBetween⟩ := between
    obtain ⟨uniqueLast, partsLast⟩ := last
    obtain ⟨forms, agree⟩ := (deepEqual_iff unique uniqueBetween).mp first
    obtain ⟨formsToo, agreeToo⟩ := (deepEqual_iff uniqueBetween uniqueLast).mp second
    refine (deepEqual_iff unique uniqueLast).mpr ⟨forms.trans formsToo, fun p => ?_⟩
    refine rel_trans (agree p) (agreeToo p) fun a b c here there beyond => ?_
    exact ih p a here (partsBetween p b there) (partsLast p c beyond)

/-! Strict equality. -/

theorem form_unsigned (v : Value) : v.unsigned.form = v.form := by
  have twice : ∀ y : Double, y.unsigned.unsigned = y.unsigned := by
    intro y
    unfold Double.unsigned
    split <;> simp_all [Double.zero, Double.isZero]
  cases v <;> simp [unsigned, form, twice]

theorem unsignedItems_eq (items : List Value) : unsignedItems items = items.map unsigned := by
  induction items with
  | nil => rfl
  | cons x rest ih => rw [unsignedItems, ih, List.map_cons]

theorem find?_unsigned (key : String) (members : List (String × Value)) :
    Table.find? key (unsignedMembers members) = (Table.find? key members).map unsigned := by
  induction members with
  | nil => rfl
  | cons m rest ih =>
    rw [unsignedMembers, Table.find?, Table.find?, ih]
    split <;> rfl

theorem part?_unsigned (v : Value) (p : Place) : v.unsigned.part? p = (v.part? p).map unsigned := by
  cases v with
  | array items =>
    cases p with
    | item n =>
      rw [unsigned, unsignedItems_eq]
      exact List.getElem?_map
    | member => rfl
  | object members =>
    cases p with
    | item => rfl
    | member key => exact find?_unsigned key members
  | _ => rfl

theorem deepEqual_of_identical (formed : v.Formed) (formedToo : w.Formed)
    (same : v.identical w = true) : v.deepEqual w = true := by
  induction formed generalizing w with
  | @intro v unique _ ih =>
    obtain ⟨uniqueToo, parts⟩ := formedToo
    have plain : v.unsigned = w.unsigned := (identical_iff v w).mp same
    refine (deepEqual_iff unique uniqueToo).mpr ⟨?_, fun p => ?_⟩
    · rw [← form_unsigned v, plain, form_unsigned]
    · have agree : (v.part? p).map unsigned = (w.part? p).map unsigned := by
        rw [← part?_unsigned, plain, part?_unsigned]
      refine rel_imp (rel_of_map agree) fun a b here there equal => ?_
      exact ih p a here (parts p b there) ((identical_iff a b).mpr equal)

/-! Values inside others. -/

/-- One value takes the place of another at some depth. -/
inductive Replaces (old new : Value) : Value → Value → Prop
  | here : Replaces old new old new
  | item {v w : Value} {before after : List Value} : Replaces old new v w →
      Replaces old new (array (before ++ v :: after)) (array (before ++ w :: after))
  | member {v w : Value} {before after : List (String × Value)} {key : String} :
      Replaces old new v w → Replaces old new (object (before ++ (key, v) :: after))
        (object (before ++ (key, w) :: after))

variable {old new : Value}

theorem formed_item {before after : List Value} : (array (before ++ v :: after)).Formed ↔
    v.Formed ∧ (∀ x ∈ before, x.Formed) ∧ ∀ x ∈ after, x.Formed := by
  rw [formed_array, List.forall_mem_append, List.forall_mem_cons, and_left_comm]

theorem formed_member {before after : List (String × Value)} {key : String} :
    (object (before ++ (key, v) :: after)).Formed ↔ v.Formed ∧
      (Table.keys before ++ key :: Table.keys after).Nodup ∧
        (∀ m ∈ before, m.2.Formed) ∧ ∀ m ∈ after, m.2.Formed := by
  rw [formed_object, List.forall_mem_append, List.forall_mem_cons, Table.keys, List.map_append,
    List.map_cons]
  tauto

theorem Replaces.formed (replaces : Replaces old new v w) (formed : v.Formed) :
    old.Formed ∧ (new.Formed → w.Formed) := by
  induction replaces with
  | here => exact ⟨formed, id⟩
  | item _ ih =>
    obtain ⟨inner, others⟩ := formed_item.mp formed
    exact ⟨(ih inner).1, fun fresh => formed_item.mpr ⟨(ih inner).2 fresh, others⟩⟩
  | member _ ih =>
    obtain ⟨inner, others⟩ := formed_member.mp formed
    exact ⟨(ih inner).1, fun fresh => formed_member.mpr ⟨(ih inner).2 fresh, others⟩⟩

theorem Replaces.deepEqual (replaces : Replaces old new v w) (formed : v.Formed)
    (fresh : new.Formed) (equal : old.deepEqual new = true) : v.deepEqual w = true := by
  induction replaces with
  | here => exact equal
  | item _ ih =>
    obtain ⟨inner, front, back⟩ := formed_item.mp formed
    refine deepEqual_array.mpr (List.rel_append ?_ (.cons (ih inner) ?_))
    · exact List.forall₂_same.mpr fun x member => deepEqual_refl (front x member)
    · exact List.forall₂_same.mpr fun x member => deepEqual_refl (back x member)
  | member inside ih =>
    have formedToo := (Replaces.formed (.member inside) formed).2 fresh
    obtain ⟨inner, unique, front, back⟩ := formed_member.mp formed
    refine (deepEqual_object (formed_object.mp formed).1 (formed_object.mp formedToo).1).mpr ?_
    refine Table.find?_forall₂ (List.rel_append ?_ (.cons ⟨rfl, ih inner⟩ ?_))
    · exact List.forall₂_same.mpr fun m member => ⟨rfl, deepEqual_refl (front m member)⟩
    · exact List.forall₂_same.mpr fun m member => ⟨rfl, deepEqual_refl (back m member)⟩

theorem formed_perm {members others : List (String × Value)} (perm : members.Perm others)
    (formed : (object members).Formed) : (object others).Formed := by
  obtain ⟨unique, parts⟩ := formed_object.mp formed
  refine formed_object.mpr ⟨(perm.map Prod.fst).nodup_iff.mp unique, fun m member => ?_⟩
  exact parts m (perm.mem_iff.mpr member)

theorem deepEqual_perm {members others : List (String × Value)} (perm : members.Perm others)
    (formed : (object members).Formed) : (object members).deepEqual (object others) = true := by
  have unique := (formed_object.mp formed).1
  have uniqueToo := (formed_object.mp (formed_perm perm formed)).1
  refine (deepEqual_object unique uniqueToo).mpr fun key => ?_
  rw [← Table.find?_perm unique perm]
  exact (deepEqual_object unique unique).mp (deepEqual_refl formed) key

end Value

/-- How values are equal: by their parts, by their parts strictly, and as values without parts. -/
structure EqualityKept : Prop where
  /-- Whatever the depth. -/
  equivalence : Equivalence fun v w : { v : Value // v.Formed } => v.1.deepEqual w.1 = true
  arrays : ∀ xs ys, (Value.array xs).deepEqual (.array ys) = true ↔
    List.Forall₂ (fun v w => v.deepEqual w = true) xs ys
  /-- The same keys, with equal values. -/
  objects : ∀ xs ys, (Value.object xs).Formed → (Value.object ys).Formed →
    ((Value.object xs).deepEqual (.object ys) = true ↔ ∀ key,
      Option.Rel (fun v w => v.deepEqual w = true) (Table.find? key xs) (Table.find? key ys))
  strict : ∀ v w : Value, v.Formed → w.Formed → v.identical w = true → v.deepEqual w = true
  /-- The members of an object count in any order, whatever the object is a part of. -/
  order : ∀ (members others : List (String × Value)) v w, members.Perm others →
    Value.Replaces (.object members) (.object others) v w → v.Formed → v.deepEqual w = true
  plain : ∀ v w : Value, (∀ xs ys, v = .array xs → w ≠ .array ys) →
    (∀ xs ys, v = .object xs → w ≠ .object ys) → v.deepEqual w = v.same w
  /-- With an equal value in the place of a part the whole stays equal. -/
  congruence : ∀ old new v w, Value.Replaces old new v w → v.Formed → new.Formed →
    old.deepEqual new = true → v.deepEqual w = true
  same : ∀ v w : Value, v.same w = true ↔ v.form = w.form ∧ v.isPlain = true
  sameSymm : ∀ v w : Value, v.same w = true → w.same v = true
  sameTrans : ∀ v w x : Value, v.same w = true → w.same x = true → v.same x = true
  sameRefl : ∀ v : Value, v.same v = true ↔
    (∀ items, v ≠ .array items) ∧ ∀ members, v ≠ .object members

theorem equality_kept : EqualityKept where
  equivalence := {
    refl := fun v => Value.deepEqual_refl v.2
    symm := fun {v w} => Value.deepEqual_symm v.2 w.2
    trans := fun {v w x} => Value.deepEqual_trans v.2 w.2 x.2 }
  arrays _ _ := Value.deepEqual_array
  objects _ _ formed formedToo :=
    Value.deepEqual_object (Value.formed_object.mp formed).1 (Value.formed_object.mp formedToo).1
  strict _ _ := Value.deepEqual_of_identical
  order _ _ _ _ perm replaces formed := by
    have inner := (replaces.formed formed).1
    exact replaces.deepEqual formed (Value.formed_perm perm inner) (Value.deepEqual_perm perm inner)
  plain _ _ := Value.deepEqual_eq_same
  congruence _ _ _ _ := Value.Replaces.deepEqual
  same _ _ := Value.same_iff
  sameSymm _ _ := Value.same_symm
  sameTrans _ _ _ := Value.same_trans
  sameRefl _ := Value.same_self

/-- Colours in two orders of their members, with numbers written in two ways. -/
theorem equality_kept_colours :
    let red := .object [("color", .text "red"), ("rgb", .array [.int 255, .int 0])]
    let also := .object [("rgb", .array [.double (.ofInt 255), .int 0]), ("color", .text "red")]
    Value.Formed red ∧ Value.Formed also ∧ red.deepEqual also = true ∧
      also.deepEqual red = true := by
  intro red also
  have formed : red.Formed := Value.formed_object.mpr
    ⟨by decide, by simp +decide [Value.formed_array, Value.formed_plain]⟩
  have formedToo : also.Formed := Value.formed_object.mpr
    ⟨by decide, by simp +decide [Value.formed_array, Value.formed_plain]⟩
  have equal : red.deepEqual also = true := by decide +kernel
  exact ⟨formed, formedToo, equal,
    equality_kept.equivalence.symm (x := ⟨red, formed⟩) (y := ⟨also, formedToo⟩) equal⟩

end Reflex
