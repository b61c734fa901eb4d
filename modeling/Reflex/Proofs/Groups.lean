import Reflex.Proofs.Leftovers
import Reflex.Proofs.Recording

/-! Constraint groups. Several blocks may be open at once, for any scenarios, and be added to in
any order. The entry that a block becomes has the predicates that were added through that block,
and from then on the entry stays as it is. -/
namespace Reflex
open Act Engine Evaluation

variable {σ : Type}

namespace Ledger

/-- The predicates added through a block, in the order in which they were. -/
def group (block : Nat) : Ledger σ → List (Predicate σ)
  | [] => []
  | .added b p :: ds => if b = block then group block ds ++ [p] else group block ds
  | _ :: ds => group block ds

/-- The scenario that a block was opened for. -/
def scenario? (block : Nat) : Ledger σ → Option Nat
  | [] => none
  | .opened b id :: ds => if b = block then some id else scenario? block ds
  | _ :: ds => scenario? block ds

/-- The block was opened, and neither closed nor discarded since. -/
def isOpen (block : Nat) : Ledger σ → Bool
  | [] => false
  | .opened b _ :: ds => b == block || isOpen block ds
  | .closed b _ :: ds | .discarded b :: ds => b != block && isOpen block ds
  | _ :: ds => isOpen block ds

/-- The entries that a scenario got, in the order in which it did. -/
def entries (id : Nat) : Ledger σ → List (Entry σ)
  | [] => []
  | .closed b c :: ds =>
    if scenario? b ds = some id then entries id ds ++ [⟨some (group b ds), c⟩] else entries id ds
  | .bare n c :: ds => if n = id then entries id ds ++ [⟨none, c⟩] else entries id ds
  | _ :: ds => entries id ds

/-- A block that is open was opened for some scenario. -/
theorem isOpen_owned {block : Nat} {ds : Ledger σ} (there : isOpen block ds = true) :
    ∃ id, scenario? block ds = some id := by
  induction ds with
  | nil => cases there
  | cons d rest ih =>
    cases d with
    | opened b id =>
      by_cases here : b = block
      · exact ⟨id, if_pos here⟩
      · rw [scenario?, if_neg here]
        exact ih (by simpa [isOpen, here] using there)
    | added | bare => exact ih there
    | closed | discarded => exact ih (Bool.and_eq_true_iff.mp there).2

theorem entries_suffix (id : Nat) (d : Draft σ) (ds : Ledger σ) :
    entries id ds <+: entries id (d :: ds) := by
  cases d with
  | opened | added | discarded => exact List.prefix_refl _
  | closed | bare =>
    rw [entries]
    split
    · exact List.prefix_append _ _
    · exact List.prefix_refl _

/-- Entries are added at the end, and none is changed. -/
theorem entries_append (id : Nat) (es ds : Ledger σ) : entries id ds <+: entries id (es ++ ds) := by
  induction es with
  | nil => exact List.prefix_refl _
  | cons d rest ih => exact ih.trans (entries_suffix id d _)

/-- What the records tell of a world's blocks and entries. -/
structure Tells (ds : Ledger σ) (w : World σ) : Prop where
  block : ∀ n, w.block? n =
    if ds.isOpen n then (ds.scenario? n).map fun id => ⟨n, id, ds.group n⟩ else none
  entries : ∀ id s, w.scenarios[id]? = some s → s.entries = ds.entries id
  /-- Numbers that no block has had yet. -/
  fresh : ∀ n, w.nextBlock ≤ n → ds.scenario? n = none ∧ ds.group n = []
  known : ∀ n id, ds.scenario? n = some id → id < w.scenarios.length
  unwritten : ∀ id, w.scenarios.length ≤ id → ds.entries id = []

end Ledger

namespace World

variable {w w' : World σ}

theorem block?_drafting (w : World σ) (id n : Nat) :
    (w.drafting id).block? n =
      (w.block? n).or (if w.nextBlock = n then some ⟨n, id, []⟩ else none) := by
  simp only [block?, drafting, List.find?_append]
  congr 1
  by_cases same : w.nextBlock = n <;> simp [same]

theorem block?_gathering (w : World σ) (block n : Nat) (p : Predicate σ) :
    (w.gathering block p).block? n = (w.block? n).map fun b =>
      if n = block then { b with predicates := b.predicates ++ [p] } else b := by
  have sameId : ∀ b : Block σ, ((if b.id = block then { b with predicates := b.predicates ++ [p] }
      else b).id == n) = (b.id == n) := fun b => by split <;> rfl
  simp only [block?, gathering, List.find?_map, Function.comp_def, sameId]
  cases found : w.blocks.find? (·.id == n) with
  | none => rfl
  | some b =>
    have same : b.id = n := by simpa using List.find?_some found
    simp only [Option.map_some, same]

theorem block?_discarding (w : World σ) (block n : Nat) :
    (w.discarding block).block? n = if n = block then none else w.block? n := by
  simp only [block?, discarding, List.find?_filter]
  split
  case isTrue same => simp [same]
  case isFalse other =>
    congr 1
    funext b
    by_cases here : b.id = n <;> simp [here, other]

end World

namespace Ledger.Tells

variable {ds : Ledger σ} {w w' : World σ}

theorem start (clock : Instant) (devices : List Device) (memory : σ) :
    Tells [] (World.start clock devices memory) where
  block _ := rfl
  entries _ _ none := nomatch none
  fresh _ _ := ⟨rfl, rfl⟩
  known _ _ none := nomatch none
  unwritten _ _ := rfl

/-- Neither blocks nor the entries of scenarios are different; there may be more scenarios. -/
theorem still (tells : Tells ds w) (blocks : w'.blocks = w.blocks)
    (nextBlock : w'.nextBlock = w.nextBlock) {more : List (List (Entry σ))}
    (entries : w'.scenarios.map Scenario.entries = w.scenarios.map Scenario.entries ++ more)
    (bare : ∀ es ∈ more, es = []) : Tells ds w' := by
  have longer : w'.scenarios.length = w.scenarios.length + more.length := by
    simpa using congrArg List.length entries
  constructor
  · intro n
    rw [World.block?, blocks]
    exact tells.block n
  · intro id s found
    have there : (w'.scenarios.map Scenario.entries)[id]? = some s.entries := by
      rw [List.getElem?_map, found, Option.map_some]
    rw [entries] at there
    rcases Nat.lt_or_ge id w.scenarios.length with old | new
    · rw [List.getElem?_append_left (by simpa using old), List.getElem?_map,
        List.getElem?_eq_getElem old, Option.map_some, Option.some.injEq] at there
      rw [← there]
      exact tells.entries id _ (List.getElem?_eq_getElem old)
    · rw [List.getElem?_append_right (by simpa using new)] at there
      rw [tells.unwritten id new]
      exact bare _ (List.mem_of_getElem? there)
  · rw [nextBlock]
    exact tells.fresh
  · intro n id known
    have before := tells.known n id known
    omega
  · intro id within
    exact tells.unwritten id (by omega)

theorem same (tells : Tells ds w) (blocks : w'.blocks = w.blocks)
    (nextBlock : w'.nextBlock = w.nextBlock)
    (entries : w'.scenarios.map Scenario.entries = w.scenarios.map Scenario.entries) :
    Tells ds w' :=
  tells.still blocks nextBlock (entries.trans (List.append_nil _).symm) (fun _ none => nomatch none)

theorem spare (tells : Tells ds w) (spares : w.Spares w') : Tells ds w' := by
  refine tells.same spares.blocks spares.nextBlock ?_
  have entries := congrArg (List.map Scenario.entries) spares.outlines
  rw [List.map_map, List.map_map] at entries
  exact entries

theorem create (tells : Tells ds w) (ids : List Nat) (description : String) (options : Options) :
    Tells ds (w.creating ids description options) := by
  refine tells.still rfl rfl (World.creating_map (fun _ _ => rfl) w ids description options) ?_
  exact List.forall_mem_singleton.mpr rfl

theorem test (tells : Tells ds w) (ids : List Nat) (id : Nat) (enabled : Bool) :
    Tells ds (w.testing ids id enabled) :=
  tells.same rfl rfl (World.testing_map (fun _ _ => rfl) w ids id enabled fun _ _ => rfl)

theorem clear (tells : Tells ds w) (ids : List Nat) : Tells ds (w.clearing ids) :=
  tells.same rfl rfl (World.clearing_map (fun _ _ => rfl) w ids)

theorem «open» (tells : Tells ds w) {id : Nat} (created : id < w.scenarios.length) :
    Tells (.opened w.nextBlock id :: ds) (w.drafting id) := by
  obtain ⟨unopened, ungrouped⟩ := tells.fresh w.nextBlock (Nat.le_refl _)
  constructor
  · intro n
    rw [World.block?_drafting, tells.block n]
    by_cases here : w.nextBlock = n
    · subst here
      simp [isOpen, scenario?, group, unopened, ungrouped]
    · simp [isOpen, scenario?, group, here]
  · exact tells.entries
  · intro n beyond
    have later : w.nextBlock < n := beyond
    rw [scenario?, if_neg (by omega)]
    exact tells.fresh n (by omega)
  · intro n other opened
    rw [scenario?] at opened
    split at opened
    · cases opened
      exact created
    · exact tells.known n other opened
  · exact tells.unwritten

/-- An open block is as the records tell. -/
theorem found (tells : Tells ds w) {n : Nat} {b : Block σ} (known : w.block? n = some b) :
    ds.isOpen n = true ∧ ds.scenario? n = some b.scenario ∧ b = ⟨n, b.scenario, ds.group n⟩ := by
  rw [tells.block n] at known
  split at known
  · rename_i opened
    obtain ⟨id, owner, rfl⟩ := Option.map_eq_some_iff.mp known
    exact ⟨opened, owner, rfl⟩
  · cases known

theorem below (tells : Tells ds w) {n : Nat} {b : Block σ} (known : w.block? n = some b) :
    n < w.nextBlock := by
  by_contra beyond
  have unopened := (tells.fresh n (Nat.le_of_not_lt beyond)).1
  cases (tells.found known).2.1.symm.trans unopened

theorem add (tells : Tells ds w) {block : Nat} {b : Block σ} (known : w.block? block = some b)
    (p : Predicate σ) : Tells (.added block p :: ds) (w.gathering block p) := by
  constructor
  · intro n
    rw [World.block?_gathering, tells.block n]
    simp only [isOpen, scenario?, group]
    by_cases here : n = block
    · subst here
      simp only [if_true]
      split
      · exact Option.map_map ..
      · rfl
    · simp [here, Ne.symm here]
  · exact tells.entries
  · intro n beyond
    have later : w.nextBlock ≤ n := beyond
    have below := tells.below known
    rw [group, if_neg (by omega)]
    exact tells.fresh n later
  · exact tells.known
  · exact tells.unwritten

theorem discard (tells : Tells ds w) (block : Nat) :
    Tells (.discarded block :: ds) (w.discarding block) := by
  constructor
  · intro n
    rw [World.block?_discarding, tells.block n]
    simp only [isOpen, scenario?, group]
    by_cases here : n = block
    · simp [here]
    · simp [here, Ne.symm here]
  · exact tells.entries
  · exact tells.fresh
  · exact tells.known
  · exact tells.unwritten

theorem length_extending (w : World σ) (id : Nat) (e : Entry σ) :
    (w.extending id e).scenarios.length = w.scenarios.length :=
  List.length_modify ..

/-- An entry was added to a scenario, and the records tell of that as well. -/
theorem extend {es : Ledger σ} {id : Nat} {e : Entry σ} (tells : Tells ds w)
    (created : id < w.scenarios.length) (blocks : ∀ n, isOpen n es = isOpen n ds)
    (owners : ∀ n, scenario? n es = scenario? n ds) (groups : ∀ n, group n es = group n ds)
    (written : ∀ n, Ledger.entries n es =
      if id = n then Ledger.entries n ds ++ [e] else Ledger.entries n ds) :
    Tells es (w.extending id e) := by
  constructor
  · intro n
    rw [blocks, owners, groups]
    exact tells.block n
  · intro n s found
    rw [World.extending, World.getElem?_modifyScenario] at found
    obtain ⟨t, known, rfl⟩ := Option.map_eq_some_iff.mp found
    rw [written]
    split
    · exact congrArg (· ++ [e]) (tells.entries n t known)
    · exact tells.entries n t known
  · intro n beyond
    rw [owners, groups]
    exact tells.fresh n beyond
  · intro n other owner
    rw [owners] at owner
    rw [length_extending]
    exact tells.known n other owner
  · intro n beyond
    rw [length_extending] at beyond
    rw [written, if_neg (by omega)]
    exact tells.unwritten n beyond

theorem close (tells : Tells ds w) {block : Nat} {b : Block σ} (known : w.block? block = some b)
    (c : Callback σ) : Tells (.closed block c :: ds) (w.sealing b c) := by
  obtain ⟨-, owner, same⟩ := tells.found known
  have named : b.id = block := by rw [same]
  have grouped : b.predicates = ds.group block := by rw [same]
  rw [World.sealing, named, grouped]
  refine (tells.discard block).extend (tells.known block _ owner) (fun _ => rfl) (fun _ => rfl)
    (fun _ => rfl) fun n => ?_
  simp only [Ledger.entries, owner, Option.some.injEq]

theorem bare (tells : Tells ds w) {id : Nat} (created : id < w.scenarios.length)
    (c : Callback σ) : Tells (.bare id c :: ds) (w.extending id ⟨none, c⟩) :=
  tells.extend created (fun _ => rfl) (fun _ => rfl) (fun _ => rfl) fun _ => rfl

theorem step {d : Option (Draft σ)} (tells : Tells ds w) (drafts : w.Drafts d w') :
    Tells (d.toList ++ ds) w' := by
  cases drafts with
  | spare spares => exact tells.spare spares
  | create => exact tells.create _ _ _
  | test => exact tells.test _ _ _
  | clear => exact tells.clear _
  | drop | complete => exact tells.same rfl rfl rfl
  | «open» created => exact tells.open created
  | add known => exact tells.add known _
  | close known => exact tells.close known _
  | discard => exact tells.discard _
  | bare created => exact tells.bare created _

end Ledger.Tells

/-- The records of a history tell of the blocks and entries of its world. -/
theorem World.Recorded.tells {ds : Ledger σ} {w : World σ} (recorded : w.Recorded ds) :
    ds.Tells w :=
  recorded.invariant Ledger.Tells.start fun _ tells step => tells.step step

namespace Engine

/-- What calling a constraint comes to: it is refused, adds one condition to its block, or runs
what a user supplied. -/
inductive Constrains (call : Call σ) (block : Nat) (name : String) (arguments : List Value)
    (w : World σ) : Except Interrupt Unit × World σ → Prop
  | refused {i : Interrupt} : Constrains call block name arguments w (.error i, w)
  | condition {v : Vocabulary (ConstraintFactory σ)} {k : ConditionKind} {q : Condition} :
      w.constraintVocabulary = .ok v → (name, .builtin k) ∈ v.entries → k.read arguments = .ok q →
      Constrains call block name arguments w (.ok (), w.gathering block (.condition q))
  | custom {v : Vocabulary (ConstraintFactory σ)} {make : Nat → List Value → Program σ} :
      w.constraintVocabulary = .ok v → (name, .custom make) ∈ v.entries →
      Constrains call block name arguments w
        ((do discard (call (make block arguments)) : Act σ Unit) w)

theorem invokeConstraint_cases (call : Call σ) (block : Nat) (name : String)
    (arguments : List Value) (w : World σ) :
    Constrains call block name arguments w (invokeConstraint call block name arguments w) := by
  rw [invokeConstraint, bind_ok (get_run _)]
  rcases resolve_cases _ _ _ _ w with ⟨i, refused⟩ | ⟨v, factory, merged, member, ran⟩
  · rw [refused]
    exact .refused
  rw [ran]
  cases factory with
  | custom make => exact .custom merged member
  | builtin k =>
    dsimp only
    rcases still_cases (ofInvalid_still (k.read arguments) w) _ with ⟨i, refused⟩ | ⟨q, read, ran⟩
    · rw [refused]
      exact .refused
    · rw [ran]
      exact .condition merged member (ofInvalid_ok read)

end Engine

namespace World.Recorded

variable {ds : Ledger σ} {w : World σ}

theorem missing (recorded : w.Recorded ds) {n : Nat} (shut : ds.isOpen n = false) :
    w.block? n = none := by
  rw [recorded.tells.block n, shut]
  rfl

theorem there (recorded : w.Recorded ds) {n : Nat} (opened : ds.isOpen n = true) :
    ∃ b, w.block? n = some b := by
  obtain ⟨id, owner⟩ := Ledger.isOpen_owned opened
  rw [recorded.tells.block n, opened, owner]
  exact ⟨_, rfl⟩

/-- A new block has a number that no block had before. -/
theorem opens (recorded : w.Recorded ds) (id : Nat) : (∃ i, openBlock id w = (.error i, w)) ∨
    ds.scenario? w.nextBlock = none ∧ ds.group w.nextBlock = [] ∧
      openBlock id w = (.ok w.nextBlock, w.drafting id) ∧
      (w.drafting id).Recorded (.opened w.nextBlock id :: ds) := by
  rcases openBlock_found id w with refused | ⟨created, ran⟩
  · exact .inl refused
  · obtain ⟨unopened, ungrouped⟩ := recorded.tells.fresh w.nextBlock (Nat.le_refl _)
    exact .inr ⟨unopened, ungrouped, ran, recorded.next (.open created)⟩

theorem adds (recorded : w.Recorded ds) (n : Nat) (p : Predicate σ) :
    if ds.isOpen n then (w.gathering n p).Recorded (.added n p :: ds) else w.gathering n p = w := by
  split
  case isTrue opened =>
    obtain ⟨b, found⟩ := recorded.there opened
    exact recorded.next (.add found)
  case isFalse shut => exact gathering_missing (recorded.missing (by simpa using shut)) p

theorem discards (recorded : w.Recorded ds) (n : Nat) :
    if ds.isOpen n then (w.discarding n).Recorded (.discarded n :: ds)
    else w.discarding n = w := by
  split
  case isTrue opened =>
    obtain ⟨b, found⟩ := recorded.there opened
    exact recorded.next (.discard found)
  case isFalse shut => exact discarding_missing (recorded.missing (by simpa using shut))

/-- The entry that a block becomes has the predicates that were added through it. -/
theorem closes (recorded : w.Recorded ds) (n : Nat) (c : Callback σ) :
    (ds.isOpen n = false ∧ ∃ i, closeBlock n c w = (.error i, w)) ∨
    ds.isOpen n = true ∧ ∃ id next, ds.scenario? n = some id ∧ closeBlock n c w = (.ok (), next) ∧
      next.Recorded (.closed n c :: ds) ∧
      next.scenarios = (w.extending id ⟨some (ds.group n), c⟩).scenarios := by
  rcases closeBlock_found n c w with ⟨shut, refused⟩ | ⟨b, found, ran⟩
  · refine .inl ⟨?_, refused⟩
    by_contra opened
    obtain ⟨b, found⟩ := recorded.there (n := n) (by simpa using opened)
    cases shut.symm.trans found
  · obtain ⟨opened, owner, same⟩ := recorded.tells.found found
    refine .inr ⟨opened, b.scenario, _, owner, ran, recorded.next (.close found), ?_⟩
    have grouped : b.predicates = ds.group n := by rw [same]
    rw [sealing, grouped]
    rfl

/-- A scenario keeps its entries as they are, and in their places. -/
theorem lasting (recorded : w.Recorded ds) {es : Ledger σ} {next : World σ}
    (drafted : w.Drafted es next) {id : Nat} {s : Scenario σ} (found : w.scenarios[id]? = some s) :
    ∃ t : Scenario σ, next.scenarios[id]? = some t ∧ s.entries <+: t.entries := by
  obtain ⟨t, there, -⟩ := drafted.scenario found
  refine ⟨t, there, ?_⟩
  rw [recorded.tells.entries id s found, (recorded.trans drafted).tells.entries id t there]
  exact Ledger.entries_append id es ds

end World.Recorded

/-- What holds of blocks and groups in a world that a history with these records leads to. -/
structure GroupsKept (ds : Ledger σ) (w : World σ) : Prop where
  entries : ∀ id s, w.scenarios[id]? = some s → s.entries = ds.entries id
  blocks : ∀ n b, w.block? n = some b ↔ ds.isOpen n = true ∧ ds.scenario? n = some b.scenario ∧
    b = ⟨n, b.scenario, ds.group n⟩
  opens : ∀ id, (∃ i, openBlock id w = (.error i, w)) ∨
    ds.scenario? w.nextBlock = none ∧ ds.group w.nextBlock = [] ∧
      openBlock id w = (.ok w.nextBlock, w.drafting id) ∧
      (w.drafting id).Recorded (.opened w.nextBlock id :: ds)
  constrains : ∀ call n name arguments,
    Constrains call n name arguments w (invokeConstraint call n name arguments w)
  checks : ∀ call n p rest,
    interpret call (.check n p rest) w = interpret call rest (w.gathering n (.custom p))
  adds : ∀ n p, if ds.isOpen n then (w.gathering n p).Recorded (.added n p :: ds)
    else w.gathering n p = w
  closes : ∀ n c, (ds.isOpen n = false ∧ ∃ i, closeBlock n c w = (.error i, w)) ∨
    ds.isOpen n = true ∧ ∃ id next, ds.scenario? n = some id ∧ closeBlock n c w = (.ok (), next) ∧
      next.Recorded (.closed n c :: ds) ∧
      next.scenarios = (w.extending id ⟨some (ds.group n), c⟩).scenarios
  discards : ∀ n, discardBlock n w = (.ok (), w.discarding n) ∧
    if ds.isOpen n then (w.discarding n).Recorded (.discarded n :: ds) else w.discarding n = w
  runs : ∀ depth p, ∃ es, w.Drafted es (run depth p w).2
  builds : ∀ depth components, ∃ es, w.Drafted es (buildIn depth components w).2
  declares : ∀ depth d, ∃ es, w.Drafted es (declare (exec depth) d w).2
  boots : ∀ depth c, ∃ es, w.Drafted es (bootstrap depth c w).2
  lasting : ∀ es next, w.Drafted es next → next.Recorded (es ++ ds) ∧
    ∀ (id : Nat) (s : Scenario σ), w.scenarios[id]? = some s →
      ∃ t : Scenario σ, next.scenarios[id]? = some t ∧ s.entries <+: t.entries

/-- However blocks are opened, added to and closed, the entry that a block becomes has the
predicates that were added through this block, in order, and it is never changed. -/
theorem groups_kept {ds : Ledger σ} {w : World σ} (recorded : w.Recorded ds) :
    GroupsKept ds w where
  entries := recorded.tells.entries
  blocks n b := by
    refine ⟨recorded.tells.found, fun ⟨there, owner, same⟩ => ?_⟩
    rw [recorded.tells.block n, there, owner]
    exact congrArg some same.symm
  opens := recorded.opens
  constrains call n name arguments := invokeConstraint_cases call n name arguments w
  checks _ _ _ _ := rfl
  adds := recorded.adds
  closes := recorded.closes
  discards n := ⟨rfl, recorded.discards n⟩
  runs depth p := exec_drafting depth p w
  builds depth components := build_drafting depth components w
  declares depth d := declare_drafting depth d w
  boots depth c := bootstrap_drafted depth c w
  lasting _ _ drafted := ⟨recorded.trans drafted, fun _ _ => recorded.lasting drafted⟩

/-- Two blocks of one scenario and one of another are open at once, and closed in another order
than they were opened in. A call that is refused adds nothing. -/
def weaving : Program Unit :=
  .request (.createScenario "warp" ⟨none, false⟩) fun _ =>
    .request (.createScenario "weft" ⟨none, false⟩) fun _ =>
      .request (.openBlock 0) fun _ => .request (.openBlock 1) fun _ =>
        .check 1 (.done true) <|
          .request (.openBlock 0) fun _ =>
            .request (.invokeConstraint 0 "variable.defined" [.text "x"]) fun _ =>
              .check 2 (.done false) <|
                .request (.invokeConstraint 1 "variable.is" [.text "x"]) fun _ =>
                  .close 2 (fun _ => .done true) <| .check 0 (.done true) <|
                    .request (.invokeConstraint 0 "variable.defined" []) fun _ =>
                      .close 1 (fun _ => .done true) <| .close 0 (fun _ => .done true) (.done true)

def wovenHouse : World Unit := (run 2 weaving standardHouse).2

theorem groups_kept_woven :
    (∃ ds, wovenHouse.Recorded ds ∧ GroupsKept ds wovenHouse) ∧
      wovenHouse.scenarios.map (fun s => s.entries.map fun e =>
          e.group.map (List.map Predicate.readsVariables)) =
        [[some [false], some [true, false]], [some [false, true]]] := by
  have session : Session Rule.free true wovenHouse :=
    standardHouse_session.run_ended weaving.within_free (by decide +kernel)
  obtain ⟨ds, recorded⟩ := session.recorded
  exact ⟨⟨ds, recorded, groups_kept recorded⟩, by decide +kernel⟩

end Reflex
