import Mathlib.Data.List.Nodup
import Reflex.Proofs.Evolution
import Reflex.Proofs.History

/-! Publishing on the bus. What is subscribed at any moment is what was subscribed and not
removed before, and a publication calls those who were there when it started, whatever
they do to the bus, up to the first that fails. -/
namespace Reflex
open Act Engine Evaluation History

variable {σ : Type}

/-- Marks of subscribing and unsubscribing. -/
def Mark.isBus : Mark → Bool
  | subscribed _ _ | unsubscribed _ _ => true
  | _ => false

namespace History

/-- The subscriptions made and their topics, the latest first. -/
def made (J : History) : List (Nat × String) := J.filterMap fun
  | .subscribed id topic => some (id, topic)
  | _ => none

/-- The subscriptions removed, the latest first. -/
def removed (J : History) : List Nat := J.filterMap fun
  | .unsubscribed id true => some id
  | _ => none

/-- The subscriptions made and not removed, in subscription order. -/
def subscribers (J : History) : List (Nat × String) :=
  (made J).reverse.filter fun x => decide (x.1 ∉ removed J)

/-- Removing finds the subscriptions that were made and not removed. -/
def RemovesMade (earlier : History) : Mark → Prop
  | .unsubscribed id found => found = true ↔ id ∈ (made earlier).map Prod.fst ∧ id ∉ removed earlier
  | _ => True

variable {J later : History}

theorem made_append (quiet : ∀ m ∈ later, m.isBus = false) : made (later ++ J) = made J := by
  refine append_of_silent ?_ quiet
  intro m J first
  cases m <;> first | rfl | cases first

theorem removed_append (quiet : ∀ m ∈ later, m.isBus = false) :
    removed (later ++ J) = removed J := by
  refine append_of_silent ?_ quiet
  intro m J first
  cases m <;> first | rfl | cases first

theorem mem_subscribers {x : Nat × String} : x ∈ subscribers J ↔ x ∈ made J ∧ x.1 ∉ removed J := by
  simp [subscribers]

theorem subscribers_subscribed {id : Nat} (topic : String) (unremoved : id ∉ removed J) :
    subscribers (.subscribed id topic :: J) = subscribers J ++ [(id, topic)] := by
  change ((id, topic) :: made J).reverse.filter (fun x => decide (x.1 ∉ removed J)) = _
  rw [List.reverse_cons, List.filter_append]
  simp [subscribers, unremoved]

/-- Removing takes a subscription out if it is found, and it is found if it is there. -/
theorem subscribers_unsubscribed {id : Nat} {found : Bool}
    (missed : found = false → id ∉ (subscribers J).map Prod.fst) :
    subscribers (.unsubscribed id found :: J) = (subscribers J).filter fun x => x.1 != id := by
  cases found with
  | false =>
    change subscribers J = _
    symm
    apply List.filter_eq_self.mpr
    intro x member
    have other : x.1 ≠ id := fun same => missed rfl (List.mem_map.mpr ⟨x, member, same⟩)
    simpa using other
  | true =>
    change (made J).reverse.filter (fun x => decide (x.1 ∉ id :: removed J)) = _
    rw [subscribers, List.filter_filter]
    apply List.filter_congr
    intro x _
    by_cases same : x.1 = id <;> simp [same]

theorem mem_removed {id : Nat} : id ∈ removed J ↔ .unsubscribed id true ∈ J := by
  constructor
  · intro member
    obtain ⟨m, known, same⟩ := List.mem_filterMap.mp member
    cases m with
    | unsubscribed i found =>
      cases found <;> cases same
      exact known
    | _ => cases same
  · intro known
    exact List.mem_filterMap.mpr ⟨_, known, rfl⟩

theorem removed_made (removes : Everywhere RemovesMade J) :
    removed J ⊆ (made J).map Prod.fst := by
  intro id member
  obtain ⟨later, earlier, rfl, told⟩ := removes.of_mem (mem_removed.mp member)
  exact List.map_subset Prod.fst filterMap_behind (told.mp rfl).1

/-- Of all attempts to remove a subscription, the first one finds it. -/
theorem first_removes {later since before : History} {id : Nat} {found : Bool} {topic : String}
    (removes : Everywhere RemovesMade
      (later ++ .unsubscribed id found :: (since ++ .subscribed id topic :: before)))
    (distinct : ((made (since ++ .subscribed id topic :: before)).map Prod.fst).Nodup) :
    found = true ↔ ∀ other, .unsubscribed id other ∉ since := by
  have told : found = true ↔ id ∈ (made (since ++ .subscribed id topic :: before)).map Prod.fst ∧
      id ∉ removed (since ++ .subscribed id topic :: before) := removes.split
  have was : id ∈ (made (since ++ .subscribed id topic :: before)).map Prod.fst := by
    simp [made, List.filterMap_append]
  have fresh : id ∉ removed before := by
    intro gone
    have earlier := removed_made removes.before.tail.before.tail gone
    simp only [made, List.filterMap_append, List.map_append] at distinct
    exact (List.nodup_cons.mp (List.nodup_append.mp distinct).2.1).1 earlier
  have removed_since : ∀ {since : History},
      id ∈ removed (since ++ .subscribed id topic :: before) ↔ .unsubscribed id true ∈ since := by
    intro since
    rw [mem_removed, List.mem_append, List.mem_cons]
    constructor
    · rintro (known | same | earlier)
      · exact known
      · cases same
      · exact absurd (mem_removed.mpr earlier) fresh
    · exact .inl
  rw [told, and_iff_right was, removed_since]
  constructor
  · intro unremoved other member
    cases other with
    | true => exact unremoved member
    | false =>
      obtain ⟨front, back, rfl⟩ := List.append_of_mem member
      have inner := removes.before.tail
      rw [List.append_assoc, List.cons_append] at inner
      have missed : false = true ↔
          id ∈ (made (back ++ .subscribed id topic :: before)).map Prod.fst ∧
          id ∉ removed (back ++ .subscribed id topic :: before) := inner.split
      have known : id ∈ (made (back ++ .subscribed id topic :: before)).map Prod.fst := by
        simp [made, List.filterMap_append]
      have gone : id ∈ removed (back ++ .subscribed id topic :: before) := by
        by_contra unremoved
        cases missed.mpr ⟨known, unremoved⟩
      exact unremoved (List.mem_append_right _ (.tail _ (removed_since.mp gone)))
  · exact fun none => none true

end History

/-- The steps as far as the bus goes. -/
inductive World.Rewires : World σ → World σ → Prop
  | still {w w' : World σ} : w'.bus = w.bus → w.Without Mark.isBus w' → Rewires w w'
  | subscribe {w : World σ} {topic : String} {handler : Reaction σ} :
      Rewires w (w.subscribing topic handler)
  | unsubscribe {w : World σ} {id : Nat} : Rewires w (w.unsubscribing id)

theorem Mark.isBus_of_other {m : Mark} (other : m.isKey = false) : m.isBus = false := by
  cases m <;> first | rfl | cases other

theorem World.Evolves.rewires {rule : Rule} {w w' : World σ} (step : w.Evolves rule w') :
    w.Rewires w' := by
  cases step with
  | begin | conclude | stop => exact .still rfl (.marked _ rfl)
  | alter alters =>
    cases alters.touches with
    | elsewhere same => exact .still same.bus (same.journal.mono fun _ => Mark.isBus_of_other)
    | subscribe => exact .subscribe
    | unsubscribe => exact .unsubscribe
    | extend | create | test | clear | drop => exact .still rfl (.of_same rfl)
    | @write name value ttl =>
      obtain ⟨_, _, _, shape⟩ := w.publishing_shape name value ttl
      refine .still (by rw [shape]) (.publishing w name value ttl ?_ ?_ ?_ ?_)
      all_goals intros; rfl
    | expire => exact .still rfl ⟨[_, _], rfl, by simp [Mark.isBus]⟩

/-- What the bus holds, by what was subscribed and removed. -/
structure Listed (w : World σ) : Prop where
  listed : w.bus.subscriptions.map (fun s => (s.id, s.topic)) = subscribers w.journal
  fresh : ∀ x ∈ made w.journal, x.1 < w.bus.next
  distinct : ((made w.journal).map Prod.fst).Nodup
  removes : Everywhere RemovesMade w.journal

namespace Listed

variable {w w' : World σ}

theorem start (clock : Instant) (devices : List Device) (memory : σ) :
    Listed (.start clock devices memory) where
  listed := rfl
  fresh _ none := nomatch none
  distinct := .nil
  removes := .nil

theorem still (kept : Listed w) (bus : w'.bus = w.bus) (quiet : w.Without Mark.isBus w') :
    Listed w' := by
  obtain ⟨later, journal, quiet⟩ := quiet
  have others : ∀ m ∈ later, ∀ J, RemovesMade J m := by
    intro m member J
    have first := quiet m member
    cases m <;> trivial
  constructor
  · rw [bus, journal, subscribers, made_append quiet, removed_append quiet]
    exact kept.listed
  · rw [bus, journal, made_append quiet]
    exact kept.fresh
  · rw [journal, made_append quiet]
    exact kept.distinct
  · rw [journal]
    exact kept.removes.append others

theorem unmade (kept : Listed w) : w.bus.next ∉ (made w.journal).map Prod.fst := by
  intro member
  obtain ⟨x, known, same⟩ := List.mem_map.mp member
  exact Nat.lt_irrefl _ (same ▸ kept.fresh x known)

theorem subscribe (kept : Listed w) (topic : String) (handler : Reaction σ) :
    Listed (w.subscribing topic handler) := by
  have unremoved : w.bus.next ∉ History.removed w.journal :=
    fun member => kept.unmade (removed_made kept.removes member)
  constructor
  · change (w.bus.subscribe topic handler).subscriptions.map _ =
      subscribers (.subscribed w.bus.next topic :: w.journal)
    rw [subscribers_subscribed topic unremoved, Bus.subscribe, List.map_append, kept.listed]
    rfl
  · intro x member
    rcases List.mem_cons.mp member with rfl | earlier
    · exact Nat.lt_succ_self _
    · exact Nat.lt_succ_of_lt (kept.fresh x earlier)
  · exact List.nodup_cons.mpr ⟨kept.unmade, kept.distinct⟩
  · exact .cons trivial kept.removes

theorem holds_subscribers (kept : Listed w) (id : Nat) :
    w.bus.holds id = true ↔ id ∈ (subscribers w.journal).map Prod.fst := by
  rw [← kept.listed]
  simp [Bus.holds]

theorem holds_iff (kept : Listed w) (id : Nat) :
    w.bus.holds id = true ↔
      id ∈ (made w.journal).map Prod.fst ∧ id ∉ History.removed w.journal := by
  rw [kept.holds_subscribers]
  constructor
  · intro member
    obtain ⟨x, known, rfl⟩ := List.mem_map.mp member
    exact ⟨List.mem_map_of_mem (mem_subscribers.mp known).1, (mem_subscribers.mp known).2⟩
  · rintro ⟨member, unremoved⟩
    obtain ⟨x, known, rfl⟩ := List.mem_map.mp member
    exact List.mem_map_of_mem (mem_subscribers.mpr ⟨known, unremoved⟩)

theorem unsubscribe (kept : Listed w) (id : Nat) : Listed (w.unsubscribing id) := by
  have missed : w.bus.holds id = false → id ∉ (subscribers w.journal).map Prod.fst := by
    intro lost member
    rw [(kept.holds_subscribers id).mpr member] at lost
    cases lost
  refine ⟨?_, kept.fresh, kept.distinct, .cons (kept.holds_iff id) kept.removes⟩
  change (w.bus.subscriptions.filter fun s => s.id != id).map _ =
    subscribers (.unsubscribed id (w.bus.holds id) :: w.journal)
  rw [subscribers_unsubscribed missed, ← kept.listed, List.filter_map]
  rfl

theorem ids (kept : Listed w) :
    w.bus.subscriptions.map (·.id) = (subscribers w.journal).map Prod.fst := by
  rw [← kept.listed, List.map_map]
  rfl

theorem ids_distinct (kept : Listed w) : (w.bus.subscriptions.map (·.id)).Nodup := by
  rw [kept.ids]
  have reversed : ((made w.journal).reverse.map Prod.fst).Nodup := by
    rw [List.map_reverse]
    exact List.nodup_reverse.mpr kept.distinct
  exact reversed.sublist (List.filter_sublist.map Prod.fst)

theorem unremoved (kept : Listed w) {s : Subscription (Reaction σ)}
    (here : s ∈ w.bus.subscriptions) : s.id ∉ removed w.journal := by
  have listed := List.mem_map_of_mem (f := fun s => (s.id, s.topic)) here
  rw [kept.listed] at listed
  exact (mem_subscribers.mp listed).2

/-- What a topic has had and lost and what it has make up all that it was given. -/
theorem count (kept : Listed w) (topic : String) :
    w.bus.count topic +
        (made w.journal).countP (fun x => x.2 == topic && decide (x.1 ∈ removed w.journal)) =
      (made w.journal).countP (·.2 == topic) := by
  have present : w.bus.count topic =
      (made w.journal).countP fun x => x.2 == topic && !decide (x.1 ∈ removed w.journal) := by
    have listed := congrArg (List.countP fun x => x.2 == topic) kept.listed
    rw [List.countP_map, subscribers, List.countP_filter, List.countP_reverse] at listed
    rw [Bus.count, Bus.subscribers, ← List.countP_eq_length_filter]
    simp only [decide_not] at listed
    exact listed
  rw [present, Nat.add_comm, List.countP_eq_countP_filter_add (made w.journal) (·.2 == topic)
    fun x => decide (x.1 ∈ removed w.journal), List.countP_filter, List.countP_filter]

theorem rewire (kept : Listed w) (rewires : w.Rewires w') : Listed w' := by
  cases rewires with
  | still bus quiet => exact kept.still bus quiet
  | subscribe => exact kept.subscribe _ _
  | unsubscribe => exact kept.unsubscribe _

end Listed

theorem World.Arises.listed {rule : Rule} {w : World σ} (arises : w.Arises rule) : Listed w :=
  arises.invariant .start (fun _ kept step => kept.rewire step.rewires)
    fun _ kept => kept.still rfl (.of_same rfl)

namespace World

variable {rule : Rule} {w w' : World σ}

/-- A subscription stays as it is until it is removed. -/
theorem Rewires.subscription (rewires : w.Rewires w') {s : Subscription (Reaction σ)}
    (here : s ∈ w.bus.subscriptions) :
    s ∈ w'.bus.subscriptions ∨ s.id ∈ removed w'.journal := by
  cases rewires with
  | still bus => exact .inl (bus ▸ here)
  | subscribe => exact .inl (List.mem_append_left _ here)
  | @unsubscribe id =>
    by_cases same : s.id = id
    · have found : w.bus.holds id = true := by
        simpa [Bus.holds] using ⟨s, here, same⟩
      right
      change s.id ∈ removed (.unsubscribed id (w.bus.holds id) :: w.journal)
      rw [found, same]
      exact .head _
    · exact .inl (List.mem_filter.mpr ⟨here, by simpa using same⟩)

theorem Rewires.removed_later (rewires : w.Rewires w') :
    removed w.journal ⊆ removed w'.journal := by
  cases rewires with
  | still _ quiet =>
    obtain ⟨later, journal, -⟩ := quiet
    rw [journal]
    exact filterMap_later
  | subscribe => exact List.Subset.refl _
  | unsubscribe =>
    change removed w.journal ⊆ removed ([_] ++ w.journal)
    exact filterMap_later

theorem Leads.subscription (leads : w.Leads rule w') {s : Subscription (Reaction σ)}
    (here : s ∈ w.bus.subscriptions) :
    s ∈ w'.bus.subscriptions ∨ s.id ∈ removed w'.journal := by
  induction leads with
  | refl => exact .inl here
  | code _ step ih =>
    rcases ih with here | gone
    · exact step.rewires.subscription here
    · exact .inr (step.rewires.removed_later gone)
  | build _ _ ih => exact ih

end World

/-! What a publication does. -/

/-- A call of a subscriber that succeeded. -/
structure Delivery (σ : Type) where
  subscription : Subscription (Reaction σ)
  before : World σ
  after : World σ

/-- Calls in a row, from the world before the first to the world after the last. -/
def Delivered : World σ → List (Delivery σ) → World σ → Prop
  | w, [], last => w = last
  | w, d :: rest, last => d.before = w ∧ Delivered d.after rest last

section Emission

variable (call : Call σ)

/-- Calling a subscriber in a world ends so. -/
def Answers (arguments : List Value) (s : Subscription (Reaction σ)) (w : World σ)
    (answer : Except Interrupt Bool) (last : World σ) : Prop :=
  call (s.handler.program arguments) (w.marked (.delivered s.id arguments)) = (answer, last)

/-- The subscribers are called one after the other, each once, up to the first that fails,
whose failure is the result. -/
def Dispatch (arguments : List Value) (subscriptions : List (Subscription (Reaction σ)))
    (w : World σ) (result : Except Interrupt Unit × World σ) : Prop :=
  ∃ calls last, Delivered w calls last ∧
    (∀ d ∈ calls, ∃ answer, Answers call arguments d.subscription d.before (.ok answer) d.after) ∧
    ((calls.map Delivery.subscription = subscriptions ∧ result = (.ok (), last)) ∨
      ∃ s rest cause final, subscriptions = calls.map Delivery.subscription ++ s :: rest ∧
        Answers call arguments s last (.error cause) final ∧ result = (.error cause, final))

variable {call}

theorem Dispatch.stop {arguments : List Value} {s : Subscription (Reaction σ)}
    {rest : List (Subscription (Reaction σ))} {w final : World σ} {cause : Interrupt}
    (failed : Answers call arguments s w (.error cause) final) :
    Dispatch call arguments (s :: rest) w (.error cause, final) :=
  ⟨[], w, rfl, by simp, .inr ⟨s, rest, cause, final, rfl, failed, rfl⟩⟩

theorem Dispatch.cons {arguments : List Value} {s : Subscription (Reaction σ)}
    {rest : List (Subscription (Reaction σ))} {w next : World σ} {answer : Bool}
    {result : Except Interrupt Unit × World σ}
    (called : Answers call arguments s w (.ok answer) next)
    (others : Dispatch call arguments rest next result) :
    Dispatch call arguments (s :: rest) w result := by
  obtain ⟨calls, last, delivered, each, ended⟩ := others
  refine ⟨⟨s, w, next⟩ :: calls, last, ⟨rfl, delivered⟩, ?_, ?_⟩
  · exact List.forall_mem_cons.mpr ⟨⟨answer, called⟩, each⟩
  · rcases ended with ⟨all, same⟩ | ⟨t, left, cause, final, split, failed, same⟩
    · exact .inl ⟨by rw [List.map_cons, all], same⟩
    · exact .inr ⟨t, left, cause, final, by rw [List.map_cons, split, List.cons_append], failed,
        same⟩

variable (call) in
theorem deliver_dispatch (arguments : List Value) (subscriptions : List (Subscription (Reaction σ)))
    (w : World σ) :
    Dispatch call arguments subscriptions w (deliver call arguments subscriptions w) := by
  induction subscriptions generalizing w with
  | nil => exact ⟨[], w, rfl, by simp, .inl ⟨rfl, rfl⟩⟩
  | cons s rest ih =>
    rcases called : call (s.handler.program arguments) (w.marked (.delivered s.id arguments)) with
      ⟨answer, next⟩
    rw [deliver, bind_ok (mark_run _ _)]
    cases answer with
    | ok answer =>
      rw [bind_ok (discard_ok called)]
      exact .cons called (ih next)
    | error cause =>
      rw [bind_error (discard_error called)]
      exact .stop called

end Emission

/-- What holds of the bus, and of what is done with it, at a moment of a history. -/
structure BusKept (w : World σ) : Prop where
  publishes : ∀ (call : Call σ) topic arguments,
    Dispatch call arguments (w.bus.subscribers topic) (w.marked (.emitted topic arguments))
      (emit call topic arguments w)
  subscribers : ∀ topic, (w.bus.subscribers topic).map (fun s => (s.id, s.topic)) =
    (subscribers w.journal).filter (·.2 == topic)
  distinct : ((made w.journal).map Prod.fst).Nodup
  subscribes : ∀ topic handler id next, subscribe topic handler w = (.ok id, next) →
    next.journal = .subscribed id topic :: w.journal ∧ id ∉ (made w.journal).map Prod.fst
  handlers : ∀ topic handler start id next, subscribe topic handler start = (.ok id, next) →
    next.Leads Rule.free w → ∀ s, s ∈ w.bus.subscriptions ∧ s.id = id ↔
      s = ⟨id, topic, handler⟩ ∧ id ∉ removed w.journal
  unsubscribes : ∀ id found next, unsubscribe id w = (.ok found, next) →
    next.journal = .unsubscribed id found :: w.journal ∧
      ∀ s, s ∈ next.bus.subscriptions ↔ s ∈ w.bus.subscriptions ∧ s.id ≠ id
  first : ∀ later id found since topic before,
    w.journal = later ++ .unsubscribed id found :: (since ++ .subscribed id topic :: before) →
    (found = true ↔ ∀ other, .unsubscribed id other ∉ since)
  count : ∀ topic, w.bus.count topic +
      (made w.journal).countP (fun x => x.2 == topic && decide (x.1 ∈ removed w.journal)) =
    (made w.journal).countP (·.2 == topic)

theorem bus_kept {w : World σ} (arises : w.Arises Rule.free) : BusKept w := by
  have kept := arises.listed
  constructor
  · intro call topic arguments
    rw [emit_run]
    exact deliver_dispatch call arguments _ _
  · intro topic
    rw [← kept.listed, List.filter_map]
    rfl
  · exact kept.distinct
  · rintro topic handler id next ran
    cases ran
    exact ⟨rfl, kept.unmade⟩
  · rintro topic handler start id next ran leads s
    cases ran
    have stays := leads.subscription (s := ⟨start.bus.next, topic, handler⟩)
      (List.mem_append_right _ (.head _))
    constructor
    · rintro ⟨here, same⟩
      have unremoved := kept.unremoved here
      rw [same] at unremoved
      have there := stays.resolve_right unremoved
      exact ⟨List.inj_on_of_nodup_map kept.ids_distinct here there same, unremoved⟩
    · rintro ⟨rfl, unremoved⟩
      exact ⟨stays.resolve_right unremoved, rfl⟩
  · rintro id found next ran
    cases ran
    refine ⟨rfl, fun s => ?_⟩
    change s ∈ w.bus.subscriptions.filter _ ↔ _
    rw [List.mem_filter, bne_iff_ne]
  · intro later id found since topic before journal
    have removes := kept.removes
    have distinct := kept.distinct
    rw [journal] at removes distinct
    refine first_removes removes (distinct.sublist (List.Sublist.map Prod.fst ?_))
    exact (List.suffix_append_of_suffix (List.suffix_cons _ _)).sublist.filterMap _
  · exact kept.count

/-- The first subscriber removes the second while both are being called, and adds a third,
which fails when it is called. -/
def crowd : Program Unit :=
  .subscribe "news" (fun _ => .request (.unsubscribe 1) fun _ =>
    .subscribe "news" (fun _ => .fail .dropped) fun _ => .done true) fun _ =>
    .subscribe "news" (fun _ => .note (.note .null) (.done true)) fun _ =>
      .request (.emit "news" []) fun _ => .request (.unsubscribe 1) fun _ =>
        .request (.unsubscribe 0) fun _ => .perform (.emit "news" [])

def crowdWorld : World Unit := (run 3 crowd (.start ⟨0⟩ [] ())).2

theorem crowd_session : Session Rule.free true crowdWorld :=
  .run_ended (.start ⟨0⟩ [] ()) crowd.within_free (by decide +kernel)

theorem bus_kept_crowd :
    crowdWorld.Arises Rule.free ∧
      made crowdWorld.journal = [(2, "news"), (1, "news"), (0, "news")] ∧
      removed crowdWorld.journal = [0, 1] ∧ crowdWorld.bus.count "news" = 1 ∧
      BusKept crowdWorld :=
  ⟨crowd_session.arises Rule.free_open, by decide +kernel, by decide +kernel, by decide +kernel,
    bus_kept (crowd_session.arises Rule.free_open)⟩

end Reflex
