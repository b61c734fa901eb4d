import Mathlib
import Reflex.Proofs.Deeds
import Reflex.Proofs.Fallbacks
import Reflex.Proofs.Subscriptions

/-! The stimulus of a pass. A declared branch emits the payload that its pass was given, and a
trigger that listens for the topic asserts its scenario with what was emitted. So every pass of a
chain that starts like this is given the payload of the first one. -/
namespace Reflex
open Act Engine Evaluation

variable {σ : Type}

namespace Engine

variable (call : Call σ)

/-- Running a program comes to a point at which another one is left to run. -/
inductive Reaches : Program σ → World σ → Program σ → World σ → Prop
  | refl {p : Program σ} {w : World σ} : Reaches p w p w
  | look {next : View → Program σ} {q : Program σ} {w last : World σ} :
      Reaches (next w.view) w q last → Reaches (.look next) w q last
  | load {next : σ → Program σ} {q : Program σ} {w last : World σ} :
      Reaches (next w.memory) w q last → Reaches (.load next) w q last
  | save {memory : σ} {p q : Program σ} {w last : World σ} :
      Reaches p { w with memory } q last → Reaches (.save memory p) w q last
  | note {m : Message} {p q : Program σ} {w last : World σ} :
      Reaches p (w.marked m.mark) q last → Reaches (.note m p) w q last
  | request {r : Reply} {asked : Request r} {next : Except Failure r.Carrier → Program σ}
      {reply : Except Failure r.Carrier} {q : Program σ} {w mid last : World σ} :
      attempt (perform call asked) w = (.ok reply, mid) → Reaches (next reply) mid q last →
      Reaches (.request asked next) w q last
  | subscribe {topic : String} {handler : List Value → Program σ} {next : Nat → Program σ}
      {id : Nat} {q : Program σ} {w mid last : World σ} :
      subscribe topic (.custom handler) w = (.ok id, mid) → Reaches (next id) mid q last →
      Reaches (.subscribe topic handler next) w q last
  | every {s : Schedule} {job : Program σ} {next : Nat → Program σ} {id : Nat} {q : Program σ}
      {w mid last : World σ} :
      every s (.custom fun _ => job) w = (.ok id, mid) → Reaches (next id) mid q last →
      Reaches (.every s job next) w q last
  | once {d : Span} {job : Program σ} {next : Nat → Program σ} {id : Nat} {q : Program σ}
      {w mid last : World σ} :
      once d (.custom fun _ => job) w = (.ok id, mid) → Reaches (next id) mid q last →
      Reaches (.once d job next) w q last
  | check {block : Nat} {predicate p q : Program σ} {w mid last : World σ} :
      pushPredicate block (.custom predicate) w = (.ok (), mid) → Reaches p mid q last →
      Reaches (.check block predicate p) w q last
  | fallback {id : Nat} {callback : Option Value → Program σ} {p q : Program σ}
      {w mid last : World σ} :
      pushEntry id ⟨none, .custom callback⟩ w = (.ok (), mid) → Reaches p mid q last →
      Reaches (.fallback id callback p) w q last
  | close {block : Nat} {callback : Option Value → Program σ} {p q : Program σ}
      {w mid last : World σ} :
      closeBlock block (.custom callback) w = (.ok (), mid) → Reaches p mid q last →
      Reaches (.close block callback p) w q last

/-- A publication comes to a subscriber, which is then called in a world: those before it were
called, and did not fail. -/
def Hears (topic : String) (arguments : List Value) (w : World σ)
    (s : Subscription (Reaction σ)) (called : World σ) : Prop :=
  ∃ calls back last, w.bus.subscribers topic = calls.map Delivery.subscription ++ s :: back ∧
    Delivered (w.marked (.emitted topic arguments)) calls last ∧
    (∀ d ∈ calls, ∃ answer, Answers call arguments d.subscription d.before (.ok answer) d.after) ∧
    called = last.marked (.delivered s.id arguments)

variable {call}

/-- The run of a program goes on as that of the program that it comes to. -/
theorem Reaches.run {p q : Program σ} {w last : World σ} (reaches : Reaches call p w q last) :
    interpret call p w = interpret call q last := by
  induction reaches with
  | refl => rfl
  | look _ ih | load _ ih | save _ ih | note _ ih => exact ih
  | request ran _ ih | subscribe ran _ ih | every ran _ ih | once ran _ ih | check ran _ ih
  | fallback ran _ ih | close ran _ ih =>
    rw [interpret, bind_ok ran]
    exact ih

/-- Whatever a deed emits has the payload as its only argument. -/
theorem Reaches.emission {d : Deed} {description topic : String} {payload : Option Value}
    {arguments : List Value} {next : Except Failure Unit → Program σ} {w last : World σ}
    (reaches : Reaches call ((Callback.deed description d).program payload) w
      (.request (.emit topic arguments) next) last) : arguments = payload.toList := by
  obtain ⟨log, emit, set⟩ := d
  have setting : ∀ {w : World σ}, ¬ Reaches call
      (Deed.program description ⟨none, none, set⟩ payload) w
      (.request (.emit topic arguments) next) last := by
    intro w reaches
    cases set with
    | none => cases reaches
    | some x =>
      obtain ⟨name, value, ttl⟩ := x
      cases reaches with
      | @request _ _ _ reply _ _ _ _ _ rest => cases reply <;> cases rest
  have emitting : ∀ {w : World σ}, Reaches call (Deed.program description ⟨none, emit, set⟩ payload)
      w (.request (.emit topic arguments) next) last → arguments = payload.toList := by
    intro w reaches
    cases emit with
    | none => exact absurd reaches setting
    | some listened =>
      cases reaches with
      | refl => rfl
      | @request _ _ _ reply _ _ _ _ _ rest =>
        cases reply with
        | ok => exact absurd rest setting
        | error => cases rest
  cases log with
  | none => exact emitting reaches
  | some message =>
    cases reaches with
    | note rest => exact emitting rest

/-- The first subscriber to a topic is called with what a deed emits. -/
theorem Hears.first {topic : String} {arguments : List Value}
    {s : Subscription (Reaction σ)} {rest : List (Subscription (Reaction σ))} {w : World σ}
    (listed : w.bus.subscribers topic = s :: rest) :
    Hears call topic arguments w s
      ((w.marked (.emitted topic arguments)).marked (.delivered s.id arguments)) :=
  ⟨[], rest, _, listed, rfl, List.forall_mem_nil _, rfl⟩

variable (call) in
/-- A deed with a topic gets to its emission once it has logged. -/
theorem Reaches.publication {d : Deed} {topic : String} (emits : d.emit = some topic)
    (description : String) (payload : Option Value) (w : World σ) :
    ∃ next, Reaches call ((Callback.deed description d).program payload) w
      (.request (.emit topic payload.toList) next) (d.logged description w) := by
  obtain ⟨log, _, set⟩ := d
  cases emits
  cases log with
  | none => exact ⟨_, .refl⟩
  | some message => exact ⟨_, .note .refl⟩

/-- A trigger of an event asserts its scenario with the first of the arguments. -/
theorem Reaches.assertion {listened : String} {scenario id : Nat} {arguments : List Value}
    {payload : Option Value} {next : Except Failure Nat → Program σ} {w last : World σ}
    (reaches : Reaches call ((Reaction.trigger (.event listened) scenario).program arguments) w
      (.request (.assert id payload) next) last) :
    id = scenario ∧ payload = arguments.head? ∧ last = w := by
  cases reaches with
  | refl => exact ⟨rfl, rfl, rfl⟩
  | @request _ _ _ reply _ _ _ _ _ rest => cases reply <;> cases rest

variable (call) in
theorem Reaches.event (listened : String) (scenario : Nat) (payload : Option Value)
    (w : World σ) :
    ∃ next, Reaches call ((Reaction.trigger (.event listened) scenario).program payload.toList) w
      (.request (.assert scenario payload) next) w := by
  cases payload <;> exact ⟨_, .refl⟩

end Engine

namespace Evaluation

variable (call : Call σ) (id : Nat) (payload : Option Value)

/-- In a pass it is the turn of an entry to run: the visits before it went as declared, and its
callback starts in a world. -/
def Starts (s : Scenario σ) (w : World σ) (e : Entry σ) (started : World σ) : Prop :=
  ∃ earlier rest before decided, s.entries = earlier.map (·.entry) ++ e :: rest ∧
    Linked (begun id w) earlier before ∧
    (∀ front v back, earlier = front ++ v :: back → Completed call id payload front v) ∧
    Decides call earlier e before true decided ∧ started = entered id earlier decided

variable {call id payload} {w last : World σ}

theorem Starts.first {s : Scenario σ} {e : Entry σ} {rest : List (Entry σ)} {decided : World σ}
    (entries : s.entries = e :: rest) (decides : Decides call [] e (begun id w) true decided) :
    Starts call id payload s w e (entered id [] decided) :=
  ⟨[], rest, begun id w, decided, entries, rfl, by simp, decides, rfl⟩

/-- Every visit that runs a callback starts it when the turn of its entry has come. -/
theorem Visits.starts {s : Scenario σ} {visits earlier later : List (Visit σ)} {v : Visit σ}
    {result : Except Interrupt Nat × World σ} (made : Visits call id payload s w visits result)
    (split : visits = earlier ++ v :: later) (ran : v.ran = true) :
    ∃ started outcome, Starts call id payload s w v.entry started ∧
      call (v.entry.callback.program payload) started = (outcome, v.after) := by
  obtain ⟨rest, entries⟩ := made.entries
  obtain ⟨_, linked, -⟩ := made.linked
  have starts : ∀ {decided}, Decides call earlier v.entry v.before true decided →
      Starts call id payload s w v.entry (entered id earlier decided) := by
    intro decided decides
    refine ⟨earlier, later.map (·.entry) ++ rest, v.before, decided, ?_, ?_, ?_, decides, rfl⟩
    · rw [← entries, split, List.map_append, List.map_cons, List.append_assoc, List.cons_append]
    · exact (split ▸ linked).front
    · intro front u back same
      have inner : visits = front ++ u :: (back ++ v :: later) := by
        rw [split, same, List.append_assoc, List.cons_append]
      rcases made.each front u _ inner with completed | ⟨none, -⟩
      · exact completed
      · exact absurd none (by simp)
  rcases made.each earlier v later split with ⟨decided, decides, went⟩ | ⟨-, cause, broken⟩
  · rw [if_pos ran] at went
    obtain ⟨answer, went⟩ := went
    exact ⟨_, .ok answer, starts (ran ▸ decides), went⟩
  · rw [Broken, if_pos ran] at broken
    obtain ⟨decided, decides, failed⟩ := broken
    exact ⟨_, .error cause, starts decides, failed⟩

end Evaluation

/-- An assert in a world: its scenario, its payload, and how deep the code that it runs may
nest. -/
structure Stimulation (σ : Type) where
  depth : Nat
  scenario : Nat
  payload : Option Value
  world : World σ

namespace Stimulation

/-- The assert starts a pass, over the scenario as it is then. -/
def Begins (p : Stimulation σ) (s : Scenario σ) : Prop := p.world.Admits p.scenario s

/-- One pass starts another. A declared branch that the first one runs emits on a topic, and an
event trigger among the subscribers asserts its scenario, which begins the second. -/
inductive Chains : Stimulation σ → Stimulation σ → Prop
  | intro {p q : Stimulation σ} {s t : Scenario σ} {e : Entry σ} {b : Branch} {d : Deed}
      {description topic listened : String} {arguments : List Value}
      {subscription : Subscription (Reaction σ)} {scenario : Nat}
      {started published called : World σ} {rest : Except Failure Unit → Program σ}
      {back : Except Failure Nat → Program σ}
      (deep : p.depth = q.depth + 2) (first : p.Begins s)
      (starts : Starts (exec p.depth) p.scenario p.payload s p.world e started)
      (declared : deedOf b = .ok d) (acts : e.callback = .deed description d)
      (emits : Reaches (exec (q.depth + 1)) (e.callback.program p.payload) started
        (.request (.emit topic arguments) rest) published)
      (hears : Hears (exec (q.depth + 1)) topic arguments published subscription called)
      (listens : subscription.handler = .trigger (.event listened) scenario)
      (asserts : Reaches (exec q.depth) (subscription.handler.program arguments) called
        (.request (.assert q.scenario q.payload) back) q.world)
      (next : q.Begins t) : Chains p q

/-- A payload becomes a list of arguments and the first of them a payload. -/
theorem Chains.payload {p q : Stimulation σ} (chains : p.Chains q) : q.payload = p.payload := by
  cases chains with
  | intro _ _ _ _ acts emits _ listens asserts =>
    rw [acts] at emits
    rw [listens] at asserts
    rw [asserts.assertion.2.1, emits.emission]
    cases p.payload <;> rfl

/-- Every event trigger that hears what a declared branch emits, and whose scenario takes a pass
then, starts one with the same payload. -/
theorem Chains.of_branch {p : Stimulation σ} {s t : Scenario σ} {e : Entry σ} {b : Branch}
    {d : Deed} {description topic listened : String} {subscription : Subscription (Reaction σ)}
    {scenario n : Nat} {started called : World σ} (deep : p.depth = n + 2) (first : p.Begins s)
    (starts : Starts (exec p.depth) p.scenario p.payload s p.world e started)
    (declared : deedOf b = .ok d) (acts : e.callback = .deed description d)
    (emits : b.emit = some topic)
    (hears : Hears (exec (n + 1)) topic p.payload.toList (d.logged description started)
      subscription called)
    (listens : subscription.handler = .trigger (.event listened) scenario)
    (next : called.Admits scenario t) : p.Chains ⟨n, scenario, p.payload, called⟩ := by
  obtain ⟨rest, published⟩ := Reaches.publication (exec (n + 1))
    ((Branch.tells declared).emit.trans emits) description p.payload started
  obtain ⟨back, asserted⟩ := Reaches.event (exec n) listened scenario p.payload called
  rw [← acts] at published
  rw [← listens] at asserted
  exact .intro deep first starts declared acts published hears listens asserted next

/-- If the first entry of a pass emits, the first subscriber starts a pass of its scenario. -/
theorem Chains.of_first {w : World σ} {id n scenario : Nat} (payload : Option Value)
    {s t : Scenario σ} {e : Entry σ} {es : List (Entry σ)} {b : Branch} {d : Deed}
    {description topic listened : String} {subscription : Subscription (Reaction σ)}
    {rest : List (Subscription (Reaction σ))} (admits : w.Admits id s)
    (entries : s.entries = e :: es)
    (decides : Decides (exec (n + 2)) [] e (begun id w) true (begun id w))
    (declared : deedOf b = .ok d) (acts : e.callback = .deed description d)
    (emits : b.emit = some topic) (listed : w.bus.subscribers topic = subscription :: rest)
    (listens : subscription.handler = .trigger (.event listened) scenario)
    (other : id ≠ scenario) (found : w.Admits scenario t) :
    ∃ called : World σ, Chains ⟨n + 2, id, payload, w⟩ ⟨n, scenario, payload, called⟩ ∧
      called.bus = w.bus ∧ called.scenarios = (begun id w).scenarios := by
  obtain ⟨J, logged⟩ := d.logged_eq description (entered id [] (begun id w))
  have there : (d.logged description (entered id [] (begun id w))).bus.subscribers topic =
      subscription :: rest := by rw [logged]; exact listed
  have kept : (begun id w).scenarios[scenario]? = some t :=
    (w.modifyScenario_other other _).trans found.found
  refine ⟨_, .of_branch rfl admits (.first entries decides) declared acts emits (.first there)
    listens ⟨?_, found.runnable, ?_, found.idle⟩, ?_, ?_⟩
  all_goals simp only [World.marked, logged]
  · exact kept
  · exact found.unsuppressed
  all_goals rfl

end Stimulation

/-- A callback that ran in a pass was given a payload, and did with it what its branch says. -/
def Stimulation.Carries (p : Stimulation σ) (s : Scenario σ) (payload : Option Value)
    (v : Visit σ) : Prop :=
  ∃ started outcome, Starts (exec p.depth) p.scenario p.payload s p.world v.entry started ∧
    exec p.depth (v.entry.callback.program payload) started = (outcome, v.after) ∧
    ∀ n b d description, p.depth = n + 1 → deedOf b = .ok d →
      v.entry.callback = .deed description d →
      Enacted (exec n) description payload b d started (outcome.map fun _ => (), v.after)

/-- What holds of an assert whose branches are to see a payload. -/
structure StimulusKept (payload : Option Value) (p : Stimulation σ) : Prop where
  same : p.payload = payload
  visits : ∀ s, p.world.scenarios[p.scenario]? = some s → ∃ visits,
    Asserted (exec p.depth) p.scenario p.payload s p.world visits ∧
      ∀ v ∈ visits, v.ran = true → p.Carries s payload v

/-- However long a chain of passes is, each started by what a declared branch of the one before
emitted, every branch that runs in its last pass sees the payload of the first one. -/
theorem stimulus_kept {p q : Stimulation σ}
    (chain : Relation.ReflTransGen Stimulation.Chains p q) : StimulusKept p.payload q := by
  have same : q.payload = p.payload := by
    induction chain with
    | refl => rfl
    | tail _ chains ih => exact chains.payload.trans ih
  refine ⟨same, fun s found => ?_⟩
  obtain ⟨visits, asserted⟩ := assert_visits (exec q.depth) q.payload found
  refine ⟨visits, asserted, fun v member ran => ?_⟩
  rcases asserted with made | ⟨rfl, -⟩
  · obtain ⟨earlier, later, split⟩ := List.append_of_mem member
    obtain ⟨started, outcome, starts, went⟩ := made.starts split ran
    rw [same] at went
    refine ⟨started, outcome, starts, went, ?_⟩
    intro n b d description deep declared acts
    have enacted := Deed.enacted (exec n) description p.payload declared started
    rw [deep, acts] at went
    have ran : interpret (exec n) (d.program description p.payload) started = (outcome, v.after) :=
      went
    rwa [ran] at enacted
  · cases member

/-- Emits, and then sets a variable. -/
def ringing : Branch :=
  ⟨none, some "bell", some ⟨"visitor", .bool true, none⟩, some "someone is there"⟩

def chiming : Branch := ⟨some [], some "light", none, none⟩

def lighting : Branch := ⟨none, none, some ⟨"lit", .bool true, none⟩, none⟩

/-- Three scenarios, of which the first emits what starts the second, and that what starts the
third. -/
def relay : Config :=
  { Config.default with
    scenarios := [⟨"door", .object [], [], [ringing]⟩,
      ⟨"chime", .object [], [⟨"event", [.text "bell"]⟩], [chiming]⟩,
      ⟨"lamp", .object [], [⟨"event", [.text "light"]⟩], [lighting]⟩] }

/-- Once they are declared, another subscriber is added, which fails. -/
def relayHouse : World Unit :=
  (run 1 (.subscribe "bell" (fun _ => .fail .dropped) fun _ => .done true)
    (bootstrap 4 relay (.start ⟨0⟩ [] ())).2).2

def rings : Deed := ⟨some "someone is there", some "bell", some ("visitor", .bool true, none)⟩

def chimes : Deed := ⟨none, some "light", none⟩

def lights : Deed := ⟨none, none, some ("lit", .bool true, none)⟩

/-- A scenario with one entry. -/
def Scenario.plain (description : String) (group : Option (List (Predicate Unit))) (d : Deed) :
    Scenario Unit :=
  { (Scenario.new description none : Scenario Unit) with
    entries := [⟨group, .deed description d⟩] }

theorem relayHouse_holds : (relayHouse.scenarios, relayHouse.bus.subscriptions) =
    ([.plain "door" none rings, .plain "chime" (some []) chimes, .plain "lamp" none lights],
      [⟨0, "bell", .trigger (.event "bell") 1⟩, ⟨1, "light", .trigger (.event "light") 2⟩,
        ⟨2, "bell", .custom fun _ => .fail .dropped⟩]) := by cbv

/-- Whatever payload the first scenario is asserted with, it starts the second and that the
third. -/
theorem relay_chains (depth : Nat) (payload : Option Value) :
    ∃ second third : Stimulation Unit,
      Stimulation.Chains ⟨depth + 4, 0, payload, relayHouse⟩ second ∧ second.Chains third ∧
        second.scenario = 1 ∧ third.scenario = 2 := by
  obtain ⟨scenarios, subscriptions⟩ := Prod.mk.inj relayHouse_holds
  generalize relayHouse = w at scenarios subscriptions ⊢
  have door : w.Admits 0 (.plain "door" none rings) := ⟨by rw [scenarios]; rfl, rfl, rfl, rfl⟩
  have chime : w.Admits 1 (.plain "chime" (some []) chimes) :=
    ⟨by rw [scenarios]; rfl, rfl, rfl, rfl⟩
  have bell : w.bus.subscribers "bell" = [⟨0, "bell", .trigger (.event "bell") 1⟩,
      ⟨2, "bell", .custom fun _ => .fail .dropped⟩] := by
    rw [Bus.subscribers, subscriptions]
    rfl
  obtain ⟨mid, first, bus, kept⟩ := Stimulation.Chains.of_first (n := depth + 2) (b := ringing)
    payload door rfl (.fallback rfl (List.forall_mem_nil _)) rfl rfl rfl bell rfl
    (by decide) chime
  have chime : mid.Admits 1 (.plain "chime" (some []) chimes) :=
    ⟨by rw [kept, begun, World.marked, World.modifyScenario, scenarios]; rfl, rfl, rfl, rfl⟩
  have lamp : mid.Admits 2 (.plain "lamp" none lights) :=
    ⟨by rw [kept, begun, World.marked, World.modifyScenario, scenarios]; rfl, rfl, rfl, rfl⟩
  have light : mid.bus.subscribers "light" = [⟨1, "light", .trigger (.event "light") 2⟩] := by
    rw [bus, Bus.subscribers, subscriptions]
    rfl
  obtain ⟨last, second, -⟩ := Stimulation.Chains.of_first (n := depth) (b := chiming)
    payload chime rfl (.holds rfl (.nil _)) rfl rfl rfl light rfl (by decide) lamp
  exact ⟨_, _, first, second, rfl, rfl⟩

def doorbell : Stimulation Unit := ⟨5, 0, some (.text "hall"), relayHouse⟩

/-- All three passes are made with the payload of the first, which then fails and does not write
its variable. -/
theorem stimulus_kept_relay :
    (∃ second third : Stimulation Unit, doorbell.Chains second ∧ second.Chains third ∧
      second.scenario = 1 ∧ third.scenario = 2 ∧ StimulusKept (some (.text "hall")) third) ∧
      (assert (exec 5) 0 doorbell.payload relayHouse).1.isOk = false ∧
      (assert (exec 5) 0 doorbell.payload relayHouse).2.variableNames = ["lit"] := by
  refine ⟨?_, by decide +kernel, by decide +kernel⟩
  obtain ⟨second, third, starts, further, chime, lamp⟩ := relay_chains 1 (some (.text "hall"))
  have chain : Relation.ReflTransGen Stimulation.Chains doorbell third :=
    (Relation.ReflTransGen.single starts).tail further
  exact ⟨second, third, starts, further, chime, lamp, stimulus_kept chain⟩

end Reflex
