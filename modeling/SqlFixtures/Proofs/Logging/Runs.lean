import SqlFixtures.Corpus.Build
import SqlFixtures.Proofs.Logging.Sinks
import Mathlib.Tactic

/-!
# Runs with a sink

While an application sets up and resets the sink of the fixtures it also logs entries of its own and
builds corpora.  Only the calls change the sinks, so a run stands where its calls lead to.  Whatever
fails on the way, the sinks of the application stay as they are and the fixtures have one sink or
none.  If they have one, the latest set-up that succeeded gave it its threshold, and it writes each
entry of the fixtures that reaches the threshold once and nothing else.
-/

namespace SqlFixtures

/-- What happens in a run. -/
inductive LogEvent where
  | call (c : SinkCall)
  /-- The application logs an entry of its own. -/
  | host (entry : LogEntry)
  | build (files : Files.Tree) (source : Source) (category : Value) (strict : Bool)

namespace LogEvent

/-- The entries that are logged, each with who logs it. -/
def entries : LogEvent → List (Owner × LogEntry)
  | call _ => []
  | host entry => [(.application, entry)]
  | build files source category strict =>
    (Corpus.build files source category strict).log.map fun entry => (.fixtures, entry)

/-- The entries that the fixtures log. -/
def ownEntries (event : LogEvent) : List LogEntry :=
  (event.entries.filter fun logged => logged.1 = .fixtures).map (·.2)

end LogEvent

namespace LogState

def happen (state : LogState) : LogEvent → LogState
  | .call c => (state.call c).1
  | .host _ | .build .. => state

def afterRun (state : LogState) (events : List LogEvent) : LogState := events.foldl happen state

/-- What a sink writes when an event happens, in order. -/
def writtenBy (state : LogState) (sink : Sink) (event : LogEvent) : List LogEntry :=
  event.entries.flatMap fun logged =>
    ((state.writers logged.1 logged.2).filter fun writer => writer = sink).map fun _ => logged.2

/-- A set-up with this level succeeds after these events. -/
def SetsUp (start : LogState) (events : List LogEvent) (level : Value) : Prop :=
  ((start.afterRun events).setUp level).2 = .ok ()

/-- The latest set-up that succeeded was one with this level. -/
def LatestSetUp (start : LogState) (events : List LogEvent) (level : Value) : Prop :=
  ∃ before after, events = before ++ .call (.setUp level) :: after ∧ SetsUp start before level ∧
    ∀ between other rest, after = between ++ .call (.setUp other) :: rest →
      ¬ SetsUp start (before ++ .call (.setUp level) :: between) other

variable {foreign : List Sink} {start state : LogState} {standing : Standing}
  {events : List LogEvent}

theorem afterRun_concat (start : LogState) (events : List LogEvent) (event : LogEvent) :
    start.afterRun (events ++ [event]) = (start.afterRun events).happen event := by
  simp [afterRun]

/-! ## The latest set-up -/

theorem latestSetUp_concat {level : Value} (hsucceeds : SetsUp start events level) :
    LatestSetUp start (events ++ [.call (.setUp level)]) level := by
  refine ⟨events, [], rfl, hsucceeds, ?_⟩
  intro between other rest hsplit
  simp at hsplit

theorem LatestSetUp.concat {level : Value} (hlatest : LatestSetUp start events level)
    {event : LogEvent} (hother : ∀ c, event ≠ .call c) :
    LatestSetUp start (events ++ [event]) level := by
  obtain ⟨before, after, rfl, hsucceeds, hfailed⟩ := hlatest
  refine ⟨before, after ++ [event], by simp, hsucceeds, ?_⟩
  intro between other rest hsplit
  rcases List.eq_nil_or_concat' rest with rfl | ⟨rest, last, rfl⟩
  · obtain ⟨-, heq⟩ := List.append_inj' hsplit rfl
    exact absurd (List.cons.inj heq).1 (hother _)
  · rw [← List.cons_append, ← List.append_assoc] at hsplit
    exact hfailed between other rest (List.append_inj' hsplit rfl).1

theorem Standing.next_setUp_of_accepted (hsound : ∀ stored, standing ≠ .stale stored)
    {level : Value} {threshold : Nat} (hlevel : thresholdOf level = .ok threshold) (nextId : Nat) :
    standing.next nextId (.setUp level) = .installed nextId threshold := by
  cases standing with
  | silent => simp [Standing.next, hlevel]
  | installed id other => simp [Standing.next, hlevel]
  | stale stored => exact absurd rfl (hsound stored)

/-- A call that leaves a sink behind is a set-up with a good level. -/
theorem exists_level_of_next_eq_installed {nextId id threshold : Nat} {c : SinkCall}
    (hnext : standing.next nextId c = .installed id threshold) :
    (∀ stored, standing ≠ .stale stored) ∧
      ∃ level, c = .setUp level ∧ thresholdOf level = .ok threshold := by
  have hsound : ∀ stored, standing ≠ .stale stored := by
    rintro stored rfl
    cases hnext
  refine ⟨hsound, ?_⟩
  cases c with
  | reset => cases standing <;> cases hnext
  | setUp level =>
      cases hlevel : thresholdOf level with
      | ok accepted =>
          rw [Standing.next_setUp_of_accepted hsound hlevel] at hnext
          cases hnext
          exact ⟨level, rfl, hlevel⟩
      | error failure => cases standing <;> simp [Standing.next, hlevel] at hnext

/-- The latest set-up gave the sink its threshold, if there is a sink. -/
def Standing.GivenBy (start : LogState) (events : List LogEvent) (standing : Standing) : Prop :=
  ∀ id threshold, standing = .installed id threshold →
    ∃ level, LatestSetUp start events level ∧ thresholdOf level = .ok threshold

theorem exists_standing_afterRun (hfresh : start.IsFresh) (events : List LogEvent) :
    ∃ standing : Standing, Stands start.sinks standing (start.afterRun events) ∧
      standing.GivenBy start events := by
  induction events using List.reverseRecOn with
  | nil => exact ⟨.silent, hfresh.stands, fun id threshold heq => by cases heq⟩
  | append_singleton events event ih =>
      obtain ⟨standing, hstands, hgiven⟩ := ih
      rw [afterRun_concat]
      have hquiet (hother : ∀ c, event ≠ .call c) : standing.GivenBy start (events ++ [event]) := by
        intro id threshold heq
        obtain ⟨level, hlatest, hlevel⟩ := hgiven id threshold heq
        exact ⟨level, hlatest.concat hother, hlevel⟩
      cases event with
      | host entry => exact ⟨standing, hstands, hquiet (by simp)⟩
      | build files source category strict => exact ⟨standing, hstands, hquiet (by simp)⟩
      | call c =>
          refine ⟨_, hstands.call c, ?_⟩
          intro id threshold heq
          obtain ⟨hsound, level, rfl, hlevel⟩ := exists_level_of_next_eq_installed heq
          have hdrop := dropStored_of_not_stale hstands hsound
          have hsucceeds : SetsUp start events level := by
            rw [SetsUp, setUp_of_accepted hdrop hlevel]
          exact ⟨level, latestSetUp_concat hsucceeds, hlevel⟩

/-! ## What the sink writes -/

theorem filter_application_of_stands (hforeign : ∀ sink ∈ foreign, sink.owner = .application)
    (hstands : Stands foreign standing state) :
    (state.sinks.filter fun sink => sink.owner = .application) = foreign := by
  have hown : standing.own.filter (fun sink => sink.owner = .application) = [] := by
    cases standing with
    | silent => rfl
    | installed id threshold => rfl
    | stale id => rfl
  have hall : foreign.filter (fun sink => sink.owner = .application) = foreign := by
    rw [List.filter_eq_self]
    intro sink hsink
    simp [hforeign sink hsink]
  rw [hstands.sinks, List.filter_append, hall, hown, List.append_nil]

theorem length_own_le_one (standing : Standing) : standing.own.length ≤ 1 := by
  cases standing with
  | silent => exact Nat.zero_le _
  | installed id threshold => exact le_rfl
  | stale id => exact Nat.zero_le _

theorem eq_installed_of_mem_own {sink : Sink} (hsink : sink ∈ standing.own) :
    ∃ id, standing = .installed id sink.threshold ∧ sink = ⟨id, .fixtures, sink.threshold⟩ := by
  cases standing with
  | silent => cases hsink
  | installed id threshold =>
      rw [Standing.own, List.mem_singleton] at hsink
      rw [hsink]
      exact ⟨id, rfl, rfl⟩
  | stale id => cases hsink

/-- The sink of the fixtures is among the writers of an entry once, if it accepts the entry. -/
theorem filter_writers_of_installed (hforeign : ∀ sink ∈ foreign, sink.owner = .application)
    {id threshold : Nat} (hstands : Stands foreign (.installed id threshold) state)
    (origin : Owner) (entry : LogEntry) :
    ((state.writers origin entry).filter fun writer => writer = ⟨id, .fixtures, threshold⟩) =
      if origin = .fixtures ∧ threshold ≤ entry.level.number then [⟨id, .fixtures, threshold⟩]
      else [] := by
  have henabled : state.enabled = true := hstands.enabled
  have hsinks : state.sinks = foreign ++ [⟨id, .fixtures, threshold⟩] := hstands.sinks
  have hnone : (foreign.filter fun sink => sink.accepts origin entry).filter
      (fun writer => writer = ⟨id, .fixtures, threshold⟩) = [] := by
    rw [List.filter_eq_nil_iff]
    intro sink hsink heq
    have howner := hforeign sink (List.mem_filter.mp hsink).1
    rw [of_decide_eq_true heq] at howner
    cases howner
  rw [writers, henabled, if_neg (by simp), hsinks, List.filter_append, List.filter_append, hnone,
    List.nil_append, List.filter_singleton]
  by_cases haccepts : origin = .fixtures ∧ threshold ≤ entry.level.number
  · simp [Sink.accepts, haccepts]
  · simp [Sink.accepts, haccepts]

theorem writtenBy_of_installed (hforeign : ∀ sink ∈ foreign, sink.owner = .application)
    {id threshold : Nat} (hstands : Stands foreign (.installed id threshold) state)
    (event : LogEvent) :
    state.writtenBy ⟨id, .fixtures, threshold⟩ event =
      event.ownEntries.filter fun entry => threshold ≤ entry.level.number := by
  rw [writtenBy, LogEvent.ownEntries]
  induction event.entries with
  | nil => rfl
  | cons logged rest ih =>
      rw [List.flatMap_cons, ih, filter_writers_of_installed hforeign hstands]
      by_cases hown : logged.1 = .fixtures
      · by_cases hreaches : threshold ≤ logged.2.level.number
        · simp [hown, hreaches]
        · simp [hown, hreaches]
      · simp [hown]

/-- In every state that a run leads to, the sinks of the application are what they were, and the
fixtures have one sink or none.  If they have one, they are not silenced, its threshold is the
level of the latest set-up that succeeded, and of what happens next it writes each entry of the
fixtures that reaches the threshold, once and in order, and nothing else. -/
theorem run_keeps_one_sink (hfresh : start.IsFresh) (events : List LogEvent) :
    let state := start.afterRun events
    (state.sinks.filter fun sink => sink.owner = .application) = start.sinks ∧
      state.ownSinks.length ≤ 1 ∧
      ∀ sink ∈ state.ownSinks,
        state.enabled = true ∧
        (∃ level, LatestSetUp start events level ∧ thresholdOf level = .ok sink.threshold) ∧
        ∀ event, state.writtenBy sink event =
          event.ownEntries.filter fun entry => sink.threshold ≤ entry.level.number := by
  intro state
  obtain ⟨standing, hstands, hgiven⟩ := exists_standing_afterRun hfresh events
  have hforeign := hfresh.foreign
  have hown : state.ownSinks = standing.own := ownSinks_of_stands hforeign hstands
  rw [hown]
  refine ⟨filter_application_of_stands hforeign hstands, length_own_le_one standing, ?_⟩
  intro sink hsink
  obtain ⟨id, rfl, hsinkEq⟩ := eq_installed_of_mem_own hsink
  refine ⟨hstands.enabled, hgiven id sink.threshold rfl, ?_⟩
  intro event
  have hwritten := writtenBy_of_installed hforeign hstands event
  rwa [← hsinkEq] at hwritten

/-! ## A sink that replaces another one -/

namespace Replaced

def fresh : LogState := ⟨[⟨0, .application, 10⟩], 1, none, false⟩

def empty : LogEvent := .build .empty (.memory []) (.text "sql") false

def course : List LogEvent :=
  [.call (.setUp "LOUD"), .call (.setUp "WARNING"), empty, .host ⟨.error, "host"⟩,
    .call (.setUp "DEBUG")]

def sink : Sink := ⟨3, .fixtures, 10⟩

def built : LogEntry := ⟨.debug, "Built corpus 'sql' from 0 file(s) at memory: 0 case(s)"⟩

theorem isFresh_fresh : fresh.IsFresh := by
  constructor <;> simp [fresh]

theorem sinks_afterRun : (fresh.afterRun course).sinks = [⟨0, .application, 10⟩, sink] := rfl

theorem ownEntries_empty :
    (empty.ownEntries.filter fun entry => sink.threshold ≤ entry.level.number) = [built] := by
  decide +kernel

end Replaced

/-- A level is refused while there is no sink, and a sink replaces another one: the next build is
heard from the new threshold on. -/
theorem run_keeps_one_sink_of_replaced_threshold :
    Replaced.fresh.IsFresh ∧ Replaced.sink ∈ (Replaced.fresh.afterRun Replaced.course).ownSinks ∧
      (∃ level, LatestSetUp Replaced.fresh Replaced.course level ∧ thresholdOf level = .ok 10) ∧
      (Replaced.fresh.afterRun Replaced.course).writtenBy Replaced.sink Replaced.empty =
        [Replaced.built] := by
  have hfresh := Replaced.isFresh_fresh
  have hown : Replaced.sink ∈ (Replaced.fresh.afterRun Replaced.course).ownSinks := by
    rw [ownSinks, Replaced.sinks_afterRun]
    simp [Replaced.sink]
  obtain ⟨-, -, hsink⟩ := run_keeps_one_sink hfresh Replaced.course
  obtain ⟨-, hlatest, hwrites⟩ := hsink Replaced.sink hown
  exact ⟨hfresh, hown, hlatest, (hwrites Replaced.empty).trans Replaced.ownEntries_empty⟩

end LogState

end SqlFixtures
