import SqlFixtures.Logging.Sink
import Mathlib.Tactic

/-!
# Calls that set up and reset the sink

The sink of the fixtures is set up and reset by calls, some of which ask for a level that is
refused.  Between two calls the fixtures stand in one of three ways beside the sinks of the
application: they have no sink and are silenced, they have one sink and its number is stored, or
their sink is gone but its number is still stored.

The third standing comes about exactly if a refused set-up directly follows one that succeeded.  In
it every call fails and changes nothing, so that there is no way back.  In the other two, a reset
and a set-up with a good level do what they are for, whatever failed before.
-/

namespace SqlFixtures

inductive SinkCall where
  | setUp (level : Value)
  | reset

namespace LogState

def call (state : LogState) : SinkCall → LogState × Except Failure Unit
  | .setUp level => state.setUp level
  | .reset => state.reset

def after (state : LogState) (calls : List SinkCall) : LogState :=
  calls.foldl (fun state c => (state.call c).1) state

def ownSinks (state : LogState) : List Sink :=
  state.sinks.filter fun sink => sink.owner = .fixtures

/-- The fixtures have done nothing yet; the application may have sinks. -/
structure IsFresh (state : LogState) : Prop where
  foreign : ∀ sink ∈ state.sinks, sink.owner = .application
  numbered : ∀ sink ∈ state.sinks, sink.id < state.nextId
  unstored : state.stored = none
  silenced : state.enabled = false

/-- A reset and a set-up with a good level succeed and do what they are for. -/
structure Recovers (state : LogState) : Prop where
  reset : ∃ next, state.reset = (next, .ok ()) ∧ next.ownSinks = [] ∧ next.enabled = false
  setUp : ∀ level threshold, thresholdOf level = .ok threshold →
    ∃ next id, state.setUp level = (next, .ok ()) ∧
      next.ownSinks = [⟨id, .fixtures, threshold⟩] ∧ next.enabled = true

/-- No call succeeds or changes anything, while the fixtures are not silenced and have no sink. -/
structure IsStuck (state : LogState) : Prop where
  fails : ∃ id, ∀ c, state.call c = (state, .error (.missingSink id))
  ownSinks : state.ownSinks = []
  enabled : state.enabled = true

/-! ## The three standings -/

inductive Standing where
  | silent
  | installed (id threshold : Nat)
  | stale (id : Nat)

namespace Standing

def own : Standing → List Sink
  | silent | stale _ => []
  | installed id threshold => [⟨id, .fixtures, threshold⟩]

def stored : Standing → Option Nat
  | silent => none
  | installed id _ | stale id => some id

def enabled : Standing → Bool
  | silent => false
  | installed .. | stale _ => true

/-- The standing after a call; `nextId` is the number that a sink gets then. -/
def next (nextId : Nat) : Standing → SinkCall → Standing
  | stale id, _ => stale id
  | silent, .reset | installed .., .reset => silent
  | silent, .setUp level =>
    match thresholdOf level with
    | .ok threshold => installed nextId threshold
    | .error _ => silent
  | installed id _, .setUp level =>
    match thresholdOf level with
    | .ok threshold => installed nextId threshold
    | .error _ => stale id

end Standing

/-- The fixtures stand like this beside the sinks of the application. -/
structure Stands (foreign : List Sink) (standing : Standing) (state : LogState) : Prop where
  sinks : state.sinks = foreign ++ standing.own
  stored : state.stored = standing.stored
  enabled : state.enabled = standing.enabled
  numbered : ∀ sink ∈ foreign, sink.id < state.nextId
  distinct : ∀ sink ∈ foreign, some sink.id ≠ standing.stored

variable {foreign : List Sink} {state : LogState} {standing : Standing}

theorem IsFresh.stands (hfresh : state.IsFresh) : Stands state.sinks .silent state where
  sinks := (List.append_nil _).symm
  stored := hfresh.unstored
  enabled := hfresh.silenced
  numbered := hfresh.numbered
  distinct := by simp [Standing.stored]

/-! ## What one call does -/

theorem dropStored_of_silent (hstands : Stands foreign .silent state) :
    state.dropStored = .ok { state with sinks := foreign } := by
  have hstored : state.stored = none := hstands.stored
  have hsinks : state.sinks = foreign := by simpa [Standing.own] using hstands.sinks
  have hsame : { state with sinks := foreign } = state := by rw [← hsinks]
  rw [hsame, dropStored, hstored]

theorem dropStored_of_installed {id threshold : Nat}
    (hstands : Stands foreign (.installed id threshold) state) :
    state.dropStored = .ok { state with sinks := foreign } := by
  have hstored : state.stored = some id := hstands.stored
  have hsinks : state.sinks = foreign ++ [⟨id, .fixtures, threshold⟩] := hstands.sinks
  have hforeign : foreign.filter (fun sink => sink.id ≠ id) = foreign := by
    rw [List.filter_eq_self]
    intro sink hsink
    simpa [Standing.stored] using hstands.distinct sink hsink
  have hkept : state.sinks.filter (fun sink => sink.id ≠ id) = foreign := by
    rw [hsinks, List.filter_append, hforeign]
    simp
  have hthere : state.sinks.any (fun sink => sink.id = id) = true := by simp [hsinks]
  simp only [dropStored, hstored, hthere, hkept, if_true]

theorem dropStored_of_not_stale (hstands : Stands foreign standing state)
    (hsound : ∀ id, standing ≠ .stale id) :
    state.dropStored = .ok { state with sinks := foreign } := by
  cases standing with
  | silent => exact dropStored_of_silent hstands
  | installed id threshold => exact dropStored_of_installed hstands
  | stale id => exact absurd rfl (hsound id)

theorem dropStored_of_stale {id : Nat} (hstands : Stands foreign (.stale id) state) :
    state.dropStored = .error (.missingSink id) := by
  have hstored : state.stored = some id := hstands.stored
  have hsinks : state.sinks = foreign := by simpa [Standing.own] using hstands.sinks
  have hgone : state.sinks.any (fun sink => sink.id = id) = false := by
    rw [hsinks, List.any_eq_false]
    intro sink hsink
    simpa [Standing.stored] using hstands.distinct sink hsink
  simp [dropStored, hstored, hgone]

theorem call_of_stale {id : Nat} (hstands : Stands foreign (.stale id) state) (c : SinkCall) :
    state.call c = (state, .error (.missingSink id)) := by
  have hdrop := dropStored_of_stale hstands
  cases c with
  | setUp level => simp [call, setUp, hdrop]
  | reset => simp [call, reset, hdrop]

theorem reset_of_dropStored
    (hdrop : state.dropStored = .ok { state with sinks := foreign }) :
    state.reset = (⟨foreign, state.nextId, none, false⟩, .ok ()) := by
  simp [reset, hdrop]

theorem setUp_of_accepted {level : Value} {threshold : Nat}
    (hdrop : state.dropStored = .ok { state with sinks := foreign })
    (hlevel : thresholdOf level = .ok threshold) :
    state.setUp level =
      (⟨foreign ++ [⟨state.nextId, .fixtures, threshold⟩], state.nextId + 1, some state.nextId,
        true⟩, .ok ()) := by
  simp [setUp, hdrop, addSink, hlevel]

theorem setUp_of_refused {level : Value} {failure : Failure}
    (hdrop : state.dropStored = .ok { state with sinks := foreign })
    (hlevel : thresholdOf level = .error failure) :
    state.setUp level =
      (⟨foreign, state.nextId + 1, state.stored, state.enabled⟩, .error failure) := by
  simp [setUp, hdrop, addSink, hlevel]

theorem stands_silent {nextId : Nat} (hnumbered : ∀ sink ∈ foreign, sink.id < nextId) :
    Stands foreign .silent ⟨foreign, nextId, none, false⟩ where
  sinks := (List.append_nil _).symm
  stored := rfl
  enabled := rfl
  numbered := hnumbered
  distinct := by simp [Standing.stored]

theorem stands_installed {nextId : Nat} (hnumbered : ∀ sink ∈ foreign, sink.id < nextId)
    (threshold : Nat) :
    Stands foreign (.installed nextId threshold)
      ⟨foreign ++ [⟨nextId, .fixtures, threshold⟩], nextId + 1, some nextId, true⟩ where
  sinks := rfl
  stored := rfl
  enabled := rfl
  numbered := fun sink hsink => Nat.lt_succ_of_lt (hnumbered sink hsink)
  distinct := by
    intro sink hsink heq
    have hlt := hnumbered sink hsink
    simp only [Standing.stored, Option.some.injEq] at heq
    omega

theorem Stands.dropped {nextId : Nat} {id threshold : Nat}
    (hstands : Stands foreign (.installed id threshold) state) (hnext : state.nextId ≤ nextId) :
    Stands foreign (.stale id) ⟨foreign, nextId, state.stored, state.enabled⟩ where
  sinks := (List.append_nil _).symm
  stored := hstands.stored
  enabled := hstands.enabled
  numbered := fun sink hsink => (hstands.numbered sink hsink).trans_le hnext
  distinct := hstands.distinct

/-- A call leads from a standing to the next one, and leaves the sinks of the application alone. -/
theorem Stands.call (hstands : Stands foreign standing state) (c : SinkCall) :
    Stands foreign (standing.next state.nextId c) (state.call c).1 := by
  cases standing with
  | silent =>
      have hdrop := dropStored_of_silent hstands
      cases c with
      | reset =>
          rw [LogState.call, reset_of_dropStored hdrop]
          exact stands_silent hstands.numbered
      | setUp level =>
          cases hlevel : thresholdOf level with
          | ok threshold =>
              simp only [LogState.call, setUp_of_accepted hdrop hlevel, Standing.next, hlevel]
              exact stands_installed hstands.numbered threshold
          | error failure =>
              have hstored : state.stored = none := hstands.stored
              have henabled : state.enabled = false := hstands.enabled
              simp only [LogState.call, setUp_of_refused hdrop hlevel, Standing.next, hlevel,
                hstored, henabled]
              exact stands_silent fun sink hsink =>
                Nat.lt_succ_of_lt (hstands.numbered sink hsink)
  | installed id threshold =>
      have hdrop := dropStored_of_installed hstands
      cases c with
      | reset =>
          rw [LogState.call, reset_of_dropStored hdrop]
          exact stands_silent hstands.numbered
      | setUp level =>
          cases hlevel : thresholdOf level with
          | ok other =>
              simp only [LogState.call, setUp_of_accepted hdrop hlevel, Standing.next, hlevel]
              exact stands_installed hstands.numbered other
          | error failure =>
              simp only [LogState.call, setUp_of_refused hdrop hlevel, Standing.next, hlevel]
              exact hstands.dropped (Nat.le_succ _)
  | stale id =>
      rw [call_of_stale hstands]
      exact hstands

/-! ## What a run of calls does -/

def IsAccepted (level : Value) : Prop := ∃ threshold, thresholdOf level = .ok threshold

/-- The last call is a set-up with a good level. -/
def EndsSetUp (calls : List SinkCall) : Prop :=
  ∃ level, [.setUp level] <:+ calls ∧ IsAccepted level

/-- Somewhere a set-up with a good level is directly followed by one whose level is refused. -/
def Spoils (calls : List SinkCall) : Prop :=
  ∃ level other, [.setUp level, .setUp other] <:+: calls ∧ IsAccepted level ∧ ¬ IsAccepted other

theorem after_concat (state : LogState) (calls : List SinkCall) (c : SinkCall) :
    state.after (calls ++ [c]) = ((state.after calls).call c).1 := by
  simp [after]

theorem endsSetUp_concat_iff {calls : List SinkCall} {c : SinkCall} :
    EndsSetUp (calls ++ [c]) ↔ ∃ level, c = .setUp level ∧ IsAccepted level := by
  have hlast : ∀ level, [SinkCall.setUp level] <:+ calls ++ [c] ↔ c = .setUp level := by
    intro level
    rw [List.suffix_concat_iff]
    simp [List.singleton_eq_append_iff, eq_comm (a := c)]
  simp only [EndsSetUp, hlast]

theorem spoils_concat_iff {calls : List SinkCall} {c : SinkCall} :
    Spoils (calls ++ [c]) ↔
      Spoils calls ∨ EndsSetUp calls ∧ ∃ other, c = .setUp other ∧ ¬ IsAccepted other := by
  have hlast : ∀ level other, [SinkCall.setUp level, .setUp other] <:+ calls ++ [c] ↔
      [.setUp level] <:+ calls ∧ c = .setUp other := by
    intro level other
    have hpair : ∀ before : List SinkCall, [.setUp level, .setUp other] = before ++ [c] ↔
        before = [.setUp level] ∧ c = .setUp other := by
      intro before
      rw [show [SinkCall.setUp level, .setUp other] = [.setUp level] ++ [.setUp other] from rfl,
        List.append_singleton_inj, eq_comm (b := before), eq_comm (b := c)]
    simp [List.suffix_concat_iff, hpair, and_comm]
  simp only [Spoils, EndsSetUp, List.infix_concat_iff, hlast]
  constructor
  · rintro ⟨level, other, ⟨hends, rfl⟩ | hwithin, haccepted, hrefused⟩
    · exact Or.inr ⟨⟨level, hends, haccepted⟩, other, rfl, hrefused⟩
    · exact Or.inl ⟨level, other, hwithin, haccepted, hrefused⟩
  · rintro (⟨level, other, hwithin, hlevels⟩ | ⟨⟨level, hends, haccepted⟩, other, rfl, hrefused⟩)
    · exact ⟨level, other, Or.inr hwithin, hlevels⟩
    · exact ⟨level, other, Or.inl ⟨hends, rfl⟩, haccepted, hrefused⟩

namespace Standing

/-- The standing is the one that calls lead to. -/
def Follows (calls : List SinkCall) : Standing → Prop
  | silent => ¬ Spoils calls ∧ ¬ EndsSetUp calls
  | installed .. => ¬ Spoils calls ∧ EndsSetUp calls
  | stale _ => Spoils calls

theorem follows_next {calls : List SinkCall} {standing : Standing}
    (hfollows : standing.Follows calls) (nextId : Nat) (c : SinkCall) :
    (standing.next nextId c).Follows (calls ++ [c]) := by
  cases standing with
  | silent =>
      obtain ⟨hspoils, hends⟩ := hfollows
      cases c with
      | reset => simp [next, Follows, spoils_concat_iff, endsSetUp_concat_iff, hspoils]
      | setUp level =>
          cases hlevel : thresholdOf level with
          | ok threshold =>
              simp [next, hlevel, Follows, spoils_concat_iff, endsSetUp_concat_iff, IsAccepted,
                hspoils]
          | error failure =>
              simp [next, hlevel, Follows, spoils_concat_iff, endsSetUp_concat_iff, IsAccepted,
                hspoils, hends]
  | installed id threshold =>
      obtain ⟨hspoils, hends⟩ := hfollows
      cases c with
      | reset => simp [next, Follows, spoils_concat_iff, endsSetUp_concat_iff, hspoils]
      | setUp level =>
          cases hlevel : thresholdOf level with
          | ok other =>
              simp [next, hlevel, Follows, spoils_concat_iff, endsSetUp_concat_iff, IsAccepted,
                hspoils]
          | error failure =>
              simp [next, hlevel, Follows, spoils_concat_iff, IsAccepted, hends]
  | stale id => exact spoils_concat_iff.mpr (Or.inl hfollows)

end Standing

theorem exists_standing_after {start : LogState} (hfresh : start.IsFresh)
    (calls : List SinkCall) :
    ∃ standing : Standing, Stands start.sinks standing (start.after calls) ∧
      standing.Follows calls := by
  induction calls using List.reverseRecOn with
  | nil =>
      refine ⟨.silent, hfresh.stands, ?_⟩
      simp [Standing.Follows, Spoils, EndsSetUp]
  | append_singleton calls c ih =>
      obtain ⟨standing, hstands, hfollows⟩ := ih
      rw [after_concat]
      exact ⟨_, hstands.call c, Standing.follows_next hfollows _ c⟩

/-! ## Recovering -/

theorem ownSinks_of_stands (hforeign : ∀ sink ∈ foreign, sink.owner = .application)
    (hstands : Stands foreign standing state) : state.ownSinks = standing.own := by
  have hnone : foreign.filter (fun sink => sink.owner = .fixtures) = [] := by
    rw [List.filter_eq_nil_iff]
    intro sink hsink
    simp [hforeign sink hsink]
  have hown : standing.own.filter (fun sink => sink.owner = .fixtures) = standing.own := by
    cases standing with
    | silent => rfl
    | installed id threshold => rfl
    | stale id => rfl
  rw [ownSinks, hstands.sinks, List.filter_append, hnone, hown, List.nil_append]

theorem recovers_of_not_stale (hforeign : ∀ sink ∈ foreign, sink.owner = .application)
    (hstands : Stands foreign standing state) (hsound : ∀ id, standing ≠ .stale id) :
    state.Recovers := by
  have hdrop := dropStored_of_not_stale hstands hsound
  constructor
  · have hnext := stands_silent hstands.numbered
    exact ⟨_, reset_of_dropStored hdrop, ownSinks_of_stands hforeign hnext, rfl⟩
  · intro level threshold hlevel
    have hnext := stands_installed hstands.numbered threshold
    exact ⟨_, _, setUp_of_accepted hdrop hlevel, ownSinks_of_stands hforeign hnext, rfl⟩

theorem isStuck_of_stale {id : Nat} (hforeign : ∀ sink ∈ foreign, sink.owner = .application)
    (hstands : Stands foreign (.stale id) state) : state.IsStuck where
  fails := ⟨id, call_of_stale hstands⟩
  ownSinks := ownSinks_of_stands hforeign hstands
  enabled := hstands.enabled

theorem IsStuck.not_recovers (hstuck : state.IsStuck) : ¬ state.Recovers := by
  intro hrecovers
  obtain ⟨id, hfails⟩ := hstuck.fails
  obtain ⟨next, hreset, -⟩ := hrecovers.reset
  have hcall : state.reset = (state, .error (.missingSink id)) := hfails .reset
  rw [hcall] at hreset
  cases hreset

/-- After calls among which no refused set-up directly follows one that succeeded, a reset and a
set-up with a good level do what they are for.  After any other calls every call fails. -/
theorem calls_recover_unless_spoilt {start : LogState} (hfresh : start.IsFresh)
    (calls : List SinkCall) :
    ((start.after calls).Recovers ↔ ¬ Spoils calls) ∧
      ((start.after calls).IsStuck ↔ Spoils calls) := by
  obtain ⟨standing, hstands, hfollows⟩ := exists_standing_after hfresh calls
  have hforeign := hfresh.foreign
  by_cases hspoils : Spoils calls
  · have hstuck : (start.after calls).IsStuck := by
      cases standing with
      | silent => exact absurd hspoils hfollows.1
      | installed id threshold => exact absurd hspoils hfollows.1
      | stale id => exact isStuck_of_stale hforeign hstands
    simp [hspoils, hstuck, hstuck.not_recovers]
  · have hsound : ∀ id, standing ≠ .stale id := by
      rintro id rfl
      exact hspoils hfollows
    have hrecovers := recovers_of_not_stale hforeign hstands hsound
    have hmoves : ¬ (start.after calls).IsStuck := fun hstuck => hstuck.not_recovers hrecovers
    simp [hspoils, hrecovers, hmoves]

/-- A refused level does no harm while the fixtures have no sink. -/
theorem calls_recover_unless_spoilt_by_level_refused_after_reset :
    let start : LogState := ⟨[⟨0, .application, 10⟩], 1, none, false⟩
    let calls : List SinkCall :=
      [.setUp "LOUD", .setUp "DEBUG", .reset, .setUp (.int (-1)), .setUp "INFO"]
    start.IsFresh ∧ ¬ Spoils calls ∧ (start.after calls).Recovers := by
  intro start calls
  have hfresh : start.IsFresh := by
    constructor <;> simp [start]
  have hinfo : IsAccepted "INFO" := ⟨20, rfl⟩
  have hdebug : IsAccepted "DEBUG" := ⟨10, rfl⟩
  have hspoils : ¬ Spoils calls := by
    rintro ⟨level, other, hwithin, haccepted, hrefused⟩
    simp only [calls, List.infix_cons_iff, List.prefix_cons_iff] at hwithin
    simp at hwithin
    rcases hwithin with ⟨-, rfl⟩ | ⟨-, rfl⟩
    · exact hrefused hdebug
    · exact hrefused hinfo
  exact ⟨hfresh, hspoils, (calls_recover_unless_spoilt hfresh calls).1.mpr hspoils⟩

/-- A refused level that takes the place of a good one leaves the number of a sink that is gone. -/
theorem calls_fail_after_level_refused_in_place_of_sink :
    let state := initial.after [.setUp "DEBUG", .setUp "LOUD"]
    initial.IsFresh ∧ state.reset = (state, .error (.missingSink 0)) ∧
      state.setUp "DEBUG" = (state, .error (.missingSink 0)) ∧ state.enabled = true ∧
      ¬ state.Recovers := by
  intro state
  have hfresh : initial.IsFresh := by
    constructor <;> simp [initial]
  have hstands : Stands [] (.stale 0) state := ⟨rfl, rfl, rfl, by simp, by simp⟩
  have hstuck : state.IsStuck := isStuck_of_stale (by simp) hstands
  exact ⟨hfresh, call_of_stale hstands .reset, call_of_stale hstands (.setUp "DEBUG"),
    hstuck.enabled, hstuck.not_recovers⟩

end LogState

end SqlFixtures
