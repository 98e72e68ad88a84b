import Mathlib.Tactic

/-!
# Laws of results

Going through a list with a function that may fail succeeds exactly if the function succeeds at
every element, and then gives its values in order.  Otherwise it fails as the function does at the
first element where it fails.  What a computation can fail with is what its steps can fail with.
-/

namespace SqlFixtures.Results

variable {ε α β : Type}

theorem bind_eq_ok_iff {result : Except ε α} {next : α → Except ε β} {b : β} :
    (result >>= next) = .ok b ↔ ∃ a, result = .ok a ∧ next a = .ok b := by
  cases result with
  | ok a => simp [bind, Except.bind]
  | error failure => simp [bind, Except.bind]

theorem bind_eq_error_iff {result : Except ε α} {next : α → Except ε β} {e : ε} :
    (result >>= next) = .error e ↔
      result = .error e ∨ ∃ a, result = .ok a ∧ next a = .error e := by
  cases result with
  | ok a => simp [bind, Except.bind]
  | error failure => simp [bind, Except.bind]

theorem bind_pure_eq_error_iff {result : Except ε α} {f : α → β} {e : ε} :
    (result >>= fun a => pure (f a)) = .error e ↔ result = .error e := by
  rw [bind_eq_error_iff]
  simp [pure, Except.pure]

theorem map_eq_ok_iff {result : Except ε α} {f : α → β} {b : β} :
    result.map f = .ok b ↔ ∃ a, result = .ok a ∧ b = f a := by
  cases result with
  | ok a => simp [Except.map, eq_comm]
  | error failure => simp [Except.map]

theorem map_eq_error_iff {result : Except ε α} {f : α → β} {e : ε} :
    result.map f = .error e ↔ result = .error e := by
  cases result with
  | ok a => simp [Except.map]
  | error failure => simp [Except.map]

theorem toOption_eq_some_iff {result : Except ε α} {a : α} :
    result.toOption = some a ↔ result = .ok a := by
  cases result with
  | ok b => simp [Except.toOption]
  | error failure => simp [Except.toOption]

theorem mapM_eq_ok_iff {f : α → Except ε β} {as : List α} {bs : List β} :
    as.mapM f = .ok bs ↔ List.Forall₂ (fun a b => f a = .ok b) as bs := by
  induction as generalizing bs with
  | nil => simp [pure, Except.pure, eq_comm]
  | cons a as ih =>
      rw [List.mapM_cons, bind_eq_ok_iff]
      constructor
      · rintro ⟨b, hhead, hrest⟩
        obtain ⟨rest, htail, hbs⟩ := bind_eq_ok_iff.mp hrest
        cases hbs
        exact List.Forall₂.cons hhead (ih.mp htail)
      · rintro (_ | ⟨hhead, htail⟩)
        exact ⟨_, hhead, bind_eq_ok_iff.mpr ⟨_, ih.mpr htail, rfl⟩⟩

/-- A function that has a value of its own wherever a condition holds gives these values in order,
if the condition holds everywhere. -/
theorem mapM_eq_ok_iff_map {f : α → Except ε β} {holds : α → Prop} {value : α → β}
    (hf : ∀ a b, f a = .ok b ↔ holds a ∧ b = value a) {as : List α} {bs : List β} :
    as.mapM f = .ok bs ↔ (∀ a ∈ as, holds a) ∧ bs = as.map value := by
  simp only [mapM_eq_ok_iff, hf]
  constructor
  · intro hall
    induction hall with
    | nil => simp
    | cons hhead _ ih =>
        refine ⟨List.forall_mem_cons.mpr ⟨hhead.1, ih.1⟩, ?_⟩
        rw [List.map_cons, ← hhead.2, ← ih.2]
  · rintro ⟨hholds, rfl⟩
    rw [List.forall₂_map_right_iff, List.forall₂_same]
    exact fun a ha => ⟨hholds a ha, rfl⟩

theorem mapM_eq_error_iff {f : α → Except ε β} {as : List α} {e : ε} :
    as.mapM f = .error e ↔
      ∃ before a after, as = before ++ a :: after ∧ (∀ b ∈ before, ∃ c, f b = .ok c) ∧
        f a = .error e := by
  induction as with
  | nil => simp [pure, Except.pure]
  | cons a as ih =>
      rw [List.mapM_cons, bind_eq_error_iff]
      constructor
      · intro hfails
        rcases hfails with hhead | ⟨b, hhead, hrest⟩
        · exact ⟨[], a, as, rfl, by simp, hhead⟩
        · have htail : as.mapM f = .error e := by
            rcases bind_eq_error_iff.mp hrest with htail | ⟨rest, -, hpure⟩
            · exact htail
            · cases hpure
          obtain ⟨before, a', after, rfl, hbefore, ha'⟩ := ih.mp htail
          refine ⟨a :: before, a', after, rfl, ?_, ha'⟩
          intro a'' hmem
          rcases List.mem_cons.mp hmem with rfl | hmem
          · exact ⟨b, hhead⟩
          · exact hbefore a'' hmem
      · rintro ⟨before, a', after, hsplit, hbefore, ha'⟩
        cases before with
        | nil =>
            obtain ⟨rfl, rfl⟩ := List.cons.inj hsplit
            exact Or.inl ha'
        | cons b before =>
            obtain ⟨rfl, rfl⟩ := List.cons.inj hsplit
            obtain ⟨c, hc⟩ := hbefore a (List.mem_cons_self ..)
            have htail : (before ++ a' :: after).mapM f = .error e :=
              ih.mpr ⟨before, a', after, rfl,
                fun b hb => hbefore b (List.mem_cons_of_mem _ hb), ha'⟩
            exact Or.inr ⟨c, hc, bind_eq_error_iff.mpr (Or.inl htail)⟩

/-- What is done to each value afterwards can be done to all values together. -/
theorem mapM_map_eq {γ : Type} (f : α → Except ε β) (g : β → γ) (as : List α) :
    (as.mapM fun a => (f a).map g) = (as.mapM f).map (List.map g) := by
  induction as with
  | nil => rfl
  | cons a as ih =>
      rw [List.mapM_cons, List.mapM_cons, ih]
      cases f a with
      | error failure => rfl
      | ok b =>
          cases as.mapM f with
          | error failure => rfl
          | ok bs => rfl

theorem mapM_eq_of_forall₂ {related : α → α → Prop} {f g : α → Except ε β} {as bs : List α}
    (hall : List.Forall₂ related as bs) (hf : ∀ a ∈ as, ∀ b, related a b → f a = g b) :
    as.mapM f = bs.mapM g := by
  induction hall with
  | nil => rfl
  | cons hhead _ ih =>
      obtain ⟨hfirst, hrest⟩ := List.forall_mem_cons.mp hf
      rw [List.mapM_cons, List.mapM_cons, hfirst _ hhead, ih hrest]

theorem mapM_eq_some_map {f : α → Option β} {g : α → β} {as : List α}
    (hf : ∀ a ∈ as, f a = some (g a)) : as.mapM f = some (as.map g) := by
  induction as with
  | nil => rfl
  | cons a as ih =>
      obtain ⟨ha, hf⟩ := List.forall_mem_cons.mp hf
      rw [List.mapM_cons, ha, ih hf]
      rfl

/-! ## Values behind a complaint -/

/-- The value, if there is nothing to complain about. -/
def guarded (complaint? : Option ε) (a : α) : Except ε α :=
  match complaint? with
  | some e => .error e
  | none => .ok a

theorem guarded_eq_ok_iff {complaint? : Option ε} {a b : α} :
    guarded complaint? a = .ok b ↔ complaint? = none ∧ b = a := by
  cases complaint? with
  | some e => simp [guarded]
  | none => simp [guarded, eq_comm]

theorem map_guarded (complaint? : Option ε) (a : α) (f : α → β) :
    (guarded complaint? a).map f = guarded complaint? (f a) := by
  cases complaint? with
  | some e => rfl
  | none => rfl

/-- The first complaint about an element is one about the list. -/
theorem mapM_eq_guarded {f : α → Except ε β} {complaint? : α → Option ε} {value : α → β}
    (hf : ∀ a, f a = guarded (complaint? a) (value a)) (as : List α) :
    as.mapM f = guarded (as.findSome? complaint?) (as.map value) := by
  induction as with
  | nil => rfl
  | cons a as ih =>
      rw [List.mapM_cons, hf, ih, List.findSome?_cons]
      cases complaint? a with
      | some e => rfl
      | none =>
          cases as.findSome? complaint? with
          | some e => rfl
          | none => rfl

theorem findSome?_flatMap {γ : Type} (complaint? : β → Option ε) (parts : γ → List β)
    (whole : List γ) :
    (whole.flatMap parts).findSome? complaint? =
      whole.findSome? fun c => (parts c).findSome? complaint? := by
  induction whole with
  | nil => rfl
  | cons c whole ih =>
      rw [List.flatMap_cons, List.findSome?_append, ih, List.findSome?_cons]
      cases (parts c).findSome? complaint? with
      | some e => rfl
      | none => rfl

/-! ## The failures of a result -/

/-- What the result fails with, if it fails. -/
def failure? : Except ε α → Option ε
  | .ok _ => none
  | .error e => some e

theorem failure?_eq_some_iff {result : Except ε α} {e : ε} :
    failure? result = some e ↔ result = .error e := by
  cases result with
  | ok a => simp [failure?]
  | error e' => simp [failure?]

/-- If the result is a failure, it is an allowed one. -/
def FailsOnly (allowed : ε → Prop) (result : Except ε α) : Prop :=
  ∀ e, result = .error e → allowed e

namespace FailsOnly

variable {allowed other : ε → Prop}

theorem imp {result : Except ε α} (hallowed : ∀ e, allowed e → other e)
    (hresult : FailsOnly allowed result) : FailsOnly other result := by
  intro e hfails
  exact hallowed e (hresult e hfails)

theorem bind {result : Except ε α} {next : α → Except ε β} (hresult : FailsOnly allowed result)
    (hnext : ∀ a, FailsOnly allowed (next a)) : FailsOnly allowed (result >>= next) := by
  intro e hfails
  rcases bind_eq_error_iff.mp hfails with hfirst | ⟨a, -, hlater⟩
  · exact hresult e hfirst
  · exact hnext a e hlater

theorem mapM {f : α → Except ε β} (hf : ∀ a, FailsOnly allowed (f a)) (as : List α) :
    FailsOnly allowed (as.mapM f) := by
  intro e hfails
  obtain ⟨-, a, -, -, -, ha⟩ := mapM_eq_error_iff.mp hfails
  exact hf a e ha

end FailsOnly

theorem exists_left_of_mem {related : α → β → Prop} {as : List α} {bs : List β}
    (hall : List.Forall₂ related as bs) {b : β} (hmem : b ∈ bs) : ∃ a ∈ as, related a b := by
  induction hall with
  | nil => cases hmem
  | cons hhead _ ih =>
      rcases List.mem_cons.mp hmem with rfl | htail
      · exact ⟨_, List.mem_cons_self .., hhead⟩
      · obtain ⟨a, ha, hrelated⟩ := ih htail
        exact ⟨a, List.mem_cons_of_mem _ ha, hrelated⟩

theorem exists_right_of_mem {related : α → β → Prop} {as : List α} {bs : List β}
    (hall : List.Forall₂ related as bs) {a : α} (hmem : a ∈ as) : ∃ b ∈ bs, related a b :=
  exists_left_of_mem hall.flip hmem

end SqlFixtures.Results
