import SqlFixtures.Logging.Logged
import Mathlib.Tactic

/-!
# Laws of logged results

What follows a result logs after it; what follows a failure is not done.
-/

namespace SqlFixtures.Logged

variable {α β : Type}

@[simp] theorem ok_bind (log : List LogEntry) (a : α) (next : α → Logged β) :
    ((⟨log, .ok a⟩ : Logged α) >>= next) = ⟨log ++ (next a).log, (next a).result⟩ := rfl

@[simp] theorem error_bind (log : List LogEntry) (failure : Failure) (next : α → Logged β) :
    ((⟨log, .error failure⟩ : Logged α) >>= next) = ⟨log, .error failure⟩ := rfl

@[simp] theorem ofExcept_ok_bind (a : α) (next : α → Logged β) :
    (ofExcept (.ok a) >>= next) = next a := rfl

theorem result_bind (first : Logged α) (next : α → Logged β) :
    (first >>= next).result = first.result >>= fun a => (next a).result := by
  obtain ⟨log, result⟩ := first
  cases result with
  | error failure => rfl
  | ok a => rfl

theorem bind_assoc {γ : Type} (first : Logged α) (next : α → Logged β) (last : β → Logged γ) :
    ((first >>= next) >>= last) = first >>= fun a => next a >>= last := by
  obtain ⟨log, result⟩ := first
  cases result with
  | error failure => rfl
  | ok a =>
      rw [ok_bind, ok_bind]
      cases hnext : next a with
      | mk more rest =>
          cases rest with
          | error failure => simp
          | ok b => simp

end SqlFixtures.Logged
