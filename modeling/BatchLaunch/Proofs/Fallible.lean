/-!
When a computation in steps that may each fail gives a value.
-/
namespace BatchLaunch.Fallible

variable {ε δ α β : Type} {attempt : Except ε α} {b : β}

theorem bind_ok_iff {go : α → Except ε β} :
    (attempt >>= go) = .ok b ↔ ∃ a, attempt = .ok a ∧ go a = .ok b := by
  cases attempt with
  | error fault => exact ⟨nofun, fun ⟨_, fails, _⟩ => nomatch fails⟩
  | ok a =>
      constructor
      · exact fun goes => ⟨a, rfl, goes⟩
      · rintro ⟨_, ⟨⟩, goes⟩
        exact goes

theorem bind_congr {go go' : α → Except ε β} (same : ∀ a, attempt = .ok a → go a = go' a) :
    attempt >>= go = attempt >>= go' := by
  cases attempt with
  | error fault => rfl
  | ok a => exact same a rfl

theorem map_ok_iff {f : α → β} : attempt.map f = .ok b ↔ ∃ a, attempt = .ok a ∧ f a = b := by
  cases attempt with
  | error fault => exact ⟨nofun, fun ⟨_, fails, _⟩ => nomatch fails⟩
  | ok a => simp [Except.map]

theorem map_error_iff {f : α → β} {fault : ε} :
    attempt.map f = .error fault ↔ attempt = .error fault := by
  cases attempt with
  | error found => simp [Except.map]
  | ok a => exact ⟨nofun, nofun⟩

theorem mapError_ok_iff {f : ε → δ} {a : α} : attempt.mapError f = .ok a ↔ attempt = .ok a := by
  cases attempt with
  | error fault => exact ⟨nofun, nofun⟩
  | ok found =>
      constructor
      · rintro ⟨⟩
        rfl
      · rintro ⟨⟩
        rfl

end BatchLaunch.Fallible
