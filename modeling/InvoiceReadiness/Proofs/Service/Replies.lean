import InvoiceReadiness.Service.Refusal

/-!
# Replies

The service computes most of an answer with the rest of the library, whose faults end the
request. So a reply that is an answer, or a denial, tells that everything before it ended
well.

## Main results

* `Reply.bind_liftM_eq` — a reply other than a fault.
-/

namespace InvoiceReadiness.Service.Reply

variable {α β : Type} {r : Result α} {f : α → Reply β}

/-- A reply other than a fault comes after computations that ended well. -/
theorem bind_liftM_eq {reply : Reply β} (hreply : ∀ fault, reply ≠ .error (.fault fault)) :
    (liftM r : Reply α) >>= f = reply ↔ ∃ a, r = .ok a ∧ f a = reply := by
  cases r with
  | ok a =>
      constructor
      · intro h
        exact ⟨a, rfl, h⟩
      · rintro ⟨_, ⟨⟩, h⟩
        exact h
  | error fault =>
      constructor
      · intro h
        exact absurd h.symm (hreply fault)
      · rintro ⟨_, ⟨⟩, -⟩

/-- What is computed outside of the service goes on if it ends well. -/
theorem bind_liftM_eq_ok {b : β} :
    (liftM r : Reply α) >>= f = .ok b ↔ ∃ a, r = .ok a ∧ f a = .ok b :=
  bind_liftM_eq nofun

/-- What is computed outside of the service denies nothing. -/
theorem bind_liftM_eq_denied {status : Nat} {detail : Value} :
    (liftM r : Reply α) >>= f = .error (.denied status detail) ↔
      ∃ a, r = .ok a ∧ f a = .error (.denied status detail) :=
  bind_liftM_eq nofun

theorem liftM_ne_denied {status : Nat} {detail : Value} :
    (liftM r : Reply α) ≠ .error (.denied status detail) := by
  cases r with
  | ok a => nofun
  | error fault => nofun

end InvoiceReadiness.Service.Reply
