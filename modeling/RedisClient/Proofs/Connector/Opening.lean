import RedisClient.Proofs.Connection.Hearing
import RedisClient.Proofs.Connector.Connected

/-!
# New connections

A connection is opened only when the server has replied to its whole set-up. So nothing is on its
way on a new connection, and it was set up completely, perhaps with the first part sent twice
(`Factory.new_clean`, `Factory.new_complete`).
-/

namespace RedisClient

namespace SetupPlan

variable {p : SetupPlan} {sent : List Greeting} {c : Connection}

/-- All that the plan asks for was sent, in order; the first part possibly twice. -/
def Complete (p : SetupPlan) (sent : List Greeting) : Prop :=
  sent = p.firstPart ++ p.secondPart ∨ sent = p.firstPart ++ p.firstPart ++ p.secondPart

theorem runFirstPart_ok {respond : (run : Nat) → SetupCommand → Response}
    (h : p.runFirstPart respond = .ok sent) :
    sent = p.firstPart ∨ sent = p.firstPart ++ p.firstPart := by
  unfold runFirstPart at h
  split at h
  · cases h
  · cases h
    exact .inl rfl
  · cases again : p.runFirst (respond 1) with
    | error failure => simp [again, Except.map] at h
    | ok b =>
      simp only [again, Except.map, Except.ok.injEq] at h
      exact .inr h.symm

/-- The second part leaves nothing behind but its mark on the set-up. -/
theorem runSecondPart_clean {response : Response} (h : p.runSecondPart response sent = .ok c) :
    c.Clean ∧ c.setup = sent ++ p.secondPart := by
  have bare : ({ setup := sent, readTimeout := p.timeout } : Connection).Clean := ⟨rfl, rfl, rfl⟩
  unfold runSecondPart at h
  split at h
  · rename_i unnamed
    cases h
    exact ⟨bare, by simp [secondPart, unnamed]⟩
  · dsimp only at h
    split at h
    · cases h
    · rename_i r ok
      obtain ⟨heard, reply⟩ := Connection.hears_of_ok bare.settled ok
      rw [bare.exchange_reply (bare.hears_iff.1 heard) reply] at h
      split at h <;> cases h
      exact ⟨⟨rfl, rfl, rfl⟩, rfl⟩

end SetupPlan

namespace Factory

variable {f : Factory} {net : Network} {c : Connection}

theorem new_clean (h : Pool.New (f.opener net) c) : c.Clean := by
  obtain ⟨n, opened⟩ := h
  obtain ⟨sent, -, second⟩ := opener_ok opened
  exact (SetupPlan.runSecondPart_clean second).1

theorem new_complete (h : Pool.New (f.opener net) c) : f.plan.Complete c.setup := by
  obtain ⟨n, opened⟩ := h
  obtain ⟨sent, first, second⟩ := opener_ok opened
  rw [(SetupPlan.runSecondPart_clean second).2]
  rcases SetupPlan.runFirstPart_ok first with rfl | rfl
  · exact .inl rfl
  · exact .inr rfl

end Factory

end RedisClient
