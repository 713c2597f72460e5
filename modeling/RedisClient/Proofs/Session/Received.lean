import RedisClient.Proofs.Command.Distinct
import RedisClient.Proofs.Session.Validation

/-!
# What a received command says

The server receives words, and knows nothing of the calls behind them. The words say all there is to
know: two calls for which it receives the same words are the same method with the same arguments
(`received_alike`), whatever else was done in the sessions, and whatever the order in which the
entries of a dictionary are sent.
-/

namespace RedisClient.Session

/-- Of the calls that take no number of floating point, no two are sent as the same words. In
particular, if the server receives the same command because of two calls, in any states of any two
sessions, then both calls are of the same method and have the same arguments. -/
theorem received_alike {call : Call} (exact : call.method.Exact) (call' : Call) :
    (∀ words, call.Sends words → call'.Sends words → call = call') ∧
    ∀ (s s' : Session) (slot slot' : Option Nat) (response response' : Response)
      (words : List String), (s.act (.call slot call response)).1.sent = [words] →
        (s'.act (.call slot' call' response')).1.sent = [words] →
        call.Sends words ∧ call'.Sends words ∧ call = call' := by
  have unique (words : List String) (sent : call.Sends words) (sent' : call'.Sends words) :
      call = call' := sent.unique sent' exact
  refine ⟨unique, fun s s' slot slot' response response' words received received' => ?_⟩
  have sent {s : Session} {slot : Option Nat} {c : Call} {response : Response}
      (received : (s.act (.call slot c response)).1.sent = [words]) : c.Sends words := by
    rcases call_received s slot c response with nothing | ⟨-, command⟩
    · rw [received] at nothing
      cases nothing
    · obtain rfl : c.command = words := List.singleton_inj.1 (command.symm.trans received)
      exact c.sends_command
  exact ⟨sent received, sent received', unique words (sent received) (sent received')⟩

/-- The entries of a dictionary are recognized in another order, and the number of members to take is
not mistaken for anything else. -/
theorem received_alike_reordered :
    let set : Call := ⟨.mset, .ofList [("a", "1"), ("b", "2")], ()⟩
    let take : Call := ⟨.spopCount, "a", 2, ()⟩
    set.Sends ["MSET", "b", "2", "a", "1"] ∧
    (∀ call, call.Sends ["MSET", "b", "2", "a", "1"] → set = call) ∧
    ∀ call, call.Sends ["SPOP", "a", "2"] → take = call := by
  intro set take
  have reordered : set.Sends ["MSET", "b", "2", "a", "1"] :=
    ⟨_, rfl, _, _, rfl, ⟨[("b", "2"), ("a", "1")], .swap _ _ _, rfl⟩, rfl⟩
  have sent : take.Sends ["SPOP", "a", "2"] := take.sends_command
  exact ⟨reordered, fun call => (received_alike (by decide) call).1 _ reordered,
    fun call => (received_alike (by decide) call).1 _ sent⟩

end RedisClient.Session
