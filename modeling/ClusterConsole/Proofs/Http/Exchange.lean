import ClusterConsole.Http.Exchange

/-! # The requests that are made

A network that keeps the requests shows what a client asks for. Whatever it answers, and wherever that leads, the
first request is for the address that the client set out to get. -/

namespace ClusterConsole.Http

/-- A network whose answers may depend on all requests so far, which it keeps. -/
def Network.recording (answer : List Request → Exchange) : Network (StateM (List Request)) where
  exchange request := fun requests => (answer (requests ++ [request]), requests ++ [request])

theorem send_requests (answer : List Request → Exchange) (left : Nat) (request : Request) (before : List Request) :
    ∃ later, (send (.recording answer) left request before).2 = before ++ request :: later := by
  induction left using Nat.strongRecOn generalizing request before with
  | ind left ih =>
    unfold send
    simp only [bind, StateT.bind, Network.recording]
    cases answer (before ++ [request]) with
    | failed => exact ⟨[], rfl⟩
    | answered response =>
      by_cases hredirect : isRedirect response.status = true
      · simp only [hredirect, ↓reduceIte]
        generalize Option.map _ response.location = target
        rcases target with - | fault | url | scheme
        · exact ⟨[], rfl⟩
        · exact ⟨[], rfl⟩
        · cases left with
          | zero => exact ⟨[], rfl⟩
          | succ left =>
            obtain ⟨later, hlater⟩ := ih left (Nat.lt_succ_self left) (request.redirected url) (before ++ [request])
            exact ⟨request.redirected url :: later, hlater.trans (List.append_assoc _ _ _)⟩
        · exact ⟨[], rfl⟩
      · simp only [hredirect]
        exact ⟨[], rfl⟩

/-- An answer that does not send the client elsewhere is final. -/
theorem get_of_not_redirect {answer : List Request → Exchange} {url : Url} {sent : List Request} {r : Response}
    (h : answer (sent ++ [.ofUrl url]) = .answered r) (hredirect : isRedirect r.status = false) :
    (get (.recording answer) url sent).1 = .ok r := by
  unfold get send
  simp only [bind, StateT.bind, Network.recording, h, hredirect]
  rfl

end ClusterConsole.Http
