import ClusterConsole.Proofs.Http.Exchange
import ClusterConsole.Registry.Client

/-! # What answers of the registry come to

The body of an answer matters only when its status is one of success. Who asks for one node takes the status 404 to say
that there is none; who asks for the list takes it as a failure like any other status. -/

namespace ClusterConsole.RegistryClient

/-- The status says that the request was served. -/
def Successful (r : Http.Response) : Prop :=
  200 ≤ r.status ∧ r.status < 300

/-- The request was served, and the body has come to its end. -/
structure Served (r : Http.Response) : Prop where
  successful : Successful r
  complete : r.complete = true

theorem isSuccess_iff (r : Http.Response) : Http.isSuccess r.status = true ↔ Successful r := by
  simp [Http.isSuccess, Successful]

theorem Successful.ne_unknown {r : Http.Response} (h : Successful r) : r.status ≠ 404 := by
  unfold Successful at h
  omega

section
variable {α : Type} {decode : Json.Input → Except Json.Refusal α} {r : Http.Response}

/-! ### One answer -/

variable (decode r) in
/-- What an answer says, by its status and its body. -/
inductive Says : Except FetchError (Option α) → Prop
  | unknown (h : r.status = 404) : Says (.ok none)
  | refused (hknown : r.status ≠ 404) (h : ¬Successful r) : Says (.error (.status r.status))
  | broken (h : Successful r) (hbroken : r.complete = false) : Says (.error (.transport .readingBody))
  | malformed {refusal : Json.Refusal} (h : Served r) (hbody : decode r.body = .error refusal) :
      Says (.error (.decode refusal))
  | found {x : α} (h : Served r) (hbody : decode r.body = .ok x) : Says (.ok (some x))

theorem says_interpret : Says decode r (interpret decode r) := by
  unfold interpret
  split
  · exact .unknown ‹_›
  split
  · rename_i hknown hrefused
    exact .refused hknown fun h => by simp [(isSuccess_iff r).mpr h] at hrefused
  split
  · rename_i hsuccess hbroken
    exact .broken ((isSuccess_iff r).mp (by simpa using hsuccess)) (by simpa using hbroken)
  · rename_i hsuccess hcomplete
    have hserved : Served r := ⟨(isSuccess_iff r).mp (by simpa using hsuccess), by simpa using hcomplete⟩
    split
    · exact .found hserved ‹_›
    · exact .malformed hserved ‹_›

theorem interpret_eq_iff {answer : Except FetchError (Option α)} :
    interpret decode r = answer ↔ Says decode r answer := by
  constructor
  · rintro rfl
    exact says_interpret
  · intro h
    cases h with
    | unknown h => rw [interpret, if_pos h]
    | refused hknown h =>
      rw [← isSuccess_iff] at h
      rw [interpret, if_neg hknown, if_pos (by simpa using h)]
    | broken h hbroken =>
      rw [interpret, if_neg h.ne_unknown, if_neg (by simp [(isSuccess_iff r).mpr h]), if_pos (by simp [hbroken])]
    | malformed h hbody =>
      rw [interpret, if_neg h.successful.ne_unknown, if_neg (by simp [(isSuccess_iff r).mpr h.successful]),
        if_neg (by simp [h.complete]), hbody]
    | found h hbody =>
      rw [interpret, if_neg h.successful.ne_unknown, if_neg (by simp [(isSuccess_iff r).mpr h.successful]),
        if_neg (by simp [h.complete]), hbody]

/-! ### One node -/

theorem interpret_eq_none_iff : interpret decode r = .ok none ↔ r.status = 404 :=
  interpret_eq_iff.trans ⟨fun | .unknown h => h, .unknown⟩

theorem interpret_eq_some_iff {x : α} : interpret decode r = .ok (some x) ↔ Served r ∧ decode r.body = .ok x :=
  interpret_eq_iff.trans ⟨fun | .found h hbody => ⟨h, hbody⟩, fun ⟨h, hbody⟩ => .found h hbody⟩

theorem interpret_eq_decode_iff {refusal : Json.Refusal} :
    interpret decode r = .error (.decode refusal) ↔ Served r ∧ decode r.body = .error refusal :=
  interpret_eq_iff.trans ⟨fun | .malformed h hbody => ⟨h, hbody⟩, fun ⟨h, hbody⟩ => .malformed h hbody⟩

theorem interpret_eq_status_iff {code : Nat} :
    interpret decode r = .error (.status code) ↔ code = r.status ∧ r.status ≠ 404 ∧ ¬Successful r :=
  interpret_eq_iff.trans
    ⟨fun | .refused hknown h => ⟨rfl, hknown, h⟩, fun ⟨hcode, hknown, h⟩ => hcode ▸ .refused hknown h⟩

theorem interpret_eq_transport_iff {fault : Http.TransportFault} : interpret decode r = .error (.transport fault) ↔
    fault = .readingBody ∧ Successful r ∧ r.complete = false :=
  interpret_eq_iff.trans
    ⟨fun | .broken h hbroken => ⟨rfl, h, hbroken⟩, fun ⟨hfault, h, hbroken⟩ => hfault ▸ .broken h hbroken⟩

/-! ### The list -/

theorem listed_eq_ok_iff {answer : Except FetchError (Option α)} {x : α} :
    listed answer = .ok x ↔ answer = .ok (some x) := by
  unfold listed
  split <;> simp

theorem listed_eq_error_iff {answer : Except FetchError (Option α)} {error : FetchError} :
    listed answer = .error error ↔ answer = .error error ∨ answer = .ok none ∧ error = .status 404 := by
  unfold listed
  split
  · simp
  · simp
  · simp [eq_comm]

/-- To the list 404 is a status like any other. -/
theorem listed_interpret_eq_status_iff {code : Nat} :
    listed (interpret decode r) = .error (.status code) ↔ code = r.status ∧ ¬Successful r := by
  rw [listed_eq_error_iff, interpret_eq_status_iff, interpret_eq_none_iff, FetchError.status.injEq]
  constructor
  · rintro (⟨hcode, -, h⟩ | ⟨hunknown, hcode⟩)
    · exact ⟨hcode, h⟩
    · exact ⟨hcode.trans hunknown.symm, fun h => h.ne_unknown hunknown⟩
  · rintro ⟨hcode, h⟩
    by_cases hunknown : r.status = 404
    · exact Or.inr ⟨hunknown, hcode.trans hunknown⟩
    · exact Or.inl ⟨hcode, hunknown, h⟩

end

/-! ### Over a network -/

section
variable {α : Type} (answer : List Http.Request → Http.Exchange) (sent : List Http.Request)

theorem fetch_recording (decode : Json.Input → Except Json.Refusal α) (url : Url) :
    (fetch (.recording answer) decode url sent).1 =
      match (Http.get (.recording answer) url sent).1 with
      | .error fault => .error (.transport fault)
      | .ok r => interpret decode r := by
  unfold fetch
  simp only [bind, StateT.bind]
  split
  rename_i result requests hget
  rw [hget]
  cases result <;> rfl

theorem nodes_recording (c : RegistryClient) : (c.nodes (.recording answer) sent).1 =
    listed (match (Http.get (.recording answer) (c.endpoint Route.cluster) sent).1 with
      | .error fault => .error (.transport fault)
      | .ok r => interpret NodeRecord.decodeList r) := by
  rw [← fetch_recording]
  rfl

end

/-- What asking for the list comes to when `r` is the final answer. -/
structure ListOutcome (r : Http.Response) (outcome : Except FetchError (List NodeRecord)) : Prop where
  ok_iff : ∀ nodes, outcome = .ok nodes ↔ Served r ∧ NodeRecord.decodeList r.body = .ok nodes
  decode_iff : ∀ refusal, outcome = .error (.decode refusal) ↔ Served r ∧ NodeRecord.decodeList r.body = .error refusal
  status_iff : ∀ code, outcome = .error (.status code) ↔ code = r.status ∧ ¬Successful r
  transport_iff : ∀ fault, outcome = .error (.transport fault) ↔
    fault = .readingBody ∧ Successful r ∧ r.complete = false

/-- What asking for one node comes to when `r` is the final answer. -/
structure NodeOutcome (r : Http.Response) (outcome : Except FetchError (Option NodeRecord)) : Prop where
  none_iff : outcome = .ok none ↔ r.status = 404
  some_iff : ∀ node, outcome = .ok (some node) ↔ Served r ∧ NodeRecord.decode r.body = .ok node
  decode_iff : ∀ refusal, outcome = .error (.decode refusal) ↔ Served r ∧ NodeRecord.decode r.body = .error refusal
  status_iff : ∀ code, outcome = .error (.status code) ↔ code = r.status ∧ r.status ≠ 404 ∧ ¬Successful r
  transport_iff : ∀ fault, outcome = .error (.transport fault) ↔
    fault = .readingBody ∧ Successful r ∧ r.complete = false

theorem listOutcome_listed (r : Http.Response) : ListOutcome r (listed (interpret NodeRecord.decodeList r)) where
  ok_iff _ := listed_eq_ok_iff.trans interpret_eq_some_iff
  decode_iff _ := by rw [listed_eq_error_iff, interpret_eq_decode_iff]; simp
  status_iff _ := listed_interpret_eq_status_iff
  transport_iff _ := by rw [listed_eq_error_iff, interpret_eq_transport_iff]; simp

theorem nodeOutcome_interpret (r : Http.Response) : NodeOutcome r (interpret NodeRecord.decode r) where
  none_iff := interpret_eq_none_iff
  some_iff _ := interpret_eq_some_iff
  decode_iff _ := interpret_eq_decode_iff
  status_iff _ := interpret_eq_status_iff
  transport_iff _ := interpret_eq_transport_iff

section
variable {c : RegistryClient} {answer : List Http.Request → Http.Exchange} {sent : List Http.Request}
  {r : Http.Response}

theorem listOutcome_nodes (h : (Http.get (.recording answer) (c.endpoint Route.cluster) sent).1 = .ok r) :
    ListOutcome r (c.nodes (.recording answer) sent).1 := by
  rw [nodes_recording, h]
  exact listOutcome_listed r

theorem nodeOutcome_node {id : String}
    (h : (Http.get (.recording answer) (c.endpoint Route.node (some id)) sent).1 = .ok r) :
    NodeOutcome r (c.node (.recording answer) id sent).1 := by
  rw [node, fetch_recording, h]
  exact nodeOutcome_interpret r

end
end ClusterConsole.RegistryClient
