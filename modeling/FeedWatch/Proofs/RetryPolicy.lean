import FeedWatch.Api.Post
import FeedWatch.Proofs.ErrorBody

namespace FeedWatch

namespace Api

-- What is made of the last answer.
def Answer.verdict (path : String) : Answer → Except TransportError Unit
  | .failure text => .error (.http text)
  | .response status body => if status = 200 then .ok () else .error (refusal path status body)

def Answer.isServerError : Answer → Bool
  | .failure _ => false
  | .response status _ => Api.isServerError status

-- The moves of a call that sends its request once more than so many times.
def retries (request : Request) (delay : UInt64) (n : Nat) : List Move :=
  (List.replicate n [.send request, .wait delay]).flatten ++ [.send request]

section Sending

variable {request : Request} {path : String} {delay : UInt64} {answer : Nat → Answer} {k more : Nat}

theorem sendUpTo_last (h : (answer k).isServerError = false ∨ more = 0) :
    sendUpTo request path delay answer k (more + 1) =
      ⟨[.send request], (answer k).verdict path⟩ := by
  rw [sendUpTo]
  cases hanswer : answer k with
  | failure text => rfl
  | response status body =>
    rw [hanswer] at h
    dsimp only [Answer.verdict]
    split
    · rfl
    · rw [if_neg]
      obtain herror | rfl := h
      · have hnot : Api.isServerError status = false := herror
        simp [hnot]
      · simp

theorem sendUpTo_again (herror : (answer k).isServerError = true) :
    sendUpTo request path delay answer k (more + 2) =
      ⟨.send request :: .wait delay ::
          (sendUpTo request path delay answer (k + 1) (more + 1)).moves,
        (sendUpTo request path delay answer (k + 1) (more + 1)).outcome⟩ := by
  rw [sendUpTo]
  cases hanswer : answer k with
  | failure text =>
    rw [hanswer] at herror
    exact absurd herror nofun
  | response status body =>
    rw [hanswer] at herror
    have hstatus : status ≠ 200 := by
      rintro rfl
      have hno : Api.isServerError 200 = false := by decide
      exact absurd (hno.symm.trans herror) nofun
    dsimp only
    rw [if_neg hstatus, if_pos]
    simpa [Answer.isServerError] using herror

-- By induction on the sends that are left: the request is sent again after each server error
-- but the last one that there is a send for.
theorem sendUpTo_eq (request : Request) (path : String) (delay : UInt64) (answer : Nat → Answer)
    (k more : Nat) : ∃ n ≤ more,
    sendUpTo request path delay answer k (more + 1) =
        ⟨retries request delay n, (answer (k + n)).verdict path⟩ ∧
      (∀ i < n, (answer (k + i)).isServerError = true) ∧
      ((answer (k + n)).isServerError = false ∨ n = more) := by
  induction more generalizing k with
  | zero =>
    exact ⟨0, Nat.le_refl 0, sendUpTo_last (.inr rfl), fun _ hi => absurd hi (Nat.not_lt_zero _),
      .inr rfl⟩
  | succ more ih =>
    cases herror : (answer k).isServerError with
    | false =>
      exact ⟨0, Nat.zero_le _, sendUpTo_last (.inl herror), fun _ hi => absurd hi (Nat.not_lt_zero _),
        .inl herror⟩
    | true =>
      obtain ⟨n, hn, hsent, hretried, hlast⟩ := ih (k + 1)
      have hnext : k + 1 + n = k + (n + 1) := by omega
      rw [hnext] at hsent hlast
      refine ⟨n + 1, by omega, ?_, fun i hi => ?_, hlast.imp id (congrArg (· + 1))⟩
      · rw [sendUpTo_again herror, hsent]
        rfl
      · cases i with
        | zero => exact herror
        | succ i =>
          have hearlier := hretried i (by omega)
          rwa [show k + 1 + i = k + (i + 1) by omega] at hearlier

end Sending

-- A call that sends its request once more than so many times, and stops at the last answer.
structure Exchange.FollowsPolicy (e : Exchange) (config : Config) (request : Request)
    (path : String) (answer : Nat → Answer) (n : Nat) : Prop where
  limit : n + 1 ≤ max config.retryCount.toNat 1
  moves : e.moves = retries request config.retryDelaySeconds n
  retried : ∀ k < n, ∃ status body, answer k = .response status body ∧
    500 ≤ status ∧ status ≤ 599
  accepted : e.outcome = .ok () ↔ ∃ body, answer n = .response 200 body
  lost : ∀ text, e.outcome = .error (.http text) ↔ answer n = .failure text
  refused : ∀ status body, answer n = .response status body → status ≠ 200 →
    (¬(500 ≤ status ∧ status ≤ 599) ∨ n + 1 = max config.retryCount.toNat 1) ∧
      (∀ message, HoldsMessage (body.getD "") message →
        e.outcome = .error (.api status message)) ∧
      ((∀ message, ¬HoldsMessage (body.getD "") message) →
        e.outcome = .error (.status "POST" path status))
  attempted : ∀ text, e.outcome ≠ .error (.request text)

theorem isServerError_iff {status : UInt16} :
    isServerError status = true ↔ 500 ≤ status ∧ status ≤ 599 := by
  simp [isServerError]

theorem Answer.isServerError_iff {a : Answer} : a.isServerError = true ↔
    ∃ status body, a = .response status body ∧ 500 ≤ status ∧ status ≤ 599 := by
  cases a with
  | failure text => simp [Answer.isServerError]
  | response status body => simp [Answer.isServerError, Api.isServerError_iff]

section Verdicts

variable {a : Answer} {path : String}

theorem Answer.verdict_eq_ok_iff : a.verdict path = .ok () ↔ ∃ body, a = .response 200 body := by
  cases a with
  | failure text => simp [verdict]
  | response status body =>
    rw [verdict]
    split <;> rename_i hstatus
    · simp [hstatus]
    · simp [hstatus]

theorem Answer.verdict_eq_http_iff {text : String} :
    a.verdict path = .error (.http text) ↔ a = .failure text := by
  cases a with
  | failure text => simp [verdict]
  | response status body =>
    rw [verdict]
    split
    · simp
    · rw [refusal]
      split <;> simp

theorem Answer.verdict_ne_request (text : String) : a.verdict path ≠ .error (.request text) := by
  cases a with
  | failure text => simp [verdict]
  | response status body =>
    rw [verdict]
    split
    · simp
    · rw [refusal]
      split <;> simp

theorem refusal_of_message {status : UInt16} {body : Option String} {message : String}
    (h : HoldsMessage (body.getD "") message) :
    refusal path status body = .api status message := by
  rw [refusal, errorMessage?_eq_some_iff.mpr h]

theorem refusal_of_no_message {status : UInt16} {body : Option String}
    (h : ∀ message, ¬HoldsMessage (body.getD "") message) :
    refusal path status body = .status "POST" path status := by
  cases hmessage : errorMessage? (body.getD "") with
  | none => rw [refusal, hmessage]
  | some message => exact absurd (errorMessage?_eq_some_iff.mp hmessage) (h message)

end Verdicts

-- The address and the configuration of an endpoint are those that it was made from.
theorem Endpoint.of_ofConfig {config : Config} {client : Except String Unit} {endpoint : Endpoint}
    (h : Endpoint.ofConfig config client = .ok endpoint) :
    config.baseUrl = .ok endpoint.baseUrl ∧ endpoint.config = config := by
  cases hbase : config.baseUrl with
  | error e => simp [ofConfig, hbase, bind, Except.bind] at h
  | ok baseUrl =>
    cases client with
    | error text => simp [ofConfig, hbase, bind, Except.bind] at h
    | ok =>
      simp only [ofConfig, hbase, bind, Except.bind, pure, Except.pure, Except.ok.injEq] at h
      rw [← h]
      exact ⟨rfl, rfl⟩

-- Whatever the client brings, a call sends the one request of its path at least once and at most
-- as often as the configuration allows. It sends it again, after one wait, for a server error
-- only, and its outcome is that of the last answer.
theorem Endpoint.post_followsPolicy {config : Config} {client : Except String Unit}
    {endpoint : Endpoint} (h : Endpoint.ofConfig config client = .ok endpoint) (path : String)
    (answer : Nat → Answer) :
    ∃ baseUrl n, config.baseUrl = .ok baseUrl ∧
      (endpoint.post path answer).FollowsPolicy config
        { method := "POST", url := baseUrl ++ path, accept := "application/xml",
          accessToken := config.accessToken } path answer n := by
  obtain ⟨hbase, rfl⟩ := Endpoint.of_ofConfig h
  have hlimit : endpoint.config.attempts = max endpoint.config.retryCount.toNat 1 := rfl
  obtain ⟨more, hmore⟩ : ∃ more, endpoint.config.attempts = more + 1 :=
    ⟨endpoint.config.attempts - 1, by omega⟩
  obtain ⟨n, hn, hsent, hretried, hlast⟩ := sendUpTo_eq (endpoint.request path) path
    endpoint.config.retryDelaySeconds answer 0 more
  simp only [Nat.zero_add] at hsent hretried hlast
  have houtcome : (endpoint.post path answer).outcome = (answer n).verdict path := by
    rw [Endpoint.post, hmore, hsent]
  refine ⟨endpoint.baseUrl, n, hbase, ?_⟩
  constructor
  · omega
  · rw [Endpoint.post, hmore, hsent]
    rfl
  · exact fun k hk => Answer.isServerError_iff.mp (hretried k hk)
  · rw [houtcome]
    exact Answer.verdict_eq_ok_iff
  · intro text
    rw [houtcome]
    exact Answer.verdict_eq_http_iff
  · intro status body hanswer hstatus
    have hrefused : (endpoint.post path answer).outcome = .error (refusal path status body) := by
      rw [houtcome, hanswer, Answer.verdict, if_neg hstatus]
    refine ⟨?_, fun message hmessage => ?_, fun hnone => ?_⟩
    · obtain hfinal | rfl := hlast
      · refine .inl fun herror => ?_
        have hserver := Answer.isServerError_iff.mpr ⟨status, body, hanswer, herror⟩
        exact absurd (hfinal.symm.trans hserver) nofun
      · exact .inr (hmore.symm.trans hlimit)
    · rw [hrefused, refusal_of_message hmessage]
    · rw [hrefused, refusal_of_no_message hnone]
  · intro text
    rw [houtcome]
    exact Answer.verdict_ne_request text

-- Two server errors, and then a refusal that says why.
def busyAnswers : Nat → Answer
  | 0 | 1 => .response 503 none
  | _ => .response 404 (some "<response><message> no such producer </message></response>")

theorem Endpoint.busy_is_retried : ∃ (endpoint : Endpoint) (request : Request),
    Endpoint.ofConfig { environment := .test, accessToken := "token" } (.ok ()) = .ok endpoint ∧
    (endpoint.post "/live/recovery" busyAnswers).moves =
      [.send request, .wait 10, .send request, .wait 10, .send request] ∧
    (endpoint.post "/live/recovery" busyAnswers).outcome =
      .error (.api 404 "no such producer") := by
  have hendpoint : Endpoint.ofConfig { environment := .test, accessToken := "token" } (.ok ()) =
      .ok {
        config := { environment := .test, accessToken := "token" }
        baseUrl := "https://api-mq-test.integration.oddin.gg/v1" } := rfl
  obtain ⟨baseUrl, n, -, hpolicy⟩ :=
    Endpoint.post_followsPolicy hendpoint "/live/recovery" busyAnswers
  have htwo : n = 2 := by
    have hlimit : n + 1 ≤ 3 := hpolicy.limit
    obtain hfew | hmany := Nat.lt_or_ge n 2
    · have hbusy : busyAnswers n = .response 503 none := by
        obtain rfl | rfl : n = 0 ∨ n = 1 := by omega
        · rfl
        · rfl
      obtain ⟨hfinal | hlast, -⟩ := hpolicy.refused 503 none hbusy (by decide)
      · exact absurd (by decide) hfinal
      · have hsent : n + 1 = 3 := hlast
        omega
    · omega
  subst htwo
  obtain ⟨-, hmessage, -⟩ := hpolicy.refused 404 _ rfl (by decide)
  exact ⟨_, _, hendpoint, hpolicy.moves, hmessage _ (errorMessage?_eq_some_iff.mp (by decide +kernel))⟩

end Api

end FeedWatch
