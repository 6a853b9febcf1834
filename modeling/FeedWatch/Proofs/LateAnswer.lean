import FeedWatch.Proofs.Opened
import FeedWatch.Proofs.WithoutAttempts

namespace FeedWatch

theorem Act.isAnswer_or_ne (a : Act) :
    (∃ c answer, a = .recoveryPosted c answer) ∨ ∀ c answer, a ≠ .recoveryPosted c answer := by
  cases a with
  | recoveryPosted c answer => exact .inl ⟨c, answer, rfl⟩
  | _ => exact .inr nofun

namespace World

variable {w : World} {a : Act} {c : Claim} {answer : Except TransportError Unit}

-- The recovery that an act claims, if it does.
def claimed (w : World) : Act → List Claim
  | .settle id =>
    (w.held[id]?.bind fun pause => (w.manager.finish w.moment id pause.rest).1).toList
  | _ => []

-- The same with other requests out.
def withClaims (w : World) (claims : List Claim) : World := { w with claims }

-- No other act asks which requests of recoveries are out.
theorem step_withClaims (ha : ∀ c answer, a ≠ .recoveryPosted c answer) (claims : List Claim) :
    (w.withClaims claims).step a = (w.step a).map (·.withClaims (claims ++ w.claimed a)) := by
  obtain ⟨service, now, held, eventCalls, out, eventRequests, heard⟩ := w
  cases a with
  | settle id =>
    simp only [step, claimed, withClaims, Service.settle?]
    cases held[id]? with
    | none => rfl
    | some pause =>
      cases hannounce : service.announce? pause with
      | none => simp [moment, hannounce]
      | some announced =>
        have hmanager : announced.manager = service.manager := Service.announce?_manager hannounce
        simp [moment, manager, hannounce, hmanager]
  | recoveryPosted c answer => exact absurd rfl (ha c answer)
  | start =>
    simp only [claimed, List.append_nil]
    cases hstart : service.start { now } <;> simp [step, withClaims, moment, hstart]
  | visit id v =>
    simp only [step, claimed, List.append_nil]
    rw [apply_ite (Option.map fun w : World => w.withClaims claims)]
    rfl
  | sendLate id =>
    simp only [step, claimed, withClaims, List.append_nil]
    cases held[id]? with
    | none => rfl
    | some pause => cases hsend : service.sendLate? pause <;> simp [hsend]
  | enterEvent call =>
    simp only [step, claimed, List.append_nil]
    rw [apply_ite (Option.map fun w : World => w.withClaims claims)]
    rfl
  | eventPosted r answer =>
    simp only [step, claimed, List.append_nil]
    rw [apply_ite (Option.map fun w : World => w.withClaims claims)]
    rfl
  | read count =>
    obtain ⟨manager, stream⟩ := service
    simp only [claimed, List.append_nil]
    cases stream <;> rfl
  | abandon =>
    obtain ⟨manager, stream⟩ := service
    simp only [claimed, List.append_nil]
    cases stream <;> rfl
  | _ =>
    simp only [claimed, List.append_nil]
    rfl

theorem claims_step {w' : World} (ha : ∀ c answer, a ≠ .recoveryPosted c answer)
    (h : w.step a = some w') : w'.claims = w.claims ++ w.claimed a := by
  have hsame := step_withClaims (w := w) ha w.claims
  rw [show w.withClaims w.claims = w from rfl, h] at hsame
  exact congrArg World.claims (Option.some.inj hsame)

-- The two differ in the last attempts alone.
def Alike (w v : World) : Prop := w.withoutAttempts = v.withoutAttempts

-- An answer lets go of its request. But for that only the last attempt is another.
theorem alike_of_posted {w' : World} (h : w.step (.recoveryPosted c answer) = some w') :
    w'.Alike (w.withClaims (w.claims.erase c)) := by
  cases stepped h with
  | recoveryPosted =>
    have hposted := w.manager.recoveryPosted_withoutAttempts (t := w.moment) c answer
    exact congrArg (fun m => World.withClaims { w.withoutAttempts with
      service := { w.service.withoutAttempts with manager := m } } (w.claims.erase c)) hposted

theorem exists_step_posted (hout : c ∈ w.claims) (answer : Except TransportError Unit) :
    ∃ w', w.step (.recoveryPosted c answer) = some w' := ⟨_, if_pos hout⟩

namespace Alike

variable {v w' v' : World}

theorem symm (h : w.Alike v) : v.Alike w := Eq.symm h

theorem trans {u : World} (h : w.Alike v) (h' : v.Alike u) : w.Alike u := Eq.trans h h'

theorem claims_eq (h : w.Alike v) : w.claims = v.claims := by
  change w.withoutAttempts.claims = v.withoutAttempts.claims
  rw [show w.withoutAttempts = v.withoutAttempts from h]

theorem withClaims (h : w.Alike v) (claims : List Claim) :
    (w.withClaims claims).Alike (v.withClaims claims) := by
  have hsame : w.withoutAttempts = v.withoutAttempts := h
  exact congrArg (World.withClaims · claims) hsame

theorem step (h : w.Alike v) (hstep : w.step a = some w') :
    ∃ v', v.step a = some v' ∧ w'.Alike v' := by
  obtain ⟨c, answer, rfl⟩ | ha := a.isAnswer_or_ne
  · have hout : c ∈ v.claims := h.claims_eq ▸ mem_claims_of_posted hstep
    obtain ⟨v', hstep'⟩ := exists_step_posted hout answer
    have hw := alike_of_posted hstep
    rw [h.claims_eq] at hw
    exact ⟨v', hstep', hw.trans ((h.withClaims _).trans (alike_of_posted hstep').symm)⟩
  · have hv := step_withoutAttempts (w := v) ha
    have hsame : w.withoutAttempts = v.withoutAttempts := h
    rw [← hsame, step_withoutAttempts ha, hstep] at hv
    obtain ⟨v', hv', halike⟩ := Option.map_eq_some_iff.mp hv.symm
    exact ⟨v', hv', halike.symm⟩

-- So the same acts can happen to both.
theorem foldlM {acts : List Act} (h : w.Alike v) (hacts : acts.foldlM World.step w = some w') :
    ∃ v', acts.foldlM World.step v = some v' ∧ w'.Alike v' := by
  induction acts generalizing w v with
  | nil => exact ⟨v, rfl, Option.some.inj hacts ▸ h⟩
  | cons a acts ih =>
    rw [List.foldlM_cons] at hacts
    obtain ⟨w₁, hstep, hlater⟩ := Option.bind_eq_some_iff.mp hacts
    obtain ⟨v₁, hstep', halike⟩ := h.step hstep
    obtain ⟨v', hlater', halike'⟩ := ih halike hlater
    refine ⟨v', ?_, halike'⟩
    rw [List.foldlM_cons, hstep']
    exact hlater'

theorem isSome_foldlM {acts : List Act} (h : w.Alike v) :
    (acts.foldlM World.step w).isSome ↔ (acts.foldlM World.step v).isSome := by
  rw [Option.isSome_iff_exists, Option.isSome_iff_exists]
  constructor
  · rintro ⟨w', hw'⟩
    obtain ⟨v', hv', -⟩ := h.foldlM hw'
    exact ⟨v', hv'⟩
  · rintro ⟨v', hv'⟩
    obtain ⟨w', hw', -⟩ := h.symm.foldlM hv'
    exact ⟨w', hw'⟩

end Alike

theorem claims_of_posted {w' : World} (h : w.step (.recoveryPosted c answer) = some w') :
    w'.claims = w.claims.erase c := (alike_of_posted h).claims_eq

section Square

variable {w₁ w₂ : World} {d : Claim} {answer' : Except TransportError Unit}

-- Two requests are answered in either order.
theorem answers_commute (hanswer : w.step (.recoveryPosted c answer) = some w₁)
    (hact : w.step (.recoveryPosted d answer') = some w₂) (hc : c ∈ w.claims.erase d)
    (hd : d ∈ w.claims.erase c) :
    ∃ w₁₂ w₂₁, w₁.step (.recoveryPosted d answer') = some w₁₂ ∧
      w₂.step (.recoveryPosted c answer) = some w₂₁ ∧ w₁₂.Alike w₂₁ := by
  obtain ⟨w₁₂, h₁₂⟩ := exists_step_posted (claims_of_posted hanswer ▸ hd) answer'
  obtain ⟨w₂₁, h₂₁⟩ := exists_step_posted (claims_of_posted hact ▸ hc) answer
  refine ⟨w₁₂, w₂₁, h₁₂, h₂₁, ?_⟩
  have hw₁₂ := (alike_of_posted h₁₂).trans ((alike_of_posted hanswer).withClaims _)
  have hw₂₁ := (alike_of_posted h₂₁).trans ((alike_of_posted hact).withClaims _)
  rw [claims_of_posted hanswer] at hw₁₂
  rw [claims_of_posted hact, List.erase_comm] at hw₂₁
  exact hw₁₂.trans hw₂₁.symm

-- An act that can happen while a request is out can happen after its answer as well, and
-- the answer can still come after the act. Either way it comes to the same.
theorem answer_square (hanswer : w.step (.recoveryPosted c answer) = some w₁)
    (hact : w.step a = some w₂)
    (hstill : ∀ answer', a = .recoveryPosted c answer' → c ∈ w.claims.erase c) :
    ∃ w₁₂ w₂₁, w₁.step a = some w₁₂ ∧ w₂.step (.recoveryPosted c answer) = some w₂₁ ∧
      w₁₂.Alike w₂₁ := by
  have hout := mem_claims_of_posted hanswer
  obtain ⟨d, answer', rfl⟩ | ha := a.isAnswer_or_ne
  · by_cases hcd : d = c
    · subst hcd
      exact answers_commute hanswer hact (hstill answer' rfl) (hstill answer' rfl)
    · refine answers_commute hanswer hact ?_ ?_
      · exact (List.mem_erase_of_ne fun h => hcd h.symm).mpr hout
      · exact (List.mem_erase_of_ne hcd).mpr (mem_claims_of_posted hact)
  · have hclaims := claims_step ha hact
    have hframe := step_withClaims (w := w) ha (w.claims.erase c)
    rw [hact, Option.map_some] at hframe
    obtain ⟨w₁₂, h₁₂, halike⟩ := (alike_of_posted hanswer).symm.step hframe
    obtain ⟨w₂₁, h₂₁⟩ := exists_step_posted (hclaims ▸ List.mem_append_left _ hout) answer
    have hw₂₁ := alike_of_posted h₂₁
    rw [hclaims, List.erase_append_left _ hout] at hw₂₁
    exact ⟨w₁₂, w₂₁, h₁₂, h₂₁, halike.symm.trans hw₂₁.symm⟩

-- The act can happen while the request is out if it can after the answer.
theorem exists_step_of_answered (hanswer : w.step (.recoveryPosted c answer) = some w₁)
    {w₁₂ : World} (hact : w₁.step a = some w₁₂) : ∃ w₂, w.step a = some w₂ := by
  obtain ⟨d, answer', rfl⟩ | ha := a.isAnswer_or_ne
  · have hd := mem_claims_of_posted hact
    rw [claims_of_posted hanswer] at hd
    exact exists_step_posted (List.mem_of_mem_erase hd) answer'
  · obtain ⟨v, hv, -⟩ := (alike_of_posted hanswer).step hact
    rw [step_withClaims ha] at hv
    obtain ⟨w₂, hw₂, -⟩ := Option.map_eq_some_iff.mp hv
    exact ⟨w₂, hw₂⟩

end Square

end World

-- The act answers the request.
def Act.answers (c : Claim) : Act → Bool
  | .recoveryPosted d _ => d = c
  | _ => false

namespace World

variable {w w₁ w₂ : World} {a : Act} {acts : List Act} {c : Claim}
  {answer : Except TransportError Unit}

-- As often as it is out before, less its answers, a request is out afterwards.
theorem count_claims_step (h : w.step a = some w₂) :
    w.claims.count c ≤ w₂.claims.count c + if a.answers c then 1 else 0 := by
  obtain ⟨d, answer', rfl⟩ | ha := a.isAnswer_or_ne
  · rw [claims_of_posted h, List.count_erase]
    by_cases hcd : d = c <;> simp [Act.answers, hcd]
    omega
  · rw [claims_step ha h, List.count_append]
    omega

-- The answer to a request may come before or after any other acts. They can happen in
-- either case, and come to the same but for the last attempts: the same states of the
-- producers, the same ids and requests that go out, and the same that is said.
theorem answer_commutes (hanswer : w.step (.recoveryPosted c answer) = some w₁)
    (hstill : acts.countP (Act.answers c) < w.claims.count c) :
    ((acts.foldlM World.step w).isSome ↔ (acts.foldlM World.step w₁).isSome) ∧
      ∀ w₂, acts.foldlM World.step w = some w₂ →
        ∃ w₁₂ w₂₁, acts.foldlM World.step w₁ = some w₁₂ ∧
          w₂.step (.recoveryPosted c answer) = some w₂₁ ∧
          w₁₂.withoutAttempts = w₂₁.withoutAttempts := by
  induction acts generalizing w w₁ with
  | nil =>
    refine ⟨Iff.rfl, fun w₂ hw₂ => ?_⟩
    obtain rfl := Option.some.inj hw₂
    exact ⟨w₁, w₁, rfl, hanswer, rfl⟩
  | cons a acts ih =>
    rw [List.foldlM_cons, List.foldlM_cons]
    cases hstep : w.step a with
    | none =>
      cases hstep₁ : w₁.step a with
      | none => exact ⟨Iff.rfl, nofun⟩
      | some v₁ =>
        obtain ⟨v, hv⟩ := exists_step_of_answered hanswer hstep₁
        exact absurd (hstep.symm.trans hv) nofun
    | some v =>
      rw [List.countP_cons] at hstill
      have hmore := count_claims_step (c := c) hstep
      have htwice (answer' : Except TransportError Unit) (ha : a = .recoveryPosted c answer') :
          c ∈ w.claims.erase c := by
        have hanswers : a.answers c = true := by simp [ha, Act.answers]
        rw [hanswers, if_pos rfl] at hstill
        rw [← List.count_pos_iff, List.count_erase_self]
        omega
      obtain ⟨v₁, v', hv₁, hv', halike⟩ := answer_square hanswer hstep htwice
      obtain ⟨hpossible, hsame⟩ := ih hv' (by omega)
      rw [hv₁]
      refine ⟨hpossible.trans halike.symm.isSome_foldlM, fun w₂ hw₂ => ?_⟩
      obtain ⟨u, w₂₁, hu, hanswered, hlast⟩ := hsame w₂ hw₂
      obtain ⟨w₁₂, hw₁₂, halike'⟩ := halike.symm.foldlM hu
      exact ⟨w₁₂, w₂₁, hw₁₂, hanswered, halike'.symm.trans hlast⟩

-- A recovery is claimed, and its request hangs.
def hungLiveOdds : World :=
  (openedLiveOdds.play []
    [.visit ⟨1⟩ (.alive (.uniform 600000) false .systemAliveOnly), .settle ⟨1⟩]).2

-- Its replay ends before the answer to the request, and completes it all the same.
theorem end_before_answer : ∃ w₁ w₂ w₁₂ w₂₁,
    hungLiveOdds.step (.recoveryPosted ⟨⟨1⟩, "LO", ⟨1⟩, 0, 600000⟩ (.ok ())) = some w₁ ∧
    [.visit ⟨1⟩ (.replayEnded ⟨1⟩ .all), .settle ⟨1⟩].foldlM World.step hungLiveOdds = some w₂ ∧
    [.visit ⟨1⟩ (.replayEnded ⟨1⟩ .all), .settle ⟨1⟩].foldlM World.step w₁ = some w₁₂ ∧
    w₂.step (.recoveryPosted ⟨⟨1⟩, "LO", ⟨1⟩, 0, 600000⟩ (.ok ())) = some w₂₁ ∧
    w₁₂.withoutAttempts = w₂₁.withoutAttempts ∧
    (w₂.tracked ⟨1⟩).tracker.state = .completed := by
  have hanswer : hungLiveOdds.step (.recoveryPosted ⟨⟨1⟩, "LO", ⟨1⟩, 0, 600000⟩ (.ok ())) =
      some _ := rfl
  have hacts : [.visit ⟨1⟩ (.replayEnded ⟨1⟩ .all), .settle ⟨1⟩].foldlM World.step hungLiveOdds =
      some _ := rfl
  obtain ⟨w₁₂, w₂₁, hw₁₂, hw₂₁, heq⟩ :=
    (answer_commutes hanswer (by decide +kernel)).2 _ hacts
  exact ⟨_, _, w₁₂, w₂₁, hanswer, hacts, hw₁₂, hw₂₁, heq, by decide +kernel⟩

end World

end FeedWatch
