import FeedWatch.Proofs.RecoveryStart

namespace FeedWatch

-- The last recovery of the producer that was claimed.
def IsLastClaim (id : ProducerId) (c : Claim) : List Step → Prop :=
  Since (fun s => ∀ c', ¬s.IsClaim id c') (·.IsClaim id c)

-- No request of the producer was out when its last recovery was claimed.
def IsLoneClaim (id : ProducerId) (c : Claim) : List Step → Prop :=
  Since (fun s => ∀ c', ¬s.IsClaim id c')
    (fun s => s.IsClaim id c ∧ ∀ c' ∈ s.before.claims, c'.producer ≠ id)

-- How the request was answered.
def IsAnswer (c : Claim) (answer : Except TransportError Unit) : List Step → Prop :=
  Since (fun s => ∀ answer', s.act ≠ .recoveryPosted c answer') (·.act = .recoveryPosted c answer)

-- No request of the producer was answered since this one was.
def IsLastAnswer (c : Claim) (answer : Except TransportError Unit) : List Step → Prop :=
  Since (fun s => ∀ c' answer', s.act = .recoveryPosted c' answer' → c'.producer ≠ c.producer)
    (·.act = .recoveryPosted c answer)

variable {c c' : Claim} {answer answer' : Except TransportError Unit} {past : List Step}

theorem IsLastAnswer.isAnswer (h : IsLastAnswer c answer past) : IsAnswer c answer past :=
  h.imp (fun _ hs answer' hact => hs c answer' hact rfl) fun _ hs => hs

theorem IsAnswer.unique (h : IsAnswer c answer past) (h' : IsAnswer c answer' past) :
    answer = answer' := by
  induction past with
  | nil => exact h.elim
  | cons s past ih =>
    obtain hact | ⟨hs, hpast⟩ := h
    · obtain hact' | ⟨hs', -⟩ := h'
      · exact (Act.recoveryPosted.inj (hact.symm.trans hact')).2
      · exact absurd hact (hs' answer)
    · obtain hact' | ⟨-, hpast'⟩ := h'
      · exact absurd hact' (hs answer')
      · exact ih hpast hpast'

-- A request of a producer that was answered leaves one that was answered last.
theorem IsAnswer.exists_isLastAnswer (h : IsAnswer c answer past) :
    ∃ c' answer', c'.producer = c.producer ∧ IsLastAnswer c' answer' past := by
  induction past with
  | nil => exact h.elim
  | cons s past ih =>
    by_cases hs : ∃ c' answer', s.act = .recoveryPosted c' answer' ∧ c'.producer = c.producer
    · obtain ⟨c', answer', hact, hproducer⟩ := hs
      exact ⟨c', answer', hproducer, .inl hact⟩
    · obtain hact | ⟨-, hpast⟩ := h
      · exact absurd ⟨c, answer, hact, rfl⟩ hs
      · obtain ⟨c', answer', hproducer, hlast⟩ := ih hpast
        refine ⟨c', answer', hproducer, .inr ⟨?_, hlast⟩⟩
        intro d answer'' hact hd
        exact hs ⟨d, answer'', hact, hd.trans hproducer⟩

-- Once a request was answered, it stays so.
theorem exists_isAnswer_cons {s : Step} (h : ∃ answer, IsAnswer c answer past) :
    ∃ answer, IsAnswer c answer (s :: past) := by
  obtain ⟨answer, h⟩ := h
  by_cases hs : ∃ answer', s.act = .recoveryPosted c answer'
  · obtain ⟨answer', hact⟩ := hs
    exact ⟨answer', .inl hact⟩
  · exact ⟨answer, .inr ⟨fun answer' hact => hs ⟨answer', hact⟩, h⟩⟩

-- What is kept of an attempt tells the claims of one producer apart.
theorem Claim.eq_of_attempt {config : Config} (hproducer : c.producer = c'.producer)
    (hname : c.name = c'.name) (h : c.attempt config answer = c'.attempt config answer') :
    c = c' := by
  obtain ⟨producer, name, request, after, requestedAt⟩ := c
  obtain ⟨producer', name', request', after', requestedAt'⟩ := c'
  obtain rfl : producer = producer' := hproducer
  obtain rfl : name = name' := hname
  obtain rfl : request = request' := congrArg Attempt.request h
  obtain rfl : after = after' := congrArg Attempt.after h
  obtain rfl : requestedAt = requestedAt' := congrArg Attempt.requestedAt h
  rfl

section Names

variable {sc : Scene} {x y : Tracked} {ids ids' : RequestIds}

theorem Tracked.name_of_entry {e : Entry} {p : Producer} (hp : x.producer Outage.none = .ok p)
    (he : x.listing.entry = some e) : p.name = e.descriptor.name := by
  rw [Tracked.producer_none, Listing.producer, he] at hp
  simp only [Entry.producer] at hp
  split at hp
  · cases hp
  · rw [← Except.ok.inj hp]

theorem Claimed.name_eq {anchor : Instant} {alive : Option Stamp}
    (h : Claimed sc x ids anchor alive (some c) y ids') :
    ∃ p, x.producer Outage.none = .ok p ∧ c.name = p.name := by
  cases h with
  | made _ hp => exact ⟨_, hp, rfl⟩

theorem Finished.name_eq {rest : Rest} (h : Finished sc x ids rest (some c) y ids') :
    ∃ p, x.producer Outage.none = .ok p ∧ c.name = p.name := by
  cases h with
  | claim hclaim => exact hclaim.name_eq
  | missing _ hclaim => exact hclaim.name_eq
  | stuck _ hclaim => exact hclaim.name_eq

end Names

-- A request that is out is not lost.
theorem World.out_or_posted {w w' : World} {a : Act} (h : w.step a = some w') (hout : c ∈ w.claims) :
    c ∈ w'.claims ∨ ∃ answer, a = .recoveryPosted c answer := by
  cases stepped h with
  | settled => exact .inl (List.mem_append_left _ hout)
  | @recoveryPosted d answer =>
    by_cases hd : d = c
    · exact .inr ⟨answer, congrArg (Act.recoveryPosted · answer) hd⟩
    · exact .inl ((List.mem_erase_of_ne fun h => hd h.symm).mpr hout)
  | _ => exact .inl hout

namespace Run

variable {w₀ w : World} {id : ProducerId}

-- Every claim has the name by which the feed described its producer.
theorem name_of_isClaim {s : Step} (h : Run w₀ past s.before) (hstart : w₀.IsFresh)
    (hstep : s.before.step s.act = some s.after) (hclaim : s.IsClaim id c) :
    (w₀.tracked id).listing.entry.map (·.descriptor.name) = some c.name := by
  have hsame := h.sameDescription hstart.isValid id
  obtain ⟨e, he⟩ := hsame.exists_entry.mp (h.exists_entry_of_isClaim hstart hstep hclaim)
  have hdescriptor := congrArg (Option.map Descriptor.name) hsame.descriptor
  rw [Option.map_map, Option.map_map, he] at hdescriptor
  refine hdescriptor.symm.trans (congrArg some ?_)
  obtain ⟨hact, -, hclaims⟩ := hclaim
  rw [hact] at hstep
  cases h.moved hstart.isValid hstep id with
  | touched _ hsettle => exact absurd rfl hsettle
  | settled _ _ hclaims' hfinish =>
    have hmade := List.append_cancel_left (hclaims'.symm.trans hclaims)
    obtain rfl := Option.toList_eq_singleton_iff.mp hmade
    obtain ⟨p, hp, hname⟩ := hfinish.name_eq
    exact (Tracked.name_of_entry hp he).symm.trans hname.symm

-- So does every request that was answered.
theorem name_of_isLastAnswer (h : Run w₀ past w) (hstart : w₀.IsFresh)
    (hanswer : IsLastAnswer c answer past) :
    (w₀.tracked c.producer).listing.entry.map (·.descriptor.name) = some c.name := by
  obtain ⟨later, s, earlier, rfl, hact, -⟩ := hanswer.exists_step
  obtain ⟨hrun, hstep, -⟩ := h.split
  rw [hact] at hstep
  obtain ⟨t, ht, hclaim⟩ := hrun.isClaim_of_mem hstart (World.mem_claims_of_posted hstep)
  obtain ⟨between, before, rfl⟩ := List.append_of_mem ht
  obtain ⟨hbefore, hcut, -⟩ := hrun.split
  exact hbefore.name_of_isClaim hstart hcut hclaim

-- The directory keeps the answer that came last.
theorem lastAttempt_of_isLastAnswer (h : Run w₀ past w) (hstart : w₀.IsFresh)
    (hanswer : IsLastAnswer c answer past) :
    (w.tracked c.producer).lastAttempt = some (c.attempt w.manager.config answer) := by
  obtain ⟨later, s, earlier, rfl, hact, hlater⟩ := hanswer.exists_step
  obtain ⟨hrun, hstep, hrest⟩ := h.split
  have hvalid : s.after.IsValid := (hrun.step hstep).isValid hstart.isValid
  have hconfig : w.manager.config = s.before.manager.config := h.config.trans hrun.config.symm
  rw [hact] at hstep
  rw [hrest.lastAttempt_eq hvalid hlater, hrun.lastAttempt_of_posted hstart hstep, hconfig]

-- The request of the last claim is out until it is answered.
theorem out_or_answered (h : Run w₀ past w) (hlast : IsLastClaim id c past) :
    c ∈ w.claims ∨ ∃ answer, IsAnswer c answer past := by
  induction h with
  | start => exact hlast.elim
  | @step past w w' a hrun hstep ih =>
    obtain ⟨-, -, hclaims⟩ | ⟨-, hpast⟩ := hlast
    · have hclaims : w'.claims = w.claims ++ [c] := hclaims
      exact .inl (hclaims ▸ List.mem_append_right _ List.mem_cons_self)
    · obtain hout | hanswered := ih hpast
      · obtain hout | ⟨answer, hact⟩ := World.out_or_posted hstep hout
        · exact .inl hout
        · exact .inr ⟨answer, .inl hact⟩
      · exact .inr (exists_isAnswer_cons hanswered)

-- A lone claim is all that can be out of a producer until the next one.
theorem eq_of_isLoneClaim (h : Run w₀ past w) (hstart : w₀.IsFresh) (hlone : IsLoneClaim id c past)
    (hout : c' ∈ w.claims) (hproducer : c'.producer = id) : c' = c := by
  induction h with
  | start => exact hlone.elim
  | @step past w w' a hrun hstep ih =>
    obtain ⟨⟨-, -, hclaims⟩, hnone⟩ | ⟨hno, hpast⟩ := hlone
    · have hclaims : w'.claims = w.claims ++ [c] := hclaims
      rw [hclaims] at hout
      obtain hold | hnew := List.mem_append.mp hout
      · exact absurd hproducer (hnone c' hold)
      · exact List.mem_singleton.mp hnew
    · obtain hclaim | hold := hrun.isClaim_or_out hstart hstep hout
      · exact absurd (hproducer ▸ hclaim) (hno c')
      · exact ih hpast hold

-- So no older request is answered after it.
theorem isLastAnswer_of_isLoneClaim (h : Run w₀ past w) (hstart : w₀.IsFresh)
    (hlone : IsLoneClaim id c past) : c ∈ w.claims ∨ ∃ answer, IsLastAnswer c answer past := by
  induction h with
  | start => exact hlone.elim
  | @step past w w' a hrun hstep ih =>
    obtain ⟨⟨-, -, hclaims⟩, -⟩ | ⟨-, hpast⟩ := hlone
    · have hclaims : w'.claims = w.claims ++ [c] := hclaims
      exact .inl (hclaims ▸ List.mem_append_right _ List.mem_cons_self)
    · obtain ⟨-, s, -, -, ⟨⟨-, hid, -⟩, -⟩, -⟩ := hpast.exists_step
      by_cases hact : ∃ answer, a = .recoveryPosted c answer
      · obtain ⟨answer, hact⟩ := hact
        exact .inr ⟨answer, .inl hact⟩
      · obtain hout | ⟨answer, hlast⟩ := ih hpast
        · exact .inl ((World.out_or_posted hstep hout).resolve_right hact)
        · refine .inr ⟨answer, .inr ⟨fun c' answer' hact' hproducer => ?_, hlast⟩⟩
          obtain rfl : a = .recoveryPosted c' answer' := hact'
          have hout := World.mem_claims_of_posted hstep
          obtain rfl := hrun.eq_of_isLoneClaim hstart hpast hout (hproducer.trans hid)
          exact hact ⟨answer', rfl⟩

-- Recoveries of a producer that do not overlap are described one after the other.
theorem describes_of_isLoneClaim (h : Run w₀ past w) (hstart : w₀.IsFresh)
    (hlone : IsLoneClaim id c past) (hnone : ∀ c' ∈ w.claims, c'.producer ≠ id) :
    ∃ answer, IsAnswer c answer past ∧
      (w.tracked id).lastAttempt = some (c.attempt w.manager.config answer) := by
  obtain ⟨-, s, -, -, ⟨⟨-, hproducer, -⟩, -⟩, -⟩ := hlone.exists_step
  obtain hout | ⟨answer, hlast⟩ := h.isLastAnswer_of_isLoneClaim hstart hlone
  · exact absurd hproducer (hnone c hout)
  · exact ⟨answer, hlast.isAnswer, hproducer ▸ h.lastAttempt_of_isLastAnswer hstart hlast⟩

-- Once no request of the producer is out, the last claim was answered, and the directory
-- describes it with its answer exactly if no older request was answered after it.
theorem describes_lastClaim_iff (h : Run w₀ past w) (hstart : w₀.IsFresh)
    (hlast : IsLastClaim id c past) (hnone : ∀ c' ∈ w.claims, c'.producer ≠ id) :
    ∃ answer, IsAnswer c answer past ∧
      ((w.tracked id).lastAttempt = some (c.attempt w.manager.config answer) ↔
        IsLastAnswer c answer past) := by
  obtain ⟨later, s, earlier, hpast, hclaim, -⟩ := hlast.exists_step
  have hproducer : c.producer = id := hclaim.2.1
  obtain ⟨answer, hanswer⟩ : ∃ answer, IsAnswer c answer past := by
    obtain hout | hanswered := h.out_or_answered hlast
    · exact absurd hproducer (hnone c hout)
    · exact hanswered
  refine ⟨answer, hanswer, fun hdescribed => ?_, fun hlast => ?_⟩
  · obtain ⟨c', answer', hproducer', hlast'⟩ := hanswer.exists_isLastAnswer
    have hkept := h.lastAttempt_of_isLastAnswer hstart hlast'
    rw [hproducer', hproducer, hdescribed] at hkept
    obtain ⟨hrun, hstep, -⟩ := (hpast ▸ h).split
    have hname := hrun.name_of_isClaim hstart hstep hclaim
    have hname' := h.name_of_isLastAnswer hstart hlast'
    rw [hproducer', hproducer, hname] at hname'
    obtain rfl : c = c' := Claim.eq_of_attempt hproducer'.symm (Option.some.inj hname')
      (Option.some.inj hkept)
    exact hlast'.isAnswer.unique hanswer ▸ hlast'
  · exact hproducer ▸ h.lastAttempt_of_isLastAnswer hstart hlast

end Run

-- Two sessions of a producer begin, and the first of its two requests is answered last.
def overtakenActs : List Act :=
  [.start, .visit ⟨1⟩ (.alive (.uniform 600000) false .systemAliveOnly), .settle ⟨1⟩,
    .visit ⟨1⟩ (.alive (.uniform 600000) false .systemAliveOnly), .settle ⟨1⟩,
    .recoveryPosted ⟨⟨1⟩, "LO", ⟨2⟩, 0, 600000⟩ (.ok ()),
    .recoveryPosted ⟨⟨1⟩, "LO", ⟨1⟩, 0, 600000⟩ (.error (.http "timeout"))]

-- The directory then describes the older of the two, which failed.
theorem Run.overtaken_is_described : ∃ past w answer, Run World.ofLiveOdds past w ∧
    IsLastClaim ⟨1⟩ ⟨⟨1⟩, "LO", ⟨2⟩, 0, 600000⟩ past ∧ w.claims = [] ∧
    IsAnswer ⟨⟨1⟩, "LO", ⟨2⟩, 0, 600000⟩ answer past ∧
    (w.tracked ⟨1⟩).lastAttempt ≠
      some (Claim.attempt ⟨⟨1⟩, "LO", ⟨2⟩, 0, 600000⟩ w.manager.config answer) ∧
    ((w.tracked ⟨1⟩).lastAttempt.map fun attempt => (attempt.request, attempt.accepted)) =
      some (⟨1⟩, false) := by
  have hrun : Run World.ofLiveOdds _ _ := Run.start.play overtakenActs
  have hlast : IsLastClaim ⟨1⟩ ⟨⟨1⟩, "LO", ⟨2⟩, 0, 600000⟩
      (World.ofLiveOdds.play [] overtakenActs).1 := by
    refine .inr ⟨Step.not_isClaim_of_act nofun, .inr ⟨Step.not_isClaim_of_act nofun, ?_⟩⟩
    exact .inl ⟨rfl, rfl, by decide +kernel⟩
  have hnone : (World.ofLiveOdds.play [] overtakenActs).2.claims = [] := by decide +kernel
  obtain ⟨answer, hanswer, hiff⟩ := hrun.describes_lastClaim_iff World.isFresh_ofLiveOdds hlast
    (by simp [hnone])
  refine ⟨_, _, answer, hrun, hlast, hnone, hanswer, fun hdescribed => ?_, by decide +kernel⟩
  obtain hact | ⟨hother, -⟩ := hiff.mp hdescribed
  · exact absurd hact nofun
  · exact hother _ _ rfl rfl

end FeedWatch
