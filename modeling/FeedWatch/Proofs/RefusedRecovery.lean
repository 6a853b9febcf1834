import FeedWatch.Proofs.Progress
import FeedWatch.Proofs.SystemAlive

namespace FeedWatch

-- The current recovery of the producer is started, and its request was answered with an
-- error.
def World.IsRefused (w : World) (id : ProducerId) (past : List Step) : Prop :=
  ∃ c e, c.producer = id ∧ (w.tracked id).progress = (.started, some c.request) ∧
    ∃ s ∈ past, s.act = .recoveryPosted c (.error e)

section Alive

variable {sc : Scene} {x y : Tracked} {stamp : Stamp} {subscribed : Bool} {pause : Pause}

-- An accepted alive during a started recovery asks for another one, or looks whether it has
-- run too long.
theorem Visited.of_started
    (h : Visited sc x (.alive stamp subscribed .systemAliveOnly) pause y)
    (hrest : pause.rest ≠ .done) (hstarted : x.tracker.state = .started) :
    (subscribed = false ∧ ∃ anchor, pause.rest = .claim anchor (some stamp)) ∨
      subscribed = true ∧ y.standing = x.standing ∧
        ∃ anchor, pause.rest = .ensureRecovery anchor stamp := by
  cases h with
  | idle => exact absurd rfl hrest
  | userAlive _ hinterest => exact absurd rfl hinterest
  | unreadable => exact absurd rfl hrest
  | unsubscribed => exact .inl ⟨rfl, _, rfl⟩
  | unsubscribedUp => exact .inl ⟨rfl, _, rfl⟩
  | returned _ _ _ hback =>
    obtain ⟨-, hidle, -⟩ := Standing.isBack_iff.mp hback
    rw [hstarted] at hidle
    exact absurd hidle nofun
  | subscribed => exact .inr ⟨rfl, Tracked.standing_messaged .., _, rfl⟩
  | calledOff _ _ _ _ hstate =>
    rw [hstarted] at hstate
    exact absurd hstate nofun

-- A started recovery is stuck once it has run for longer than it may.
theorem Scene.isStuck_of_started (hstarted : x.tracker.state = .started) :
    sc.isStuck x = true ↔
      sc.now.since x.tracker.startedAt > sc.config.maxRecoveryMillis.toInt := by
  simp [isStuck, Tracker.isPerformingRecovery, RecoveryState.isInProgress, hstarted]

theorem Tracked.isUnattended_of_started (hstarted : x.tracker.state = .started) :
    x.isUnattended = false := by
  simp [isUnattended, Tracker.isPerformingRecovery, RecoveryState.isInProgress, hstarted]

-- The two parts of such an alive. In between the producer was held.
theorem Standing.started_outcome {sc₁ : Scene} {z : Tracked} {ids : RequestIds}
    {c : Option Claim} {s' : Standing}
    (hv : Visited sc₁ x (.alive stamp subscribed .systemAliveOnly) pause y)
    (hrest : pause.rest ≠ .done) (hstarted : x.tracker.state = .started)
    (hheld : z.standing = y.standing) (hs : Settled sc z ids pause.rest c s') :
    (subscribed = false ∨
        sc.now.since x.tracker.startedAt > sc.config.maxRecoveryMillis.toInt) ∧
        (∃ c', c = some c' ∧ c'.producer = z.id) ∨
      ¬(subscribed = false ∨
        sc.now.since x.tracker.startedAt > sc.config.maxRecoveryMillis.toInt) ∧
        c = none ∧ s' = x.standing.kept stamp.received := by
  obtain ⟨rfl, anchor, hask⟩ | ⟨rfl, hsame, anchor, hask⟩ := hv.of_started hrest hstarted
  · rw [hask] at hs
    obtain ⟨c', rfl, hproducer, -⟩ := of_settled_claim hs
    exact .inl ⟨.inl rfl, c', rfl, hproducer⟩
  · rw [hask] at hs
    have hkept := hheld.trans hsame
    have hstuck : sc.isStuck z = true ↔
        sc.now.since x.tracker.startedAt > sc.config.maxRecoveryMillis.toInt := by
      rw [isStuck_congr hkept]
      exact Scene.isStuck_of_started hstarted
    obtain ⟨rfl, -, hlimit, hafter⟩ | ⟨c', rfl, hproducer, hneeded, -⟩ :=
      of_settled_ensureRecovery hs
    · refine .inr ⟨?_, rfl, hkept ▸ hafter⟩
      rintro (hunsubscribed | hlong)
      · exact absurd hunsubscribed nofun
      · exact absurd (hlimit.symm.trans (hstuck.mpr hlong)) nofun
    · obtain hmissing | hlong := hneeded
      · rw [isUnattended_congr hkept, Tracked.isUnattended_of_started hstarted] at hmissing
        exact absurd hmissing nofun
      · exact .inl ⟨.inr (hstuck.mp hlong), c', rfl, hproducer⟩

end Alive

namespace Run

variable {w₀ w : World} {past : List Step} {id : ProducerId}

-- After its request was refused, an accepted alive asks for a recovery once more if it is
-- unsubscribed or the recovery has run for longer than it may. Until then a subscribed alive
-- leaves the recovery started, and asks for nothing.
theorem refused_is_retried (h : Run w₀ past w) (hstart : w₀.IsFresh)
    (hrefused : w.IsRefused id past) (hfree : id ∉ w.held)
    (henabled : (w.tracked id).isEnabled = true) (hread : (w.tracked id).IsReadable)
    {stamp : Stamp} (hreceived : stamp.received ≠ 0) (subscribed : Bool) :
    ∃ w₁, w.step (.visit id (.alive stamp subscribed .systemAliveOnly)) = some w₁ ∧
      ∀ between w₂, Run w₁ between w₂ → (∀ s ∈ between, s.act ≠ .settle id) →
        w₂.isOpen = true →
          ((∃ w₃, w₂.step (.settle id) = some w₃) ∨ w₂.IsFull) ∧
          ∀ w₃, w₂.step (.settle id) = some w₃ →
            let isRetried := subscribed = false ∨
              w₂.now.since (w.tracked id).tracker.startedAt >
                w₂.manager.config.maxRecoveryMillis.toInt
            (isRetried → ∃ c, c.producer = id ∧ w₃.claims = w₂.claims ++ [c]) ∧
            (¬isRetried → w₃.claims = w₂.claims ∧ w₃.IsRefused id
              (⟨w₂, .settle id, w₃⟩ :: between ++
                ⟨w, .visit id (.alive stamp subscribed .systemAliveOnly), w₁⟩ :: past)) := by
  obtain ⟨c, e, hproducer, hprogress, s, hs, hact⟩ := hrefused
  have hstarted : (w.tracked id).tracker.state = .started := congrArg Prod.fst hprogress
  obtain ⟨w₁, pause, hstep, hheld, hrest⟩ :=
    World.exists_step_alive hfree henabled hread hreceived subscribed
  refine ⟨w₁, hstep, fun between w₂ hbetween hsettle hopen₂ => ?_⟩
  have hvalid₁ : w₁.IsValid := (h.step hstep).isValid hstart.isValid
  obtain ⟨⟨pause₂, hheld₂, hrest₂⟩, hstanding, -⟩ := hbetween.of_held hvalid₁ hheld hsettle
  refine ⟨World.exists_step_settle hheld₂, fun w₃ hstep₃ => ?_⟩
  cases h.moved hstart.isValid hstep id with
  | touched hvisit => exact absurd rfl (hvisit _)
  | visited _ hheld₁ hvisit =>
    obtain rfl := Option.some.inj (hheld.symm.trans hheld₁)
    cases hbetween.moved hvalid₁ hstep₃ id with
    | touched _ hact => exact absurd rfl hact
    | settled hheld' _ hclaims hfinish =>
      obtain rfl := Option.some.inj (hheld₂.symm.trans hheld')
      rw [hrest₂] at hfinish
      have hread₂ := hbetween.isReadable hvalid₁ (hvisit.sameDescription.isReadable.mpr hread)
      have hsettled := hfinish.settled hopen₂ hread₂
      obtain ⟨hretried, ⟨c', rfl, hproducer'⟩⟩ | ⟨hnot, rfl, hafter⟩ :=
        Standing.started_outcome hvisit hrest hstarted hstanding hsettled
      · exact ⟨fun _ => ⟨c', hproducer', hclaims⟩, fun hno => absurd hretried hno⟩
      · refine ⟨fun hyes => absurd hyes hnot, fun _ => ⟨hclaims.trans (List.append_nil _), ?_⟩⟩
        have hprogress₃ : (w₃.tracked id).progress = (w.tracked id).progress := by
          rw [← Standing.progress_standing, hafter, ← Standing.progress_standing]
          rfl
        refine ⟨c, e, hproducer, hprogress₃.trans hprogress, s, ?_, hact⟩
        exact List.mem_cons_of_mem _ (List.mem_append_right _ (List.mem_cons_of_mem _ hs))

end Run

-- The request of a first recovery is refused.
def refusedActs : List Act :=
  [.start, .visit ⟨1⟩ (.alive (.uniform 600000) false .systemAliveOnly), .settle ⟨1⟩,
    .recoveryPosted ⟨⟨1⟩, "LO", ⟨1⟩, 0, 600000⟩ (.error (.http "refused"))]

theorem World.isRefused_refusedActs :
    (World.ofLiveOdds.play [] refusedActs).2.IsRefused ⟨1⟩
      (World.ofLiveOdds.play [] refusedActs).1 :=
  ⟨⟨⟨1⟩, "LO", ⟨1⟩, 0, 600000⟩, .http "refused", rfl, rfl, _, List.mem_cons_self, rfl⟩

-- A subscribed alive right after that asks for nothing.
theorem Run.refused_is_not_retried_at_once : ∃ past w w₁ w₂, Run World.ofLiveOdds past w ∧
    w.isOpen = true ∧ w.IsRefused ⟨1⟩ past ∧ (w.tracked ⟨1⟩).isEnabled = true ∧
    (w.tracked ⟨1⟩).IsReadable ∧
    w.step (.visit ⟨1⟩ (.alive (.uniform 600000) true .systemAliveOnly)) = some w₁ ∧
    w₁.step (.settle ⟨1⟩) = some w₂ ∧ w₂.claims = [] :=
  ⟨_, _, _, _, Run.start.play refusedActs, rfl, World.isRefused_refusedActs, rfl, ⟨_, rfl⟩, rfl,
    rfl, rfl⟩

-- An unsubscribed one asks for another recovery.
theorem Run.refused_is_retried_unsubscribed : ∃ past w w₁ w₂ c, Run World.ofLiveOdds past w ∧
    w.IsRefused ⟨1⟩ past ∧
    w.step (.visit ⟨1⟩ (.alive (.uniform 600000) false .systemAliveOnly)) = some w₁ ∧
    w₁.step (.settle ⟨1⟩) = some w₂ ∧ c.producer = ⟨1⟩ ∧ w₂.claims = [c] := by
  have hrun : Run World.ofLiveOdds _ _ := Run.start.play refusedActs
  have hstep : (World.ofLiveOdds.play [] refusedActs).2.step
      (.visit ⟨1⟩ (.alive (.uniform 600000) false .systemAliveOnly)) = some _ := rfl
  have hreceived : (Stamp.uniform 600000).received ≠ 0 := by decide
  obtain ⟨w₁, hstep₁, hanswer⟩ := hrun.refused_is_retried World.isFresh_ofLiveOdds
    World.isRefused_refusedActs (by decide +kernel) rfl ⟨_, rfl⟩ hreceived false
  obtain rfl := Option.some.inj (hstep.symm.trans hstep₁)
  obtain ⟨-, hsettled⟩ := hanswer [] _ .start (fun _ hs => absurd hs List.not_mem_nil) rfl
  obtain ⟨hretried, -⟩ := hsettled _ rfl
  obtain ⟨c, hproducer, hclaim⟩ := hretried (.inl rfl)
  exact ⟨_, _, _, _, c, hrun, World.isRefused_refusedActs, hstep, rfl, hproducer, hclaim⟩

end FeedWatch
