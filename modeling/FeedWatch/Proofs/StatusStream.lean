import FeedWatch.Proofs.Sound
import Mathlib.Data.List.Chain

namespace FeedWatch

namespace Notification

-- The change of status of a producer, if this tells of one.
def statusOf? (id : ProducerId) : Notification → Option StatusChange
  | statusChange change => if change.producer.id = id then some change else none
  | eventReplayed _ => none

-- The changes of status of a producer, in order.
def statuses (id : ProducerId) (notifications : List Notification) : List StatusChange :=
  notifications.filterMap (·.statusOf? id)

theorem statuses_append (id : ProducerId) (l l' : List Notification) :
    statuses id (l ++ l') = statuses id l ++ statuses id l' := List.filterMap_append

end Notification

-- The flag of a change of status goes with its reason.
structure StatusChange.IsFaithful (c : StatusChange) : Prop where
  flag : c.producer.flaggedDown = c.isDown
  down : c.isDown = true ↔
    c.reason = .aliveInterval ∨ c.reason = .queueDelay ∨ c.reason = .other
  up : c.isDown = false ↔ c.reason = .firstRecoveryCompleted ∨ c.reason = .returnedFromInactivity

-- The statuses of a producer that stands like this.
structure Standing.IsRecorded (s : Standing) (l : List StatusChange) : Prop where
  changes : l.IsChain fun c c' => c.reason ≠ c'.reason
  faithful : ∀ c ∈ l, c.IsFaithful
  last : s.toldReason = l.getLast?.map StatusChange.reason
  first : (l.map StatusChange.reason).count .firstRecoveryCompleted ≤
    if s.firstRecoveryCompleted then 1 else 0

-- What the user hears when a producer comes from one standing to another: nothing, or a
-- change of status that is news.
inductive Standing.Tells (s s' : Standing) : List StatusChange → Prop where
  | nothing (hsame : s'.toldReason = s.toldReason)
      (hlatch : s.firstRecoveryCompleted = true → s'.firstRecoveryCompleted = true) : s.Tells s' []
  | news {c : StatusChange} (hfaithful : c.IsFaithful) (hnews : s.toldReason ≠ some c.reason)
      (htold : s'.toldReason = some c.reason)
      (hlatch : s.firstRecoveryCompleted = true → s'.firstRecoveryCompleted = true)
      (hfirst : c.reason = .firstRecoveryCompleted →
        s.firstRecoveryCompleted = false ∧ s'.firstRecoveryCompleted = true) : s.Tells s' [c]

namespace Tracked

-- The directory knows the producer under its own id.
structure IsAddressed (x : Tracked) (id : ProducerId) : Prop where
  listing : x.listing.id = id
  entry : ∀ e, x.listing.entry = some e → e.descriptor.id = id

variable {x y : Tracked} {id : ProducerId} {p : Producer}

theorem SameDescription.isAddressed (h : x.SameDescription y) (hx : x.IsAddressed id) :
    y.IsAddressed id := by
  refine ⟨h.id.trans hx.listing, fun e he => ?_⟩
  have hd := h.descriptor
  rw [he, Option.map_some] at hd
  obtain ⟨e', he', hsame⟩ := Option.map_eq_some_iff.mp hd.symm
  rw [← hsame]
  exact hx.entry e' he'

-- The full record of a producer has its id, and its flag.
theorem IsAddressed.producer (hx : x.IsAddressed id) (hp : x.producer Outage.none = .ok p) :
    p.id = id ∧ p.flaggedDown = x.isDown := by
  rw [producer_none] at hp
  cases he : x.listing.entry with
  | none =>
    simp only [Listing.producer, he, Except.ok.injEq] at hp
    subst hp
    exact ⟨hx.listing, (isDown_of_no_entry he).symm⟩
  | some e =>
    simp only [Listing.producer, he, Entry.producer] at hp
    split at hp
    · cases hp
    · obtain rfl := Except.ok.inj hp
      exact ⟨hx.entry e he, (isDown_of_entry he).symm⟩

end Tracked

-- A reason is told unless it was the last one.
theorem Scene.Hears.told {sc : Scene} {x : Tracked} {id : ProducerId} {isDown : Bool}
    {reason : StatusReason} {n : Option Notification} (h : sc.Hears x isDown reason n)
    (hmem : sc.outage = Outage.none) (hopen : sc.isOpen = true) (hread : x.IsReadable)
    (hx : x.IsAddressed id) :
    x.tracker.toldReason = some reason ∧ n = none ∨
      x.tracker.toldReason ≠ some reason ∧ ∃ c, n = some (.statusChange c) ∧
        c.producer.id = id ∧ c.producer.flaggedDown = isDown ∧ c.isDown = isDown ∧
        c.reason = reason := by
  obtain ⟨y, hy, hdown, htold, rfl⟩ := h
  by_cases hsame : x.tracker.toldReason = some reason
  · exact .inl ⟨hsame, by simp [notice, htold, hsame]⟩
  · obtain ⟨p, hp⟩ := hy.isReadable.mpr hread
    obtain ⟨hid, hflag⟩ := (hy.isAddressed hx).producer hp
    have hflagged : y.isFlaggedDown sc.outage = isDown := hmem ▸ hdown
    refine .inr ⟨hsame, {
      producer := p
      stamp := Stamp.uniform sc.now
      isDown := y.isFlaggedDown sc.outage
      isDelayed := !sc.onTime y
      reason }, ?_, hid, hflag.trans hdown, hflagged, rfl⟩
    simp only [notice, htold, hsame, if_false, hmem, hp, hopen, if_true]

theorem Notification.statuses_eq_nil {id : ProducerId} {n : Option Notification}
    (hn : ∀ change, n ≠ some (.statusChange change)) : statuses id n.toList = [] := by
  cases n with
  | none => rfl
  | some n =>
    cases n with
    | statusChange change => exact absurd rfl (hn change)
    | eventReplayed => rfl

-- The notification of a visit to the producer itself.
theorem Turned.tells {sc : Scene} {x : Tracked} {v : Visit} {pause : Pause} {s' : Standing}
    {id : ProducerId} (ht : Turned sc x v pause s') (hmem : sc.outage = Outage.none)
    (hopen : sc.isOpen = true) (hread : x.IsReadable) (hx : x.IsAddressed id) :
    x.standing.Tells s' (Notification.statuses id pause.notification.toList) := by
  have htell {isDown : Bool} {reason : StatusReason} {n : Option Notification}
      (hears : sc.Hears x isDown reason n) (htold : s'.toldReason = some reason)
      (hkept : x.tracker.firstRecoveryCompleted = true → s'.firstRecoveryCompleted = true)
      (hfaithful : ∀ c : StatusChange, c.producer.flaggedDown = isDown → c.isDown = isDown →
        c.reason = reason → c.IsFaithful)
      (hfirst : reason = .firstRecoveryCompleted →
        x.tracker.firstRecoveryCompleted = false ∧ s'.firstRecoveryCompleted = true) :
      x.standing.Tells s' (Notification.statuses id n.toList) := by
    obtain ⟨hsame, rfl⟩ | ⟨hnews, c, rfl, hid, hflag, hdown, rfl⟩ :=
      hears.told hmem hopen hread hx
    · exact .nothing (htold.trans hsame.symm) hkept
    · have hstatuses : Notification.statuses id (some (Notification.statusChange c)).toList = [c] := by
        simp [Notification.statuses, Notification.statusOf?, hid]
      rw [hstatuses]
      exact .news (hfaithful c hflag hdown rfl) hnews htold hkept hfirst
  have hdown {c : StatusChange} (hflag : c.producer.flaggedDown = true) (hd : c.isDown = true)
      (hreason : c.reason = .aliveInterval ∨ c.reason = .queueDelay ∨ c.reason = .other) :
      c.IsFaithful := by
    refine ⟨hflag.trans hd.symm, by simp [hd, hreason], ?_⟩
    rcases hreason with hr | hr | hr <;> simp [hd, hr]
  have hup {c : StatusChange} (hflag : c.producer.flaggedDown = false) (hd : c.isDown = false)
      (hreason : c.reason = .firstRecoveryCompleted ∨ c.reason = .returnedFromInactivity) :
      c.IsFaithful := by
    refine ⟨hflag.trans hd.symm, ?_, by simp [hd, hreason]⟩
    rcases hreason with hr | hr <;> simp [hd, hr]
  cases ht with
  | quiet _ hquiet =>
    rw [Notification.statuses_eq_nil hquiet]
    exact .nothing rfl fun hlatch => hlatch
  | asking => exact .nothing rfl fun hlatch => hlatch
  | checking => exact .nothing rfl fun hlatch => hlatch
  | cutOff _ hears =>
    exact htell hears rfl (fun hlatch => hlatch)
      (fun _ hf hd hr => hdown hf hd (.inr (.inr hr))) nofun
  | returned _ _ _ _ hears =>
    exact htell hears rfl (fun hlatch => hlatch) (fun _ hf hd hr => hup hf hd (.inr hr)) nofun
  | silent _ hears =>
    exact htell hears rfl (fun hlatch => hlatch) (fun _ hf hd hr => hdown hf hd (.inl hr)) nofun
  | delayed _ hears =>
    exact htell hears rfl (fun hlatch => hlatch)
      (fun _ hf hd hr => hdown hf hd (.inr (.inl hr))) nofun
  | completed _ _ hreason hears =>
    -- the first recovery sets the latch, and is told as such only while it is not set
    refine htell hears rfl (fun _ => rfl) (fun _ hf hd hr => hup hf hd ?_) ?_
    · rw [hr, hreason]
      split
      · exact .inr rfl
      · exact .inl rfl
    · intro hfirst
      refine ⟨?_, rfl⟩
      rw [hreason] at hfirst
      split at hfirst <;> rename_i hlatch
      · exact absurd hfirst nofun
      · exact Bool.eq_false_iff.mpr hlatch

namespace Standing

variable {s s' : Standing} {l : List StatusChange}

theorem isRecorded_fresh : fresh.IsRecorded [] :=
  ⟨.nil, fun _ hc => absurd hc List.not_mem_nil, rfl, Nat.le_refl 0⟩

-- Nothing is told, and no other reason becomes the last one.
theorem IsRecorded.stays (h : s.IsRecorded l) (htold : s'.toldReason = s.toldReason)
    (hfirst : s.firstRecoveryCompleted = true → s'.firstRecoveryCompleted = true) :
    s'.IsRecorded l := by
  refine ⟨h.changes, h.faithful, htold.trans h.last, Nat.le_trans h.first ?_⟩
  split <;> rename_i hs
  · rw [if_pos (hfirst hs)]
  · exact Nat.zero_le _

-- A change of status is told: its reason is news, and fits its flag.
theorem IsRecorded.told (h : s.IsRecorded l) {c : StatusChange}
    (hnews : s.toldReason ≠ some c.reason) (hfaithful : c.IsFaithful)
    (htold : s'.toldReason = some c.reason)
    (hkept : s.firstRecoveryCompleted = true → s'.firstRecoveryCompleted = true)
    (hfirst : c.reason = .firstRecoveryCompleted →
      s.firstRecoveryCompleted = false ∧ s'.firstRecoveryCompleted = true) :
    s'.IsRecorded (l ++ [c]) where
  changes := by
    refine h.changes.append (.singleton c) ?_
    intro last hlast c' hc'
    obtain rfl := Option.some.inj hc'
    intro hsame
    rw [h.last, Option.mem_def.mp hlast, Option.map_some, hsame] at hnews
    exact hnews rfl
  faithful := by
    intro c' hc'
    obtain hold | hnew := List.mem_append.mp hc'
    · exact h.faithful c' hold
    · exact List.mem_singleton.mp hnew ▸ hfaithful
  last := by
    rw [htold, List.getLast?_concat]
    rfl
  first := by
    have hcount := h.first
    rw [List.map_append, List.count_append, List.map_singleton, List.count_singleton]
    by_cases hreason : c.reason = .firstRecoveryCompleted
    · obtain ⟨hs, hs'⟩ := hfirst hreason
      rw [hs] at hcount
      simp only [hreason, hs', beq_self_eq_true, if_true, Bool.false_eq_true, if_false] at hcount ⊢
      omega
    · have hne : (c.reason == StatusReason.firstRecoveryCompleted) = false := by simpa using hreason
      simp only [hne, Bool.false_eq_true, if_false, Nat.add_zero]
      refine Nat.le_trans hcount ?_
      split <;> rename_i hs
      · rw [if_pos (hkept hs)]
      · exact Nat.zero_le _

-- The record of what is told.
theorem IsRecorded.tells {told : List StatusChange} (h : s.IsRecorded l) (ht : s.Tells s' told) :
    s'.IsRecorded (l ++ told) := by
  cases ht with
  | nothing hsame hlatch => exact (List.append_nil l).symm ▸ h.stays hsame hlatch
  | news hfaithful hnews htold hlatch hfirst => exact h.told hnews hfaithful htold hlatch hfirst

end Standing

-- What is told of a producer bears its id.
theorem Visited.producer_id {sc : Scene} {x y : Tracked} {v : Visit} {pause : Pause}
    {n : Notification} {id : ProducerId} (h : Visited sc x v pause y)
    (hmem : sc.outage = Outage.none) (hx : x.IsAddressed id) (hn : pause.notification = some n) :
    n.producer.id = id := by
  obtain ⟨-, z, hz, hp⟩ := h.producer hmem hn
  exact ((hz.isAddressed hx).producer hp).1

theorem Settled.told {sc : Scene} {x : Tracked} {ids : RequestIds} {rest : Rest}
    {c : Option Claim} {s : Standing} (h : Settled sc x ids rest c s) :
    s.toldReason = x.tracker.toldReason ∧
      s.firstRecoveryCompleted = x.tracker.firstRecoveryCompleted := by
  cases h with
  | quiet => exact ⟨rfl, rfl⟩
  | kept => exact ⟨rfl, rfl⟩
  | attended => exact ⟨rfl, rfl⟩
  | @claimed _ alive => cases alive <;> exact ⟨rfl, rfl⟩

namespace World

variable {w : World} {id : ProducerId}

-- All statuses of a producer that were sent, and the one that is about to be.
def statuses (w : World) (id : ProducerId) : List StatusChange :=
  Notification.statuses id (w.sent ++ w.awaited id)

theorem IsJustOpened.hasReader (h : w.IsJustOpened) : w.HasReader ∧ w.sent = [] := by
  obtain ⟨w₀, service, hfresh, hstart, rfl⟩ := h
  obtain ⟨config, descriptors, fallback, ids, manager, now, -, rfl⟩ := hfresh
  have hstream := Service.start_stream hstart
  exact ⟨⟨_, hstream, rfl⟩, by simp [sent, queue, hstream, ofManager]⟩

theorem IsFresh.isAddressed (h : w.IsFresh) (id : ProducerId) : (w.tracked id).IsAddressed id := by
  obtain ⟨-, hid, hentry⟩ := h.listing id
  exact ⟨hid, fun e he => (hentry e he).1⟩

theorem IsFresh.sent (h : w.IsFresh) : w.sent = [] := by
  obtain ⟨config, descriptors, fallback, ids, now, -, rfl⟩ := h.eq
  rfl

section Statuses

variable {w' : World}

theorem statuses_visited {v : Visit} {pause : Pause}
    (hsent : w'.sent = w.sent ++ w.delivered (.visit id v)) (hfree : w.held[id]? = none)
    (hheld : w'.held[id]? = some pause) :
    w'.statuses id = w.statuses id ++ Notification.statuses id pause.notification.toList := by
  rw [statuses, statuses, hsent, awaited_of_held hheld, awaited_of_free hfree]
  simp only [delivered, List.append_nil, Notification.statuses_append]

theorem statuses_settled (hsent : w'.sent = w.sent ++ w.delivered (.settle id))
    (hopen : w.isOpen = true) (hfree : w'.held[id]? = none) : w'.statuses id = w.statuses id := by
  rw [statuses, statuses, hsent, awaited_of_free hfree]
  simp only [delivered, hopen, if_true, List.append_nil]

-- An act that sends nothing of the producer.
theorem statuses_aside {a : Act} (hsent : w'.sent = w.sent ++ w.delivered a)
    (hnothing : Notification.statuses id (w.delivered a) = [])
    (hkept : w'.held[id]? = w.held[id]?) : w'.statuses id = w.statuses id := by
  have hawaited : w'.awaited id = w.awaited id := by simp only [awaited, hkept]
  simp only [statuses, hsent, hawaited, Notification.statuses_append, hnothing, List.append_nil]

end Statuses

end World

namespace Run

variable {w₀ w : World} {past : List Step} {id : ProducerId}

-- What follows on an opening goes back to a fresh manager.
theorem exists_fresh (h : Run w₀ past w) (hstart : w₀.IsJustOpened) :
    ∃ w₁ s, w₁.IsFresh ∧ Run w₁ (past ++ [s]) w := by
  obtain ⟨w₁, service, hfresh, hopening, hopened⟩ := hstart
  have hstep : w₁.step .start = some w₀ := by simp only [World.step, hopening, hopened]
  refine ⟨w₁, ⟨w₁, .start, w₀⟩, hfresh, ?_⟩
  induction h with
  | start => exact Run.start.step hstep
  | step hrun hnext ih => exact ih.step hnext

theorem isAddressed (h : Run w₀ past w) (hstart : w₀.IsFresh) (id : ProducerId) :
    (w.tracked id).IsAddressed id :=
  (h.sameDescription hstart.isValid id).isAddressed (hstart.isAddressed id)

theorem hasReader (h : Run w₀ past w) (hstart : w₀.IsJustOpened)
    (hreader : ∀ s ∈ past, s.act ≠ .abandon) : w.HasReader := by
  induction h with
  | start => exact hstart.hasReader.1
  | step hrun hstep ih =>
    obtain ⟨hact, hreader⟩ := List.forall_mem_cons.mp hreader
    exact (World.step_sent (ih hreader) (hrun.not_created hstart.not_created) hact hstep).1

-- What a visit has still to send is about the producer that it holds.
theorem awaits_own (h : Run w₀ past w) (hstart : w₀.IsFresh) {n : Notification}
    (hn : n ∈ w.awaited id) : n.producer.id = id := by
  induction h with
  | start => simp [World.awaited, hstart.held] at hn
  | step hrun hstep ih =>
    cases hrun.moved hstart.isValid hstep id with
    | visited _ hheld hvisit =>
      rw [World.awaited_of_held hheld, Option.mem_toList] at hn
      exact hvisit.producer_id rfl (hrun.isAddressed hstart id) hn
    | settled _ hfree =>
      rw [World.awaited_of_free hfree] at hn
      exact absurd hn List.not_mem_nil
    | touched hvisit =>
      exact ih (World.mem_awaited_of_step hstep hvisit hn)

-- No act but the end of its own visits sends a status of the producer.
theorem statuses_delivered (h : Run w₀ past w) (hstart : w₀.IsFresh) {a : Act}
    (hsettle : a ≠ .settle id) (hlate : a ≠ .sendLate id) :
    Notification.statuses id (w.delivered a) = [] := by
  have hother {j : ProducerId} (hj : j ≠ id) (n : Notification) (hn : n ∈ w.awaited j) :
      Notification.statusOf? id n = none := by
    cases n with
    | eventReplayed => rfl
    | statusChange c =>
      have hc : c.producer.id = j := h.awaits_own hstart hn
      have hne : c.producer.id ≠ id := fun he => hj (hc.symm.trans he)
      simp [Notification.statusOf?, hne]
  rw [Notification.statuses, List.filterMap_eq_nil_iff]
  intro n hn
  cases a with
  | settle j =>
    exact hother (fun hj => hsettle (congrArg Act.settle hj)) n
      ((w.delivered_settle_sublist j).subset hn)
  | sendLate j => exact hother (fun hj => hlate (congrArg Act.sendLate hj)) n hn
  | _ => exact absurd hn List.not_mem_nil

theorem isRecorded (h : Run w₀ past w) (hstart : w₀.IsJustOpened)
    (hread : (w₀.tracked id).IsReadable) (hreader : ∀ s ∈ past, s.act ≠ .abandon)
    (hopen : w.isOpen = true) : (w.tracked id).standing.IsRecorded (w.statuses id) := by
  obtain ⟨-, hvalid, hheld, -⟩ := hstart.eq
  apply h.of_isOpen hstart hread hreader hopen
  · have hnothing : w₀.statuses id = [] := by
      rw [World.statuses, hstart.hasReader.2, World.awaited, hheld]
      simp [Notification.statuses]
    rw [hstart.standing, hnothing]
    exact Standing.isRecorded_fresh
  · intro past w a w' hrun hreader hbefore hact hstep hshifted hrecorded
    obtain ⟨-, hsent⟩ := World.step_sent (hrun.hasReader hstart hreader)
      (hrun.not_created hstart.not_created) hact hstep
    obtain ⟨w₁, opening, hfresh, hfull⟩ := hrun.exists_fresh hstart
    cases hshifted with
    | visited hfree hheld hturned =>
      rw [World.statuses_visited hsent hfree hheld]
      exact hrecorded.tells (hturned.tells rfl hbefore (hrun.isReadable hvalid hread)
        (hfull.isAddressed hfresh id))
    | settled _ hfree _ hsettled =>
      rw [World.statuses_settled hsent hbefore hfree]
      obtain ⟨htold, hlatch⟩ := hsettled.told
      exact hrecorded.stays htold fun hset => hlatch.trans hset
    | aside _ hsettle hkept hstanding =>
      have hlate := World.ne_sendLate hbefore hstep id
      rw [World.statuses_aside hsent (hfull.statuses_delivered hfresh hsettle hlate) hkept, hstanding]
      exact hrecorded

end Run

namespace Standing

variable {s : Standing} {l : List StatusChange}

-- The last status tells what the flag is and why.
theorem IsRecorded.isDown_last (h : s.IsRecorded l) (ht : s.IsTold) :
    s.isDown = (l.getLast?.map StatusChange.isDown).getD true := by
  have hlast := h.last
  cases hl : l.getLast? with
  | none =>
    rw [hl, Option.map_none] at hlast
    cases hd : s.isDown with
    | true => rfl
    | false =>
      obtain ⟨-, hfirst | hreturned⟩ := ht.up hd
      · exact absurd (hlast.symm.trans hfirst) nofun
      · exact absurd (hlast.symm.trans hreturned) nofun
  | some c =>
    rw [hl, Option.map_some] at hlast
    have hc := h.faithful c (List.mem_of_getLast? hl)
    rw [Option.map_some, Option.getD_some]
    cases hd : s.isDown with
    | true =>
      obtain ⟨-, hnone⟩ | ⟨hreason, htold⟩ := ht.down hd
      · exact absurd (hlast.symm.trans hnone) nofun
      · have hstatus := Option.some.inj (hlast.symm.trans htold)
        rw [eq_comm, hc.down, hstatus]
        cases hr : s.downReason with
        | default => exact absurd hr hreason
        | aliveInterval => exact .inl rfl
        | queueDelay => exact .inr (.inl rfl)
        | other => exact .inr (.inr rfl)
    | false =>
      obtain ⟨-, htold⟩ := ht.up hd
      rw [eq_comm, hc.up]
      rw [hlast, Option.some.injEq, Option.some.injEq] at htold
      exact htold

-- While up no reason is kept, so a reason is that of a producer that is down.
theorem IsRecorded.reason_last (h : s.IsRecorded l) (ht : s.IsTold)
    (hreason : s.downReason ≠ .default) :
    l.getLast?.map StatusChange.reason = some s.downReason.status := by
  rw [← h.last]
  cases hd : s.isDown with
  | true =>
    obtain ⟨hdefault, -⟩ | ⟨-, htold⟩ := ht.down hd
    · exact absurd hdefault hreason
    · exact htold
  | false => exact absurd (ht.up hd).1 hreason

end Standing

-- Statuses of a producer change their reason each time, their flags go with the reasons,
-- and the last of them is the flag of the producer. The status of a visit that is under
-- way may still wait for room in the stream.
theorem Run.statuses_record_flag {w₀ w : World} {past : List Step} {id : ProducerId}
    (h : Run w₀ past w) (hstart : w₀.IsJustOpened) (hread : (w₀.tracked id).IsReadable)
    (hreader : ∀ s ∈ past, s.act ≠ .abandon) (hopen : w.isOpen = true) :
    let sent := Notification.statuses id w.sent
    (sent.IsChain fun c c' => c.reason ≠ c'.reason) ∧
      (∀ c ∈ sent, c.producer.flaggedDown = c.isDown ∧
        (c.isDown = true ↔
          c.reason = .aliveInterval ∨ c.reason = .queueDelay ∨ c.reason = .other) ∧
        (c.isDown = false ↔
          c.reason = .firstRecoveryCompleted ∨ c.reason = .returnedFromInactivity)) ∧
      (sent.map StatusChange.reason).count .firstRecoveryCompleted ≤ 1 ∧
      (id ∉ w.held → w.statuses id = sent) ∧
      (w.tracked id).isDown = ((w.statuses id).getLast?.map StatusChange.isDown).getD true ∧
      ((w.tracked id).tracker.downReason ≠ .default →
        (w.statuses id).getLast?.map StatusChange.reason =
          some (w.tracked id).tracker.downReason.status) := by
  have hrecorded := h.isRecorded hstart hread hreader hopen
  have htold := (h.isSound hstart hread hopen).told
  have hsplit : w.statuses id = Notification.statuses id w.sent ++
      Notification.statuses id (w.awaited id) := Notification.statuses_append ..
  have hchanges := hrecorded.changes
  have hcount := hrecorded.first
  rw [hsplit] at hchanges hcount
  rw [List.map_append, List.count_append] at hcount
  refine ⟨hchanges.left_of_append, fun c hc => ?_, ?_, fun hfree => ?_,
    hrecorded.isDown_last htold, hrecorded.reason_last htold⟩
  · have hfaithful := hrecorded.faithful c (hsplit ▸ List.mem_append_left _ hc)
    exact ⟨hfaithful.flag, hfaithful.down, hfaithful.up⟩
  · split at hcount <;> omega
  · rw [hsplit, World.awaited_of_free (World.getElem?_held_of_not_mem hfree)]
    exact List.append_nil _

theorem Run.delay_recorded : ∃ past w, Run World.openedLiveOdds past w ∧
    ((Notification.statuses ⟨1⟩ w.sent).IsChain fun c c' => c.reason ≠ c'.reason) ∧
    (Notification.statuses ⟨1⟩ w.sent).map StatusChange.reason =
      [.firstRecoveryCompleted, .queueDelay] := by
  have hrun : Run World.openedLiveOdds _ _ := Run.start.play World.delayActs
  have hreader : ∀ s ∈ (World.openedLiveOdds.play [] World.delayActs).1, s.act ≠ .abandon := by
    intro s hs hact
    obtain hnone | hmem := World.act_of_mem_play hs
    · exact absurd hnone List.not_mem_nil
    · rw [hact] at hmem
      simp [World.delayActs] at hmem
  obtain ⟨hchanges, -⟩ := hrun.statuses_record_flag World.isJustOpened_openedLiveOdds
    World.isReadable_openedLiveOdds hreader rfl
  exact ⟨_, _, hrun, hchanges, rfl⟩

end FeedWatch
