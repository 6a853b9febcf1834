import FeedWatch.Proofs.HealthPass
import FeedWatch.Proofs.Lifecycle

namespace FeedWatch

namespace Notification

-- What is said about a producer.
def about (id : ProducerId) (l : List Notification) : List Notification :=
  l.filter fun n => n.producer.id = id

variable {id j : ProducerId} {l l' : List Notification}

theorem about_append (id : ProducerId) (l l' : List Notification) :
    about id (l ++ l') = about id l ++ about id l' := List.filter_append ..

theorem about_self (h : ∀ n ∈ l, n.producer.id = id) : about id l = l :=
  List.filter_eq_self.mpr fun n hn => decide_eq_true (h n hn)

theorem about_ne (h : ∀ n ∈ l, n.producer.id = j) (hj : j ≠ id) : about id l = [] :=
  List.filter_eq_nil_iff.mpr fun n hn => by simp [h n hn, hj]

-- Where the same is said about each producer, the same is said.
theorem perm_of_about (h : ∀ id, about id l = about id l') : l.Perm l' := by
  refine List.perm_iff_count.mpr fun n => ?_
  have hcount := congrArg (List.count n) (h n.producer.id)
  rwa [about, about, List.count_filter (by simp), List.count_filter (by simp)] at hcount

end Notification

open Notification (about about_append about_self about_ne)

-- What a step hands over to be sent.
def Step.emitted (s : Step) : List Notification :=
  match s.act with
  | .visit id _ => s.after.awaited id
  | _ => []

-- All that was handed over, in order.
def emissions (past : List Step) : List Notification := past.reverse.flatMap Step.emitted

theorem emissions_append (later earlier : List Step) :
    emissions (later ++ earlier) = emissions earlier ++ emissions later := by
  simp [emissions]

theorem emissions_cons (s : Step) (past : List Step) :
    emissions (s :: past) = emissions past ++ s.emitted := by
  simp [emissions]

-- What a step gives up.
def Step.lost (s : Step) : List Notification :=
  match s.act with
  | .settle id => if s.before.isOpen then [] else s.before.awaited id
  | _ => []

-- All that was given up. The last of it stands first.
def losses (past : List Step) : List Notification := past.flatMap Step.lost

theorem losses_cons (s : Step) (past : List Step) : losses (s :: past) = s.lost ++ losses past :=
  List.flatMap_cons

namespace World

variable {w w' : World} {a : Act} {id : ProducerId}

-- What is still to be sent.
def waiting (w : World) : List Notification := w.held.keys.flatMap w.awaited

-- The user has come to the end of the stream: it is empty, and nothing waits that could still
-- come into it.
def HasEnded (w : World) : Prop := w.service.hasEnded = true ∧ w.waiting = []

-- There is no stream before the opening, and then someone listens to it.
def Listens (w : World) : Prop :=
  w.service.stream = none ∧ w.isOpen = false ∧ w.heard = [] ∨
    w.HasReader ∧ w.manager.phase ≠ .created

theorem Listens.step (h : w.Listens) (ha : a ≠ .abandon) (hstep : w.step a = some w') :
    w'.Listens ∧ w'.sent = w.sent ++ w.delivered a := by
  obtain ⟨hstream, hshut, hheard⟩ | ⟨hreader, hphase⟩ := h
  · have hsent : w.sent = [] := by rw [sent, hheard, queue_of_no_stream hstream, List.nil_append]
    have hnone : w.delivered a = [] := by
      refine delivered_of_shut hshut ?_
      rintro id rfl
      cases stepped hstep with
      | sentLate _ _ hsome => cases hstream.symm.trans hsome
    have hnothing : w'.sent = [] := by
      have hsub := step_sent_sublist hstep
      rwa [hsent, hnone, List.append_nil, List.sublist_nil] at hsub
    have hheard' : w'.heard = [] := (List.append_eq_nil_iff.mp hnothing).1
    refine ⟨?_, by rw [hnothing, hsent, hnone, List.append_nil]⟩
    by_cases hopening : a = .start
    · subst hopening
      cases stepped hstep with
      | started hstart =>
        obtain ⟨-, hopened, -⟩ := Manager.start_manager (Service.start_manager hstart)
        refine .inr ⟨⟨_, Service.start_stream hstart, rfl⟩, ?_⟩
        simp [manager, hopened]
      | notStarted => exact .inl ⟨hstream, hshut, hheard⟩
    have hshut' : w'.isOpen = false := by
      rw [not_isOpen_iff] at hshut ⊢
      obtain ⟨-, hsame | ⟨hact, -⟩ | ⟨-, hclosed⟩⟩ := step_setting hstep
      · rwa [hsame]
      · exact absurd hact hopening
      · simp [hclosed]
    cases stepped hstep with
    | started => exact absurd rfl hopening
    | sentLate _ _ hsome => cases hstream.symm.trans hsome
    | settled _ hannounce =>
      obtain rfl := Option.some.inj ((Service.announce?_of_shut hshut).symm.trans hannounce)
      exact .inl ⟨hstream, hshut', hheard⟩
    | read hsome => cases hstream.symm.trans hsome
    | abandoned => exact absurd rfl ha
    | _ => exact .inl ⟨hstream, hshut', hheard'⟩
  · obtain ⟨hreader', hsent⟩ := step_sent hreader hphase ha hstep
    refine ⟨.inr ⟨hreader', ?_⟩, hsent⟩
    obtain ⟨-, hsame | ⟨-, hcreated, -⟩ | ⟨-, hclosed⟩⟩ := step_setting hstep
    · rwa [hsame]
    · exact absurd hcreated hphase
    · simp [hclosed]

theorem about_waiting (hown : ∀ id, ∀ n ∈ w.awaited id, n.producer.id = id) (id : ProducerId) :
    about id w.waiting = w.awaited id := by
  have hsplit (l : List ProducerId) (hl : l.Nodup) :
      about id (l.flatMap w.awaited) = if id ∈ l then w.awaited id else [] := by
    induction l with
    | nil => rfl
    | cons j l ih =>
      obtain ⟨hj, hl⟩ := List.nodup_cons.mp hl
      rw [List.flatMap_cons, about_append, ih hl]
      by_cases hid : id = j
      · subst hid
        rw [about_self (hown id), if_neg hj, if_pos List.mem_cons_self, List.append_nil]
      · rw [about_ne (hown j) (Ne.symm hid), List.nil_append]
        simp only [List.mem_cons, hid, false_or]
  rw [waiting, hsplit _ Std.ExtTreeMap.nodup_keys]
  split <;> rename_i hid
  · rfl
  · rw [Std.ExtTreeMap.mem_keys] at hid
    exact (awaited_of_free (getElem?_held_of_not_mem hid)).symm

theorem length_awaited_le (w : World) (id : ProducerId) : (w.awaited id).length ≤ 1 := by
  rw [awaited]
  cases w.held[id]?.bind Pause.notification <;> simp

-- Nothing is handed over outside the open phase.
theorem emitted_of_shut (hshut : w.isOpen = false) (hstep : w.step a = some w') :
    (Step.mk w a w').emitted = [] := by
  cases stepped hstep with
  | @visited id v =>
    have hnone : (w.manager.visit w.moment id v).1.notification = none :=
      Manager.visit_notification_of_shut hshut v
    simp only [Step.emitted, awaited, Std.ExtTreeMap.getElem?_insert_self, Option.bind_some, hnone,
      Option.toList_none]
  | _ => rfl

theorem claimed_of_shut (hshut : w.isOpen = false) (a : Act) : w.claimed a = [] := by
  cases a with
  | settle id =>
    simp only [claimed]
    cases w.held[id]? with
    | none => rfl
    | some pause =>
      have hnone : (w.manager.finish w.moment id pause.rest).1 = none :=
        (Manager.finish_of_shut hshut pause.rest).1
      simp only [Option.bind_some, hnone, Option.toList_none]
  | _ => rfl

theorem waiting_eq_nil_iff : w.waiting = [] ↔ ∀ id, w.awaited id = [] := by
  refine ⟨fun h id => ?_, fun h => List.flatMap_eq_nil_iff.mpr fun id _ => h id⟩
  by_cases hid : id ∈ w.held
  · exact List.flatMap_eq_nil_iff.mp h id (Std.ExtTreeMap.mem_keys.mpr hid)
  · exact awaited_of_free (getElem?_held_of_not_mem hid)

end World

namespace Run

variable {w₀ w w' : World} {past : List Step} {a : Act} {id : ProducerId}

theorem listens (h : Run w₀ past w) (hstart : w₀.IsFresh) (hreads : ∀ s ∈ past, s.act ≠ .abandon) :
    w.Listens := by
  induction h with
  | start =>
    obtain ⟨config, descriptors, fallback, ids, now, -, rfl⟩ := hstart.eq
    exact .inl ⟨rfl, rfl, rfl⟩
  | step hrun hstep ih =>
    obtain ⟨ha, hreads⟩ := List.forall_mem_cons.mp hreads
    exact ((ih hreads).step ha hstep).1

theorem closed_iff (h : Run w₀ past w) (hstart : w₀.IsFresh) :
    w.manager.phase = .closed ↔ ∃ s ∈ past, s.act = .close := by
  simpa using ((RunUnder.start.append h).phase_iff hstart.phase).2

-- Before the opening no visit has anything to say.
theorem awaited_of_created (h : Run w₀ past w) (hstart : w₀.IsFresh)
    (hcreated : w.manager.phase = .created) (id : ProducerId) : w.awaited id = [] := by
  induction h with
  | start => exact World.awaited_of_free (by simp [hstart.held])
  | step hrun hstep ih =>
    obtain ⟨-, hsame | ⟨-, -, hopened⟩ | ⟨-, hclosed⟩⟩ := World.step_setting hstep
    · rw [hsame] at hcreated
      exact World.awaited_of_shut (World.not_isOpen_iff.mpr (hcreated ▸ nofun)) hstep (ih hcreated)
    · exact absurd (hopened.symm.trans hcreated) nofun
    · exact absurd (hclosed.symm.trans hcreated) nofun

-- Nothing is given up before the close.
theorem lost_of_not_closed (h : Run w₀ past w) (hstart : w₀.IsFresh)
    (hclosed : w.manager.phase ≠ .closed) : (Step.mk w a w').lost = [] := by
  cases a with
  | settle id =>
    simp only [Step.lost]
    split <;> rename_i hopen
    · rfl
    · refine h.awaited_of_created hstart ?_ id
      cases hphase : w.manager.phase with
      | created => rfl
      | opened => exact absurd (World.isOpen_iff.mpr hphase) hopen
      | closed => exact absurd hphase hclosed
  | _ => rfl

-- What was still to be sent of a producer, and what is handed over now, is what leaves, what is
-- still to be sent then, and what is given up.
theorem about_step (h : Run w₀ past w) (hstart : w₀.IsFresh) (hstep : w.step a = some w') :
    w.awaited id ++ about id (Step.mk w a w').emitted =
      about id (w.delivered a) ++ w'.awaited id ++ about id (Step.mk w a w').lost := by
  have hown : about id (w.awaited id) = w.awaited id :=
    about_self fun _ hn => h.awaits_own hstart hn
  have hown' : about id (w'.awaited id) = w'.awaited id :=
    about_self fun _ hn => (h.step hstep).awaits_own hstart hn
  have hother {j : ProducerId} (hj : j ≠ id) {l : List Notification} (hl : l.Sublist (w.awaited j)) :
      about id l = [] := about_ne (fun _ hn => h.awaits_own hstart (hl.subset hn)) hj
  cases h.moved hstart.isValid hstep id with
  | visited hfree =>
    rw [World.awaited_of_free hfree]
    exact hown'.trans (List.append_nil _).symm
  | settled _ hfree =>
    rw [World.awaited_of_free hfree, List.append_nil]
    simp only [World.delivered, Step.lost]
    split
    · exact congrArg (· ++ []) hown.symm
    · exact (List.append_nil _).trans hown.symm
  | touched hvisit hsettle _ _ hkept =>
    have hemitted : about id (Step.mk w a w').emitted = [] := by
      cases a with
      | visit j v =>
        exact about_ne (fun _ hn => (h.step hstep).awaits_own hstart hn)
          fun hj => hvisit v (hj ▸ rfl)
      | _ => rfl
    have hlost : about id (Step.mk w a w').lost = [] := by
      cases a with
      | settle j =>
        simp only [Step.lost]
        split
        · rfl
        · exact hother (fun hj => hsettle (hj ▸ rfl)) (List.Sublist.refl _)
      | _ => rfl
    rw [hemitted, hlost, List.append_nil, List.append_nil]
    by_cases hlate : a = .sendLate id
    · subst hlate
      rw [(World.of_sendLate hstep).2, List.append_nil]
      exact hown.symm
    · have hdelivered : about id (w.delivered a) = [] := by
        cases a with
        | settle j => exact hother (fun hj => hsettle (hj ▸ rfl)) (w.delivered_settle_sublist j)
        | sendLate j => exact hother (fun hj => hlate (hj ▸ rfl)) (List.Sublist.refl _)
        | _ => rfl
      have hsame : w'.awaited id = w.awaited id := by
        rw [World.awaited, World.awaited, hkept hlate]
      rw [hdelivered, hsame, List.nil_append]

-- Until the close all that was handed over of a producer has left, in order, but for what its
-- visit has still to send.
theorem about_emissions (h : Run w₀ past w) (hstart : w₀.IsFresh)
    (hreads : ∀ s ∈ past, s.act ≠ .abandon) (hclose : ∀ s ∈ past, s.act ≠ .close)
    (id : ProducerId) : about id (emissions past) = about id w.sent ++ w.awaited id := by
  induction h with
  | start =>
    rw [hstart.sent, World.awaited_of_free (by simp [hstart.held])]
    rfl
  | @step past w w' a hrun hstep ih =>
    obtain ⟨hact, hreads⟩ := List.forall_mem_cons.mp hreads
    obtain ⟨-, hclose⟩ := List.forall_mem_cons.mp hclose
    have hopen : w.manager.phase ≠ .closed := by
      intro hclosed
      obtain ⟨s, hs, hact⟩ := (hrun.closed_iff hstart).mp hclosed
      exact hclose s hs hact
    have hnothing : about id (Step.mk w a w').lost = [] := by
      rw [hrun.lost_of_not_closed hstart hopen]
      rfl
    rw [emissions_cons, about_append, ih hreads hclose, List.append_assoc,
      hrun.about_step hstart hstep, hnothing, List.append_nil,
      ((hrun.listens hstart hreads).step hact hstep).2, about_append, List.append_assoc]

theorem about_waiting (h : Run w₀ past w) (hstart : w₀.IsFresh) (id : ProducerId) :
    about id w.waiting = w.awaited id :=
  World.about_waiting (fun _ _ hn => h.awaits_own hstart hn) id

theorem perm_emissions (h : Run w₀ past w) (hstart : w₀.IsFresh)
    (hreads : ∀ s ∈ past, s.act ≠ .abandon) (hclose : ∀ s ∈ past, s.act ≠ .close) :
    (emissions past).Perm (w.heard ++ w.queue ++ w.waiting) := by
  refine Notification.perm_of_about fun id => ?_
  rw [h.about_emissions hstart hreads hclose, about_append, h.about_waiting hstart]
  rfl

-- While the user reads on, what the acts send comes out of the stream or is in it, in order.
theorem sent_of_run {later : List Step} (h : Run w₀ past w) (hstart : w₀.IsFresh)
    (hlater : Run w later w') (hreads : ∀ s ∈ later ++ past, s.act ≠ .abandon) :
    w'.sent = w.sent ++ messages later := by
  induction hlater with
  | start => exact (List.append_nil _).symm
  | @step later w₁ w₂ a hrun hstep ih =>
    obtain ⟨hact, hreads⟩ := List.forall_mem_cons.mp hreads
    rw [(((h.append hrun).listens hstart hreads).step hact hstep).2, ih hreads, messages_cons,
      List.append_assoc]
    rfl

theorem closed_of_run {later : List Step} (hclosed : w.manager.phase = .closed)
    (hlater : Run w later w') : w'.manager.phase = .closed := by
  induction hlater with
  | start => exact hclosed
  | step _ hstep ih => exact World.closed_of_step hstep ih

-- Nothing is handed over any more, and no recovery is claimed.
theorem idle_of_closed {later : List Step} (hclosed : w.manager.phase = .closed)
    (hlater : Run w later w') :
    emissions later = [] ∧ ∀ s ∈ later, s.effect.recoveries = [] := by
  induction hlater with
  | start => exact ⟨rfl, fun _ hs => absurd hs List.not_mem_nil⟩
  | step hrun hstep ih =>
    have hshut := World.isOpen_of_closed (hrun.closed_of_run hclosed)
    rw [emissions_cons, ih.1, World.emitted_of_shut hshut hstep]
    exact ⟨rfl, List.forall_mem_cons.mpr ⟨World.claimed_of_shut hshut _, ih.2⟩⟩

-- After the close nothing leaves but what is late.
theorem messages_of_closed {later : List Step} (hclosed : w.manager.phase = .closed)
    (hlater : Run w later w') (hlate : ∀ s ∈ later, ∀ id, s.act ≠ .sendLate id) :
    messages later = [] := by
  induction hlater with
  | start => rfl
  | step hrun hstep ih =>
    obtain ⟨hlast, hlate⟩ := List.forall_mem_cons.mp hlate
    have hshut := World.isOpen_of_closed (hrun.closed_of_run hclosed)
    rw [messages_cons, ih hlate, List.nil_append]
    exact World.delivered_of_shut hshut hlast

-- What waited at the close leaves, or still waits, or is given up.
theorem waited_of_closed {later : List Step} (h : Run w₀ past w) (hstart : w₀.IsFresh)
    (hclosed : w.manager.phase = .closed) (hlater : Run w later w') (id : ProducerId) :
    w.awaited id = about id (messages later) ++ w'.awaited id ++ about id (losses later) := by
  induction hlater with
  | start => exact (List.append_nil _).symm
  | @step later w₁ w₂ a hrun hstep ih =>
    have hshut := World.isOpen_of_closed (hrun.closed_of_run hclosed)
    have hbefore : w₁.awaited id ++ about id (Step.mk w₁ a w₂).emitted =
        about id (w₁.delivered a) ++ w₂.awaited id ++ about id (Step.mk w₁ a w₂).lost :=
      (h.append hrun).about_step hstart hstep
    have hnothing : about id (Step.mk w₁ a w₂).emitted = [] := by
      rw [World.emitted_of_shut hshut hstep]
      rfl
    rw [hnothing, List.append_nil] at hbefore
    rw [ih, hbefore, messages_cons, losses_cons, about_append, about_append]
    simp only [Step.effect, List.append_assoc]

end Run

theorem Stream.length_push? {s s' : Stream} {n : Notification} (h : s.push? n = some s') :
    s'.capacity = s.capacity ∧
      (s.queue.length ≤ s.capacity → s'.queue.length ≤ s'.capacity) := by
  unfold push? at h
  split at h
  · obtain rfl := Option.some.inj h
    exact ⟨rfl, id⟩
  · split at h <;> rename_i hroom
    · obtain rfl := Option.some.inj h
      exact ⟨rfl, fun _ => List.length_append.trans_le hroom⟩
    · exact absurd h nofun

theorem Service.announce?_stream {s s' : Service} {pause : Pause} {stream : Stream}
    (h : s.announce? pause = some s') (hstream : s'.stream = some stream) :
    ∃ before, s.stream = some before ∧ stream.capacity = before.capacity ∧
      (before.queue.length ≤ before.capacity → stream.queue.length ≤ stream.capacity) := by
  obtain ⟨rfl, -⟩ | ⟨n, before, after, -, hbefore, -, hpush, rfl⟩ := of_announce? h
  · exact ⟨stream, hstream, rfl, id⟩
  · obtain rfl := Option.some.inj hstream
    exact ⟨before, hbefore, Stream.length_push? hpush⟩

namespace World

variable {w w' : World} {a : Act} {id : ProducerId} {pause : Pause}

-- The stream holds as much as it was configured for, at most.
def IsBounded (w : World) : Prop :=
  ∀ stream, w.service.stream = some stream →
    stream.capacity = w.manager.config.capacity.toNat ∧ stream.queue.length ≤ stream.capacity

theorem IsBounded.step (h : w.IsBounded) (hstep : w.step a = some w') : w'.IsBounded := by
  have hconfig := (step_setting hstep).1
  intro stream hstream
  rw [hconfig]
  cases stepped hstep with
  | @started service hstart =>
    obtain rfl := Option.some.inj ((Service.start_stream hstart).symm.trans hstream)
    exact ⟨congrArg (·.capacity.toNat) hconfig, Nat.zero_le _⟩
  | sentLate _ _ hbefore _ hpush =>
    obtain rfl := Option.some.inj hstream
    obtain ⟨hcapacity, hlength⟩ := Stream.length_push? hpush
    obtain ⟨hsame, hbound⟩ := h _ hbefore
    exact ⟨hcapacity.trans hsame, hlength hbound⟩
  | settled _ hannounce =>
    obtain ⟨before, hbefore, hcapacity, hlength⟩ := Service.announce?_stream hannounce hstream
    obtain ⟨hsame, hbound⟩ := h before hbefore
    exact ⟨hcapacity.trans hsame, hlength hbound⟩
  | @read count before hbefore =>
    obtain rfl := Option.some.inj hstream
    obtain ⟨hsame, hbound⟩ := h before hbefore
    exact ⟨hsame, (List.drop_sublist _ _).length_le.trans hbound⟩
  | abandoned hbefore =>
    obtain rfl := Option.some.inj hstream
    exact ⟨(h _ hbefore).1, Nat.zero_le _⟩
  | _ => exact h stream hstream

theorem IsBounded.length_queue_le (h : w.IsBounded) :
    w.queue.length ≤ w.manager.config.capacity.toNat := by
  unfold queue
  split <;> rename_i hstream
  · obtain ⟨hcapacity, hlength⟩ := h _ hstream
    exact hcapacity ▸ hlength
  · exact Nat.zero_le _

-- A visit waits exactly while an open manager has no room for what it has to say.
theorem step_settle_eq_none_iff (h : w.Listens) (hheld : w.held[id]? = some pause) :
    w.step (.settle id) = none ↔ w.isOpen = true ∧ w.IsFull ∧ pause.notification ≠ none := by
  have hannounce : w.step (.settle id) = none ↔ w.service.announce? pause = none := by
    cases hannounce : w.service.announce? pause <;> simp [step, hheld, Service.settle?, hannounce]
  constructor
  · intro hnone
    have hfull : w.IsFull := by
      obtain ⟨w', hstep⟩ | hfull := exists_step_settle hheld
      · cases hnone.symm.trans hstep
      · exact hfull
    rw [hannounce] at hnone
    refine ⟨?_, hfull, fun hsilent => ?_⟩
    · by_contra hshut
      cases (Service.announce?_of_shut (Bool.eq_false_iff.mpr hshut)).symm.trans hnone
    · simp [Service.announce?, hsilent] at hnone
  · rintro ⟨hopen, ⟨stream, hstream, hfull⟩, hsaid⟩
    obtain ⟨-, hshut, -⟩ | ⟨⟨_, hsame, hlistens⟩, -⟩ := h
    · cases hshut.symm.trans hopen
    obtain rfl := Option.some.inj (hsame.symm.trans hstream)
    obtain ⟨n, hn⟩ := Option.ne_none_iff_exists'.mp hsaid
    rw [hannounce, Service.announce?, hn, hstream]
    have hopen' : w.service.manager.isOpen = true := hopen
    simp [hopen', Stream.push?, hlistens, hfull]

-- Once the user has read anything there is room again.
theorem exists_settle_of_read {count : Nat} (h : w.IsBounded) (hvalid : w.IsValid)
    (hheld : w.held[id]? = some pause) (hcount : 0 < count)
    (hread : w.step (.read count) = some w') : ∃ w'', w'.step (.settle id) = some w'' := by
  have hcapacity := Config.capacity_pos hvalid
  have hheld' : w'.held[id]? = some pause := (manager_of_aside rfl hread).2 ▸ hheld
  obtain hstep | ⟨stream, hstream, hfull⟩ := exists_step_settle hheld'
  · exact hstep
  · cases stepped hread with
    | read hbefore =>
      obtain rfl := Option.some.inj hstream
      obtain ⟨hsame, hbound⟩ := h _ hbefore
      simp only [List.length_drop] at hfull
      omega
    | unread hnone => exact absurd (hnone.symm.trans hstream) nofun

-- What the user reads is what stands first.
theorem exists_step_read (w : World) (count : Nat) : ∃ w', w.step (.read count) = some w' ∧
    w'.heard = w.heard ++ w.queue.take count ∧ w'.queue = w.queue.drop count := by
  cases hstream : w.service.stream with
  | none =>
    have hqueue : w.queue = [] := queue_of_no_stream hstream
    exact ⟨w, by simp only [step, hstream], by simp [hqueue], by simp [hqueue]⟩
  | some stream =>
    have hqueue : w.queue = stream.queue := queue_of_stream hstream
    let rest := { stream with queue := stream.queue.drop count }
    refine ⟨{ w with
      service := { w.service with stream := some rest }
      heard := w.heard ++ stream.queue.take count }, ?_, ?_, ?_⟩
    · simp only [step, hstream, rest]
    · rw [hqueue]
    · rw [hqueue]
      rfl

theorem hasEnded_iff (hstream : w.service.stream ≠ none) :
    w.HasEnded ↔ w.manager.phase = .closed ∧ w.queue = [] ∧ w.waiting = [] := by
  obtain ⟨stream, hsome⟩ := Option.ne_none_iff_exists'.mp hstream
  simp [HasEnded, Service.hasEnded, queue, hsome, manager, and_assoc]

-- No more can be read than is in the stream.
theorem heard_step (hstep : w.step a = some w') :
    w'.heard = w.heard ∨ ∃ count, w'.heard = w.heard ++ w.queue.take count := by
  cases stepped hstep with
  | @read count stream hstream =>
    refine .inr ⟨count, ?_⟩
    rw [queue_of_stream hstream]
  | _ => exact .inl rfl

theorem stream_of_closed (hclosed : w.manager.phase = .closed) (hstep : w.step a = some w')
    (hstream : w.service.stream ≠ none) : w'.service.stream ≠ none := by
  cases stepped hstep with
  | started hstart =>
    rw [Service.start_stream hstart]
    exact nofun
  | settled _ hannounce =>
    have hshut := isOpen_of_closed hclosed
    obtain rfl := Option.some.inj ((Service.announce?_of_shut hshut).symm.trans hannounce)
    exact hstream
  | sentLate => exact nofun
  | read => exact nofun
  | abandoned => exact nofun
  | _ => exact hstream

-- After the end of the stream nothing comes.
theorem HasEnded.step (h : w.HasEnded) (hstep : w.step a = some w') :
    w'.HasEnded ∧ w'.heard = w.heard := by
  have hstream : w.service.stream ≠ none := by
    intro hnone
    simp [HasEnded, Service.hasEnded, hnone] at h
  obtain ⟨hclosed, hempty, hwaiting⟩ := (hasEnded_iff hstream).mp h
  have hshut := isOpen_of_closed hclosed
  have hnone := waiting_eq_nil_iff.mp hwaiting
  have hsame : w'.heard = w.heard := by
    obtain hsame | ⟨count, hread⟩ := heard_step hstep
    · exact hsame
    · rw [hread, hempty, List.take_nil, List.append_nil]
  have hdelivered : w.delivered a = [] := by
    cases a with
    | settle id => exact List.sublist_nil.mp (hnone id ▸ w.delivered_settle_sublist id)
    | sendLate id => exact hnone id
    | _ => rfl
  have hempty' : w'.queue = [] := by
    have hsub := (step_sent_sublist hstep).length_le
    rw [hdelivered, List.append_nil, sent, sent, hempty, hsame] at hsub
    simp only [List.length_append, List.length_nil] at hsub
    exact List.length_eq_zero_iff.mp (by omega)
  refine ⟨(hasEnded_iff (stream_of_closed hclosed hstep hstream)).mpr
    ⟨closed_of_step hstep hclosed, hempty', waiting_eq_nil_iff.mpr fun id => ?_⟩, hsame⟩
  exact awaited_of_shut hshut hstep (hnone id)

-- A producer stays held until its visit is settled.
theorem held_of_step (hvalid : w.IsValid) (hheld : w.held[id]? = some pause)
    (hstep : w.step a = some w') (ha : a ≠ .settle id) :
    ∃ pause', w'.held[id]? = some pause' ∧ pause'.rest = pause.rest ∧
      (pause' = pause ∨ a = .sendLate id ∧ pause'.notification = none) := by
  cases step_moved hvalid.limit_nonneg hstep id with
  | visited hfree => exact absurd (hfree.symm.trans hheld) nofun
  | settled => exact absurd rfl ha
  | touched _ _ _ _ hkept =>
    by_cases hlate : a = .sendLate id
    · subst hlate
      cases stepped hstep with
      | @sentLate _ before _ _ _ hbefore =>
        obtain rfl := Option.some.inj (hheld.symm.trans hbefore)
        exact ⟨_, Std.ExtTreeMap.getElem?_insert_self, rfl, .inr ⟨rfl, rfl⟩⟩
    · exact ⟨pause, (hkept hlate).trans hheld, rfl, .inl rfl⟩

end World

-- What becomes of the messages from the close on. `before` is the world that it found, and
-- `later` what happened since.
structure Closes (before : World) (past later : List Step) (w : World) : Prop where
  -- what was in the stream can still be read, in order, and after it nothing but what waited
  -- and leaves late
  stream : w.heard ++ w.queue = before.heard ++ before.queue ++ messages later
  -- each message that waited has left late, or waits, or was given up
  waited : before.waiting.Perm (messages later ++ w.waiting ++ losses later)
  -- nothing else is lost, and those of one producer stand in the order in which they were
  -- handed over
  accounted : (emissions past).Perm (w.heard ++ w.queue ++ w.waiting ++ losses later) ∧
    ∀ id, about id (emissions past) =
      about id w.heard ++ about id w.queue ++ w.awaited id ++ about id (losses later)
  -- no recovery is claimed
  unclaimed : ∀ s ∈ later, s.effect.recoveries = []

-- The messages of a stream with room for some of them only.
structure Delivers (past : List Step) (w : World) : Prop where
  bounded : w.queue.length ≤ w.manager.config.capacity.toNat
  -- each visit has one message to send at most, and it is about the producer that it holds
  one : ∀ id, about id w.waiting = w.awaited id ∧ (w.awaited id).length ≤ 1
  -- nothing is handed over outside the open phase
  shut : ∀ s ∈ past, s.before.isOpen = false → s.emitted = []
  -- until the close each message was read, or is in the stream, or waits, and those of one
  -- producer stand in the order in which they were handed over
  accounted : (∀ s ∈ past, s.act ≠ .close) →
    (emissions past).Perm (w.heard ++ w.queue ++ w.waiting) ∧
      ∀ id, about id (emissions past) = about id w.heard ++ about id w.queue ++ w.awaited id
  -- from the close on nothing is handed over, and what waits then may be lost
  closed : ∀ {later closing earlier}, past = later ++ closing :: earlier → closing.act = .close →
    (∀ s ∈ earlier, s.act ≠ .close) → Closes closing.before past later w
  -- the user reads what stands first, and then comes to the end, after which nothing comes
  reads : ∀ count, ∃ w', w.step (.read count) = some w' ∧
    w'.heard = w.heard ++ w.queue.take count ∧ w'.queue = w.queue.drop count
  ends : w.service.stream ≠ none →
    (w.HasEnded ↔ (∃ s ∈ past, s.act = .close) ∧ w.queue = [] ∧ w.waiting = [])
  stays : w.HasEnded → ∀ {later w'}, Run w later w' → w'.HasEnded ∧ w'.heard = w.heard
  -- a visit holds its producer until it is settled, and waits as long as there is no room
  holds : ∀ {id pause a w'}, w.held[id]? = some pause → w.step a = some w' → a ≠ .settle id →
    ∃ pause', w'.held[id]? = some pause' ∧ pause'.rest = pause.rest ∧
      (pause' = pause ∨ a = .sendLate id ∧ pause'.notification = none)
  waits : ∀ {id pause}, w.held[id]? = some pause → (w.step (.settle id) = none ↔
    w.isOpen = true ∧ w.IsFull ∧ pause.notification ≠ none)
  freed : ∀ {id pause count w'}, w.held[id]? = some pause → 0 < count →
    w.step (.read count) = some w' → ∃ w'', w'.step (.settle id) = some w''
  -- after the close a call that waited comes to its end, and claims nothing
  finishes : (∃ s ∈ past, s.act = .close) → ∀ {id pause later}, w.held[id]? = some pause →
    (w.letGo id).CanRun later → ∃ between w', Run w between w' ∧
      between.reverse.map Step.act = .settle id :: later.flatMap Errand.acts ∧
      w.service.resume w.moment id pause later = (w'.service, .finished) ∧
      w'.held = w.held.erase id ∧ w'.claims = w.claims ∧
      w.manager.Unclaimed w'.manager ∧ w'.heard ++ w'.queue = w.heard ++ w.queue

namespace Run

variable {w₀ w w' : World} {past : List Step}

theorem isBounded (h : Run w₀ past w) (hstart : w₀.IsFresh) : w.IsBounded := by
  induction h with
  | start =>
    obtain ⟨config, descriptors, fallback, ids, now, -, rfl⟩ := hstart.eq
    exact fun stream hstream => absurd hstream nofun
  | step hrun hstep ih => exact ih.step hstep

theorem emitted_shut (h : Run w₀ past w) :
    ∀ s ∈ past, s.before.isOpen = false → s.emitted = [] := by
  induction h with
  | start => exact fun _ hs => absurd hs List.not_mem_nil
  | step hrun hstep ih =>
    exact List.forall_mem_cons.mpr ⟨fun hshut => World.emitted_of_shut hshut hstep, ih⟩

theorem closes {later earlier : List Step} {closing : Step}
    (h : Run w₀ (later ++ closing :: earlier) w) (hstart : w₀.IsFresh)
    (hreads : ∀ s ∈ later ++ closing :: earlier, s.act ≠ .abandon) (hact : closing.act = .close)
    (hfirst : ∀ s ∈ earlier, s.act ≠ .close) :
    Closes closing.before (later ++ closing :: earlier) later w := by
  obtain ⟨before, a, after⟩ := closing
  obtain rfl : a = .close := hact
  obtain ⟨hearlier, hstep, hlater⟩ := h.split
  dsimp only at hearlier hstep hlater
  obtain rfl := Option.some.inj hstep
  have hclosing := hearlier.step hstep
  have hreads' : ∀ s ∈ earlier, s.act ≠ .abandon := fun s hs => hreads s (by simp [hs])
  obtain ⟨hnothing, hunclaimed⟩ := idle_of_closed rfl hlater
  have hsent : w.sent = before.sent ++ messages later :=
    hclosing.sent_of_run hstart hlater hreads
  have hemissions (after : World) :
      emissions (later ++ ⟨before, .close, after⟩ :: earlier) = emissions earlier := by
    rw [emissions_append, emissions_cons, hnothing, List.append_nil]
    exact List.append_nil _
  -- the close itself leaves what waits as it is
  have hwaited (id : ProducerId) : before.awaited id =
      about id (messages later) ++ w.awaited id ++ about id (losses later) :=
    hclosing.waited_of_closed hstart rfl hlater id
  have haccounted (id : ProducerId) : about id (emissions earlier) =
      about id w.heard ++ about id w.queue ++ w.awaited id ++ about id (losses later) := by
    rw [hearlier.about_emissions hstart hreads' hfirst, hwaited, ← about_append, ← World.sent,
      hsent, about_append]
    simp only [List.append_assoc]
  refine ⟨hsent, Notification.perm_of_about fun id => ?_, ?_, hunclaimed⟩
  · rw [hearlier.about_waiting hstart, hwaited, about_append, about_append,
      h.about_waiting hstart]
  · rw [hemissions]
    refine ⟨Notification.perm_of_about fun id => ?_, haccounted⟩
    rw [haccounted, about_append, about_append, about_append, h.about_waiting hstart]

theorem stays_ended {later : List Step} (hended : w.HasEnded) (hlater : Run w later w') :
    w'.HasEnded ∧ w'.heard = w.heard := by
  induction hlater with
  | start => exact ⟨hended, rfl⟩
  | step _ hstep ih =>
    obtain ⟨hended', hsame⟩ := ih.1.step hstep
    exact ⟨hended', hsame.trans ih.2⟩

theorem finishes (h : Run w₀ past w) (hstart : w₀.IsFresh)
    (hreads : ∀ s ∈ past, s.act ≠ .abandon) (hclose : ∃ s ∈ past, s.act = .close)
    {id : ProducerId} {pause : Pause} {later : List Errand} (hheld : w.held[id]? = some pause)
    (hcan : (w.letGo id).CanRun later) :
    ∃ between w', Run w between w' ∧
      between.reverse.map Step.act = .settle id :: later.flatMap Errand.acts ∧
      w.service.resume w.moment id pause later = (w'.service, .finished) ∧
      w'.held = w.held.erase id ∧ w'.claims = w.claims ∧
      w.manager.Unclaimed w'.manager ∧ w'.sent = w.sent := by
  have hclosed := (h.closed_iff hstart).mpr hclose
  have hshut := World.isOpen_of_closed hclosed
  obtain ⟨manager, hresume, hunclaimed⟩ := Service.resume_of_shut hshut w.moment id pause later
  obtain ⟨between, w', hrun, hacts, hservice, -, hstops⟩ := World.does_resume hheld hcan
  rw [hresume] at hacts hservice hstops
  obtain ⟨hfree, hclaims⟩ := hstops
  rw [Halt.acts, List.append_nil] at hacts
  have hmem {s : Step} (hs : s ∈ between) : s.act ∈ Act.settle id :: later.flatMap Errand.acts :=
    hacts ▸ List.mem_map_of_mem (List.mem_reverse.mpr hs)
  have hreads' : ∀ s ∈ between ++ past, s.act ≠ .abandon := by
    refine fun s hs => (List.mem_append.mp hs).elim (fun hbetween habandon => ?_) (hreads s)
    have hact := hmem hbetween
    simp [habandon, Errand.acts] at hact
  have hnothing : messages between = [] := by
    refine hrun.messages_of_closed hclosed fun s hs i hlate => ?_
    have hact := hmem hs
    simp [hlate, Errand.acts] at hact
  have hmanager : w'.manager = manager := congrArg Service.manager hservice
  refine ⟨between, w', hrun, hacts, hservice ▸ hresume, hfree, hclaims, hmanager ▸ hunclaimed, ?_⟩
  rw [h.sent_of_run hstart hrun hreads', hnothing, List.append_nil]

end Run

-- A stream with room for one message.
def World.ofNarrowOdds : World :=
  .ofManager
    { config := { capacity := 1 }, directory := .ofDescriptors [liveOdds] "", ids := ⟨0, 1⟩ } 600000

-- A first recovery completes, and nobody reads so. An alive that asks for another one waits to
-- say that the producer is down, as long as the manager is open.
def narrowActs : List Act :=
  [.start, .visit ⟨1⟩ (.alive (.uniform 600000) false .systemAliveOnly), .settle ⟨1⟩,
    .visit ⟨1⟩ (.replayEnded ⟨1⟩ .all), .settle ⟨1⟩,
    .visit ⟨1⟩ (.alive (.uniform 600000) false .systemAliveOnly), .settle ⟨1⟩, .close,
    .settle ⟨1⟩, .read 1]

-- Once the user has read, what waits may also leave after the close.
example : (Notification.statuses ⟨1⟩ (World.ofNarrowOdds.play [] (narrowActs.take 7 ++
    [.read 1, .close, .sendLate ⟨1⟩, .settle ⟨1⟩, .read 1])).2.heard).map StatusChange.reason =
      [.firstRecoveryCompleted, .other] := by decide +kernel

end FeedWatch
