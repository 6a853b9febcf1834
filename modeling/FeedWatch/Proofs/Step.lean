import FeedWatch.Proofs.Manager
import FeedWatch.Proofs.World

namespace FeedWatch

-- An act as one producer sees it.
inductive Moved (id : ProducerId) (w w' : World) : Act → Prop where
  | visited {v : Visit} {pause : Pause} (hfree : w.held[id]? = none)
      (hheld : w'.held[id]? = some pause)
      (hvisit : Visited w.scene (w.tracked id) v pause (w'.tracked id)) : Moved id w w' (.visit id v)
  | settled {pause : Pause} {c : Option Claim} (hheld : w.held[id]? = some pause)
      (hfree : w'.held[id]? = none) (hclaims : w'.claims = w.claims ++ c.toList)
      (hfinish : Finished w.scene (w.tracked id) w.manager.ids pause.rest c (w'.tracked id)
        w'.manager.ids) :
      Moved id w w' (.settle id)
  | touched {a : Act} (hvisit : ∀ v, a ≠ .visit id v) (hsettle : a ≠ .settle id)
      (hrest : w'.held[id]?.map Pause.rest = w.held[id]?.map Pause.rest)
      (htouched : (w.tracked id).Touched (w'.tracked id))
      (hkept : a ≠ .sendLate id → w'.held[id]? = w.held[id]?) : Moved id w w' a

-- What a world can come to by an act, and when.
inductive Stepped (w : World) : Act → World → Prop where
  | started {service : Service} (hstart : w.service.start w.moment = .ok service) :
      Stepped w .start { w with service }
  | notStarted {e : RecoveryError} (hfail : w.service.start w.moment = .error e) :
      Stepped w .start w
  | closed : Stepped w .close { w with service := w.service.close }
  | visited {id : ProducerId} {v : Visit} (hfree : id ∉ w.held)
      (hcheck : v = .healthCheck → id ∈ w.manager.trackers) :
      Stepped w (.visit id v) { w.withManager (w.manager.visit w.moment id v).2 with
        held := w.held.insert id (w.manager.visit w.moment id v).1 }
  | sentLate {id : ProducerId} {pause : Pause} {n : Notification} {stream stream' : Stream}
      (hheld : w.held[id]? = some pause) (hn : pause.notification = some n)
      (hstream : w.service.stream = some stream) (hclosed : w.manager.phase = .closed)
      (hpush : stream.push? n = some stream') :
      Stepped w (.sendLate id) { w with
        service := { w.service with stream := some stream' }
        held := w.held.insert id { pause with notification := none } }
  | settled {id : ProducerId} {pause : Pause} {service : Service}
      (hheld : w.held[id]? = some pause) (hannounce : w.service.announce? pause = some service) :
      Stepped w (.settle id) { w with
        service := { service with manager := (w.manager.finish w.moment id pause.rest).2 }
        held := w.held.erase id
        claims := w.claims ++ (w.manager.finish w.moment id pause.rest).1.toList }
  | recoveryPosted {c : Claim} {answer : Except TransportError Unit} (hout : c ∈ w.claims) :
      Stepped w (.recoveryPosted c answer)
        { w.withManager (w.manager.recoveryPosted w.moment c answer) with
          claims := w.claims.erase c }
  | eventCalled {kind : Api.EventReplayKind} {id : ProducerId} {event : Urn} :
      Stepped w (.requestEvent kind id event)
        { w.withManager (w.manager.callEvent kind id event).2 with
          eventCalls := w.eventCalls ++ [(w.manager.callEvent kind id event).1] }
  | eventEntered {call : EventCall} (hcall : call ∈ w.eventCalls) (hfree : call.producer ∉ w.held) :
      Stepped w (.enterEvent call)
        { w.withManager (w.manager.enterEvent w.moment call).2 with
          eventCalls := w.eventCalls.erase call
          eventRequests := w.eventRequests ++
            (w.manager.enterEvent w.moment call).1.toOption.toList }
  | eventPosted {r : EventRequest} {answer : Except TransportError Unit}
      (hout : r ∈ w.eventRequests) (hfree : answer.isOk = false → r.producer ∉ w.held) :
      Stepped w (.eventPosted r answer)
        { w.withManager (w.manager.eventPosted w.moment r answer).2 with
          eventRequests := w.eventRequests.erase r }
  | enabled {id : ProducerId} {enabled : Bool} :
      Stepped w (.setEnabled id enabled)
        (w.withDirectory (w.manager.directory.setEnabled id enabled))
  | anchored {id : ProducerId} {recoveryFrom now : Instant} :
      Stepped w (.setRecoveryFrom id recoveryFrom now)
        (w.withDirectory (w.manager.directory.setRecoveryFrom id recoveryFrom now))
  | clockMoved {move : ClockMove} : Stepped w (.moveClock move) { w with now := move.apply w.now }
  | read {count : Nat} {stream : Stream} (hstream : w.service.stream = some stream) :
      Stepped w (.read count) { w with
        service := { w.service with
          stream := some { stream with queue := stream.queue.drop count } }
        heard := w.heard ++ stream.queue.take count }
  | abandoned {stream : Stream} (hstream : w.service.stream = some stream) :
      Stepped w .abandon { w with service := { w.service with stream := some stream.abandon } }
  | unread {count : Nat} (hnone : w.service.stream = none) : Stepped w (.read count) w
  | notAbandoned (hnone : w.service.stream = none) : Stepped w .abandon w

namespace Stream

variable {s s' : Stream} {n : Notification}

theorem push?_eq (h : s.push? n = some s') :
    s' = { s with queue := s.queue ++ if s.hasReader then [n] else [] } := by
  unfold push? at h
  cases hreader : s.hasReader with
  | false =>
    simp only [hreader, Bool.not_false, if_true, Option.some.injEq] at h
    subst h
    cases s
    simp_all
  | true =>
    simp only [hreader, Bool.not_true, Bool.false_eq_true, if_false] at h
    split at h
    · simp [← Option.some.inj h]
    · exact absurd h nofun

theorem push?_sublist (h : s.push? n = some s') : s'.queue.Sublist (s.queue ++ [n]) := by
  rw [push?_eq h]
  refine List.Sublist.append_left ?_ _
  split
  · exact List.Sublist.refl _
  · exact List.nil_sublist _

theorem push?_eq_none (h : s.push? n = none) : s.hasReader = true ∧ s.capacity ≤ s.queue.length := by
  unfold push? at h
  split at h <;> rename_i hreader
  · exact absurd h nofun
  · split at h
    · exact absurd h nofun
    · exact ⟨by simpa using hreader, by omega⟩

end Stream

namespace Service

variable {s s' : Service} {pause : Pause}

-- A notification goes into the stream, unless nobody is to be told.
theorem of_announce? (h : s.announce? pause = some s') :
    s' = s ∧ (s.manager.isOpen = true → pause.notification = none ∨ s.stream = none) ∨
      ∃ n stream stream', pause.notification = some n ∧ s.stream = some stream ∧
        s.manager.isOpen = true ∧ stream.push? n = some stream' ∧
        s' = { s with stream := some stream' } := by
  unfold announce? at h
  split at h
  · rename_i n stream hn hstream
    split at h <;> rename_i hopen
    · obtain ⟨stream', hpush, rfl⟩ := Option.map_eq_some_iff.mp h
      exact .inr ⟨n, stream, stream', hn, hstream, hopen, hpush, rfl⟩
    · exact .inl ⟨(Option.some.inj h).symm, fun hopen' => absurd hopen' hopen⟩
  · rename_i hnone
    refine .inl ⟨(Option.some.inj h).symm, fun _ => ?_⟩
    cases hn : pause.notification with
    | none => exact .inl rfl
    | some n =>
      cases hstream : s.stream with
      | none => exact .inr rfl
      | some stream => exact absurd hstream (hnone n stream hn)

theorem announce?_manager (h : s.announce? pause = some s') : s'.manager = s.manager := by
  obtain ⟨rfl, -⟩ | ⟨n, stream, stream', -, -, -, -, rfl⟩ := of_announce? h
  · rfl
  · rfl

theorem start_manager {t : Moment} (h : s.start t = .ok s') :
    s.manager.start t = .ok s'.manager := by
  unfold start at h
  cases hm : s.manager.start t with
  | error e => simp [hm, bind, Except.bind] at h
  | ok m =>
    simp only [hm, bind, Except.bind, pure, Except.pure, Except.ok.injEq] at h
    rw [← h]

theorem start_stream {t : Moment} (h : s.start t = .ok s') :
    s'.stream = some { capacity := s'.manager.config.capacity.toNat } := by
  unfold start at h
  cases hm : s.manager.start t with
  | error e => simp [hm, bind, Except.bind] at h
  | ok m =>
    simp only [hm, bind, Except.bind, pure, Except.pure, Except.ok.injEq] at h
    rw [← h]

theorem of_sendLate? {pause' : Pause} (h : s.sendLate? pause = some (s', pause')) :
    ∃ n stream stream', pause.notification = some n ∧ s.stream = some stream ∧
      s.manager.phase = .closed ∧ stream.push? n = some stream' ∧
      s' = { s with stream := some stream' } ∧ pause' = { pause with notification := none } := by
  unfold sendLate? at h
  split at h
  · rename_i n stream hn hstream
    split at h <;> rename_i hclosed
    · obtain ⟨stream', hpush, hsent⟩ := Option.map_eq_some_iff.mp h
      obtain ⟨rfl, rfl⟩ := Prod.mk.inj hsent
      exact ⟨n, stream, stream', hn, hstream, hclosed, hpush, rfl, rfl⟩
    · exact absurd h nofun
  · exact absurd h nofun

-- While nobody may be told anything there is nothing to wait for.
theorem announce?_of_shut (hshut : s.manager.isOpen = false) : s.announce? pause = some s := by
  unfold announce?
  split
  · rw [if_neg (by simp [hshut])]
  · rfl

end Service

namespace World

variable {w w' : World} {a : Act} {id : ProducerId}

-- The stream takes nothing more.
def IsFull (w : World) : Prop :=
  ∃ stream, w.service.stream = some stream ∧ stream.capacity ≤ stream.queue.length

theorem stepped (h : w.step a = some w') : Stepped w a w' := by
  cases a with
  | start =>
    simp only [step] at h
    split at h <;> rename_i hstart <;> obtain rfl := Option.some.inj h
    · exact .started hstart
    · exact .notStarted hstart
  | close =>
    obtain rfl := Option.some.inj h
    exact .closed
  | visit id v =>
    simp only [step] at h
    split at h <;> rename_i hfree
    · exact absurd h nofun
    · obtain rfl := Option.some.inj h
      refine .visited (fun hheld => hfree (.inl hheld)) fun hv => ?_
      by_cases htracked : id ∈ w.manager.trackers
      · exact htracked
      · exact absurd (.inr ⟨hv, htracked⟩) hfree
  | sendLate id =>
    simp only [step, Option.bind_eq_bind, Option.bind_eq_some_iff, Prod.exists] at h
    obtain ⟨pause, hheld, service, pause', hsend, hw⟩ := h
    obtain ⟨n, stream, stream', hn, hstream, hclosed, hpush, rfl, rfl⟩ := Service.of_sendLate? hsend
    exact Option.some.inj hw ▸ .sentLate hheld hn hstream hclosed hpush
  | settle id =>
    simp only [step, Option.bind_eq_bind, Option.bind_eq_some_iff, Prod.exists] at h
    obtain ⟨pause, hheld, service, claimed, hsettle, hw⟩ := h
    simp only [Service.settle?, Option.bind_eq_bind, Option.bind_eq_some_iff] at hsettle
    obtain ⟨announced, hannounce, hfinish⟩ := hsettle
    rw [Service.announce?_manager hannounce] at hfinish
    simp only [pure, Option.some.injEq, Prod.mk.injEq] at hfinish hw
    obtain ⟨rfl, rfl⟩ := hfinish
    exact hw ▸ .settled hheld hannounce
  | recoveryPosted c answer =>
    simp only [step] at h
    split at h <;> rename_i hout
    · obtain rfl := Option.some.inj h
      exact .recoveryPosted hout
    · exact absurd h nofun
  | requestEvent kind id event =>
    obtain rfl := Option.some.inj h
    exact .eventCalled
  | enterEvent call =>
    simp only [step] at h
    split at h <;> rename_i hcan
    · exact absurd h nofun
    · obtain rfl := Option.some.inj h
      refine .eventEntered ?_ fun hheld => hcan (.inr hheld)
      by_cases hcall : call ∈ w.eventCalls
      · exact hcall
      · exact absurd (.inl hcall) hcan
  | eventPosted r answer =>
    simp only [step] at h
    split at h <;> rename_i hout
    · exact absurd h nofun
    · obtain rfl := Option.some.inj h
      refine .eventPosted ?_ fun hfail hheld => hout (.inr ⟨hheld, hfail⟩)
      by_cases hr : r ∈ w.eventRequests
      · exact hr
      · exact absurd (.inl hr) hout
  | setEnabled id enabled =>
    obtain rfl := Option.some.inj h
    exact .enabled
  | setRecoveryFrom id recoveryFrom now =>
    obtain rfl := Option.some.inj h
    exact .anchored
  | moveClock move =>
    obtain rfl := Option.some.inj h
    exact .clockMoved
  | read count =>
    simp only [step] at h
    split at h <;> rename_i hstream <;> obtain rfl := Option.some.inj h
    · exact .unread hstream
    · exact .read hstream
  | abandon =>
    simp only [step] at h
    split at h <;> rename_i hstream <;> obtain rfl := Option.some.inj h
    · exact .notAbandoned hstream
    · exact .abandoned hstream

theorem step_visit {v : Visit} (hfree : id ∉ w.held)
    (hcheck : v = .healthCheck → id ∈ w.manager.trackers) :
    w.step (.visit id v) = some { w.withManager (w.manager.visit w.moment id v).2 with
      held := w.held.insert id (w.manager.visit w.moment id v).1 } := by
  have hcan : ¬(id ∈ w.held ∨ v = .healthCheck ∧ id ∉ w.manager.trackers) := by
    rintro (hheld | ⟨hv, huntracked⟩)
    · exact hfree hheld
    · exact huntracked (hcheck hv)
  simp only [step, hcan, if_false]

-- An accepted alive holds its producer for what it asks for.
theorem held_of_step_alive {stamp : Stamp} {subscribed : Bool}
    (h : w.step (.visit id (.alive stamp subscribed .systemAliveOnly)) = some w')
    (henabled : (w.tracked id).isEnabled = true) (hread : (w.tracked id).IsReadable)
    (hreceived : stamp.received ≠ 0) :
    ∃ pause, w'.held[id]? = some pause ∧ pause.rest ≠ .done := by
  cases stepped h with
  | visited =>
    exact ⟨_, Std.ExtTreeMap.getElem?_insert_self,
      Manager.visit_alive_rest (t := w.moment) rfl henabled hreceived hread subscribed⟩

-- Only a full stream keeps a visit from being settled.
theorem exists_step_settle {pause : Pause} (hheld : w.held[id]? = some pause) :
    (∃ w', w.step (.settle id) = some w') ∨ w.IsFull := by
  cases hannounce : w.service.announce? pause with
  | some service =>
    left
    simp [step, hheld, Service.settle?, hannounce]
  | none =>
    refine .inr ?_
    unfold Service.announce? at hannounce
    split at hannounce
    · rename_i n stream hn hstream
      split at hannounce
      · exact ⟨stream, hstream, (Stream.push?_eq_none (Option.map_eq_none_iff.mp hannounce)).2⟩
      · exact absurd hannounce nofun
    · exact absurd hannounce nofun

theorem exists_step_sendLate {pause : Pause} {n : Notification} {stream : Stream}
    (hheld : w.held[id]? = some pause) (hn : pause.notification = some n)
    (hstream : w.service.stream = some stream) (hclosed : w.manager.phase = .closed) :
    (∃ w', w.step (.sendLate id) = some w') ∨ w.IsFull := by
  have hphase : w.service.manager.phase = .closed := hclosed
  cases hpush : stream.push? n with
  | none => exact .inr ⟨stream, hstream, (Stream.push?_eq_none hpush).2⟩
  | some stream' =>
    left
    simp [step, hheld, Service.sendLate?, hn, hstream, hphase, hpush]

-- Only a request that is out is answered.
theorem mem_claims_of_posted {c : Claim} {answer : Except TransportError Unit}
    (h : w.step (.recoveryPosted c answer) = some w') : c ∈ w.claims := by
  cases stepped h with
  | recoveryPosted hout => exact hout

theorem phase_of_sendLate (h : w.step (.sendLate id) = some w') : w.manager.phase = .closed := by
  cases stepped h with
  | sentLate _ _ _ hclosed => exact hclosed

theorem getElem?_held_of_not_mem (h : id ∉ w.held) : w.held[id]? = none :=
  Std.ExtTreeMap.getElem?_eq_none h

-- A field of an entry is set by hand.
theorem tracked_written (f : Entry → Entry) (answer : Except DirectoryError Listing)
    (hanswer : ∀ l, answer = .ok l → (w.manager.directory.listing id).update f = .ok l)
    (j : ProducerId) :
    (w.withDirectory (w.manager.directory.written id answer)).tracked j = w.tracked j ∨
      (w.withDirectory (w.manager.directory.written id answer)).tracked j =
        (w.tracked j).mapEntry f := by
  cases hl : answer with
  | error e => exact .inl rfl
  | ok l =>
    have h := Manager.tracked_put (hanswer l hl) j
    split at h
    · exact .inr h
    · exact .inl h

theorem setEnabled_touched (w : World) (id : ProducerId) (enabled : Bool) (j : ProducerId) :
    (w.tracked j).Touched
      ((w.withDirectory (w.manager.directory.setEnabled id enabled)).tracked j) := by
  obtain h | h := w.tracked_written ({ · with enabled }) _ (fun _ hl => hl) j
  · exact h ▸ .refl _
  · exact h ▸ .enabled enabled

theorem of_setRecoveryFrom {l l' : Listing} {recoveryFrom now : Instant}
    (h : l.setRecoveryFrom recoveryFrom now = .ok l') :
    l.update ({ · with recoveryFrom }) = .ok l' := by
  unfold Listing.setRecoveryFrom at h
  cases hread : l.read (·.descriptor.windowMinutes) with
  | error e => simp [hread, bind, Except.bind] at h
  | ok windowMinutes =>
    simp only [hread, bind, Except.bind] at h
    split at h
    · exact absurd h nofun
    · exact h

theorem setRecoveryFrom_touched (w : World) (id : ProducerId) (recoveryFrom now : Instant)
    (j : ProducerId) :
    (w.tracked j).Touched
      ((w.withDirectory (w.manager.directory.setRecoveryFrom id recoveryFrom now)).tracked j) := by
  obtain h | h :=
    w.tracked_written ({ · with recoveryFrom }) _ (fun _ hl => of_setRecoveryFrom hl) j
  · exact h ▸ .refl _
  · exact h ▸ .anchored recoveryFrom

-- What an act does to one producer. The limit is that of a valid configuration.
theorem step_moved (hlimit : 0 ≤ w.manager.config.maxRecoveryMillis.toInt)
    (h : w.step a = some w') (id : ProducerId) : Moved id w w' a := by
  have hunheld (hvisit : ∀ v, a ≠ .visit id v) (hsettle : a ≠ .settle id)
      (hsame : w'.held[id]? = w.held[id]?) (htouched : (w.tracked id).Touched (w'.tracked id)) :
      Moved id w w' a :=
    .touched hvisit hsettle (congrArg _ hsame) htouched fun _ => hsame
  cases stepped h with
  | started hstart =>
    obtain ⟨-, -, -, -, htracked⟩ := Manager.start_manager (Service.start_manager hstart)
    exact hunheld nofun nofun rfl (.of_eq (htracked id))
  | @visited i v hfree =>
    by_cases hi : id = i
    · subst hi
      exact .visited (getElem?_held_of_not_mem hfree) (by simp) (Manager.visit_visited rfl v)
    · have hne : compare i id ≠ .eq := fun hc => hi (Std.LawfulEqOrd.eq_of_compare hc).symm
      refine hunheld (fun v hv => hi (Act.visit.inj hv).1.symm) nofun ?_ ?_
      · simp [Std.ExtTreeMap.getElem?_insert, hne]
      · exact .of_eq (w.manager.visit_tracked_ne v hi)
  | @sentLate i pause n stream stream' hheld =>
    by_cases hi : id = i
    · subst hi
      exact .touched nofun nofun (by simp [hheld]) (.refl _) fun hlate => absurd rfl hlate
    · have hne : compare i id ≠ .eq := fun hc => hi (Std.LawfulEqOrd.eq_of_compare hc).symm
      exact hunheld nofun nofun (by simp [Std.ExtTreeMap.getElem?_insert, hne]) (.refl _)
  | @settled i pause _ hheld =>
    by_cases hi : id = i
    · subst hi
      exact .settled hheld (by simp) rfl (Manager.finish_finished rfl hlimit _)
    · have hne : compare i id ≠ .eq := fun hc => hi (Std.LawfulEqOrd.eq_of_compare hc).symm
      refine hunheld nofun (fun hs => hi (Act.settle.inj hs).symm) ?_ ?_
      · simp [Std.ExtTreeMap.getElem?_erase, hne]
      · exact .of_eq (w.manager.finish_tracked_ne pause.rest hi)
  | @recoveryPosted c answer =>
    exact hunheld nofun nofun rfl (Manager.recoveryPosted_touched c answer id)
  | @eventCalled kind _ event =>
    exact hunheld nofun nofun rfl (.of_eq (Manager.callEvent_tracked kind event id))
  | @eventEntered call => exact hunheld nofun nofun rfl (Manager.enterEvent_touched call id)
  | @eventPosted r answer =>
    exact hunheld nofun nofun rfl (Manager.eventPosted_touched r answer id)
  | @enabled i enabled => exact hunheld nofun nofun rfl (w.setEnabled_touched i enabled id)
  | @anchored i recoveryFrom now =>
    exact hunheld nofun nofun rfl (w.setRecoveryFrom_touched i recoveryFrom now id)
  | notStarted => exact hunheld nofun nofun rfl (.refl _)
  | closed => exact hunheld nofun nofun rfl (.refl _)
  | clockMoved => exact hunheld nofun nofun rfl (.refl _)
  | read => exact hunheld nofun nofun rfl (.refl _)
  | abandoned => exact hunheld nofun nofun rfl (.refl _)
  | unread => exact hunheld nofun nofun rfl (.refl _)
  | notAbandoned => exact hunheld nofun nofun rfl (.refl _)

-- Only opening and closing change the phase, and nothing the configuration.
theorem step_setting (h : w.step a = some w') :
    w'.manager.config = w.manager.config ∧
      (w'.manager.phase = w.manager.phase ∨
        a = .start ∧ w.manager.phase = .created ∧ w'.manager.phase = .opened ∨
        a = .close ∧ w'.manager.phase = .closed) := by
  have hsame {m : Manager} (hm : m.config = w.manager.config ∧ m.phase = w.manager.phase)
      (hw : w'.manager = m) : w'.manager.config = w.manager.config ∧
      (w'.manager.phase = w.manager.phase ∨
        a = .start ∧ w.manager.phase = .created ∧ w'.manager.phase = .opened ∨
        a = .close ∧ w'.manager.phase = .closed) := by
    rw [hw]
    exact ⟨hm.1, .inl hm.2⟩
  cases stepped h with
  | started hstart =>
    obtain ⟨hcreated, hopened, hconfig, -, -⟩ :=
      Manager.start_manager (Service.start_manager hstart)
    exact ⟨hconfig, .inr (.inl ⟨rfl, hcreated, hopened⟩)⟩
  | closed => exact ⟨rfl, .inr (.inr ⟨rfl, rfl⟩)⟩
  | @visited id v => exact hsame (Manager.visit_setting v) rfl
  | @settled id pause => exact hsame (Manager.finish_setting pause.rest) rfl
  | @recoveryPosted c answer => exact hsame (Manager.recoveryPosted_setting c answer) rfl
  | @eventCalled kind id event =>
    exact hsame (m := (w.manager.callEvent kind id event).2) ⟨rfl, rfl⟩ rfl
  | @eventEntered call => exact hsame (Manager.enterEvent_setting call) rfl
  | @eventPosted r answer => exact hsame (Manager.eventPosted_setting r answer) rfl
  | notStarted => exact hsame ⟨rfl, rfl⟩ rfl
  | sentLate => exact hsame ⟨rfl, rfl⟩ rfl
  | enabled => exact ⟨rfl, .inl rfl⟩
  | anchored => exact ⟨rfl, .inl rfl⟩
  | clockMoved => exact hsame ⟨rfl, rfl⟩ rfl
  | read => exact hsame ⟨rfl, rfl⟩ rfl
  | abandoned => exact hsame ⟨rfl, rfl⟩ rfl
  | unread => exact hsame ⟨rfl, rfl⟩ rfl
  | notAbandoned => exact hsame ⟨rfl, rfl⟩ rfl

-- A closed manager stays closed.
theorem closed_of_step (h : w.step a = some w') (hclosed : w.manager.phase = .closed) :
    w'.manager.phase = .closed := by
  obtain ⟨-, hsame | ⟨-, hcreated, -⟩ | ⟨-, hclosed⟩⟩ := step_setting h
  · exact hsame.trans hclosed
  · exact absurd (hclosed.symm.trans hcreated) nofun
  · exact hclosed

-- Someone listens, or may do so again.
def HasReader (w : World) : Prop :=
  ∃ stream, w.service.stream = some stream ∧ stream.hasReader = true

-- The notification that the visit to a producer has still to send.
def awaited (w : World) (id : ProducerId) : List Notification :=
  (w.held[id]?.bind Pause.notification).toList

theorem awaited_of_held {pause : Pause} (h : w.held[id]? = some pause) :
    w.awaited id = pause.notification.toList := by
  rw [awaited, h, Option.bind_some]

theorem awaited_of_free (h : w.held[id]? = none) : w.awaited id = [] := by
  rw [awaited, h]
  rfl

-- What holds a producer after an act that does not visit it has held it before.
theorem held_before (h : w.step a = some w') (hvisit : ∀ v, a ≠ .visit id v) {pause : Pause}
    (hheld : w'.held[id]? = some pause) :
    ∃ before, w.held[id]? = some before ∧ before.rest = pause.rest ∧
      (before = pause ∨ w'.manager.phase = .closed ∧ pause.notification = none) := by
  have hne {i : ProducerId} (hi : i ≠ id) : compare i id ≠ .eq :=
    fun hc => hi (Std.LawfulEqOrd.eq_of_compare hc)
  cases stepped h with
  | @visited i v =>
    have hi : i ≠ id := fun hi => hvisit v (hi ▸ rfl)
    exact ⟨pause, by simpa [Std.ExtTreeMap.getElem?_insert, hne hi] using hheld, rfl, .inl rfl⟩
  | @sentLate i before n _ _ hbefore _ _ hclosed =>
    by_cases hi : i = id
    · subst hi
      obtain rfl : { before with notification := none } = pause := by simpa using hheld
      exact ⟨before, hbefore, rfl, .inr ⟨hclosed, rfl⟩⟩
    · exact ⟨pause, by simpa [Std.ExtTreeMap.getElem?_insert, hne hi] using hheld, rfl, .inl rfl⟩
  | @settled i =>
    by_cases hi : i = id
    · subst hi
      simp at hheld
    · exact ⟨pause, by simpa [Std.ExtTreeMap.getElem?_erase, hne hi] using hheld, rfl, .inl rfl⟩
  | _ => exact ⟨pause, hheld, rfl, .inl rfl⟩

-- What was late has left.
theorem of_sendLate (h : w.step (.sendLate id) = some w') :
    w'.manager.phase = .closed ∧ w'.awaited id = [] := by
  cases stepped h with
  | sentLate _ _ _ hclosed => exact ⟨hclosed, by simp [awaited]⟩

theorem mem_awaited_of_step (h : w.step a = some w') (hvisit : ∀ v, a ≠ .visit id v)
    {n : Notification} (hn : n ∈ w'.awaited id) : n ∈ w.awaited id := by
  cases hheld : w'.held[id]? with
  | none => simp [awaited_of_free hheld] at hn
  | some pause =>
    obtain ⟨before, hbefore, -, rfl | ⟨-, hnone⟩⟩ := held_before h hvisit hheld
    · rwa [awaited_of_held hbefore, ← awaited_of_held hheld]
    · simp [awaited_of_held hheld, hnone] at hn

-- What an act puts into the stream.
def delivered (w : World) : Act → List Notification
  | .settle id => if w.isOpen then w.awaited id else []
  | .sendLate id => w.awaited id
  | _ => []

theorem delivered_settle_sublist (w : World) (id : ProducerId) :
    (w.delivered (.settle id)).Sublist (w.awaited id) := by
  rw [delivered]
  split
  · exact List.Sublist.refl _
  · exact List.nil_sublist _

theorem delivered_of_shut (hshut : w.isOpen = false) (hlate : ∀ id, a ≠ .sendLate id) :
    w.delivered a = [] := by
  cases a with
  | settle id => exact if_neg (by simp [hshut])
  | sendLate id => exact absurd rfl (hlate id)
  | _ => rfl

theorem sent_of_stream {stream : Stream} (h : w.service.stream = some stream) :
    w.sent = w.heard ++ stream.queue := by
  rw [sent, queue_of_stream h]

-- To send does not bring a reader back.
theorem announce?_hasReader {service : Service} {pause : Pause} {stream : Stream}
    (h : w.service.announce? pause = some service) (hstream : service.stream = some stream)
    (hlistens : stream.hasReader = true) : w.HasReader := by
  obtain ⟨rfl, -⟩ | ⟨n, before, after, -, hbefore, -, hpush, rfl⟩ := Service.of_announce? h
  · exact ⟨stream, hstream, hlistens⟩
  · obtain rfl := Option.some.inj hstream
    obtain rfl := Stream.push?_eq hpush
    exact ⟨before, hbefore, hlistens⟩

-- Nothing else than the notification of a pause joins the stream.
theorem announce?_sent {service : Service} {pause : Pause} (hreader : w.HasReader)
    (h : w.service.announce? pause = some service) (hstream : w'.service.stream = service.stream)
    (hheard : w'.heard = w.heard) :
    w'.HasReader ∧
      w'.sent = w.sent ++ if w.isOpen then pause.notification.toList else [] := by
  obtain ⟨stream, hbefore, hlistens⟩ := hreader
  obtain ⟨rfl, hsilent⟩ | ⟨n, before, after, hn, hbefore', hopen, hpush, rfl⟩ :=
    Service.of_announce? h
  · have hnothing : (if w.isOpen then pause.notification.toList else []) = [] := by
      split <;> rename_i hopen
      · obtain hnone | hnone := hsilent hopen
        · rw [hnone]
          rfl
        · cases hbefore.symm.trans hnone
      · rfl
    refine ⟨⟨stream, hstream.trans hbefore, hlistens⟩, ?_⟩
    rw [hnothing, List.append_nil, sent_of_stream (hstream.trans hbefore), sent_of_stream hbefore,
      hheard]
  · obtain rfl := Option.some.inj (hbefore.symm.trans hbefore')
    obtain rfl := Stream.push?_eq hpush
    refine ⟨⟨_, hstream, hlistens⟩, ?_⟩
    rw [if_pos (show w.isOpen = true from hopen), hn, sent_of_stream hbefore,
      sent_of_stream hstream, hheard, if_pos hlistens]
    exact (List.append_assoc _ _ _).symm

-- Who listens after the opening has listened all along.
theorem hasReader_of_step (h : w.step a = some w') (hphase : w.manager.phase ≠ .created)
    (hreader : w'.HasReader) : w.HasReader ∧ a ≠ .abandon := by
  cases stepped h with
  | started hstart =>
    obtain ⟨hcreated, -⟩ := Manager.start_manager (Service.start_manager hstart)
    exact absurd hcreated hphase
  | sentLate _ _ hstream _ hpush =>
    obtain ⟨stream, hs, hlistens⟩ := hreader
    obtain rfl := Option.some.inj hs
    obtain rfl := Stream.push?_eq hpush
    exact ⟨⟨_, hstream, hlistens⟩, nofun⟩
  | settled hheld hannounce =>
    obtain ⟨stream, hstream, hlistens⟩ := hreader
    exact ⟨announce?_hasReader hannounce hstream hlistens, nofun⟩
  | read hstream =>
    obtain ⟨stream, hs, hlistens⟩ := hreader
    obtain rfl := Option.some.inj hs
    exact ⟨⟨_, hstream, hlistens⟩, nofun⟩
  | abandoned =>
    obtain ⟨stream, hs, hlistens⟩ := hreader
    obtain rfl := Option.some.inj hs
    exact absurd hlistens nofun
  | notAbandoned hnone =>
    obtain ⟨stream, hs, -⟩ := hreader
    exact absurd (hnone.symm.trans hs) nofun
  | _ => exact ⟨hreader, nofun⟩

-- An opened manager sends what its visits have to say, in order, and nothing else.
theorem step_sent (hreader : w.HasReader) (hphase : w.manager.phase ≠ .created)
    (hact : a ≠ .abandon) (h : w.step a = some w') :
    w'.HasReader ∧ w'.sent = w.sent ++ w.delivered a := by
  have hsame (hstream : w'.service.stream = w.service.stream) (hheard : w'.heard = w.heard)
      (hnothing : w.delivered a = []) :
      w'.HasReader ∧ w'.sent = w.sent ++ w.delivered a := by
    refine ⟨?_, ?_⟩
    · obtain ⟨stream, hs, hlistens⟩ := hreader
      exact ⟨stream, hstream.trans hs, hlistens⟩
    · simp only [sent, queue, hstream, hheard, hnothing, List.append_nil]
  cases stepped h with
  | started hstart =>
    obtain ⟨hcreated, -⟩ := Manager.start_manager (Service.start_manager hstart)
    exact absurd hcreated hphase
  | sentLate hheld hn hstream _ hpush =>
    obtain ⟨stream, hs, hlistens⟩ := hreader
    obtain rfl := Option.some.inj (hstream.symm.trans hs)
    obtain rfl := Stream.push?_eq hpush
    refine ⟨⟨_, rfl, hlistens⟩, ?_⟩
    rw [sent_of_stream hstream, sent_of_stream rfl, if_pos hlistens]
    simp only [delivered, awaited, hheld, Option.bind_some, hn, List.append_assoc,
      Option.toList_some]
  | settled hheld hannounce =>
    simp only [delivered, awaited, hheld, Option.bind_some]
    exact announce?_sent hreader hannounce rfl rfl
  | read hstream =>
    obtain ⟨stream, hs, hlistens⟩ := hreader
    obtain rfl := Option.some.inj (hstream.symm.trans hs)
    refine ⟨⟨_, rfl, hlistens⟩, ?_⟩
    rw [sent_of_stream hstream, sent_of_stream rfl]
    simp only [delivered, List.append_nil, List.append_assoc, List.take_append_drop]
  | abandoned => exact absurd rfl hact
  | notAbandoned => exact absurd rfl hact
  | notStarted => exact hsame rfl rfl rfl
  | closed => exact hsame rfl rfl rfl
  | visited => exact hsame rfl rfl rfl
  | recoveryPosted => exact hsame rfl rfl rfl
  | eventCalled => exact hsame rfl rfl rfl
  | eventEntered => exact hsame rfl rfl rfl
  | eventPosted => exact hsame rfl rfl rfl
  | enabled => exact hsame rfl rfl rfl
  | anchored => exact hsame rfl rfl rfl
  | clockMoved => exact hsame rfl rfl rfl
  | unread => exact hsame rfl rfl rfl

theorem announce?_sent_sublist {service : Service} {pause : Pause}
    (h : w.service.announce? pause = some service) (hstream : w'.service.stream = service.stream)
    (hheard : w'.heard = w.heard) :
    w'.sent.Sublist (w.sent ++ if w.isOpen then pause.notification.toList else []) := by
  obtain ⟨rfl, -⟩ | ⟨n, before, after, hn, hbefore, hopen, hpush, rfl⟩ := Service.of_announce? h
  · simp only [sent, queue, hheard, hstream]
    exact List.sublist_append_left _ _
  · rw [if_pos (show w.isOpen = true from hopen), hn, sent_of_stream hstream,
      sent_of_stream hbefore, hheard, List.append_assoc]
    exact (Stream.push?_sublist hpush).append_left _

-- Nothing else comes into the stream than what the visits have to say.
theorem step_sent_sublist (h : w.step a = some w') :
    w'.sent.Sublist (w.sent ++ w.delivered a) := by
  have hless (hheard : w'.heard = w.heard) (hqueue : w'.queue.Sublist w.queue) :
      w'.sent.Sublist (w.sent ++ w.delivered a) := by
    rw [sent, sent, hheard]
    exact (hqueue.append_left w.heard).trans (List.sublist_append_left _ _)
  cases stepped h with
  | @started service hstart =>
    have hempty : queue { w with service } = [] := queue_of_stream (Service.start_stream hstart)
    exact hless rfl (hempty ▸ List.nil_sublist _)
  | sentLate hheld hn hstream _ hpush =>
    rw [delivered, awaited_of_held hheld, hn, sent_of_stream hstream, sent_of_stream rfl,
      List.append_assoc]
    exact (Stream.push?_sublist hpush).append_left _
  | settled hheld hannounce =>
    simp only [delivered, awaited, hheld, Option.bind_some]
    exact announce?_sent_sublist hannounce rfl rfl
  | read hstream =>
    rw [sent_of_stream hstream, sent_of_stream rfl]
    simp only [delivered, List.append_nil, List.append_assoc, List.take_append_drop]
    exact List.Sublist.refl _
  | abandoned => exact hless rfl (List.nil_sublist _)
  | notAbandoned => exact hless rfl (List.Sublist.refl _)
  | notStarted => exact hless rfl (List.Sublist.refl _)
  | closed => exact hless rfl (List.Sublist.refl _)
  | visited => exact hless rfl (List.Sublist.refl _)
  | recoveryPosted => exact hless rfl (List.Sublist.refl _)
  | eventCalled => exact hless rfl (List.Sublist.refl _)
  | eventEntered => exact hless rfl (List.Sublist.refl _)
  | eventPosted => exact hless rfl (List.Sublist.refl _)
  | enabled => exact hless rfl (List.Sublist.refl _)
  | anchored => exact hless rfl (List.Sublist.refl _)
  | clockMoved => exact hless rfl (List.Sublist.refl _)
  | unread => exact hless rfl (List.Sublist.refl _)

end World

end FeedWatch
