import FeedWatch.Proofs.Opening

namespace FeedWatch

-- What can be written about a producer. With the start of recoveries goes the time of the
-- call.
inductive Write where
  | enabled (b : Bool)
  | down (b : Bool)
  | lastMessage (t : Instant)
  | lastProcessed (t : Instant)
  | lastAlive (t : Instant)
  | recoveryFrom (t now : Instant)
  | lastAttempt (a : Attempt)
  deriving DecidableEq, Repr

namespace Write

def applied : Write → Entry → Entry
  | .enabled b, e => { e with enabled := b }
  | .down b, e => { e with flaggedDown := b }
  | .lastMessage t, e => { e with lastMessage := t }
  | .lastProcessed t, e => { e with lastProcessed := t }
  | .lastAlive t, e => { e with lastAlive := t }
  | .recoveryFrom t _, e => { e with recoveryFrom := t }
  | .lastAttempt a, e => { e with lastAttempt := some a }

-- What a described producer takes. How long ago recoveries are to start is a difference of 64
-- bits.
def IsAccepted (windowMinutes : UInt32) : Write → Prop
  | .lastMessage t => t ≠ 0
  | .recoveryFrom t now => t = 0 ∨ (now - t).toInt ≤ windowMinutes.toNat * 60000
  | _ => True

def enabled? : Write → Option Bool
  | .enabled b => some b
  | _ => none

def down? : Write → Option Bool
  | .down b => some b
  | _ => none

def lastMessage? : Write → Option Instant
  | .lastMessage t => some t
  | _ => none

def lastProcessed? : Write → Option Instant
  | .lastProcessed t => some t
  | _ => none

def lastAlive? : Write → Option Instant
  | .lastAlive t => some t
  | _ => none

def recoveryFrom? : Write → Option Instant
  | .recoveryFrom t _ => some t
  | _ => none

def lastAttempt? : Write → Option Attempt
  | .lastAttempt a => some a
  | _ => none

end Write

namespace Listing

variable {l : Listing} {w : Write}

def write (l : Listing) : Write → Except DirectoryError Listing
  | .enabled b => l.setEnabled b
  | .down b => l.setDown b
  | .lastMessage t => l.setLastMessage t
  | .lastProcessed t => l.setLastProcessed t
  | .lastAlive t => l.setLastAlive t
  | .recoveryFrom t now => l.setRecoveryFrom t now
  | .lastAttempt a => l.setLastAttempt a

-- All that a write can come to.
inductive Written (l : Listing) : Write → Except DirectoryError Listing → Prop where
  | done {w : Write} {e : Entry} (he : l.entry = some e)
      (haccepted : w.IsAccepted e.descriptor.windowMinutes) :
      l.Written w (.ok { l with entry := some (w.applied e) })
  | zero : l.Written (.lastMessage 0) (.error .zeroTimestamp)
  | unknown {w : Write} (he : l.entry = none) (hzero : w ≠ .lastMessage 0) :
      l.Written w (.error (.unknownProducer l.id))
  | outside {t now : Instant} {e : Entry} (he : l.entry = some e)
      (hrefused : ¬(Write.recoveryFrom t now).IsAccepted e.descriptor.windowMinutes) :
      l.Written (.recoveryFrom t now)
        (.error (.outsideRecoveryWindow l.id t e.descriptor.windowMinutes))

theorem written_update (hupdate : l.write w = l.update w.applied) (hzero : w ≠ .lastMessage 0)
    (haccepted : ∀ e, l.entry = some e → w.IsAccepted e.descriptor.windowMinutes) :
    l.Written w (l.write w) := by
  rw [hupdate, update]
  cases he : l.entry with
  | none => exact .unknown he hzero
  | some e => exact .done he (haccepted e he)

theorem written (l : Listing) (w : Write) : l.Written w (l.write w) := by
  cases w with
  | lastMessage t =>
    by_cases hzero : t = 0
    · subst hzero
      exact .zero
    · exact written_update (if_neg hzero) (hzero ∘ Write.lastMessage.inj) fun _ _ => hzero
  | recoveryFrom t now =>
    cases he : l.entry with
    | none =>
      simp only [write, setRecoveryFrom, read, he, bind, Except.bind]
      exact .unknown he (by simp)
    | some e =>
      have haccepted : (Write.recoveryFrom t now).IsAccepted e.descriptor.windowMinutes ↔
          ¬(t ≠ 0 ∧ now.since t > e.descriptor.windowMinutes.toNat * 60000) := by
        simp only [Write.IsAccepted, Instant.since, Decidable.or_iff_not_imp_left, not_and,
          gt_iff_lt, Int.not_lt, ne_eq]
      by_cases hold : t ≠ 0 ∧ now.since t > e.descriptor.windowMinutes.toNat * 60000
      · simp only [write, setRecoveryFrom, read, he, bind, Except.bind, if_pos hold]
        exact .outside he (haccepted.not.mpr (not_not_intro hold))
      · refine written_update ?_ (by simp) fun e' he' => ?_
        · simp only [write, setRecoveryFrom, read, he, bind, Except.bind, if_neg hold]
          rfl
        · obtain rfl := Option.some.inj (he.symm.trans he')
          exact haccepted.mpr hold
  | _ => exact written_update rfl (by simp) fun _ _ => trivial

theorem write_eq_ok_iff {e : Entry} (he : l.entry = some e) :
    discard (l.write w) = .ok () ↔ w.IsAccepted e.descriptor.windowMinutes := by
  have hwritten := l.written w
  generalize l.write w = answer at hwritten ⊢
  cases hwritten with
  | done he' haccepted =>
    obtain rfl := Option.some.inj (he.symm.trans he')
    exact iff_of_true rfl haccepted
  | zero => exact iff_of_false nofun (absurd rfl)
  | unknown hnone => cases he.symm.trans hnone
  | outside he' hrefused =>
    obtain rfl := Option.some.inj (he.symm.trans he')
    exact iff_of_false nofun hrefused

theorem error_of_write {e : Entry} {err : DirectoryError} (he : l.entry = some e)
    (h : discard (l.write w) = .error err) :
    w = .lastMessage 0 ∧ err = .zeroTimestamp ∨
      ∃ t now, w = .recoveryFrom t now ∧
        err = .outsideRecoveryWindow l.id t e.descriptor.windowMinutes := by
  have hwritten := l.written w
  generalize l.write w = answer at hwritten h
  cases hwritten with
  | done => cases h
  | zero =>
    obtain rfl := Except.error.inj h
    exact .inl ⟨rfl, rfl⟩
  | unknown hnone => cases he.symm.trans hnone
  | outside he' =>
    obtain rfl := Option.some.inj (he.symm.trans he')
    obtain rfl := Except.error.inj h
    exact .inr ⟨_, _, rfl, rfl⟩

theorem write_of_none (hnone : l.entry = none) : discard (l.write w) =
    .error (if w = .lastMessage 0 then .zeroTimestamp else .unknownProducer l.id) := by
  have hwritten := l.written w
  generalize l.write w = answer at hwritten ⊢
  cases hwritten with
  | done he => cases hnone.symm.trans he
  | zero => rfl
  | unknown _ hzero =>
    rw [if_neg hzero]
    rfl
  | outside he => cases hnone.symm.trans he

end Listing

namespace Directory

-- The operations of the directory.
inductive Call where
  | producer (id : ProducerId)
  | isEnabled (id : ProducerId)
  | isDown (id : ProducerId)
  | write (id : ProducerId) (w : Write)
  | available
  | active
  | activeInScope (scope : Scope)
  deriving DecidableEq, Repr

-- Whether a call succeeds, and else its error.
def outcome (d : Directory) : Call → Except DirectoryError Unit
  | .producer id => discard (d.listing id).producer
  | .isEnabled id => discard (d.listing id).isEnabled
  | .isDown id => discard (d.listing id).isDown
  | .write id w => discard ((d.listing id).write w)
  | .available => discard d.available
  | .active => discard d.active
  | .activeInScope scope => discard (d.activeInScope scope)

def after (d : Directory) : Call → Directory
  | .write id w => d.written id ((d.listing id).write w)
  | _ => d

-- The last call stands first.
def play (d : Directory) : List Call → Directory
  | [] => d
  | c :: past => (d.play past).after c

def succeeded (d : Directory) : List Call → List Call
  | [] => []
  | c :: past =>
    if ((d.play past).outcome c).isOk then c :: d.succeeded past else d.succeeded past

-- What a call writes to one field of one producer.
def Call.value? {α : Type} (id : ProducerId) (field? : Write → Option α) : Call → Option α
  | .write j w => if j = id then field? w else none
  | _ => none

def lastWritten {α : Type} (d : Directory) (past : List Call) (id : ProducerId)
    (field? : Write → Option α) : Option α :=
  (d.succeeded past).findSome? (·.value? id field?)

-- An entry with all that was written to it last.
def lastEntry (d : Directory) (past : List Call) (id : ProducerId) (e : Entry) : Entry where
  descriptor := e.descriptor
  enabled := (d.lastWritten past id Write.enabled?).getD e.enabled
  flaggedDown := (d.lastWritten past id Write.down?).getD e.flaggedDown
  lastMessage := (d.lastWritten past id Write.lastMessage?).getD e.lastMessage
  lastProcessed := (d.lastWritten past id Write.lastProcessed?).getD e.lastProcessed
  lastAlive := (d.lastWritten past id Write.lastAlive?).getD e.lastAlive
  recoveryFrom := (d.lastWritten past id Write.recoveryFrom?).getD e.recoveryFrom
  lastAttempt := (d.lastWritten past id Write.lastAttempt?).or e.lastAttempt

variable {d : Directory} {c : Call} {past : List Call} {id : ProducerId}

-- A call succeeds as a write to an entry that is there, or it leaves all as it is.
theorem after_cases (d : Directory) (c : Call) :
    (∃ id w e, c = .write id w ∧ (d.outcome c).isOk = true ∧ d.entries[id]? = some e ∧
      d.after c = { d with entries := d.entries.insert id (w.applied e) }) ∨
    d.after c = d ∧ ((d.outcome c).isOk = true → ∀ id w, c ≠ .write id w) := by
  cases c with
  | write id w =>
    simp only [outcome, after]
    generalize hanswer : (d.listing id).write w = answer
    have hwritten : (d.listing id).Written w answer := hanswer ▸ (d.listing id).written w
    cases hwritten with
    | done he => exact .inl ⟨id, w, _, rfl, rfl, he, rfl⟩
    | zero => exact .inr ⟨rfl, nofun⟩
    | unknown => exact .inr ⟨rfl, nofun⟩
    | outside => exact .inr ⟨rfl, nofun⟩
  | _ => exact .inr ⟨rfl, fun _ => nofun⟩

theorem after_of_error {e : DirectoryError} (h : d.outcome c = .error e) : d.after c = d := by
  obtain ⟨id, w, e, -, hok, -⟩ | ⟨hsame, -⟩ := d.after_cases c
  · simp [h, Except.isOk, Except.toBool] at hok
  · exact hsame

-- The calls that failed might as well not have been made.
theorem play_succeeded (d : Directory) (past : List Call) :
    d.play (d.succeeded past) = d.play past := by
  induction past with
  | nil => rfl
  | cons c past ih =>
    rw [succeeded, play]
    cases hc : (d.play past).outcome c with
    | ok u => simp only [Except.isOk, Except.toBool, if_true, play, ih]
    | error e => simp [Except.isOk, Except.toBool, ih, after_of_error hc]

theorem lastWritten_cons {α : Type} {field? : Write → Option α} :
    d.lastWritten (c :: past) id field? =
      if ((d.play past).outcome c).isOk then (c.value? id field?).or (d.lastWritten past id field?)
      else d.lastWritten past id field? := by
  unfold lastWritten
  rw [succeeded]
  split
  · rw [List.findSome?_cons]
    cases c.value? id field? <;> rfl
  · rfl

-- A call that fails or is about something else does not count.
theorem lastEntry_cons_of_same
    (h : ((d.play past).outcome c).isOk = true → ∀ w, c ≠ .write id w) :
    d.lastEntry (c :: past) id = d.lastEntry past id := by
  have hlast {α : Type} (field? : Write → Option α) :
      d.lastWritten (c :: past) id field? = d.lastWritten past id field? := by
    rw [lastWritten_cons]
    split <;> rename_i hok
    · have hnone : c.value? id field? = none := by
        cases c with
        | write j w =>
          have hj : j ≠ id := fun hj => h hok w (congrArg (Call.write · w) hj)
          exact if_neg hj
        | _ => rfl
      rw [hnone, Option.none_or]
    · rfl
  funext e
  simp only [lastEntry, hlast]

theorem lastEntry_cons_write {w : Write} {e : Entry}
    (h : ((d.play past).outcome (.write id w)).isOk = true) :
    d.lastEntry (.write id w :: past) id e = w.applied (d.lastEntry past id e) := by
  simp only [lastEntry, lastWritten_cons, h, if_true, Call.value?]
  cases w <;> rfl

-- What is held about a producer is what was written to it last. By induction on the calls: each
-- brings one write to one entry, or nothing.
theorem entries_play (d : Directory) (past : List Call) (id : ProducerId) :
    (d.play past).entries[id]? = d.entries[id]?.map (d.lastEntry past id) := by
  induction past with
  | nil =>
    have hsame : d.lastEntry [] id = fun e => e := rfl
    rw [hsame, Option.map_id']
    rfl
  | cons c past ih =>
    rw [play]
    obtain ⟨j, w, e, rfl, hok, he, hafter⟩ | ⟨hafter, hwrite⟩ := (d.play past).after_cases c
    · rw [hafter, Std.ExtTreeMap.getElem?_insert]
      simp only [Std.compare_eq_iff_eq]
      split <;> rename_i hj
      · subst hj
        rw [ih] at he
        obtain ⟨e₀, he₀, rfl⟩ := Option.map_eq_some_iff.mp he
        rw [he₀, Option.map_some, lastEntry_cons_write hok]
      · rw [ih, lastEntry_cons_of_same fun _ w' hw => hj (Call.write.inj hw).1]
    · rw [hafter, ih, lastEntry_cons_of_same fun hok w => hwrite hok id w]

theorem fallback_play (d : Directory) (past : List Call) : (d.play past).fallback = d.fallback := by
  induction past with
  | nil => rfl
  | cons c past ih =>
    rw [play]
    obtain ⟨id, w, e, -, -, -, hafter⟩ | ⟨hafter, -⟩ := (d.play past).after_cases c
    · rw [hafter, ← ih]
    · rw [hafter, ih]

-- What the feed said of a producer, with all that was written last.
def lastRecord (start : Directory) (past : List Call) (d : Descriptor) (scopes : List Scope) :
    Producer where
  id := d.id
  name := d.name
  description := d.description
  apiEndpoint := d.apiEndpoint
  active := d.active
  enabled := (start.lastWritten past d.id Write.enabled?).getD d.active
  flaggedDown := (start.lastWritten past d.id Write.down?).getD true
  scopes := scopes
  windowMinutes := d.windowMinutes
  lastMessage := (start.lastWritten past d.id Write.lastMessage?).getD 0
  lastProcessed := (start.lastWritten past d.id Write.lastProcessed?).getD 0
  lastAlive := (start.lastWritten past d.id Write.lastAlive?).getD 0
  recoveryFrom := (start.lastWritten past d.id Write.recoveryFrom?).getD 0
  lastAttempt := start.lastWritten past d.id Write.lastAttempt?

theorem producer_lastEntry (start : Directory) (past : List Call) (d : Descriptor) :
    (start.lastEntry past d.id (.ofDescriptor d)).producer =
      match d.scopes with
      | .ok scopes => .ok (start.lastRecord past d scopes)
      | .error source => .error (.unknownScope d.id source) := by
  simp only [Entry.producer, lastEntry, Entry.ofDescriptor, lastRecord, Option.or_none]
  cases d.scopes <;> rfl

theorem producer_lastEntry_eq_ok_iff {start : Directory} {d : Descriptor} {p : Producer} :
    (start.lastEntry past d.id (.ofDescriptor d)).producer = .ok p ↔
      ∃ scopes, d.scopes = .ok scopes ∧ p = start.lastRecord past d scopes := by
  rw [producer_lastEntry]
  cases d.scopes with
  | ok scopes => simp [eq_comm]
  | error source => simp

section Listings

variable {keep : Entry → Bool} {listed : List (ProducerId × Producer)}

theorem map_of_mapM {α β ε : Type} {f : α → Except ε β} {l : List α} {results : List β}
    (h : l.mapM f = .ok results) : l.map f = results.map .ok := by
  induction l generalizing results with
  | nil =>
    obtain rfl := Except.ok.inj h
    rfl
  | cons a l ih =>
    rw [List.mapM_cons] at h
    cases ha : f a with
    | error e =>
      rw [ha] at h
      cases h
    | ok b =>
      cases hl : l.mapM f with
      | error e =>
        rw [ha, hl] at h
        cases h
      | ok rest =>
        rw [ha, hl] at h
        obtain rfl := Except.ok.inj h
        rw [List.map_cons, List.map_cons, ha, ih hl]

theorem map_of_producers (h : d.producers keep = .ok listed) :
    (d.entries.toList.filter fun x => keep x.2).map (fun x => x.2.producer.map (x.1, ·)) =
      listed.map .ok :=
  map_of_mapM h

theorem key_of_map {e : Entry} {x : ProducerId × Producer}
    (h : e.producer.map (id, ·) = .ok x) : x.1 = id ∧ e.producer = .ok x.2 := by
  cases hp : e.producer with
  | error err =>
    rw [hp] at h
    cases h
  | ok p =>
    rw [hp] at h
    obtain rfl := Except.ok.inj h
    exact ⟨rfl, rfl⟩

theorem mem_of_producers {p : Producer} (h : d.producers keep = .ok listed) :
    (id, p) ∈ listed ↔ ∃ e, d.entries[id]? = some e ∧ keep e = true ∧ e.producer = .ok p := by
  have hmem : (id, p) ∈ listed ↔
      (.ok (id, p) : Except DirectoryError (ProducerId × Producer)) ∈ listed.map .ok := by
    simp
  rw [hmem, ← map_of_producers h]
  simp only [List.mem_map, List.mem_filter, Prod.exists,
    Std.ExtTreeMap.mem_toList_iff_getElem?_eq_some]
  constructor
  · rintro ⟨j, e, ⟨he, hkeep⟩, hx⟩
    obtain ⟨rfl, hp⟩ := key_of_map hx
    exact ⟨e, he, hkeep, hp⟩
  · rintro ⟨e, he, hkeep, hp⟩
    exact ⟨id, e, ⟨he, hkeep⟩, by rw [hp]; rfl⟩

-- The entries lie in the order of their ids, and so do their records.
theorem ascending_of_producers (h : d.producers keep = .ok listed) :
    listed.Pairwise fun x y => x.1.value < y.1.value := by
  have hentries : d.entries.toList.Pairwise fun x y => x.1.value < y.1.value := by
    refine d.entries.ordered_keys_toList.imp fun {x y} hlt => ?_
    have hlt : compare x.1.value y.1.value = .lt := hlt
    exact Std.compare_eq_lt.mp hlt
  have hanswers : List.Pairwise
      (fun a b : Except DirectoryError (ProducerId × Producer) =>
        ∀ x y, a = .ok x → b = .ok y → x.1.value < y.1.value) (listed.map .ok) := by
    rw [← map_of_producers h, List.pairwise_map]
    refine (hentries.filter _).imp fun hlt x y hx hy => ?_
    rw [(key_of_map hx).1, (key_of_map hy).1]
    exact hlt
  exact (List.pairwise_map.mp hanswers).imp fun hlt => hlt _ _ rfl rfl

theorem activeInScope_eq (d : Directory) (scope : Scope) :
    d.activeInScope scope = d.active.map (·.filter fun x => x.2.serves scope) := by
  rw [activeInScope]
  cases d.active <;> rfl

end Listings

-- What a listing of some of the described producers has to be.
structure Lists (descriptors : List Descriptor) (record : Descriptor → List Scope → Producer)
    (concerns : Descriptor → Prop) (shown : Producer → Prop)
    (answer : Except DirectoryError (List (ProducerId × Producer))) : Prop where
  succeeds_iff : (∃ listed, answer = .ok listed) ↔
    ∀ d, Counts descriptors d → concerns d → ∃ scopes, d.scopes = .ok scopes
  error (e : DirectoryError) : answer = .error e →
    ∃ d source, Counts descriptors d ∧ concerns d ∧ d.scopes = .error source ∧
      e = .unknownScope d.id source
  ascending (listed : List (ProducerId × Producer)) : answer = .ok listed →
    listed.Pairwise fun x y => x.1.value < y.1.value
  mem_iff (listed : List (ProducerId × Producer)) : answer = .ok listed → ∀ id p,
    (id, p) ∈ listed ↔ ∃ d scopes, Counts descriptors d ∧ concerns d ∧ d.scopes = .ok scopes ∧
      id = d.id ∧ p = record d scopes ∧ shown p

section Histories

variable {descriptors : List Descriptor} {fallback : String}

-- What the directory holds was described, and carries what was written last.
theorem getElem?_play {e : Entry} :
    ((ofDescriptors descriptors fallback).play past).entries[id]? = some e ↔
      ∃ d, Counts descriptors d ∧ d.id = id ∧
        e = (ofDescriptors descriptors fallback).lastEntry past d.id (.ofDescriptor d) := by
  rw [entries_play, Option.map_eq_some_iff]
  constructor
  · rintro ⟨e₀, he₀, rfl⟩
    obtain ⟨d, hcounts, rfl, rfl⟩ := getElem?_ofDescriptors.mp he₀
    exact ⟨d, hcounts, rfl, rfl⟩
  · rintro ⟨d, hcounts, rfl, rfl⟩
    exact ⟨_, getElem?_ofDescriptors.mpr ⟨d, hcounts, rfl, rfl⟩, rfl⟩

theorem entry_listing_play {d : Descriptor} (h : Counts descriptors d) :
    (((ofDescriptors descriptors fallback).play past).listing d.id).entry =
      some ((ofDescriptors descriptors fallback).lastEntry past d.id (.ofDescriptor d)) :=
  getElem?_play.mpr ⟨d, h, rfl, rfl⟩

theorem producer_listing_play {d : Descriptor} (h : Counts descriptors d) :
    (((ofDescriptors descriptors fallback).play past).listing d.id).producer =
      ((ofDescriptors descriptors fallback).lastEntry past d.id (.ofDescriptor d)).producer := by
  rw [Listing.producer, entry_listing_play h]

theorem getElem?_play_of_undescribed (hid : ∀ d ∈ descriptors, d.id ≠ id) :
    ((ofDescriptors descriptors fallback).play past).entries[id]? = none := by
  cases he : ((ofDescriptors descriptors fallback).play past).entries[id]? with
  | none => rfl
  | some e =>
    obtain ⟨d, ⟨before, after, rfl, -⟩, hd, -⟩ := getElem?_play.mp he
    exact absurd hd (hid d (List.mem_append_right _ List.mem_cons_self))

theorem producers_lists {keep : Entry → Bool} {concerns : Descriptor → Prop}
    (hkeep : ∀ e, keep e = true ↔ concerns e.descriptor) :
    Lists descriptors ((ofDescriptors descriptors fallback).lastRecord past) concerns
      (fun _ => True) (((ofDescriptors descriptors fallback).play past).producers keep) := by
  have hkept (d : Descriptor) (hconcerns : concerns d) : keep
      ((ofDescriptors descriptors fallback).lastEntry past d.id (.ofDescriptor d)) = true :=
    (hkeep _).mpr hconcerns
  obtain ⟨listed, hok, hlisted⟩ | ⟨id, e, source, he, hkeep', hscopes, hfail⟩ :=
    ((ofDescriptors descriptors fallback).play past).producers_cases keep
  · rw [hok]
    refine ⟨iff_of_true ⟨listed, rfl⟩ fun d hcounts hconcerns => ?_, nofun, ?_, ?_⟩
    · exact (hlisted d.id _ (getElem?_play.mpr ⟨d, hcounts, rfl, rfl⟩) (hkept d hconcerns)).2
    · intro listed' hlisted'
      obtain rfl := Except.ok.inj hlisted'
      exact ascending_of_producers hok
    · intro listed' hlisted' id p
      obtain rfl := Except.ok.inj hlisted'
      rw [mem_of_producers hok]
      constructor
      · rintro ⟨e, he, hkept, hp⟩
        obtain ⟨d, hcounts, rfl, rfl⟩ := getElem?_play.mp he
        obtain ⟨scopes, hscopes, rfl⟩ := producer_lastEntry_eq_ok_iff.mp hp
        exact ⟨d, scopes, hcounts, (hkeep _).mp hkept, hscopes, rfl, rfl, trivial⟩
      · rintro ⟨d, scopes, hcounts, hconcerns, hscopes, rfl, rfl, -⟩
        exact ⟨_, getElem?_play.mpr ⟨d, hcounts, rfl, rfl⟩, hkept d hconcerns,
          producer_lastEntry_eq_ok_iff.mpr ⟨scopes, hscopes, rfl⟩⟩
  · rw [hfail]
    obtain ⟨d, hcounts, rfl, rfl⟩ := getElem?_play.mp he
    have hconcerns : concerns d := (hkeep _).mp hkeep'
    refine ⟨iff_of_false nofun fun hall => ?_, ?_, nofun, nofun⟩
    · obtain ⟨scopes, hok⟩ := hall d hcounts hconcerns
      cases hscopes.symm.trans hok
    · rintro - ⟨rfl⟩
      exact ⟨d, source, hcounts, hconcerns, hscopes, rfl⟩

-- Those of them that are shown.
theorem Lists.filter {record : Descriptor → List Scope → Producer} {concerns : Descriptor → Prop}
    {answer : Except DirectoryError (List (ProducerId × Producer))} (shows : Producer → Bool)
    (h : Lists descriptors record concerns (fun _ => True) answer) :
    Lists descriptors record concerns (fun p => shows p = true)
      (answer.map (·.filter fun x => shows x.2)) := by
  cases answer with
  | error e => exact ⟨h.succeeds_iff, h.error, nofun, nofun⟩
  | ok listed =>
    refine ⟨iff_of_true ⟨_, rfl⟩ (h.succeeds_iff.mp ⟨listed, rfl⟩), nofun, ?_, ?_⟩
    · rintro - ⟨rfl⟩
      exact (h.ascending listed rfl).filter _
    · rintro - ⟨rfl⟩ id p
      rw [List.mem_filter, h.mem_iff listed rfl id p]
      constructor
      · rintro ⟨⟨d, scopes, hcounts, hconcerns, hscopes, hid, hp, -⟩, hshown⟩
        exact ⟨d, scopes, hcounts, hconcerns, hscopes, hid, hp, hshown⟩
      · rintro ⟨d, scopes, hcounts, hconcerns, hscopes, hid, hp, hshown⟩
        exact ⟨⟨d, scopes, hcounts, hconcerns, hscopes, hid, hp, trivial⟩, hshown⟩

end Histories

-- All that the operations of the directory do after any history of calls.
structure KeepsLastWrites (descriptors : List Descriptor) (fallback : String) (past : List Call)
    (start now : Directory) : Prop where
  producer (d : Descriptor) (scopes : List Scope) : Counts descriptors d →
    d.scopes = .ok scopes → (now.listing d.id).producer = .ok (start.lastRecord past d scopes)
  unreadable (d : Descriptor) (source : ParseError) : Counts descriptors d →
    d.scopes = .error source →
      (now.listing d.id).producer = .error (.unknownScope d.id source)
  -- the flags can be read also where the scopes cannot, and writes do not need them either
  isEnabled (d : Descriptor) : Counts descriptors d →
    (now.listing d.id).isEnabled =
      .ok ((start.lastWritten past d.id Write.enabled?).getD d.active)
  isDown (d : Descriptor) : Counts descriptors d →
    (now.listing d.id).isDown = .ok ((start.lastWritten past d.id Write.down?).getD true)
  accepts_iff (d : Descriptor) (w : Write) : Counts descriptors d →
    (now.outcome (.write d.id w) = .ok () ↔ w.IsAccepted d.windowMinutes)
  -- in numbers of any size, unless the difference does not fit
  accepts_start_iff (d : Descriptor) (t clock : Instant) : Counts descriptors d →
    clock.IsExact t → (now.outcome (.write d.id (.recoveryFrom t clock)) = .ok () ↔
      t = 0 ∨ clock.toInt - t.toInt ≤ d.windowMinutes.toNat * 60000)
  refused (d : Descriptor) (w : Write) (e : DirectoryError) : Counts descriptors d →
    now.outcome (.write d.id w) = .error e →
      w = .lastMessage 0 ∧ e = .zeroTimestamp ∨
        ∃ t clock, w = .recoveryFrom t clock ∧
          e = .outsideRecoveryWindow d.id t d.windowMinutes
  -- an id that the feed did not describe
  unknown (id : ProducerId) : (∀ d ∈ descriptors, d.id ≠ id) →
    (now.listing id).entry = none ∧
    (now.listing id).producer = .ok (Producer.unknown id fallback) ∧
    (now.listing id).isEnabled = .error (.unknownProducer id) ∧
    (now.listing id).isDown = .error (.unknownProducer id) ∧
    ∀ w, now.outcome (.write id w) =
      .error (if w = .lastMessage 0 then .zeroTimestamp else .unknownProducer id)
  failed (c : Call) (e : DirectoryError) : now.outcome c = .error e → now.after c = now
  succeeded : start.play (start.succeeded past) = now
  available : Lists descriptors (start.lastRecord past) (fun _ => True) (fun _ => True)
    now.available
  active : Lists descriptors (start.lastRecord past) (·.active = true) (fun _ => True)
    now.active
  activeInScope (scope : Scope) : Lists descriptors (start.lastRecord past) (·.active = true)
    (scope ∈ ·.scopes) (now.activeInScope scope)

end Directory

end FeedWatch
